import RecordBase.Bytes.Utf8

/-!
# Paths

A path leads to a file or a directory, one step after another. The texts between its slashes are
its steps; a slash at the end is a step as well, since only a directory may stand before it.
-/

namespace RecordBase.Files

/-- Why the system does not follow a path, or does not open what is there. -/
inductive Refusal where
  /-- There is nothing at the end of the path, or on the way. -/
  | missing
  /-- A step leads on from a file. -/
  | notADirectory
  /-- A directory is to be opened as a file. -/
  | isADirectory
  /-- A directory is to be made where a file is. -/
  | occupied
  /-- A name, or the path itself, is longer than the system allows. -/
  | nameTooLong
  /-- The path has a NUL in it, which no name has. -/
  | nulInName
  deriving DecidableEq, Repr

/-- The wording of a refusal. -/
def Refusal.message : Refusal → String
  | missing => "No such file or directory (os error 2)"
  | notADirectory => "Not a directory (os error 20)"
  | isADirectory => "Is a directory (os error 21)"
  | occupied => "File exists (os error 17)"
  | nameTooLong => "File name too long (os error 36)"
  | nulInName => "file name contained an unexpected NUL byte"

/-- A step on the way along a path. -/
inductive Step where
  /-- A slash after another one, or at either end: stays in a directory. -/
  | slash
  /-- A dot: stays in a directory. -/
  | here
  /-- Two dots: leaves a directory for the one around it. -/
  | up
  /-- Goes to what has a name in a directory. -/
  | down (name : String)
  deriving DecidableEq, Repr

namespace Step

/-- The step for a text between slashes. -/
def ofText (text : String) : Step :=
  if text.isEmpty then .slash
  else if text == "." then .here
  else if text == ".." then .up
  else .down text

/-- Whether a step stays in its directory. -/
def stays : Step → Bool
  | slash | here => true
  | up | down _ => false

end Step

/-- The parts of some characters between the slashes in them. -/
def splitSlashes : List Char → List (List Char)
  | [] => [[]]
  | c :: rest =>
    if c = '/' then [] :: splitSlashes rest
    else
      match splitSlashes rest with
      | first :: others => (c :: first) :: others
      | [] => [[c]]

theorem splitSlashes_ne_nil (chars : List Char) : splitSlashes chars ≠ [] := by
  cases chars with
  | nil => simp [splitSlashes]
  | cons c rest =>
    simp only [splitSlashes]
    split
    · simp
    · split <;> simp

/-- The steps from the outermost directory on. -/
abbrev Path := List Step

namespace Path

/-- The steps that a text spells. -/
def ofText (text : String) : Path :=
  (splitSlashes text.toList).map fun part => Step.ofText (String.ofList part)

/-- The greatest length of the text of a path, in bytes. -/
def longestText : Nat := 4095

/-- The steps that a text spells, unless the system takes no such text. -/
def parse (text : String) : Except Refusal Path :=
  if text.toList.contains (Char.ofNat 0) then .error .nulInName
  else if longestText < (Bytes.ofText text).length then .error .nameTooLong
  else .ok (ofText text)

/-- The text of the path to something from a directory; a name that starts with a slash is a path
by itself. -/
def join (directory name : String) : String :=
  if name.toList.head? = some '/' then name
  else if directory.isEmpty || directory.toList.getLast? = some '/' then directory ++ name
  else directory ++ "/" ++ name

/-- How many of the steps may make the directory that they lead to. All do, but if there is a dot
at the end, what is before it has to be there. -/
def makingLength (path : Path) : Nat :=
  let stays := path.reverse.takeWhile Step.stays
  if stays.contains .here then path.length - stays.length - 1 else path.length

end Path

end RecordBase.Files
