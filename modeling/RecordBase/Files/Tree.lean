import RecordBase.Files.Path
import RecordBase.Table

/-!
# Trees of files

Directories, and files in them. What stands at a place stays there, so a place is as good as what
stands at it; different paths may lead to one place.
-/

namespace RecordBase.Files

/-- Where something stands: the names on the way to it, the innermost first. -/
abbrev Place := List String

/-- What stands at a place. -/
inductive Node where
  | directory
  | file (bytes : Bytes)
  deriving DecidableEq, Repr

/-- A tree of files. -/
structure Tree where
  /-- What stands at each place. The outermost directory stands at the empty one. -/
  nodes : Table Place Node := Table.empty.insert [] .directory

namespace Tree

/-- What stands at a place. -/
def at? (tree : Tree) (place : Place) : Option Node := tree.nodes.get? place

/-- Whether a directory stands at a place. -/
def isDirectory (tree : Tree) (place : Place) : Bool :=
  match tree.at? place with
  | some .directory => true
  | _ => false

/-- The bytes of the file at a place. -/
def file? (tree : Tree) (place : Place) : Option Bytes :=
  match tree.at? place with
  | some (.file bytes) => some bytes
  | _ => none

/-- The greatest length of a name in a directory, in bytes. -/
def longestName : Nat := 255

/-- Whether a directory can hold something under a name. -/
def isName (name : String) : Bool := (Bytes.ofText name).length ≤ longestName

/-! ## Paths -/

/-- Where a name leads from a directory. -/
def enter (tree : Tree) (place : Place) (name : String) : Except Refusal Place :=
  if !isName name then .error .nameTooLong
  else if (tree.at? (name :: place)).isNone then .error .missing
  else .ok (name :: place)

/-- Where a step leads from a place. -/
def step (tree : Tree) (place : Place) (step : Step) : Except Refusal Place :=
  if tree.isDirectory place then
    match step with
    | .slash | .here => .ok place
    | .up => .ok place.tail
    | .down name => tree.enter place name
  else .error .notADirectory

/-- Where steps lead from a place. -/
def follow (tree : Tree) (place : Place) (path : Path) : Except Refusal Place :=
  path.foldlM tree.step place

/-! ## Directories -/

/-- Makes a directory at a place in another one, unless something stands there. -/
def makeDirectory (tree : Tree) : Place → Tree
  | [] => tree
  | name :: around =>
    if tree.isDirectory around && isName name && (tree.at? (name :: around)).isNone then
      ⟨tree.nodes.insert (name :: around) .directory⟩
    else tree

/-- Makes the directory to which a step leads from a place. -/
def makeStep (tree : Tree) (place : Place) : Step → Tree
  | .down name => tree.makeDirectory (name :: place)
  | _ => tree

/-- Follows steps from a place and makes the directories that are missing. Those that are made stay
even if a step further on is refused. -/
def makeAlong (tree : Tree) (place : Place) : Path → Except Refusal Place × Tree
  | [] => (.ok place, tree)
  | step :: rest =>
    let tree := tree.makeStep place step
    match tree.step place step with
    | .ok next => makeAlong tree next rest
    | .error refusal => (.error refusal, tree)

/-- Follows a path to a directory and makes the directories that are missing along it. -/
def provide (tree : Tree) (path : Path) : Except Refusal Place × Tree :=
  let count := path.makingLength
  let (result, tree) := tree.makeAlong [] (path.take count)
  (do
    let place ← tree.follow (← result) (path.drop count)
    if tree.isDirectory place then return place else .error .occupied, tree)

/-! ## Files -/

/-- Writes the file at a place in a directory; it may be a new one. A directory is left alone. -/
def writeFile (tree : Tree) (bytes : Bytes) : Place → Tree
  | [] => tree
  | name :: around =>
    if tree.isDirectory around && isName name && !tree.isDirectory (name :: around) then
      ⟨tree.nodes.insert (name :: around) (.file bytes)⟩
    else tree

/-- Opens the file at a place in a directory; one that is missing is made and is empty. -/
def openFile (tree : Tree) (place : Place) : Except Refusal Bytes × Tree :=
  if tree.isDirectory place then (.error .isADirectory, tree)
  else
    match tree.file? place with
    | some bytes => (.ok bytes, tree)
    | none => (.ok [], tree.writeFile [] place)

/-- Writes the file to which a path leads. -/
def writeAlong (tree : Tree) (path : Path) (bytes : Bytes) : Tree :=
  match path.getLast?, tree.follow [] path.dropLast with
  | some (.down name), .ok around => tree.writeFile bytes (name :: around)
  | _, _ => tree

end Tree

end RecordBase.Files
