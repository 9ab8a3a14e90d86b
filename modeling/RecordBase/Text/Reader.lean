/-!
# Reading texts

A reader takes what it wants from the front of some characters and leaves the rest. There is one
way to fail.
-/

namespace RecordBase.Text

/-- Reads something from the front of some characters. -/
abbrev Reader := StateT (List Char) Option

namespace Reader

/-- Takes a character. -/
def next : Reader Char := fun
  | c :: rest => some (c, rest)
  | [] => none

/-- Takes a character if it is the given one. -/
def accept (c : Char) : Reader Bool := fun
  | d :: rest => some (if d = c then (true, rest) else (false, d :: rest))
  | [] => some (false, [])

/-- Takes the given character. -/
def expect (c : Char) : Reader Unit := do
  if ← accept c then return () else failure

/-- Takes the given characters. -/
def expectAll : List Char → Reader Unit
  | [] => return ()
  | c :: rest => do
    expect c
    expectAll rest

/-- What a reader makes of a whole text. -/
def readAll? {α : Type} (reader : Reader α) (text : String) : Option α :=
  match reader text.toList with
  | some (value, []) => some value
  | _ => none

end Reader

end RecordBase.Text
