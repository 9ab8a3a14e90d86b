import RecordBase.Json.Value
import RecordBase.Text.Numeral
import RecordBase.Text.Reader

/-!
# Reading JSON

The value that a text is written for, if it is the text of one.
-/

namespace RecordBase.Json

open Text (Reader)
open Text.Reader (next accept expect expectAll)

variable {α : Type}

/-- Whether a character may stand between the parts of a text. -/
def isSpace (c : Char) : Bool := c = ' ' || c = '\n' || c = '\t' || c = '\r'

/-- Passes over what may stand between the parts of a text. -/
def spaces : Reader Unit := fun chars => some ((), chars.dropWhile isSpace)

/-! ## Numbers -/

/-- Takes digits as far as they go. -/
def digits : Reader (List Char) := fun chars =>
  some (chars.takeWhile Char.isDigit, chars.dropWhile Char.isDigit)

/-- Takes at least one digit. -/
def someDigits : Reader Unit := do
  if (← digits).isEmpty then failure else return ()

/-- Takes the digits before the point: zero alone, or digits that do not start with zero. -/
def wholeDigits : Reader (List Char) := do
  match ← digits with
  | [] => failure
  | '0' :: _ :: _ => failure
  | digits => return digits

/-- Takes a point and the digits after it, if there is a point. -/
def fraction : Reader Bool := do
  if ← accept '.' then
    someDigits
    return true
  else return false

/-- Takes the sign of an exponent, if there is one. -/
def exponentSign : Reader Unit := do
  if ← accept '+' then return () else let _ ← accept '-'

/-- Takes the letter of an exponent, if there is one. -/
def exponentMark : Reader Bool := do
  if ← accept 'e' then return true else accept 'E'

/-- Takes an exponent, if there is one. -/
def exponent : Reader Bool := do
  if ← exponentMark then
    exponentSign
    someDigits
    return true
  else return false

/-- Takes a number. -/
def number : Reader JsonValue := do
  let negative ← accept '-'
  let whole ← wholeDigits
  let fractional ← fraction
  let scaled ← exponent
  return .number (if negative || fractional || scaled then none else Numeral.digits? whole)

/-! ## Strings -/

/-- A part of a string: a character, or an escaped unit of 16 bits. -/
inductive Piece where
  | char (c : Char)
  | unit (code : Nat)

/-- The character that a letter stands for after a backslash. -/
def escaped? : Char → Option Char
  | '"' => some '"'
  | '\\' => some '\\'
  | '/' => some '/'
  | 'b' => some '\x08'
  | 'f' => some '\x0c'
  | 'n' => some '\n'
  | 'r' => some '\r'
  | 't' => some '\t'
  | _ => none

/-- The unit with four hexadecimal digits. -/
def unit? (a b c d : Char) : Option Nat := do
  let high := 16 * (← Numeral.hexDigit? a) + (← Numeral.hexDigit? b)
  let low := 16 * (← Numeral.hexDigit? c) + (← Numeral.hexDigit? d)
  return 256 * high + low

/-- Takes the pieces of a string up to its closing mark. -/
def pieces : List Char → Option (List Piece × List Char)
  | [] => none
  | '"' :: rest => some ([], rest)
  | '\\' :: 'u' :: a :: b :: c :: d :: rest => do
    let code ← unit? a b c d
    let (others, rest) ← pieces rest
    return (.unit code :: others, rest)
  | '\\' :: c :: rest => do
    let c ← escaped? c
    let (others, rest) ← pieces rest
    return (.char c :: others, rest)
  | c :: rest => do
    if c.toNat < 0x20 then none
    else
      let (others, rest) ← pieces rest
      return (.char c :: others, rest)

/-- Whether a unit is the first half of a pair. -/
def isHigh (code : Nat) : Bool := 0xd800 ≤ code && code < 0xdc00

/-- Whether a unit is the second half of a pair. -/
def isLow (code : Nat) : Bool := 0xdc00 ≤ code && code < 0xe000

/-- The character of a pair. -/
def paired (high low : Nat) : Char :=
  Char.ofNat (0x10000 + 0x400 * (high - 0xd800) + (low - 0xdc00))

/-- The characters of some pieces, if no half of a pair is alone. -/
def joined? : List Piece → Option (List Char)
  | [] => some []
  | .char c :: rest => (joined? rest).map (c :: ·)
  | .unit high :: .unit low :: rest =>
    if isHigh high then
      if isLow low then (joined? rest).map (paired high low :: ·) else none
    else if isLow high then none
    else (joined? (.unit low :: rest)).map (Char.ofNat high :: ·)
  | .unit code :: rest =>
    if isHigh code || isLow code then none else (joined? rest).map (Char.ofNat code :: ·)

/-- Takes a string whose opening mark has been taken. -/
def text : Reader (Option String) := fun chars =>
  (pieces chars).map fun (found, rest) => ((joined? found).map String.ofList, rest)

/-! ## Values -/

/-- Takes the items after the first one of a sequence, up to its closing mark; `fuel` at most. -/
def moreItems (item : Reader α) (close : Char) : (fuel : Nat) → Reader (List α)
  | 0 => failure
  | fuel + 1 => do
    spaces
    if ← accept close then return []
    else
      expect ','
      let first ← item
      let others ← moreItems item close fuel
      return first :: others

/-- Takes the items of a sequence whose opening mark has been taken; `fuel + 1` at most. -/
def sequence (item : Reader α) (close : Char) (fuel : Nat) : Reader (List α) := do
  spaces
  if ← accept close then return []
  else
    let first ← item
    let others ← moreItems item close fuel
    return first :: others

/-- Takes a member of an object. -/
def member (value : Reader JsonValue) : Reader (Option String × JsonValue) := do
  spaces
  expect '"'
  let name ← text
  spaces
  expect ':'
  return (name, ← value)

/-- Takes a value, in which values are nested `fuel` deep at most. -/
def value : (fuel : Nat) → Reader JsonValue
  | 0 => failure
  | fuel + 1 => do
    spaces
    match ← next with
    | 'n' => do
      expectAll "ull".toList
      return .null
    | 't' => do
      expectAll "rue".toList
      return .bool true
    | 'f' => do
      expectAll "alse".toList
      return .bool false
    | '"' => return .string (← text)
    | '[' => return .array (← sequence (value fuel) ']' fuel)
    | '\x7b' => return .object (← sequence (member (value fuel)) '\x7d' fuel)
    | c => fun rest => number (c :: rest)

/-- Takes a value, which takes a character for each level at least, and the spaces after it. -/
def document : Reader JsonValue := do
  let value ← fun chars => value chars.length chars
  spaces
  return value

/-- The value that a text is written for. -/
def parse? (text : String) : Option JsonValue := document.readAll? text

end RecordBase.Json
