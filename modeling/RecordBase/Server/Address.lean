import RecordBase.Text.Numeral
import RecordBase.Text.Reader

/-!
# Addresses to listen at

An address of either version of the Internet Protocol with a port, and its text: four decimal
numbers, or in brackets eight hexadecimal groups, of which the longest run of zeros is left out.
-/

namespace RecordBase

/-- The address of a host. -/
inductive HostAddress where
  /-- Four numbers below 256. -/
  | v4 (parts : List Nat)
  /-- Eight numbers below 65536, and the number of the link they are meant for. -/
  | v6 (groups : List Nat) (link : Nat)
  deriving DecidableEq, Repr

/-- The address of a host with a port. -/
structure SocketAddress where
  host : HostAddress
  port : Nat
  deriving DecidableEq, Repr

namespace SocketAddress

open Text (Reader)
open Text.Reader (expect)

/-! ## Reading -/

/-- The value of a digit to a base of sixteen at most. -/
def digit? (base : Nat) (c : Char) : Option Nat :=
  (Numeral.hexDigit? c).filter fun value => value < base

/-- The digits to a base at the front of some characters, and the rest. -/
def spanDigits (base : Nat) : List Char → List Nat × List Char
  | [] => ([], [])
  | c :: rest =>
    match digit? base c with
    | some value => let (digits, rest) := spanDigits base rest; (value :: digits, rest)
    | none => ([], c :: rest)

/-- Takes a number below `bound`, written to a base with `most` digits at most. -/
def number (base bound most : Nat) : Reader (List Nat × Nat) := fun chars =>
  let (digits, rest) := spanDigits base chars
  let value := digits.foldl (fun value digit => base * value + digit) 0
  if digits ≠ [] ∧ digits.length ≤ most ∧ value < bound then some ((digits, value), rest) else none

/-- Takes a number of any length below `bound`. -/
def anyNumber (bound : Nat) : Reader Nat := fun chars =>
  (number 10 bound chars.length chars).map fun (found, rest) => (found.2, rest)

/-- Takes one of the four numbers, which has no zero before other digits. -/
def part : Reader Nat := do
  let (digits, value) ← number 10 256 3
  if digits.head? = some 0 ∧ digits.length ≠ 1 then failure else return value

/-- Takes four numbers between points. -/
def parts : Reader (List Nat) := do
  let a ← part
  expect '.'
  let b ← part
  expect '.'
  let c ← part
  expect '.'
  let d ← part
  return [a, b, c, d]

/-- Takes one of the eight groups. -/
def group : Reader Nat := do return (← number 16 65536 4).2

/-- Takes a colon unless nothing stands before, and then something else. -/
def separated {α : Type} (first : Bool) (item : Reader α) : Reader α := do
  if !first then expect ':'
  item

/-- Four numbers as two groups. -/
def groupsOfParts : List Nat → List Nat
  | [a, b, c, d] => [256 * a + b, 256 * c + d]
  | _ => []

/-- Takes up to `room` groups between colons, the last two of which may be written as four numbers,
and says whether they were. Goes as far as it can. -/
def groups (first : Bool) : (room : Nat) → List Char → (List Nat × Bool) × List Char
  | 0, chars => (([], false), chars)
  | room + 1, chars =>
    let embedded := if room = 0 then none else separated first parts chars
    match embedded with
    | some (found, rest) => ((groupsOfParts found, true), rest)
    | none =>
      match separated first group chars with
      | some (found, rest) =>
        let ((others, embedded), rest) := groups false room rest
        ((found :: others, embedded), rest)
      | none => (([], false), chars)

/-- Takes eight groups, of which a run of zeros may be left out between two colons. -/
def allGroups : Reader (List Nat) := fun chars =>
  let ((front, embedded), rest) := groups true 8 chars
  if front.length = 8 then some (front, rest)
  else if embedded then none
  else (do
    expect ':'
    expect ':'
    fun rest =>
      let ((back, _), rest) := groups true (7 - front.length) rest
      some (front ++ List.replicate (8 - front.length - back.length) 0 ++ back, rest) :
    Reader (List Nat)) rest

/-- Takes the number of a link after a percent sign, or nothing. -/
def link : Reader Nat := fun chars =>
  match (do expect '%'; anyNumber (2 ^ 32) : Reader Nat) chars with
  | some found => some found
  | none => some (0, chars)

/-- Takes a port after a colon. -/
def portNumber : Reader Nat := do
  expect ':'
  anyNumber 65536

/-- Takes an address of four numbers. -/
def short : Reader SocketAddress := do
  return ⟨.v4 (← parts), ← portNumber⟩

/-- Takes an address of eight groups. -/
def long : Reader SocketAddress := do
  expect '['
  let groups ← allGroups
  let link ← link
  expect ']'
  return ⟨.v6 groups link, ← portNumber⟩

/-- The address with a text. -/
def parse? (text : String) : Option SocketAddress := Reader.readAll? (short <|> long) text

/-! ## Writing -/

/-- The text of four numbers. -/
def partsText (parts : List Nat) : String := ".".intercalate (parts.map toString)

/-- The text of some groups. -/
def groupsText (groups : List Nat) : String :=
  ":".intercalate (groups.map fun group => String.ofList (Nat.toDigits 16 group))

/-- Zeros at the front of some groups. -/
def zeros (groups : List Nat) : Nat := (groups.takeWhile (· = 0)).length

/-- The place and the length of the first of the longest runs of zeros. -/
def longestZeros : (place : Nat) → List Nat → Nat × Nat
  | _, [] => (0, 0)
  | place, group :: rest =>
    let here := zeros (group :: rest)
    let later := longestZeros (place + 1) rest
    if later.2 ≤ here then (place, here) else later

/-- The text of eight groups. -/
def allGroupsText (groups : List Nat) : String :=
  match groups with
  | [0, 0, 0, 0, 0, 0xffff, high, low] =>
    "::ffff:" ++ partsText [high / 256, high % 256, low / 256, low % 256]
  | _ =>
    let (place, length) := longestZeros 0 groups
    if length ≤ 1 then groupsText groups
    else groupsText (groups.take place) ++ "::" ++ groupsText (groups.drop (place + length))

/-- The text of an address. -/
def text (address : SocketAddress) : String :=
  match address.host with
  | .v4 parts => partsText parts ++ ":" ++ toString address.port
  | .v6 groups link =>
    "[" ++ allGroupsText groups ++ (if link = 0 then "" else "%" ++ toString link) ++ "]:" ++
      toString address.port

end SocketAddress

end RecordBase
