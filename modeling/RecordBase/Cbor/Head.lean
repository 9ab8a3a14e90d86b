import RecordBase.Bytes.Endian
import RecordBase.Cbor.FloatFormat

/-!
# Heads of data items

Every data item of CBOR starts with a head: a major type in three bits, and an argument in the
other five or in the one, two, four or eight bytes that follow. A head is written with the shortest
argument that holds its number and is read with any.
-/

namespace RecordBase.Cbor

/-- The head of a data item. A length or count is missing where the end is marked instead. -/
inductive Head where
  /-- A whole number that is not negative. -/
  | positive (value : Nat)
  /-- The number that is `value` below minus one. -/
  | negative (value : Nat)
  | bytes (length : Option Nat)
  | text (length : Option Nat)
  | array (count : Option Nat)
  | map (count : Option Nat)
  | tag (number : Nat)
  | simple (code : Nat)
  /-- A floating-point number, by the 64 bits of its IEEE 754 form. -/
  | float (bits : UInt64)
  /-- The mark of an end. -/
  | stop
  deriving DecidableEq, Repr

namespace Head

/-- The codes of the simple values. -/
def falseCode : Nat := 20
def trueCode : Nat := 21
def nullCode : Nat := 22
def undefinedCode : Nat := 23

/-! ## Writing -/

/-- The first byte of a head. -/
def firstByte (major minor : Nat) : UInt8 := UInt8.ofNat (32 * major + minor)

/-- A head with an argument that follows in `2 ^ step` bytes. -/
def wide (major step argument : Nat) : Bytes :=
  firstByte major (24 + step) :: Bytes.bigEndian (2 ^ step) argument

/-- A head with the shortest argument that holds a number. -/
def shortest (major argument : Nat) : Bytes :=
  if argument < 24 then [firstByte major argument]
  else if argument < 2 ^ 8 then wide major 0 argument
  else if argument < 2 ^ 16 then wide major 1 argument
  else if argument < 2 ^ 32 then wide major 2 argument
  else wide major 3 argument

/-- A head with a length or count, or with none. -/
def counted (major : Nat) : Option Nat → Bytes
  | some count => shortest major count
  | none => [firstByte major 31]

/-- A floating-point number in the narrowest format that keeps every bit. -/
def encodeFloat (bits : UInt64) : Bytes :=
  match FloatFormat.half.narrow? bits.toNat, FloatFormat.single.narrow? bits.toNat with
  | some narrow, _ => wide 7 1 narrow
  | none, some narrow => wide 7 2 narrow
  | none, none => wide 7 3 bits.toNat

/-- The bytes of a head. -/
def encode : Head → Bytes
  | positive value => shortest 0 value
  | negative value => shortest 1 value
  | bytes length => counted 2 length
  | text length => counted 3 length
  | array count => counted 4 count
  | map count => counted 5 count
  | tag number => shortest 6 number
  | simple code => shortest 7 code
  | float bits => encodeFloat bits
  | stop => [firstByte 7 31]

/-- The head of a whole number. -/
def ofInt : Int → Head
  | .ofNat value => positive value
  | .negSucc value => negative value

/-- The head of a truth value. -/
def ofBool (value : Bool) : Head := simple (if value then trueCode else falseCode)

/-! ## Reading -/

/-- The head of major type seven with a minor number and its argument. -/
def ofOther (minor argument : Nat) : Head :=
  match minor with
  | 25 => float (UInt64.ofNat (FloatFormat.half.widen argument))
  | 26 => float (UInt64.ofNat (FloatFormat.single.widen argument))
  | 27 => float (UInt64.ofNat argument)
  | _ => simple argument

/-- The head with a major type, a minor number and the argument that this gives. -/
def ofArgument (major minor argument : Nat) : Head :=
  match major with
  | 0 => positive argument
  | 1 => negative argument
  | 2 => bytes (some argument)
  | 3 => text (some argument)
  | 4 => array (some argument)
  | 5 => map (some argument)
  | 6 => tag argument
  | _ => ofOther minor argument

/-- The head without an argument, if the major type has one. -/
def withoutArgument? : (major : Nat) → Option Head
  | 2 => some (bytes none)
  | 3 => some (text none)
  | 4 => some (array none)
  | 5 => some (map none)
  | 7 => some stop
  | _ => none

/-- The first `count` bytes and the rest, if there are as many. -/
def split? (count : Nat) (bytes : Bytes) : Option (Bytes × Bytes) :=
  let first := bytes.take count
  if first.length = count then some (first, bytes.drop count) else none

/-- Reads a head. -/
def decode : Bytes → Option (Head × Bytes)
  | [] => none
  | first :: rest =>
    let major := first.toNat / 32
    let minor := first.toNat % 32
    if minor < 24 then some (ofArgument major minor minor, rest)
    else if minor < 28 then
      (split? (2 ^ (minor - 24)) rest).map fun (argument, rest) =>
        (ofArgument major minor (Bytes.ofBigEndian argument), rest)
    else if minor = 31 then (withoutArgument? major).map (·, rest)
    else none

end Head

end RecordBase.Cbor
