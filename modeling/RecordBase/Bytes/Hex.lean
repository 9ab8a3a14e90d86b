import RecordBase.Bytes.Utf8
import RecordBase.Text.Numeral

/-!
# Hexadecimal text of bytes

Two digits a byte, the high one first. Writing uses lower-case digits; reading takes either case
and says which character stops it.
-/

namespace RecordBase.Hex

/-- Why a text is not the hexadecimal form of any bytes. -/
inductive Fault where
  /-- The text has an odd number of bytes. -/
  | oddLength
  /-- The byte at an index is not a digit. -/
  | invalidDigit (byte : UInt8) (index : Nat)
  deriving DecidableEq, Repr

/-- The digit of a number below sixteen. -/
def digit (value : Nat) : Char :=
  if value < 10 then Char.ofNat ('0'.toNat + value) else Char.ofNat ('a'.toNat + (value - 10))

/-- The number that a byte stands for as a digit. -/
def digitValue? (byte : UInt8) : Option Nat := Numeral.hexDigit? (Char.ofNat byte.toNat)

/-- The characters of some bytes. -/
def encodeChars (bytes : Bytes) : List Char :=
  bytes.flatMap fun byte => [digit (byte.toNat / 16), digit (byte.toNat % 16)]

/-- The text of some bytes. -/
def encode (bytes : Bytes) : String := String.ofList (encodeChars bytes)

/-- Reads pairs of digits; `index` is the place of the first one in the whole text. -/
def decodePairs : (index : Nat) → Bytes → Except Fault Bytes
  | index, high :: low :: rest =>
    match digitValue? high, digitValue? low with
    | some h, some l => (UInt8.ofNat (16 * h + l) :: ·) <$> decodePairs (index + 2) rest
    | none, _ => .error (.invalidDigit high index)
    | some _, none => .error (.invalidDigit low (index + 1))
  | _, _ => .ok []

/-- The bytes a text stands for. An odd length is noticed before any digit is looked at. -/
def decode (text : String) : Except Fault Bytes :=
  let digits := Bytes.ofText text
  if digits.length % 2 = 1 then .error .oddLength else decodePairs 0 digits

/-- The digits of a word, `width` of them at least. -/
def ofNat (width value : Nat) : String :=
  let digits := Nat.toDigits 16 value
  String.ofList (List.replicate (width - digits.length) '0' ++ digits)

end RecordBase.Hex
