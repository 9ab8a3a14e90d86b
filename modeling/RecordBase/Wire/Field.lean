import RecordBase.Bytes.Utf8
import RecordBase.Record.Basic

/-!
# Fields of messages

A message is a sequence of fields. Numbers are big-endian. A byte string is its length in four
bytes and its bytes; a length of minus one stands for no byte string at all. A text is the byte
string of its UTF-8 form.
-/

namespace RecordBase.Wire

/-- The length that stands for nothing. -/
def nothing : Int32 := -1

/-- A value in a message. -/
inductive Field where
  | byte (value : UInt8)
  | short (value : Int16)
  | int (value : Int32)
  | long (value : Int64)
  | bytes (value : Option Bytes)
  | text (value : Option String)
  deriving DecidableEq, Repr

/-- The greatest length, and the greatest number of items, that a message can tell. -/
def greatest : Nat := 2147483647

/-- How many bytes a field has behind its length. -/
def Field.size : Field → Nat
  | bytes value => (value.getD []).length
  | text value => ((value.map Bytes.ofText).getD []).length
  | _ => 0

/-- The bytes of a byte string, behind its length. -/
def counted : Option Bytes → Bytes
  | none => Word.toBigEndian nothing
  | some bytes => Word.toBigEndian (Int32.ofNat bytes.length) ++ bytes

/-- The bytes of a field. A longer one than a message can tell the length of is never sent. -/
def Field.encode : Field → Bytes
  | byte value => [value]
  | short value => Word.toBigEndian value
  | int value => Word.toBigEndian value
  | long value => Word.toBigEndian value
  | bytes value => counted value
  | text value => counted (value.map Bytes.ofText)

/-- The bytes of some fields. -/
def encode (fields : List Field) : Bytes := fields.flatMap Field.encode

/-- The number of items before the items; the greatest that there is if there are more. -/
def countField (count : Nat) : Field := .int (Int32.ofNat (min count greatest))

theorem countField_of_le {count : Nat} (h : count ≤ greatest) :
    countField count = .int (Int32.ofNat count) := by
  rw [countField, Nat.min_eq_left h]

/-- A collection of texts, not more than a message can tell the number of. -/
def textsFields (texts : List String) : List Field :=
  countField texts.length :: texts.map fun text => .text (some text)

/-- An identity. -/
def identityFields (id : RecordId) : List Field := [.short id.cluster, .long id.position]

/-! ## Record frames -/

/-- The class of a frame that holds no record. -/
def noRecord : Int16 := -2

/-- The class of a record without a schema. -/
def noClass : Int16 := -1

/-- A record, or its absence. -/
def frameFields : Option Record → List Field
  | none => [.short noRecord]
  | some record =>
    [.short noClass, .byte record.type.tag] ++ identityFields record.id ++
      [.int record.version, .bytes (some record.content)]

end RecordBase.Wire
