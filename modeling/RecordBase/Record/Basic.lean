import RecordBase.Bytes.Endian
import RecordBase.Record.Identity

/-!
# Records

A record is an identity with versioned content. Its type says how the content is to be read and is
written as a letter.
-/

namespace RecordBase

/-- How the content of a record is serialised. -/
inductive RecordType where
  /-- A document with a schema. -/
  | document
  /-- Bytes without structure. -/
  | bytes
  /-- Flat text. -/
  | flat
  deriving DecidableEq, Repr, Inhabited

namespace RecordType

/-- The letter of a type. -/
def tag : RecordType → UInt8
  | document => 0x64
  | bytes => 0x62
  | flat => 0x66

/-- The type with a letter. -/
def ofTag? (tag : UInt8) : Option RecordType :=
  if tag = 0x64 then some document
  else if tag = 0x62 then some bytes
  else if tag = 0x66 then some flat
  else none

@[simp] theorem ofTag?_tag (type : RecordType) : ofTag? type.tag = some type := by
  cases type <;> rfl

theorem ofTag?_eq_some_iff {tag : UInt8} {type : RecordType} :
    ofTag? tag = some type ↔ tag = type.tag := by
  constructor
  · intro h
    unfold ofTag? at h
    split at h
    · cases h; assumption
    · split at h
      · cases h; assumption
      · split at h
        · cases h; assumption
        · cases h
  · rintro rfl
    exact ofTag?_tag type

end RecordType

/-- A record as the store holds it. -/
structure Record where
  id : RecordId
  /-- Zero at creation, one more with each update. -/
  version : Int32
  type : RecordType
  content : Bytes
  deriving DecidableEq, Repr, Inhabited

/-- The key under which a record is cached. -/
def Record.key (record : Record) : String := record.id.text

end RecordBase
