import RecordBase.Bytes.Utf8
import RecordBase.Checksum.Crc32
import RecordBase.Error
import RecordBase.Log.Entry

/-!
# The bytes of a log entry

An entry is written as its whole length in four bytes, a byte for its kind, its fields, and the
checksum of all that. Numbers are little-endian; a text is its length and its UTF-8 bytes, and a
missing text has the greatest length there is.
-/

namespace RecordBase

/-! ## Writing -/

/-- The length that stands for a missing text. -/
def missingText : UInt32 := 0xffffffff

/-- A length and the bytes it counts. -/
def countedBytes (bytes : Bytes) : Bytes :=
  Word.toLittleEndian (UInt32.ofNat bytes.length) ++ bytes

/-- The bytes of a text. -/
def textField (text : String) : Bytes := countedBytes (Bytes.ofText text)

/-- The bytes of a text that may be missing. -/
def optionalTextField : Option String → Bytes
  | some text => textField text
  | none => Word.toLittleEndian missingText

/-- The bytes of an identity. -/
def identityField (id : RecordId) : Bytes :=
  Word.toLittleEndian id.cluster ++ Word.toLittleEndian id.position

/-- The bytes of a cluster's kind. -/
def ClusterKind.field : ClusterKind → Bytes
  | physical file size => 0 :: optionalTextField file ++ Word.toLittleEndian size
  | logical container descriptor =>
    1 :: Word.toLittleEndian container ++ identityField descriptor

/-- The bytes of a slot. -/
def Slot.field (slot : Slot) : Bytes :=
  Word.toLittleEndian slot.owner ++ Word.toLittleEndian slot.version ++ slot.type.tag ::
    countedBytes slot.content

namespace LogEntry

/-- The byte for the kind of an entry, and its fields. -/
def body : LogEntry → Bytes
  | clusterAdded cluster =>
    1 :: Word.toLittleEndian cluster.id ++ textField cluster.name ++ cluster.kind.field
  | recordPut place slot => 2 :: identityField place ++ slot.field
  | recordRemoved place => 3 :: identityField place
  | keyBound key id => 4 :: textField key ++ identityField id
  | keyRemoved key => 5 :: textField key

/-- Bytes of the length and of the checksum. -/
def frameSize : Nat := 8

/-- Fewest bytes an entry can have: its frame and its kind. -/
def minimumSize : Nat := frameSize + 1

/-- A body with its length before it and the checksum of both after it. -/
def frame (body : Bytes) : Bytes :=
  let checked := Word.toLittleEndian (UInt32.ofNat (body.length + frameSize)) ++ body
  checked ++ Word.toLittleEndian (Checksum.crc32 checked)

/-- The bytes of an entry. -/
def encode (entry : LogEntry) : Bytes := frame entry.body

end LogEntry

/-! ## Reading -/

/-- Takes fields off the front of a body. -/
abbrev FieldReader (α : Type) := StateT Bytes (Except Damage) α

namespace FieldReader

/-- The next `count` bytes. -/
def take (count : Nat) : FieldReader Bytes := fun rest =>
  if rest.length < count then .error .bodyTruncated else .ok (rest.take count, rest.drop count)

/-- The next word. -/
def word (α : Type) [Word α] : FieldReader α := do
  return Word.ofLittleEndian (← take (Word.width α))

/-- The next text, which may be missing. -/
def optionalText : FieldReader (Option String) := do
  let length ← word UInt32
  if length = missingText then return none
  let bytes ← take length.toNat
  match Bytes.toText? bytes with
  | some text => return some text
  | none => throw .notText

/-- The next text, which fails as `missing` if there is none. -/
def text (missing : Damage) : FieldReader String := do
  match ← optionalText with
  | some text => return text
  | none => throw missing

/-- The next identity. -/
def identity : FieldReader RecordId := do
  let cluster ← word Int16
  let position ← word Int64
  return ⟨cluster, position⟩

/-- The next kind of a cluster. -/
def clusterKind : FieldReader ClusterKind := do
  let tag ← word UInt8
  if tag = 0 then
    let file ← optionalText
    return .physical file (← word Int32)
  else if tag = 1 then
    let container ← word Int16
    return .logical container (← identity)
  else throw (.unknownClusterKind tag)

/-- The next type of a record. -/
def recordType : FieldReader RecordType := do
  let tag ← word UInt8
  match RecordType.ofTag? tag with
  | some type => return type
  | none => throw (.unknownRecordType tag)

/-- The next slot. -/
def slot : FieldReader Slot := do
  let owner ← word Int16
  let version ← word Int32
  let type ← recordType
  let length ← word UInt32
  return ⟨owner, version, type, ← take length.toNat⟩

/-- The fields of an entry of the kind that a byte names. -/
def entry (kind : UInt8) : FieldReader LogEntry := do
  if kind = 1 then
    let id ← word Int16
    let name ← text .unnamedCluster
    return .clusterAdded ⟨id, name, ← clusterKind⟩
  else if kind = 2 then
    let place ← identity
    return .recordPut place (← slot)
  else if kind = 3 then
    return .recordRemoved (← identity)
  else if kind = 4 then
    let key ← text .missingKey
    return .keyBound key (← identity)
  else if kind = 5 then
    return .keyRemoved (← text .missingKey)
  else throw (.unknownEntryKind kind)

end FieldReader

namespace LogEntry

/-- The length that the front of some bytes announces. -/
def announcedLength (bytes : Bytes) : Nat :=
  (Word.ofLittleEndian (bytes.take 4) : UInt32).toNat

/-- Reads a body to its end. -/
def ofBody (body : Bytes) : Except Damage LogEntry :=
  match body with
  | [] => .error .tooShort
  | kind :: fields => do
    let (entry, rest) ← FieldReader.entry kind fields
    if rest.isEmpty then return entry else throw .trailingBytes

/-- Reads the bytes of one whole entry. -/
def decode (bytes : Bytes) : Except Damage LogEntry :=
  let size := bytes.length
  if size < minimumSize then .error .tooShort
  else if announcedLength bytes ≠ size then
    .error (.lengthMismatch (announcedLength bytes) size)
  else
    let checked := bytes.take (size - 4)
    let stored : UInt32 := Word.ofLittleEndian (bytes.drop (size - 4))
    let computed := Checksum.crc32 checked
    if stored ≠ computed then .error (.checksum stored computed)
    else ofBody (checked.drop 4)

end LogEntry

end RecordBase
