import RecordBase.Wire.Error
import RecordBase.Wire.Field

/-!
# Reading messages

A source is what a connection has yet to deliver, with what its reader remembers of the message it
is in: how many fields it has taken, and how many bytes of a refused one are still to come. Reading
waits for bytes that have not arrived; only the end of the connection stops it.
-/

namespace RecordBase.Wire

/-- The size of a connection's buffers. -/
def bufferSize : Nat := 8192

/-- The greatest length that is accepted where nothing else is said. -/
def defaultLimit : Nat := 64 * 1024 * 1024

/-- The unread part of a connection. -/
structure Source where
  /-- Bytes that have arrived. -/
  arrived : Bytes
  /-- Bytes that arrive only while a reader waits for them. -/
  late : Bytes := []
  /-- How many of the bytes that have arrived are in the buffer. -/
  buffered : Nat := 0
  /-- The greatest length that is accepted. -/
  limit : Nat := defaultLimit
  /-- Fields taken from the present message, unless a senseless length has hidden where the next
  one starts. -/
  taken : Option Nat := some 0
  /-- Bytes of a refused field that are still to be dropped. -/
  owed : Nat := 0
  deriving DecidableEq, Repr

/-- How a message is read: a value, or a failure, and the rest of the connection. -/
def Decoder (α : Type) := Source → Except WireError α × Source

namespace Decoder

variable {α β : Type}

/-- Reads nothing. -/
def pure (value : α) : Decoder α := fun source => (.ok value, source)

/-- Reads one thing and then another that may depend on it. -/
def bind (first : Decoder α) (next : α → Decoder β) : Decoder β := fun source =>
  match first source with
  | (.ok value, source) => next value source
  | (.error error, source) => (.error error, source)

instance : Monad Decoder where
  pure := Decoder.pure
  bind := Decoder.bind

/-- Fails. -/
def fail (error : WireError) : Decoder α := fun source => (.error error, source)

/-- Reads the same thing a number of times. -/
def repeated (count : Nat) (item : Decoder α) : Decoder (List α) :=
  match count with
  | 0 => pure []
  | count + 1 => do
    let value ← item
    let rest ← repeated count item
    return value :: rest

end Decoder

namespace Source

/-- A source that has delivered everything there will be. -/
def ofBytes (bytes : Bytes) (limit : Nat) : Source := { arrived := bytes, limit }

/-- Every byte that is still to be read. -/
def pending (source : Source) : Bytes := source.arrived ++ source.late

/-- How many bytes the buffer holds after a request for `count` bytes. A request that the empty
buffer could not hold goes past it; any other fills it first. -/
def bufferedAfter (buffered arrived count : Nat) : Nat :=
  if count ≤ buffered then buffered - count
  else
    let wanted := count - buffered
    let there := arrived - buffered
    if bufferSize ≤ wanted then 0 else min bufferSize there - wanted

/-- The source after the first `count` bytes. -/
def advance (source : Source) (count : Nat) (buffered : Nat) : Source :=
  { source with
    arrived := source.arrived.drop count
    late := source.late.drop (count - source.arrived.length)
    buffered }

/-- Counts a field as taken. -/
def countField (source : Source) : Source := { source with taken := source.taken.map (· + 1) }

/-- Starts a message. -/
def beginMessage (source : Source) : Source := { source with taken := some 0, owed := 0 }

/-- Takes `count` bytes. If there are fewer, all of them are gone. -/
def takeBytes (count : Nat) : Decoder Bytes := fun source =>
  let buffered := bufferedAfter source.buffered source.arrived.length count
  if source.pending.length < count then
    (.error .closed, source.advance source.pending.length 0)
  else (.ok (source.pending.take count), source.advance count buffered)

/-- Drops `count` bytes, a buffer's size at a time. If there are fewer, all of them are gone. -/
def dropBytes (count : Nat) : Decoder Unit := fun source =>
  if source.pending.length < count then
    (.error .closed, source.advance source.pending.length 0)
  else if count ≤ source.buffered then (.ok (), source.advance count (source.buffered - count))
  else
    let whole := source.buffered + (count - source.buffered) / bufferSize * bufferSize
    let buffered := bufferedAfter 0 (source.arrived.length - whole) (count - whole)
    (.ok (), source.advance count buffered)

/-- Counts a field as taken. -/
def tookField : Decoder Unit := fun source => (.ok (), source.countField)

/-- Takes a word without counting it as a field. -/
def takeWord (α : Type) [Word α] : Decoder α := do
  return Word.ofBigEndian (← takeBytes (Word.width α))

/-- Takes a word as a field. -/
def word (α : Type) [Word α] : Decoder α := do
  let value ← takeWord α
  tookField
  return value

/-- Takes the length of a byte string; nothing if there is no byte string. -/
def takeLength : Decoder (Option Nat) := do
  let length ← takeWord Int32
  if length = nothing then return none
  else if length < nothing then fun source =>
    (.error (.invalidLength length), { source with taken := none })
  else return some length.toInt.toNat

/-- Takes the length of a byte string that has to be within the limit. A refused byte string counts
as taken, and its bytes are owed. -/
def takeAcceptedLength : Decoder (Option Nat) := do
  match ← takeLength with
  | none => return none
  | some length => fun source =>
    if source.limit < length then
      (.error (.tooLong (Int32.ofNat length) (.ofNat source.limit)),
        { source with owed := length }.countField)
    else (.ok (some length), source)

/-- Takes a byte string. -/
def bytes : Decoder (Option Bytes) := do
  match ← takeAcceptedLength with
  | none =>
    tookField
    return none
  | some length =>
    let value ← takeBytes length
    tookField
    return some value

/-- Takes a text. -/
def text : Decoder (Option String) := do
  match ← bytes with
  | none => return none
  | some value =>
    match Bytes.toText? value with
    | some text => return some text
    | none => Decoder.fail .notText

/-- Takes something that has to be there. -/
def required {α : Type} (what : String) (value : Decoder (Option α)) : Decoder α := do
  match ← value with
  | some value => return value
  | none => Decoder.fail (.missing what)

/-- Takes a text that has to be there. -/
def requiredText (what : String) : Decoder String := required what text

/-- Takes a byte string that has to be there. -/
def requiredBytes (what : String) : Decoder Bytes := required what bytes

/-- Drops a byte string or text of any length. -/
def skipBytes : Decoder Unit := do
  match ← takeLength with
  | none => tookField
  | some length =>
    dropBytes length
    tookField

/-- Drops what is owed of a refused field and returns how much that was. -/
def skipOwed : Decoder Nat := fun source =>
  let owed := source.owed
  match dropBytes owed { source with owed := 0 } with
  | (.ok (), source) => (.ok owed, source)
  | (.error error, source) => (.error error, source)

/-- Drops what has arrived and returns how much that was. -/
def discard (source : Source) : Nat × Source :=
  (source.arrived.length, { source with arrived := [], buffered := 0 })

/-! ## Parts of messages -/

/-- Takes a record's type. -/
def recordType : Decoder RecordType := do
  let tag ← word UInt8
  match RecordType.ofTag? tag with
  | some type => return type
  | none => Decoder.fail (.unknownRecordType tag)

/-- Takes an identity. -/
def identity : Decoder RecordId := do
  let cluster ← word Int16
  let position ← word Int64
  return ⟨cluster, position⟩

/-- Takes a record's frame. -/
def frame : Decoder (Option Record) := do
  let class_ ← word Int16
  if class_ = noRecord then return none
  let type ← recordType
  let id ← identity
  let version ← word Int32
  let content ← bytes
  return some ⟨id, version, type, content.getD []⟩

end Source

end RecordBase.Wire
