import RecordBase.Database.Description
import RecordBase.Store.Batch
import RecordBase.Wire.Source

/-!
# Batches on the wire

A batch is its number, the number of its entries, and the entries. An entry is a status, a cluster,
and for a creation the name of its cluster and the content, for an update the position, the version
and the content, for a deletion the position and the version.

The entries are taken one at a time; after a failure nothing more is taken.
-/

namespace RecordBase

/-- The byte that says what an entry does. -/
def BatchEntry.status : BatchEntry → UInt8
  | create _ _ _ => 1
  | update _ _ _ => 2
  | delete _ _ => 3

/-- The name of what an entry with a status byte does. -/
def BatchEntry.statusName? (status : UInt8) : Option String :=
  if status = 1 then some "Created"
  else if status = 2 then some "Updated"
  else if status = 3 then some "Deleted"
  else none

namespace Wire

/-- The fields of an entry. -/
def entryFields (entry : BatchEntry) : List Field :=
  .byte entry.status :: match entry with
    | .create cluster name content =>
      [.short cluster, .text name, .bytes (some (content.getD []))]
    | .update id version content =>
      identityFields id ++ [.int version, .bytes (some (content.getD []))]
    | .delete id version => identityFields id ++ [.int version]

/-- The fields of a batch. -/
def batchFields (number : Int32) (entries : List BatchEntry) : List Field :=
  .int number :: countField entries.length :: entries.flatMap entryFields

namespace Source

/-- Takes the rest of a creation. -/
def createEntry (cluster : Int16) : Decoder BatchEntry := do
  let name ← text
  let content ← requiredBytes "record content"
  return .create cluster name (some content)

/-- Takes the rest of an update. -/
def updateEntry (cluster : Int16) : Decoder BatchEntry := do
  let position ← word Int64
  let version ← word Int32
  let content ← requiredBytes "record content"
  return .update ⟨cluster, position⟩ version (some content)

/-- Takes the rest of a deletion. -/
def deleteEntry (cluster : Int16) : Decoder BatchEntry := do
  let position ← word Int64
  let version ← word Int32
  return .delete ⟨cluster, position⟩ version

/-- Takes an entry. -/
def entry : Decoder BatchEntry := do
  let status ← word UInt8
  if status = 1 then createEntry (← word Int16)
  else if status = 2 then updateEntry (← word Int16)
  else if status = 3 then deleteEntry (← word Int16)
  else Decoder.fail (.unknownStatus status)

end Source

/-! ## Reading a batch -/

/-- A batch whose entries are being read. -/
structure BatchReader where
  number : Int32
  /-- How many entries the batch announces. -/
  announced : Nat
  /-- How many entries have been read. -/
  consumed : Nat := 0
  /-- Whether nothing more is to be read. -/
  finished : Bool := false
  deriving DecidableEq, Repr

namespace BatchReader

/-- Takes the number of a batch and the number of its entries. -/
def start : Decoder BatchReader := do
  let number ← Source.word Int32
  let count ← Source.word Int32
  if count < 0 then Decoder.fail (.negativeCount count)
  else return { number, announced := count.toInt.toNat }

/-- Entries announced and not yet read; none once the reading has ended. -/
def remaining (reader : BatchReader) : Nat :=
  if reader.finished then 0 else reader.announced - reader.consumed

/-- An entry has been read. -/
def advance (reader : BatchReader) : BatchReader :=
  { reader with consumed := reader.consumed + 1 }

/-- The reading has ended. -/
def finish (reader : BatchReader) : BatchReader := { reader with finished := true }

/-- The next entry, or why it cannot be read; nothing at the end. -/
def next (reader : BatchReader) (source : Source) :
    Option (Except WireError BatchEntry) × BatchReader × Source :=
  if reader.remaining = 0 then (none, reader.finish, source)
  else match Source.entry source with
    | (.ok entry, source) => (some (.ok entry), reader.advance, source)
    | (.error error, source) => (some (.error error), reader.finish, source)

/-- Every entry up to a count, and the failure that stops the reading before, if one does. -/
def take (count : Nat) (reader : BatchReader) (source : Source) :
    (List BatchEntry × Option WireError) × BatchReader × Source :=
  match count with
  | 0 => (([], none), reader.finish, source)
  | count + 1 =>
    match reader.next source with
    | (none, reader, source) => (([], none), reader, source)
    | (some (.error error), reader, source) => (([], some error), reader, source)
    | (some (.ok entry), reader, source) =>
      let ((entries, failure), reader, source) := take count reader source
      ((entry :: entries, failure), reader, source)

/-- Every entry that can be read, and the failure that stops the reading, if one does. -/
def rest (reader : BatchReader) (source : Source) :
    (List BatchEntry × Option WireError) × BatchReader × Source :=
  take reader.remaining reader source

/-- Reads the rest and returns how many entries that were. -/
def skip (reader : BatchReader) (source : Source) :
    Except WireError Nat × BatchReader × Source :=
  match reader.rest source with
  | ((entries, none), reader, source) => (.ok entries.length, reader, source)
  | ((_, some error), reader, source) => (.error error, reader, source)

/-- The description of a batch whose number and size have been read. -/
def headerDescription (reader : BatchReader) : String :=
  describe "TransactionProxy"
    [("client_tx_id", Numeral.format reader.number.toInt),
      ("entry_count", toString reader.announced)] true

/-- The description of a batch whose entries are being read. -/
def description (reader : BatchReader) : String :=
  describe "TransactionEntries"
    [("client_tx_id", Numeral.format reader.number.toInt),
      ("consumed", toString reader.consumed), ("remaining", toString reader.remaining)] false

end BatchReader

end Wire

end RecordBase
