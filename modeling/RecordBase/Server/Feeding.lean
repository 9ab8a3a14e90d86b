import RecordBase.Server.Conversation

/-!
# Batches that are carried out while they are read

The entries of a batch are taken from the connection one at a time, each after the one before it has been
applied, so a batch is never kept as a whole. A batch that fails, or that may not be carried out at all,
has entries that nobody has taken; these are read and dropped, as far as they read.
-/

namespace RecordBase

open Wire (BatchReader Response Source)

/-- Reads the entries that are left of a batch and drops them. -/
def Wire.BatchReader.drain (reader : BatchReader) (source : Source) : Source :=
  (reader.skip source).2.2

namespace Database

/-- Feeds a batch with the next `count` entries that a reader takes, until one fails. -/
def feed (database : Database) (state : CommitState WireError) (count : Nat) (reader : BatchReader)
    (source : Source) : (Reply WireError × Database) × BatchReader × Source :=
  match count with
  | 0 => (database.keep state, reader.finish, source)
  | count + 1 =>
    match reader.next source with
    | (none, reader, source) => (database.keep state, reader, source)
    | (some (.error cause), reader, source) =>
      (database.abort { state with pulled := state.pulled + 1 } (.source cause), reader, source)
    | (some (.ok entry), reader, source) =>
      let state := { state with pulled := state.pulled + 1 }
      match state.batch.apply database.store entry with
      | (.error error, store) =>
        ({ database with store }.abort state (.store error), reader, source)
      | (.ok batch, store) => feed { database with store } { state with batch } count reader source

/-- Carries out a batch with the entries that a reader takes. -/
def commitFrom (database : Database) (reader : BatchReader) (source : Source) :
    (Reply WireError × Database) × BatchReader × Source :=
  match database.ensureOpen with
  | .error error => ((.commit (.error (.store error)) [] 0, database), reader, source)
  | .ok () => database.feed { batch := Batch.start reader.number } reader.remaining reader source

end Database

namespace Conversation

/-- Carries out a batch and drops what is left of it if it fails. -/
def settle (reader : BatchReader) (source : Source) (database : Database) :
    (Except ServerError Response × Source) × Database :=
  let ((reply, database), reader, source) := database.commitFrom reader source
  match batchResult reply with
  | .ok response => ((.ok response, source), database)
  | .error error => ((.error error, reader.drain source), database)

/-- Carries out a batch on the database that has a number. -/
def feed (talk : Conversation) (number : Nat) (reader : BatchReader) (source : Source) :
    Except ServerError Response × Conversation × Source :=
  let (answer, catalog) := talk.host.catalog.run number (settle reader source)
  let (result, source) := answer.getD (.error .noDatabase, reader.drain source)
  (result, { talk with host := { talk.host with catalog } }, source)

/-- Reads the number and the size of a batch and carries it out, provided that the session has an open
database and its user the permission. -/
def commitFrom (talk : Conversation) (source : Source) :
    Except ServerError Response × Conversation × Source :=
  match BatchReader.start source with
  | (.error error, source) => (.error (.wire error), talk, source)
  | (.ok reader, source) =>
    match talk.permitted .record .update with
    | .error error => (.error error, talk, reader.drain source)
    | .ok number => talk.feed number reader source

end Conversation

end RecordBase
