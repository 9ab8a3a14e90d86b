import RecordBase.Proofs.Database.Run
import RecordBase.Proofs.Wire.Calls
import RecordBase.Server.Cycle

/-!
# Taking entries one at a time

A batch is carried out while its entries are read, and what is left of it is dropped when it fails. What
the database does, and how far the connection is read, is the same as if every entry that reads had been
read beforehand: reading does not depend on the database, and the entries that a batch takes and those
that are dropped after it are together all that read.

* `Database.commitFrom_eq`: this is so for one batch;
* `Conversation.handle_eq`: so every kind of request can be taken as read first and then carried out.
-/

namespace RecordBase

open Wire

namespace Wire.BatchReader

variable {reader : BatchReader} {source : Source}

/-- A reader that has ended drops nothing. -/
theorem drain_of_finished (h : reader.remaining = 0) : reader.drain source = source := by
  rw [drain, skip, rest, h, take]

theorem drain_eq_rest : reader.drain source = (reader.rest source).2.2 := by
  rw [drain, skip]
  rcases reader.rest source with ⟨⟨entries, _ | error⟩, last, after⟩ <;> rfl

end Wire.BatchReader

namespace Database

open Conversation (batchItems batchResult)

/-- What a batch does is told by the entries that it is fed with, and with what is dropped after it
the connection is read as far as `read` tells. -/
structure Fed (database : Database) (state : CommitState WireError)
    (read : (List BatchEntry × Option WireError) × BatchReader × Source)
    (fed : (Reply WireError × Database) × BatchReader × Source) : Prop where
  reply : fed.1 = Item.runAll database state (batchItems read.1.1 read.1.2)
  drained : fed.2.1.drain fed.2.2 = read.2.2
  kept : ∀ response, batchResult fed.1.1 = .ok response → fed.2.2 = read.2.2

variable {database : Database} {state : CommitState WireError} {reader : BatchReader} {source : Source}

/-- An undone batch has failed. -/
theorem batchResult_abort (database : Database) (state : CommitState WireError)
    (error : CommitError WireError) (response : Response) :
    batchResult (database.abort state error).1 ≠ .ok response := by
  cases error <;> exact nofun

/-- One entry after another is taken and applied. -/
theorem fed_feed {count : Nat} (left : reader.remaining = count) :
    Fed database state (reader.take count source) (database.feed state count reader source) := by
  induction count generalizing database state reader source with
  | zero => exact ⟨rfl, BatchReader.drain_of_finished rfl, fun _ _ => rfl⟩
  | succ count ih =>
    rcases hentry : Source.entry source with ⟨error | entry, after⟩
    · have hnext := BatchReader.next_of_failure left hentry
      rw [feed, BatchReader.take]
      simp only [hnext]
      exact ⟨rfl, BatchReader.drain_of_finished rfl, fun _ _ => rfl⟩
    · have hnext := BatchReader.next_of_entry left hentry
      have hleft := BatchReader.remaining_advance left
      rcases htake : reader.advance.take count after with ⟨⟨entries, failure⟩, last, settled⟩
      have hitems : batchItems (entry :: entries) failure = .entry entry :: batchItems entries failure :=
        rfl
      rw [feed, BatchReader.take]
      simp only [hnext, htake]
      rcases happly : state.batch.apply database.store entry with ⟨error | batch, store⟩
      · -- The entries that were not taken are the ones that are dropped.
        refine ⟨?_, ?_, fun response hok => absurd hok (batchResult_abort _ _ _ response)⟩
        · rw [hitems, Item.runAll_entry_of_refused happly]
        · rw [BatchReader.drain_eq_rest, BatchReader.rest, hleft, htake]
      · have hfed := @ih { database with store } { state with pulled := state.pulled + 1, batch }
          reader.advance after hleft
        rw [htake] at hfed
        refine ⟨?_, hfed.drained, hfed.kept⟩
        rw [hitems, Item.runAll_entry_of_applied happly]
        exact hfed.reply

/-- A batch that takes its entries one at a time does what it does with all of them. -/
theorem commitFrom_eq (database : Database) (reader : BatchReader) (source : Source) :
    (database.commitFrom reader source).1 =
        (Step.commit reader.number
          (batchItems (reader.rest source).1.1 (reader.rest source).1.2)).run database ∧
      (database.commitFrom reader source).2.1.drain (database.commitFrom reader source).2.2 =
        (reader.rest source).2.2 ∧
      ∀ response, batchResult (database.commitFrom reader source).1.1 = .ok response →
        (database.commitFrom reader source).2.2 = (reader.rest source).2.2 := by
  unfold commitFrom
  cases hopen : database.ensureOpen with
  | error error =>
    rw [Step.run_commit_of_closed hopen]
    exact ⟨rfl, BatchReader.drain_eq_rest, nofun⟩
  | ok _ =>
    rw [Step.run_commit_of_open hopen]
    have hfed := @fed_feed database { batch := Batch.start reader.number } reader source _ rfl
    exact ⟨hfed.reply, hfed.drained, hfed.kept⟩

end Database

namespace Conversation

variable {talk : Conversation} {source : Source}

/-- What is done with a database tells also something that does not depend on it. -/
theorem run_with {α β : Type} (catalog : Catalog) (number : Nat) (action : Database → α × Database)
    (extra : β) :
    catalog.run number (fun database => (((action database).1, extra), (action database).2)) =
      ((catalog.run number action).1.map fun answer => (answer, extra), (catalog.run number action).2) := by
  unfold Catalog.run Depot.run
  cases catalog.depot.database? number <;> rfl

/-- The result of a batch of which all entries that read have been read. -/
def batchOf (reader : BatchReader) (source : Source) (database : Database) :
    Except ServerError Response × Database :=
  let (reply, database) := (Step.commit reader.number
    (batchItems (reader.rest source).1.1 (reader.rest source).1.2)).run database
  (batchResult reply, database)

theorem settle_eq (reader : BatchReader) (source : Source) (database : Database) :
    settle reader source database =
      (((batchOf reader source database).1, (reader.rest source).2.2),
        (batchOf reader source database).2) := by
  obtain ⟨hreply, hdrained, hkept⟩ := database.commitFrom_eq reader source
  rcases hfed : database.commitFrom reader source with ⟨⟨reply, after⟩, last, settled⟩
  rw [hfed] at hreply hdrained hkept
  unfold settle batchOf
  rw [hfed, ← hreply]
  simp only
  cases hresult : batchResult reply with
  | ok response => simp only [← hkept response hresult]
  | error error => simp only [← hdrained]

/-- A batch on the database that has a number is carried out as if it had been read beforehand. -/
theorem feed_eq (number : Nat) (reader : BatchReader) (source : Source) :
    talk.feed number reader source =
      ((talk.run number (batchOf reader source)).1, (talk.run number (batchOf reader source)).2,
        (reader.rest source).2.2) := by
  rw [feed, funext (settle_eq reader source), run_with, BatchReader.drain_eq_rest, Conversation.run]
  rcases talk.host.catalog.run number (batchOf reader source) with ⟨_ | answer, catalog⟩ <;> rfl

theorem commitFrom_of_started {reader : BatchReader} {after : Source}
    (hstart : BatchReader.start source = (.ok reader, after)) :
    talk.commitFrom source =
      ((talk.commit reader.number (reader.rest after).1.1 (reader.rest after).1.2).1,
        (talk.commit reader.number (reader.rest after).1.1 (reader.rest after).1.2).2,
        (reader.rest after).2.2) := by
  rw [commitFrom, hstart, commit, onDatabase]
  simp only
  cases talk.permitted .record .update with
  | error error => rw [BatchReader.drain_eq_rest]
  | ok number => exact feed_eq number reader after

/-- Handling a request is reading its operands and then carrying it out. -/
theorem handle_eq [Codec] [Hashing] (talk : Conversation) (opcode : Opcode) (source : Source) :
    talk.handle opcode source =
      ((talk.performRead (Request.decode opcode source).1).1,
        (talk.performRead (Request.decode opcode source).1).2, (Request.decode opcode source).2) := by
  unfold handle
  split
  · rcases hstart : BatchReader.start source with ⟨error | reader, after⟩
    · have hdecode : Request.decode .commit source = (.error error, after) :=
        Decoder.bind_of_error hstart
      rw [commitFrom, hstart, hdecode]
      rfl
    · have hdecode : Request.decode .commit source =
          (.ok (.commit reader.number (reader.rest after).1.1 (reader.rest after).1.2),
            (reader.rest after).2.2) := Decoder.bind_of_ok hstart
      rw [hdecode]
      exact commitFrom_of_started hstart
  · rfl

/-- Serving a request is reading its operands, carrying it out and answering it. -/
theorem serve_eq [Codec] [Hashing] (talk : Conversation) (opcode : Opcode) (channel : Channel) :
    talk.serve opcode channel =
      let (request, source) := Request.decode opcode channel.source
      let (result, talk) := talk.performRead request
      let (failed, outcome, channel) := answer opcode result { channel with source }
      (outcome, talk.count opcode.code failed, channel) := by
  rw [serve, handle_eq]

end Conversation

end RecordBase
