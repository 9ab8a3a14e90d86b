import RecordBase.Proofs.Server.Agreement
import RecordBase.Proofs.Wire.EntryFrames

/-!
# Where a batch ends

A batch is carried out while its entries are read, so a batch that stops has entries that nobody has
read. They are read and dropped before the failure is answered.

* `Conversation.batch_is_read_to_its_end`: wherever a batch stops, and also if it does not, exactly its
  bytes have been taken, as long as all of its entries read.
* `Conversation.refused_batch_is_left_unread`: an entry that does not read ends the reading for good. What
  is left of its batch, unless it had arrived by then, is taken for requests.
-/

namespace RecordBase

open Wire (Channel Request Response Source Opcode EntryFrame AllWithin encode batchFields entryFields
  replyFields ReplySendable)

namespace Conversation

variable {talk : Conversation} {opcode : Opcode} {channel : Channel} {settled : Source}

/-- What a cycle does on a transport that works: the result is answered if that can be sent, and what is left
of the connection is what the handler left after a success, and after a failure what had not arrived of the
bytes behind the request. -/
theorem cycle_of_answered [Codec] [Hashing] {rest : Bytes} {result : Except ServerError Response}
    {performed : Conversation} {source : Source}
    (delivered : channel.source.pending = opcode.code :: rest) (works : channel.sink.broken = false)
    (hhandled : talk.handle opcode channel.source.atOperands = (result, performed, source))
    (answered : Answered result) (sendable : ReplySendable result)
    (skipped : skipRest opcode source = (.ok (), settled)) :
    (talk.cycle channel).1 = .goOn ∧
      (talk.cycle channel).2.2.sink.sent = channel.sink.written ++ encode (replyFields result) ∧
      (∀ response, result = .ok response → (talk.cycle channel).2.2.source = source) ∧
      ∀ error, result = .error error → (talk.cycle channel).2.2.source = settled.discard.2 := by
  obtain ⟨failed, left, sink, hanswer, hsent, -, hleft⟩ := @answer_of_works opcode
    { channel with source } _ result settled works answered sendable skipped
  rw [cycle_of_number delivered, serve, hhandled]
  simp only [hanswer]
  refine ⟨trivial, hsent, ?_, ?_⟩
  · rintro _ rfl
    exact hleft
  · rintro _ rfl
    exact hleft

/-- The outcome of a batch can be sent, and so can a failure whose wording is not too long. -/
theorem replySendable_commit [Codec] {number : Int32} {entries : List BatchEntry}
    (tellable : ∀ error, (talk.commit number entries none).1 = .error error → error.Tellable) :
    ReplySendable (talk.commit number entries none).1 := by
  cases hresult : (talk.commit number entries none).1 with
  | error error => exact tellable error hresult
  | ok response =>
    cases answers_commit hresult
    exact Response.sendable_outcome _

/-- A request that was read is carried out. -/
theorem handle_of_read [Codec] [Hashing] {source after : Source} {request : Request}
    (hread : Request.decode opcode source = (.ok request, after)) :
    talk.handle opcode source = ((talk.perform request).1, (talk.perform request).2, after) := by
  rw [handle_eq, hread]
  rfl

end Conversation

/-- What is left of a source after what has arrived is dropped. -/
theorem pending_discard_of_past {source settled : Source} {front next : Bytes} {count : Nat}
    (past : source.Past front count settled) (delivered : source.pending = front ++ next) :
    settled.discard.2.pending = next.drop (source.arrived.length - front.length) := by
  have hpending := past.pending_eq delivered
  have harrived : settled.arrived.length = source.arrived.length - front.length := by
    rw [past.arrived, List.length_drop]
  rw [← harrived, ← hpending]
  exact (List.drop_left).symm

namespace Conversation

/-- A batch whose entries all read is read to its end, whether it is carried out, or stops at an entry, or
may not be carried out at all: when it is handled, exactly its bytes have been taken, and then dropping the
rest of the request drops nothing. On a transport that works the result is answered, if the wording of its
failure can be sent, and the next byte that is read comes behind the batch, unless it had arrived before a
failure was answered. -/
theorem batch_is_read_to_its_end [Codec] [Hashing] (talk : Conversation) {channel : Channel} {number : Int32}
    {entries : List BatchEntry} {next : Bytes} (complete : ∀ entry ∈ entries, entry.IsComplete)
    (few : entries.length < 2 ^ 31)
    (within : AllWithin channel.source.limit (entries.flatMap entryFields))
    (delivered : channel.source.pending =
      Opcode.commit.code :: (encode (batchFields number entries) ++ next)) :
    let handled := talk.handle .commit channel.source.atOperands
    handled.2.2.pending = next ∧
      (∃ settled, skipRest .commit handled.2.2 = (.ok (), settled) ∧ settled.pending = next) ∧
      (channel.sink.broken = false → (∀ error, handled.1 = .error error → error.Tellable) →
        (talk.cycle channel).1 = .goOn ∧
          (talk.cycle channel).2.2.sink.sent =
            channel.sink.written ++ encode (replyFields handled.1) ∧
          (∀ response, handled.1 = .ok response → (talk.cycle channel).2.2.source.pending = next) ∧
          ∀ error, handled.1 = .error error → (talk.cycle channel).2.2.source.pending =
            next.drop (channel.source.arrived.length - 1 -
              (encode (batchFields number entries)).length)) := by
  have called : (Request.commit number entries none).Called := .commit number complete few
  obtain ⟨-, hpending, harrived⟩ := Source.word_number delivered
  have hlimit := Source.limit_atOperands delivered
  obtain ⟨after, hread, past⟩ := Request.reads_batch number complete few within
    channel.source.atOperands hlimit ⟨next, hpending.symm⟩
  obtain ⟨settled, hskipped, further⟩ := skipRest_of_read rfl rfl past called.skipOperands
  intro handled
  have hhandled : handled = ((talk.perform (.commit number entries none)).1,
      (talk.perform (.commit number entries none)).2, after) := handle_of_read hread
  rw [hhandled]
  have hafter := past.pending_eq hpending
  refine ⟨hafter, ⟨settled, hskipped, further.pending_eq hpending⟩, fun works tellable => ?_⟩
  obtain ⟨hgoes, hsent, hkept, hdropped⟩ := cycle_of_answered delivered works hhandled
    (answered_of_called called) (replySendable_commit tellable) hskipped
  refine ⟨hgoes, hsent, fun response hok => ?_, fun error hfailed => ?_⟩
  · rw [hkept response hok, hafter]
  · rw [hdropped error hfailed, pending_discard_of_past further hpending, harrived, List.length_drop]

/-- A batch of which the second entry updates a record that there is not. The number of the next request
comes late. -/
def stoppedBatch : List BatchEntry :=
  [.create 0 none (some [1]), .update ⟨0, 7⟩ 0 (some [2]), .delete ⟨0, -2⟩ 0]

def stopping : Channel where
  source := { arrived := Opcode.commit.code :: encode (batchFields 1 stoppedBatch), late := [7] }

/-- The failure that a result tells. -/
def failure? {ε α : Type} : Except ε α → Option ε
  | .error error => some error
  | .ok _ => none

theorem eq_of_failure? {ε α : Type} {result : Except ε α} {error : ε}
    (h : failure? result = some error) : result = .error error := by
  cases result <;> cases h
  rfl

theorem handle_stopping : (settled.handle .commit stopping.source.atOperands).1 =
    .error (.database (.recordNotFound ⟨0, 7⟩)) :=
  eq_of_failure? (by decide +kernel)

theorem batch_is_read_to_its_end_of_stopping :
    (settled.handle .commit stopping.source.atOperands).1 =
        .error (.database (.recordNotFound ⟨0, 7⟩)) ∧
      (settled.cycle stopping).1 = .goOn ∧ (settled.cycle stopping).2.2.source.pending = [7] := by
  have delivered : stopping.source.pending =
      Opcode.commit.code :: (encode (batchFields 1 stoppedBatch) ++ [7]) := rfl
  obtain ⟨-, -, hcycle⟩ := @batch_is_read_to_its_end _ _ settled stopping 1 stoppedBatch [7]
    (by simp [stoppedBatch, BatchEntry.IsComplete]) (by decide) (by decide +kernel) delivered
  have tellable : ∀ error, (settled.handle .commit stopping.source.atOperands).1 = .error error →
      error.Tellable := by
    rw [handle_stopping]
    rintro _ ⟨⟩
    decide
  obtain ⟨hgoes, -, -, hpending⟩ := hcycle rfl tellable
  refine ⟨handle_stopping, hgoes, (hpending _ handle_stopping).trans ?_⟩
  decide +kernel

/-! ## Batches that do not read -/

/-- A batch whose entries do not all read fails at an entry that the store refuses, or with what could not
be read. -/
theorem batchResult_of_failure (cause : WireError) (entries : List BatchEntry) (database : Database)
    (state : CommitState WireError) :
    ∃ error, batchResult (Item.runAll database state (batchItems entries (some cause))).1 = .error error ∧
      (error.isTransport = true → cause = .closed) := by
  induction entries generalizing database state with
  | nil =>
    refine ⟨.wire cause, rfl, fun h => ?_⟩
    cases cause <;> first | rfl | cases h
  | cons entry rest ih =>
    have hitems : batchItems (entry :: rest) (some cause) = .entry entry :: batchItems rest (some cause) :=
      rfl
    rw [hitems]
    rcases happly : state.batch.apply database.store entry with ⟨error | batch, store⟩
    · rw [Item.runAll_entry_of_refused happly]
      exact ⟨.database error, rfl, nofun⟩
    · rw [Item.runAll_entry_of_applied happly]
      exact ih _ _

/-- Such a batch fails whoever commits it, and is answered unless it is the transport that has ended. -/
theorem commit_of_failure (talk : Conversation) (number : Int32) (entries : List BatchEntry)
    (cause : WireError) :
    ∃ error, (talk.commit number entries (some cause)).1 = .error error ∧
      (error.isTransport = true → cause = .closed) := by
  have hpermitted := @answered_permitted talk .record .update
  unfold commit onDatabase
  cases hnumber : talk.permitted .record .update with
  | error error => exact ⟨error, rfl, fun h => Bool.noConfusion ((hpermitted error hnumber).symm.trans h)⟩
  | ok found =>
    simp only [run_fst]
    cases talk.host.catalog.depot.database? found with
    | none => exact ⟨_, rfl, nofun⟩
    | some database =>
      simp only
      cases hopen : database.ensureOpen with
      | error error =>
        rw [Step.run_commit_of_closed hopen]
        exact ⟨_, rfl, nofun⟩
      | ok _ =>
        rw [Step.run_commit_of_open hopen]
        exact batchResult_of_failure cause entries database _

/-- After a refused entry only what is owed of it is dropped. -/
theorem skipRest_of_refused {source after settled : Source} {front : Bytes} {count : Nat}
    (htaken : source.taken = some 0) (hskipped : Source.skipOwed after = (.ok after.owed, settled))
    (past : source.Past front (count + 2) settled) : skipRest .commit after = (.ok (), settled) := by
  have htook : settled.taken = some (count + 2) := by
    rw [past.taken, htaken, Option.map_some, Nat.zero_add]
  refine (Wire.Decoder.bind_of_ok hskipped).trans ?_
  simp only [unreadOperands, htook, skipOperands_commit]
  rfl

/-- A batch with an entry that does not read fails, and after its failure the connection is left behind the
field that was refused: the rest of the entry and all the later entries have not been taken. So the
connection is at the end of the batch only if the refused entry is the last one and was not refused for its
name. On a transport that works the failure is answered, if its wording can be sent, and of the entries
that were not taken only what had arrived by then is dropped. -/
theorem refused_batch_is_left_unread [Codec] [Hashing] (talk : Conversation) {channel : Channel}
    {number : Int32} {frames : List EntryFrame} {next : Bytes}
    (small : ∀ frame ∈ frames, frame.Small) (few : frames.length < 2 ^ 31)
    (refused : ∃ frame ∈ frames, ¬ frame.Accepted channel.source.limit)
    (delivered : channel.source.pending =
      Opcode.commit.code :: (encode (EntryFrame.batchFields number frames) ++ next)) :
    let handled := talk.handle .commit channel.source.atOperands
    let unread := encode (EntryFrame.unread channel.source.limit frames)
    ∃ error front settled, handled.1 = .error error ∧
      encode (EntryFrame.batchFields number frames) = front ++ unread ∧
      skipRest .commit handled.2.2 = (.ok (), settled) ∧ settled.pending = unread ++ next ∧
      (settled.pending = next ↔ ∃ before last, frames = before ++ [last] ∧
        (∀ frame ∈ before, frame.Accepted channel.source.limit) ∧
        ¬ last.Accepted channel.source.limit ∧ last.behind channel.source.limit = []) ∧
      (channel.sink.broken = false → error.Tellable →
        (talk.cycle channel).1 = .goOn ∧
          (talk.cycle channel).2.2.sink.sent =
            channel.sink.written ++ encode (replyFields (.error error)) ∧
          (talk.cycle channel).2.2.source.pending =
            (unread ++ next).drop (channel.source.arrived.length - 1 - front.length)) := by
  intro handled unread
  have howed : channel.source.atOperands.owed = 0 := rfl
  obtain ⟨-, hpending, harrived⟩ := Source.word_number delivered
  have hlimit := Source.limit_atOperands delivered
  obtain ⟨entries, cause, after, hdecode, hopen, front, count, settled, hfields, hskipped, past⟩ :=
    @Request.decode_of_refused _ number frames channel.source.atOperands howed few small
      (hlimit.symm ▸ refused) ⟨next, hpending.symm⟩
  rw [hlimit] at hfields
  obtain ⟨error, hfailed, htransport⟩ := commit_of_failure talk number entries cause
  have hhandled : handled = (.error error, (talk.commit number entries (some cause)).2, after) := by
    rw [← hfailed]
    exact handle_of_read hdecode
  have hskip := skipRest_of_refused rfl hskipped past
  have hfront : channel.source.atOperands.pending = front ++ (unread ++ next) := by
    rw [hpending, hfields, List.append_assoc]
  have hsettled : settled.pending = unread ++ next := past.pending_eq hfront
  rw [hhandled]
  refine ⟨error, front, settled, rfl, hfields, hskip, hsettled, ?_, fun works tellable => ?_⟩
  · rw [hsettled, ← EntryFrame.unread_eq_nil_iff refused, List.append_left_eq_self]
    exact Wire.encode_eq_nil_iff _
  · have answered : Answered (.error error : Except ServerError Response) := by
      rintro _ ⟨⟩
      exact Bool.eq_false_iff.2 fun h => hopen (htransport h)
    obtain ⟨hgoes, hsent, -, hdropped⟩ :=
      cycle_of_answered delivered works hhandled answered tellable hskip
    refine ⟨hgoes, hsent, ?_⟩
    rw [hdropped error rfl, pending_discard_of_past past hfront, harrived, List.length_drop]

/-- Two creations, of which the first has no content. -/
def refusedBatch : List EntryFrame := [.create 0 none none, .create 0 none (some [1])]

/-- A connection on which the second of them comes late, and the number of the next request behind it. -/
def lateBatch : Channel where
  source := {
    arrived := Opcode.commit.code :: encode ([.int 1, .int 2] ++ EntryFrame.fields (.create 0 none none))
    late := encode (EntryFrame.fields (.create 0 none (some [1]))) ++ [7] }

theorem refused_batch_is_left_unread_of_lateBatch :
    (settled.cycle lateBatch).1 = .goOn ∧
      (settled.cycle lateBatch).2.2.source.pending =
        encode (EntryFrame.fields (.create 0 none (some [1]))) ++ [7] := by
  have delivered : lateBatch.source.pending =
      Opcode.commit.code :: (encode (EntryFrame.batchFields 1 refusedBatch) ++ [7]) := by
    decide +kernel
  obtain ⟨error, front, -, hfailed, hfront, -, -, -, hcycle⟩ :=
    @refused_batch_is_left_unread _ _ settled lateBatch 1 refusedBatch [7]
      (by simp [refusedBatch, EntryFrame.Small]) (by decide)
      ⟨.create 0 none none, List.mem_cons_self, by decide⟩ delivered
  have tellable : error.Tellable := by
    have htold : ((failure? (settled.handle .commit lateBatch.source.atOperands).1).all
      fun error => decide error.Tellable) = true := by decide +kernel
    rw [hfailed] at htold
    exact of_decide_eq_true htold
  obtain ⟨hgoes, -, hpending⟩ := hcycle rfl tellable
  have hlength := congrArg List.length hfront
  rw [List.length_append] at hlength
  have hunread : encode (EntryFrame.unread lateBatch.source.limit refusedBatch) =
      encode (EntryFrame.fields (.create 0 none (some [1]))) := by decide +kernel
  have harrived : (encode (EntryFrame.batchFields 1 refusedBatch)).length =
      lateBatch.source.arrived.length - 1 +
        (encode (EntryFrame.fields (.create 0 none (some [1])))).length := by
    decide +kernel
  rw [hunread] at hlength hpending
  have honTime : lateBatch.source.arrived.length - 1 - front.length = 0 := by omega
  rw [honTime] at hpending
  exact ⟨hgoes, hpending⟩

/-- The bytes of that entry are then taken for a request: its status is the number of a request to
connect. -/
theorem entry_is_taken_for_request :
    lateBatch.source.pending =
        Opcode.commit.code :: (encode (EntryFrame.batchFields 1 refusedBatch) ++ [7]) ∧
      (settled.cycle lateBatch).1 = .goOn ∧
      (Source.word UInt8 (settled.cycle lateBatch).2.2.source).1 = .ok Opcode.connect.code := by
  decide +kernel

end Conversation

end RecordBase
