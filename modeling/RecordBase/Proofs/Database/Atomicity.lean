import RecordBase.Proofs.Database.Reached
import RecordBase.Proofs.Store.Alike
import RecordBase.Proofs.Store.Refusal

/-!
# A failed batch leaves no trace

With nothing else going on, the entries of a batch are undone from what each of them left, so if the
journal takes the appends of the rollback nothing remains of a batch that fails, for whatever reason:

* `Database.failed_batch_leaves_no_trace`: every look at the database gives what it gave before,
  also once its log is opened anew, and the items after the failing one have no part in it.
-/

namespace RecordBase

section Run

variable {ε : Type} {error : CommitError ε} {inner : List (Reply ε)} {pulled : Nat}

/-! ## Batches without steps between their entries -/

/-- A batch that fails, from some point on: if of the appends to come the journal refuses none but
that of the failing entry, there is what there was at the start. -/
theorem Item.alike_of_failed {start : Contents} {items : List (Item ε)} {database after : Database}
    {state : CommitState ε} (alone : ∀ step, Item.step step ∉ items)
    (sound : database.store.contents.Sound) (syncs : database.store.journal.SyncsHold)
    (undoable : Undo.Pending Contents.Alike start state.batch.undo database.store.contents)
    (applied : state.batch.undo.length = state.pulled)
    (run : Item.runAll database state items = (.commit (.error error) inner pulled, after))
    (taken : ∀ n, n + state.pulled < 2 * pulled →
      database.store.journal.refusals.fate false n = true →
      n + state.pulled + 1 = pulled ∧ error = .store Journal.refusal) :
    start.Alike after.store.contents := by
  induction items generalizing database state with
  | nil => cases run
  | cons item rest ih =>
    have hrest : ∀ step, Item.step step ∉ rest := fun step h =>
      alone step (List.mem_cons_of_mem _ h)
    cases item with
    | entry entry =>
      rcases happly : state.batch.apply database.store entry with ⟨failure | batch, store⟩
      · obtain ⟨hcontents, hsyncs, hjournal⟩ := Batch.refused_of_apply sound syncs happly
        rw [runAll_entry_of_refused happly] at run
        cases run
        refine Batch.foldl_undoOne_alike (hcontents ▸ undoable) hsyncs fun n hn => ?_
        simp only at hn taken
        rcases hjournal with ⟨hne, hjournal⟩ | hshift
        · rw [hjournal, ← Bool.not_eq_true]
          intro hrefused
          exact hne (CommitError.store.inj (taken n (by omega) hrefused).2)
        · rw [hshift, ← Bool.not_eq_true]
          intro hrefused
          have := (taken (n + 1) (by omega) hrefused).1
          omega
      · obtain ⟨undo, listing, old, new, wrote, hundo, hcontents, hshift⟩ :=
          Batch.wrote_of_apply sound happly
        have hsyncs := (Batch.apply_of_law Store.Law.follows sound happly).syncsHold syncs
        rw [runAll_entry_of_applied happly] at run
        refine ih hrest (Batch.sound_advances_apply sound happly).1 hsyncs ?_ ?_ run
          fun n hn hrefused => ?_
        · rw [hundo, hcontents]
          exact .cons undoable sound wrote (.refl _)
        · rw [hundo, List.length_cons, applied]
        · rw [hshift] at hrefused
          simp only at hn ⊢
          have := taken (n + 1) (by omega) hrefused
          exact ⟨by omega, this.2⟩
    | failure cause =>
      cases run
      refine Batch.foldl_undoOne_alike undoable syncs fun n hn => ?_
      simp only at hn taken
      rw [← Bool.not_eq_true]
      intro hrefused
      cases (taken n (by omega) hrefused).2
    | step step => exact absurd List.mem_cons_self (alone step)

/-- The items after the one at which a batch fails have no part in it. -/
theorem Item.runAll_take {items : List (Item ε)} {database after : Database} {state : CommitState ε}
    (alone : ∀ step, Item.step step ∉ items)
    (run : Item.runAll database state items = (.commit (.error error) inner pulled, after))
    (more : List (Item ε)) :
    state.pulled < pulled ∧
      Item.runAll database state (items.take (pulled - state.pulled) ++ more) =
        (.commit (.error error) inner pulled, after) := by
  induction items generalizing database state with
  | nil => cases run
  | cons item rest ih =>
    have hrest : ∀ step, Item.step step ∉ rest := fun step h =>
      alone step (List.mem_cons_of_mem _ h)
    cases item with
    | entry entry =>
      rcases happly : state.batch.apply database.store entry with ⟨failure | batch, store⟩
      · rw [runAll_entry_of_refused happly] at run
        obtain rfl : state.pulled + 1 = pulled := by
          cases run
          rfl
        rw [Nat.add_sub_cancel_left, List.take_succ_cons, List.cons_append,
          runAll_entry_of_refused happly]
        exact ⟨Nat.lt_succ_self _, run⟩
      · rw [runAll_entry_of_applied happly] at run
        obtain ⟨hlt, hrun⟩ := ih hrest run
        simp only at hlt hrun
        have hsub : pulled - state.pulled = pulled - (state.pulled + 1) + 1 := by omega
        rw [hsub, List.take_succ_cons, List.cons_append, runAll_entry_of_applied happly]
        exact ⟨by omega, hrun⟩
    | failure cause =>
      obtain rfl : state.pulled + 1 = pulled := by
        cases run
        rfl
      rw [Nat.add_sub_cancel_left, List.take_succ_cons, List.cons_append]
      exact ⟨Nat.lt_succ_self _, run⟩
    | step step => exact absurd List.mem_cons_self (alone step)

end Run

namespace Database

variable {ε : Type}

/-- A batch between whose entries nothing else runs fails while no sync fails and no append is
refused but, if that is what it fails for, the one of its last entry. Then the database holds what it
held before, except that positions may have been handed out, and answers every look as before. So
does the database opened anew over its log, if that log has told all of it and all its entries are
small. The items after the failing one are not looked at. -/
theorem failed_batch_leaves_no_trace {database after : Database} {number : Int32}
    {items : List (Item ε)} {error : CommitError ε} {inner : List (Reply ε)} {pulled : Nat}
    (reached : Reached ε database) (syncs : database.store.journal.SyncsHold)
    (alone : ∀ step, Item.step step ∉ items)
    (fails : (Step.commit number items).run database = (.commit (.error error) inner pulled, after))
    (taken : ∀ n < 2 * pulled, database.store.journal.refusals.fate false n = true →
      n + 1 = pulled ∧ error = .store Journal.refusal) :
    database.store.contents.Alike after.store.contents ∧
      database.store.AnswersAs after.store ∧
      (Durable ε database →
        Store.SmallAppends database.store.logSize ((Step.commit number items).course database) →
        ∀ name mode victims journal,
          journal.medium.Holds after.store.journal.medium.bytes →
          ∃ reopened last,
            ofJournal name mode database.settings journal victims = (.ok reopened, last) ∧
            database.store.AnswersAs reopened.store) ∧
      ∀ more, (Step.commit number (items.take pulled ++ more)).run database =
        (.commit (.error error) inner pulled, after) := by
  obtain ⟨sound, coherent⟩ := reached.sound_coherent
  have hafter : after = ((Step.commit number items).run database).2 := by rw [fails]
  have hreached : Reached ε after := by
    rw [hafter]
    exact .stepped reached _
  have alike : database.store.contents.Alike after.store.contents := by
    cases hopen : database.ensureOpen with
    | error failure =>
      rw [Step.run_commit_of_closed hopen] at fails
      cases fails
      exact .refl _
    | ok _ =>
      rw [Step.run_commit_of_open hopen] at fails
      exact Item.alike_of_failed alone sound syncs (.nil (.refl _)) rfl fails taken
  refine ⟨alike, Store.answersAs_of_alike alike coherent hreached.sound_coherent.2,
    fun durable small name mode victims journal whole => ?_, fun more => ?_⟩
  · have hdurable : Durable ε after := by
      rw [hafter]
      exact .stepped durable _ small
    obtain ⟨reopened, last, hopen, hcontents, hcoherent⟩ :=
      hdurable.reopen whole name mode victims
    have hsettings : after.settings = database.settings := by
      rw [hafter]
      exact Step.settings_run _ _
    rw [hsettings] at hopen
    refine ⟨reopened, last, hopen, Store.answersAs_of_alike ?_ coherent hcoherent⟩
    rw [hcontents]
    exact alike
  · cases hopen : database.ensureOpen with
    | error failure =>
      rw [Step.run_commit_of_closed hopen] at fails ⊢
      exact fails
    | ok _ =>
      rw [Step.run_commit_of_open hopen] at fails ⊢
      exact (Item.runAll_take alone fails more).2

/-- A batch whose source fails after a creation. -/
theorem failed_batch_leaves_no_trace_of_creation :
    let items : List (Item Unit) := [.entry (.create 0 none (some [1])), .failure ()]
    let after := ((Step.commit 1 items).run plain).2
    after.store.logSize ≠ plain.store.logSize ∧ plain.store.AnswersAs after.store := by
  intro items after
  have fails : (Step.commit 1 items).run plain = (.commit (.error (.source ())) [] 2, after) := rfl
  have alone : ∀ step, Item.step step ∉ items := by simp [items]
  have shown := failed_batch_leaves_no_trace (.opened ofJournal_plain) plain_willing.syncsHold alone
    fails (fun n _ refused => by
      rw [plain_willing.accepts n] at refused
      cases refused)
  have grew : after.store.logSize ≠ plain.store.logSize := by decide +kernel
  exact ⟨grew, shown.2.1⟩

end Database

end RecordBase
