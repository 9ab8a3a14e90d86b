import RecordBase.Proofs.Database.Reached
import RecordBase.Proofs.Store.History
import RecordBase.Proofs.Store.Refusal

/-!
# The history of a record

A database goes through complete steps, one after another, and is opened anew over its whole log in
between (`Database.History`). A single operation or a batch that is kept updates the records that its
reply tells (`Step.updated`); a batch that is given up updates none, since the journal takes the appends
of its rollback (`Step.UndoTaken`). So every such step ages what the database holds
(`Step.ages_run`), and so does opening its log (`Store.ages_ofJournal`).

* `Database.record_history`: between any two moments the version of a record rises by the number of its
  updates, a record seen with one version is the same, and a record once deleted does not come back.
-/

namespace RecordBase

variable {ε : Type}

/-! ## Steps -/

/-- The records that a step has updated, as its reply tells. -/
def Step.updated : Step ε → Reply ε → List RecordId
  | .operation (.update id _ _ _), .answer (.version _) => [id]
  | .commit _ _, .commit (.ok outcome) _ _ => outcome.updated.map (·.1)
  | _, _ => []

/-- Nothing else happens while the step runs. -/
def Step.Alone : Step ε → Prop
  | .operation _ => True
  | .commit _ items => ∀ step, Item.step step ∉ items

/-- What the database holds and the batch has done at the moment when the batch is given up, if it is. -/
def Item.givenUp? (database : Database) (batch : Batch) : List (Item ε) → Option (Store × Batch)
  | [] => none
  | .entry change :: rest =>
    match batch.apply database.store change with
    | (.error _, store) => some (store, batch)
    | (.ok batch, store) => Item.givenUp? { database with store } batch rest
  | .failure _ :: _ => some (database.store, batch)
  | .step other :: rest => Item.givenUp? (other.run database).2 batch rest

def Step.givenUp? (database : Database) : Step ε → Option (Store × Batch)
  | .operation _ => none
  | .commit number items =>
    match database.ensureOpen with
    | .error _ => none
    | .ok () => Item.givenUp? database (Batch.start number) items

/-- If the step is a batch that is given up, the journal refuses no append of the rollback. -/
def Step.UndoTaken (step : Step ε) (database : Database) : Prop :=
  ∀ store batch, step.givenUp? database = some (store, batch) →
    ∀ n < batch.undo.length, store.journal.refusals.fate false n = false

/-! ## Single operations -/

namespace Operation

variable {database : Database}

/-- Every operation but an update writes no record where there is one. -/
theorem plan?_spares {operation : Operation} {plan : Plan Answer}
    (sound : database.store.contents.Sound) (h : operation.plan? database.store = some plan)
    (other : ∀ id content version type, operation ≠ .update id content version type) :
    plan.Each Contents.Spares database.store.contents := by
  cases operation with
  | create cluster content type =>
    obtain rfl := Option.some.inj h
    exact (Store.createPlan_spares sound cluster content type).map _
  | update id content version type => exact absurd rfl (other id content version type)
  | delete id version =>
    obtain rfl := Option.some.inj h
    exact (Store.removePlan_spares sound id version).map _
  | addPhysical name file size =>
    obtain rfl := Option.some.inj h
    exact (database.store.addPhysicalPlan_spares name file size).map _
  | addLogical name container =>
    obtain rfl := Option.some.inj h
    exact (Store.addLogicalPlan_spares sound name container).map _
  | bind key id =>
    obtain rfl := Option.some.inj h
    exact ((Store.bindPlan_proceeds database.store key id).spares nofun).map _
  | unbind key =>
    obtain rfl := Option.some.inj h
    exact (database.store.unbindPlan_spares key).map _
  | _ => cases h

theorem ages_run (operation : Operation) (sound : database.store.contents.Sound) :
    database.store.contents.Ages
      ((Step.operation operation : Step ε).updated (.answer (operation.run database).1))
      (operation.run database).2.store.contents := by
  have hother (h : ∀ id content version type, operation ≠ .update id content version type) :
      database.store.contents.Ages [] (operation.run database).2.store.contents := by
    cases hplan : operation.plan? database.store with
    | some plan =>
      rw [run_of_plan hplan]
      exact Store.ages_perform sound (plan?_spares sound hplan h)
    | none =>
      rw [(idle_run hplan).contents]
      exact .refl _
  cases operation with
  | update id content version type =>
    simp only [run, Database.onStore, Store.update_eq, Store.perform_map]
    rcases hperform : database.store.perform (database.store.replacePlan id content version (some type))
      with ⟨error | records, after⟩
    · simp only [Answer.ofResult, Step.updated]
      rw [Store.contents_of_replacePlan_failed hperform]
      exact .refl _
    · exact Store.ages_replacePlan sound hperform
  | _ => exact hother (by rintro _ _ _ _ ⟨⟩)

end Operation

/-! ## Batches -/

/-- An entry that was applied is one update of a record, or none. -/
theorem Batch.ages_of_apply {store after : Store} {batch next : Batch} {entry : BatchEntry}
    (sound : store.contents.Sound) (h : batch.apply store entry = (.ok next, after)) :
    ∃ more, next.outcome.updated = batch.outcome.updated ++ more ∧
      store.contents.Ages (more.map (·.1)) after.contents := by
  rw [apply_eq] at h
  cases entry with
  | create cluster name content =>
    cases content with
    | none => cases h
    | some content =>
      simp only [plan] at h
      split at h
      · cases h
      · rename_i target htarget
        obtain ⟨record, hperform, rfl⟩ := Store.ok_of_perform_map h
        have hages := Store.ages_perform sound (Store.createPlan_spares sound target content .document)
        rw [hperform] at hages
        exact ⟨[], (List.append_nil _).symm, hages⟩
  | update id version content =>
    cases content with
    | none => cases h
    | some content =>
      simp only [plan] at h
      split at h
      · cases h
      · rename_i meant hmeant
        obtain ⟨⟨updated, previous⟩, hperform, rfl⟩ := Store.ok_of_perform_map h
        exact ⟨[(meant, updated.version)], rfl, Store.ages_replacePlan sound hperform⟩
  | delete id version =>
    simp only [plan] at h
    split at h
    · cases h
    · rename_i meant hmeant
      obtain ⟨record, hperform, rfl⟩ := Store.ok_of_perform_map h
      have hages := Store.ages_perform sound (Store.removePlan_spares sound meant version)
      rw [hperform] at hages
      exact ⟨[], (List.append_nil _).symm, hages⟩

namespace Item

variable {items : List (Item ε)} {database after : Database} {state : CommitState ε}
  {inner : List (Reply ε)} {pulled : Nat}

/-- The rest of a batch that is kept ages the contents by the updates that it adds to the outcome. -/
theorem ages_of_kept {outcome : Outcome} (alone : ∀ step, Item.step step ∉ items)
    (sound : database.store.contents.Sound)
    (run : Item.runAll database state items = (.commit (.ok outcome) inner pulled, after)) :
    ∃ more, outcome.updated = state.batch.outcome.updated ++ more ∧
      database.store.contents.Ages (more.map (·.1)) after.store.contents := by
  induction items generalizing database state with
  | nil =>
    cases run
    exact ⟨[], (List.append_nil _).symm, .refl _⟩
  | cons item rest ih =>
    have hrest : ∀ step, Item.step step ∉ rest := fun step h =>
      alone step (List.mem_cons_of_mem _ h)
    cases item with
    | entry entry =>
      rcases happly : state.batch.apply database.store entry with ⟨error | next, store⟩
      · rw [runAll_entry_of_refused happly] at run
        cases run
      · rw [runAll_entry_of_applied happly] at run
        obtain ⟨first, hfirst, hages⟩ := Batch.ages_of_apply sound happly
        obtain ⟨more, hmore, hothers⟩ := ih hrest (Batch.sound_advances_apply sound happly).1 run
        refine ⟨first ++ more, ?_, ?_⟩
        · rw [hmore, hfirst, List.append_assoc]
        · rw [List.map_append]
          exact hages.trans sound hothers
    | failure cause => cases run
    | step step => exact absurd List.mem_cons_self (alone step)

/-- The rest of a batch that is given up leaves what there was at its start, positions handed out
aside, if the journal takes the appends of the rollback. -/
theorem alike_of_givenUp {start : Contents} {error : CommitError ε}
    (alone : ∀ step, Item.step step ∉ items) (sound : database.store.contents.Sound)
    (syncs : database.store.journal.SyncsHold)
    (undoable : Undo.Pending Contents.Alike start state.batch.undo database.store.contents)
    (taken : ∀ store batch, Item.givenUp? database state.batch items = some (store, batch) →
      ∀ n < batch.undo.length, store.journal.refusals.fate false n = false)
    (run : Item.runAll database state items = (.commit (.error error) inner pulled, after)) :
    start.Alike after.store.contents := by
  induction items generalizing database state with
  | nil => cases run
  | cons item rest ih =>
    have hrest : ∀ step, Item.step step ∉ rest := fun step h =>
      alone step (List.mem_cons_of_mem _ h)
    cases item with
    | entry entry =>
      rcases happly : state.batch.apply database.store entry with ⟨failure | next, store⟩
      · obtain ⟨hcontents, hsyncs, -⟩ := Batch.refused_of_apply sound syncs happly
        rw [runAll_entry_of_refused happly] at run
        cases run
        have hgiven : Item.givenUp? database state.batch (.entry entry :: rest) =
            some (store, state.batch) := by simp only [givenUp?, happly]
        exact Batch.foldl_undoOne_alike (hcontents ▸ undoable) hsyncs (taken store state.batch hgiven)
      · obtain ⟨undo, listing, old, new, wrote, hundo, hcontents, -⟩ :=
          Batch.wrote_of_apply sound happly
        have hsyncs := (Batch.apply_of_law Store.Law.follows sound happly).syncsHold syncs
        rw [runAll_entry_of_applied happly] at run
        refine ih hrest (Batch.sound_advances_apply sound happly).1 hsyncs ?_ ?_ run
        · rw [hundo, hcontents]
          exact .cons undoable sound wrote (.refl _)
        · intro last batch hgiven
          refine taken last batch ?_
          simp only [givenUp?, happly]
          exact hgiven
    | failure cause =>
      cases run
      exact Batch.foldl_undoOne_alike undoable syncs (taken database.store state.batch rfl)
    | step step => exact absurd List.mem_cons_self (alone step)

end Item

/-- A complete step ages what the database holds by the updates that its reply tells. -/
theorem Step.ages_run (step : Step ε) {database : Database} (alone : step.Alone)
    (sound : database.store.contents.Sound) (syncs : database.store.journal.SyncsHold)
    (taken : step.UndoTaken database) :
    database.store.contents.Ages (step.updated (step.run database).1)
      (step.run database).2.store.contents := by
  cases step with
  | operation operation => exact operation.ages_run sound
  | commit number items =>
    cases hopen : database.ensureOpen with
    | error error =>
      rw [run_commit_of_closed hopen]
      exact .refl _
    | ok _ =>
      rw [run_commit_of_open hopen]
      have hgiven : ∀ store batch, Item.givenUp? database (Batch.start number) items =
          some (store, batch) → ∀ n < batch.undo.length, store.journal.refusals.fate false n = false :=
        fun store batch h => taken store batch (by simp only [givenUp?, hopen, h])
      obtain ⟨result, inner, pulled, hreply⟩ :=
        Item.runAll_reply items database { batch := Batch.start number }
      rcases hrun : Item.runAll database { batch := Batch.start number } items with ⟨reply, after⟩
      rw [hrun] at hreply
      subst hreply
      cases result with
      | ok outcome =>
        obtain ⟨more, hmore, hages⟩ := Item.ages_of_kept alone sound hrun
        have hupdated : outcome.updated = more := hmore
        rw [← hupdated] at hages
        exact hages
      | error error =>
        exact .of_alike sound (Item.alike_of_givenUp alone sound syncs (.nil (.refl _)) hgiven hrun)

/-! ## Opening anew -/

/-- What a store opened over the whole log of another holds has aged by no update, also if the first
clusters were added to it. -/
theorem Store.ages_ofJournal {before after : Store} {entries : List LogEntry} {settings : Settings}
    {victims : Nat → Nat} {journal last : Journal} (logs : before.Logs entries)
    (whole : journal.medium.Holds before.journal.medium.bytes)
    (h : ofJournal settings victims journal = (.ok after, last)) :
    before.contents.Ages [] after.contents := by
  obtain ⟨start, hcontents, hages⟩ := ofJournal_of_law Law.ages
    (fun store name => store.addPhysicalPlan_spares name none (-1)) logs whole h
  rw [hcontents] at hages
  exact (hages (Contents.Sound.empty.applyAll logs.rebuilt)).2

namespace Database

/-- What becomes of a database in complete steps and by opening its whole log anew, with the records
updated in turn: any appends may be refused but those of a rollback, no sync fails, and every entry has
fewer than `2 ^ 32` bytes. -/
inductive History (ε : Type) (first : Database) : List RecordId → Database → Prop
  | start : History ε first [] first
  | stepped {updated : List RecordId} {database : Database}
      (history : History ε first updated database) (step : Step ε) (alone : step.Alone)
      (taken : step.UndoTaken database)
      (small : Store.SmallAppends database.store.logSize (step.course database)) :
      History ε first (updated ++ step.updated (step.run database).1) (step.run database).2
  | reopened {updated : List RecordId} {database reopened : Database} {name : String}
      {mode : StorageMode} {settings : Settings} {victims : Nat → Nat} {journal after : Journal}
      (history : History ε first updated database)
      (whole : journal.medium.Holds database.store.journal.medium.bytes) (syncs : journal.SyncsHold)
      (opens : ofJournal name mode settings journal victims = (.ok reopened, after))
      (small : Store.SmallAppends database.store.logSize
        (Store.openingCourse settings victims journal)) :
      History ε first updated reopened

variable {first last : Database} {updated : List RecordId}

theorem History.durable (history : History ε first updated last) (durable : Durable ε first) :
    Durable ε last := by
  induction history with
  | start => exact durable
  | stepped history step _ _ small ih => exact .stepped ih step small
  | reopened _ whole syncs opens small ih => exact ih.reopened_whole whole syncs opens small

theorem History.ages (history : History ε first updated last) (durable : Durable ε first) :
    first.store.contents.Ages updated last.store.contents := by
  have sound := durable.reached.sound_coherent.1
  induction history with
  | start => exact .refl _
  | stepped history step alone taken small ih =>
    have hdurable := history.durable durable
    exact ih.trans sound (step.ages_run alone hdurable.reached.sound_coherent.1 hdurable.logs.2.1 taken)
  | reopened history whole syncs opens small ih =>
    obtain ⟨⟨entries, hlogs⟩, -, -⟩ := (history.durable durable).logs
    have hages := ih.trans sound (Store.ages_ofJournal hlogs whole (ofJournal_ok opens).1)
    rwa [List.append_nil] at hages

theorem Reached.read_eq_some_iff {database : Database} (reached : Reached ε database) {id : RecordId}
    {record : Record} :
    (database.store.read id).1 = .ok (some record) ↔
      id.isValid = true ∧ database.store.contents.record? id = some record := by
  rw [Store.read_eq_readUncached reached.sound_coherent.2, Store.readUncached_eq_some_iff]

/-- The history of an identity, between any three moments of a run. Whenever it is seen twice, its
version has not fallen and has risen by the number of its updates in between, and if it is the same, so
is the record with its type and content. Once it has been seen and then is gone, it does not come
back. -/
theorem record_history {first middle last : Database} {updated more : List RecordId}
    (durable : Durable ε first) (earlier : History ε first updated middle)
    (later : History ε middle more last) (id : RecordId) :
    (∀ old new, (middle.store.read id).1 = .ok (some old) → (last.store.read id).1 = .ok (some new) →
      old.version ≤ new.version ∧ new.version.toInt = old.version.toInt + more.count id ∧
        (new.version = old.version → new = old)) ∧
    ∀ old, (first.store.read id).1 = .ok (some old) →
      (∀ record, (middle.store.read id).1 ≠ .ok (some record)) →
      ∀ record, (last.store.read id).1 ≠ .ok (some record) := by
  have hmiddle := earlier.durable durable
  have hlast := later.durable hmiddle
  have sound := hmiddle.reached.sound_coherent.1
  have hages := later.ages hmiddle
  constructor
  · intro old new hold hnew
    rw [hmiddle.reached.read_eq_some_iff] at hold
    rw [hlast.reached.read_eq_some_iff] at hnew
    have hversions := hages.versions hold.2 hnew.2
    refine ⟨?_, hversions, hages.advances.record_eq sound hold.2 hnew.2⟩
    rw [Int32.le_iff_toInt_le]
    omega
  · intro old hold hgone record hnew
    rw [durable.reached.read_eq_some_iff] at hold
    rw [hlast.reached.read_eq_some_iff] at hnew
    have hmissing : middle.store.contents.record? id = none := by
      rw [Option.eq_none_iff_forall_ne_some]
      intro found hfound
      exact hgone found (hmiddle.reached.read_eq_some_iff.2 ⟨hold.1, hfound⟩)
    have hstays := (earlier.ages durable).advances.gone durable.reached.sound_coherent.1 hages.advances
      hold.2 hmissing
    rw [hstays] at hnew
    cases hnew.2

/-- A record is created, a batch that updates it is given up, and another one is kept. -/
theorem record_history_of_updates :
    let create : Step Unit := .operation (.create 0 [1] .document)
    let given : Step Unit := .commit 1 [.entry (.update ⟨0, 0⟩ 0 (some [2])), .failure ()]
    let kept : Step Unit := .commit 2 [.entry (.update ⟨0, 0⟩ 0 (some [3]))]
    let created := (create.run plain).2
    let last := (kept.run (given.run created).2).2
    ∃ old new, (created.store.read ⟨0, 0⟩).1 = .ok (some old) ∧
      (last.store.read ⟨0, 0⟩).1 = .ok (some new) ∧
      new.version.toInt = old.version.toInt + 1 := by
  intro create given kept created last
  have reached : Reached Unit created := .stepped durable_plain.reached create
  have hold := reached.read_eq_some_iff.2 (show (⟨0, 0⟩ : RecordId).isValid = true ∧
    created.store.contents.record? ⟨0, 0⟩ = some ⟨⟨0, 0⟩, 0, .document, [1]⟩ by decide +kernel)
  have hnew := (((reached.stepped given).stepped kept).read_eq_some_iff).2
    (show (⟨0, 0⟩ : RecordId).isValid = true ∧
      last.store.contents.record? ⟨0, 0⟩ = some ⟨⟨0, 0⟩, 1, .document, [3]⟩ by decide +kernel)
  have smallCreate : Store.SmallAppends plain.store.logSize (create.course plain) := by decide +kernel
  have smallGiven : Store.SmallAppends created.store.logSize (given.course created) := by
    decide +kernel
  have smallKept : Store.SmallAppends (given.run created).2.store.logSize
      (kept.course (given.run created).2) := by decide +kernel
  have takenGiven : given.UndoTaken created := by
    intro store batch h n _
    cases h
    exact Faults.fate_nil false n
  have keeps : (kept.givenUp? (given.run created).2).isSome = false := by decide +kernel
  have takenKept : kept.UndoTaken (given.run created).2 := by
    intro store batch h
    rw [h] at keeps
    cases keeps
  have aloneGiven : given.Alone := by simp [given, Step.Alone]
  have aloneKept : kept.Alone := by simp [kept, Step.Alone]
  have earlier := History.stepped .start create True.intro nofun smallCreate
  have later := History.stepped (.stepped .start given aloneGiven takenGiven smallGiven) kept aloneKept
    takenKept smallKept
  have hcount : ([] ++ given.updated (given.run created).1 ++
      kept.updated (kept.run (given.run created).2).1).count (⟨0, 0⟩ : RecordId) = 1 := by decide +kernel
  have shown := ((record_history durable_plain earlier later ⟨0, 0⟩).1 _ _ hold hnew).2.1
  rw [hcount] at shown
  exact ⟨_, _, hold, hnew, shown⟩

end Database

end RecordBase
