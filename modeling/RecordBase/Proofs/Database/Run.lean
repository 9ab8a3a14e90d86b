import RecordBase.Database.Operation
import RecordBase.Proofs.Log.Journal
import RecordBase.Proofs.Store.Undo

/-!
# What happens to a store while steps run

An operation either carries out a plan (`Operation.plan?`) or leaves what the store holds alone
(`Store.Idle`). `Step.sound_run_induction` is the induction over a run with what is known at every point
of it: the contents are sound, and a batch under way could be undone. From it `Step.run_of_law`: what
holds of every idle operation and of every deed tried holds of every run (`Store.Law`).

* `Step.sound_run`, `Step.advances_run`: a run keeps the contents sound and advances them, batches
  undone and steps between their entries included.
-/

namespace RecordBase

/-! ## Operations that write nothing -/

namespace Store

variable {store : Store}

theorem record?_of_stored? {id : RecordId} {listing : Listing} {record : Record}
    (hlisting : store.listing id.cluster = .ok listing)
    (h : store.stored? listing id = some record) : store.contents.record? record.id = some record := by
  have hlisted := clusters_of_listing hlisting
  obtain ⟨slot, hstored, rfl⟩ := stored_of_stored? hlisted h
  exact hstored.record?_eq

/-- Reading past the cache changes nothing but the counters, and finds what is stored. -/
theorem readUncached_cases (store : Store) (id : RecordId) :
    ∃ stats, (store.readUncached id).2 = { store with stats } ∧
      ∀ record, (store.readUncached id).1 = .ok (some record) →
        store.contents.record? record.id = some record := by
  unfold readUncached
  split
  · refine ⟨store.stats, rfl, ?_⟩
    rintro record ⟨⟩
  · split
    · refine ⟨store.stats, rfl, ?_⟩
      rintro record ⟨⟩
    · rename_i hlisting
      refine ⟨_, rfl, fun record h => ?_⟩
      exact record?_of_stored? hlisting (Except.ok.inj h)

theorem quiet_readUncached (store : Store) (id : RecordId) :
    store.Quiet (store.readUncached id).2 := by
  obtain ⟨stats, hstats, -⟩ := store.readUncached_cases id
  rw [hstats]
  exact .ofStats store stats

theorem quiet_readThrough (store : Store) (id : RecordId) :
    store.Quiet (store.readThrough id).2 := by
  obtain ⟨stats, hstats, hfound⟩ := store.readUncached_cases id
  unfold readThrough
  split
  · rename_i record after h
    rw [h] at hstats hfound
    simp only at hstats
    subst hstats
    exact ⟨rfl, rfl, rfl, .noted (hfound record rfl)⟩
  · rw [hstats]
    exact .ofStats store stats

theorem quiet_read (store : Store) (id : RecordId) : store.Quiet (store.read id).2 := by
  unfold read
  split
  · exact .refl store
  · split
    · exact store.quiet_readThrough id
    · split
      · exact .ofStats store _
      · have h := { store with stats := store.stats.countMiss }.quiet_readThrough id
        exact ⟨h.contents, h.journal, h.defaultCluster, h.cache⟩

theorem quiet_execute (store : Store) (request : CommandRequest) :
    store.Quiet (store.execute request).2 := by
  unfold execute
  split
  · rename_i query _
    cases query with
    | load identity =>
      simp only [answer]
      split
      · exact .refl store
      · rename_i id _
        have h := store.quiet_read id
        split <;> rename_i hread <;> rw [hread] at h <;> exact h
    | _ => exact .refl store
  · exact .refl store

theorem idle_settle (store : Store) : store.Idle store.settle.2 := by
  unfold settle Journal.settle
  cases store.journal.flush with
  | error error => exact .quiet (.refl store)
  | ok _ => exact .synced

end Store

/-! ## Operations that write -/

/-- What an operation is going to write, if it is one that writes. -/
def Operation.plan? (store : Store) : Operation → Option (Plan Answer)
  | create cluster content type => some ((store.createPlan cluster content type).map .record)
  | update id content version type =>
    some ((store.replacePlan id content version (some type)).map fun records =>
      .version records.1.version)
  | delete id version => some ((store.removePlan id version).map fun _ => .done)
  | addPhysical name file size =>
    some ((store.addPhysicalPlan name file size).map fun id => .number id.toInt)
  | addLogical name container =>
    some ((store.addLogicalPlan name container).map fun added => .logicalAdded added.1 added.2)
  | bind key id => some ((store.bindPlan key id).map .identity?)
  | unbind key => some ((store.unbindPlan key).map .identity?)
  | _ => none

namespace Operation

variable {database : Database}

theorem onStore_perform {α : Type} (database : Database) (wrap : α → Answer) (plan : Plan α) :
    database.onStore wrap (·.perform plan) =
      database.onStore (fun answer => answer) (·.perform (plan.map wrap)) := by
  simp only [Database.onStore, Store.perform_map]
  rcases database.store.perform plan with ⟨_ | answer, store⟩ <;> rfl

/-- An operation that writes carries out its plan. -/
theorem run_of_plan {operation : Operation} {plan : Plan Answer}
    (h : operation.plan? database.store = some plan) :
    operation.run database = database.onStore (fun answer => answer) (·.perform plan) := by
  cases operation with
  | create cluster content type =>
    obtain rfl := Option.some.inj h
    rw [← onStore_perform]
    simp only [run, Database.onStore, Store.create_eq]
  | update id content version type =>
    obtain rfl := Option.some.inj h
    simp only [run, Database.onStore, Store.update_eq, Store.perform_map]
    rcases database.store.perform _ with ⟨_ | ⟨updated, previous⟩, store⟩ <;> rfl
  | delete id version =>
    obtain rfl := Option.some.inj h
    simp only [run, Database.onStore, Store.delete_eq, Store.perform_map]
    rcases database.store.perform _ with ⟨_ | previous, store⟩ <;> rfl
  | addPhysical name file size =>
    obtain rfl := Option.some.inj h
    rw [← onStore_perform]
    simp only [run, Database.onStore, Store.addPhysical_eq]
  | addLogical name container =>
    obtain rfl := Option.some.inj h
    rw [← onStore_perform]
    simp only [run, Database.onStore, Store.addLogical_eq]
  | bind key id =>
    obtain rfl := Option.some.inj h
    rw [← onStore_perform]
    simp only [run, Database.onStore, Store.bind_eq]
  | unbind key =>
    obtain rfl := Option.some.inj h
    rw [← onStore_perform]
    simp only [run, Database.onStore, Store.unbind_eq]
  | _ => cases h

theorem plan?_proceeds {operation : Operation} {plan : Plan Answer}
    (sound : database.store.contents.Sound) (h : operation.plan? database.store = some plan) :
    plan.Each Contents.Proceeds database.store.contents := by
  cases operation with
  | create cluster content type =>
    obtain rfl := Option.some.inj h
    exact (Store.createPlan_proceeds sound cluster content type).map _
  | update id content version type =>
    obtain rfl := Option.some.inj h
    exact (Store.replacePlan_proceeds sound id content version (some type)).map _
  | delete id version =>
    obtain rfl := Option.some.inj h
    exact (Store.removePlan_proceeds sound id version).map _
  | addPhysical name file size =>
    obtain rfl := Option.some.inj h
    exact (database.store.addPhysicalPlan_proceeds name file size).map _
  | addLogical name container =>
    obtain rfl := Option.some.inj h
    exact (Store.addLogicalPlan_proceeds sound name container).map _
  | bind key id =>
    obtain rfl := Option.some.inj h
    exact (database.store.bindPlan_proceeds key id).map _
  | unbind key =>
    obtain rfl := Option.some.inj h
    exact (database.store.unbindPlan_proceeds key).map _
  | _ => cases h

/-- An operation without a plan writes nothing. -/
theorem idle_run {operation : Operation} (h : operation.plan? database.store = none) :
    database.store.Idle (operation.run database).2.store := by
  cases operation with
  | create | update | delete | addPhysical | addLogical | bind | unbind => cases h
  | read id => exact .quiet (database.store.quiet_read id)
  | readUncached id => exact .quiet (database.store.quiet_readUncached id)
  | clearCache => exact .quiet ⟨rfl, rfl, rfl, .cleared⟩
  | execute request =>
    have h := database.store.quiet_execute request
    simp only [run]
    split <;> rename_i hexecute <;> rw [hexecute] at h <;> exact .quiet h
  | sync => exact .synced
  | close =>
    simp only [run, Database.close]
    split
    · exact .quiet (.refl _)
    · exact database.store.idle_settle
  | _ => exact .quiet (.refl _)

theorem sound_advances_run (operation : Operation) (sound : database.store.contents.Sound) :
    (operation.run database).2.store.contents.Sound ∧
      database.store.contents.Advances (operation.run database).2.store.contents := by
  cases hplan : operation.plan? database.store with
  | some plan =>
    rw [run_of_plan hplan]
    exact Store.sound_advances_perform sound (plan?_proceeds sound hplan)
  | none =>
    rw [(idle_run hplan).contents]
    exact ⟨sound, .refl _⟩

end Operation

/-! ## Runs -/

section Run

variable {ε : Type}

theorem Step.run_commit_of_closed {database : Database} {error : Error}
    (h : database.ensureOpen = .error error) (number : Int32) (items : List (Item ε)) :
    (Step.commit number items).run database = (.commit (.error (.store error)) [] 0, database) := by
  simp only [Step.run, h]

theorem Step.run_commit_of_open {database : Database} (h : database.ensureOpen = .ok ())
    (number : Int32) (items : List (Item ε)) :
    (Step.commit number items).run database =
      Item.runAll database { batch := Batch.start number } items := by
  simp only [Step.run, h]

namespace Item

variable {database : Database} {state : CommitState ε} {entry : BatchEntry} {store : Store}

theorem runAll_entry_of_refused {error : Error}
    (h : state.batch.apply database.store entry = (.error error, store)) (rest : List (Item ε)) :
    Item.runAll database state (.entry entry :: rest) =
      { database with store }.abort { state with pulled := state.pulled + 1 } (.store error) := by
  simp only [Item.runAll, h]

theorem runAll_entry_of_applied {batch : Batch}
    (h : state.batch.apply database.store entry = (.ok batch, store)) (rest : List (Item ε)) :
    Item.runAll database state (.entry entry :: rest) =
      Item.runAll { database with store } { state with pulled := state.pulled + 1, batch } rest := by
  simp only [Item.runAll, h]

theorem runAll_step (database : Database) (state : CommitState ε) (step : Step ε)
    (rest : List (Item ε)) :
    Item.runAll database state (.step step :: rest) =
      Item.runAll (step.run database).2
        { state with inner := (step.run database).1 :: state.inner } rest := by
  simp only [Item.runAll]

/-- What a batch answers. -/
theorem runAll_reply (items : List (Item ε)) (database : Database) (state : CommitState ε) :
    ∃ result inner pulled, (Item.runAll database state items).1 = .commit result inner pulled := by
  induction items generalizing database state with
  | nil => exact ⟨_, _, _, rfl⟩
  | cons item rest ih =>
    cases item with
    | entry entry =>
      rcases happly : state.batch.apply database.store entry with ⟨error | batch, store⟩
      · rw [runAll_entry_of_refused happly]
        exact ⟨_, _, _, rfl⟩
      · rw [runAll_entry_of_applied happly]
        exact ih _ _
    | failure cause => exact ⟨_, _, _, rfl⟩
    | step step =>
      rw [runAll_step]
      exact ih _ _

end Item

/-- The entries that a batch has applied so far could be undone now. -/
def CommitState.Undoable (state : CommitState ε) (start contents : Contents) : Prop :=
  Undo.Pending Contents.Advances start state.batch.undo contents

/-- An induction over a run in which the contents are known to be sound and a batch under way to be
undoable. -/
theorem Step.sound_run_induction (OnStep : Database → Step ε → Prop)
    (OnBatch : Database → CommitState ε → List (Item ε) → Prop)
    (operation : ∀ {database} operation, database.store.contents.Sound →
      OnStep database (.operation operation))
    (closed : ∀ {database error} number items, database.ensureOpen = .error error →
      OnStep database (.commit number items))
    (opened : ∀ {database} number items, database.ensureOpen = .ok () →
      OnBatch database { batch := Batch.start number } items →
      OnStep database (.commit number items))
    (kept : ∀ database state, OnBatch database state [])
    (refused : ∀ {database state entry error store start} rest, database.store.contents.Sound →
      store.contents.Sound → state.Undoable start store.contents →
      state.batch.apply database.store entry = (.error error, store) →
      OnBatch database state (.entry entry :: rest))
    (applied : ∀ {database state entry batch store} rest, database.store.contents.Sound →
      state.batch.apply database.store entry = (.ok batch, store) →
      OnBatch { database with store } { state with pulled := state.pulled + 1, batch } rest →
      OnBatch database state (.entry entry :: rest))
    (failed : ∀ {database state start} cause rest, database.store.contents.Sound →
      state.Undoable start database.store.contents →
      OnBatch database state (.failure cause :: rest))
    (inner : ∀ {database state} step rest, database.store.contents.Sound → OnStep database step →
      OnBatch (step.run database).2
        { state with inner := (step.run database).1 :: state.inner } rest →
      OnBatch database state (.step step :: rest)) :
    ∀ database step, database.store.contents.Sound →
      (step.run database).2.store.contents.Sound ∧
        database.store.contents.Advances (step.run database).2.store.contents ∧
        OnStep database step := by
  refine (Step.run.mutual_induct
    (fun database step => database.store.contents.Sound →
      (step.run database).2.store.contents.Sound ∧
        database.store.contents.Advances (step.run database).2.store.contents ∧
        OnStep database step)
    (fun database state items => ∀ start, database.store.contents.Sound →
      state.Undoable start database.store.contents →
      (Item.runAll database state items).2.store.contents.Sound ∧
        start.Advances (Item.runAll database state items).2.store.contents ∧
        OnBatch database state items) ?operation ?closed ?opened ?kept ?refused ?applied ?failed ?inner).1
  case operation =>
    intro database op _ _ _ sound
    obtain ⟨hsound, hadvances⟩ := op.sound_advances_run sound
    exact ⟨hsound, hadvances, operation op sound⟩
  case closed =>
    intro database number items error hopen sound
    rw [run_commit_of_closed hopen]
    exact ⟨sound, .refl _, closed number items hopen⟩
  case opened =>
    intro database number items hopen ih sound
    rw [run_commit_of_open hopen]
    obtain ⟨hsound, hadvances, hbatch⟩ := ih _ sound (.nil (.refl _))
    exact ⟨hsound, hadvances, opened number items hopen hbatch⟩
  case kept =>
    intro database state start sound undoable
    exact ⟨sound, undoable.start_advances, kept database state⟩
  case refused =>
    intro database state entry rest _ error store happly start sound undoable
    change state.batch.apply database.store entry = (.error error, store) at happly
    have hafter := Batch.sound_advances_apply sound happly
    have hundoable := undoable.andThen .trans hafter.2
    rw [Item.runAll_entry_of_refused happly]
    obtain ⟨hsound, hadvances⟩ := Batch.sound_advances_rollback hafter.1 hundoable
    exact ⟨hsound, hadvances, refused rest sound hafter.1 hundoable happly⟩
  case applied =>
    intro database state entry rest _ batch store happly ih start sound undoable
    change state.batch.apply database.store entry = (.ok batch, store) at happly
    obtain ⟨undo, listing, old, new, wrote, hundo, hcontents, -⟩ :=
      Batch.wrote_of_apply sound happly
    have hsound := (Batch.sound_advances_apply sound happly).1
    have hundoable : { state with pulled := state.pulled + 1, batch }.Undoable start store.contents := by
      rw [CommitState.Undoable, hundo, hcontents]
      exact .cons undoable sound wrote (.refl _)
    rw [Item.runAll_entry_of_applied happly]
    obtain ⟨hlast, hadvances, hbatch⟩ := ih start hsound hundoable
    exact ⟨hlast, hadvances, applied rest sound happly hbatch⟩
  case failed =>
    intro database state cause rest start sound undoable
    obtain ⟨hsound, hadvances⟩ := Batch.sound_advances_rollback sound undoable
    exact ⟨hsound, hadvances, failed cause rest sound undoable⟩
  case inner =>
    intro database state step rest reply after hrun ihstep ih start sound undoable
    obtain ⟨hsound, hadvances, hstep⟩ := ihstep sound
    have hreply : reply = (step.run database).1 := by rw [hrun]
    have hafter : after = (step.run database).2 := by rw [hrun]
    subst hreply hafter
    obtain ⟨hlast, hstart, hbatch⟩ := ih start hsound (undoable.andThen .trans hadvances)
    rw [Item.runAll_step]
    exact ⟨hlast, hstart, inner step rest sound hstep hbatch⟩

variable {Q : Store → Store → Prop}

theorem Operation.run_of_law (law : Store.Law Contents.Fits Q) (operation : Operation)
    {database : Database} (sound : database.store.contents.Sound) :
    Q database.store (operation.run database).2.store := by
  cases hplan : operation.plan? database.store with
  | some plan =>
    rw [run_of_plan hplan]
    exact law.perform ((plan?_proceeds sound hplan).mono (·.fits))
  | none => exact law.idle (idle_run hplan)

theorem Batch.apply_of_law (law : Store.Law Contents.Fits Q) {batch : Batch} {entry : BatchEntry}
    {store after : Store} {result : Except Error Batch} (sound : store.contents.Sound)
    (h : batch.apply store entry = (result, after)) : Q store after := by
  have hperform := law.perform ((plan_proceeds sound batch entry).mono (·.fits))
  rwa [← apply_eq, h] at hperform

/-- What holds of every operation that writes nothing and of every deed tried holds of every run. -/
theorem Step.run_of_law (law : Store.Law Contents.Fits Q) (step : Step ε) {database : Database}
    (sound : database.store.contents.Sound) :
    (step.run database).2.store.contents.Sound ∧
      database.store.contents.Advances (step.run database).2.store.contents ∧
      Q database.store (step.run database).2.store := by
  refine sound_run_induction (fun database step => Q database.store (step.run database).2.store)
    (fun database state items => Q database.store (Item.runAll database state items).2.store)
    ?operation ?closed ?opened ?kept ?refused ?applied ?failed ?inner database step sound
  case operation =>
    intro database operation sound
    exact operation.run_of_law law sound
  case closed =>
    intro database error number items hopen
    rw [run_commit_of_closed hopen]
    exact law.idle (.quiet (.refl _))
  case opened =>
    intro database number items hopen hbatch
    rw [run_commit_of_open hopen]
    exact hbatch
  case kept =>
    intro database state
    exact law.idle (.quiet (.ofStats _ _))
  case refused =>
    intro database state entry error store start rest sound hsound undoable happly
    rw [Item.runAll_entry_of_refused happly]
    exact law.trans (Batch.apply_of_law law sound happly) (Batch.rollback_of_law law hsound undoable)
  case applied =>
    intro database state entry batch store rest sound happly hbatch
    rw [Item.runAll_entry_of_applied happly]
    exact law.trans (Batch.apply_of_law law sound happly) hbatch
  case failed =>
    intro database state start cause rest sound undoable
    exact Batch.rollback_of_law law sound undoable
  case inner =>
    intro database state step rest sound hstep hbatch
    rw [Item.runAll_step]
    exact law.trans hstep hbatch

/-- What every operation and every change of the store does to the rest of a database, every run
does. -/
theorem Step.run_of_rel {R : Database → Database → Prop}
    (trans : ∀ {a b c : Database}, R a b → R b c → R a c)
    (store : ∀ (database : Database) (store : Store), R database { database with store })
    (operation : ∀ (database : Database) (operation : Operation),
      R database (operation.run database).2)
    (database : Database) (step : Step ε) : R database (step.run database).2 := by
  refine (Step.run.mutual_induct (fun database (step : Step ε) => R database (step.run database).2)
    (fun database state (items : List (Item ε)) => R database (Item.runAll database state items).2)
    ?operation ?closed ?opened ?kept ?refused ?applied ?failed ?inner).1 database step
  case operation => exact fun database op _ _ _ => operation database op
  case closed =>
    intro database number items error hopen
    rw [run_commit_of_closed hopen]
    exact store database database.store
  case opened =>
    intro database number items hopen ih
    rw [run_commit_of_open hopen]
    exact ih
  case kept => exact fun database state => store database _
  case refused =>
    intro database state entry rest _ error after happly
    change state.batch.apply database.store entry = (.error error, after) at happly
    rw [Item.runAll_entry_of_refused happly]
    exact store database _
  case applied =>
    intro database state entry rest _ batch after happly ih
    change state.batch.apply database.store entry = (.ok batch, after) at happly
    rw [Item.runAll_entry_of_applied happly]
    exact trans (store database after) ih
  case failed => exact fun database state cause rest => store database _
  case inner =>
    intro database state step rest reply after hrun ihstep ih
    rw [hrun] at ihstep
    rw [Item.runAll_step, hrun]
    exact trans ihstep ih

theorem Step.sound_run (step : Step ε) {database : Database} (sound : database.store.contents.Sound) :
    (step.run database).2.store.contents.Sound :=
  (step.run_of_law .trivial sound).1

theorem Step.advances_run (step : Step ε) {database : Database}
    (sound : database.store.contents.Sound) :
    database.store.contents.Advances (step.run database).2.store.contents :=
  (step.run_of_law .trivial sound).2.1

/-- Carries out steps one after another. -/
def Step.runAll (database : Database) : List (Step ε) → List (Reply ε) × Database
  | [] => ([], database)
  | step :: rest =>
    let (reply, database) := step.run database
    let (replies, database) := Step.runAll database rest
    (reply :: replies, database)

theorem Step.runAll_cons (database : Database) (step : Step ε) (rest : List (Step ε)) :
    Step.runAll database (step :: rest) =
      ((step.run database).1 :: (Step.runAll (step.run database).2 rest).1,
        (Step.runAll (step.run database).2 rest).2) := rfl

end Run

end RecordBase
