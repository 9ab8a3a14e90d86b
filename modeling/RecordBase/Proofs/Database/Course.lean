import RecordBase.Proofs.Database.Run
import RecordBase.Proofs.Store.Clusters
import RecordBase.Proofs.Store.Trail

/-!
# The log of a running database

`Step.course` lists the stores that a run passes, one after each append that it tries: after every
operation, after the descriptor of a logical cluster, after every entry of a batch and after every
entry undone. They are a trail (`Step.trail_course`), and a path while no sync fails
(`Step.path_course`), whatever the journal refuses, so the log's entries then give what the store held
when they were appended.
-/

namespace RecordBase

/-! ## The stores that a run passes -/

namespace Store

attribute [local irreducible] normalName in
/-- The stores that adding a logical cluster passes: its descriptor is written, then it is listed. -/
def logicalCourse (store : Store) (name : String) (container : Int32) : List Store :=
  let added := (store.addLogical name container).2
  match normalName name with
  | .error _ => [added]
  | .ok normal =>
    match store.logicalPlan normal container with
    | .error _ => [added]
    | .ok (listing, _, position) =>
      let descriptor : Slot := ⟨listing.cluster.id, 0, .document, Bytes.ofText normal⟩
      [(store.writeSlot listing position descriptor).2, added]

/-- The stores that adding the first clusters passes. -/
def initialCourse (store : Store) : List String → List Store
  | [] => []
  | name :: rest =>
    let added := (store.addPhysical name none (-1)).2
    added :: added.initialCourse rest

/-- The stores that opening a store over a journal passes, beginning with the one its log gives. -/
def openingCourse (settings : Settings) (victims : Nat → Nat) (journal : Journal) : List Store :=
  match journal.replay with
  | .error _ => []
  | .ok (entries, replayed) =>
    match ({} : Contents).applyAll entries with
    | .error _ => []
    | .ok contents =>
      let store := ofContents settings victims replayed contents
      store :: if contents.clusters.size ≠ 0 then [] else
        store.initialCourse settings.initialClusters

end Store

/-- The stores that undoing some entries of a batch passes. -/
def Batch.undoCourse (store : Store) : List Undo → List Store
  | [] => []
  | undo :: rest => undoOne store undo :: undoCourse (undoOne store undo) rest

/-- The stores that a single operation passes. -/
def Operation.course (database : Database) : Operation → List Store
  | .addLogical name container => database.store.logicalCourse name container
  | operation => [(operation.run database).2.store]

mutual

/-- The stores that an operation or a batch passes, one after each append that it tries. -/
def Step.course {ε : Type} (database : Database) : Step ε → List Store
  | .operation operation => operation.course database
  | .commit number items =>
    match database.ensureOpen with
    | .error _ => []
    | .ok () => Item.course database { batch := Batch.start number } items

/-- The stores that a batch passes from some point on. -/
def Item.course {ε : Type} (database : Database) (state : CommitState ε) :
    List (Item ε) → List Store
  | [] => []
  | .entry entry :: rest =>
    let state := { state with pulled := state.pulled + 1 }
    match state.batch.apply database.store entry with
    | (.error _, store) => store :: Batch.undoCourse store state.batch.undo
    | (.ok batch, store) => store :: Item.course { database with store } { state with batch } rest
  | .failure _ :: _ => Batch.undoCourse database.store state.batch.undo
  | .step step :: rest =>
    step.course database ++
      Item.course (step.run database).2
        { state with inner := (step.run database).1 :: state.inner } rest

end

/-- The stores that some steps pass. -/
def Step.courseAll {ε : Type} (database : Database) : List (Step ε) → List Store
  | [] => []
  | step :: rest => step.course database ++ Step.courseAll (step.run database).2 rest

/-! ## Plans of at most one deed -/

theorem Plan.Sets.single {α : Type} {before : Contents} {undoneBy : α → Undo → Prop} {plan : Plan α}
    (sets : plan.Sets before undoneBy) : plan.Single := by
  cases sets with
  | refuse error => exact .refuse error
  | act _ _ _ => exact .one _ _

namespace Store

variable {store : Store}

theorem createPlan_single (store : Store) (cluster : Int16) (content : Bytes) (type : RecordType) :
    (store.createPlan cluster content type).Single := by
  unfold createPlan
  split
  · exact .refuse _
  · split
    · exact .refuse _
    · exact .one _ _

theorem replacePlan_single (store : Store) (id : RecordId) (content : Bytes) (version : Int32)
    (type : Option RecordType) : (store.replacePlan id content version type).Single := by
  unfold replacePlan
  split
  · exact .refuse _
  · split
    · exact .refuse _
    · exact .one _ _

theorem removePlan_single (store : Store) (id : RecordId) (version : Int32) :
    (store.removePlan id version).Single := by
  unfold removePlan
  split
  · exact .refuse _
  · exact .one _ _

theorem compensatePlan_single (store : Store) (id : RecordId) (written : Option Int32)
    (previous : Option Record) : (store.compensatePlan id written previous).Single := by
  unfold compensatePlan
  split
  · exact .refuse _
  · split
    · exact .none _
    · split <;> exact .one _ _

theorem addPhysicalPlan_single (store : Store) (name : String) (file : Option String)
    (size : Int32) : (store.addPhysicalPlan name file size).Single := by
  rcases store.addPhysicalPlan_cases name file size with ⟨error, hplan⟩ | ⟨id, normal, -, hplan⟩
  · rw [hplan]
    exact .refuse error
  · rw [hplan]
    exact .one _ _

theorem unbindPlan_single (store : Store) (key : String) : (store.unbindPlan key).Single := by
  unfold unbindPlan
  split
  · exact .none _
  · exact .one _ _

end Store

/-- Only adding a logical cluster writes more than one entry. -/
theorem Operation.plan?_single {store : Store} {operation : Operation} {plan : Plan Answer}
    (h : operation.plan? store = some plan)
    (hlogical : ∀ name container, operation ≠ .addLogical name container) : plan.Single := by
  cases operation with
  | create cluster content type =>
    obtain rfl := Option.some.inj h
    exact (store.createPlan_single cluster content type).map _
  | update id content version type =>
    obtain rfl := Option.some.inj h
    exact (store.replacePlan_single id content version (some type)).map _
  | delete id version =>
    obtain rfl := Option.some.inj h
    exact (store.removePlan_single id version).map _
  | addPhysical name file size =>
    obtain rfl := Option.some.inj h
    exact (store.addPhysicalPlan_single name file size).map _
  | addLogical name container => exact absurd rfl (hlogical name container)
  | bind key id =>
    obtain rfl := Option.some.inj h
    exact .one _ _
  | unbind key =>
    obtain rfl := Option.some.inj h
    exact (store.unbindPlan_single key).map _
  | _ => cases h

/-! ## Runs are trails -/

/-- What holds of the contents that a run meets, of what it notes for an undoing, and of the deeds
that it tries: first of those that an operation or an entry of a batch plans, then of those that
undo an entry. -/
structure Store.Covers (P : Contents → Deed → Prop) (Good : Contents → Prop) (Safe : Undo → Prop) :
    Prop where
  advances : ∀ {before after : Contents}, before.Sound → after.Sound → before.Advances after →
    Good before → Good after
  operation : ∀ {database : Database} {operation : Operation} {plan : Plan Answer},
    database.store.contents.Sound → Good database.store.contents →
    operation.plan? database.store = some plan → plan.Each P database.store.contents
  entry : ∀ {store : Store} (batch : Batch) (entry : BatchEntry), store.contents.Sound →
    Good store.contents → (batch.plan store entry).Each P store.contents
  noted : ∀ {contents : Contents} {undo : Undo} {listing : Listing} {old new : Option Slot},
    contents.Sound → Good contents → undo.Wrote listing old new contents → Safe undo
  undone : ∀ {store : Store} {start : Contents} {undo : Undo} {undos : List Undo},
    store.contents.Sound →
    Undo.Pending Contents.Advances start (undo :: undos) store.contents → Safe undo →
    (Batch.undoPlan store undo).Each P store.contents

/-- All deeds of a run fit. -/
theorem Store.covers_fits : Store.Covers Contents.Fits (fun _ => True) fun _ => True where
  advances _ _ _ _ := True.intro
  operation sound _ h := (Operation.plan?_proceeds sound h).mono (·.fits)
  entry batch entry sound _ := (Batch.plan_proceeds sound batch entry).mono (·.fits)
  noted _ _ _ := True.intro
  undone sound pending _ := (Batch.undoOne_of_pending sound pending).1

section Listings

variable {P Q : Contents → Deed → Prop} {Good : Contents → Prop} {Safe : Undo → Prop}

/-- Of the operations only those that add a cluster list one. -/
theorem Operation.plan?_listsNone {store : Store} {operation : Operation} {plan : Plan Answer}
    (h : operation.plan? store = some plan)
    (physical : ∀ name file size, operation ≠ .addPhysical name file size)
    (logical : ∀ name container, operation ≠ .addLogical name container) :
    plan.Each Contents.ListsNone store.contents := by
  cases operation with
  | create cluster content type =>
    obtain rfl := Option.some.inj h
    exact (store.createPlan_listsNone cluster content type).map _
  | update id content version type =>
    obtain rfl := Option.some.inj h
    exact (store.replacePlan_listsNone id content version (some type)).map _
  | delete id version =>
    obtain rfl := Option.some.inj h
    exact (store.removePlan_listsNone id version).map _
  | addPhysical name file size => exact absurd rfl (physical name file size)
  | addLogical name container => exact absurd rfl (logical name container)
  | bind key id =>
    obtain rfl := Option.some.inj h
    exact (store.bindPlan_listsNone key id).map _
  | unbind key =>
    obtain rfl := Option.some.inj h
    exact (store.unbindPlan_listsNone key).map _
  | _ => cases h

/-- An operation whose plan lists no cluster adds none. -/
theorem Operation.sameClusters_run {operation : Operation} {database : Database}
    (lists : ∀ plan, operation.plan? database.store = some plan →
      plan.Each Contents.ListsNone database.store.contents) :
    database.store.contents.SameClusters (operation.run database).2.store.contents := by
  cases hplan : operation.plan? database.store with
  | some plan =>
    rw [run_of_plan hplan]
    exact Store.Law.sameClusters.perform (lists plan hplan)
  | none => exact .of_eq (idle_run hplan).contents

theorem Operation.plan?_each_of_listings {database : Database} {operation : Operation}
    {plan : Plan Answer} (sound : database.store.contents.Sound)
    (none : ∀ {contents deed}, contents.ListsNone deed → contents.Fits deed → P contents deed)
    (physical : ∀ name file size,
      (database.store.addPhysicalPlan name file size).Each P database.store.contents)
    (logical : ∀ name container,
      (database.store.addLogicalPlan name container).Each P database.store.contents)
    (h : operation.plan? database.store = some plan) :
    plan.Each P database.store.contents := by
  have others (hphysical : ∀ name file size, operation ≠ .addPhysical name file size)
      (hlogical : ∀ name container, operation ≠ .addLogical name container) :
      plan.Each P database.store.contents :=
    ((plan?_listsNone h hphysical hlogical).and ((plan?_proceeds sound h).mono (·.fits))).mono
      fun ⟨keeps, fits⟩ => none keeps fits
  cases operation with
  | addPhysical name file size =>
    obtain rfl := Option.some.inj h
    exact (physical name file size).map _
  | addLogical name container =>
    obtain rfl := Option.some.inj h
    exact (logical name container).map _
  | _ => exact others (by rintro _ _ _ ⟨⟩) (by rintro _ _ ⟨⟩)

/-- What holds of every fitting deed that lists no cluster, and of those that list one, holds of all
deeds of a run. -/
theorem Store.covers_of_listings
    (none : ∀ {contents deed}, contents.ListsNone deed → contents.Fits deed → P contents deed)
    (physical : ∀ {store : Store} name file size, store.contents.Sound →
      (store.addPhysicalPlan name file size).Each P store.contents)
    (logical : ∀ {store : Store} name container, store.contents.Sound →
      (store.addLogicalPlan name container).Each P store.contents) :
    Store.Covers P (fun _ => True) fun _ => True where
  advances _ _ _ _ := True.intro
  operation sound _ h := Operation.plan?_each_of_listings sound none
    (fun name file size => physical name file size sound)
    (fun name container => logical name container sound) h
  entry {store} batch entry sound _ :=
    ((Batch.plan_listsNone store batch entry).and (Batch.plan_proceeds sound batch entry)).mono
      fun ⟨keeps, proceeds⟩ => none keeps proceeds.fits
  noted _ _ _ := True.intro
  undone {store _ undo _} sound pending _ :=
    ((store.compensatePlan_listsNone undo.id undo.written undo.previous).and
      (Batch.undoOne_of_pending sound pending).1).mono fun ⟨keeps, fits⟩ => none keeps fits

theorem Store.Covers.and (first : Store.Covers P Good Safe)
    (second : Store.Covers Q (fun _ => True) fun _ => True) :
    Store.Covers (fun contents deed => P contents deed ∧ Q contents deed) Good Safe where
  advances := first.advances
  operation sound good h := (first.operation sound good h).and (second.operation sound True.intro h)
  entry batch entry sound good :=
    (first.entry batch entry sound good).and (second.entry batch entry sound True.intro)
  noted := first.noted
  undone sound pending safe :=
    (first.undone sound pending safe).and (second.undone sound pending True.intro)

end Listings

section Trail

variable {P : Contents → Deed → Prop} {Good : Contents → Prop} {Safe : Undo → Prop}

namespace Store

variable {store : Store}

theorem writeSlot_eq (store : Store) (listing : Listing) (position : Int64) (slot : Slot) :
    store.writeSlot listing position slot =
      store.perform (.act [.put store.contents listing position slot] ()) := by
  simp only [writeSlot, write, perform, enact, Deed.put]
  rcases store.journal.append _ with ⟨_ | _, journal⟩ <;> rfl

attribute [local irreducible] normalName in
/-- Adding a logical cluster passes the store after the first of its two deeds, unless it is refused. -/
theorem logicalCourse_cases (store : Store) (name : String) (container : Int32) :
    (∃ error, store.addLogicalPlan name container = .refuse error) ∧
        store.logicalCourse name container = [(store.addLogical name container).2] ∨
      ∃ first second answer, store.addLogicalPlan name container = .act [first, second] answer ∧
        store.logicalCourse name container =
          [(store.perform (.act [first] ())).2, (store.addLogical name container).2] := by
  unfold logicalCourse addLogicalPlan
  cases normalName name with
  | error error => exact .inl ⟨⟨error, rfl⟩, rfl⟩
  | ok normal =>
    cases hplan : store.logicalPlan normal container with
    | error error =>
      simp only [hplan]
      exact .inl ⟨⟨error, rfl⟩, trivial⟩
    | ok found =>
      simp only [hplan, writeSlot_eq]
      exact .inr ⟨_, _, _, rfl, rfl⟩

theorem trail_logicalCourse (name : String) (container : Int32)
    (each : (store.addLogicalPlan name container).Each P store.contents) :
    Trail P store (store.logicalCourse name container) (store.addLogical name container).2 := by
  rcases store.logicalCourse_cases name container with ⟨⟨error, hplan⟩, hcourse⟩ |
    ⟨first, second, answer, hplan, hcourse⟩
  · rw [hcourse, addLogical_eq, hplan]
    exact .one (.idle (.quiet (.ofStats store _)))
  · rw [hplan] at each
    rw [hcourse, addLogical_eq, hplan]
    exact trail_perform_two each

theorem trail_undoCourse (covers : Covers P Good Safe) {start : Contents} {undos : List Undo}
    (sound : store.contents.Sound) (safe : ∀ undo ∈ undos, Safe undo)
    (pending : Undo.Pending Contents.Advances start undos store.contents) :
    Trail P store (Batch.undoCourse store undos) (undos.foldl Batch.undoOne store) := by
  induction undos generalizing store with
  | nil => exact .nil store
  | cons undo rest ih =>
    obtain ⟨-, hsound, hpending⟩ := Batch.undoOne_of_pending sound pending
    refine .cons ?_ (ih hsound (fun undo h => safe undo (List.mem_cons_of_mem _ h)) hpending)
    rw [Batch.undoOne_eq]
    exact stirs_perform (store.compensatePlan_single ..)
      (covers.undone sound pending (safe undo List.mem_cons_self))

theorem trail_rollback (covers : Covers P Good Safe) {start : Contents} {batch : Batch}
    (sound : store.contents.Sound) (safe : ∀ undo ∈ batch.undo, Safe undo)
    (pending : Undo.Pending Contents.Advances start batch.undo store.contents) :
    Trail P store (Batch.undoCourse store batch.undo) (batch.rollback store) :=
  (trail_undoCourse covers sound safe pending).last (.quiet (.ofStats _ _))

/-- First clusters that were all added were added one by one, whatever syncs did. -/
theorem path_initialCourse {after : Store} {names : List String}
    (h : store.addInitial names = (.ok (), after)) :
    Path store (store.initialCourse names) after := by
  induction names generalizing store with
  | nil =>
    cases h
    exact .nil (.refl _)
  | cons name rest ih =>
    have hfits := (addPhysicalPlan_proceeds store name none (-1)).mono (·.fits)
    rw [addInitial_cons] at h
    split at h
    · cases h
    · rename_i added hadd
      rw [addPhysical_eq] at hadd
      have hmoves := moves_perform_of_ok (store.addPhysicalPlan_single name none (-1)) hfits
        (congrArg Prod.fst hadd)
      rw [hadd] at hmoves
      rw [initialCourse, addPhysical_eq, hadd]
      exact .cons hmoves (ih h)

end Store

theorem Batch.stirs_apply (covers : Store.Covers P Good Safe) {batch : Batch} {entry : BatchEntry}
    {store after : Store} {result : Except Error Batch} (sound : store.contents.Sound)
    (good : Good store.contents) (h : batch.apply store entry = (result, after)) :
    store.Stirs P after := by
  have hstirs := Store.stirs_perform (plan_sets sound batch entry).single
    (covers.entry batch entry sound good)
  rwa [← apply_eq, h] at hstirs

theorem Database.store_onStore {α : Type} (database : Database) (wrap : α → Answer)
    (operation : Store → Except Error α × Store) :
    (database.onStore wrap operation).2.store = (operation database.store).2 := rfl

theorem Operation.trail_course (covers : Store.Covers P Good Safe) {database : Database}
    (operation : Operation) (sound : database.store.contents.Sound)
    (good : Good database.store.contents) :
    Store.Trail P database.store (operation.course database) (operation.run database).2.store := by
  have hone (h : ∀ name container, operation ≠ .addLogical name container) :
      database.store.Stirs P (operation.run database).2.store := by
    cases hplan : operation.plan? database.store with
    | some plan =>
      rw [run_of_plan hplan]
      exact Store.stirs_perform (plan?_single hplan h) (covers.operation sound good hplan)
    | none => exact .idle (idle_run hplan)
  cases operation with
  | addLogical name container =>
    rw [run, Database.store_onStore]
    have hplan : (addLogical name container).plan? database.store =
        some ((database.store.addLogicalPlan name container).map fun added =>
          .logicalAdded added.1 added.2) := rfl
    exact Store.trail_logicalCourse name container (covers.operation sound good hplan).of_map
  | _ => exact .one (hone (by rintro _ _ ⟨⟩))

variable {ε : Type}

/-- The stores that a run passes are those of a trail. -/
theorem Step.trail_course (covers : Store.Covers P Good Safe) (step : Step ε) {database : Database}
    (sound : database.store.contents.Sound) (good : Good database.store.contents) :
    Store.Trail P database.store (step.course database) (step.run database).2.store := by
  refine (sound_run_induction
    (fun database step => Good database.store.contents →
      Store.Trail P database.store (step.course database) (step.run database).2.store)
    (fun database state items => Good database.store.contents →
      (∀ undo ∈ state.batch.undo, Safe undo) →
      Store.Trail P database.store (Item.course database state items)
        (Item.runAll database state items).2.store)
    ?operation ?closed ?opened ?kept ?refused ?applied ?failed ?inner database step sound).2.2 good
  case operation =>
    intro database operation sound good
    exact operation.trail_course covers sound good
  case closed =>
    intro database error number items hopen good
    rw [run_commit_of_closed hopen]
    simp only [Step.course, hopen]
    exact .nil _
  case opened =>
    intro database number items hopen hbatch good
    rw [run_commit_of_open hopen]
    simp only [Step.course, hopen]
    exact hbatch good (by rintro undo ⟨⟩)
  case kept =>
    intro database state good safe
    exact .idle (.quiet (.ofStats _ _)) (.nil _)
  case refused =>
    intro database state entry error store start rest sound hsound undoable happly good safe
    rw [Item.runAll_entry_of_refused happly]
    simp only [Item.course, happly]
    exact .cons (Batch.stirs_apply covers sound good happly)
      (Store.trail_rollback covers hsound safe undoable)
  case applied =>
    intro database state entry batch store rest sound happly hbatch good safe
    obtain ⟨undo, listing, old, new, wrote, hundo, -⟩ := Batch.wrote_of_apply sound happly
    obtain ⟨hsound, hadvances⟩ := Batch.sound_advances_apply sound happly
    rw [Item.runAll_entry_of_applied happly]
    simp only [Item.course, happly]
    refine .cons (Batch.stirs_apply covers sound good happly)
      (hbatch (covers.advances sound hsound hadvances good) ?_)
    rw [hundo]
    exact List.forall_mem_cons.2 ⟨covers.noted sound good wrote, safe⟩
  case failed =>
    intro database state start cause rest sound undoable good safe
    exact Store.trail_rollback covers sound safe undoable
  case inner =>
    intro database state step rest sound hstep hbatch good safe
    have hgood := covers.advances sound (step.sound_run sound) (step.advances_run sound) good
    rw [Item.runAll_step]
    simp only [Item.course]
    exact (hstep good).append (hbatch hgood safe)

/-- The stores that some steps pass are those of a trail. -/
theorem Step.trail_courseAll (covers : Store.Covers P Good Safe) (steps : List (Step ε))
    {database : Database} (sound : database.store.contents.Sound)
    (good : Good database.store.contents) :
    Store.Trail P database.store (Step.courseAll database steps)
      (Step.runAll database steps).2.store := by
  induction steps generalizing database with
  | nil => exact .nil _
  | cons step rest ih =>
    have hgood := covers.advances sound (step.sound_run sound) (step.advances_run sound) good
    rw [Step.runAll_cons]
    exact (step.trail_course covers sound good).append (ih (step.sound_run sound) hgood)

end Trail

/-! ## Runs are paths -/

section Path

variable {ε : Type}

/-- While no sync fails, the stores that a run passes are those of a path. -/
theorem Step.path_course (step : Step ε) {database : Database}
    (sound : database.store.contents.Sound) (syncs : database.store.journal.SyncsHold) :
    Store.Path database.store (step.course database) (step.run database).2.store :=
  (step.trail_course Store.covers_fits sound True.intro).path syncs

/-- While no sync fails, the stores that some steps pass are those of a path. -/
theorem Step.path_courseAll (steps : List (Step ε)) {database : Database}
    (sound : database.store.contents.Sound) (syncs : database.store.journal.SyncsHold) :
    Store.Path database.store (Step.courseAll database steps)
      (Step.runAll database steps).2.store :=
  (Step.trail_courseAll Store.covers_fits steps sound True.intro).path syncs

end Path

end RecordBase
