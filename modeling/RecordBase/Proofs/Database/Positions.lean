import RecordBase.Proofs.Database.Reached
import RecordBase.Proofs.Store.Positions

/-!
# Positions are handed out once and in order

`Step.created` lists the identities under which a step creates records, in turn: those of single
creations, of the entries of its batches, whether these are kept or undone, and of the descriptors of
logical clusters. A step hands out the positions of these and no other (`Step.grants_run`), and opening
a database over its whole log hands out none (`Store.start_of_whole`).

* `Database.positions_in_order`: since the log was empty, the positions handed out in a physical cluster
  have been zero, one, two and so on.
-/

namespace RecordBase

/-! ## What a step creates -/

/-- The identities under which a single operation creates records. -/
def Operation.created (database : Database) : Operation → List RecordId
  | .create cluster content type => (database.store.created? cluster content type).toList
  | .addLogical name container => (database.store.descriptor? name container).toList
  | _ => []

mutual

/-- The identities under which a step creates records, in turn, also those of a batch that is then
undone. -/
def Step.created {ε : Type} (database : Database) : Step ε → List RecordId
  | .operation operation => operation.created database
  | .commit number items =>
    match database.ensureOpen with
    | .error _ => []
    | .ok () => Item.created database { batch := Batch.start number } items

/-- The identities under which a batch creates records from some point on. An entry adds to the outcome
what it creates. -/
def Item.created {ε : Type} (database : Database) (state : CommitState ε) :
    List (Item ε) → List RecordId
  | [] => []
  | .entry entry :: rest =>
    let state := { state with pulled := state.pulled + 1 }
    match state.batch.apply database.store entry with
    | (.error _, _) => []
    | (.ok batch, store) =>
      (batch.outcome.created.drop state.batch.outcome.created.length).map (·.2) ++
        Item.created { database with store } { state with batch } rest
  | .failure _ :: _ => []
  | .step step :: rest =>
    step.created database ++
      Item.created (step.run database).2
        { state with inner := (step.run database).1 :: state.inner } rest

end

/-! ## Single operations -/

namespace Operation

variable {database : Database}

/-- An operation that creates nothing hands out no position. -/
theorem plan?_keepsNext {operation : Operation} {plan : Plan Answer}
    (sound : database.store.contents.Sound) (h : operation.plan? database.store = some plan)
    (record : ∀ cluster content type, operation ≠ .create cluster content type)
    (logical : ∀ name container, operation ≠ .addLogical name container) :
    plan.Each Contents.KeepsNext database.store.contents := by
  cases operation with
  | create cluster content type => exact absurd rfl (record cluster content type)
  | update id content version type =>
    obtain rfl := Option.some.inj h
    exact (Store.replacePlan_keepsNext sound id content version (some type)).map _
  | delete id version =>
    obtain rfl := Option.some.inj h
    exact (Store.removePlan_keepsNext sound id version).map _
  | addPhysical name file size =>
    obtain rfl := Option.some.inj h
    exact (database.store.addPhysicalPlan_keepsNext name file size).map _
  | addLogical name container => exact absurd rfl (logical name container)
  | bind key id =>
    obtain rfl := Option.some.inj h
    exact (database.store.bindPlan_keepsNext key id).map _
  | unbind key =>
    obtain rfl := Option.some.inj h
    exact (database.store.unbindPlan_keepsNext key).map _
  | _ => cases h

theorem grants_run (operation : Operation) (sound : database.store.contents.Sound) :
    database.store.contents.Grants (operation.created database)
      (operation.run database).2.store.contents := by
  have hother (record : ∀ cluster content type, operation ≠ .create cluster content type)
      (logical : ∀ name container, operation ≠ .addLogical name container) :
      database.store.contents.Grants [] (operation.run database).2.store.contents := by
    refine .none (operation.sound_advances_run sound).2.listed ?_
    cases hplan : operation.plan? database.store with
    | some plan =>
      rw [run_of_plan hplan]
      exact Store.Law.keepsNext.perform (plan?_keepsNext sound hplan record logical)
    | none =>
      rw [(idle_run hplan).contents]
      exact fun _ => rfl
  cases operation with
  | create cluster content type =>
    rw [run, Database.store_onStore, created, Store.created?, Store.create_eq]
    exact Store.createPlan_grants sound rfl
  | addLogical name container =>
    rw [run, Database.store_onStore, created]
    exact Store.addLogical_grants sound name container
  | _ => exact hother (by rintro _ _ _ ⟨⟩) (by rintro _ _ ⟨⟩)

end Operation

/-! ## Runs -/

section Run

variable {ε : Type}

/-- A run hands out the positions of what it creates, and no other. -/
theorem Step.grants_run (step : Step ε) {database : Database}
    (sound : database.store.contents.Sound) :
    database.store.contents.Grants (step.created database) (step.run database).2.store.contents := by
  refine (sound_run_induction
    (fun database step =>
      database.store.contents.Grants (step.created database) (step.run database).2.store.contents)
    (fun database state items =>
      database.store.contents.Grants (Item.created database state items)
        (Item.runAll database state items).2.store.contents)
    ?operation ?closed ?opened ?kept ?refused ?applied ?failed ?inner database step sound).2.2
  case operation =>
    intro database operation sound
    exact operation.grants_run sound
  case closed =>
    intro database error number items hopen
    rw [run_commit_of_closed hopen]
    simp only [Step.created, hopen]
    exact .refl _
  case opened =>
    intro database number items hopen hbatch
    rw [run_commit_of_open hopen]
    simp only [Step.created, hopen]
    exact hbatch
  case kept =>
    intro database state
    exact .refl _
  case refused =>
    intro database state entry error store start rest sound hsound undoable happly
    rw [Item.runAll_entry_of_refused happly]
    simp only [Item.created, happly]
    exact (Batch.grants_of_refused sound happly).trans (Batch.grants_rollback hsound undoable)
  case applied =>
    intro database state entry batch store rest sound happly hbatch
    obtain ⟨more, hmore, hgrants⟩ := Batch.grants_of_apply sound happly
    rw [Item.runAll_entry_of_applied happly]
    simp only [Item.created, happly, hmore, List.drop_left]
    exact hgrants.trans hbatch
  case failed =>
    intro database state start cause rest sound undoable
    exact Batch.grants_rollback sound undoable
  case inner =>
    intro database state step rest sound hstep hbatch
    rw [Item.runAll_step]
    simp only [Item.created]
    exact hstep.trans hbatch

/-- The identities of records that a step tells to have created. -/
def Step.told : Step ε → Reply ε → List RecordId
  | .operation (.create _ _ _), .answer (.record record) => [record.id]
  | .operation (.addLogical _ _), .answer (.logicalAdded _ descriptor) => [descriptor]
  | .commit _ _, .commit (.ok outcome) _ _ => outcome.created.map (·.2)
  | _, _ => []

/-- A batch that is kept has created what its outcome tells. -/
theorem Item.told_of_kept {items : List (Item ε)} {database after : Database}
    {state : CommitState ε} {outcome : Outcome} {inner : List (Reply ε)} {pulled : Nat}
    (sound : database.store.contents.Sound)
    (run : Item.runAll database state items = (.commit (.ok outcome) inner pulled, after)) :
    ∃ more, outcome.created = state.batch.outcome.created ++ more ∧
      (more.map (·.2)).Sublist (Item.created database state items) := by
  induction items generalizing database state with
  | nil =>
    cases run
    exact ⟨[], (List.append_nil _).symm, .refl _⟩
  | cons item rest ih =>
    cases item with
    | entry entry =>
      rcases happly : state.batch.apply database.store entry with ⟨error | next, store⟩
      · rw [runAll_entry_of_refused happly] at run
        cases run
      · obtain ⟨first, hfirst, -⟩ := Batch.grants_of_apply sound happly
        rw [runAll_entry_of_applied happly] at run
        obtain ⟨more, hmore, htold⟩ := ih (Batch.sound_advances_apply sound happly).1 run
        refine ⟨first ++ more, ?_, ?_⟩
        · rw [hmore, hfirst, List.append_assoc]
        · simp only [Item.created, happly, hfirst, List.drop_left, List.map_append]
          exact htold.append_left _
    | failure cause => cases run
    | step step =>
      rw [runAll_step] at run
      obtain ⟨more, hmore, htold⟩ := ih (step.sound_run sound) run
      exact ⟨more, hmore, htold.trans (List.sublist_append_right ..)⟩

attribute [local irreducible] Store.normalName in
theorem Store.descriptor?_of_addLogical {store : Store} {name : String} {container : Int32}
    {added : Int16 × RecordId} (h : (store.addLogical name container).1 = .ok added) :
    store.descriptor? name container = some added.2 := by
  unfold addLogical at h
  unfold descriptor?
  cases hname : normalName name with
  | error error =>
    rw [hname] at h
    cases h
  | ok normal =>
    rw [hname] at h
    simp only at h ⊢
    cases hplan : store.logicalPlan normal container with
    | error error =>
      rw [hplan] at h
      cases h
    | ok found =>
      rw [hplan] at h
      obtain ⟨listing, id, position⟩ := found
      simp only at h ⊢
      rcases hwrite : store.writeSlot listing position
        ⟨listing.cluster.id, 0, .document, Bytes.ofText normal⟩ with ⟨error | _, written⟩
      · rw [hwrite] at h
        cases h
      · rw [hwrite] at h
        simp only at h ⊢
        split at h <;> cases h
        rfl

/-- Whatever a step tells to have created is among what it has created, in the same order. -/
theorem Step.told_sublist_created (step : Step ε) {database : Database}
    (sound : database.store.contents.Sound) :
    (step.told (step.run database).1).Sublist (step.created database) := by
  cases step with
  | operation operation =>
    cases operation with
    | create cluster content type =>
      simp only [Step.run, Step.created, Operation.run, Operation.created, Database.onStore,
        Store.created?]
      cases (database.store.create cluster content type).1 with
      | error error => exact .slnil
      | ok record => exact .refl _
    | addLogical name container =>
      simp only [Step.run, Step.created, Operation.run, Operation.created, Database.onStore]
      cases hadd : (database.store.addLogical name container).1 with
      | error error => exact List.nil_sublist _
      | ok added =>
        rw [Store.descriptor?_of_addLogical hadd]
        exact .refl _
    | _ => exact List.nil_sublist _
  | commit number items =>
    cases hopen : database.ensureOpen with
    | error error =>
      rw [run_commit_of_closed hopen]
      exact List.nil_sublist _
    | ok _ =>
      rw [run_commit_of_open hopen]
      simp only [Step.created, hopen]
      obtain ⟨result, inner, pulled, hreply⟩ :=
        Item.runAll_reply items database { batch := Batch.start number }
      rcases hrun : Item.runAll database { batch := Batch.start number } items with ⟨reply, after⟩
      rw [hrun] at hreply
      subst hreply
      cases result with
      | error error => exact List.nil_sublist _
      | ok outcome =>
        obtain ⟨more, hmore, htold⟩ := Item.told_of_kept sound hrun
        have hcreated : outcome.created = more := hmore
        rw [← hcreated] at htold
        exact htold

/-- All deeds of a run leave every cluster based. -/
theorem Store.covers_bases : Store.Covers Contents.Bases (fun _ => True) fun _ => True :=
  covers_of_listings (fun keeps fits => keeps.bases fits)
    (fun name file size _ => addPhysicalPlan_bases _ name file size)
    fun name container sound => addLogicalPlan_bases sound name container

theorem Step.based_run (step : Step ε) {database : Database}
    (sound : database.store.contents.Sound) (based : database.store.contents.Based) :
    (step.run database).2.store.contents.Based :=
  ((step.trail_course Store.covers_bases sound True.intro).of_law Store.Law.based sound).2 based

end Run

/-! ## Since the log was empty -/

namespace Database

variable {ε : Type} {ids : List RecordId} {database : Database}

/-- A database with the identities of the records created since its log was empty, in turn: it was opened
over that, put through some steps and opened anew over its whole log in between, whatever appends were
refused, with no sync failing and every entry of fewer than `2 ^ 32` bytes. -/
inductive Created (ε : Type) : List RecordId → Database → Prop
  | opened {name : String} {mode : StorageMode} {settings : Settings} {victims : Nat → Nat}
      {journal after : Journal} {database : Database} (empty : journal.medium.Holds [])
      (syncs : journal.SyncsHold)
      (opens : ofJournal name mode settings journal victims = (.ok database, after))
      (small : Store.SmallAppends 0 (Store.openingCourse settings victims journal)) :
      Created ε [] database
  | stepped {ids : List RecordId} {database : Database} (created : Created ε ids database)
      (step : Step ε) (small : Store.SmallAppends database.store.logSize (step.course database)) :
      Created ε (ids ++ step.created database) (step.run database).2
  | reopened {ids : List RecordId} {database reopened : Database} {name : String}
      {mode : StorageMode} {settings : Settings} {victims : Nat → Nat} {journal after : Journal}
      (created : Created ε ids database)
      (whole : journal.medium.Holds database.store.journal.medium.bytes) (syncs : journal.SyncsHold)
      (opens : ofJournal name mode settings journal victims = (.ok reopened, after))
      (small : Store.SmallAppends database.store.logSize
        (Store.openingCourse settings victims journal)) :
      Created ε ids reopened

theorem Created.durable (created : Created ε ids database) : Durable ε database := by
  induction created with
  | opened empty syncs opens small => exact .opened empty syncs opens small
  | stepped _ step small ih => exact .stepped ih step small
  | reopened _ whole syncs opens small ih => exact ih.reopened_whole whole syncs opens small

end Database

namespace Store

variable {before after : Store} {entries : List LogEntry} {settings : Settings} {victims : Nat → Nat}
  {journal last : Journal}

/-- Opening a store over the whole log of another hands out no position. -/
theorem grants_ofJournal (logs : before.Logs entries)
    (whole : journal.medium.Holds before.journal.medium.bytes)
    (h : ofJournal settings victims journal = (.ok after, last)) :
    before.contents.Grants [] after.contents := by
  obtain ⟨start, hcontents, hnext⟩ := ofJournal_of_law Law.keepsNext
    (fun store name => store.addPhysicalPlan_keepsNext name none (-1)) logs whole h
  obtain ⟨start', hcontents', hadvances⟩ := ofJournal_of_law Law.sound_advances
    (fun store name => store.addPhysicalPlan_proceeds name none (-1)) logs whole h
  rw [hcontents] at hnext
  rw [hcontents'] at hadvances
  exact .none (hadvances (Contents.Sound.empty.applyAll logs.rebuilt)).2.listed hnext

/-- Opening a store over the whole log of another leaves every cluster based. -/
theorem based_ofJournal (logs : before.Logs entries)
    (whole : journal.medium.Holds before.journal.medium.bytes)
    (h : ofJournal settings victims journal = (.ok after, last)) (based : before.contents.Based) :
    after.contents.Based := by
  obtain ⟨start, hcontents, hbased⟩ := ofJournal_of_law Law.based
    (fun store name => store.addPhysicalPlan_bases name none (-1)) logs whole h
  rw [hcontents] at hbased
  exact (hbased (Contents.Sound.empty.applyAll logs.rebuilt)).2 based

end Store

namespace Database

variable {ε : Type} {ids : List RecordId} {database : Database}

/-- Since its log was empty a database has handed out the positions of the records created, and no
other. -/
theorem Created.grants (created : Created ε ids database) :
    ({} : Contents).Grants ids database.store.contents ∧ database.store.contents.Based := by
  induction created with
  | @opened name mode settings victims journal after database empty syncs opens small =>
    have hlogs := Store.logs_ofContents_empty settings victims empty
    have whole : journal.medium.Holds journal.medium.bytes := by
      rw [empty.bytes_eq]
      exact empty
    have hstore := (ofJournal_ok opens).1
    exact ⟨Store.grants_ofJournal hlogs whole hstore, Store.based_ofJournal hlogs whole hstore .empty⟩
  | stepped created step small ih =>
    have sound := created.durable.reached.sound_coherent.1
    exact ⟨ih.1.trans (step.grants_run sound), step.based_run sound ih.2⟩
  | reopened created whole syncs opens small ih =>
    obtain ⟨⟨entries, hlogs⟩, -, -⟩ := created.durable.logs
    have hstore := (ofJournal_ok opens).1
    have hgrants := ih.1.trans (Store.grants_ofJournal hlogs whole hstore)
    rw [List.append_nil] at hgrants
    exact ⟨hgrants, Store.based_ofJournal hlogs whole hstore ih.2⟩

/-- The cluster in whose container the records of a cluster are kept. -/
def storage? (database : Database) (cluster : Int16) : Option Int16 :=
  (database.store.cluster? cluster).map (·.storage)

/-- The positions that some identities have in the container of a cluster. -/
def positionsOf (database : Database) (root : Int16) (ids : List RecordId) : List Int :=
  (ids.filter fun id => database.storage? id.cluster = some root).map (·.position.toInt)

/-- Positions are dense and never given out twice. Whatever has been created since the log was empty, was
created in the container of a physical cluster; the positions handed out in the container of each, to
its own records, to those of its logical clusters and to their descriptors, are zero, one, two and so on
in the order of the creations; and what is created there next gets the number that follows. -/
theorem positions_in_order (created : Created ε ids database) :
    (∀ id ∈ ids, ∃ cluster root, database.storage? id.cluster = some cluster ∧
      database.store.cluster? cluster = some root ∧ root.kind.isLogical = false) ∧
    ∀ root cluster, database.store.cluster? root = some cluster → cluster.kind.isLogical = false →
      database.positionsOf root ids =
        (List.range (database.positionsOf root ids).length).map Int.ofNat ∧
      ∀ other content type record, database.storage? other = some root →
        (database.store.create other content type).1 = .ok record →
        record.id.position.toInt = (database.positionsOf root ids).length := by
  obtain ⟨grants, based⟩ := created.grants
  have sound := created.durable.reached.sound_coherent.1
  constructor
  · intro id hid
    obtain ⟨listing, hlisted⟩ := grants.known id hid
    obtain ⟨root, hroot, hphysical, -⟩ := based.root hlisted
    refine ⟨listing.cluster.storage, root.cluster, ?_, congrArg (Option.map _) hroot, hphysical⟩
    rw [storage?, Store.cluster?, hlisted]
    rfl
  · intro root cluster hcluster hphysical
    obtain ⟨home, hroot, rfl⟩ := Option.map_eq_some_iff.1 hcluster
    have hstorage {other : Int16} {listing : Listing}
        (hlisted : database.store.contents.clusters.get? other = some listing) :
        database.storage? other = some root ↔ listing.home = home.home := by
      rw [← based.storage_eq_iff hroot hphysical hlisted, storage?, Store.cluster?, hlisted]
      exact Option.some_inj
    have hpositions : database.positionsOf root ids =
        database.store.contents.positionsIn home.home ids := by
      refine congrArg _ (List.filter_congr fun id hid => ?_)
      obtain ⟨listing, hlisted⟩ := grants.known id hid
      rw [decide_eq_decide, hstorage hlisted, Contents.home?, hlisted]
      exact Option.some_inj.symm
    have hcounts := grants.counts home.home
    rw [← hpositions] at hcounts
    refine ⟨?_, fun other content type record hother hcreate => ?_⟩
    · refine hcounts.numbers_eq.trans (List.map_congr_left fun i _ => ?_)
      exact Int.zero_add _
    · rw [Store.create_eq] at hcreate
      rcases Store.createPlan_cases sound other content type with ⟨error, hplan⟩ |
        ⟨listing, position, slot, tally, hlisted, hposition, -, -, hplan⟩
      · rw [hplan] at hcreate
        cases hcreate
      · have hrecord : record = slot.record ⟨listing.cluster.id, position⟩ := by
          rw [hplan, Store.perform_act] at hcreate
          generalize (database.store.enact _).1 = written at hcreate
          cases written <;> cases hcreate
          rfl
        have hnext := hcounts.next_eq
        rw [(hstorage hlisted).1 hother] at hposition
        rw [hrecord]
        exact (hposition.trans hnext).trans (Int.zero_add _)

/-- A record that is deleted, one of a batch that is given up, the descriptor of a cluster that is then
refused, that of one that is added, and a record of this: each takes the next position, and opening the
log anew keeps them. -/
theorem positions_in_order_of_reopened :
    let journal : Journal := { blankJournal with refusals := [(6, false), (1, true)] }
    let store := ((Store.ofContents plainSettings (fun _ => 0) journal {}).addInitial ["a"]).2
    let first : Database := { name := "a", mode := .memory, settings := plainSettings, store }
    let create : Step Unit := .operation (.create 0 [1] .document)
    let delete : Step Unit := .operation (.delete ⟨0, 0⟩ 0)
    let given : Step Unit := .commit 1 [.entry (.create 0 none (some [2])), .failure ()]
    let add : Step Unit := .operation (.addLogical "b" 0)
    let inside : Step Unit := .operation (.create 1 [3] .document)
    let twice := (add.run (add.run (given.run (delete.run (create.run first).2).2).2).2).2
    let ran := (inside.run twice).2
    ∃ ids last after, Created Unit ids last ∧
      ofJournal "a" .memory plainSettings
        { blankJournal with medium := .memory ⟨ran.store.journal.medium.bytes⟩ } (fun _ => 0) =
        (.ok last, after) ∧
      last.positionsOf 0 ids = [0, 1, 2, 3, 4] := by
  intro journal store first create delete given add inside twice ran
  have empty : journal.medium.Holds [] := Medium.holds_memory []
  have opening : Store.ofJournal plainSettings (fun _ => 0) journal = (.ok store, store.journal) ∧
      Store.openingCourse plainSettings (fun _ => 0) journal =
        [Store.ofContents plainSettings (fun _ => 0) journal {}, store] :=
    Store.ofJournal_of_empty empty rfl
  have small : Store.SmallAppends 0 (Store.openingCourse plainSettings (fun _ => 0) journal) := by
    rw [opening.2]
    decide +kernel
  have opened : Created Unit [] first := .opened empty (fun n => Faults.fate_nil _ n)
    (ofJournal_of_store "a" .memory opening.1) small
  have atTwice := ((((opened.stepped create (by decide +kernel)).stepped delete
    (by decide +kernel)).stepped given (by decide +kernel)).stepped add
    (by decide +kernel)).stepped add (by decide +kernel)
  have atEnd : Created Unit _ ran := atTwice.stepped inside (by decide +kernel)
  have durable : Durable Unit ran := atEnd.durable
  have hsettings : ran.settings = plainSettings := by
    simp only [ran, twice, Step.settings_run]
    rfl
  have whole : ({ blankJournal with medium := .memory ⟨ran.store.journal.medium.bytes⟩ } :
      Journal).medium.Holds ran.store.journal.medium.bytes := Medium.holds_memory _
  obtain ⟨last, after, hlast, hcontents, -⟩ := durable.reopen whole "a" .memory (fun _ => 0)
  have small' := durable.small_reopening whole fun _ => 0
  rw [hsettings] at hlast small'
  have again := atEnd.reopened whole (fun n => Faults.fate_nil _ n) hlast small'
  have hcluster : last.store.cluster? 0 = some ⟨0, "a", .physical none (-1)⟩ := by
    rw [Store.cluster?, hcontents]
    decide +kernel
  have dense := ((positions_in_order again).2 0 _ hcluster rfl).1
  refine ⟨_, last, after, again, hlast, dense.trans ?_⟩
  simp only [positionsOf, storage?, Store.cluster?, hcontents]
  decide +kernel

end Database

end RecordBase
