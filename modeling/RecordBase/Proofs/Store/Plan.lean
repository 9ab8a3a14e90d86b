import RecordBase.Store.Batch

/-!
# Deciding before writing

Every operation that writes decides from what the store holds what it is going to write, and then
writes it. The decision is a `Plan`; `Store.perform` carries it out, and one equation for each
operation (`Store.create_eq` and so on) says that this is what the operation does. A plan looks
neither at the cache nor at the counters or the journal, and whatever holds of all that `perform`
does holds of every operation.
-/

namespace RecordBase

/-- What a write makes of the cache. -/
inductive CacheNote where
  | keep
  | put (record : Record)
  | erase (id : RecordId)

/-- A write: its entry of the log, and what the store holds, caches and counts once the entry is
written. -/
structure Deed where
  entry : LogEntry
  after : Contents
  note : CacheNote := .keep
  tally : Stats → Stats := id

namespace Deed

/-- Filling a slot of the container of a listing. -/
def put (contents : Contents) (listing : Listing) (position : Int64) (slot : Slot)
    (note : CacheNote := .keep) (tally : Stats → Stats := id) : Deed where
  entry := .recordPut ⟨listing.cluster.storage, position⟩ slot
  after := contents.putSlot listing.home position slot
  note := note
  tally := tally

/-- Freeing a slot of the container of a listing. -/
def free (contents : Contents) (listing : Listing) (position : Int64) (note : CacheNote)
    (tally : Stats → Stats := id) : Deed where
  entry := .recordRemoved ⟨listing.cluster.storage, position⟩
  after := contents.removeSlot listing.home position
  note := note
  tally := tally

/-- Listing a cluster with a container of its own. -/
def listPhysical (contents : Contents) (cluster : Cluster) : Deed where
  entry := .clusterAdded cluster
  after := contents.listWithContainer cluster

/-- Listing a cluster whose records are kept in a container. -/
def listLogical (contents : Contents) (cluster : Cluster) (home : Nat) : Deed where
  entry := .clusterAdded cluster
  after := contents.list cluster home

/-- Binding a key. -/
def bind (contents : Contents) (key : String) (id : RecordId) : Deed where
  entry := .keyBound key id
  after := contents.bindKey key id

/-- Freeing a key. -/
def unbind (contents : Contents) (key : String) : Deed where
  entry := .keyRemoved key
  after := contents.removeKey key

end Deed

/-- What an operation is going to do: fail, or write some entries and answer. -/
inductive Plan (α : Type) where
  | refuse (error : Error)
  | act (deeds : List Deed) (answer : α)

/-- The plan with its answer changed. -/
def Plan.map {α β : Type} (f : α → β) : Plan α → Plan β
  | refuse error => refuse error
  | act deeds answer => act deeds (f answer)

/-- Counts a refusal, which is one for its version or not counted. -/
def Stats.countRefusal (stats : Stats) : Error → Stats
  | .versionConflict _ _ _ => stats.countConflict
  | _ => stats

namespace Store

variable {α β : Type}

/-! ## Carrying out a plan -/

/-- Does to the cache what a write asks for. -/
def noteWrite (store : Store) : CacheNote → Store
  | .keep => store
  | .put record => store.cachePut record
  | .erase id => store.cacheErase id

/-- The store once the entry of a deed is written. -/
def done (store : Store) (deed : Deed) (journal : Journal) : Store :=
  { store with journal, contents := deed.after, stats := deed.tally store.stats }.noteWrite deed.note

/-- Does one deed after another until an append fails. -/
def enact (store : Store) : List Deed → Except Error Unit × Store
  | [] => (.ok (), store)
  | deed :: rest =>
    match store.journal.append deed.entry with
    | (.error error, journal) => (.error error, { store with journal })
    | (.ok _, journal) => (store.done deed journal).enact rest

/-- Carries out a plan. -/
def perform (store : Store) : Plan α → Except Error α × Store
  | .refuse error => (.error error, { store with stats := store.stats.countRefusal error })
  | .act deeds answer =>
    match store.enact deeds with
    | (.error error, store) => (.error error, store)
    | (.ok (), store) => (.ok answer, store)

theorem perform_map (store : Store) (f : α → β) (plan : Plan α) :
    store.perform (plan.map f) =
      match store.perform plan with
      | (.error error, store) => (.error error, store)
      | (.ok answer, store) => (.ok (f answer), store) := by
  cases plan with
  | refuse error => rfl
  | act deeds answer =>
    simp only [Plan.map, perform]
    split <;> rfl

theorem ok_of_perform_map {store after : Store} {plan : Plan α} {f : α → β} {answer : β}
    (h : store.perform (plan.map f) = (.ok answer, after)) :
    ∃ found, store.perform plan = (.ok found, after) ∧ answer = f found := by
  rw [perform_map] at h
  rcases hperform : store.perform plan with ⟨error | found, last⟩ <;> rw [hperform] at h <;> cases h
  exact ⟨found, rfl, rfl⟩

theorem enact_of_refused {store : Store} {deed : Deed} {error : Error} {journal : Journal}
    (h : store.journal.append deed.entry = (.error error, journal)) (rest : List Deed) :
    store.enact (deed :: rest) = (.error error, { store with journal }) := by
  simp only [enact, h]

theorem enact_of_written {store : Store} {deed : Deed} {offset : Nat} {journal : Journal}
    (h : store.journal.append deed.entry = (.ok offset, journal)) (rest : List Deed) :
    store.enact (deed :: rest) = (store.done deed journal).enact rest := by
  simp only [enact, h]

theorem perform_act (store : Store) (deeds : List Deed) (answer : α) :
    store.perform (.act deeds answer) =
      ((store.enact deeds).1.map fun () => answer, (store.enact deeds).2) := by
  rw [perform]
  rcases store.enact deeds with ⟨_ | _, _⟩ <;> rfl

theorem perform_one_of_refused {store : Store} {deed : Deed} {error : Error} {journal : Journal}
    (h : store.journal.append deed.entry = (.error error, journal)) (answer : α) :
    store.perform (.act [deed] answer) = (.error error, { store with journal }) := by
  rw [perform, enact_of_refused h]

theorem perform_one_of_written {store : Store} {deed : Deed} {offset : Nat} {journal : Journal}
    (h : store.journal.append deed.entry = (.ok offset, journal)) (answer : α) :
    store.perform (.act [deed] answer) = (.ok answer, store.done deed journal) := by
  rw [perform, enact_of_written h, enact]

@[simp] theorem contents_noteWrite (store : Store) (note : CacheNote) :
    (store.noteWrite note).contents = store.contents := by
  cases note <;> rfl

@[simp] theorem journal_noteWrite (store : Store) (note : CacheNote) :
    (store.noteWrite note).journal = store.journal := by
  cases note <;> rfl

@[simp] theorem defaultCluster_noteWrite (store : Store) (note : CacheNote) :
    (store.noteWrite note).defaultCluster = store.defaultCluster := by
  cases note <;> rfl

@[simp] theorem contents_done (store : Store) (deed : Deed) (journal : Journal) :
    (store.done deed journal).contents = deed.after := by
  simp [done]

@[simp] theorem journal_done (store : Store) (deed : Deed) (journal : Journal) :
    (store.done deed journal).journal = journal := by
  simp [done]

@[simp] theorem defaultCluster_done (store : Store) (deed : Deed) (journal : Journal) :
    (store.done deed journal).defaultCluster = store.defaultCluster := by
  simp [done]

/-! ## Failures that are not counted -/

/-- The error of a result, if it is one, is not for a version. -/
def Uncounted (result : Except Error α) : Prop :=
  ∀ error stats, result = .error error → Stats.countRefusal stats error = stats

theorem Uncounted.ok (value : α) : Uncounted (.ok value) := by
  rintro error stats ⟨⟩

theorem Uncounted.bind {result : Except Error α} {next : α → Except Error β}
    (h : Uncounted result) (hnext : ∀ value, Uncounted (next value)) :
    Uncounted (result >>= next) := by
  cases result with
  | error error =>
    rintro _ stats ⟨⟩
    exact h error stats rfl
  | ok value => exact hnext value

theorem perform_refuse {store : Store} {result : Except Error β} {error : Error}
    (h : Uncounted result) (he : result = .error error) :
    store.perform (.refuse error : Plan α) = (.error error, store) := by
  rw [perform, h error store.stats he]

theorem uncounted_listing (store : Store) (cluster : Int16) : Uncounted (store.listing cluster) := by
  intro error stats h
  unfold listing at h
  split at h <;> cases h
  rfl

theorem uncounted_nextPosition (store : Store) (home : Nat) : Uncounted (store.nextPosition home) := by
  intro error stats h
  simp only [nextPosition] at h
  split at h <;> cases h
  rfl

theorem uncounted_clusterNamed (store : Store) (name : String) :
    Uncounted (store.clusterNamed name) := by
  intro error stats h
  unfold clusterNamed at h
  split at h <;> cases h
  rfl

theorem uncounted_normalName (name : String) : Uncounted (normalName name) := by
  intro error stats h
  simp only [normalName] at h
  split at h <;> cases h
  rfl

theorem uncounted_freshName (store : Store) (name : String) : Uncounted (store.freshName name) := by
  intro error stats h
  unfold freshName at h
  split at h <;> cases h
  rfl

theorem uncounted_nextClusterId (store : Store) : Uncounted store.nextClusterId := by
  intro error stats h
  unfold nextClusterId at h
  split at h
  · cases h
  · split at h <;> cases h
    rfl

theorem uncounted_containerId (store : Store) (container : Int32) :
    Uncounted (store.containerId container) := by
  unfold containerId
  split
  · exact uncounted_clusterNamed store _
  · split
    · exact .ok _
    · rintro error stats ⟨⟩
      rfl

theorem uncounted_physicalListing (store : Store) (id : Int16) :
    Uncounted (store.physicalListing id) := by
  intro error stats h
  unfold physicalListing at h
  split at h
  · rename_i hlisting
    cases h
    exact uncounted_listing store id _ stats hlisting
  · split at h <;> cases h
    rfl

theorem uncounted_logicalPlan (store : Store) (name : String) (container : Int32) :
    Uncounted (store.logicalPlan name container) :=
  (uncounted_containerId store container).bind fun id =>
    (uncounted_freshName store name).bind fun _ =>
      (uncounted_physicalListing store id).bind fun listing =>
        (uncounted_nextClusterId store).bind fun _ =>
          (uncounted_nextPosition store listing.home).bind fun _ => .ok _

/-! ## Plans of single operations -/

-- What a plan does never depends on how a name is made normal.
attribute [local irreducible] normalName

def createPlan (store : Store) (cluster : Int16) (content : Bytes) (type : RecordType) :
    Plan Record :=
  match store.listing cluster with
  | .error error => .refuse error
  | .ok listing =>
    match store.nextPosition listing.home with
    | .error error => .refuse error
    | .ok position =>
      let slot : Slot := ⟨listing.cluster.id, 0, type, content⟩
      let record := slot.record ⟨listing.cluster.id, position⟩
      .act [.put store.contents listing position slot (.put record) (·.countCreate content.length)]
        record

def replacePlan (store : Store) (id : RecordId) (content : Bytes) (version : Int32)
    (type : Option RecordType) : Plan (Record × Record) :=
  match (store.expected id version).1 with
  | .error error => .refuse error
  | .ok (listing, current) =>
    if current.version = Int32.maxValue then .refuse (.invalidOperation (.versionOverflow id))
    else
      let slot : Slot :=
        ⟨listing.cluster.id, current.version + 1, type.getD current.type, content⟩
      let updated := slot.record id
      .act
        [.put store.contents listing id.position slot (.put updated) (·.countUpdate content.length)]
        (updated, current)

def removePlan (store : Store) (id : RecordId) (version : Int32) : Plan Record :=
  match (store.expected id version).1 with
  | .error error => .refuse error
  | .ok (listing, current) =>
    .act [.free store.contents listing id.position (.erase id) (·.countDelete)] current

def compensatePlan (store : Store) (id : RecordId) (written : Option Int32)
    (previous : Option Record) : Plan Bool :=
  match store.listing id.cluster with
  | .error error => .refuse error
  | .ok listing =>
    if (store.stored? listing id).map (·.version) ≠ written then .act [] false
    else match previous with
      | some previous =>
        let slot : Slot :=
          ⟨listing.cluster.id, previous.version, previous.type, previous.content⟩
        .act [.put store.contents listing id.position slot (.put previous)] true
      | none => .act [.free store.contents listing id.position (.erase id)] true

def addPhysicalPlan (store : Store) (name : String) (file : Option String) (size : Int32) :
    Plan Int16 :=
  match normalName name with
  | .error error => .refuse error
  | .ok name =>
    match store.freshName name with
    | .error error => .refuse error
    | .ok () =>
      match store.nextClusterId with
      | .error error => .refuse error
      | .ok id =>
        let cluster : Cluster := ⟨id, name, .physical file size⟩
        .act [.listPhysical store.contents cluster] id

def addLogicalPlan (store : Store) (name : String) (container : Int32) :
    Plan (Int16 × RecordId) :=
  match normalName name with
  | .error error => .refuse error
  | .ok name =>
    match store.logicalPlan name container with
    | .error error => .refuse error
    | .ok (listing, id, position) =>
      let owner := listing.cluster.id
      let descriptor : RecordId := ⟨owner, position⟩
      let cluster : Cluster := ⟨id, name, .logical owner descriptor⟩
      let announced := Deed.put store.contents listing position
        ⟨owner, 0, .document, Bytes.ofText name⟩
      .act [announced, .listLogical announced.after cluster listing.home] (id, descriptor)

def bindPlan (store : Store) (key : String) (id : RecordId) : Plan (Option RecordId) :=
  .act [.bind store.contents key id] (store.lookup? key)

def unbindPlan (store : Store) (key : String) : Plan (Option RecordId) :=
  match store.lookup? key with
  | none => .act [] none
  | some previous =>
    .act [.unbind store.contents key] (some previous)

/-! ## Operations carry out their plans -/

theorem create_eq (store : Store) (cluster : Int16) (content : Bytes) (type : RecordType) :
    store.create cluster content type = store.perform (store.createPlan cluster content type) := by
  unfold create createPlan
  cases hlisting : store.listing cluster with
  | error error =>
    exact (perform_refuse (uncounted_listing store _) hlisting).symm
  | ok listing =>
    simp only
    cases hnext : store.nextPosition listing.home with
    | error error =>
      exact (perform_refuse (uncounted_nextPosition store _) hnext).symm
    | ok position =>
      simp only [perform, writeSlot, write, enact, Deed.put]
      rcases store.journal.append _ with ⟨_ | _, journal⟩ <;> rfl

theorem expected_eq (store : Store) (id : RecordId) (version : Int32) :
    store.expected id version =
      match (store.expected id version).1 with
      | .error error => (.error error, { store with stats := store.stats.countRefusal error })
      | .ok found => (.ok found, store) := by
  unfold expected
  split
  · rfl
  · split
    · rename_i hlisting
      exact (perform_refuse (uncounted_listing store _) hlisting).symm
    · split
      · rfl
      · split <;> rfl

theorem replace_eq (store : Store) (id : RecordId) (content : Bytes) (version : Int32)
    (type : Option RecordType) :
    store.replace id content version type =
      store.perform (store.replacePlan id content version type) := by
  unfold replace replacePlan
  rw [expected_eq]
  cases (store.expected id version).1 with
  | error error => rfl
  | ok found =>
    obtain ⟨listing, current⟩ := found
    simp only
    split
    · rfl
    · simp only [perform, writeSlot, write, enact, Deed.put]
      rcases store.journal.append _ with ⟨_ | _, journal⟩ <;> rfl

theorem remove_eq (store : Store) (id : RecordId) (version : Int32) :
    store.remove id version = store.perform (store.removePlan id version) := by
  unfold remove removePlan
  rw [expected_eq]
  cases (store.expected id version).1 with
  | error error => rfl
  | ok found =>
    obtain ⟨listing, current⟩ := found
    simp only [perform, freeSlot, write, enact, Deed.free]
    rcases store.journal.append _ with ⟨_ | _, journal⟩ <;> rfl

theorem update_eq (store : Store) (id : RecordId) (content : Bytes) (version : Int32)
    (type : RecordType) :
    store.update id content version type =
      store.perform ((store.replacePlan id content version (some type)).map (·.1.version)) := by
  rw [update, replace_eq, perform_map]
  rcases store.perform _ with ⟨_ | ⟨updated, previous⟩, after⟩ <;> rfl

theorem delete_eq (store : Store) (id : RecordId) (version : Int32) :
    store.delete id version = store.perform ((store.removePlan id version).map fun _ => ()) := by
  rw [delete, remove_eq, perform_map]
  rcases store.perform _ with ⟨_ | previous, after⟩ <;> rfl

theorem compensate_eq (store : Store) (id : RecordId) (written : Option Int32)
    (previous : Option Record) :
    store.compensate id written previous =
      store.perform (store.compensatePlan id written previous) := by
  unfold compensate compensatePlan
  cases hlisting : store.listing id.cluster with
  | error error =>
    exact (perform_refuse (uncounted_listing store _) hlisting).symm
  | ok listing =>
    simp only
    split
    · rfl
    · cases previous with
      | some previous =>
        simp only [perform, writeSlot, write, enact, Deed.put]
        rcases store.journal.append _ with ⟨_ | _, journal⟩ <;> rfl
      | none =>
        simp only [perform, freeSlot, write, enact, Deed.free]
        rcases store.journal.append _ with ⟨_ | _, journal⟩ <;> rfl

theorem addPhysical_eq (store : Store) (name : String) (file : Option String) (size : Int32) :
    store.addPhysical name file size = store.perform (store.addPhysicalPlan name file size) := by
  unfold addPhysical addPhysicalPlan
  cases hname : normalName name with
  | error error =>
    exact (perform_refuse (uncounted_normalName _) hname).symm
  | ok name =>
    simp only [addPhysicalNamed]
    cases hfresh : store.freshName name with
    | error error =>
      exact (perform_refuse (uncounted_freshName store _) hfresh).symm
    | ok _ =>
      simp only
      cases hid : store.nextClusterId with
      | error error =>
        exact (perform_refuse (uncounted_nextClusterId store) hid).symm
      | ok id =>
        simp only [perform, write, enact, Deed.listPhysical]
        rcases store.journal.append _ with ⟨_ | _, journal⟩ <;> rfl

theorem addLogical_eq (store : Store) (name : String) (container : Int32) :
    store.addLogical name container = store.perform (store.addLogicalPlan name container) := by
  unfold addLogical addLogicalPlan
  cases hname : normalName name with
  | error error =>
    exact (perform_refuse (uncounted_normalName _) hname).symm
  | ok name =>
    simp only
    cases hplan : store.logicalPlan name container with
    | error error => exact (perform_refuse (uncounted_logicalPlan store _ _) hplan).symm
    | ok found =>
      obtain ⟨listing, id, position⟩ := found
      simp only [perform, writeSlot, write, enact, Deed.put, Deed.listLogical]
      rcases store.journal.append _ with ⟨_ | _, journal⟩
      · rfl
      · simp only [change, done, noteWrite]
        rcases journal.append _ with ⟨_ | _, journal⟩ <;> rfl

theorem bind_eq (store : Store) (key : String) (id : RecordId) :
    store.bind key id = store.perform (store.bindPlan key id) := by
  simp only [bind, bindPlan, perform, write, enact, Deed.bind]
  rcases store.journal.append _ with ⟨_ | _, journal⟩ <;> rfl

theorem unbind_eq (store : Store) (key : String) :
    store.unbind key = store.perform (store.unbindPlan key) := by
  unfold unbind unbindPlan
  cases store.lookup? key with
  | none => rfl
  | some previous =>
    simp only [perform, write, enact, Deed.unbind]
    rcases store.journal.append _ with ⟨_ | _, journal⟩ <;> rfl

end Store

/-! ## Plans of batches -/

namespace Undo

/-- The identity that an entry of a batch wrote. -/
def id : Undo → RecordId
  | created id => id
  | updated _ previous => previous.id
  | deleted previous => previous.id

/-- The version that the entry left there, if any. -/
def written : Undo → Option Int32
  | created _ => some 0
  | updated written _ => some written
  | deleted _ => none

/-- The record that the entry found there, if any. -/
def previous : Undo → Option Record
  | created _ => none
  | updated _ previous => some previous
  | deleted previous => some previous

end Undo

namespace Batch

/-- What a batch becomes of the creation of a record. -/
def noteCreated (batch : Batch) (cluster : Int16) (record : Record) : Batch where
  outcome :=
    { batch.outcome with
      created := batch.outcome.created ++
        [(RecordId.temporary cluster batch.outcome.created.length, record.id)] }
  undo := .created record.id :: batch.undo

/-- What a batch becomes of the update of a record. -/
def noteUpdated (batch : Batch) (id : RecordId) (updated previous : Record) : Batch where
  outcome := { batch.outcome with updated := batch.outcome.updated ++ [(id, updated.version)] }
  undo := .updated updated.version previous :: batch.undo

/-- What a batch becomes of the deletion of a record. -/
def noteDeleted (batch : Batch) (previous : Record) : Batch where
  outcome := { batch.outcome with deleted := batch.outcome.deleted + 1 }
  undo := .deleted previous :: batch.undo

/-- What an entry of a batch is going to do. -/
def plan (store : Store) (batch : Batch) : BatchEntry → Plan Batch
  | .create _ _ none => .refuse (.invalidBatch .createdWithoutContent)
  | .create cluster name (some content) =>
    match targetCluster store cluster name with
    | .error error => .refuse error
    | .ok target => (store.createPlan target content .document).map (batch.noteCreated cluster)
  | .update _ _ none => .refuse (.invalidBatch .updatedWithoutContent)
  | .update id version (some content) =>
    match batch.resolve id with
    | .error error => .refuse error
    | .ok id => (store.replacePlan id content version none).map fun (updated, previous) =>
        batch.noteUpdated id updated previous
  | .delete id version =>
    match batch.resolve id with
    | .error error => .refuse error
    | .ok id => (store.removePlan id version).map batch.noteDeleted

/-- What undoing an entry is going to do. -/
def undoPlan (store : Store) (undo : Undo) : Plan Bool :=
  store.compensatePlan undo.id undo.written undo.previous

theorem uncounted_targetCluster (store : Store) (cluster : Int16) (name : Option String) :
    Store.Uncounted (targetCluster store cluster name) := by
  unfold targetCluster
  split
  · exact Store.uncounted_clusterNamed store _
  · split
    · exact .ok _
    · exact Store.uncounted_clusterNamed store _

theorem uncounted_resolve (batch : Batch) (id : RecordId) : Store.Uncounted (batch.resolve id) := by
  intro error stats h
  unfold resolve at h
  split at h
  · cases h
  · split at h <;> cases h
    rfl

theorem apply_eq (store : Store) (batch : Batch) (entry : BatchEntry) :
    batch.apply store entry = store.perform (batch.plan store entry) := by
  cases entry with
  | create cluster name content =>
    cases content with
    | none => rfl
    | some content =>
      simp only [apply, applyCreate, plan]
      cases htarget : targetCluster store cluster name with
      | error error =>
        exact (Store.perform_refuse (uncounted_targetCluster store cluster name) htarget).symm
      | ok target =>
        simp only [Store.create_eq, Store.perform_map]
        rcases store.perform _ with ⟨_ | record, after⟩ <;> rfl
  | update id version content =>
    cases content with
    | none => rfl
    | some content =>
      simp only [apply, applyUpdate, plan]
      cases hid : batch.resolve id with
      | error error => exact (Store.perform_refuse (uncounted_resolve batch id) hid).symm
      | ok id =>
        simp only [Store.replace_eq, Store.perform_map]
        rcases store.perform _ with ⟨_ | ⟨updated, previous⟩, after⟩ <;> rfl
  | delete id version =>
    simp only [apply, applyDelete, plan]
    cases hid : batch.resolve id with
    | error error => exact (Store.perform_refuse (uncounted_resolve batch id) hid).symm
    | ok id =>
      simp only [Store.remove_eq, Store.perform_map]
      rcases store.perform _ with ⟨_ | previous, after⟩ <;> rfl

theorem undoOne_eq (store : Store) (undo : Undo) :
    undoOne store undo = (store.perform (undoPlan store undo)).2 := by
  cases undo <;> simp only [undoOne, undoPlan, Undo.id, Undo.written, Undo.previous,
    Store.compensate_eq]

end Batch

end RecordBase
