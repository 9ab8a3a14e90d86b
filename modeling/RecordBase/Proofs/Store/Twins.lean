import RecordBase.Command.Query
import RecordBase.Proofs.Store.Opening

/-!
# Stores that differ in their caches

Two stores that hold the same and are at the same place of the same journal, but differ in their
caches and counters (`Store.Twins`), make the same plans and carry them out alike. They also read
alike if both caches are coherent (`Twins.read`), though the caches may hold different records and
evict others. Opening one log with different caches gives twins (`Store.twins_ofJournal`).
-/

namespace RecordBase

/-- Stores that differ in their caches and counters only. -/
structure Store.Twins (a b : Store) : Prop where
  contents : b.contents = a.contents
  journal : b.journal = a.journal
  defaultCluster : b.defaultCluster = a.defaultCluster

namespace Store

variable {a b : Store} {α : Type}

theorem Twins.done (twins : a.Twins b) (deed : Deed) (journal : Journal) :
    (a.done deed journal).Twins (b.done deed journal) := by
  refine ⟨?_, ?_, ?_⟩
  · rw [contents_done, contents_done]
  · rw [journal_done, journal_done]
  · rw [defaultCluster_done, defaultCluster_done, twins.defaultCluster]

theorem Twins.enact (twins : a.Twins b) (deeds : List Deed) :
    (a.enact deeds).1 = (b.enact deeds).1 ∧ (a.enact deeds).2.Twins (b.enact deeds).2 := by
  induction deeds generalizing a b with
  | nil => exact ⟨rfl, twins⟩
  | cons deed rest ih =>
    rcases happend : a.journal.append deed.entry with ⟨error | offset, journal⟩
    · have happend' : b.journal.append deed.entry = (.error error, journal) := by
        rw [twins.journal, happend]
      rw [enact_of_refused happend, enact_of_refused happend']
      exact ⟨rfl, twins.contents, rfl, twins.defaultCluster⟩
    · have happend' : b.journal.append deed.entry = (.ok offset, journal) := by
        rw [twins.journal, happend]
      rw [enact_of_written happend, enact_of_written happend']
      exact ih (twins.done deed journal)

/-- Twins carry out a plan alike. -/
theorem Twins.perform (twins : a.Twins b) (plan : Plan α) :
    (a.perform plan).1 = (b.perform plan).1 ∧ (a.perform plan).2.Twins (b.perform plan).2 := by
  cases plan with
  | refuse error => exact ⟨rfl, twins.contents, twins.journal, twins.defaultCluster⟩
  | act deeds answer =>
    obtain ⟨hresult, hafter⟩ := twins.enact deeds
    simp only [Store.perform]
    rcases ha : a.enact deeds with ⟨_ | _, _⟩ <;> rcases hb : b.enact deeds with ⟨_ | _, _⟩ <;>
      rw [ha, hb] at hresult hafter <;> cases hresult <;> exact ⟨rfl, hafter⟩

/-! ## Twins decide alike -/

theorem Twins.listing (twins : a.Twins b) (cluster : Int16) : b.listing cluster = a.listing cluster := by
  simp only [Store.listing, twins.contents]

theorem Twins.nextPosition (twins : a.Twins b) (home : Nat) :
    b.nextPosition home = a.nextPosition home := by
  simp only [Store.nextPosition, twins.contents]

theorem Twins.stored? (twins : a.Twins b) (listing : Listing) (id : RecordId) :
    b.stored? listing id = a.stored? listing id := by
  simp only [Store.stored?, twins.contents]

theorem Twins.clusterNamed (twins : a.Twins b) (name : String) :
    b.clusterNamed name = a.clusterNamed name := by
  simp only [Store.clusterNamed, Store.clusterNamed?, twins.contents]

theorem Twins.defaultClusterId (twins : a.Twins b) : b.defaultClusterId = a.defaultClusterId := by
  rw [Store.defaultClusterId, Store.defaultClusterId, twins.defaultCluster, twins.clusterNamed]

theorem Twins.freshName (twins : a.Twins b) (name : String) : b.freshName name = a.freshName name := by
  simp only [Store.freshName, twins.contents]

theorem Twins.nextClusterId (twins : a.Twins b) : b.nextClusterId = a.nextClusterId := by
  simp only [Store.nextClusterId, twins.contents]

theorem Twins.expected (twins : a.Twins b) (id : RecordId) (version : Int32) :
    (b.expected id version).1 = (a.expected id version).1 := by
  simp only [Store.expected, twins.listing, twins.stored?]
  split
  · rfl
  · split
    · rfl
    · split
      · rfl
      · split <;> rfl

theorem Twins.createPlan (twins : a.Twins b) (cluster : Int16) (content : Bytes)
    (type : RecordType) :
    b.createPlan cluster content type = a.createPlan cluster content type := by
  simp only [Store.createPlan, twins.listing, twins.nextPosition, twins.contents]

theorem Twins.replacePlan (twins : a.Twins b) (id : RecordId) (content : Bytes) (version : Int32)
    (type : Option RecordType) :
    b.replacePlan id content version type = a.replacePlan id content version type := by
  simp only [Store.replacePlan, twins.expected, twins.contents]

theorem Twins.removePlan (twins : a.Twins b) (id : RecordId) (version : Int32) :
    b.removePlan id version = a.removePlan id version := by
  simp only [Store.removePlan, twins.expected, twins.contents]

theorem Twins.addPhysicalPlan (twins : a.Twins b) (name : String) (file : Option String)
    (size : Int32) : b.addPhysicalPlan name file size = a.addPhysicalPlan name file size := by
  simp only [Store.addPhysicalPlan, twins.freshName, twins.nextClusterId, twins.contents]

theorem Twins.addLogicalPlan (twins : a.Twins b) (name : String) (container : Int32) :
    b.addLogicalPlan name container = a.addLogicalPlan name container := by
  simp only [Store.addLogicalPlan, Store.logicalPlan, Store.containerId, Store.physicalListing,
    twins.defaultClusterId, twins.freshName, twins.listing, twins.nextClusterId,
    twins.nextPosition, twins.contents]

theorem Twins.batchPlan (twins : a.Twins b) (batch : Batch) (entry : BatchEntry) :
    batch.plan b entry = batch.plan a entry := by
  have htarget : ∀ cluster name, Batch.targetCluster b cluster name =
      Batch.targetCluster a cluster name := fun cluster name => by
    simp only [Batch.targetCluster, twins.clusterNamed, twins.defaultClusterId]
  cases entry with
  | create cluster name content =>
    cases content with
    | none => rfl
    | some content => simp only [Batch.plan, htarget, twins.createPlan]
  | update id version content =>
    cases content with
    | none => rfl
    | some content => simp only [Batch.plan, twins.replacePlan]
  | delete id version => simp only [Batch.plan, twins.removePlan]

theorem Twins.undoPlan (twins : a.Twins b) (undo : Undo) :
    Batch.undoPlan b undo = Batch.undoPlan a undo := by
  simp only [Batch.undoPlan, Store.compensatePlan, twins.listing, twins.stored?, twins.contents]

theorem Twins.rollback (twins : a.Twins b) (batch : Batch) :
    (batch.rollback a).Twins (batch.rollback b) := by
  have hundos : ∀ undos : List Undo, ∀ {a b : Store}, a.Twins b →
      (undos.foldl Batch.undoOne a).Twins (undos.foldl Batch.undoOne b) := by
    intro undos
    induction undos with
    | nil => exact fun twins => twins
    | cons undo rest ih =>
      intro a b twins
      refine ih ?_
      rw [Batch.undoOne_eq, Batch.undoOne_eq, twins.undoPlan]
      exact (twins.perform _).2
  have h := hundos batch.undo twins
  exact ⟨h.contents, h.journal, h.defaultCluster⟩

theorem Twins.apply {batch : Batch} {entry : BatchEntry} {result : Except Error Batch} {after : Store}
    (twins : a.Twins b) (h : batch.apply a entry = (result, after)) :
    ∃ after', batch.apply b entry = (result, after') ∧ after.Twins after' := by
  obtain ⟨hresult, hstore⟩ := twins.perform (batch.plan a entry)
  rw [Batch.apply_eq] at h
  rw [h] at hresult hstore
  refine ⟨(b.perform (batch.plan a entry)).2, ?_, hstore⟩
  rw [Batch.apply_eq, twins.batchPlan]
  exact Prod.ext hresult.symm rfl

/-! ## Twins look alike -/

theorem Twins.symm (twins : a.Twins b) : b.Twins a :=
  ⟨twins.contents.symm, twins.journal.symm, twins.defaultCluster.symm⟩

theorem Twins.trans {c : Store} (h₁ : a.Twins b) (h₂ : b.Twins c) : a.Twins c :=
  ⟨h₂.contents.trans h₁.contents, h₂.journal.trans h₁.journal,
    h₂.defaultCluster.trans h₁.defaultCluster⟩

theorem Quiet.twins (quiet : a.Quiet b) : a.Twins b :=
  ⟨quiet.contents, quiet.journal, quiet.defaultCluster⟩

/-- What a look at twins leaves are twins. -/
theorem Twins.quiet {c d : Store} (twins : a.Twins b) (hc : a.Quiet c) (hd : b.Quiet d) : c.Twins d :=
  hc.twins.symm.trans (twins.trans hd.twins)

theorem Twins.readUncached (twins : a.Twins b) (id : RecordId) :
    (a.readUncached id).1 = (b.readUncached id).1 := by
  unfold Store.readUncached
  split
  · rfl
  · rw [twins.listing]
    split
    · rfl
    · rw [twins.stored?]

theorem Twins.read (twins : a.Twins b) (ha : a.Coherent) (hb : b.Coherent) (id : RecordId) :
    (a.read id).1 = (b.read id).1 := by
  rw [read_eq_readUncached ha, read_eq_readUncached hb, twins.readUncached]

theorem Twins.scan (twins : a.Twins b) (cluster : Int16) : b.scan cluster = a.scan cluster := by
  simp only [Store.scan, twins.listing, twins.contents]

theorem Twins.count (twins : a.Twins b) (clusters : List Int16) :
    b.count clusters = a.count clusters := by
  induction clusters with
  | nil => rfl
  | cons cluster rest ih => simp only [Store.count, ih, twins.listing, twins.contents]

theorem Twins.countNamed (twins : a.Twins b) (name : String) :
    b.countNamed name = a.countNamed name := by
  simp only [Store.countNamed, twins.clusterNamed, twins.count]

theorem Twins.execute (twins : a.Twins b) (ha : a.Coherent) (hb : b.Coherent)
    (request : CommandRequest) : (a.execute request).1 = (b.execute request).1 := by
  unfold Store.execute
  split
  · rename_i query _
    cases query with
    | select cluster => simp only [answer, select, twins.clusterNamed, twins.scan]
    | count cluster => simp only [answer, twins.countNamed]
    | load identity =>
      simp only [answer]
      split
      · rfl
      · rename_i id _
        have hread := twins.read ha hb id
        generalize a.read id = found at hread
        generalize b.read id = found' at hread
        obtain ⟨_ | _ | record, after⟩ := found <;> obtain ⟨_ | _ | record', after'⟩ := found' <;>
          cases hread <;> rfl
    | listClusters => simp only [answer, Store.clusters, twins.contents]
  · rfl

theorem Twins.sync (twins : a.Twins b) : a.sync.1 = b.sync.1 ∧ a.sync.2.Twins b.sync.2 := by
  refine ⟨?_, twins.contents, ?_, twins.defaultCluster⟩
  · simp only [Store.sync, twins.journal]
  · simp only [Store.sync, twins.journal]

theorem Twins.settle (twins : a.Twins b) :
    a.settle.1 = b.settle.1 ∧ a.settle.2.Twins b.settle.2 := by
  refine ⟨?_, twins.contents, ?_, twins.defaultCluster⟩
  · simp only [Store.settle, twins.journal]
  · simp only [Store.settle, twins.journal]

/-! ## Opened stores -/

theorem Twins.addInitial (twins : a.Twins b) (names : List String) :
    (a.addInitial names).1 = (b.addInitial names).1 ∧
      (a.addInitial names).2.Twins (b.addInitial names).2 := by
  induction names generalizing a b with
  | nil => exact ⟨rfl, twins⟩
  | cons name rest ih =>
    obtain ⟨hresult, hstore⟩ := twins.perform (a.addPhysicalPlan name none (-1))
    simp only [addInitial_cons, addPhysical_eq, twins.addPhysicalPlan]
    generalize a.perform (a.addPhysicalPlan name none (-1)) = done at hresult hstore
    generalize b.perform (a.addPhysicalPlan name none (-1)) = done' at hresult hstore
    obtain ⟨_ | _, _⟩ := done <;> obtain ⟨_ | _, _⟩ := done' <;> cases hresult
    · exact ⟨rfl, hstore⟩
    · exact ih hstore

/-- Stores opened over one log with different caches are twins, or fail alike. -/
theorem twins_ofJournal (settings : Settings) (useCache : Bool) (cacheCapacity : Nat)
    (victims victims' : Nat → Nat) (journal : Journal) :
    (∃ error after, ofJournal settings victims journal = (.error error, after) ∧
      ofJournal { settings with useCache, cacheCapacity } victims' journal = (.error error, after)) ∨
    ∃ a b after, ofJournal settings victims journal = (.ok a, after) ∧
      ofJournal { settings with useCache, cacheCapacity } victims' journal = (.ok b, after) ∧
      a.Twins b := by
  unfold ofJournal
  cases journal.replay with
  | error error => exact .inl ⟨error, journal, rfl, rfl⟩
  | ok replayed =>
    obtain ⟨entries, replayed⟩ := replayed
    simp only
    cases ({} : Contents).applyAll entries with
    | error error => exact .inl ⟨error, replayed, rfl, rfl⟩
    | ok contents =>
      have twins : (ofContents settings victims replayed contents).Twins
          (ofContents { settings with useCache, cacheCapacity } victims' replayed contents) :=
        ⟨rfl, rfl, rfl⟩
      obtain ⟨hresult, hstore⟩ := twins.addInitial settings.initialClusters
      simp only
      split
      · exact .inr ⟨_, _, replayed, rfl, rfl, twins⟩
      · generalize (ofContents settings victims replayed contents).addInitial
          settings.initialClusters = done at hresult hstore
        generalize (ofContents { settings with useCache, cacheCapacity } victims' replayed
          contents).addInitial settings.initialClusters = done' at hresult hstore
        obtain ⟨error | _, a⟩ := done <;> obtain ⟨error' | _, b⟩ := done' <;> cases hresult
        · exact .inl ⟨error, a.journal, rfl, by rw [← hstore.journal]⟩
        · exact .inr ⟨a, b, a.journal, rfl, by rw [← hstore.journal], hstore⟩

end Store

end RecordBase
