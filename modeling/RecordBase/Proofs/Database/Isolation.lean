import RecordBase.Proofs.Database.Serving
import RecordBase.Proofs.Store.Isolation

/-!
# Clusters that share a container

A logical cluster keeps its records in the container of another one, among those of that cluster and
of its siblings. `Step.touches` lists the changes of records that a run makes and the cluster that
each is made through: operations, entries of batches, and what undoes these.

* `Database.clusters_isolated`: in every database that serves, each slot in use is seen through one
  cluster, and whatever changes records through one cluster changes nothing that another shows.
-/

namespace RecordBase

/-! ## Changes of records -/

/-- A change of a record through a cluster. There is none if it was refused before the cluster was
known. -/
structure Touch where
  before : Store
  cluster? : Option Int16
  after : Store

/-- No other cluster shows a difference, nor could its slots have been updated or deleted. -/
structure Touch.Isolated (touch : Touch) : Prop where
  others : ∀ other, touch.cluster? ≠ some other → touch.before.SameThrough touch.after other
  guards : touch.before.Guards

/-- The cluster through which an operation changes a record, if it is one that does. -/
def Operation.cluster? : Operation → Option Int16
  | create cluster _ _ => some cluster
  | update id _ _ _ | delete id _ => some id.cluster
  | _ => none

/-- The change of a record that an operation makes. -/
def Operation.touches (database : Database) (operation : Operation) : List Touch :=
  operation.cluster?.toList.map fun cluster =>
    ⟨database.store, some cluster, (operation.run database).2.store⟩

/-- The changes that undo entries of a batch, each given with the cluster of its entry. -/
def Batch.undoTouches (store : Store) : List (Undo × Option Int16) → List Touch
  | [] => []
  | (undo, cluster?) :: rest =>
    ⟨store, cluster?, undoOne store undo⟩ :: undoTouches (undoOne store undo) rest

mutual

/-- The changes of records that an operation or a batch makes. -/
def Step.touches {ε : Type} (database : Database) : Step ε → List Touch
  | .operation operation => operation.touches database
  | .commit number items =>
    match database.ensureOpen with
    | .error _ => []
    | .ok () => Item.touches database { batch := Batch.start number } [] items

/-- The changes of records that a batch makes from some point on. The entries applied have been of
the given clusters, the last one first. -/
def Item.touches {ε : Type} (database : Database) (state : CommitState ε)
    (clusters : List (Option Int16)) : List (Item ε) → List Touch
  | [] => []
  | .entry entry :: rest =>
    let cluster? := state.batch.cluster? database.store entry
    match state.batch.apply database.store entry with
    | (.error _, store) =>
      ⟨database.store, cluster?, store⟩ ::
        Batch.undoTouches store (state.batch.undo.zip clusters)
    | (.ok batch, store) =>
      ⟨database.store, cluster?, store⟩ ::
        Item.touches { database with store } { state with pulled := state.pulled + 1, batch }
          (cluster? :: clusters) rest
  | .failure _ :: _ => Batch.undoTouches database.store (state.batch.undo.zip clusters)
  | .step step :: rest =>
    step.touches database ++
      Item.touches (step.run database).2
        { state with inner := (step.run database).1 :: state.inner } clusters rest

end

/-! ## Changes are isolated -/

variable {other : Int16} {database : Database}

/-- An operation through another cluster leaves what a cluster owns. -/
theorem Operation.sameOf_run {operation : Operation} {cluster : Int16}
    (sound : database.store.contents.Sound) (h : operation.cluster? = some cluster)
    (hother : cluster ≠ other) :
    database.store.contents.SameOf other (operation.run database).2.store.contents := by
  cases operation with
  | create cluster content type =>
    obtain rfl := Option.some.inj h
    rw [run_of_plan rfl]
    exact (Store.Law.sameOf other).perform (((Store.createPlan_sets sound _ content type).sameOf
      sound fun _ _ created => created.2 ▸ hother.symm).map _)
  | update id content version type =>
    obtain rfl := Option.some.inj h
    rw [run_of_plan rfl]
    exact (Store.Law.sameOf other).perform (((database.store.replacePlan_sets id content version
      (some type)).sameOf sound fun _ _ updated => updated.2 ▸ hother.symm).map _)
  | delete id version =>
    obtain rfl := Option.some.inj h
    rw [run_of_plan rfl]
    exact (Store.Law.sameOf other).perform (((database.store.removePlan_sets id version).sameOf
      sound fun _ _ deleted => deleted.2 ▸ hother.symm).map _)
  | _ => cases h

theorem Operation.isolated (operation : Operation) (steady : database.store.Steady) :
    ∀ touch ∈ operation.touches database, touch.Isolated := by
  intro touch htouch
  obtain ⟨cluster, hcluster, rfl⟩ := List.mem_map.1 htouch
  refine ⟨fun other hother => ?_, Store.guards_of_sound steady.sound⟩
  exact steady.sameThrough (operation.run_of_law Store.Law.steady steady.sound steady)
    (operation.sameOf_run steady.sound (Option.mem_toList.1 hcluster) fun h =>
      hother (congrArg some h))

namespace Batch

variable {batch : Batch} {entry : BatchEntry} {store after : Store} {result : Except Error Batch}

theorem isolated_apply (steady : store.Steady) (h : batch.apply store entry = (result, after)) :
    (⟨store, batch.cluster? store entry, after⟩ : Touch).Isolated := by
  refine ⟨fun other hother => ?_, Store.guards_of_sound steady.sound⟩
  have each : (batch.plan store entry).Each (fun contents deed => contents.SameOf other deed.after)
      store.contents :=
    (plan_sets_through steady.sound batch entry).sameOf steady.sound fun _ undo undone he =>
      hother (undone.2.trans (he ▸ rfl))
  have hsame := (Store.Law.sameOf other).perform each
  rw [← apply_eq, h] at hsame
  exact steady.sameThrough (apply_of_law Store.Law.steady steady.sound h steady) hsame

/-- An entry that was applied notes an undoing in its cluster. -/
theorem cluster?_of_apply {next : Batch} (sound : store.contents.Sound)
    (h : batch.apply store entry = (.ok next, after)) :
    (next.undo.map fun undo => some undo.id.cluster) =
      batch.cluster? store entry :: batch.undo.map fun undo => some undo.id.cluster := by
  rw [apply_eq] at h
  obtain ⟨_, undo, _, _, _, _, _, _, -, ⟨hundo, hcluster⟩, -⟩ :=
    (plan_sets_through sound batch entry).of_perform h
  rw [hundo, hcluster, List.map_cons]

/-- Undoing entries touches the clusters that they touched. -/
theorem isolated_undoTouches {start : Contents} {undos : List Undo} (steady : store.Steady)
    (pending : Undo.Pending Contents.Advances start undos store.contents) :
    ∀ touch ∈ undoTouches store (undos.zip (undos.map fun undo => some undo.id.cluster)),
      touch.Isolated := by
  induction undos generalizing store with
  | nil =>
    rintro touch ⟨⟩
  | cons undo rest ih =>
    obtain ⟨fits, -, hpending⟩ := undoOne_of_pending steady.sound pending
    have hsteady : (undoOne store undo).Steady := by
      rw [undoOne_eq]
      exact Store.Law.steady.perform fits steady
    refine List.forall_mem_cons.2 ⟨⟨fun other hother => steady.sameThrough hsteady ?_,
      Store.guards_of_sound steady.sound⟩, ih hsteady hpending⟩
    rw [undoOne_eq]
    exact (Store.Law.sameOf other).perform (pending.sameOf steady.sound fun h =>
      hother (congrArg some h.symm))

end Batch

variable {ε : Type}

/-- Every change of a record is isolated, wherever in a run it is made. -/
theorem Step.isolated (step : Step ε) (steady : database.store.Steady) :
    ∀ touch ∈ step.touches database, touch.Isolated := by
  refine (sound_run_induction
    (fun database step => database.store.Steady → ∀ touch ∈ step.touches database, touch.Isolated)
    (fun database state items => ∀ clusters, database.store.Steady →
      clusters = (state.batch.undo.map fun undo => some undo.id.cluster) →
      ∀ touch ∈ Item.touches database state clusters items, touch.Isolated)
    ?operation ?closed ?opened ?kept ?refused ?applied ?failed ?inner database step
    steady.sound).2.2 steady
  case operation =>
    intro database operation sound steady
    exact operation.isolated steady
  case closed =>
    intro database error number items hopen steady
    simp only [Step.touches, hopen]
    rintro touch ⟨⟩
  case opened =>
    intro database number items hopen hbatch steady
    simp only [Step.touches, hopen]
    exact hbatch [] steady rfl
  case kept =>
    intro database state clusters steady hclusters
    simp only [Item.touches]
    rintro touch ⟨⟩
  case refused =>
    intro database state entry error store start rest sound hsound undoable happly clusters steady
      hclusters
    have hsteady := Batch.apply_of_law Store.Law.steady sound happly steady
    simp only [Item.touches, happly, hclusters]
    exact List.forall_mem_cons.2 ⟨Batch.isolated_apply steady happly,
      Batch.isolated_undoTouches hsteady undoable⟩
  case applied =>
    intro database state entry batch store rest sound happly hbatch clusters steady hclusters
    have hsteady := Batch.apply_of_law Store.Law.steady sound happly steady
    have hthrough := Batch.cluster?_of_apply sound happly
    simp only [Item.touches, happly]
    exact List.forall_mem_cons.2 ⟨Batch.isolated_apply steady happly,
      hbatch _ hsteady (hclusters ▸ hthrough.symm)⟩
  case failed =>
    intro database state start cause rest sound undoable clusters steady hclusters
    simp only [Item.touches, hclusters]
    exact Batch.isolated_undoTouches steady undoable
  case inner =>
    intro database state step rest sound hstep hbatch clusters steady hclusters
    have hsteady := (step.run_of_law Store.Law.steady sound).2.2 steady
    simp only [Item.touches]
    exact List.forall_mem_append.2 ⟨hstep steady, hbatch clusters hsteady hclusters⟩

namespace Database

theorem Serving.steady (serving : Serving ε database) : database.store.Steady where
  sound := serving.kept.sound
  rooted := serving.kept.rooted
  counted := serving.kept.counted
  coherent := serving.coherent

/-- In every database that serves, fresh or opened again over a log that grew by fewer than `2 ^ 32` bytes
at a time, a slot in use is seen through the cluster that owns it, as the record in it, and through no
other. A creation, update or deletion through a cluster, also as an entry of a batch or undone as one,
changes nothing that another cluster shows, whether or not they share a container. An update or deletion
of another cluster's slot finds no record. -/
theorem clusters_isolated (serving : Serving ε database) :
    (∀ home position slot, database.store.contents.slot? home position = some slot →
      (∀ cluster, database.store.SeenThrough home position cluster ↔ cluster = slot.owner) ∧
      (database.store.read ⟨slot.owner, position⟩).1 =
        .ok (some (slot.record ⟨slot.owner, position⟩))) ∧
    (∀ step : Step ε, ∀ touch ∈ step.touches database, touch.Isolated) ∧
    database.store.Guards := by
  refine ⟨fun home position slot h => ⟨fun cluster => ?_, ?_⟩,
    fun step => step.isolated serving.steady, Store.guards_of_sound serving.kept.sound⟩
  · exact Store.seenThrough_iff serving.kept serving.coherent h
  · obtain ⟨listing, -, stored⟩ := Store.stored_of_slot? serving.kept h
    rw [Store.read_eq_readUncached serving.coherent, Store.readUncached_eq_some_iff_of_kept serving.kept]
    exact stored.record?_eq

/-- A batch through a container, which comes to a slot of the logical cluster inside and is undone. -/
theorem clusters_isolated_of_sibling :
    let listed := ((Step.operation (ε := Unit) (.addLogical "b" 0)).run plain).2
    let shared := ((Step.operation (ε := Unit) (.create 1 [7] .document)).run listed).2
    let batch : Step Unit :=
      .commit 1 [.entry (.create 0 none (some [1])), .entry (.update ⟨0, 1⟩ 0 (some [2]))]
    shared.store.scan 1 = .ok [⟨⟨1, 1⟩, 0, .document, [7]⟩] ∧
      (∀ cluster, shared.store.SeenThrough 0 1 cluster ↔ cluster = 1) ∧
      (batch.touches shared).map (·.cluster?) = [some 0, some 0, some 0] ∧
      (∀ touch ∈ batch.touches shared, touch.before.SameThrough touch.after 1) ∧
      (shared.store.delete ⟨0, 1⟩ 0).1 = .error (.recordNotFound ⟨0, 1⟩) := by
  intro listed shared batch
  obtain ⟨seen, touched, guards⟩ :=
    clusters_isolated (.stepped (.stepped serving_plain (.operation (.addLogical "b" 0)))
      (.operation (.create 1 [7] .document)))
  have hslot : shared.store.contents.slot? 0 1 = some ⟨1, 0, .document, [7]⟩ := by decide +kernel
  have hclusters : (batch.touches shared).map (·.cluster?) = [some 0, some 0, some 0] := by
    decide +kernel
  have hnot : ∀ cluster? ∈ (batch.touches shared).map (·.cluster?), cluster? ≠ some (1 : Int16) := by
    rw [hclusters]
    simp
  have hscan : shared.store.scan 1 = .ok [⟨⟨1, 1⟩, 0, .document, [7]⟩] := by
    have hlisted : shared.store.contents.clusters.get? 1 =
        some ⟨⟨1, "b", .logical 0 ⟨0, 0⟩⟩, 0⟩ := by decide +kernel
    rw [Store.scan_of_listed hlisted]
    exact congrArg _ (by decide +kernel)
  refine ⟨hscan, (seen 0 1 _ hslot).1, hclusters, fun touch htouch => ?_, ?_⟩
  · exact (touched batch touch htouch).others 1 (hnot _ (List.mem_map_of_mem htouch))
  · have hlisted : shared.store.contents.clusters.get? 0 =
        some ⟨⟨0, "a", .physical none (-1)⟩, 0⟩ := by decide +kernel
    obtain ⟨-, deletes, -⟩ := guards ⟨0, 1⟩ _ _ hlisted hslot (by decide)
    rw [deletes]

end Database

end RecordBase
