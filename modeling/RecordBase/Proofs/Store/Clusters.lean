import RecordBase.Proofs.Store.Deed

/-!
# Writes that list clusters

An entry of the log that lists no cluster, and a deed that tells it, keep the clusters and their names
(`Contents.SameClusters`); any other lists just one (`Contents.directory_of_apply`,
`Contents.Fits.directory`).

Of all plans only those that add a cluster list one. The others keep the directory, also a batch and
what undoes it (`Batch.sameClusters_apply`, `Batch.sameClusters_rollback`).
-/

namespace RecordBase

/-- The cluster that an entry lists. -/
def LogEntry.cluster? : LogEntry → Option Cluster
  | .clusterAdded cluster => some cluster
  | _ => none

namespace Contents

/-- The same clusters under the same names. -/
structure SameClusters (before after : Contents) : Prop where
  clusters : after.clusters = before.clusters
  names : after.names = before.names

/-- A deed that lists no cluster. -/
def ListsNone (contents : Contents) (deed : Deed) : Prop := contents.SameClusters deed.after

theorem SameClusters.refl (contents : Contents) : contents.SameClusters contents := ⟨rfl, rfl⟩

theorem SameClusters.trans {a b c : Contents} (h₁ : a.SameClusters b) (h₂ : b.SameClusters c) :
    a.SameClusters c := ⟨h₂.clusters.trans h₁.clusters, h₂.names.trans h₁.names⟩

theorem SameClusters.of_eq {before after : Contents} (h : after = before) :
    before.SameClusters after := h ▸ .refl before

variable {contents after : Contents} {deed : Deed}

/-- An entry leaves the directory as it is, or it lists one cluster. -/
theorem directory_of_apply {entry : LogEntry} (h : contents.apply entry = .ok after) :
    entry.cluster? = none ∧ contents.SameClusters after ∨
      ∃ cluster home, entry.cluster? = some cluster ∧
        after.clusters = contents.clusters.insert cluster.id ⟨cluster, home⟩ ∧
        after.names = contents.names.insert cluster.name cluster.id := by
  cases entry with
  | clusterAdded cluster =>
    right
    simp only [apply, addCluster] at h
    split at h
    · cases h
      exact ⟨cluster, _, rfl, rfl, rfl⟩
    · split at h <;> cases h
      exact ⟨cluster, _, rfl, rfl, rfl⟩
  | recordPut | recordRemoved =>
    simp only [apply] at h
    split at h <;> cases h <;> exact .inl ⟨rfl, rfl, rfl⟩
  | keyBound | keyRemoved =>
    cases h
    exact .inl ⟨rfl, rfl, rfl⟩

/-- A fitting deed leaves the directory as it is, or it lists one cluster, a logical one where its
container is kept. -/
theorem Fits.directory (fits : contents.Fits deed) :
    deed.entry.cluster? = none ∧ contents.SameClusters deed.after ∨
      ∃ cluster home, deed.entry.cluster? = some cluster ∧
        contents.clusters.get? cluster.id = none ∧
        deed.after.clusters = contents.clusters.insert cluster.id ⟨cluster, home⟩ ∧
        deed.after.names = contents.names.insert cluster.name cluster.id ∧
        ∀ {container descriptor}, cluster.kind = .logical container descriptor →
          ∃ root, contents.clusters.get? container = some root ∧ home = root.home := by
  cases fits with
  | put | announce | free | bind | unbind => exact .inl ⟨rfl, rfl, rfl⟩
  | listPhysical fresh => exact .inr ⟨_, _, rfl, fresh, rfl, rfl, by rintro _ _ ⟨⟩⟩
  | listLogical listed fresh =>
    refine .inr ⟨_, _, rfl, fresh, rfl, rfl, ?_⟩
    rintro _ _ ⟨⟩
    exact ⟨_, listed, rfl⟩

end Contents

namespace Store

open Contents (ListsNone)

variable {store : Store}

/-- What lists no cluster keeps those that there are. -/
theorem Law.sameClusters : Law ListsNone fun a b => a.contents.SameClusters b.contents where
  trans h₁ h₂ := h₁.trans h₂
  idle h := .of_eq h.contents
  tries h := by
    cases h with
    | refused _ _ => exact .refl _
    | written fits _ =>
      rw [contents_done]
      exact fits

theorem createPlan_listsNone (store : Store) (cluster : Int16) (content : Bytes) (type : RecordType) :
    (store.createPlan cluster content type).Each ListsNone store.contents := by
  unfold createPlan
  split
  · exact .refuse _
  · split
    · exact .refuse _
    · exact .one ⟨rfl, rfl⟩ _

theorem replacePlan_listsNone (store : Store) (id : RecordId) (content : Bytes) (version : Int32)
    (type : Option RecordType) :
    (store.replacePlan id content version type).Each ListsNone store.contents := by
  unfold replacePlan
  split
  · exact .refuse _
  · split
    · exact .refuse _
    · exact .one ⟨rfl, rfl⟩ _

theorem removePlan_listsNone (store : Store) (id : RecordId) (version : Int32) :
    (store.removePlan id version).Each ListsNone store.contents := by
  unfold removePlan
  split
  · exact .refuse _
  · exact .one ⟨rfl, rfl⟩ _

theorem compensatePlan_listsNone (store : Store) (id : RecordId) (written : Option Int32)
    (previous : Option Record) :
    (store.compensatePlan id written previous).Each ListsNone store.contents := by
  unfold compensatePlan
  split
  · exact .refuse _
  · split
    · exact .act _ (.nil _)
    · split <;> exact .one ⟨rfl, rfl⟩ _

theorem bindPlan_listsNone (store : Store) (key : String) (id : RecordId) :
    (store.bindPlan key id).Each ListsNone store.contents := .one ⟨rfl, rfl⟩ _

theorem unbindPlan_listsNone (store : Store) (key : String) :
    (store.unbindPlan key).Each ListsNone store.contents := by
  unfold unbindPlan
  split
  · exact .act _ (.nil _)
  · exact .one ⟨rfl, rfl⟩ _

end Store

namespace Batch

open Contents (ListsNone)

theorem plan_listsNone (store : Store) (batch : Batch) (entry : BatchEntry) :
    (batch.plan store entry).Each ListsNone store.contents := by
  cases entry with
  | create cluster name content =>
    cases content with
    | none => exact .refuse _
    | some content =>
      simp only [plan]
      split
      · exact .refuse _
      · exact (store.createPlan_listsNone _ content .document).map _
  | update id version content =>
    cases content with
    | none => exact .refuse _
    | some content =>
      simp only [plan]
      split
      · exact .refuse _
      · exact (store.replacePlan_listsNone _ content version none).map _
  | delete id version =>
    simp only [plan]
    split
    · exact .refuse _
    · exact (store.removePlan_listsNone _ version).map _

/-- An entry of a batch lists no cluster, whether it is applied or not. -/
theorem sameClusters_apply (batch : Batch) (store : Store) (entry : BatchEntry) :
    store.contents.SameClusters (batch.apply store entry).2.contents := by
  rw [apply_eq]
  exact Store.Law.sameClusters.perform (plan_listsNone store batch entry)

/-- Undoing a batch lists no cluster and drops none. -/
theorem sameClusters_rollback (batch : Batch) (store : Store) :
    store.contents.SameClusters (batch.rollback store).contents := by
  have hundo (undos : List Undo) (store : Store) :
      store.contents.SameClusters (undos.foldl undoOne store).contents := by
    induction undos generalizing store with
    | nil => exact .refl _
    | cons undo rest ih =>
      refine Contents.SameClusters.trans ?_ (ih (undoOne store undo))
      rw [undoOne_eq]
      exact Store.Law.sameClusters.perform (store.compensatePlan_listsNone ..)
  exact hundo batch.undo store

end Batch

end RecordBase
