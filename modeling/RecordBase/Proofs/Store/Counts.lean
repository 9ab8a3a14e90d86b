import RecordBase.Proofs.Store.Alike

/-!
# Counts and the slots counted

A container keeps, for each cluster, how many of its slots the cluster owns. No entry of a log
makes these numbers wrong, whether it fills a free slot, replaces what a slot held, also for another
cluster, or frees a slot that was free already (`Contents.Counted.apply`).
-/

namespace RecordBase

/-! ## Containers -/

namespace Container

/-- The slots that a cluster owns, by increasing position. -/
def ownedBy (container : Container) (owner : Int16) : List (Int64 × Slot) :=
  container.slots.entries.filter fun entry => entry.2.owner = owner

/-- Every cluster has the count of the slots that it owns. -/
def Counted (container : Container) : Prop :=
  ∀ owner, container.count owner = (container.ownedBy owner).length

theorem length_ownedBy (container : Container) (owner : Int16) :
    (container.ownedBy owner).length =
      container.slots.entries.countP fun entry => entry.2.owner = owner :=
  List.countP_eq_length_filter.symm

theorem Counted.empty : ({} : Container).Counted := fun _ => rfl

theorem share_eq_countP (container : Container) (owner : Int16) (position : Int64) :
    container.share owner position =
      ((container.slots.get? position).toList.countP fun slot => slot.owner = owner : Nat) := by
  cases h : container.slots.get? position with
  | none => rw [share_of_none h]; rfl
  | some slot =>
    rw [share_of_some h, Option.toList_some, List.countP_singleton]
    simp only [decide_eq_true_eq]
    split <;> rfl

variable {container : Container}

theorem Counted.put (counted : container.Counted) (position : Int64) (slot : Slot) :
    (container.put position slot).Counted := by
  intro owner
  have hcount := Table.countP_put (fun slot : Slot => decide (slot.owner = owner)) position slot
    container.slots.increasing
  have hslots : (container.put position slot).slots.entries =
      Table.put position slot container.slots.entries := by
    rw [slots_put]
    rfl
  have hshare := container.share_eq_countP owner position
  rw [Table.get?] at hshare
  have hbefore := counted owner
  rw [length_ownedBy] at hbefore ⊢
  rw [count_put, hslots, hbefore, hshare]
  simp only [List.countP_singleton, decide_eq_true_eq] at hcount
  split at hcount <;> rename_i howner <;> simp only [howner, if_true, if_false] <;> omega

theorem Counted.remove (counted : container.Counted) (position : Int64) :
    (container.remove position).Counted := by
  intro owner
  have hcount := Table.countP_drop (fun slot : Slot => decide (slot.owner = owner)) position
    container.slots.entries
  have hslots : (container.remove position).slots.entries =
      Table.drop position container.slots.entries := by
    rw [slots_remove]
    rfl
  have hshare := container.share_eq_countP owner position
  rw [Table.get?] at hshare
  have hbefore := counted owner
  rw [length_ownedBy] at hbefore ⊢
  rw [count_remove, hslots, hbefore, hshare]
  omega

end Container

/-! ## Contents -/

namespace Contents

/-- Every container counts its slots right. -/
def Counted (contents : Contents) : Prop := ∀ home, (contents.container home).Counted

theorem Counted.empty : ({} : Contents).Counted := fun _ => Container.Counted.empty

variable {contents after : Contents} {home : Nat}

theorem Counted.changeContainer (counted : contents.Counted) {change : Container → Container}
    (hhome : home < contents.containers.length)
    (kept : ∀ container : Container, container.Counted → (change container).Counted) :
    (contents.changeContainer home change).Counted := fun other => by
  rw [container_changeContainer _ _ hhome]
  split
  · exact kept _ (counted home)
  · exact counted other

theorem Counted.listWithContainer (counted : contents.Counted) (cluster : Cluster) :
    (contents.listWithContainer cluster).Counted := fun other => by
  rw [container_listWithContainer]
  exact counted other

/-- No entry makes a count wrong. -/
theorem Counted.apply (sound : contents.Sound) (counted : contents.Counted) {entry : LogEntry}
    (h : contents.apply entry = .ok after) : after.Counted := by
  cases entry with
  | clusterAdded cluster =>
    simp only [Contents.apply, addCluster] at h
    split at h
    · cases h
      exact counted.listWithContainer cluster
    · split at h <;> cases h
      exact counted
  | recordPut place slot =>
    simp only [Contents.apply] at h
    split at h
    · rename_i listing hlisted
      cases h
      exact counted.changeContainer (sound.housed hlisted) fun _ kept => kept.put _ _
    · cases h
  | recordRemoved place =>
    simp only [Contents.apply] at h
    split at h
    · rename_i listing hlisted
      cases h
      exact counted.changeContainer (sound.housed hlisted) fun _ kept => kept.remove _
    · cases h
      exact counted
  | keyBound key id =>
    cases h
    exact counted
  | keyRemoved key =>
    cases h
    exact counted

end Contents

end RecordBase
