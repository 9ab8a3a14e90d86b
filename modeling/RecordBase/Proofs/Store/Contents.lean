import RecordBase.Store.Contents

/-!
# Contents under change

What stands at a position of a container (`Contents.slot?`) and under an identity
(`Contents.record?`), and what the changes of a log's entries make of both:

* `slot?_putSlot`, `slot?_removeSlot`: only the position written changes;
* `record?_putSlot`, `record?_removeSlot`: if what stood there was the writer's own, only the
  identity written changes;
* `Sound.putSlot` and its companions: every change keeps `Contents.Sound`, under which a position
  that is not below the next one of its container is free.
-/

namespace RecordBase

/-! ## Containers -/

namespace Container

/-- How many of the slots at one position a cluster owns: one or none. -/
def share (container : Container) (owner : Int16) (position : Int64) : Int :=
  if (container.ownedSlot? owner position).isSome then 1 else 0

theorem share_of_none {container : Container} {position : Int64}
    (h : container.slots.get? position = none) (owner : Int16) : container.share owner position = 0 := by
  simp [share, ownedSlot?, h]

theorem share_of_some {container : Container} {position : Int64} {slot : Slot}
    (h : container.slots.get? position = some slot) (owner : Int16) :
    container.share owner position = if slot.owner = owner then 1 else 0 := by
  by_cases ho : slot.owner = owner <;> simp [share, ownedSlot?, h, ho]

theorem count_adjust (container : Container) (owner other : Int16) (change : Int) :
    (container.adjust owner change).count other =
      container.count other + if owner = other then change else 0 := by
  by_cases h : other = owner
  · simp [count, adjust, h]
  · simp [count, adjust, Table.get?_insert, h, Ne.symm h]

theorem slots_put (container : Container) (position : Int64) (slot : Slot) :
    (container.put position slot).slots = container.slots.insert position slot := by
  simp only [put, adjust]
  split <;> rfl

theorem nextPosition_put (container : Container) (position : Int64) (slot : Slot) :
    (container.put position slot).nextPosition =
      max container.nextPosition (position.toInt + 1) := by
  simp only [put, adjust]
  split <;> rfl

theorem count_put (container : Container) (position : Int64) (slot : Slot) (owner : Int16) :
    (container.put position slot).count owner =
      container.count owner - container.share owner position +
        if slot.owner = owner then 1 else 0 := by
  unfold put
  split
  · rename_i old h
    have hc : ((container.adjust old.owner (-1)).adjust slot.owner 1).count owner =
        container.count owner - container.share owner position +
          if slot.owner = owner then 1 else 0 := by
      rw [count_adjust, count_adjust, share_of_some h]
      split <;> omega
    exact hc
  · rename_i h
    have hc : (container.adjust slot.owner 1).count owner =
        container.count owner - container.share owner position +
          if slot.owner = owner then 1 else 0 := by
      rw [count_adjust, share_of_none h]
      omega
    exact hc

theorem slots_remove (container : Container) (position : Int64) :
    (container.remove position).slots = container.slots.erase position := by
  unfold remove
  split
  · rfl
  · rename_i h
    rw [Table.erase_eq_self h]

theorem nextPosition_remove (container : Container) (position : Int64) :
    (container.remove position).nextPosition = container.nextPosition := by
  unfold remove
  split <;> rfl

theorem count_remove (container : Container) (position : Int64) (owner : Int16) :
    (container.remove position).count owner =
      container.count owner - container.share owner position := by
  unfold remove
  split
  · rename_i old h
    have hc : (container.adjust old.owner (-1)).count owner =
        container.count owner - container.share owner position := by
      rw [count_adjust, share_of_some h]
      split <;> omega
    exact hc
  · rename_i h
    rw [share_of_none h]
    omega

end Container

/-! ## Look-ups -/

namespace Contents

/-- What stands at a position of the container with a number. -/
def slot? (contents : Contents) (home : Nat) (position : Int64) : Option Slot :=
  (contents.container home).slots.get? position

/-- The position of the next record in the container with a number. -/
def next (contents : Contents) (home : Nat) : Int := (contents.container home).nextPosition

/-- The record under an identity. -/
def record? (contents : Contents) (id : RecordId) : Option Record :=
  (contents.clusters.get? id.cluster).bind fun listing =>
    ((contents.container listing.home).ownedSlot? listing.cluster.id id.position).map (·.record id)

/-- Every cluster is listed under its own id and has a container, and the slots in use lie below
the next position of their container, which counts from zero. -/
structure Sound (contents : Contents) : Prop where
  keyed : ∀ {id listing}, contents.clusters.get? id = some listing → listing.cluster.id = id
  housed : ∀ {id listing}, contents.clusters.get? id = some listing →
    listing.home < contents.containers.length
  start : ∀ home, 0 ≤ contents.next home
  below : ∀ {home position slot}, contents.slot? home position = some slot →
    position.toInt < contents.next home

theorem Sound.empty : ({} : Contents).Sound where
  keyed h := by cases h
  housed h := by cases h
  start _ := Int.le_refl 0
  below h := by cases h

variable {contents : Contents} {home : Nat}

theorem slot?_eq_none_of_next_le (sound : contents.Sound) {position : Int64}
    (h : contents.next home ≤ position.toInt) : contents.slot? home position = none := by
  cases hs : contents.slot? home position with
  | none => rfl
  | some slot =>
    have := sound.below hs
    omega

theorem record?_of_listed {id : RecordId} {listing : Listing}
    (h : contents.clusters.get? id.cluster = some listing) (hkey : listing.cluster.id = id.cluster) :
    contents.record? id =
      ((contents.slot? listing.home id.position).filter fun slot => slot.owner = id.cluster).map
        (·.record id) := by
  simp only [record?, h, Option.bind_some, Container.ownedSlot?, slot?, hkey]

/-! ## Changing a container -/

theorem container_changeContainer (contents : Contents) (change : Container → Container)
    (hhome : home < contents.containers.length) (other : Nat) :
    (contents.changeContainer home change).container other =
      if other = home then change (contents.container home) else contents.container other := by
  simp only [container, changeContainer, List.getD_eq_getElem?_getD, List.getElem?_modify]
  by_cases h : other = home
  · subst h
    simp [List.getElem?_eq_getElem hhome]
  · simp [h, Ne.symm h]

theorem slot?_putSlot (contents : Contents) (hhome : home < contents.containers.length)
    (position : Int64) (slot : Slot) (other : Nat) (place : Int64) :
    (contents.putSlot home position slot).slot? other place =
      if other = home ∧ place = position then some slot else contents.slot? other place := by
  rw [slot?, putSlot, container_changeContainer _ _ hhome]
  by_cases h : other = home
  · subst h
    simp [slot?, Container.slots_put, Table.get?_insert]
  · simp [h, slot?]

theorem slot?_removeSlot (contents : Contents) (hhome : home < contents.containers.length)
    (position : Int64) (other : Nat) (place : Int64) :
    (contents.removeSlot home position).slot? other place =
      if other = home ∧ place = position then none else contents.slot? other place := by
  rw [slot?, removeSlot, container_changeContainer _ _ hhome]
  by_cases h : other = home
  · subst h
    simp [slot?, Container.slots_remove, Table.get?_erase]
  · simp [h, slot?]

theorem next_putSlot (contents : Contents) (hhome : home < contents.containers.length)
    (position : Int64) (slot : Slot) (other : Nat) :
    (contents.putSlot home position slot).next other =
      if other = home then max (contents.next home) (position.toInt + 1)
      else contents.next other := by
  rw [next, putSlot, container_changeContainer _ _ hhome]
  split
  · rw [Container.nextPosition_put, next]
  · rfl

theorem next_removeSlot (contents : Contents) (hhome : home < contents.containers.length)
    (position : Int64) (other : Nat) :
    (contents.removeSlot home position).next other = contents.next other := by
  rw [next, removeSlot, container_changeContainer _ _ hhome]
  split
  · rename_i h
    rw [Container.nextPosition_remove, h, next]
  · rfl

@[simp] theorem length_containers_putSlot (contents : Contents) (position : Int64) (slot : Slot) :
    (contents.putSlot home position slot).containers.length = contents.containers.length := by
  simp [putSlot, changeContainer]

@[simp] theorem length_containers_removeSlot (contents : Contents) (position : Int64) :
    (contents.removeSlot home position).containers.length = contents.containers.length := by
  simp [removeSlot, changeContainer]

theorem Sound.putSlot (sound : contents.Sound) (hhome : home < contents.containers.length)
    (position : Int64) (slot : Slot) : (contents.putSlot home position slot).Sound where
  keyed h := sound.keyed h
  housed h := by
    rw [length_containers_putSlot]
    exact sound.housed h
  start other := by
    have := sound.start other
    rw [next_putSlot _ hhome]
    split
    · rename_i he
      rw [he] at this
      omega
    · exact this
  below {other place old} h := by
    rw [slot?_putSlot _ hhome] at h
    rw [next_putSlot _ hhome]
    split at h
    · rename_i hat
      rw [hat.1, hat.2, if_pos rfl]
      omega
    · have := sound.below h
      split
      · rename_i he
        rw [he] at this
        omega
      · exact this

theorem Sound.removeSlot (sound : contents.Sound) (hhome : home < contents.containers.length)
    (position : Int64) : (contents.removeSlot home position).Sound where
  keyed h := sound.keyed h
  housed h := by
    rw [length_containers_removeSlot]
    exact sound.housed h
  start other := by
    rw [next_removeSlot _ hhome]
    exact sound.start other
  below {other place old} h := by
    rw [slot?_removeSlot _ hhome] at h
    rw [next_removeSlot _ hhome]
    split at h
    · cases h
    · exact sound.below h

/-! ## Listing a cluster -/

theorem container_append (contents : Contents) (other : Nat) :
    ({ contents with containers := contents.containers ++ [({} : Container)] } : Contents).container
      other = contents.container other := by
  simp only [container, List.getD_eq_getElem?_getD]
  rcases Nat.lt_trichotomy other contents.containers.length with h | h | h
  · rw [List.getElem?_append_left h]
  · subst h
    simp
  · rw [List.getElem?_eq_none (by simp; omega), List.getElem?_eq_none (by omega)]

theorem container_listWithContainer (contents : Contents) (cluster : Cluster) (other : Nat) :
    (contents.listWithContainer cluster).container other = contents.container other :=
  container_append contents other

theorem slot?_listWithContainer (contents : Contents) (cluster : Cluster) (other : Nat)
    (place : Int64) :
    (contents.listWithContainer cluster).slot? other place = contents.slot? other place := by
  rw [slot?, slot?, container_listWithContainer]

theorem next_listWithContainer (contents : Contents) (cluster : Cluster) (other : Nat) :
    (contents.listWithContainer cluster).next other = contents.next other := by
  rw [next, next, container_listWithContainer]

theorem Sound.list (sound : contents.Sound) (cluster : Cluster)
    (hhome : home < contents.containers.length) : (contents.list cluster home).Sound where
  keyed {id listing} h := by
    rw [Contents.list, Table.get?_insert] at h
    split at h
    · rename_i he
      cases h
      exact he.symm
    · exact sound.keyed h
  housed {id listing} h := by
    rw [Contents.list, Table.get?_insert] at h
    split at h
    · cases h
      exact hhome
    · exact sound.housed h
  start home := sound.start home
  below h := sound.below h

theorem Sound.listWithContainer (sound : contents.Sound) (cluster : Cluster) :
    (contents.listWithContainer cluster).Sound := by
  have grown : ({ contents with
      containers := contents.containers ++ [({} : Container)] } : Contents).Sound :=
    { keyed := sound.keyed
      housed := fun h => by
        have := sound.housed h
        simp only [List.length_append, List.length_cons, List.length_nil]
        omega
      start := fun other => by
        rw [next, container_append]
        exact sound.start other
      below := fun {other place slot} h => by
        rw [slot?, container_append] at h
        rw [next, container_append]
        exact sound.below h }
  exact grown.list cluster (by simp)

/-! ## Entries of a log -/

variable {after : Contents}

theorem Sound.apply (sound : contents.Sound) {entry : LogEntry}
    (h : contents.apply entry = .ok after) : after.Sound := by
  cases entry with
  | clusterAdded cluster =>
    simp only [Contents.apply, addCluster] at h
    split at h
    · cases h
      exact sound.listWithContainer cluster
    · split at h
      · rename_i listing hlisted
        cases h
        exact sound.list cluster (sound.housed hlisted)
      · cases h
  | recordPut place slot =>
    simp only [Contents.apply] at h
    split at h
    · rename_i listing hlisted
      cases h
      exact sound.putSlot (sound.housed hlisted) _ _
    · cases h
  | recordRemoved place =>
    simp only [Contents.apply] at h
    split at h
    · rename_i listing hlisted
      cases h
      exact sound.removeSlot (sound.housed hlisted) _
    · cases h
      exact sound
  | keyBound key id =>
    cases h
    exact ⟨sound.keyed, sound.housed, sound.start, sound.below⟩
  | keyRemoved key =>
    cases h
    exact ⟨sound.keyed, sound.housed, sound.start, sound.below⟩

theorem Sound.applyAll (sound : contents.Sound) {entries : List LogEntry}
    (h : contents.applyAll entries = .ok after) : after.Sound := by
  induction entries generalizing contents with
  | nil =>
    cases h
    exact sound
  | cons entry rest ih =>
    rw [Contents.applyAll] at h
    split at h
    · rename_i next hnext
      exact ih (sound.apply hnext) h
    · cases h

end Contents

end RecordBase
