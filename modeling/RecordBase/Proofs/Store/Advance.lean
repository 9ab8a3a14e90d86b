import RecordBase.Proofs.Store.Contents

/-!
# The direction of change

A position of a container is first free, then holds versions of one cluster's record that only
rise, and is free for good once that record is deleted (`Slot.Later`). `Contents.Advances` says
this of all positions at once. A version number below the present one is gone for ever, which is
what lets a batch tell its own writes from those of others by the version alone.

* `Advances.trans`: the relation is a preorder;
* `Advances.create`, `Advances.raise`, `Advances.free` and their companions: every change that an
  operation makes is an advance. Undoing a batch is not, and is treated on its own.
-/

namespace RecordBase

/-- How what stands at a position can have changed: not at all, to a higher version of the same
owner, or to nothing. -/
inductive Slot.Later : Option Slot → Option Slot → Prop
  | same (slot : Option Slot) : Later slot slot
  | raised {old new : Slot} : new.owner = old.owner → old.version < new.version →
      Later (some old) (some new)
  | freed (old : Slot) : Later (some old) none

namespace Slot.Later

theorem trans {a b c : Option Slot} (h₁ : Later a b) (h₂ : Later b c) : Later a c := by
  cases h₁ with
  | same => exact h₂
  | raised ho hv =>
    cases h₂ with
    | same => exact .raised ho hv
    | raised ho' hv' => exact .raised (ho'.trans ho) (Int32.lt_trans hv hv')
    | freed => exact .freed _
  | freed =>
    cases h₂
    exact .freed _

theorem eq_none {b : Option Slot} (h : Later none b) : b = none := by
  cases h
  rfl

theorem owner_eq {old new : Slot} (h : Later (some old) (some new)) : new.owner = old.owner := by
  cases h with
  | same => rfl
  | raised ho _ => exact ho

end Slot.Later

namespace Contents

/-- Clusters stay listed, positions are not given back, and what stands at a position that was
handed out is later. -/
structure Advances (before after : Contents) : Prop where
  listed : ∀ {id listing}, before.clusters.get? id = some listing →
    after.clusters.get? id = some listing
  next : ∀ home, before.next home ≤ after.next home
  slots : ∀ {home} {position : Int64}, position.toInt < before.next home →
    Slot.Later (before.slot? home position) (after.slot? home position)

theorem Advances.refl (contents : Contents) : contents.Advances contents where
  listed h := h
  next _ := Int.le_refl _
  slots _ := .same _

theorem Advances.trans {a b c : Contents} (h₁ : a.Advances b) (h₂ : b.Advances c) :
    a.Advances c where
  listed h := h₂.listed (h₁.listed h)
  next home := Int.le_trans (h₁.next home) (h₂.next home)
  slots {home _} h := (h₁.slots h).trans (h₂.slots (Int.lt_of_lt_of_le h (h₁.next home)))

variable {contents : Contents} {home : Nat}

/-- The change of one slot, if what stands there afterwards is later or the position is new. -/
theorem Advances.putSlot (hhome : home < contents.containers.length) {position : Int64} {slot : Slot}
    (h : position.toInt < contents.next home →
      Slot.Later (contents.slot? home position) (some slot)) :
    contents.Advances (contents.putSlot home position slot) where
  listed h := h
  next other := by
    rw [next_putSlot _ hhome]
    split
    · rename_i he
      rw [he]
      omega
    · exact Int.le_refl _
  slots {other place} hlt := by
    rw [slot?_putSlot _ hhome]
    split
    · rename_i hat
      obtain ⟨rfl, rfl⟩ := hat
      exact h hlt
    · exact .same _

/-- A record at a new position. -/
theorem Advances.create (hhome : home < contents.containers.length) {position : Int64}
    (hnew : contents.next home ≤ position.toInt) (slot : Slot) :
    contents.Advances (contents.putSlot home position slot) :=
  .putSlot hhome fun hlt => absurd hlt (by omega)

/-- A higher version of a record. -/
theorem Advances.raise (hhome : home < contents.containers.length) {position : Int64}
    {old slot : Slot} (hold : contents.slot? home position = some old)
    (howner : slot.owner = old.owner) (hversion : old.version < slot.version) :
    contents.Advances (contents.putSlot home position slot) :=
  .putSlot hhome fun _ => hold ▸ .raised howner hversion

/-- A record freed. -/
theorem Advances.free (hhome : home < contents.containers.length) (position : Int64) :
    contents.Advances (contents.removeSlot home position) where
  listed h := h
  next other := Int.le_of_eq (next_removeSlot contents hhome position other).symm
  slots {other place} _ := by
    rw [slot?_removeSlot _ hhome]
    split
    · rename_i hat
      obtain ⟨rfl, rfl⟩ := hat
      cases contents.slot? other place with
      | none => exact .same _
      | some old => exact .freed old
    · exact .same _

/-- A cluster with an id that no cluster had. -/
theorem Advances.list (cluster : Cluster) (hfresh : contents.clusters.get? cluster.id = none) :
    contents.Advances (contents.list cluster home) where
  listed {id listing} h := by
    rw [Contents.list, Table.get?_insert, if_neg]
    · exact h
    · rintro rfl
      rw [hfresh] at h
      cases h
  next _ := Int.le_refl _
  slots _ := .same _

theorem Advances.listWithContainer (cluster : Cluster)
    (hfresh : contents.clusters.get? cluster.id = none) :
    contents.Advances (contents.listWithContainer cluster) where
  listed h := (@Advances.list contents contents.containers.length cluster hfresh).listed h
  next other := Int.le_of_eq (next_listWithContainer contents cluster other).symm
  slots {other place} _ := by
    rw [slot?_listWithContainer]
    exact .same _

theorem Advances.bindKey (key : String) (id : RecordId) :
    contents.Advances (contents.bindKey key id) where
  listed h := h
  next _ := Int.le_refl _
  slots _ := .same _

theorem Advances.removeKey (key : String) : contents.Advances (contents.removeKey key) where
  listed h := h
  next _ := Int.le_refl _
  slots _ := .same _

/-! ## Records -/

/-- A cluster may write at a position that is free or holds a record of its own. -/
structure Admits (contents : Contents) (listing : Listing) (position : Int64) : Prop where
  listed : contents.clusters.get? listing.cluster.id = some listing
  own : ∀ {slot}, contents.slot? listing.home position = some slot →
    slot.owner = listing.cluster.id

theorem record?_of_keyed (sound : contents.Sound) {id : RecordId} {listing : Listing}
    (h : contents.clusters.get? id.cluster = some listing) :
    contents.record? id =
      ((contents.slot? listing.home id.position).filter fun slot => slot.owner = id.cluster).map
        (·.record id) :=
  record?_of_listed h (sound.keyed h)

/-- What stands at a position that the cluster of an identity owns, or that is free. -/
theorem record?_of_own {id : RecordId} {listing : Listing}
    (h : contents.clusters.get? id.cluster = some listing) (hkey : listing.cluster.id = id.cluster)
    (own : ∀ slot ∈ contents.slot? listing.home id.position, slot.owner = listing.cluster.id) :
    contents.record? id = (contents.slot? listing.home id.position).map (·.record id) := by
  rw [record?_of_listed h hkey]
  cases hs : contents.slot? listing.home id.position with
  | none => rfl
  | some slot =>
    have howner : slot.owner = id.cluster := (own slot hs).trans hkey
    rw [Option.filter_some, howner, decide_eq_true rfl, if_pos rfl]

theorem record?_of_unlisted {id : RecordId} (h : contents.clusters.get? id.cluster = none) :
    contents.record? id = none := by
  simp [record?, h]

/-- If a cluster changes what stands at a position where it may write, the record under its own
identity for that position changes and no other does. -/
theorem record?_of_slot? (after : Contents) (sound : contents.Sound) {listing : Listing}
    {position : Int64} (admits : contents.Admits listing position) {new : Option Slot}
    (hclusters : after.clusters = contents.clusters)
    (hslot : ∀ other place, after.slot? other place =
      if other = listing.home ∧ place = position then new else contents.slot? other place)
    (hnew : ∀ slot ∈ new, slot.owner = listing.cluster.id) (id : RecordId) :
    after.record? id =
      if id = ⟨listing.cluster.id, position⟩ then new.map (·.record ⟨listing.cluster.id, position⟩)
      else contents.record? id := by
  cases hc : contents.clusters.get? id.cluster with
  | none =>
    have hc' : after.clusters.get? id.cluster = none := hclusters ▸ hc
    rw [record?_of_unlisted hc, record?_of_unlisted hc', if_neg]
    rintro rfl
    rw [admits.listed] at hc
    cases hc
  | some own =>
    have hkey := sound.keyed hc
    rw [record?_of_listed hc hkey, record?_of_listed (hclusters ▸ hc) hkey, hslot]
    split
    · rename_i hat
      by_cases hid : id.cluster = listing.cluster.id
      · have he : id = ⟨listing.cluster.id, position⟩ := by rw [← hid, ← hat.2]
        have hall : new.filter (fun slot => slot.owner = id.cluster) = new := by
          cases new with
          | none => rfl
          | some slot => simp [hid, hnew slot rfl]
        rw [if_pos he, hall, ← he]
      · -- Another cluster of the container sees nothing there, neither before nor after.
        have hne : id ≠ ⟨listing.cluster.id, position⟩ := fun he => hid (by rw [he])
        have hidden : ∀ found : Option Slot, (∀ slot ∈ found, slot.owner = listing.cluster.id) →
            found.filter (fun slot => slot.owner = id.cluster) = none := fun found hf =>
          Option.filter_eq_none_iff.2 fun slot hs => by simp [hf slot hs, Ne.symm hid]
        rw [if_neg hne, hat.1, hat.2, hidden new hnew, hidden _ fun slot hs => admits.own hs]
    · rename_i hat
      rw [if_neg]
      rintro rfl
      rw [admits.listed] at hc
      cases hc
      exact hat ⟨rfl, rfl⟩

theorem record?_putSlot (sound : contents.Sound) {listing : Listing} {position : Int64}
    (admits : contents.Admits listing position) {slot : Slot}
    (howner : slot.owner = listing.cluster.id) (id : RecordId) :
    (contents.putSlot listing.home position slot).record? id =
      if id = ⟨listing.cluster.id, position⟩ then some (slot.record ⟨listing.cluster.id, position⟩)
      else contents.record? id := by
  have hhome := sound.housed admits.listed
  exact record?_of_slot? (contents.putSlot ..) sound admits rfl
    (fun other place => slot?_putSlot contents hhome position slot other place)
    (by rintro _ ⟨⟩; exact howner) id

theorem record?_removeSlot (sound : contents.Sound) {listing : Listing} {position : Int64}
    (admits : contents.Admits listing position) (id : RecordId) :
    (contents.removeSlot listing.home position).record? id =
      if id = ⟨listing.cluster.id, position⟩ then none else contents.record? id := by
  have hhome := sound.housed admits.listed
  exact record?_of_slot? (contents.removeSlot ..) sound admits rfl
    (fun other place => slot?_removeSlot contents hhome position other place) (by rintro _ ⟨⟩) id

/-- Listing more clusters takes no record away. -/
theorem record?_of_listed_before {after : Contents} (sound : contents.Sound)
    (hlisted : ∀ {id listing}, contents.clusters.get? id = some listing →
      after.clusters.get? id = some listing)
    (hslot : ∀ home place, after.slot? home place = contents.slot? home place) {id : RecordId}
    {record : Record} (h : contents.record? id = some record) : after.record? id = some record := by
  cases hc : contents.clusters.get? id.cluster with
  | none =>
    rw [record?_of_unlisted hc] at h
    cases h
  | some listing =>
    have hkey := sound.keyed hc
    rw [record?_of_listed hc hkey] at h
    rw [record?_of_listed (hlisted hc) hkey, hslot]
    exact h

end Contents

end RecordBase
