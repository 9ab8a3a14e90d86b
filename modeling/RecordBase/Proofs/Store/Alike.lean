import RecordBase.Proofs.Store.Coherence
import RecordBase.Proofs.Store.Undo

/-!
# Contents that differ in their next positions only

If nothing else runs and the journal takes every append, undoing the entries of a batch from the last
to the first leaves what there was before it, but for the positions handed out (`Contents.Alike`,
`Batch.foldl_undoOne_alike`). A store that holds this answers every look at it as before
(`Store.answersAs_of_alike`).
-/

namespace RecordBase

/-! ## Counts -/

/-- How many of the records in a slot a cluster owns: one or none. -/
def Slot.share (slot : Option Slot) (owner : Int16) : Int :=
  if (slot.filter fun slot => slot.owner = owner).isSome then 1 else 0

namespace Contents

/-- How many records a cluster has in the container with a number. -/
def count (contents : Contents) (home : Nat) (owner : Int16) : Int :=
  (contents.container home).count owner

variable {contents before after : Contents} {home : Nat}

theorem count_setSlot (hhome : home < contents.containers.length) (position : Int64)
    (new : Option Slot) (other : Nat) (owner : Int16) :
    (contents.setSlot home position new).count other owner =
      if other = home then
        contents.count home owner - Slot.share (contents.slot? home position) owner +
          Slot.share new owner
      else contents.count other owner := by
  cases new with
  | some slot =>
    rw [count, setSlot, putSlot, container_changeContainer _ _ hhome]
    split
    · have hshare : Slot.share (some slot) owner = if slot.owner = owner then 1 else 0 := by
        by_cases h : slot.owner = owner <;> simp [Slot.share, h]
      rw [Container.count_put, hshare]
      rfl
    · rfl
  | none =>
    rw [count, setSlot, removeSlot, container_changeContainer _ _ hhome]
    split
    · rw [Container.count_remove]
      exact (Int.add_zero _).symm
    · rfl

/-! ## Alike -/

/-- Nothing has changed but that positions may have been handed out. -/
structure Alike (before after : Contents) : Prop where
  clusters : after.clusters = before.clusters
  names : after.names = before.names
  dictionary : after.dictionary = before.dictionary
  containers : after.containers.length = before.containers.length
  slots : ∀ home position, after.slot? home position = before.slot? home position
  counts : ∀ home owner, after.count home owner = before.count home owner
  next : ∀ home, before.next home ≤ after.next home

theorem Alike.refl (contents : Contents) : contents.Alike contents :=
  ⟨rfl, rfl, rfl, rfl, fun _ _ => rfl, fun _ _ => rfl, fun _ => Int.le_refl _⟩

theorem Alike.trans {a b c : Contents} (h₁ : a.Alike b) (h₂ : b.Alike c) : a.Alike c where
  clusters := h₂.clusters.trans h₁.clusters
  names := h₂.names.trans h₁.names
  dictionary := h₂.dictionary.trans h₁.dictionary
  containers := h₂.containers.trans h₁.containers
  slots home position := (h₂.slots home position).trans (h₁.slots home position)
  counts home owner := (h₂.counts home owner).trans (h₁.counts home owner)
  next home := Int.le_trans (h₁.next home) (h₂.next home)

theorem Alike.advances (alike : before.Alike after) : before.Advances after where
  listed h := by rwa [alike.clusters]
  next := alike.next
  slots {home position} _ := by
    rw [alike.slots]
    exact .same _

end Contents

namespace Undo.Wrote

open Contents

variable {undo : Undo} {listing : Listing} {old new : Option Slot} {before now : Contents}

/-- Setting the slot back leaves what there was before the entry. -/
theorem alike_undo (sound : before.Sound) (wrote : undo.Wrote listing old new before)
    (alike : wrote.left.Alike now) :
    before.Alike (now.setSlot listing.home undo.id.position old) := by
  have hhome := sound.housed wrote.listed
  have hlength : wrote.left.containers.length = before.containers.length :=
    length_containers_setSlot ..
  have hnow : listing.home < now.containers.length := by
    rw [alike.containers, hlength]
    exact hhome
  refine ⟨?_, ?_, ?_, ?_, fun home place => ?_, fun home owner => ?_, fun home => ?_⟩
  · rw [clusters_setSlot, alike.clusters, left, clusters_setSlot]
  · rw [names_setSlot, alike.names, left, names_setSlot]
  · rw [dictionary_setSlot, alike.dictionary, left, dictionary_setSlot]
  · rw [length_containers_setSlot, alike.containers, hlength]
  · rw [slot?_setSlot hnow]
    split
    · rename_i hat
      rw [hat.1, hat.2, wrote.was]
    · rename_i hat
      rw [alike.slots, left, slot?_setSlot hhome, if_neg hat]
  · have hslot : now.slot? listing.home undo.id.position = new := by
      rw [alike.slots, wrote.slot?_left sound]
    rw [count_setSlot hnow, alike.counts, alike.counts, left, count_setSlot hhome,
      count_setSlot hhome, hslot, wrote.was, if_pos rfl]
    split
    · rename_i he
      rw [he]
      omega
    · rfl
  · have h₁ := next_le_setSlot hhome undo.id.position new home
    have h₂ := alike.next home
    have h₃ := next_le_setSlot hnow undo.id.position old home
    simp only [left] at h₂
    omega

end Undo.Wrote

/-! ## Looks at a store -/

namespace Store

/-- Every look at the records and clusters gives what it gave before. -/
structure AnswersAs (before after : Store) : Prop where
  read : ∀ id, (after.read id).1 = (before.read id).1
  readUncached : ∀ id, (after.readUncached id).1 = (before.readUncached id).1
  scan : ∀ cluster, after.scan cluster = before.scan cluster
  count : ∀ clusters, after.count clusters = before.count clusters
  clusters : after.clusters = before.clusters

variable {before after : Store}

theorem slots_of_alike (alike : before.contents.Alike after.contents) (home : Nat) :
    (after.contents.container home).slots = (before.contents.container home).slots :=
  Table.ext_get? (alike.slots home)

theorem listing_of_alike (alike : before.contents.Alike after.contents) (cluster : Int16) :
    after.listing cluster = before.listing cluster := by
  simp only [listing, alike.clusters]

theorem readUncached_of_alike (alike : before.contents.Alike after.contents) (id : RecordId) :
    (after.readUncached id).1 = (before.readUncached id).1 := by
  unfold readUncached
  rw [listing_of_alike alike]
  split
  · rfl
  · cases before.listing id.cluster with
    | error error => rfl
    | ok listing =>
      simp only [stored?, Container.ownedSlot?, slots_of_alike alike]

theorem count_of_alike (alike : before.contents.Alike after.contents) (clusters : List Int16) :
    after.count clusters = before.count clusters := by
  induction clusters with
  | nil => rfl
  | cons cluster rest ih =>
    rw [count, count, listing_of_alike alike, ih]
    cases before.listing cluster with
    | error error => rfl
    | ok listing =>
      have hcount := alike.counts listing.home listing.cluster.id
      simp only [Contents.count] at hcount
      simp only [hcount]

/-- Stores that hold the same, positions handed out aside, answer alike. -/
theorem answersAs_of_alike (alike : before.contents.Alike after.contents) (hbefore : before.Coherent)
    (hafter : after.Coherent) : before.AnswersAs after where
  read id := by
    rw [read_eq_readUncached hafter, read_eq_readUncached hbefore]
    exact readUncached_of_alike alike id
  readUncached := readUncached_of_alike alike
  scan cluster := by
    unfold scan
    rw [listing_of_alike alike]
    cases before.listing cluster with
    | error error => rfl
    | ok listing => simp only [slots_of_alike alike]
  count := count_of_alike alike
  clusters := by rw [Store.clusters, Store.clusters, alike.clusters]

end Store

/-! ## Rolling back with nothing in between -/

namespace Batch

variable {store : Store} {start : Contents} {undo : Undo} {undos : List Undo}

/-- An entry undone, of a batch in which nothing else happened, with an append that is taken. -/
theorem undoOne_alike {count : Nat}
    (pending : Undo.Pending Contents.Alike start (undo :: undos) store.contents)
    (syncs : store.journal.SyncsHold) (taken : store.journal.Takes (count + 1)) :
    Undo.Pending Contents.Alike start undos (undoOne store undo).contents ∧
      (undoOne store undo).journal.SyncsHold ∧ (undoOne store undo).journal.Takes count := by
  obtain _ | @⟨_, _, listing, old, new, before, _, earlier, sound, wrote, since⟩ := pending
  have hslot : store.contents.slot? listing.home undo.id.position = new := by
    rw [since.slots, wrote.slot?_left sound]
  obtain ⟨offset, journal, happend⟩ :=
    Journal.append_of_taken_of_syncsHold (taken 0 (Nat.succ_pos _)) syncs
      (Deed.restore store.contents listing undo.id old).entry
  have hfollows := Journal.append_follows store.journal
    (Deed.restore store.contents listing undo.id old).entry
  have htaken := taken.append (Deed.restore store.contents listing undo.id old).entry
  rw [happend] at hfollows htaken
  rw [undoOne_eq, wrote.undoPlan_eq sound since.advances, if_pos hslot,
    Store.perform_one_of_written happend, Store.contents_done, Store.journal_done, Deed.after_restore]
  exact ⟨earlier.andThen .trans (wrote.alike_undo sound since), hfollows.syncsHold syncs, htaken⟩

/-- All entries of a batch undone. -/
theorem foldl_undoOne_alike (pending : Undo.Pending Contents.Alike start undos store.contents)
    (syncs : store.journal.SyncsHold) (taken : store.journal.Takes undos.length) :
    start.Alike (undos.foldl undoOne store).contents := by
  induction undos generalizing store with
  | nil =>
    obtain ⟨since⟩ := pending
    exact since
  | cons undo rest ih =>
    obtain ⟨hpending, hsyncs, htaken⟩ := undoOne_alike pending syncs taken
    exact ih hpending hsyncs htaken

end Batch

end RecordBase
