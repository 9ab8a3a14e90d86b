import RecordBase.Proofs.Store.History
import RecordBase.Proofs.Store.Writes

/-!
# Records seen while a batch is under way

Whoever looks at a record while a batch is under way may see what an entry of it wrote, and the
rollback takes that back (`Batch.takenBack`). Any other record that was seen stays what its version
stands for (`Undo.Seen.record_eq`).

* `Undo.Seen.rollback`: rolling back a batch takes back a record seen, or leaves it as one seen since
  the start of the batch.
-/

namespace RecordBase

/-! ## What a rollback takes back -/

/-- The record that undoing an entry takes back: what stands under the identity of the entry, unless it
still does afterwards. -/
def Undo.takenBack? (undo : Undo) (store : Store) : Option Record :=
  if (Batch.undoOne store undo).contents.record? undo.id = store.contents.record? undo.id then none
  else store.contents.record? undo.id

/-- The records that undoing the entries of a batch takes back, in order. -/
def Batch.takenBack (store : Store) : List Undo → List Record
  | [] => []
  | undo :: rest => (undo.takenBack? store).toList ++ takenBack (undoOne store undo) rest

/-! ## Undoing one entry -/

theorem Contents.Sound.setSlot {contents : Contents} {home : Nat} (sound : contents.Sound)
    (hhome : home < contents.containers.length) (position : Int64) (slot : Option Slot) :
    (contents.setSlot home position slot).Sound := by
  cases slot with
  | some slot => exact sound.putSlot hhome position slot
  | none => exact sound.removeSlot hhome position

/-- The same change at a position handed out before leaves one advance of the other. -/
theorem Contents.Advances.setSlot {before after : Contents} {home : Nat} {position : Int64}
    (advances : before.Advances after) (hbefore : home < before.containers.length)
    (hafter : home < after.containers.length) (below : position.toInt < before.next home)
    (slot : Option Slot) :
    (before.setSlot home position slot).Advances (after.setSlot home position slot) where
  listed {id listing} h := by
    rw [clusters_setSlot] at h ⊢
    exact advances.listed h
  next other := by
    rw [next_setSlot hbefore below,
      next_setSlot hafter (Int.lt_of_lt_of_le below (advances.next home))]
    exact advances.next other
  slots {other place} hlt := by
    rw [next_setSlot hbefore below] at hlt
    rw [slot?_setSlot hbefore, slot?_setSlot hafter]
    split
    · exact .same slot
    · exact advances.slots hlt

namespace Undo.Wrote

variable {undo : Undo} {listing : Listing} {old new : Option Slot} {before moment : Contents}
  {store : Store} {record : Record}

/-- Undoing an entry sets its slot back, or leaves everything as it is: also if the journal refuses. -/
theorem undoOne_cases (sound : before.Sound) (wrote : undo.Wrote listing old new before)
    (since : wrote.left.Advances store.contents) :
    (Batch.undoOne store undo).contents = store.contents ∨
      store.contents.slot? listing.home undo.id.position = new ∧
        (Batch.undoOne store undo).contents =
          store.contents.setSlot listing.home undo.id.position old := by
  rw [Batch.undoOne_eq, wrote.undoPlan_eq sound since]
  split
  · rename_i hnew
    rcases Store.contents_perform_one store (.restore store.contents listing undo.id old) true with
      h | h
    · exact .inl h
    · exact .inr ⟨hnew, by rw [h, Deed.after_restore]⟩
  · exact .inl rfl

theorem advances_undoOne (sound : before.Sound) (wrote : undo.Wrote listing old new before)
    (soundNow : store.contents.Sound) (since : wrote.left.Advances store.contents) :
    before.Advances (Batch.undoOne store undo).contents := by
  rcases wrote.undoOne_cases sound since with h | ⟨-, h⟩
  · rw [h]
    exact (wrote.advances sound).trans since
  · rw [h]
    exact wrote.advances_undo sound soundNow since

/-- What stands under the identity of an entry after it. -/
theorem record?_now (sound : before.Sound) (wrote : undo.Wrote listing old new before)
    (since : wrote.left.Advances moment) :
    moment.record? undo.id =
      (moment.slot? listing.home undo.id.position).map (·.record undo.id) :=
  Contents.record?_of_own (wrote.listed_now since) (sound.keyed wrote.listed)
    (wrote.own_now sound since)

/-- If an entry is undone, whoever saw a record under its identity since then saw what it wrote. -/
theorem takenBack?_of_seen (sound : before.Sound) (wrote : undo.Wrote listing old new before)
    (soundNow : store.contents.Sound) (since : wrote.left.Advances moment)
    (later : moment.Advances store.contents) (soundMoment : moment.Sound)
    (stood : moment.record? undo.id = some record)
    (hnew : store.contents.slot? listing.home undo.id.position = new)
    (hundone : (Batch.undoOne store undo).contents =
      store.contents.setSlot listing.home undo.id.position old) :
    undo.takenBack? store = some record := by
  have sinceNow := since.trans later
  have hnow := wrote.record?_now sound sinceNow
  rw [wrote.record?_now sound since] at stood
  obtain ⟨slot, hslot, hrecord⟩ := Option.map_eq_some_iff.1 stood
  have hlater := later.slots (soundMoment.below hslot)
  have hearlier := wrote.later_now sound since
  rw [hslot, hnew] at hlater
  rw [hslot] at hearlier
  have hsame : new = some slot := hearlier.antisymm hlater
  have hstands : store.contents.record? undo.id = some record := by
    rw [hnow, hnew, hsame, Option.map_some, hrecord]
  have hback : (Batch.undoOne store undo).contents.record? undo.id = old.map (·.record undo.id) := by
    have hlisted := sinceNow.listed (wrote.clusters_left ▸ wrote.listed_self sound)
    rw [hundone, wrote.record?_setSlot sound soundNow hlisted (wrote.own_now sound sinceNow)
      wrote.oldOwn, if_pos rfl]
  rw [takenBack?, hback, hstands, if_neg]
  intro hold
  obtain ⟨earlier, rfl, hversion⟩ := Option.map_eq_some_iff.1 hold
  have hraised := wrote.later (by simp)
  rw [hsame] at hraised
  have hversions := congrArg Record.version (hversion.trans hrecord.symm)
  exact wrote.ne (((version_eq_iff hraised).1 (congrArg some hversions.symm)).symm.trans hsame.symm)

end Undo.Wrote

/-! ## Records seen -/

namespace Undo

/-- The record was seen since `base`, with the entries of a batch that have still to be undone before
and after that moment. -/
inductive Seen (base : Contents) (record : Record) : List Undo → Contents → Prop
  | since {undos : List Undo} {moment now : Contents}
      (pending : Pending Contents.Advances base undos moment) (sound : moment.Sound)
      (stood : moment.record? record.id = some record) (later : moment.Advances now) :
      Seen base record undos now
  | before {undo : Undo} {undos : List Undo} {listing : Listing} {old new : Option Slot}
      {before now : Contents} (earlier : Seen base record undos before) (sound : before.Sound)
      (wrote : undo.Wrote listing old new before) (since : wrote.left.Advances now) :
      Seen base record (undo :: undos) now

namespace Seen

variable {base now after : Contents} {record other : Record} {undo : Undo} {undos : List Undo}
  {store : Store}

theorem andThen (seen : Seen base record undos now) (h : now.Advances after) :
    Seen base record undos after := by
  cases seen with
  | since pending sound stood later => exact .since pending sound stood (later.trans h)
  | before earlier sound wrote since => exact .before earlier sound wrote (since.trans h)

theorem moment (seen : Seen base record undos now) :
    ∃ moment : Contents, base.Advances moment ∧ moment.Sound ∧
      moment.record? record.id = some record ∧ moment.Advances now := by
  induction seen with
  | since pending sound stood later => exact ⟨_, pending.start_advances, sound, stood, later⟩
  | before _ sound wrote since ih =>
    obtain ⟨moment, hmoment, soundMoment, stood, later⟩ := ih
    exact ⟨moment, hmoment, soundMoment, stood, (later.trans (wrote.advances sound)).trans since⟩

/-- If the batch is kept, a record seen in its course is one seen since `base`. -/
theorem kept (seen : Seen base record undos now) : Seen base record [] now := by
  obtain ⟨moment, hmoment, sound, stood, later⟩ := seen.moment
  exact .since (.nil hmoment) sound stood later

/-- What stands now with the version of a record seen is that record. -/
theorem record_eq (seen : Seen base record undos now) (h : now.record? record.id = some other)
    (version : other.version = record.version) : other = record := by
  obtain ⟨moment, -, sound, stood, later⟩ := seen.moment
  exact later.record_eq sound stood h version

theorem pending (seen : Seen base record undos now) :
    Pending Contents.Advances base undos now := by
  induction seen with
  | since pending _ _ later => exact pending.andThen .trans later
  | before _ sound wrote since ih => exact .cons ih sound wrote since

/-- Undoing the last entry takes a record seen back, or it is one seen among the entries before. -/
theorem undoOne (sound : store.contents.Sound)
    (seen : Seen base record (undo :: undos) store.contents) :
    undo.takenBack? store = some record ∨
      Seen base record undos (Batch.undoOne store undo).contents := by
  cases seen with
  | before earlier soundBefore wrote since =>
    exact .inr (earlier.andThen (wrote.advances_undoOne soundBefore sound since))
  | @since _ moment _ pending soundMoment stood later =>
    obtain _ | @⟨_, _, listing, old, new, before, _, earlier, soundBefore, wrote, since⟩ := pending
    have sinceNow := since.trans later
    rcases wrote.undoOne_cases soundBefore sinceNow with hsame | ⟨hnew, hundone⟩
    · right
      rw [hsame]
      exact .since (earlier.andThen .trans ((wrote.advances soundBefore).trans since)) soundMoment
        stood later
    · by_cases hid : record.id = undo.id
      · rw [hid] at stood
        exact .inl (wrote.takenBack?_of_seen soundBefore sound since later soundMoment stood hnew
          hundone)
      · -- The moment at which the record was seen, without the entry, comes before what is left.
        have hhome := soundMoment.housed (wrote.listed_now since)
        have hhomeNow := sound.housed (wrote.listed_now sinceNow)
        have hbelow := Int.lt_of_lt_of_le (wrote.below_next soundBefore) (since.next listing.home)
        have hsound := soundMoment.setSlot hhome undo.id.position old
        have hstood := wrote.record?_setSlot soundBefore soundMoment
          (since.listed (wrote.clusters_left ▸ wrote.listed_self soundBefore))
          (wrote.own_now soundBefore since) wrote.oldOwn record.id
        rw [if_neg hid, stood] at hstood
        right
        rw [hundone]
        exact .since (earlier.andThen .trans (wrote.advances_undo soundBefore soundMoment since)) hsound
          hstood (later.setSlot hhome hhomeNow hbelow old)

/-- Rolling back a batch takes a record seen back, or it is one seen since the start. -/
theorem rollback (sound : store.contents.Sound) (seen : Seen base record undos store.contents) :
    record ∈ Batch.takenBack store undos ∨
      Seen base record [] (undos.foldl Batch.undoOne store).contents := by
  induction undos generalizing store with
  | nil => exact .inr seen
  | cons undo rest ih =>
    obtain ⟨-, hsound, -⟩ := Batch.undoOne_of_pending sound seen.pending
    rw [Batch.takenBack, List.mem_append]
    rcases seen.undoOne sound with htaken | hseen
    · rw [htaken]
      exact .inl (.inl (by simp))
    · exact (ih hsound hseen).imp_left .inr

end Seen

end Undo

end RecordBase
