import RecordBase.Proofs.Store.Undo

/-!
# Writes, and what undoing makes of them

What somebody's writes leave of the records is a `Writes`; contents become others by some writes
(`Contents.Becomes`) if these say what every record is and every slot written has changed for good.
An entry of a batch that is undone amid the writes of others disappears from the account: what came
before the entry becomes what the undoing leaves by the writes of the others
(`Undo.Wrote.becomes_undone`), and so with all entries of a batch (`Batch.becomes_rollback`).
-/

namespace RecordBase

/-- What some writes leave of each record that they write: the record, or that there is none. -/
def Writes := RecordId → Option (Option Record)

namespace Writes

/-- No writes. -/
def nothing : Writes := fun _ => none

/-- The write of one record. -/
def single (id : RecordId) (left : Option Record) : Writes := fun other =>
  if other = id then some left else none

/-- Some writes and then others, which prevail. -/
def andThen (first next : Writes) : Writes := fun id => (next id).or (first id)

theorem andThen_assoc (a b c : Writes) : (a.andThen b).andThen c = a.andThen (b.andThen c) := by
  funext id
  simp only [andThen, Option.or_assoc]

@[simp] theorem andThen_nothing (writes : Writes) : writes.andThen nothing = writes := by
  funext id
  simp only [andThen, nothing, Option.none_or]

@[simp] theorem single_self (id : RecordId) (left : Option Record) :
    single id left id = some left := if_pos rfl

theorem single_of_ne {id other : RecordId} (h : other ≠ id) (left : Option Record) :
    single id left other = none := if_neg h

end Writes

/-- What does not stand still does not come back. -/
theorem Slot.Later.antisymm {a b : Option Slot} (h₁ : Later a b) (h₂ : Later b a) : a = b := by
  cases h₁ with
  | same => rfl
  | raised _ hv =>
    cases h₂ with
    | same => rfl
    | raised _ hv' => exact (Int32.lt_irrefl (Int32.lt_trans hv hv')).elim
  | freed => exact h₂.eq_none

namespace Contents

/-- The contents are later by these writes: they say what every record is now, and what stands at the
position of a record that they wrote is not what stood there. -/
structure Becomes (before : Contents) (writes : Writes) (after : Contents) : Prop where
  advances : before.Advances after
  record : ∀ id, after.record? id = (writes id).getD (before.record? id)
  changed : ∀ {id listing}, writes id ≠ none → before.clusters.get? id.cluster = some listing →
    id.position.toInt < before.next listing.home →
    after.slot? listing.home id.position ≠ before.slot? listing.home id.position

variable {a b c : Contents} {first next : Writes}

theorem Becomes.refl (contents : Contents) : contents.Becomes .nothing contents where
  advances := .refl contents
  record _ := rfl
  changed h := absurd rfl h

theorem Becomes.trans (h₁ : a.Becomes first b) (h₂ : b.Becomes next c) :
    a.Becomes (first.andThen next) c where
  advances := h₁.advances.trans h₂.advances
  record id := by
    rw [h₂.record, h₁.record, Writes.andThen]
    cases next id <;> rfl
  changed {id listing} hwritten hlisted hlt := by
    have hlt' := Int.lt_of_lt_of_le hlt (h₁.advances.next listing.home)
    have hlater := h₁.advances.slots hlt
    have hlater' := h₂.advances.slots hlt'
    intro hback
    rw [hback] at hlater'
    have hsame := hlater.antisymm hlater'
    rw [Writes.andThen] at hwritten
    cases hnext : next id with
    | some left =>
      refine h₂.changed (by rw [hnext]; simp) (h₁.advances.listed hlisted) hlt' ?_
      rw [hback, hsame]
    | none =>
      rw [hnext, Option.none_or] at hwritten
      exact h₁.changed hwritten hlisted hlt hsame.symm

end Contents

/-! ## Entries of a batch -/

/-- What an undoing leaves: the slot as it was, if nobody has changed it since. -/
def Undo.undone (undo : Undo) (listing : Listing) (old new : Option Slot) (now : Contents) : Contents :=
  if now.slot? listing.home undo.id.position = new then
    now.setSlot listing.home undo.id.position old
  else now

namespace Undo.Wrote

open Contents

variable {undo : Undo} {listing : Listing} {old new : Option Slot} {before now : Contents}
  {writes : Writes}

theorem id_eq (sound : before.Sound) (wrote : undo.Wrote listing old new before) :
    (⟨listing.cluster.id, undo.id.position⟩ : RecordId) = undo.id := by
  rw [sound.keyed wrote.listed]

theorem listed_self (sound : before.Sound) (wrote : undo.Wrote listing old new before) :
    before.clusters.get? listing.cluster.id = some listing := by
  rw [sound.keyed wrote.listed]
  exact wrote.listed

/-- What one may write at the slot of an entry shows under the identity of the entry. -/
theorem record?_setSlot (sound : before.Sound) (wrote : undo.Wrote listing old new before)
    (soundNow : now.Sound) (listed : now.clusters.get? listing.cluster.id = some listing)
    (own : ∀ slot ∈ now.slot? listing.home undo.id.position, slot.owner = listing.cluster.id)
    {next : Option Slot} (hnext : ∀ slot ∈ next, slot.owner = listing.cluster.id)
    (id : RecordId) :
    (now.setSlot listing.home undo.id.position next).record? id =
      if id = undo.id then next.map (·.record undo.id) else now.record? id := by
  have h := record?_of_slot? (now.setSlot listing.home undo.id.position next) soundNow
    ⟨listed, fun hs => own _ hs⟩ (clusters_setSlot ..)
    (slot?_setSlot (soundNow.housed listed) _ next) hnext id
  rwa [wrote.id_eq sound] at h

theorem record?_left (sound : before.Sound) (wrote : undo.Wrote listing old new before)
    (id : RecordId) :
    wrote.left.record? id =
      if id = undo.id then new.map (·.record undo.id) else before.record? id :=
  wrote.record?_setSlot sound sound (wrote.listed_self sound)
    (by rw [wrote.was]; exact wrote.oldOwn) wrote.newOwn id

/-- An entry is the write of its record. -/
theorem becomes (sound : before.Sound) (wrote : undo.Wrote listing old new before) :
    before.Becomes (.single undo.id (wrote.left.record? undo.id)) wrote.left where
  advances := wrote.advances sound
  record id := by
    rw [wrote.record?_left sound id]
    split
    · rename_i he
      rw [he, Writes.single_self, wrote.record?_left sound, if_pos rfl]
      rfl
    · rename_i hne
      rw [Writes.single_of_ne hne]
      rfl
  changed {id found} hwritten hlisted _ := by
    have hid : id = undo.id := Decidable.byContradiction fun hne =>
      hwritten (Writes.single_of_ne hne _)
    subst hid
    rw [wrote.listed] at hlisted
    cases hlisted
    rw [wrote.slot?_left sound, wrote.was]
    exact wrote.ne.symm

/-- If the others did not write the record, its slot stands as the entry left it. -/
theorem slot?_of_unwritten (sound : before.Sound) (wrote : undo.Wrote listing old new before)
    (since : wrote.left.Becomes writes now) (h : writes undo.id = none) :
    now.slot? listing.home undo.id.position = new := by
  have hlater := wrote.later_now sound since.advances
  have hrecord := since.record undo.id
  rw [h, wrote.record?_left sound, if_pos rfl,
    record?_of_own (wrote.listed_now since.advances) (sound.keyed wrote.listed)
      (wrote.own_now sound since.advances)] at hrecord
  have hversion := congrArg (Option.map Record.version) hrecord
  simp only [Option.getD_none, Option.map_map] at hversion
  exact (version_eq_iff hlater).1 hversion

/-- If they did, it does not. -/
theorem slot?_of_written (sound : before.Sound) (wrote : undo.Wrote listing old new before)
    (since : wrote.left.Becomes writes now) (h : writes undo.id ≠ none) :
    now.slot? listing.home undo.id.position ≠ new := by
  have hlisted : wrote.left.clusters.get? undo.id.cluster = some listing :=
    wrote.clusters_left ▸ wrote.listed
  have hchanged := since.changed h hlisted (wrote.below_next sound)
  rwa [wrote.slot?_left sound] at hchanged

theorem advances_undone (sound : before.Sound) (wrote : undo.Wrote listing old new before)
    (soundNow : now.Sound) (since : wrote.left.Advances now) :
    before.Advances (undo.undone listing old new now) := by
  unfold undone
  split
  · exact wrote.advances_undo sound soundNow since
  · exact (wrote.advances sound).trans since

/-- After the undoing every record is what the others left, or what it was before the entry. -/
theorem record?_undone (sound : before.Sound) (wrote : undo.Wrote listing old new before)
    (soundNow : now.Sound) (since : wrote.left.Becomes writes now) (id : RecordId) :
    (undo.undone listing old new now).record? id = (writes id).getD (before.record? id) := by
  cases hwrites : writes undo.id with
  | none =>
    have hnow : now.clusters.get? listing.cluster.id = some listing :=
      since.advances.listed (wrote.clusters_left ▸ wrote.listed_self sound)
    have hold : before.record? undo.id = old.map (·.record undo.id) := by
      rw [record?_of_own wrote.listed (sound.keyed wrote.listed) (wrote.was ▸ wrote.oldOwn), wrote.was]
    rw [undone, if_pos (wrote.slot?_of_unwritten sound since hwrites),
      wrote.record?_setSlot sound soundNow hnow (wrote.own_now sound since.advances) wrote.oldOwn]
    split
    · rename_i he
      rw [he, hwrites, hold]
      rfl
    · rename_i hne
      rw [since.record, wrote.record?_left sound, if_neg hne]
  | some last =>
    have hwritten : writes undo.id ≠ none := by simp [hwrites]
    rw [undone, if_neg (wrote.slot?_of_written sound since hwritten), since.record,
      wrote.record?_left sound]
    split
    · rename_i he
      rw [he, hwrites]
      rfl
    · rfl

/-- What an entry found at a position handed out before does not come back. -/
theorem slot?_ne_old (sound : before.Sound) (wrote : undo.Wrote listing old new before)
    (since : wrote.left.Advances now)
    (hlt : undo.id.position.toInt < before.next listing.home) :
    now.slot? listing.home undo.id.position ≠ old := by
  have hlater := wrote.later_now sound since
  have hold : old ≠ none := fun hnone => by
    have := wrote.fresh hnone
    omega
  intro hback
  rw [hback] at hlater
  exact wrote.ne ((wrote.later hold).antisymm hlater)

/-- Undoing an entry makes of the account of all that happened since what the others did. -/
theorem becomes_undone (sound : before.Sound) (wrote : undo.Wrote listing old new before)
    (soundNow : now.Sound) (since : wrote.left.Becomes writes now) :
    before.Becomes writes (undo.undone listing old new now) where
  advances := wrote.advances_undone sound soundNow since.advances
  record := wrote.record?_undone sound soundNow since
  changed {id found} hwritten hlisted hlt := by
    have hhome := sound.housed wrote.listed
    have hleft : wrote.left.clusters.get? id.cluster = some found := wrote.clusters_left ▸ hlisted
    have hlt' : id.position.toInt < wrote.left.next found.home :=
      Int.lt_of_lt_of_le hlt (next_le_setSlot hhome _ _ _)
    have hchanged := since.changed hwritten hleft hlt'
    rw [left, slot?_setSlot hhome] at hchanged
    by_cases hat : found.home = listing.home ∧ id.position = undo.id.position
    · rw [if_pos hat, hat.1, hat.2] at hchanged
      rw [hat.1, hat.2] at hlt
      rw [undone, if_neg hchanged, hat.1, hat.2, wrote.was]
      exact wrote.slot?_ne_old sound since.advances hlt
    · rw [if_neg hat] at hchanged
      unfold undone
      split
      · rw [slot?_setSlot (soundNow.housed (wrote.listed_now since.advances)), if_neg hat]
        exact hchanged
      · exact hchanged

end Undo.Wrote

/-! ## Rolling back amid the writes of others -/

/-- The entries of a batch still to be undone, the last one first, and what the others wrote since
the start of the batch: before the first entry, between the entries, and after the last one. -/
inductive Undo.Amid (start : Contents) : List Undo → Writes → Contents → Prop
  | nil {writes : Writes} {now : Contents} (since : start.Becomes writes now) : Amid start [] writes now
  | cons {undo : Undo} {undos : List Undo} {first next : Writes} {listing : Listing}
      {old new : Option Slot} {before now : Contents} (earlier : Amid start undos first before)
      (sound : before.Sound) (wrote : undo.Wrote listing old new before)
      (since : wrote.left.Becomes next now) : Amid start (undo :: undos) (first.andThen next) now

/-- The others write more after the entries. -/
theorem Undo.Amid.andThen {start now later : Contents} {undos : List Undo} {first next : Writes}
    (amid : Amid start undos first now) (h : now.Becomes next later) :
    Amid start undos (first.andThen next) later := by
  cases amid with
  | nil since => exact .nil (since.trans h)
  | cons earlier sound wrote since =>
    rw [Writes.andThen_assoc]
    exact .cons earlier sound wrote (since.trans h)

/-- One more entry. -/
theorem Undo.Amid.entry {start now : Contents} {undo : Undo} {undos : List Undo} {writes : Writes}
    {listing : Listing} {old new : Option Slot} (amid : Amid start undos writes now)
    (sound : now.Sound) (wrote : undo.Wrote listing old new now) :
    Amid start (undo :: undos) writes wrote.left := by
  have h := Amid.cons amid sound wrote (.refl _)
  rwa [Writes.andThen_nothing] at h

/-- While no append fails, nothing that happens changes that. -/
theorem Store.Law.willing {P : Contents → Deed → Prop} :
    Store.Law P fun a b => a.journal.Willing → b.journal.Willing where
  trans h₁ h₂ h := h₂ (h₁ h)
  idle {a b} h willing := by
    refine ⟨?_, h.follows.syncsHold willing.syncsHold⟩
    rw [Journal.Accepts, h.refusals]
    exact willing.accepts
  tries {a b} h willing := by
    cases h with
    | @refused deed error journal _ append =>
      have := willing.append deed.entry
      rwa [append] at this
    | @written deed offset journal _ append =>
      have := willing.append deed.entry
      rw [append] at this
      rwa [journal_done]

namespace Batch

variable {store : Store} {start : Contents} {undo : Undo} {undos : List Undo} {writes : Writes}

/-- An entry undone with an append that is taken disappears from the account. -/
theorem undoOne_amid {count : Nat} (sound : store.contents.Sound) (syncs : store.journal.SyncsHold)
    (taken : store.journal.Takes (count + 1))
    (amid : Undo.Amid start (undo :: undos) writes store.contents) :
    (undoOne store undo).contents.Sound ∧ (undoOne store undo).journal.SyncsHold ∧
      (undoOne store undo).journal.Takes count ∧
      Undo.Amid start undos writes (undoOne store undo).contents := by
  obtain _ | @⟨_, _, first, next, listing, old, new, before, _, earlier, soundBefore, wrote, since⟩ :=
    amid
  have hundone := earlier.andThen (wrote.becomes_undone soundBefore sound since)
  rw [Undo.undone] at hundone
  rw [undoOne_eq, wrote.undoPlan_eq soundBefore since.advances]
  split
  · rename_i hstands
    rw [if_pos hstands] at hundone
    have hfits := wrote.fits_restore soundBefore since.advances
    generalize hrestore : Deed.restore store.contents listing undo.id old = restore at hfits
    have hafter : restore.after = store.contents.setSlot listing.home undo.id.position old := by
      rw [← hrestore, Deed.after_restore]
    obtain ⟨offset, journal, happend⟩ :=
      Journal.append_of_taken_of_syncsHold (taken 0 (Nat.succ_pos _)) syncs restore.entry
    have hsyncs := (Journal.append_follows store.journal restore.entry).syncsHold syncs
    have htaken := taken.append restore.entry
    rw [happend] at hsyncs htaken
    rw [Store.perform_one_of_written happend, Store.contents_done, Store.journal_done]
    exact ⟨hfits.sound sound, hsyncs, htaken, hafter ▸ hundone⟩
  · rename_i hchanged
    rw [if_neg hchanged] at hundone
    exact ⟨sound, syncs, taken.of_le (Nat.le_succ _), hundone⟩

/-- Of all that happened since the start of a batch, rolling it back leaves the writes of the
others, if the journal takes what undoes the entries. -/
theorem becomes_rollback {batch : Batch} (sound : store.contents.Sound)
    (syncs : store.journal.SyncsHold) (taken : store.journal.Takes batch.undo.length)
    (amid : Undo.Amid start batch.undo writes store.contents) :
    start.Becomes writes (batch.rollback store).contents := by
  show start.Becomes writes (batch.undo.foldl undoOne store).contents
  generalize batch.undo = undos at taken amid ⊢
  induction undos generalizing store with
  | nil =>
    obtain ⟨since⟩ := amid
    exact since
  | cons undo rest ih =>
    obtain ⟨hsound, hsyncs, htaken, hamid⟩ := undoOne_amid sound syncs taken amid
    exact ih hsound hsyncs htaken hamid

end Batch

end RecordBase
