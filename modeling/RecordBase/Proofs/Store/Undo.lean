import RecordBase.Proofs.Store.Operation

/-!
# Undoing the entries of a batch

An entry of a batch sets one slot (`Undo.Wrote`). Whatever has happened since, undoing it sets the
slot back if and only if it still stands as the entry left it (`Wrote.undoPlan_eq`), because a
version that has gone does not come back. So what came before the entry advances to what the undoing
leaves (`Wrote.advances_undo`), and the entries of a batch can be undone one by one from the last
to the first, whatever ran between them (`Pending`).
-/

namespace RecordBase

namespace Contents

/-- Fills a slot of a container or frees it. -/
def setSlot (contents : Contents) (home : Nat) (position : Int64) : Option Slot → Contents
  | some slot => contents.putSlot home position slot
  | none => contents.removeSlot home position

variable {contents : Contents} {home : Nat} {position : Int64}

@[simp] theorem clusters_setSlot (contents : Contents) (home : Nat) (position : Int64)
    (new : Option Slot) : (contents.setSlot home position new).clusters = contents.clusters := by
  cases new <;> rfl

@[simp] theorem names_setSlot (contents : Contents) (home : Nat) (position : Int64)
    (new : Option Slot) : (contents.setSlot home position new).names = contents.names := by
  cases new <;> rfl

@[simp] theorem dictionary_setSlot (contents : Contents) (home : Nat) (position : Int64)
    (new : Option Slot) : (contents.setSlot home position new).dictionary = contents.dictionary := by
  cases new <;> rfl

@[simp] theorem length_containers_setSlot (contents : Contents) (home : Nat) (position : Int64)
    (new : Option Slot) :
    (contents.setSlot home position new).containers.length = contents.containers.length := by
  cases new with
  | some slot => exact length_containers_putSlot contents position slot
  | none => exact length_containers_removeSlot contents position

theorem slot?_setSlot (hhome : home < contents.containers.length) (position : Int64)
    (new : Option Slot) (other : Nat) (place : Int64) :
    (contents.setSlot home position new).slot? other place =
      if other = home ∧ place = position then new else contents.slot? other place := by
  cases new with
  | some slot => exact slot?_putSlot contents hhome position slot other place
  | none => exact slot?_removeSlot contents hhome position other place

theorem next_le_setSlot (hhome : home < contents.containers.length) (position : Int64)
    (new : Option Slot) (other : Nat) :
    contents.next other ≤ (contents.setSlot home position new).next other := by
  cases new with
  | some slot =>
    simp only [setSlot, next_putSlot _ hhome]
    split
    · rename_i he
      rw [he]
      omega
    · exact Int.le_refl _
  | none =>
    simp only [setSlot, next_removeSlot _ hhome]
    exact Int.le_refl _

/-- A slot at a position handed out does not move the next position. -/
theorem next_setSlot (hhome : home < contents.containers.length)
    (hbelow : position.toInt < contents.next home) (new : Option Slot) (other : Nat) :
    (contents.setSlot home position new).next other = contents.next other := by
  cases new with
  | some slot =>
    simp only [setSlot, next_putSlot _ hhome]
    split
    · rename_i he
      rw [he]
      omega
    · rfl
  | none => exact next_removeSlot contents hhome position other

theorem lt_next_setSlot_some (hhome : home < contents.containers.length) (position : Int64)
    (slot : Slot) :
    position.toInt < (contents.setSlot home position (some slot)).next home := by
  simp only [setSlot, next_putSlot _ hhome, if_pos]
  omega

end Contents

/-- Setting a slot, as undoing an entry does. -/
def Deed.restore (contents : Contents) (listing : Listing) (id : RecordId) : Option Slot → Deed
  | some slot => .put contents listing id.position slot (.put (slot.record id))
  | none => .free contents listing id.position (.erase id)

@[simp] theorem Deed.after_restore (contents : Contents) (listing : Listing) (id : RecordId)
    (slot : Option Slot) :
    (Deed.restore contents listing id slot).after =
      contents.setSlot listing.home id.position slot := by
  cases slot <;> rfl

namespace Undo

/-- An entry with this undoing set the slot of its record, in the container of `listing`, from
`old` to `new`. -/
structure Wrote (undo : Undo) (listing : Listing) (old new : Option Slot) (before : Contents) :
    Prop where
  listed : before.clusters.get? undo.id.cluster = some listing
  was : before.slot? listing.home undo.id.position = old
  oldOwn : ∀ slot ∈ old, slot.owner = listing.cluster.id
  newOwn : ∀ slot ∈ new, slot.owner = listing.cluster.id
  previous : undo.previous = old.map (·.record undo.id)
  written : undo.written = new.map (·.version)
  fresh : old = none → before.next listing.home ≤ undo.id.position.toInt
  later : old ≠ none → Slot.Later old new
  ne : old ≠ new

namespace Wrote

variable {undo : Undo} {listing : Listing} {old new : Option Slot} {before : Contents}
  {store : Store}

/-- What the entry left. -/
abbrev left (_ : undo.Wrote listing old new before) : Contents :=
  before.setSlot listing.home undo.id.position new

theorem clusters_left (wrote : undo.Wrote listing old new before) :
    wrote.left.clusters = before.clusters := Contents.clusters_setSlot ..

theorem slot?_left (sound : before.Sound) (wrote : undo.Wrote listing old new before) :
    wrote.left.slot? listing.home undo.id.position = new := by
  rw [left, Contents.slot?_setSlot (sound.housed wrote.listed), if_pos ⟨rfl, rfl⟩]

theorem below_next (sound : before.Sound) (wrote : undo.Wrote listing old new before) :
    undo.id.position.toInt < wrote.left.next listing.home := by
  have hhome := sound.housed wrote.listed
  cases new with
  | some slot => exact Contents.lt_next_setSlot_some hhome _ slot
  | none =>
    cases old with
    | none => exact absurd rfl wrote.ne
    | some slot =>
      have := sound.below wrote.was
      rw [left, Contents.next_setSlot hhome this]
      exact this

theorem advances (sound : before.Sound) (wrote : undo.Wrote listing old new before) :
    before.Advances wrote.left := by
  have hhome := sound.housed wrote.listed
  cases new with
  | some slot =>
    refine .putSlot hhome fun hlt => ?_
    have hne : old ≠ none := fun ho => by
      have := wrote.fresh ho
      omega
    rw [wrote.was]
    exact wrote.later hne
  | none => exact .free hhome _

/-- What stands there now is later than what the entry wrote. -/
theorem later_now (sound : before.Sound) (wrote : undo.Wrote listing old new before) {now : Contents}
    (since : wrote.left.Advances now) :
    Slot.Later new (now.slot? listing.home undo.id.position) := by
  have h := since.slots (wrote.below_next sound)
  rwa [wrote.slot?_left sound] at h

/-- The cluster of the entry is listed as it was. -/
theorem listed_now (wrote : undo.Wrote listing old new before) {now : Contents}
    (since : wrote.left.Advances now) : now.clusters.get? undo.id.cluster = some listing :=
  since.listed (wrote.clusters_left ▸ wrote.listed)

theorem version_eq_iff {new now : Option Slot} (h : Slot.Later new now) :
    now.map (·.version) = new.map (·.version) ↔ now = new := by
  constructor
  · intro he
    cases h with
    | same => rfl
    | raised ho hv =>
      have hsame : _ = _ := Option.some.inj he
      simp only at hsame
      rw [hsame] at hv
      exact (Int32.lt_irrefl hv).elim
    | freed => cases he
  · rintro rfl
    rfl

theorem own_of_later {new now : Option Slot} {owner : Int16} (h : Slot.Later new now)
    (hnew : ∀ slot ∈ new, slot.owner = owner) : ∀ slot ∈ now, slot.owner = owner := by
  cases h with
  | same => exact hnew
  | raised ho _ =>
    rintro _ ⟨⟩
    exact ho.trans (hnew _ rfl)
  | freed => rintro _ ⟨⟩

/-- Nobody but the cluster of the entry has written at its position. -/
theorem own_now (sound : before.Sound) (wrote : undo.Wrote listing old new before) {now : Contents}
    (since : wrote.left.Advances now) :
    ∀ slot ∈ now.slot? listing.home undo.id.position, slot.owner = listing.cluster.id :=
  own_of_later (wrote.later_now sound since) wrote.newOwn

/-- The undoing sets the slot back exactly if it stands as the entry left it. -/
theorem undoPlan_eq (sound : before.Sound) (wrote : undo.Wrote listing old new before)
    (since : wrote.left.Advances store.contents) :
    Batch.undoPlan store undo =
      if store.contents.slot? listing.home undo.id.position = new then
        .act [.restore store.contents listing undo.id old] true
      else .act [] false := by
  have hlater := wrote.later_now sound since
  have hlisted := wrote.listed_now since
  have hstored : (store.stored? listing undo.id).map (·.version) =
      (store.contents.slot? listing.home undo.id.position).map (·.version) := by
    rw [Store.stored?_eq_record? hlisted, Contents.record?_of_own hlisted (sound.keyed wrote.listed)
      (wrote.own_now sound since), Option.map_map]
    rfl
  simp only [Batch.undoPlan, Store.compensatePlan, Store.listing_of_clusters hlisted, hstored, wrote.written, ne_eq,
    version_eq_iff hlater, ite_not, wrote.previous]
  split
  · cases old with
    | none => rfl
    | some slot =>
      have ho := wrote.oldOwn slot rfl
      obtain ⟨owner, version, type, content⟩ := slot
      simp only at ho
      subst ho
      rfl
  · rfl

theorem fits_restore (sound : before.Sound) (wrote : undo.Wrote listing old new before)
    (since : wrote.left.Advances store.contents) :
    store.contents.Fits (.restore store.contents listing undo.id old) := by
  have hkey := sound.keyed wrote.listed
  have hid : (⟨listing.cluster.id, undo.id.position⟩ : RecordId) = undo.id := by rw [hkey]
  have hadmits : store.contents.Admits listing undo.id.position :=
    { listed := by
        rw [hkey]
        exact wrote.listed_now since
      own := fun hs => wrote.own_now sound since _ hs }
  cases old with
  | some slot =>
    have hfits := Contents.Fits.put (fun stats => stats) hadmits (wrote.oldOwn slot rfl)
    rw [hid] at hfits
    exact hfits
  | none =>
    have hfits := Contents.Fits.free (fun stats => stats) hadmits
    rw [hid] at hfits
    exact hfits

/-- What came before the entry advances to what its undoing leaves. -/
theorem advances_undo (sound : before.Sound) (wrote : undo.Wrote listing old new before)
    {now : Contents} (soundNow : now.Sound) (since : wrote.left.Advances now) :
    before.Advances (now.setSlot listing.home undo.id.position old) := by
  have hhome := sound.housed wrote.listed
  have hnow : listing.home < now.containers.length := soundNow.housed (wrote.listed_now since)
  refine ⟨fun h => ?_, fun other => ?_, fun {other place} hlt => ?_⟩
  · rw [Contents.clusters_setSlot]
    exact since.listed (wrote.clusters_left ▸ h)
  · have h₁ := Contents.next_le_setSlot hhome undo.id.position new other
    have h₂ := since.next other
    have h₃ := Contents.next_le_setSlot hnow undo.id.position old other
    simp only [left] at h₂
    omega
  · have hle := Contents.next_le_setSlot hhome undo.id.position new other
    rw [Contents.slot?_setSlot hnow]
    split
    · rename_i hat
      obtain ⟨rfl, rfl⟩ := hat
      rw [wrote.was]
      exact .same old
    · rename_i hat
      have h := since.slots (Int.lt_of_lt_of_le hlt hle)
      rwa [left, Contents.slot?_setSlot hhome, if_neg hat] at h

end Wrote

/-- The entries of a batch still to be undone, the last one first: what held at the start of the
batch is related to what held before the first of them, what each one left to what held before the
next, and what the last one left to what holds now. -/
inductive Pending (R : Contents → Contents → Prop) (start : Contents) : List Undo → Contents → Prop
  | nil {now : Contents} (since : R start now) : Pending R start [] now
  | cons {undo : Undo} {undos : List Undo} {listing : Listing} {old new : Option Slot}
      {before now : Contents} (earlier : Pending R start undos before) (sound : before.Sound)
      (wrote : undo.Wrote listing old new before) (since : R wrote.left now) :
      Pending R start (undo :: undos) now

/-- Something else happens after the entries. -/
theorem Pending.andThen {R : Contents → Contents → Prop} (trans : ∀ {a b c}, R a b → R b c → R a c)
    {start now later : Contents} {undos : List Undo} (pending : Pending R start undos now)
    (h : R now later) : Pending R start undos later := by
  cases pending with
  | nil since => exact .nil (trans since h)
  | cons earlier sound wrote since => exact .cons earlier sound wrote (trans since h)

theorem Pending.start_advances {start now : Contents} {undos : List Undo}
    (pending : Pending Contents.Advances start undos now) : start.Advances now := by
  induction pending with
  | nil since => exact since
  | cons _ sound wrote since ih => exact (ih.trans (wrote.advances sound)).trans since

end Undo

/-- The creation of a record. -/
theorem Undo.Wrote.ofCreate {contents : Contents} {listing : Listing} {position : Int64} {slot : Slot}
    (sound : contents.Sound) (listed : contents.clusters.get? listing.cluster.id = some listing)
    (next : position.toInt = contents.next listing.home) (owner : slot.owner = listing.cluster.id)
    (version : slot.version = 0) :
    (Undo.created ⟨listing.cluster.id, position⟩).Wrote listing none (some slot) contents where
  listed := listed
  was := Contents.slot?_eq_none_of_next_le sound (Int.le_of_eq next.symm)
  oldOwn := by rintro _ ⟨⟩
  newOwn := by
    rintro _ ⟨⟩
    exact owner
  previous := rfl
  written := by
    show some 0 = some slot.version
    rw [version]
  fresh _ := Int.le_of_eq next.symm
  later h := absurd rfl h
  ne := by simp

/-! ## The entries of a batch -/

/-- A plan that is refused or sets one slot as some undoing says that goes with the answer. -/
inductive Plan.Sets {α : Type} (before : Contents) (undoneBy : α → Undo → Prop) : Plan α → Prop
  | refuse (error : Error) : Sets before undoneBy (.refuse error)
  | act {deed : Deed} {answer : α} {undo : Undo} {listing : Listing} {old new : Option Slot}
      (undone : undoneBy answer undo) (wrote : undo.Wrote listing old new before)
      (after : deed.after = wrote.left) : Sets before undoneBy (.act [deed] answer)

theorem Plan.Sets.map {α β : Type} {before : Contents} {undoneBy : α → Undo → Prop}
    {undoneBy' : β → Undo → Prop} {plan : Plan α} (sets : plan.Sets before undoneBy) {f : α → β}
    (h : ∀ {answer undo}, undoneBy answer undo → undoneBy' (f answer) undo) :
    (plan.map f).Sets before undoneBy' := by
  cases sets with
  | refuse error => exact .refuse error
  | act undone wrote after => exact .act (h undone) wrote after

theorem Plan.Sets.mono {α : Type} {before : Contents} {undoneBy undoneBy' : α → Undo → Prop}
    {plan : Plan α} (sets : plan.Sets before undoneBy)
    (h : ∀ {answer undo}, undoneBy answer undo → undoneBy' answer undo) :
    plan.Sets before undoneBy' := by
  cases sets with
  | refuse error => exact .refuse error
  | act undone wrote after => exact .act (h undone) wrote after

/-- A plan that sets a slot and is carried out has its entry in the journal. -/
theorem Plan.Sets.of_perform {α : Type} {store after : Store} {undoneBy : α → Undo → Prop}
    {plan : Plan α} {answer : α} (sets : plan.Sets store.contents undoneBy)
    (h : store.perform plan = (.ok answer, after)) :
    ∃ deed undo listing old new offset journal,
      ∃ wrote : undo.Wrote listing old new store.contents, plan = .act [deed] answer ∧
        undoneBy answer undo ∧ deed.after = wrote.left ∧
        store.journal.append deed.entry = (.ok offset, journal) ∧ after = store.done deed journal := by
  cases sets with
  | refuse error => cases h
  | @act deed answer' undo listing old new undone wrote hafter =>
    rcases happend : store.journal.append deed.entry with ⟨error | offset, journal⟩
    · rw [Store.perform_one_of_refused happend] at h
      cases h
    · rw [Store.perform_one_of_written happend] at h
      cases h
      exact ⟨deed, undo, listing, old, new, offset, journal, wrote, rfl, undone, hafter, happend, rfl⟩

namespace Store

variable {store : Store}

theorem createPlan_sets (sound : store.contents.Sound) (cluster : Int16) (content : Bytes)
    (type : RecordType) :
    (store.createPlan cluster content type).Sets store.contents fun record undo =>
      undo = .created record.id ∧ undo.id.cluster = cluster := by
  rcases createPlan_cases sound cluster content type with ⟨error, hplan⟩ |
    ⟨listing, position, slot, tally, hlisted, hposition, howner, hversion, hplan⟩
  · rw [hplan]
    exact .refuse error
  · rw [hplan]
    have hid := sound.keyed hlisted
    have hkey : store.contents.clusters.get? listing.cluster.id = some listing := by
      rw [hid]
      exact hlisted
    exact .act ⟨rfl, hid⟩ (.ofCreate sound hkey hposition howner hversion) rfl

theorem replacePlan_sets (store : Store) (id : RecordId) (content : Bytes) (version : Int32)
    (type : Option RecordType) :
    (store.replacePlan id content version type).Sets store.contents fun records undo =>
      undo = .updated records.1.version records.2 ∧ undo.id = id := by
  rcases store.replacePlan_cases id content version type with ⟨error, hplan⟩ |
    ⟨listing, old, slot, tally, hstored, howner, hversion, hplan⟩
  · rw [hplan]
    exact .refuse error
  · rw [hplan]
    have hlt : old.version < slot.version := Int32.lt_iff_toInt_lt.2 (by omega)
    have wrote : (Undo.updated slot.version (old.record id)).Wrote listing (some old) (some slot)
        store.contents :=
      { listed := hstored.listed
        was := hstored.slot_eq
        oldOwn := by
          rintro _ ⟨⟩
          exact hstored.owner_eq
        newOwn := by
          rintro _ ⟨⟩
          exact howner
        previous := rfl
        written := rfl
        fresh := by rintro ⟨⟩
        later := fun _ => .raised (howner.trans hstored.owner_eq.symm) hlt
        ne := by
          rintro ⟨⟩
          exact Int32.lt_irrefl hlt }
    exact .act ⟨rfl, rfl⟩ wrote rfl

theorem removePlan_sets (store : Store) (id : RecordId) (version : Int32) :
    (store.removePlan id version).Sets store.contents fun record undo =>
      undo = .deleted record ∧ undo.id = id := by
  rcases store.removePlan_cases id version with ⟨error, hplan⟩ |
    ⟨listing, old, tally, hstored, hplan⟩
  · rw [hplan]
    exact .refuse error
  · rw [hplan]
    have wrote : (Undo.deleted (old.record id)).Wrote listing (some old) none store.contents :=
      { listed := hstored.listed
        was := hstored.slot_eq
        oldOwn := by
          rintro _ ⟨⟩
          exact hstored.owner_eq
        newOwn := by rintro _ ⟨⟩
        previous := rfl
        written := rfl
        fresh := by rintro ⟨⟩
        later := fun _ => .freed old
        ne := by simp }
    exact .act ⟨rfl, rfl⟩ wrote rfl

end Store

namespace Batch

variable {store : Store}

/-- The cluster through which an entry changes a record. -/
def cluster? (store : Store) (batch : Batch) : BatchEntry → Option Int16
  | .create cluster name _ => (targetCluster store cluster name).toOption
  | .update id _ _ | .delete id _ => (batch.resolve id).toOption.map (·.cluster)

/-- An entry is refused, or it sets the slot of one record of its cluster and notes how to undo
that. -/
theorem plan_sets_through (sound : store.contents.Sound) (batch : Batch) (entry : BatchEntry) :
    (batch.plan store entry).Sets store.contents fun next undo =>
      next.undo = undo :: batch.undo ∧ batch.cluster? store entry = some undo.id.cluster := by
  cases entry with
  | create cluster name content =>
    cases content with
    | none => exact .refuse _
    | some content =>
      simp only [plan, cluster?]
      split
      · exact .refuse _
      · rename_i htarget
        rw [htarget]
        refine (Store.createPlan_sets sound _ content .document).map ?_
        rintro record undo ⟨rfl, rfl⟩
        exact ⟨rfl, rfl⟩
  | update id version content =>
    cases content with
    | none => exact .refuse _
    | some content =>
      simp only [plan, cluster?]
      split
      · exact .refuse _
      · rename_i hid
        rw [hid]
        refine (store.replacePlan_sets _ content version none).map ?_
        rintro ⟨updated, previous⟩ undo ⟨rfl, rfl⟩
        exact ⟨rfl, rfl⟩
  | delete id version =>
    simp only [plan, cluster?]
    split
    · exact .refuse _
    · rename_i hid
      rw [hid]
      refine (store.removePlan_sets _ version).map ?_
      rintro record undo ⟨rfl, rfl⟩
      exact ⟨rfl, rfl⟩

/-- An entry is refused, or it sets the slot of one record and notes how to undo that. -/
theorem plan_sets (sound : store.contents.Sound) (batch : Batch) (entry : BatchEntry) :
    (batch.plan store entry).Sets store.contents fun next undo => next.undo = undo :: batch.undo :=
  (plan_sets_through sound batch entry).mono And.left

theorem plan_proceeds (sound : store.contents.Sound) (batch : Batch) (entry : BatchEntry) :
    (batch.plan store entry).Each Contents.Proceeds store.contents := by
  cases entry with
  | create cluster name content =>
    cases content with
    | none => exact .refuse _
    | some content =>
      simp only [plan]
      split
      · exact .refuse _
      · exact (Store.createPlan_proceeds sound _ content .document).map _
  | update id version content =>
    cases content with
    | none => exact .refuse _
    | some content =>
      simp only [plan]
      split
      · exact .refuse _
      · exact (Store.replacePlan_proceeds sound _ content version none).map _
  | delete id version =>
    simp only [plan]
    split
    · exact .refuse _
    · exact (Store.removePlan_proceeds sound _ version).map _

end Batch

namespace Batch

/-- An entry that was applied asked for one append, set a slot and noted how to undo that. -/
theorem wrote_of_apply {store after : Store} {batch next : Batch} {entry : BatchEntry}
    (sound : store.contents.Sound) (h : batch.apply store entry = (.ok next, after)) :
    ∃ undo listing old new, ∃ wrote : undo.Wrote listing old new store.contents,
      next.undo = undo :: batch.undo ∧ after.contents = wrote.left ∧
      ∀ n, after.journal.refusals.fate false n = store.journal.refusals.fate false (n + 1) := by
  rw [apply_eq] at h
  obtain ⟨deed, undo, listing, old, new, offset, journal, wrote, -, undone, hafter, happend, rfl⟩ :=
    (plan_sets sound batch entry).of_perform h
  have hrefusals := Journal.refusals_append store.journal deed.entry
  rw [happend] at hrefusals
  refine ⟨undo, listing, old, new, wrote, undone, by rw [Store.contents_done, hafter], fun n => ?_⟩
  rw [Store.journal_done, hrefusals]
  rfl

end Batch

/-! ## Rolling back -/

namespace Store

variable {store : Store}

theorem Law.sound_advances : Law Contents.Proceeds fun a b =>
    a.contents.Sound → b.contents.Sound ∧ a.contents.Advances b.contents where
  trans h₁ h₂ sound := by
    obtain ⟨sound', advances⟩ := h₁ sound
    obtain ⟨sound'', advances'⟩ := h₂ sound'
    exact ⟨sound'', advances.trans advances'⟩
  idle h sound := by
    rw [h.contents]
    exact ⟨sound, .refl _⟩
  tries h sound := by
    cases h with
    | refused _ _ => exact ⟨sound, .refl _⟩
    | written proceeds _ =>
      rw [contents_done]
      exact ⟨proceeds.fits.sound sound, proceeds.advances⟩

/-- Carrying out what proceeds advances the contents, also if the journal fails in the middle. -/
theorem sound_advances_perform {α : Type} {plan : Plan α} (sound : store.contents.Sound)
    (each : plan.Each Contents.Proceeds store.contents) :
    (store.perform plan).2.contents.Sound ∧
      store.contents.Advances (store.perform plan).2.contents :=
  Law.sound_advances.perform each sound

end Store

namespace Batch

variable {store : Store} {start : Contents} {undo : Undo} {undos : List Undo}

theorem sound_advances_apply {batch : Batch} {entry : BatchEntry} {result : Except Error Batch}
    {after : Store} (sound : store.contents.Sound) (h : batch.apply store entry = (result, after)) :
    after.contents.Sound ∧ store.contents.Advances after.contents := by
  have hperform := Store.sound_advances_perform sound (plan_proceeds sound batch entry)
  rwa [← apply_eq, h] at hperform

/-- Undoing the last entry does nothing or tries to set its slot back, and the entries before it can
be undone next. -/
theorem undoOne_of_pending (sound : store.contents.Sound)
    (pending : Undo.Pending Contents.Advances start (undo :: undos) store.contents) :
    (undoPlan store undo).Each Contents.Fits store.contents ∧
      (undoOne store undo).contents.Sound ∧
      Undo.Pending Contents.Advances start undos (undoOne store undo).contents := by
  obtain _ | ⟨earlier, soundBefore, wrote, since⟩ := pending
  have hfits := wrote.fits_restore soundBefore since
  have hkept := (wrote.advances soundBefore).trans since
  have hback := wrote.advances_undo soundBefore sound since
  rw [undoOne_eq, wrote.undoPlan_eq soundBefore since]
  split
  · refine ⟨.one hfits true, ?_⟩
    rcases Store.contents_perform_one store _ true with h | h
    · rw [h]
      exact ⟨sound, earlier.andThen .trans hkept⟩
    · rw [h, Deed.after_restore]
      refine ⟨?_, earlier.andThen .trans hback⟩
      have := hfits.sound sound
      rwa [Deed.after_restore] at this
  · exact ⟨.act false (.nil _), sound, earlier.andThen .trans hkept⟩

theorem foldl_undoOne_of_law {Q : Store → Store → Prop} (law : Store.Law Contents.Fits Q)
    (sound : store.contents.Sound)
    (pending : Undo.Pending Contents.Advances start undos store.contents) :
    Q store (undos.foldl undoOne store) ∧ (undos.foldl undoOne store).contents.Sound ∧
      start.Advances (undos.foldl undoOne store).contents := by
  induction undos generalizing store with
  | nil =>
    obtain ⟨since⟩ := pending
    exact ⟨law.idle (.quiet (.refl store)), sound, since⟩
  | cons undo rest ih =>
    obtain ⟨hplan, hsound, hpending⟩ := undoOne_of_pending sound pending
    obtain ⟨hrest, hdone⟩ := ih hsound hpending
    refine ⟨law.trans ?_ hrest, hdone⟩
    rw [undoOne_eq]
    exact law.perform hplan

/-- What holds of every deed tried holds of a rollback. -/
theorem rollback_of_law {Q : Store → Store → Prop} (law : Store.Law Contents.Fits Q)
    {batch : Batch} (sound : store.contents.Sound)
    (pending : Undo.Pending Contents.Advances start batch.undo store.contents) :
    Q store (batch.rollback store) :=
  law.trans (foldl_undoOne_of_law law sound pending).1 (law.idle (.quiet (.ofStats _ _)))

/-- Rolling back a batch leads from its start to an advance of it. -/
theorem sound_advances_rollback {batch : Batch} (sound : store.contents.Sound)
    (pending : Undo.Pending Contents.Advances start batch.undo store.contents) :
    (batch.rollback store).contents.Sound ∧ start.Advances (batch.rollback store).contents :=
  (foldl_undoOne_of_law .trivial sound pending).2

end Batch

end RecordBase
