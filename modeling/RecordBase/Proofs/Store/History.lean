import RecordBase.Proofs.Store.Alike
import RecordBase.Proofs.Store.Opening

/-!
# How records age

Contents age by some updates (`Contents.Ages`) if they advance and the version of every record that is
still there has risen by the number of its updates. A record that is gone stays gone
(`Advances.gone`), so this composes (`Ages.trans`); and a record with the version that it had is the
same record (`Advances.record_eq`).

* `Law.ages`: what does not write over a record ages the contents by no update;
* `ages_replacePlan`: a replacement carried out is one update of its record.
-/

namespace RecordBase

namespace Contents

variable {contents before middle after : Contents} {id : RecordId}

/-! ## Records of advancing contents -/

theorem stored_of_record? (sound : contents.Sound) {record : Record}
    (h : contents.record? id = some record) :
    ∃ listing slot, contents.Stored id listing slot ∧ record = slot.record id := by
  cases hlisted : contents.clusters.get? id.cluster with
  | none =>
    rw [record?_of_unlisted hlisted] at h
    cases h
  | some listing =>
    rw [record?_of_keyed sound hlisted] at h
    obtain ⟨slot, hslot, rfl⟩ := Option.map_eq_some_iff.1 h
    obtain ⟨hslot, howner⟩ := Option.filter_eq_some_iff.1 hslot
    exact ⟨listing, slot, ⟨hlisted, hslot, (of_decide_eq_true howner).trans (sound.keyed hlisted).symm⟩,
      rfl⟩

/-- Of a record that was stored, later contents hold what stands in its slot. -/
theorem Stored.record?_of_advances (sound : before.Sound) {listing : Listing} {slot : Slot}
    (stored : before.Stored id listing slot) (advances : before.Advances after) :
    Slot.Later (some slot) (after.slot? listing.home id.position) ∧
      after.record? id = (after.slot? listing.home id.position).map (·.record id) := by
  have hlater := advances.slots (sound.below stored.slot_eq)
  rw [stored.slot_eq] at hlater
  refine ⟨hlater, record?_of_own (advances.listed stored.listed) (sound.keyed stored.listed) ?_⟩
  intro found hfound
  rw [Option.mem_def.1 hfound] at hlater
  exact hlater.owner_eq.trans stored.owner_eq

/-- A record with the version that it had is the same record. -/
theorem Advances.record_eq (sound : before.Sound) (advances : before.Advances after)
    {old new : Record} (hold : before.record? id = some old) (hnew : after.record? id = some new)
    (same : new.version = old.version) : new = old := by
  obtain ⟨listing, slot, stored, rfl⟩ := stored_of_record? sound hold
  obtain ⟨hlater, hrecord⟩ := stored.record?_of_advances sound advances
  rw [hrecord] at hnew
  obtain ⟨found, hfound, rfl⟩ := Option.map_eq_some_iff.1 hnew
  rw [hfound] at hlater
  cases hlater with
  | same => rfl
  | raised _ hversion =>
    have hversions : found.version = slot.version := same
    rw [hversions] at hversion
    exact absurd hversion Int32.lt_irrefl

/-- A record that is gone does not come back. -/
theorem Advances.gone (sound : before.Sound) (earlier : before.Advances middle)
    (later : middle.Advances after) {old : Record} (hold : before.record? id = some old)
    (hgone : middle.record? id = none) : after.record? id = none := by
  obtain ⟨listing, slot, stored, rfl⟩ := stored_of_record? sound hold
  have hfree := (stored.record?_of_advances sound earlier).2.symm.trans hgone
  have hlater := later.slots (Int.lt_of_lt_of_le (sound.below stored.slot_eq) (earlier.next _))
  rw [Option.map_eq_none_iff.1 hfree] at hlater
  rw [(stored.record?_of_advances sound (earlier.trans later)).2, hlater.eq_none, Option.map_none]

/-! ## Ages -/

/-- Contents that advance while records are updated, each as often as it is listed. -/
structure Ages (before : Contents) (updated : List RecordId) (after : Contents) : Prop where
  advances : before.Advances after
  versions : ∀ {id old new}, before.record? id = some old → after.record? id = some new →
    new.version.toInt = old.version.toInt + updated.count id

theorem Ages.of_kept (advances : before.Advances after)
    (kept : ∀ {id old new}, before.record? id = some old → after.record? id = some new → new = old) :
    before.Ages [] after where
  advances := advances
  versions hold hnew := by
    rw [kept hold hnew, List.count_nil]
    exact (Int.add_zero _).symm

theorem Ages.refl (contents : Contents) : contents.Ages [] contents :=
  .of_kept (.refl _) fun hold hnew => Option.some.inj (hnew.symm.trans hold)

theorem Ages.trans (sound : before.Sound) {first second : List RecordId}
    (h₁ : before.Ages first middle) (h₂ : middle.Ages second after) :
    before.Ages (first ++ second) after where
  advances := h₁.advances.trans h₂.advances
  versions {id old new} hold hnew := by
    cases hmiddle : middle.record? id with
    | none =>
      rw [h₁.advances.gone sound h₂.advances hold hmiddle] at hnew
      cases hnew
    | some between =>
      have hfirst := h₁.versions hold hmiddle
      have hsecond := h₂.versions hmiddle hnew
      rw [List.count_append]
      omega

theorem Ages.of_alike (sound : before.Sound) (alike : before.Alike after) : before.Ages [] after := by
  refine .of_kept alike.advances fun {id old new} hold hnew => ?_
  obtain ⟨listing, slot, stored, rfl⟩ := stored_of_record? sound hold
  have hrecord := (stored.record?_of_advances sound alike.advances).2
  rw [hnew, alike.slots, stored.slot_eq] at hrecord
  exact Option.some.inj hrecord

/-! ## Deeds -/

/-- A deed that proceeds and writes no record where there is one. -/
structure Spares (contents : Contents) (deed : Deed) : Prop where
  proceeds : contents.Proceeds deed
  new : ∀ {record}, deed.note = .put record → contents.record? record.id = none

theorem Spares.ages (sound : contents.Sound) {deed : Deed} (spares : contents.Spares deed) :
    contents.Ages [] deed.after := by
  refine .of_kept spares.proceeds.advances fun {id old new} hold hnew => ?_
  have htells := spares.proceeds.fits.tells sound
  cases hnote : deed.note with
  | keep =>
    rw [hnote] at htells
    exact Option.some.inj (hnew.symm.trans (htells id old hold))
  | put record =>
    rw [hnote] at htells
    rw [htells id] at hnew
    split at hnew
    · rename_i hid
      rw [hid, spares.new hnote] at hold
      cases hold
    · exact Option.some.inj (hnew.symm.trans hold)
  | erase gone =>
    rw [hnote] at htells
    rw [htells id] at hnew
    split at hnew
    · cases hnew
    · exact Option.some.inj (hnew.symm.trans hold)

end Contents

namespace Store

variable {store : Store}

/-- What writes no record where there is one ages the contents by no update. -/
theorem Law.ages : Law Contents.Spares fun a b =>
    a.contents.Sound → b.contents.Sound ∧ a.contents.Ages [] b.contents where
  trans h₁ h₂ sound := by
    obtain ⟨sound', ages⟩ := h₁ sound
    obtain ⟨sound'', ages'⟩ := h₂ sound'
    exact ⟨sound'', ages.trans sound ages'⟩
  idle h sound := by
    rw [h.contents]
    exact ⟨sound, .refl _⟩
  tries h sound := by
    cases h with
    | refused _ _ => exact ⟨sound, .refl _⟩
    | written spares _ =>
      rw [contents_done]
      exact ⟨spares.proceeds.fits.sound sound, spares.ages sound⟩

theorem ages_perform {α : Type} {plan : Plan α} (sound : store.contents.Sound)
    (each : plan.Each Contents.Spares store.contents) :
    store.contents.Ages [] (store.perform plan).2.contents :=
  (Law.ages.perform each sound).2

end Store

/-! ## Plans -/

section Each

variable {α : Type} {contents : Contents} {deed : Deed} {answer : α}

/-- A plan of one deed that proceeds and is not noted for the cache. -/
theorem Plan.Each.spares (each : (Plan.act [deed] answer).Each Contents.Proceeds contents)
    (unnoted : ∀ {record}, deed.note ≠ .put record) :
    (Plan.act [deed] answer).Each Contents.Spares contents :=
  .one ⟨each.first, fun h => absurd h unnoted⟩ answer

end Each

namespace Store

variable {store : Store}

theorem createPlan_spares (sound : store.contents.Sound) (cluster : Int16) (content : Bytes)
    (type : RecordType) :
    (store.createPlan cluster content type).Each Contents.Spares store.contents := by
  have hproceeds := createPlan_proceeds sound cluster content type
  rcases createPlan_cases sound cluster content type with ⟨error, hplan⟩ |
    ⟨listing, position, slot, tally, hlisted, hposition, -, -, hplan⟩
  · rw [hplan]
    exact .refuse error
  · rw [hplan] at hproceeds ⊢
    refine .one ⟨hproceeds.first, ?_⟩ _
    rintro _ ⟨⟩
    have hkeyed : store.contents.clusters.get? listing.cluster.id = some listing := by
      rw [sound.keyed hlisted]
      exact hlisted
    show store.contents.record? ⟨listing.cluster.id, position⟩ = none
    rw [Contents.record?_of_keyed sound hkeyed, slot?_next sound hposition]
    rfl

theorem removePlan_spares (sound : store.contents.Sound) (id : RecordId) (version : Int32) :
    (store.removePlan id version).Each Contents.Spares store.contents := by
  have hproceeds := removePlan_proceeds sound id version
  rcases store.removePlan_cases id version with ⟨error, hplan⟩ | ⟨listing, old, tally, -, hplan⟩
  · rw [hplan]
    exact .refuse error
  · rw [hplan] at hproceeds ⊢
    exact hproceeds.spares nofun

theorem addPhysicalPlan_spares (store : Store) (name : String) (file : Option String) (size : Int32) :
    (store.addPhysicalPlan name file size).Each Contents.Spares store.contents := by
  have hproceeds := addPhysicalPlan_proceeds store name file size
  rcases store.addPhysicalPlan_cases name file size with ⟨error, hplan⟩ | ⟨id, normal, -, hplan⟩
  · rw [hplan]
    exact .refuse error
  · rw [hplan] at hproceeds ⊢
    exact hproceeds.spares nofun

theorem addLogicalPlan_spares (sound : store.contents.Sound) (name : String) (container : Int32) :
    (store.addLogicalPlan name container).Each Contents.Spares store.contents := by
  have hproceeds := addLogicalPlan_proceeds sound name container
  rcases addLogicalPlan_cases sound name container with ⟨error, hplan⟩ |
    ⟨listing, id, normal, position, slot, announced, -, -, -, -, -, -, rfl, hplan⟩
  · rw [hplan]
    exact .refuse error
  · rw [hplan] at hproceeds ⊢
    obtain _ | ⟨-, _ | ⟨hdescriptor, _ | ⟨hlisting, -⟩⟩⟩ := hproceeds
    exact .act _ (.cons ⟨hdescriptor, nofun⟩ (.cons ⟨hlisting, nofun⟩ (.nil _)))

theorem unbindPlan_spares (store : Store) (key : String) :
    (store.unbindPlan key).Each Contents.Spares store.contents := by
  have hproceeds := unbindPlan_proceeds store key
  unfold unbindPlan at hproceeds ⊢
  split at hproceeds
  · exact .act _ (.nil _)
  · exact hproceeds.spares nofun

/-! ## Replacements -/

theorem contents_of_replacePlan_failed {id : RecordId} {content : Bytes} {version : Int32}
    {type : Option RecordType} {error : Error} {after : Store}
    (h : store.perform (store.replacePlan id content version type) = (.error error, after)) :
    after.contents = store.contents := by
  rcases store.replacePlan_cases id content version type with ⟨refusal, hplan⟩ |
    ⟨listing, slot, next, tally, -, -, -, hplan⟩
  · rw [hplan] at h
    cases h
    rfl
  · rw [hplan] at h
    generalize Deed.put store.contents listing id.position next (.put (next.record id)) tally = deed at h
    rcases happend : store.journal.append deed.entry with ⟨failure | offset, journal⟩
    · rw [perform_one_of_refused happend] at h
      cases h
      rfl
    · rw [perform_one_of_written happend] at h
      cases h

/-- A replacement that is carried out is one update of its record. -/
theorem ages_replacePlan (sound : store.contents.Sound) {id : RecordId} {content : Bytes}
    {version : Int32} {type : Option RecordType} {records : Record × Record} {after : Store}
    (h : store.perform (store.replacePlan id content version type) = (.ok records, after)) :
    store.contents.Ages [id] after.contents := by
  have hproceeds := replacePlan_proceeds sound id content version type
  obtain ⟨deed, undo, _, _, _, offset, journal, -, hact, -, -, happend, rfl⟩ :=
    (store.replacePlan_sets id content version type).of_perform h
  rcases store.replacePlan_cases id content version type with ⟨error, hplan⟩ |
    ⟨listing, slot, next, tally, stored, -, hnext, hplan⟩
  · rw [hplan] at hact
    cases hact
  · rw [hplan] at hact hproceeds
    cases hact
    have htells := hproceeds.first.fits.tells sound
    rw [contents_done]
    refine ⟨hproceeds.first.advances, fun {other old new} hold hnew => ?_⟩
    rw [htells other] at hnew
    split at hnew
    · rename_i hid
      obtain rfl : other = id := hid
      cases hnew
      cases (stored.record?_eq).symm.trans hold
      rw [List.count_cons_self, List.count_nil]
      exact hnext
    · rename_i hother
      have hne : id ≠ other := fun he => hother he.symm
      cases hnew.symm.trans hold
      rw [List.count_cons_of_ne hne, List.count_nil]
      exact (Int.add_zero _).symm

end Store

end RecordBase
