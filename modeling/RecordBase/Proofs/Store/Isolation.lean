import RecordBase.Proofs.Store.Views

/-!
# What other clusters see of a write

The clusters of a container share its slots, and a slot is the cluster's whose tag it has. A write
through one cluster sets a slot that was its own or free and is its own or free afterwards, and so
does undoing such a write. So what every other cluster owns is as it was (`Contents.SameOf`), and so
is all that it shows (`Steady.sameThrough`).

* `Store.seenThrough_iff`: a slot in use is seen through its owner and through no other cluster;
* `Store.guards_of_sound`: an update or deletion through another cluster finds no record there.
-/

namespace RecordBase

/-! ## The slots of a cluster -/

namespace Contents

/-- The same clusters exist, and one of them owns the same slots. -/
structure SameOf (cluster : Int16) (before after : Contents) : Prop where
  clusters : after.clusters = before.clusters
  slots : ∀ home position, (after.container home).ownedSlot? cluster position =
    (before.container home).ownedSlot? cluster position

variable {cluster : Int16} {a b c contents : Contents}

theorem SameOf.refl (cluster : Int16) (contents : Contents) : contents.SameOf cluster contents :=
  ⟨rfl, fun _ _ => rfl⟩

theorem SameOf.trans (h₁ : a.SameOf cluster b) (h₂ : b.SameOf cluster c) : a.SameOf cluster c where
  clusters := h₂.clusters.trans h₁.clusters
  slots home position := (h₂.slots home position).trans (h₁.slots home position)

/-- A slot that does not belong to the cluster, before or after. -/
theorem SameOf.setSlot {home : Nat} {position : Int64} {new : Option Slot}
    (hhome : home < contents.containers.length)
    (old : ∀ slot ∈ contents.slot? home position, slot.owner ≠ cluster)
    (other : ∀ slot ∈ new, slot.owner ≠ cluster) :
    contents.SameOf cluster (contents.setSlot home position new) where
  clusters := clusters_setSlot ..
  slots here place := by
    show ((contents.setSlot home position new).slot? here place).filter _ =
      (contents.slot? here place).filter _
    have none_of {slot? : Option Slot} (h : ∀ slot ∈ slot?, slot.owner ≠ cluster) :
        slot?.filter (fun slot => decide (slot.owner = cluster)) = none :=
      Option.filter_eq_none_iff.2 fun slot hslot => by simpa using h slot hslot
    rw [slot?_setSlot hhome]
    split
    · rename_i hat
      rw [hat.1, hat.2, none_of old, none_of other]
    · rfl

theorem SameOf.ownedBy (same : a.SameOf cluster b) (home : Nat) :
    (b.container home).ownedBy cluster = (a.container home).ownedBy cluster :=
  Table.filter_entries_ext _ (same.slots home)

end Contents

namespace Undo

variable {undo : Undo} {undos : List Undo} {listing : Listing} {old new : Option Slot}
  {start before : Contents} {other : Int16} {store : Store}

/-- An entry of a batch changes what its cluster owns. -/
theorem Wrote.sameOf (wrote : undo.Wrote listing old new before) (sound : before.Sound)
    (hother : other ≠ undo.id.cluster) : before.SameOf other wrote.left := by
  have hkey : listing.cluster.id ≠ other := fun h =>
    hother (h.symm.trans (sound.keyed wrote.listed))
  refine .setSlot (sound.housed wrote.listed) (fun slot h => ?_) fun slot h => ?_
  · rw [wrote.was] at h
    exact wrote.oldOwn slot h ▸ hkey
  · exact wrote.newOwn slot h ▸ hkey

/-- So does undoing it, whatever has happened since. -/
theorem Pending.sameOf
    (pending : Undo.Pending Contents.Advances start (undo :: undos) store.contents)
    (sound : store.contents.Sound) (hother : other ≠ undo.id.cluster) :
    (Batch.undoPlan store undo).Each (fun contents deed => contents.SameOf other deed.after)
      store.contents := by
  obtain _ | ⟨-, soundBefore, wrote, since⟩ := pending
  have hkey := soundBefore.keyed wrote.listed
  rw [wrote.undoPlan_eq soundBefore since]
  split
  · refine .one ?_ _
    rw [Deed.after_restore]
    refine .setSlot (sound.housed (wrote.listed_now since)) (fun slot h => ?_) fun slot h => ?_
    · rw [wrote.own_now soundBefore since slot h, hkey]
      exact hother.symm
    · rw [wrote.oldOwn slot h, hkey]
      exact hother.symm
  · exact .act _ (.nil _)

end Undo

/-- A plan that sets slots of one cluster changes what that cluster owns. -/
theorem Plan.Sets.sameOf {α : Type} {contents : Contents} {undoneBy : α → Undo → Prop}
    {plan : Plan α} {other : Int16} (sets : plan.Sets contents undoneBy) (sound : contents.Sound)
    (hother : ∀ answer undo, undoneBy answer undo → other ≠ undo.id.cluster) :
    plan.Each (fun contents deed => contents.SameOf other deed.after) contents := by
  cases sets with
  | refuse error => exact .refuse error
  | act undone wrote after => exact .one (after ▸ wrote.sameOf sound (hother _ _ undone)) _

namespace Store

theorem Law.sameOf (cluster : Int16) :
    Law (fun contents deed => contents.SameOf cluster deed.after) fun a b =>
      a.contents.SameOf cluster b.contents where
  trans h₁ h₂ := h₁.trans h₂
  idle h := by
    rw [h.contents]
    exact .refl ..
  tries h := by
    cases h with
    | refused _ _ => exact .refl ..
    | written same _ =>
      rw [contents_done]
      exact same

/-! ## What a cluster shows -/

/-- A cluster shows the same before and after: its scan, its count and every read of an identity of
it, through the cache and past it. -/
structure SameThrough (before after : Store) (cluster : Int16) : Prop where
  scan : after.scan cluster = before.scan cluster
  count : after.count [cluster] = before.count [cluster]
  read : ∀ id, id.cluster = cluster → (after.read id).1 = (before.read id).1
  readUncached : ∀ id, id.cluster = cluster →
    (after.readUncached id).1 = (before.readUncached id).1

/-- What makes a store show what it holds: contents in order with their slots counted, and a coherent
cache. -/
structure Steady (store : Store) : Prop where
  sound : store.contents.Sound
  rooted : store.contents.Rooted
  counted : store.contents.Counted
  coherent : store.Coherent

/-- Whatever happens to a store keeps it steady. -/
theorem Law.steady : Law Contents.Fits fun a b => a.Steady → b.Steady where
  trans h₁ h₂ h := h₂ (h₁ h)
  idle h steady := by
    refine ⟨?_, ?_, ?_, steady.coherent.idle h⟩ <;> rw [h.contents]
    · exact steady.sound
    · exact steady.rooted
    · exact steady.counted
  tries h steady := by
    cases h with
    | refused _ _ => exact ⟨steady.sound, steady.rooted, steady.counted, steady.coherent⟩
    | written fits _ =>
      refine ⟨?_, ?_, ?_, steady.coherent.done (fits.tells steady.sound)⟩ <;> rw [contents_done]
      · exact fits.sound steady.sound
      · exact fits.rooted steady.sound steady.rooted
      · exact steady.counted.apply steady.sound (fits.apply steady.rooted)

variable {before after : Store} {cluster : Int16}

theorem listing_of_sameOf (same : before.contents.SameOf cluster after.contents) (id : Int16) :
    after.listing id = before.listing id := by
  simp only [listing, same.clusters]

theorem stored?_of_sameOf (same : before.contents.SameOf cluster after.contents)
    {listing : Listing} (hkey : listing.cluster.id = cluster) (id : RecordId) :
    after.stored? listing id = before.stored? listing id := by
  simp only [stored?, hkey, same.slots]

/-- A cluster that owns the same slots shows the same. -/
theorem Steady.sameThrough (steady : before.Steady) (steady' : after.Steady)
    (same : before.contents.SameOf cluster after.contents) : before.SameThrough after cluster := by
  have keyed {id : Int16} {listing : Listing} (h : before.listing id = .ok listing) :
      listing.cluster.id = id := steady.sound.keyed (clusters_of_listing h)
  have hread (id : RecordId) (hid : id.cluster = cluster) :
      (after.readUncached id).1 = (before.readUncached id).1 := by
    subst hid
    unfold readUncached
    rw [listing_of_sameOf same]
    split
    · rfl
    · split
      · rfl
      · rename_i hlisting
        simp only [stored?_of_sameOf same (keyed hlisting)]
  refine ⟨?_, ?_, fun id hid => ?_, hread⟩
  · unfold Store.scan
    rw [listing_of_sameOf same]
    split
    · rfl
    · rename_i listing hlisting
      have howned := same.ownedBy listing.home
      rw [← keyed hlisting] at howned
      exact congrArg (fun slots : List (Int64 × Slot) => Except.ok (slots.map fun entry =>
        entry.2.record ⟨listing.cluster.id, entry.1⟩)) howned
  · unfold Store.count
    rw [listing_of_sameOf same]
    split
    · rfl
    · rename_i listing hlisting
      have hcount : (after.contents.container listing.home).count listing.cluster.id =
          (before.contents.container listing.home).count listing.cluster.id := by
        rw [steady.counted, steady'.counted, keyed hlisting, same.ownedBy]
      simp only [hcount, Store.count]
  · rw [read_eq_readUncached steady.coherent, read_eq_readUncached steady'.coherent, hread id hid]

/-! ## Through which cluster a slot is seen -/

/-- A cluster of the container shows what stands at a position: to a read, through the cache or past
it, or in its scan. -/
def SeenThrough (store : Store) (home : Nat) (position : Int64) (cluster : Int16) : Prop :=
  ∃ listing, store.contents.clusters.get? cluster = some listing ∧ listing.home = home ∧
    ∃ record : Record, (store.read ⟨cluster, position⟩).1 = .ok (some record) ∨
      (store.readUncached ⟨cluster, position⟩).1 = .ok (some record) ∨
      ∃ records, store.scan cluster = .ok records ∧ record ∈ records ∧ record.id.position = position

variable {store : Store} {home : Nat} {position : Int64} {slot : Slot}

/-- A slot is stored under the identity at its position in its owner's cluster. -/
theorem stored_of_slot? (kept : store.contents.Kept)
    (h : store.contents.slot? home position = some slot) :
    ∃ listing, listing.home = home ∧
      store.contents.Stored ⟨slot.owner, position⟩ listing slot := by
  obtain ⟨listing, listed, rfl⟩ := kept.owned h
  exact ⟨listing, rfl, listed, h, (kept.sound.keyed listed).symm⟩

/-- A slot is seen through the cluster that owns it and through no other. -/
theorem seenThrough_iff (kept : store.contents.Kept) (coherent : store.Coherent)
    (h : store.contents.slot? home position = some slot) :
    store.SeenThrough home position cluster ↔ cluster = slot.owner := by
  constructor
  · rintro ⟨listing, listed, rfl, record, hseen⟩
    have hrecord : ∃ record, store.contents.record? ⟨cluster, position⟩ = some record := by
      rw [read_eq_readUncached coherent] at hseen
      rcases hseen with hread | hread | ⟨records, hscan, hmem, hposition⟩
      · exact ⟨record, (readUncached_eq_some_iff_of_kept kept).1 hread⟩
      · exact ⟨record, (readUncached_eq_some_iff_of_kept kept).1 hread⟩
      · rw [scan_of_listed listed] at hscan
        cases hscan
        obtain ⟨hcluster, hstored⟩ := (kept.mem_recordsOf_iff listed).1 hmem
        have hid : record.id = ⟨cluster, position⟩ := by rw [← hcluster, ← hposition]
        exact ⟨record, hid ▸ hstored⟩
    obtain ⟨record, hrecord⟩ := hrecord
    rw [Contents.record?_of_keyed kept.sound listed, h] at hrecord
    obtain ⟨found, hfound, -⟩ := Option.map_eq_some_iff.1 hrecord
    obtain ⟨hsame, howner⟩ := Option.filter_eq_some_iff.1 hfound
    cases hsame
    exact (of_decide_eq_true howner).symm
  · rintro rfl
    obtain ⟨listing, hhome, hstored⟩ := stored_of_slot? kept h
    exact ⟨listing, hstored.listed, hhome, _,
      .inr (.inl ((readUncached_eq_some_iff_of_kept kept).2 hstored.record?_eq))⟩

/-! ## Slots of other clusters -/

/-- Updates and deletions of identities that stand for other clusters' slots find no record and change
nothing, as operations and as entries of batches. -/
def Guards (store : Store) : Prop :=
  ∀ id listing slot, store.contents.clusters.get? id.cluster = some listing →
    store.contents.slot? listing.home id.position = some slot → slot.owner ≠ id.cluster →
    (∀ content version type,
      store.update id content version type = (.error (.recordNotFound id), store)) ∧
    (∀ version, store.delete id version = (.error (.recordNotFound id), store)) ∧
    ∀ (batch : Batch) named version, batch.resolve named = .ok id →
      (∀ content, batch.apply store (.update named version (some content)) =
        (.error (.recordNotFound id), store)) ∧
      batch.apply store (.delete named version) = (.error (.recordNotFound id), store)

theorem guards_of_sound (sound : store.contents.Sound) : store.Guards := by
  intro id listing slot listed h foreign
  have hnone : store.stored? listing id = none := by
    rw [stored?_eq_record? listed, Contents.record?_of_keyed sound listed, h, Option.filter_some,
      if_neg (by simpa using foreign)]
    rfl
  have hexpected (version : Int32) :
      store.expected id version = (.error (.recordNotFound id), store) := by
    unfold expected
    split
    · rfl
    · simp only [listing_of_clusters listed, hnone]
  have hreplace (content : Bytes) (version : Int32) (type : Option RecordType) :
      store.replace id content version type = (.error (.recordNotFound id), store) := by
    simp only [replace, hexpected]
  have hremove (version : Int32) :
      store.remove id version = (.error (.recordNotFound id), store) := by
    simp only [remove, hexpected]
  refine ⟨fun content version type => ?_, fun version => ?_, fun batch named version resolved =>
    ⟨fun content => ?_, ?_⟩⟩
  · simp only [update, hreplace]
  · simp only [delete, hremove]
  · simp only [Batch.apply, Batch.applyUpdate, resolved, hreplace]
  · simp only [Batch.apply, Batch.applyDelete, resolved, hremove]

end Store

end RecordBase
