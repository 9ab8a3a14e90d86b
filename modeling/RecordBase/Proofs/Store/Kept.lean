import RecordBase.Proofs.Store.Counts
import RecordBase.Proofs.Store.Course

/-!
# Contents in good order

The contents of every store that runs lead to are in good order (`Contents.Kept`). A log that tells
more than a store holds, because entries stand in it whose sync failed, still gives contents in
good order: whatever it has beyond the store (`Contents.Within`) is clusters that own no slot.

* `Kept.apply`: an entry that the contents are ready for keeps them in good order;
* `Within.meets`: the contents that the log gives are ready for every entry that fits the store;
* `Within.phantom`, `Within.done`: this stays so when the entry is added to the log, whether its
  change is made or not.
-/

namespace RecordBase.Contents

/-! ## Good order -/

/-- No cluster has a negative id. -/
def Numbered (contents : Contents) : Prop :=
  ∀ {id listing}, contents.clusters.get? id = some listing → 0 ≤ id

/-- No slot in use is at a negative position. -/
def Placed (contents : Contents) : Prop :=
  ∀ {home position slot}, contents.slot? home position = some slot → (0 : Int64) ≤ position

/-- What runs rely on: contents are sound and counted, clusters and slots have valid numbers, every
slot is owned by a cluster of its container, and so is every cluster kept with another. -/
structure Kept (contents : Contents) : Prop where
  sound : contents.Sound
  counted : contents.Counted
  numbered : contents.Numbered
  placed : contents.Placed
  owned : ∀ {home position slot}, contents.slot? home position = some slot →
    ∃ listing, contents.clusters.get? slot.owner = some listing ∧ listing.home = home
  storage : ∀ {id listing}, contents.clusters.get? id = some listing →
    ∃ root, contents.clusters.get? listing.cluster.storage = some root ∧ root.home = listing.home

variable {contents live replayed after : Contents} {entry : LogEntry} {deed : Deed}

theorem Kept.empty : ({} : Contents).Kept where
  sound := .empty
  counted := .empty
  numbered h := by cases h
  placed h := by cases h
  owned h := by cases h
  storage h := by cases h

theorem Kept.rooted (kept : contents.Kept) : contents.Rooted where
  storage := kept.storage
  owned h := by
    obtain ⟨listing, hlisted, -⟩ := kept.owned h
    exact ⟨listing, hlisted⟩

/-! ## Entries that the contents are ready for -/

/-- No slot and no other cluster belongs to a cluster id. -/
structure Unused (contents : Contents) (id : Int16) : Prop where
  owners : ∀ {home position slot}, contents.slot? home position = some slot → slot.owner ≠ id
  roots : ∀ {other listing}, contents.clusters.get? other = some listing →
    listing.cluster.storage = id → other = id

/-- An entry that keeps the contents in good order. -/
inductive Meets (contents : Contents) : LogEntry → Prop
  | physical {id : Int16} {name : String} {file : Option String} {size : Int32}
      (numbered : 0 ≤ id) (unused : contents.Unused id) :
      Meets contents (.clusterAdded ⟨id, name, .physical file size⟩)
  | logical {id : Int16} {name : String} {container : Int16} {descriptor : RecordId}
      {root : Listing} (numbered : 0 ≤ id) (unused : contents.Unused id) (other : container ≠ id)
      (listed : contents.clusters.get? container = some root) :
      Meets contents (.clusterAdded ⟨id, name, .logical container descriptor⟩)
  | put {place : RecordId} {slot : Slot} {root owner : Listing} (placed : 0 ≤ place.position)
      (listed : contents.clusters.get? place.cluster = some root)
      (owned : contents.clusters.get? slot.owner = some owner) (same : owner.home = root.home) :
      Meets contents (.recordPut place slot)
  | removed (place : RecordId) : Meets contents (.recordRemoved place)
  | bound (key : String) (id : RecordId) : Meets contents (.keyBound key id)
  | freed (key : String) : Meets contents (.keyRemoved key)

/-- A cluster whose id nothing refers to. -/
theorem Kept.insert (kept : contents.Kept) {id : Int16} {listing : Listing}
    (sound : after.Sound) (counted : after.Counted)
    (hclusters : after.clusters = contents.clusters.insert id listing)
    (hslots : ∀ home position, after.slot? home position = contents.slot? home position)
    (numbered : 0 ≤ id) (unused : contents.Unused id)
    (root : ∃ root, after.clusters.get? listing.cluster.storage = some root ∧
      root.home = listing.home) : after.Kept := by
  have others {other : Int16} (hne : other ≠ id) :
      after.clusters.get? other = contents.clusters.get? other := by
    rw [hclusters, Table.get?_insert, if_neg hne]
  refine ⟨sound, counted, fun {other found} h => ?_, fun {home position slot} h => ?_,
    fun {home position slot} h => ?_, fun {other found} h => ?_⟩
  · by_cases hne : other = id
    · exact hne ▸ numbered
    · exact kept.numbered (others hne ▸ h)
  · exact kept.placed (hslots home position ▸ h)
  · rw [hslots] at h
    rw [others (unused.owners h)]
    exact kept.owned h
  · by_cases hne : other = id
    · rw [hne, hclusters, Table.get?_insert_self] at h
      cases h
      exact root
    · rw [others hne] at h
      rw [others fun hroot => hne (unused.roots h hroot)]
      exact kept.storage h

/-- A slot of a cluster of the container. -/
theorem Kept.putSlot (kept : contents.Kept) {slot : Slot} {root owner : Listing} {cluster : Int16}
    {position : Int64} (placed : 0 ≤ position)
    (listed : contents.clusters.get? cluster = some root)
    (owned : contents.clusters.get? slot.owner = some owner) (same : owner.home = root.home) :
    (contents.putSlot root.home position slot).Kept := by
  have hhome := kept.sound.housed listed
  refine ⟨kept.sound.putSlot hhome _ _,
    kept.counted.changeContainer hhome fun _ counted => counted.put _ _, kept.numbered,
    fun {home place found} h => ?_, fun {home place found} h => ?_, kept.storage⟩
  · rw [slot?_putSlot _ hhome] at h
    split at h
    · rename_i hat
      exact hat.2 ▸ placed
    · exact kept.placed h
  · rw [slot?_putSlot _ hhome] at h
    split at h
    · rename_i hat
      cases h
      exact ⟨owner, owned, same.trans hat.1.symm⟩
    · exact kept.owned h

theorem Kept.removeSlot (kept : contents.Kept) {home : Nat}
    (hhome : home < contents.containers.length) (position : Int64) :
    (contents.removeSlot home position).Kept := by
  have hslot {other : Nat} {place : Int64} {slot : Slot}
      (h : (contents.removeSlot home position).slot? other place = some slot) :
      contents.slot? other place = some slot := by
    rw [slot?_removeSlot _ hhome] at h
    split at h
    · cases h
    · exact h
  exact ⟨kept.sound.removeSlot hhome _,
    kept.counted.changeContainer hhome fun _ counted => counted.remove _, kept.numbered,
    fun h => kept.placed (hslot h), fun h => kept.owned (hslot h), kept.storage⟩

/-- The contents take an entry that they are ready for and stay in good order. -/
theorem Kept.apply (kept : contents.Kept) (meets : contents.Meets entry) :
    ∃ after, contents.apply entry = .ok after ∧ after.Kept := by
  cases meets with
  | @physical id name file size numbered unused =>
    have happly : contents.apply (.clusterAdded ⟨id, name, .physical file size⟩) =
        .ok (contents.listWithContainer ⟨id, name, .physical file size⟩) := rfl
    exact ⟨_, happly, kept.insert (kept.sound.apply happly) (kept.counted.apply kept.sound happly)
      rfl (slot?_listWithContainer contents _) numbered unused
      ⟨_, Table.get?_insert_self _ _ _, rfl⟩⟩
  | @logical id name container descriptor root numbered unused other listed =>
    have happly : contents.apply (.clusterAdded ⟨id, name, .logical container descriptor⟩) =
        .ok (contents.list ⟨id, name, .logical container descriptor⟩ root.home) := by
      simp only [Contents.apply, addCluster, listed]
    refine ⟨_, happly, kept.insert (kept.sound.apply happly) (kept.counted.apply kept.sound happly)
      rfl (fun _ _ => rfl) numbered unused ⟨root, ?_, rfl⟩⟩
    show (contents.clusters.insert id _).get? container = some root
    rw [Table.get?_insert, if_neg other]
    exact listed
  | put placed listed owned same =>
    refine ⟨_, ?_, kept.putSlot placed listed owned same⟩
    simp only [Contents.apply, listed]
  | removed place =>
    simp only [Contents.apply]
    split
    · rename_i listing hlisted
      exact ⟨_, rfl, kept.removeSlot (kept.sound.housed hlisted) _⟩
    · exact ⟨_, rfl, kept⟩
  | bound key id =>
    have happly : contents.apply (.keyBound key id) = .ok (contents.bindKey key id) := rfl
    exact ⟨_, happly, kept.sound.apply happly, kept.counted, kept.numbered, kept.placed, kept.owned, kept.storage⟩
  | freed key =>
    have happly : contents.apply (.keyRemoved key) = .ok (contents.removeKey key) := rfl
    exact ⟨_, happly, kept.sound.apply happly, kept.counted, kept.numbered, kept.placed, kept.owned, kept.storage⟩

/-! ## What a log tells beyond its store -/

/-- What a log gives has the clusters of its store, and none that the store lacks owns a slot or is
the container of another. -/
structure Within (live replayed : Contents) : Prop where
  listed : ∀ {id listing}, live.clusters.get? id = some listing →
    ∃ found, replayed.clusters.get? id = some found ∧ found.cluster = listing.cluster
  owners : ∀ {home position slot}, replayed.slot? home position = some slot →
    ∃ listing, live.clusters.get? slot.owner = some listing
  roots : ∀ {id listing}, replayed.clusters.get? id = some listing →
    listing.cluster.storage = id ∨
      ∃ root, live.clusters.get? listing.cluster.storage = some root

theorem Within.refl (kept : contents.Kept) : contents.Within contents where
  listed h := ⟨_, h, rfl⟩
  owners h := by
    obtain ⟨listing, hlisted, -⟩ := kept.owned h
    exact ⟨listing, hlisted⟩
  roots h := by
    obtain ⟨root, hroot, -⟩ := kept.storage h
    exact .inr ⟨root, hroot⟩

/-- An id that is free in the store. -/
theorem Within.unused (within : live.Within replayed) {id : Int16}
    (fresh : live.clusters.get? id = none) : replayed.Unused id where
  owners h := by
    rintro rfl
    obtain ⟨listing, hlisted⟩ := within.owners h
    rw [fresh] at hlisted
    cases hlisted
  roots h hroot := by
    rcases within.roots h with hown | ⟨root, hlisted⟩
    · exact hown.symm.trans hroot
    · rw [hroot, fresh] at hlisted
      cases hlisted

/-- A deed of a run: it fits, and has valid numbers if all there are so far are valid. -/
structure Keeps (contents : Contents) (deed : Deed) : Prop where
  fits : contents.Fits deed
  numbered : contents.Numbered → deed.after.Numbered
  placed : ∀ {place slot}, deed.entry = .recordPut place slot → 0 ≤ place.position

/-- The place of a slot that a cluster of the store writes. -/
theorem Within.place (within : live.Within replayed) (kept : replayed.Kept) {listing : Listing}
    (listed : live.clusters.get? listing.cluster.id = some listing) :
    ∃ root owner, replayed.clusters.get? listing.cluster.storage = some root ∧
      replayed.clusters.get? listing.cluster.id = some owner ∧ owner.home = root.home := by
  obtain ⟨owner, howner, hcluster⟩ := within.listed listed
  obtain ⟨root, hroot, hhome⟩ := kept.storage howner
  rw [hcluster] at hroot
  exact ⟨root, owner, hroot, howner, hhome.symm⟩

/-- What the log gives is ready for every entry of a deed that the store tries. -/
theorem Within.meets (within : live.Within replayed) (kept : replayed.Kept)
    (numbered : live.Numbered) (keeps : live.Keeps deed) : replayed.Meets deed.entry := by
  have hnumbered : deed.after.Numbered := keeps.numbered numbered
  have hplaced := @keeps.placed
  cases keeps.fits with
  | put tally admits owner =>
    obtain ⟨root, owned, hroot, howned, hhome⟩ := within.place kept admits.listed
    exact .put (hplaced rfl) hroot (owner ▸ howned) hhome
  | announce listed free owner =>
    obtain ⟨root, owned, hroot, howned, hhome⟩ := within.place kept listed
    exact .put (hplaced rfl) hroot (owner ▸ howned) hhome
  | free tally admits => exact .removed _
  | @listPhysical id name file size fresh =>
    exact .physical (hnumbered (Table.get?_insert_self _ _ _)) (within.unused fresh)
  | @listLogical id name container descriptor listing listed fresh =>
    obtain ⟨root, hroot, -⟩ := within.listed listed
    refine .logical (hnumbered (Table.get?_insert_self _ _ _)) (within.unused fresh) ?_ hroot
    rintro rfl
    rw [fresh] at listed
    cases listed
  | bind => exact .bound _ _
  | unbind => exact .freed _

/-- The change of a deed keeps the store in good order. -/
theorem Keeps.kept (keeps : contents.Keeps deed) (kept : contents.Kept) : deed.after.Kept := by
  obtain ⟨_, happly, hkept⟩ :=
    kept.apply ((Within.refl kept).meets kept kept.numbered keeps)
  rw [keeps.fits.apply kept.rooted] at happly
  cases happly
  exact hkept

/-- A cluster that only the log lists. -/
theorem Within.insert (within : live.Within replayed) {id : Int16} {found : Listing}
    (fresh : live.clusters.get? id = none)
    (hclusters : after.clusters = replayed.clusters.insert id found)
    (hslots : ∀ home position, after.slot? home position = replayed.slot? home position)
    (root : found.cluster.storage = id ∨
      ∃ root, live.clusters.get? found.cluster.storage = some root) : live.Within after := by
  refine ⟨fun {other listing} h => ?_, fun {home position slot} h => ?_, fun {other listing} h => ?_⟩
  · have hne : other ≠ id := by
      rintro rfl
      rw [fresh] at h
      cases h
    rw [hclusters, Table.get?_insert, if_neg hne]
    exact within.listed h
  · exact within.owners (hslots home position ▸ h)
  · rw [hclusters, Table.get?_insert] at h
    split at h
    · rename_i he
      cases h
      exact he ▸ root
    · exact within.roots h

/-- The entry of a deed is in the log, whether its change is made or not. -/
theorem Within.phantom (within : live.Within replayed) (sound : replayed.Sound)
    (fits : live.Fits deed) (happly : replayed.apply deed.entry = .ok after) :
    live.Within after := by
  have put {listing : Listing} {position : Int64} {slot : Slot}
      (listed : live.clusters.get? listing.cluster.id = some listing)
      (owner : slot.owner = listing.cluster.id)
      (h : replayed.apply (.recordPut ⟨listing.cluster.storage, position⟩ slot) = .ok after) :
      live.Within after := by
    simp only [Contents.apply] at h
    split at h
    · rename_i root hroot
      cases h
      refine ⟨within.listed, fun {home place found} h => ?_, within.roots⟩
      rw [slot?_putSlot _ (sound.housed hroot)] at h
      split at h
      · cases h
        exact ⟨listing, owner ▸ listed⟩
      · exact within.owners h
    · cases h
  cases fits with
  | put tally admits owner => exact put admits.listed owner happly
  | announce listed free owner => exact put listed owner happly
  | free tally admits =>
    simp only [Deed.free, Contents.apply] at happly
    split at happly
    · rename_i root hroot
      cases happly
      refine ⟨within.listed, fun {home place found} h => ?_, within.roots⟩
      rw [slot?_removeSlot _ (sound.housed hroot)] at h
      split at h
      · cases h
      · exact within.owners h
    · cases happly
      exact within
  | listPhysical fresh =>
    cases happly
    exact within.insert fresh rfl (slot?_listWithContainer replayed _) (.inl rfl)
  | listLogical listed fresh =>
    simp only [Deed.listLogical, Contents.apply, addCluster] at happly
    split at happly
    · cases happly
      exact within.insert fresh rfl (fun _ _ => rfl) (.inr ⟨_, listed⟩)
    · cases happly
  | bind | unbind =>
    cases happly
    exact ⟨within.listed, within.owners, within.roots⟩

/-- The change is made, too. -/
theorem Within.done (within : live.Within after) (fits : live.Fits deed)
    (happly : replayed.apply deed.entry = .ok after) : deed.after.Within after where
  listed {id listing} h := by
    have insert {cluster : Cluster} {home other : Nat}
        (hafter : after.clusters = replayed.clusters.insert cluster.id ⟨cluster, other⟩)
        (h : (live.clusters.insert cluster.id ⟨cluster, home⟩).get? id = some listing) :
        ∃ found, after.clusters.get? id = some found ∧ found.cluster = listing.cluster := by
      rw [Table.get?_insert] at h
      split at h
      · rename_i he
        cases h
        exact ⟨⟨cluster, other⟩, by rw [hafter, he, Table.get?_insert_self], rfl⟩
      · exact within.listed h
    cases fits with
    | put | announce | free | bind | unbind => exact within.listed h
    | listPhysical fresh =>
      cases happly
      exact insert rfl h
    | listLogical listed fresh =>
      simp only [Deed.listLogical, Contents.apply, addCluster] at happly
      split at happly
      · cases happly
        exact insert rfl h
      · cases happly
  owners h := by
    obtain ⟨listing, hlisted⟩ := within.owners h
    exact ⟨listing, fits.listed hlisted⟩
  roots h := (within.roots h).imp_right fun ⟨root, hroot⟩ => ⟨root, fits.listed hroot⟩

end RecordBase.Contents
