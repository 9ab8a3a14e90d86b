import RecordBase.Proofs.Store.Coherence
import RecordBase.Proofs.Store.Kept

/-!
# What a scan lists

The records of a cluster (`Contents.recordsOf`) are what a scan lists. While the contents are in good
order they stand by increasing position (`recordsOf_increasing`), are those that a read of an
identity of the cluster finds (`Kept.mem_recordsOf_iff`), and are as many as their cluster has counted
(`Kept.count_eq_length`).
-/

namespace RecordBase

namespace Contents

/-- The records of a cluster, by increasing position. -/
def recordsOf (contents : Contents) (listing : Listing) : List Record :=
  ((contents.container listing.home).ownedBy listing.cluster.id).map fun entry =>
    entry.2.record ⟨listing.cluster.id, entry.1⟩

variable {contents : Contents} {listing : Listing} {cluster : Int16}

theorem recordsOf_increasing (contents : Contents) (listing : Listing) :
    (contents.recordsOf listing).Pairwise fun a b => a.id.position < b.id.position := by
  refine List.pairwise_map.2 (List.Pairwise.imp ?_
    ((contents.container listing.home).slots.increasing.filter _))
  intro a b hlt
  exact Std.compare_eq_lt.1 hlt

/-- A scan lists just the records that stand under identities of the cluster. -/
theorem Kept.mem_recordsOf_iff (kept : contents.Kept)
    (listed : contents.clusters.get? cluster = some listing) {record : Record} :
    record ∈ contents.recordsOf listing ↔
      record.id.cluster = cluster ∧ contents.record? record.id = some record := by
  have hkey := kept.sound.keyed listed
  constructor
  · intro h
    obtain ⟨⟨position, slot⟩, hentry, rfl⟩ := List.mem_map.1 h
    obtain ⟨hmem, howner⟩ := List.mem_filter.1 hentry
    have hslot : contents.slot? listing.home position = some slot := Table.mem_entries_iff.1 hmem
    refine ⟨hkey, ?_⟩
    show contents.record? ⟨listing.cluster.id, position⟩ = _
    rw [record?_of_keyed kept.sound (hkey.symm ▸ listed), hslot, Option.filter_some, if_pos howner]
    rfl
  · rintro ⟨rfl, h⟩
    rw [record?_of_keyed kept.sound listed] at h
    obtain ⟨slot, hslot, hrecord⟩ := Option.map_eq_some_iff.1 h
    obtain ⟨hslot, howner⟩ := Option.filter_eq_some_iff.1 hslot
    have hid : (⟨listing.cluster.id, record.id.position⟩ : RecordId) = record.id := by rw [hkey]
    refine List.mem_map.2 ⟨(record.id.position, slot), List.mem_filter.2
      ⟨Table.mem_entries_iff.2 hslot, ?_⟩, ?_⟩
    · rw [hkey]
      exact howner
    · rw [hid]
      exact hrecord

/-- Every record stands under an identity that a stored record can have. -/
theorem Kept.isValid (kept : contents.Kept) {id : RecordId} {record : Record}
    (h : contents.record? id = some record) : id.isValid = true := by
  cases hlisted : contents.clusters.get? id.cluster with
  | none =>
    rw [record?_of_unlisted hlisted] at h
    cases h
  | some listing =>
    rw [record?_of_keyed kept.sound hlisted] at h
    obtain ⟨slot, hslot, -⟩ := Option.map_eq_some_iff.1 h
    have hplaced := kept.placed (Option.filter_eq_some_iff.1 hslot).1
    have hnumbered := kept.numbered hlisted
    simp only [RecordId.isValid, hnumbered, hplaced, decide_true, Bool.and_self]

theorem Kept.count_eq_length (kept : contents.Kept) (listing : Listing) :
    contents.count listing.home listing.cluster.id = (contents.recordsOf listing).length := by
  rw [recordsOf, List.length_map]
  exact kept.counted listing.home listing.cluster.id

end Contents

namespace Store

variable {store : Store} {cluster : Int16} {listing : Listing} {records : List Record}

theorem scan_of_listed (listed : store.contents.clusters.get? cluster = some listing) :
    store.scan cluster = .ok (store.contents.recordsOf listing) := by
  simp only [scan, listing_of_clusters listed]
  rfl

theorem listed_of_scan (h : store.scan cluster = .ok records) :
    ∃ listing, store.contents.clusters.get? cluster = some listing ∧
      records = store.contents.recordsOf listing := by
  unfold scan at h
  split at h
  · cases h
  · rename_i listing hlisting
    have listed := clusters_of_listing hlisting
    exact ⟨listing, listed, (Except.ok.inj h).symm⟩

/-- The count of some clusters is the sum of the lengths of their scans. -/
theorem count_of_scans (kept : store.contents.Kept) {parts : List (Int16 × List Record)}
    (scans : ∀ part ∈ parts, store.scan part.1 = .ok part.2) :
    store.count (parts.map (·.1)) =
      .ok (parts.foldr (fun part sum => (part.2.length : Int) + sum) 0) := by
  induction parts with
  | nil => rfl
  | cons part rest ih =>
    obtain ⟨hpart, hrest⟩ := List.forall_mem_cons.1 scans
    obtain ⟨listing, listed, hrecords⟩ := listed_of_scan hpart
    have hcount := kept.count_eq_length listing
    rw [← hrecords] at hcount
    simp only [List.map_cons, count, listing_of_clusters listed, ih hrest, List.foldr_cons, ← hcount]
    rfl

/-- The count of a cluster is the length of its scan. -/
theorem count_of_scan (kept : store.contents.Kept) (h : store.scan cluster = .ok records) :
    store.count [cluster] = .ok (records.length : Int) := by
  have hcount := count_of_scans kept (List.forall_mem_singleton.2 h : ∀ part ∈ [(cluster, records)],
    store.scan part.1 = .ok part.2)
  simpa using hcount

/-- What a read finds in a store in good order. -/
theorem readUncached_eq_some_iff_of_kept (kept : store.contents.Kept) {id : RecordId}
    {record : Record} :
    (store.readUncached id).1 = .ok (some record) ↔ store.contents.record? id = some record :=
  readUncached_eq_some_iff.trans ⟨And.right, fun h => ⟨kept.isValid h, h⟩⟩

end Store

end RecordBase
