import RecordBase.Proofs.Record.Identity
import RecordBase.Proofs.Store.Undo

/-!
# The cache tells the truth

A cache is coherent with what a store holds if every record in it is the one stored under its
identity, and stands under the text of that identity (`Cache.Coherent`). Whatever happens to a store
keeps its cache coherent (`Law.coherent`), whichever record an eviction removes, because every write
notes for the cache just what it does to the records. Reading from a coherent cache gives what
reading past it gives (`Store.read_eq_readUncached`).
-/

namespace RecordBase

namespace Cache

variable {cache : Cache} {key other : String} {record found : Record}

@[simp] theorem capacity_evict (cache : Cache) : cache.evict.capacity = cache.capacity := by
  unfold evict
  split <;> rfl

@[simp] theorem capacity_makeRoom (cache : Cache) (key : String) :
    (cache.makeRoom key).capacity = cache.capacity := by
  unfold makeRoom
  split
  · exact capacity_evict cache
  · rfl

@[simp] theorem capacity_insert (cache : Cache) (key : String) (record : Record) :
    (cache.insert key record).capacity = cache.capacity := by
  unfold insert
  split
  · rfl
  · exact capacity_makeRoom cache key

theorem get?_erase (cache : Cache) (key other : String) :
    (cache.erase key).get? other = if other = key then none else cache.get? other :=
  Table.get?_erase cache.entries key other

/-- An eviction adds nothing. -/
theorem get?_of_evict (h : cache.evict.get? key = some found) : cache.get? key = some found := by
  unfold evict at h
  split at h
  · rename_i victim _
    rw [get?, Table.get?_erase] at h
    split at h
    · cases h
    · exact h
  · exact h

theorem get?_of_makeRoom (h : (cache.makeRoom other).get? key = some found) :
    cache.get? key = some found := by
  unfold makeRoom at h
  split at h
  · exact get?_of_evict h
  · exact h

/-- What is cached after an insertion is the record inserted, or was cached under another key. -/
theorem get?_of_insert (hcapacity : cache.capacity ≠ 0)
    (h : (cache.insert key record).get? other = some found) :
    other = key ∧ found = record ∨ other ≠ key ∧ cache.get? other = some found := by
  simp only [insert, if_neg hcapacity, get?, Table.get?_insert] at h
  split at h
  · rename_i he
    cases h
    exact .inl ⟨he, rfl⟩
  · rename_i hne
    exact .inr ⟨hne, get?_of_makeRoom h⟩

/-- The records in the cache are those stored, each under the text of its identity, and a cache
without room is empty. -/
structure Coherent (cache : Cache) (contents : Contents) : Prop where
  keyed : ∀ {key record}, cache.get? key = some record → key = record.key
  stored : ∀ {key record}, cache.get? key = some record →
    contents.record? record.id = some record
  empty : cache.capacity = 0 → ∀ key, cache.get? key = none

variable {contents after : Contents}

theorem Coherent.insert (coherent : cache.Coherent contents)
    (h : ∀ id, after.record? id = if id = record.id then some record else contents.record? id) :
    (cache.insert record.key record).Coherent after := by
  by_cases hcapacity : cache.capacity = 0
  · have hsame : cache.insert record.key record = cache := by rw [Cache.insert, if_pos hcapacity]
    rw [hsame]
    have hnone := coherent.empty hcapacity
    exact
      { keyed := fun {key _} hget => by simp [hnone key] at hget
        stored := fun {key _} hget => by simp [hnone key] at hget
        empty := fun _ => hnone }
  · refine ⟨fun hget => ?_, fun {key found} hget => ?_, fun hzero => ?_⟩
    · rcases get?_of_insert hcapacity hget with ⟨rfl, rfl⟩ | ⟨-, hold⟩
      · rfl
      · exact coherent.keyed hold
    · rcases get?_of_insert hcapacity hget with ⟨-, rfl⟩ | ⟨hne, hold⟩
      · rw [h, if_pos rfl]
      · have hid : found.id ≠ record.id := fun he =>
          hne ((coherent.keyed hold).trans (congrArg RecordId.text he))
        rw [h, if_neg hid]
        exact coherent.stored hold
    · rw [capacity_insert] at hzero
      exact absurd hzero hcapacity

theorem Coherent.erase {id : RecordId} (coherent : cache.Coherent contents)
    (h : ∀ other, after.record? other = if other = id then none else contents.record? other) :
    (cache.erase id.text).Coherent after := by
  refine ⟨fun {key found} hget => ?_, fun {key found} hget => ?_, fun hzero key => ?_⟩
  · rw [get?_erase] at hget
    split at hget
    · cases hget
    · exact coherent.keyed hget
  · rw [get?_erase] at hget
    split at hget
    · cases hget
    · rename_i hne
      have hid : found.id ≠ id := fun he =>
        hne ((coherent.keyed hget).trans (congrArg RecordId.text he))
      rw [h, if_neg hid]
      exact coherent.stored hget
  · rw [get?_erase]
    split
    · rfl
    · exact coherent.empty hzero key

theorem Coherent.mono (coherent : cache.Coherent contents)
    (h : ∀ id record, contents.record? id = some record → after.record? id = some record) :
    cache.Coherent after :=
  ⟨coherent.keyed, fun hget => h _ _ (coherent.stored hget), coherent.empty⟩

theorem Coherent.of_entries_empty (contents : Contents) (h : cache.entries = Table.empty) :
    cache.Coherent contents := by
  have hnone : ∀ key, cache.get? key = none := fun key => by
    rw [get?, h]
    rfl
  exact
    { keyed := fun {key _} hget => by simp [hnone key] at hget
      stored := fun {key _} hget => by simp [hnone key] at hget
      empty := fun _ => hnone }

end Cache

namespace Store

/-- The cache of a store, if it has one, tells what the store holds. -/
def Coherent (store : Store) : Prop := ∀ cache ∈ store.cache, cache.Coherent store.contents

variable {store : Store}

theorem Coherent.idle {after : Store} (coherent : store.Coherent) (h : store.Idle after) :
    after.Coherent := by
  intro cache hcache
  rw [h.contents]
  rw [Option.mem_def] at hcache
  have hrefreshes := h.cache
  rw [hcache] at hrefreshes
  generalize hbefore : store.cache = before at hrefreshes
  have hcoherent : ∀ cache ∈ before, cache.Coherent store.contents := hbefore ▸ coherent
  cases before with
  | none => cases hrefreshes
  | some own =>
    have hown := hcoherent own rfl
    cases hrefreshes with
    | same => exact hown
    | noted stored =>
      refine hown.insert fun id => ?_
      split
      · rename_i he
        rw [he, stored]
      · rfl
    | cleared => exact .of_entries_empty _ rfl

theorem Coherent.done {deed : Deed} {journal : Journal} (coherent : store.Coherent)
    (tells : deed.note.Tells store.contents deed.after) : (store.done deed journal).Coherent := by
  intro cache hcache
  rw [contents_done]
  obtain ⟨entry, after, note, tally⟩ := deed
  cases note with
  | keep => exact (coherent cache hcache).mono tells
  | put record =>
    obtain ⟨own, hown, rfl⟩ := Option.map_eq_some_iff.1 hcache
    exact (coherent own hown).insert tells
  | erase id =>
    obtain ⟨own, hown, rfl⟩ := Option.map_eq_some_iff.1 hcache
    exact (coherent own hown).erase tells

/-- Whatever happens to a store keeps its cache coherent. -/
theorem Law.coherent : Law Contents.Fits fun a b =>
    a.contents.Sound → b.contents.Sound ∧ (a.Coherent → b.Coherent) where
  trans h₁ h₂ sound := by
    obtain ⟨sound', hcoherent⟩ := h₁ sound
    obtain ⟨sound'', hcoherent'⟩ := h₂ sound'
    exact ⟨sound'', fun h => hcoherent' (hcoherent h)⟩
  idle h sound := by
    refine ⟨?_, fun coherent => coherent.idle h⟩
    rw [h.contents]
    exact sound
  tries h sound := by
    cases h with
    | refused _ _ => exact ⟨sound, id⟩
    | written fits _ =>
      refine ⟨?_, fun coherent => coherent.done (fits.tells sound)⟩
      rw [contents_done]
      exact fits.sound sound

/-! ## Reading -/

/-- Reading past the cache gives what stands under the identity, if its cluster is listed. -/
theorem readUncached_eq_record? {id : RecordId} {listing : Listing} (hvalid : id.isValid = true)
    (hlisted : store.contents.clusters.get? id.cluster = some listing) :
    (store.readUncached id).1 = .ok (store.contents.record? id) := by
  simp only [readUncached, hvalid, Bool.not_true, Bool.false_eq_true, if_false,
    listing_of_clusters hlisted, stored?_eq_record? hlisted]

theorem readUncached_of_record? {id : RecordId} {record : Record} (hvalid : id.isValid = true)
    (h : store.contents.record? id = some record) :
    (store.readUncached id).1 = .ok (some record) := by
  cases hlisted : store.contents.clusters.get? id.cluster with
  | none =>
    rw [Contents.record?_of_unlisted hlisted] at h
    cases h
  | some listing => rw [readUncached_eq_record? hvalid hlisted, h]

theorem readUncached_eq_some_iff {id : RecordId} {record : Record} :
    (store.readUncached id).1 = .ok (some record) ↔
      id.isValid = true ∧ store.contents.record? id = some record := by
  constructor
  · intro h
    unfold readUncached at h
    split at h
    · cases h
    · rename_i hvalid
      split at h
      · cases h
      · rename_i hlisting
        rw [← stored?_eq_record? (clusters_of_listing hlisting)]
        exact ⟨by simpa using hvalid, Except.ok.inj h⟩
  · rintro ⟨hvalid, h⟩
    exact readUncached_of_record? hvalid h

theorem readThrough_fst (store : Store) (id : RecordId) :
    (store.readThrough id).1 = (store.readUncached id).1 := by
  unfold readThrough
  split
  · rename_i h
    rw [h]
  · rfl

theorem readUncached_stats (store : Store) (stats : Stats) (id : RecordId) :
    ({ store with stats }.readUncached id).1 = (store.readUncached id).1 := by
  unfold readUncached
  split
  · rfl
  · simp only [Store.listing, stored?]
    split <;> rfl

/-- Reading with a coherent cache gives what reading past it gives. -/
theorem read_eq_readUncached (coherent : store.Coherent) (id : RecordId) :
    (store.read id).1 = (store.readUncached id).1 := by
  unfold read
  split
  · rename_i hinvalid
    simp only [readUncached, hinvalid, if_true]
  · rename_i hvalid
    split
    · exact store.readThrough_fst id
    · rename_i cache hcache
      split
      · rename_i record hget
        have hown := coherent cache hcache
        have hid : record.id = id := RecordId.text_injective (hown.keyed hget).symm
        have hstored := hown.stored hget
        rw [hid] at hstored
        exact (readUncached_of_record? (by simpa using hvalid) hstored).symm
      · exact (readThrough_fst _ id).trans (store.readUncached_stats _ id)

end Store

end RecordBase
