import RecordBase.Proofs.Store.Coherence

/-!
# What a cache holds

The calls alone tell which record is the latest under a key (`Cache.latest`): that of the last insertion,
unless the key was removed or the cache cleared after it. A cache may have less, but nothing else.

* `exists_inserted`: an insertion evicts one other record at most, and only one that it needs the room of;
* `exists_evict_eq_erase`: that may be any record of the cache;
* `Fresh.run`: a call keeps a cache within its capacity, and each record in it the latest;
* `holds_latest_within_capacity`: so do calls one after another.
-/

namespace RecordBase.Cache

/-! ## Calls -/

/-- A call on a cache. -/
inductive Call where
  | insert (key : String) (record : Record)
  | get (key : String)
  | remove (key : String)
  | clear
  deriving DecidableEq, Repr

/-- The record that a call returns, if any, and the cache after it. -/
def Call.run (cache : Cache) : Call → Option Record × Cache
  | insert key record => (none, cache.insert key record)
  | get key => (cache.get? key, cache)
  | remove key => (cache.get? key, cache.erase key)
  | clear => (none, cache.clear)

/-- The cache after some calls. -/
def runAll (cache : Cache) (calls : List Call) : Cache :=
  calls.foldl (fun cache call => (call.run cache).2) cache

/-- The latest record under a key after a call, given the latest before. -/
def Call.latest (key : String) (last : Option Record) : Call → Option Record
  | insert other record => if key = other then some record else last
  | get _ => last
  | remove other => if key = other then none else last
  | clear => none

/-- The latest record that some calls put under a key and did not take away again. -/
def latest (key : String) (calls : List Call) : Option Record := calls.foldl (Call.latest key) none

/-! ## Evictions -/

variable {cache : Cache} {key : String} {record : Record}

/-- An eviction takes a record away that was there. -/
theorem exists_evicted (h : cache.size ≠ 0) :
    ∃ victim, cache.get? victim ≠ none ∧ cache.evict.entries = cache.entries.erase victim := by
  have hplace := Nat.mod_lt (cache.victims cache.evictions) (Nat.pos_of_ne_zero h)
  unfold evict
  split
  · rename_i victim hvictim
    obtain ⟨⟨_, found⟩, hmem, rfl⟩ := List.mem_map.1 (List.mem_of_getElem? hvictim)
    refine ⟨_, ?_, rfl⟩
    rw [get?, Table.mem_entries_iff.1 hmem]
    exact Option.some_ne_none found
  · rename_i hnone
    rw [List.getElem?_eq_none_iff, Table.keys, List.length_map] at hnone
    exact absurd hplace (Nat.not_lt.2 hnone)

/-- Which record an eviction takes away is open: for each there is a choice. -/
theorem exists_evict_eq_erase (h : cache.get? key = some record) :
    ∃ place, ({ cache with victims := fun _ => place } : Cache).evict.entries =
      cache.entries.erase key := by
  obtain ⟨place, hplace, hentry⟩ := List.mem_iff_getElem.1 (Table.mem_entries_iff.2 h)
  have hmod : place % cache.entries.size = place := Nat.mod_eq_of_lt hplace
  have hkey : cache.entries.keys[place]? = some key := by
    rw [Table.keys, List.getElem?_map, List.getElem?_eq_getElem hplace, hentry]
    rfl
  refine ⟨place, ?_⟩
  simp only [evict, hmod, hkey]

theorem needsRoom_iff :
    (cache.capacity ≤ cache.entries.size && !cache.entries.contains key) = true ↔
      cache.capacity ≤ cache.size ∧ cache.get? key = none := by
  rw [Bool.and_eq_true, decide_eq_true_iff, Bool.not_eq_true', Table.contains,
    Option.isSome_eq_false_iff, Option.isNone_iff_eq_none, size, get?]

theorem makeRoom_of_fits (h : cache.get? key ≠ none ∨ cache.size < cache.capacity) :
    cache.makeRoom key = cache := by
  refine if_neg fun hneeds => ?_
  obtain ⟨hfull, hnew⟩ := needsRoom_iff.1 hneeds
  exact h.elim (absurd hnew) (Nat.not_lt.2 hfull)

/-- A new key in a full cache takes the place of a record. -/
theorem exists_makeRoom (hcapacity : cache.capacity ≠ 0) (hnew : cache.get? key = none)
    (hfull : cache.capacity ≤ cache.size) :
    ∃ victim, cache.get? victim ≠ none ∧
      (cache.makeRoom key).entries = cache.entries.erase victim := by
  have hmake : cache.makeRoom key = cache.evict := if_pos (needsRoom_iff.2 ⟨hfull, hnew⟩)
  rw [hmake]
  exact exists_evicted (Nat.ne_of_gt (Nat.lt_of_lt_of_le (Nat.pos_of_ne_zero hcapacity) hfull))

/-! ## Insertions -/

/-- What an insertion makes of a cache, with the key of the record that it evicts, if it evicts one. -/
structure Inserted (cache : Cache) (key : String) (record : Record) (evicted : Option String)
    (next : Cache) : Prop where
  /-- The record stands under its key, and all others but the evicted one where they stood. -/
  get?_eq : ∀ other, next.get? other =
    if other = key then some record else if evicted = some other then none else cache.get? other
  /-- What is evicted was there. -/
  was_there : ∀ victim, evicted = some victim → cache.get? victim ≠ none
  /-- Nothing is evicted without need. -/
  needed : cache.get? key ≠ none ∨ cache.size < cache.capacity → evicted = none
  size_le : cache.size ≤ cache.capacity → next.size ≤ cache.capacity

section Insertions

variable (hcapacity : cache.capacity ≠ 0) (key : String) (record : Record)

include hcapacity

theorem entries_insert : (cache.insert key record).entries = (cache.makeRoom key).entries.insert key record := by
  rw [insert, if_neg hcapacity]

theorem get?_insert (other : String) : (cache.insert key record).get? other =
    if other = key then some record else (cache.makeRoom key).get? other := by
  rw [get?, entries_insert hcapacity, Table.get?_insert, get?]

theorem size_insert : (cache.insert key record).size + ((cache.makeRoom key).get? key).toList.length =
    (cache.makeRoom key).size + 1 := by
  rw [size, entries_insert hcapacity]
  exact Table.size_insert (cache.makeRoom key).entries key record

theorem inserted_of_fits (hfits : cache.get? key ≠ none ∨ cache.size < cache.capacity) :
    Inserted cache key record none (cache.insert key record) := by
  have hget := get?_insert hcapacity key record
  have hsize := size_insert hcapacity key record
  rw [makeRoom_of_fits hfits] at hget hsize
  refine ⟨fun other => ?_, fun _ h => (by cases h), fun _ => rfl, fun hwithin => ?_⟩
  · rw [hget, if_neg (Option.some_ne_none other).symm]
  · rcases hfits with hresident | hroom
    · obtain ⟨found, hfound⟩ := Option.ne_none_iff_exists'.1 hresident
      rw [hfound, Option.toList_some, List.length_singleton] at hsize
      omega
    · omega

theorem exists_inserted_of_full (hnew : cache.get? key = none) (hfull : cache.capacity ≤ cache.size) :
    ∃ victim, Inserted cache key record (some victim) (cache.insert key record) := by
  obtain ⟨victim, hvictim, hmake⟩ := exists_makeRoom hcapacity hnew hfull
  have hroom (other : String) : (cache.makeRoom key).get? other =
      if other = victim then none else cache.get? other := by
    rw [get?, hmake, Table.get?_erase, get?]
  have hfree : (cache.makeRoom key).get? key = none := by rw [hroom, hnew, ite_self]
  have hsize := size_insert hcapacity key record
  rw [hfree, Option.toList_none, List.length_nil] at hsize
  have hless := Table.size_erase cache.entries victim
  obtain ⟨found, hfound⟩ := Option.ne_none_iff_exists'.1 hvictim
  rw [← hmake, ← get?, hfound, Option.toList_some, List.length_singleton] at hless
  refine ⟨victim, fun other => ?_, fun _ h => ?_, fun hfits => ?_, fun hwithin => ?_⟩
  · simp only [get?_insert hcapacity, hroom, Option.some.injEq, eq_comm]
  · cases h
    exact hvictim
  · exact absurd hfits (not_or.2 ⟨absurd hnew, Nat.not_lt.2 hfull⟩)
  · simp only [size] at hsize hwithin ⊢
    omega

theorem exists_inserted :
    ∃ evicted, Inserted cache key record evicted (cache.insert key record) := by
  by_cases hfits : cache.get? key ≠ none ∨ cache.size < cache.capacity
  · exact ⟨none, inserted_of_fits hcapacity key record hfits⟩
  · obtain ⟨hnew, hfull⟩ := not_or.1 hfits
    obtain ⟨victim, hinserted⟩ := exists_inserted_of_full hcapacity key record
      (Classical.not_not.1 hnew) (Nat.not_lt.1 hfull)
    exact ⟨some victim, hinserted⟩

end Insertions

/-! ## The latest records -/

/-- A cache within its capacity all of whose records are known. -/
structure Fresh (cache : Cache) (known : String → Option Record) : Prop where
  size_le : cache.size ≤ cache.capacity
  known : ∀ {key record}, cache.get? key = some record → known key = some record

theorem Fresh.insert {known : String → Option Record} (h : Fresh cache known) (key : String)
    (record : Record) :
    Fresh (cache.insert key record) fun other => if other = key then some record else known other := by
  by_cases hcapacity : cache.capacity = 0
  · have hsame : cache.insert key record = cache := if_pos hcapacity
    have hempty (other : String) : cache.get? other = none := by
      cases hother : cache.get? other with
      | none => rfl
      | some found => exact absurd (Nat.le_zero.1 (hcapacity ▸ h.size_le)) (Table.size_ne_zero hother)
    rw [hsame]
    exact ⟨h.size_le, fun hfound => (by rw [hempty] at hfound; cases hfound)⟩
  · obtain ⟨evicted, hinserted⟩ := exists_inserted hcapacity key record
    refine ⟨?_, fun {other found} hfound => ?_⟩
    · rw [capacity_insert]
      exact hinserted.size_le h.size_le
    · rw [hinserted.get?_eq] at hfound
      split at hfound
      · rename_i hother
        exact (if_pos hother).trans hfound
      · rename_i hother
        split at hfound
        · cases hfound
        · exact (if_neg hother).trans (h.known hfound)

theorem Fresh.erase {known : String → Option Record} (h : Fresh cache known) (key : String) :
    Fresh (cache.erase key) fun other => if other = key then none else known other := by
  have hsize := Table.size_erase cache.entries key
  refine ⟨Nat.le_trans ?_ h.size_le, fun {other found} hfound => ?_⟩
  · simp only [size, Cache.erase]
    omega
  · rw [get?_erase] at hfound
    split at hfound
    · cases hfound
    · rename_i hother
      exact (if_neg hother).trans (h.known hfound)

/-- A call keeps a cache within its capacity and its records the latest ones. -/
theorem Fresh.run {known : String → Option Record} (h : Fresh cache known) (call : Call) :
    Fresh (call.run cache).2 fun key => call.latest key (known key) := by
  cases call with
  | insert key record => exact h.insert key record
  | get key => exact h
  | remove key => exact h.erase key
  | clear => exact ⟨Nat.zero_le _, fun hfound => (by cases hfound)⟩

theorem Fresh.runAll {known : String → Option Record} (h : Fresh cache known) (calls : List Call) :
    Fresh (cache.runAll calls) fun key => calls.foldl (Call.latest key) (known key) := by
  induction calls generalizing cache known with
  | nil => exact h
  | cons call rest ih => exact ih (h.run call)

theorem capacity_runAll (cache : Cache) (calls : List Call) :
    (cache.runAll calls).capacity = cache.capacity := by
  induction calls generalizing cache with
  | nil => rfl
  | cons call rest ih =>
    refine (ih (call.run cache).2).trans ?_
    cases call with
    | insert key record => exact capacity_insert cache key record
    | get | remove | clear => rfl

/-- **The cache is bounded and never stale.** Whatever calls it had, and whichever records its evictions
took away: a cache holds no more records than its capacity, and a call returns nothing or the latest
record under its key. An insertion leaves its record under its key, unless the capacity is zero, and of
the others it evicts one at most, and none if the key was there or there was room. -/
theorem holds_latest_within_capacity (capacity : Nat) (victims : Nat → Nat) (calls : List Call) :
    let cache := runAll { capacity, victims } calls
    cache.size ≤ capacity ∧
      (∀ key, ∀ call ∈ [Call.get key, Call.remove key],
        (call.run cache).1 = none ∨ (call.run cache).1 = latest key calls) ∧
      ∀ key record, ∃ evicted : Option String,
        (0 < capacity → (cache.insert key record).get? key = some record) ∧
        (∀ other, other ≠ key → (cache.insert key record).get? other =
          if evicted = some other then none else cache.get? other) ∧
        (∀ victim, evicted = some victim → cache.get? victim ≠ none) ∧
        (cache.get? key ≠ none ∨ cache.size < capacity → evicted = none) := by
  intro cache
  have hcapacity : cache.capacity = capacity := capacity_runAll _ calls
  have hstart : Fresh { capacity, victims } fun _ => none :=
    ⟨Nat.zero_le _, fun hfound => (by cases hfound)⟩
  have hfresh := hstart.runAll calls
  refine ⟨hcapacity ▸ hfresh.size_le, fun key call hcall => ?_, fun key record => ?_⟩
  · have hreturned : (call.run cache).1 = cache.get? key := by
      rw [List.mem_cons, List.mem_singleton] at hcall
      rcases hcall with rfl | rfl <;> rfl
    rw [hreturned]
    cases hfound : cache.get? key with
    | none => exact .inl rfl
    | some found => exact .inr (hfresh.known hfound).symm
  · by_cases hzero : cache.capacity = 0
    · have hsame : cache.insert key record = cache := if_pos hzero
      rw [hsame]
      exact ⟨none, fun hpos => absurd (hcapacity.symm.trans hzero) (Nat.ne_of_gt hpos),
        fun other _ => (if_neg (Option.some_ne_none other).symm).symm, fun _ h => (by cases h),
        fun _ => rfl⟩
    · obtain ⟨evicted, hinserted⟩ := exists_inserted hzero key record
      refine ⟨evicted, fun _ => ?_, fun other hother => ?_, hinserted.was_there, fun hfits => ?_⟩
      · rw [hinserted.get?_eq, if_pos rfl]
      · rw [hinserted.get?_eq, if_neg hother]
      · exact hinserted.needed (hcapacity.symm ▸ hfits)

end RecordBase.Cache
