/-!
# Tables

Finite maps kept as a list of entries in strictly increasing order of their keys, so a table is
determined by what it binds (`ext_get?`) and its entries come out in key order.

Main statements: a look-up after `insert` or `erase` (`get?_insert`, `get?_erase`), and what is
in the list of entries (`mem_entries_iff`); how many bindings have a property after a change of
the list (`countP_put`, `countP_drop`), and how many there are (`size_insert`, `size_erase`).
-/

namespace RecordBase

/-- A finite map from keys to values. -/
structure Table (κ : Type) (ν : Type) [Ord κ] where
  /-- The bindings, by increasing key. -/
  entries : List (κ × ν)
  increasing : entries.Pairwise fun a b => compare a.1 b.1 = .lt

namespace Table

variable {κ ν : Type} [Ord κ]

/-! ## Lists of entries -/

/-- The first value bound to a key. -/
def find? (key : κ) : List (κ × ν) → Option ν
  | [] => none
  | (k, value) :: rest => if compare key k = .eq then some value else find? key rest

/-- Binds a key in a list by increasing key. -/
def put (key : κ) (value : ν) : List (κ × ν) → List (κ × ν)
  | [] => [(key, value)]
  | (k, v) :: rest =>
    match compare key k with
    | .lt => (key, value) :: (k, v) :: rest
    | .eq => (key, value) :: rest
    | .gt => (k, v) :: put key value rest

/-- Drops the binding of a key. -/
def drop (key : κ) : List (κ × ν) → List (κ × ν)
  | [] => []
  | (k, v) :: rest => if compare key k = .eq then rest else (k, v) :: drop key rest

theorem mem_put {key : κ} {value : ν} {entries : List (κ × ν)} {entry : κ × ν}
    (h : entry ∈ put key value entries) : entry = (key, value) ∨ entry ∈ entries := by
  induction entries with
  | nil => simpa [put] using h
  | cons head rest ih =>
    obtain ⟨k, v⟩ := head
    simp only [put] at h
    split at h
    · simpa using h
    · simp only [List.mem_cons] at h ⊢
      rcases h with h | h
      · exact .inl h
      · exact .inr (.inr h)
    · simp only [List.mem_cons] at h ⊢
      rcases h with h | h
      · exact .inr (.inl h)
      · rcases ih h with h | h
        · exact .inl h
        · exact .inr (.inr h)

theorem mem_of_mem_drop {key : κ} {entries : List (κ × ν)} {entry : κ × ν}
    (h : entry ∈ drop key entries) : entry ∈ entries := by
  induction entries with
  | nil => exact h
  | cons head rest ih =>
    obtain ⟨k, v⟩ := head
    simp only [drop] at h
    split at h
    · exact List.mem_cons_of_mem _ h
    · rcases List.mem_cons.1 h with h | h
      · exact h ▸ List.mem_cons_self
      · exact List.mem_cons_of_mem _ (ih h)

variable [Std.TransOrd κ] [Std.LawfulEqOrd κ]

omit [Std.LawfulEqOrd κ] in
theorem lt_of_compare_gt {a b : κ} (h : compare a b = .gt) : compare b a = .lt := by
  rw [show compare b a = (compare a b).swap from Std.OrientedCmp.eq_swap, h]
  rfl

theorem put_increasing {key : κ} {value : ν} {entries : List (κ × ν)}
    (h : entries.Pairwise fun a b => compare a.1 b.1 = .lt) :
    (put key value entries).Pairwise fun a b => compare a.1 b.1 = .lt := by
  induction entries with
  | nil => simp [put]
  | cons head rest ih =>
    obtain ⟨k, v⟩ := head
    obtain ⟨hk, hrest⟩ := List.pairwise_cons.1 h
    simp only [put]
    split
    · rename_i hlt
      refine List.pairwise_cons.2 ⟨fun entry he => ?_, h⟩
      rcases List.mem_cons.1 he with he | he
      · exact he ▸ hlt
      · exact Std.TransCmp.lt_trans hlt (hk entry he)
    · rename_i heq
      have := Std.LawfulEqCmp.eq_of_compare heq
      subst this
      exact List.pairwise_cons.2 ⟨hk, hrest⟩
    · rename_i hgt
      refine List.pairwise_cons.2 ⟨fun entry he => ?_, ih hrest⟩
      rcases mem_put he with he | he
      · exact he ▸ lt_of_compare_gt hgt
      · exact hk entry he

omit [Std.TransOrd κ] [Std.LawfulEqOrd κ] in
theorem drop_increasing {key : κ} {entries : List (κ × ν)}
    (h : entries.Pairwise fun a b => compare a.1 b.1 = .lt) :
    (drop key entries).Pairwise fun a b => compare a.1 b.1 = .lt := by
  induction entries with
  | nil => exact h
  | cons head rest ih =>
    obtain ⟨k, v⟩ := head
    obtain ⟨hk, hrest⟩ := List.pairwise_cons.1 h
    simp only [drop]
    split
    · exact hrest
    · exact List.pairwise_cons.2 ⟨fun entry he => hk entry (mem_of_mem_drop he), ih hrest⟩

omit [Std.TransOrd κ] in
theorem find?_put [DecidableEq κ] (key other : κ) (value : ν) (entries : List (κ × ν)) :
    find? other (put key value entries) =
      if other = key then some value else find? other entries := by
  induction entries with
  | nil =>
    by_cases h : other = key
    · simp [put, find?, h]
    · have : compare other key ≠ .eq := fun he => h (Std.LawfulEqCmp.eq_of_compare he)
      simp [put, find?, h, this]
  | cons head rest ih =>
    obtain ⟨k, v⟩ := head
    by_cases h : other = key
    · subst h
      simp only [put]
      split
      · simp [find?]
      · simp [find?]
      · rename_i hgt
        simp [find?, hgt, ih]
    · have hne : compare other key ≠ .eq := fun he => h (Std.LawfulEqCmp.eq_of_compare he)
      simp only [put]
      split
      · simp [find?, h, hne]
      · rename_i heq
        have := Std.LawfulEqCmp.eq_of_compare heq
        subst this
        simp [find?, h, hne]
      · simp only [find?, ih, h, if_false]

omit [Std.TransOrd κ] [Std.LawfulEqOrd κ] in
theorem find?_eq_none_of_forall_lt {key : κ} {entries : List (κ × ν)}
    (h : ∀ entry ∈ entries, compare key entry.1 = .lt) : find? key entries = none := by
  induction entries with
  | nil => rfl
  | cons head rest ih =>
    obtain ⟨k, v⟩ := head
    have hk := h (k, v) List.mem_cons_self
    simp only at hk
    simp only [find?, hk, reduceCtorEq, if_false]
    exact ih fun entry he => h entry (List.mem_cons_of_mem _ he)

omit [Std.TransOrd κ] in
theorem find?_drop [DecidableEq κ] (key other : κ) {entries : List (κ × ν)}
    (h : entries.Pairwise fun a b => compare a.1 b.1 = .lt) :
    find? other (drop key entries) = if other = key then none else find? other entries := by
  induction entries with
  | nil => simp [drop, find?]
  | cons head rest ih =>
    obtain ⟨k, v⟩ := head
    obtain ⟨hk, hrest⟩ := List.pairwise_cons.1 h
    simp only [drop]
    split
    · rename_i heq
      have := Std.LawfulEqCmp.eq_of_compare heq
      subst this
      by_cases ho : other = key
      · subst ho
        simpa using find?_eq_none_of_forall_lt hk
      · have : compare other key ≠ .eq := fun he => ho (Std.LawfulEqCmp.eq_of_compare he)
        simp [find?, ho, this]
    · rename_i hne
      simp only [find?, ih hrest]
      by_cases ho : other = key
      · subst ho
        simp [hne]
      · simp [ho]

omit [Std.TransOrd κ] in
theorem mem_iff_find? {entries : List (κ × ν)} {key : κ} {value : ν}
    (h : entries.Pairwise fun a b => compare a.1 b.1 = .lt) :
    (key, value) ∈ entries ↔ find? key entries = some value := by
  induction entries with
  | nil => simp [find?]
  | cons head rest ih =>
    obtain ⟨k, v⟩ := head
    obtain ⟨hk, hrest⟩ := List.pairwise_cons.1 h
    simp only [List.mem_cons, find?, Prod.mk.injEq, ih hrest]
    by_cases hkey : key = k
    · subst hkey
      have hnone : find? key rest = none := find?_eq_none_of_forall_lt hk
      simp [hnone, eq_comm]
    · have : compare key k ≠ .eq := fun he => hkey (Std.LawfulEqCmp.eq_of_compare he)
      simp [hkey, this]

/-! ## Tables -/

omit [Std.TransOrd κ] [Std.LawfulEqOrd κ] in
/-- The table that binds nothing. -/
def empty : Table κ ν := ⟨[], List.Pairwise.nil⟩

instance : EmptyCollection (Table κ ν) := ⟨empty⟩

instance : Inhabited (Table κ ν) := ⟨empty⟩

/-- The value bound to a key. -/
def get? (table : Table κ ν) (key : κ) : Option ν := find? key table.entries

/-- Whether a key is bound. -/
def contains (table : Table κ ν) (key : κ) : Bool := (table.get? key).isSome

/-- Binds a key, replacing its value if it has one. -/
def insert (table : Table κ ν) (key : κ) (value : ν) : Table κ ν :=
  ⟨put key value table.entries, put_increasing table.increasing⟩

/-- Unbinds a key. -/
def erase (table : Table κ ν) (key : κ) : Table κ ν :=
  ⟨drop key table.entries, drop_increasing table.increasing⟩

/-- Applies a function to the value of a key, if it has one. -/
def modify (table : Table κ ν) (key : κ) (f : ν → ν) : Table κ ν :=
  match table.get? key with
  | some value => table.insert key (f value)
  | none => table

/-- The keys, in increasing order. -/
def keys (table : Table κ ν) : List κ := table.entries.map Prod.fst

/-- The values, by increasing key. -/
def values (table : Table κ ν) : List ν := table.entries.map Prod.snd

/-- The number of keys bound. -/
def size (table : Table κ ν) : Nat := table.entries.length

/-- The last binding. -/
def last? (table : Table κ ν) : Option (κ × ν) := table.entries.getLast?

omit [Std.TransOrd κ] [Std.LawfulEqOrd κ] in
@[simp] theorem get?_empty (key : κ) : (empty : Table κ ν).get? key = none := rfl

theorem get?_insert [DecidableEq κ] (table : Table κ ν) (key other : κ) (value : ν) :
    (table.insert key value).get? other = if other = key then some value else table.get? other :=
  find?_put key other value table.entries

@[simp] theorem get?_insert_self (table : Table κ ν) (key : κ) (value : ν) :
    (table.insert key value).get? key = some value := by
  classical simp [get?_insert]

omit [Std.TransOrd κ] in
theorem get?_erase [DecidableEq κ] (table : Table κ ν) (key other : κ) :
    (table.erase key).get? other = if other = key then none else table.get? other :=
  find?_drop key other table.increasing

omit [Std.TransOrd κ] in
theorem mem_entries_iff {table : Table κ ν} {key : κ} {value : ν} :
    (key, value) ∈ table.entries ↔ table.get? key = some value :=
  mem_iff_find? table.increasing

omit [Std.TransOrd κ] [Std.LawfulEqOrd κ] in
theorem contains_iff {table : Table κ ν} {key : κ} :
    table.contains key = true ↔ ∃ value, table.get? key = some value := by
  simp [contains, Option.isSome_iff_exists]

/-- Lists by increasing key with the same look-ups are equal. -/
theorem eq_of_find?_eq {a b : List (κ × ν)}
    (ha : a.Pairwise fun x y => compare x.1 y.1 = .lt)
    (hb : b.Pairwise fun x y => compare x.1 y.1 = .lt)
    (h : ∀ key, find? key a = find? key b) : a = b := by
  induction a generalizing b with
  | nil =>
    cases b with
    | nil => rfl
    | cons head rest =>
      obtain ⟨k, v⟩ := head
      have := h k
      simp [find?] at this
  | cons head rest ih =>
    obtain ⟨k, v⟩ := head
    cases b with
    | nil =>
      have := h k
      simp [find?] at this
    | cons head' rest' =>
      obtain ⟨k', v'⟩ := head'
      obtain ⟨hk, hrest⟩ := List.pairwise_cons.1 ha
      obtain ⟨hk', hrest'⟩ := List.pairwise_cons.1 hb
      have hmem : (k', v') ∈ (k, v) :: rest :=
        (mem_iff_find? ha).2 (by rw [h]; exact (mem_iff_find? hb).1 List.mem_cons_self)
      have hmem' : (k, v) ∈ (k', v') :: rest' :=
        (mem_iff_find? hb).2 (by rw [← h]; exact (mem_iff_find? ha).1 List.mem_cons_self)
      have hkk : (k, v) = (k', v') := by
        rcases List.mem_cons.1 hmem with he | he
        · exact he.symm
        · rcases List.mem_cons.1 hmem' with he' | he'
          · exact he'
          · have h1 := hk _ he
            have h2 := hk' _ he'
            have := Std.TransCmp.lt_trans h1 h2
            simp at this
      obtain ⟨rfl, rfl⟩ := Prod.mk.injEq .. ▸ hkk
      congr 1
      refine ih hrest hrest' fun key => ?_
      have hf := h key
      simp only [find?] at hf
      split at hf
      · rename_i heq
        have := Std.LawfulEqCmp.eq_of_compare heq
        subst this
        rw [find?_eq_none_of_forall_lt hk, find?_eq_none_of_forall_lt hk']
      · exact hf

/-- A table is determined by its look-ups. -/
theorem ext_get? {a b : Table κ ν} (h : ∀ key, a.get? key = b.get? key) : a = b := by
  obtain ⟨ea, ha⟩ := a
  obtain ⟨eb, hb⟩ := b
  have := eq_of_find?_eq ha hb h
  subst this
  rfl

/-! ## Changes one after another -/

theorem insert_eq_self [DecidableEq κ] {table : Table κ ν} {key : κ} {value : ν}
    (h : table.get? key = some value) :
    table.insert key value = table := by
  refine ext_get? fun other => ?_
  rw [get?_insert]
  split
  · rename_i he
    rw [he, h]
  · rfl

theorem erase_eq_self [DecidableEq κ] {table : Table κ ν} {key : κ} (h : table.get? key = none) :
    table.erase key = table := by
  refine ext_get? fun other => ?_
  rw [get?_erase]
  split
  · rename_i he
    rw [he, h]
  · rfl

/-! ## The last binding -/

omit [Std.TransOrd κ] [Std.LawfulEqOrd κ] in
theorem eq_empty_of_last? {table : Table κ ν} (h : table.last? = none) : table = empty := by
  obtain ⟨entries, increasing⟩ := table
  simp only [last?, List.getLast?_eq_none_iff] at h
  subst h
  rfl

omit [Std.LawfulEqOrd κ] in
theorem put_of_forall_lt {key : κ} {value : ν} {entries : List (κ × ν)}
    (h : ∀ entry ∈ entries, compare entry.1 key = .lt) :
    put key value entries = entries ++ [(key, value)] := by
  induction entries with
  | nil => rfl
  | cons head rest ih =>
    obtain ⟨k, v⟩ := head
    have hgt : compare key k = .gt := Std.OrientedCmp.gt_of_lt (h (k, v) List.mem_cons_self)
    rw [put, hgt, List.cons_append, ih fun entry hentry => h entry (List.mem_cons_of_mem _ hentry)]

/-- A key greater than all others is bound last. -/
theorem entries_insert_of_forall_lt {table : Table κ ν} {key : κ}
    (h : ∀ entry ∈ table.entries, compare entry.1 key = .lt) (value : ν) :
    (table.insert key value).entries = table.entries ++ [(key, value)] := put_of_forall_lt h

omit [Std.LawfulEqOrd κ] in
/-- A key greater than the last one is greater than all. -/
theorem lt_of_last? {table : Table κ ν} {last key : κ} {value : ν}
    (h : table.last? = some (last, value)) (hlt : compare last key = .lt) :
    ∀ entry ∈ table.entries, compare entry.1 key = .lt := by
  obtain ⟨entries, increasing⟩ := table
  obtain ⟨front, rfl⟩ := List.getLast?_eq_some_iff.1 h
  obtain ⟨_, _, hfront⟩ := List.pairwise_append.1 increasing
  intro entry hentry
  rcases List.mem_append.1 hentry with hentry | hentry
  · exact Std.TransCmp.lt_trans (hfront _ hentry _ List.mem_cons_self) hlt
  · cases List.mem_singleton.1 hentry
    exact hlt

omit [Std.TransOrd κ] in
/-- A key greater than all others is not bound. -/
theorem get?_eq_none_of_forall_lt {table : Table κ ν} {key : κ}
    (h : ∀ entry ∈ table.entries, compare entry.1 key = .lt) : table.get? key = none := by
  cases hget : table.get? key with
  | none => rfl
  | some value =>
    have := h _ (mem_entries_iff.2 hget)
    simp at this

omit [Std.TransOrd κ] in
theorem exists_get? {table : Table κ ν} (h : table.size ≠ 0) :
    ∃ key value, table.get? key = some value := by
  cases hentries : table.entries with
  | nil => exact absurd (congrArg List.length hentries) h
  | cons entry rest =>
    exact ⟨entry.1, entry.2, mem_entries_iff.1 (hentries ▸ List.mem_cons_self)⟩

omit [Std.TransOrd κ] [Std.LawfulEqOrd κ] in
theorem size_ne_zero {table : Table κ ν} {key : κ} {value : ν} (h : table.get? key = some value) :
    table.size ≠ 0 := by
  intro hsize
  rw [get?, List.length_eq_zero_iff.1 hsize] at h
  cases h

/-! ## Bindings with a property -/

omit [Std.TransOrd κ] in
/-- Of the bindings whose values have a property, the one of a key. -/
theorem find?_filter (p : ν → Bool) (key : κ) {entries : List (κ × ν)}
    (h : entries.Pairwise fun a b => compare a.1 b.1 = .lt) :
    find? key (entries.filter fun entry => p entry.2) = (find? key entries).filter p := by
  induction entries with
  | nil => rfl
  | cons head rest ih =>
    obtain ⟨k, v⟩ := head
    obtain ⟨hk, hrest⟩ := List.pairwise_cons.1 h
    by_cases hkey : compare key k = .eq
    · obtain rfl := Std.LawfulEqCmp.eq_of_compare hkey
      cases hp : p v with
      | true => simp [hp, find?, Option.filter_some]
      | false =>
        simp [hp, find?, ih hrest, find?_eq_none_of_forall_lt hk, Option.filter_some]
    · cases hp : p v <;> simp [hp, find?, hkey, ih hrest]

/-- The bindings whose values have a property are known from the look-ups. -/
theorem filter_entries_ext {a b : Table κ ν} (p : ν → Bool)
    (h : ∀ key, (a.get? key).filter p = (b.get? key).filter p) :
    (a.entries.filter fun entry => p entry.2) = b.entries.filter fun entry => p entry.2 := by
  refine eq_of_find?_eq (a.increasing.filter _) (b.increasing.filter _) fun key => ?_
  rw [find?_filter p key a.increasing, find?_filter p key b.increasing]
  exact h key

omit [Std.LawfulEqOrd κ] in
/-- A key bound anew: its old value no longer counts, its new one does. -/
theorem countP_put (p : ν → Bool) (key : κ) (value : ν) {entries : List (κ × ν)}
    (h : entries.Pairwise fun a b => compare a.1 b.1 = .lt) :
    (put key value entries).countP (fun entry => p entry.2) +
        (find? key entries).toList.countP p =
      entries.countP (fun entry => p entry.2) + [value].countP p := by
  induction entries with
  | nil => simp [put, find?, List.countP_singleton]
  | cons head rest ih =>
    obtain ⟨k, v⟩ := head
    obtain ⟨hk, hrest⟩ := List.pairwise_cons.1 h
    simp only [put]
    split
    · rename_i hlt
      have hnone : find? key ((k, v) :: rest) = none := find?_eq_none_of_forall_lt fun entry he => by
        rcases List.mem_cons.1 he with rfl | he
        · exact hlt
        · exact Std.TransCmp.lt_trans hlt (hk entry he)
      simp [hnone, List.countP_cons]
    · rename_i heq
      simp only [find?, heq, if_true, List.countP_cons, Option.toList_some, List.countP_nil]
      omega
    · rename_i hgt
      have hne : ¬ compare key k = .eq := by simp [hgt]
      have := ih hrest
      simp only [find?, hne, if_false, List.countP_cons] at this ⊢
      omega

omit [Std.TransOrd κ] [Std.LawfulEqOrd κ] in
/-- A key unbound: its value no longer counts. -/
theorem countP_drop (p : ν → Bool) (key : κ) (entries : List (κ × ν)) :
    (drop key entries).countP (fun entry => p entry.2) + (find? key entries).toList.countP p =
      entries.countP fun entry => p entry.2 := by
  induction entries with
  | nil => rfl
  | cons head rest ih =>
    obtain ⟨k, v⟩ := head
    simp only [drop]
    split
    · rename_i heq
      simp [find?, heq, List.countP_cons]
    · rename_i hne
      simp only [find?, hne, if_false, List.countP_cons]
      omega

/-! ## Sizes -/

/-- A key bound anew counts once more, unless it was bound before. -/
theorem size_insert (table : Table κ ν) (key : κ) (value : ν) :
    (table.insert key value).size + (table.get? key).toList.length = table.size + 1 := by
  have h := countP_put (fun _ => true) key value table.increasing
  rw [List.countP_true, List.countP_true] at h
  exact h

omit [Std.TransOrd κ] [Std.LawfulEqOrd κ] in
theorem size_erase (table : Table κ ν) (key : κ) :
    (table.erase key).size + (table.get? key).toList.length = table.size := by
  have h := countP_drop (fun _ => true) key table.entries
  rw [List.countP_true, List.countP_true] at h
  exact h

end Table

end RecordBase
