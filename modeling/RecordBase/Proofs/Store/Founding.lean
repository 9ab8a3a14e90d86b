import Mathlib.Data.List.Induction
import RecordBase.Proofs.Store.Course
import RecordBase.Proofs.Store.Opening

/-!
# The first clusters of a store

A new store lists the clusters of its settings one by one. Whatever refuses one of them, the log has
the entries of those before it, and of that one too if only its sync failed
(`Store.addInitial_of_founds`); the names listed are the normal forms of the first names of the
settings, with the ids 0, 1, 2 and so on (`Contents.Founded`).
-/

namespace RecordBase

/-- The cluster that a new store lists under its `n`-th name. -/
def firstCluster (n : Nat) (name : String) : Cluster := ⟨Int16.ofNat n, name, .physical none (-1)⟩

/-- The entries that list clusters under these names. -/
def Log.founding (names : List String) : List LogEntry :=
  names.mapIdx fun n name => .clusterAdded (firstCluster n name)

theorem Log.founding_concat (names : List String) (name : String) :
    founding (names ++ [name]) =
      founding names ++ [.clusterAdded (firstCluster names.length name)] := List.mapIdx_concat

/-- The contents list just the clusters with these names, with ids in order. -/
structure Contents.Founded (contents : Contents) (listed : List String) : Prop where
  clusters : contents.clusters.entries =
    listed.mapIdx fun n name => (Int16.ofNat n, ⟨firstCluster n name, n⟩)
  names : ∀ {name id}, contents.names.get? name = some id ↔
    ∃ n, listed[n]? = some name ∧ id = Int16.ofNat n
  containers : contents.containers.length = listed.length
  nodup : listed.Nodup
  few : listed.length ≤ 2 ^ 15

theorem Int16.toInt_ofNat_of_few {n : Nat} (h : n < 2 ^ 15) : (Int16.ofNat n).toInt = n :=
  Int16.toInt_ofNat_of_lt h

theorem getElem?_concat_eq_some_iff {α : Type} {front : List α} {last element : α} {n : Nat} :
    (front ++ [last])[n]? = some element ↔
      front[n]? = some element ∨ n = front.length ∧ last = element := by
  rcases Nat.lt_trichotomy n front.length with h | rfl | h
  · simp [List.getElem?_append_left h, Nat.ne_of_lt h]
  · simp
  · rw [List.getElem?_eq_none (by simp; omega), List.getElem?_eq_none (Nat.le_of_lt h)]
    simp [Nat.ne_of_gt h]

namespace Contents

variable {contents : Contents} {listed : List String} {name : String}

theorem Founded.empty : ({} : Contents).Founded [] where
  clusters := rfl
  names {name id} := by
    constructor
    · rintro ⟨⟩
    · rintro ⟨n, ⟨⟩, -⟩
  containers := rfl
  nodup := List.nodup_nil
  few := Nat.zero_le _

/-- One more cluster. -/
theorem Founded.list (founded : contents.Founded listed) (few : listed.length < 2 ^ 15)
    (fresh : name ∉ listed) :
    (contents.listWithContainer (firstCluster listed.length name)).Founded (listed ++ [name]) where
  clusters := by
    have hlast : ∀ entry ∈ contents.clusters.entries,
        compare entry.1 (Int16.ofNat listed.length) = .lt := by
      intro entry hentry
      rw [founded.clusters] at hentry
      obtain ⟨n, hn, rfl⟩ := List.mem_mapIdx.1 hentry
      rw [Std.compare_eq_lt, Int16.lt_iff_toInt_lt, Int16.toInt_ofNat_of_few few,
        Int16.toInt_ofNat_of_few (by omega)]
      omega
    rw [List.mapIdx_concat, ← founded.clusters, ← founded.containers]
    exact Table.entries_insert_of_forall_lt (founded.containers ▸ hlast) _
  names {other id} := by
    show (contents.names.insert name (Int16.ofNat listed.length)).get? other = some id ↔ _
    simp only [Table.get?_insert, getElem?_concat_eq_some_iff]
    split
    · rename_i he
      subst he
      constructor
      · rintro ⟨⟩
        exact ⟨listed.length, .inr ⟨rfl, rfl⟩, rfl⟩
      · rintro ⟨n, hn | ⟨rfl, -⟩, rfl⟩
        · exact absurd (List.mem_of_getElem? hn) fresh
        · rfl
    · rename_i hne
      rw [founded.names]
      refine exists_congr fun n => and_congr_left fun _ => ⟨.inl, ?_⟩
      rintro (hn | ⟨-, rfl⟩)
      · exact hn
      · exact absurd rfl hne
  containers := by simp [listWithContainer, Contents.list, founded.containers]
  nodup := by
    rw [List.nodup_append]
    refine ⟨founded.nodup, by simp, fun other hother last hlast he => ?_⟩
    rw [← List.mem_singleton.1 hlast, ← he] at fresh
    exact fresh hother
  few := by
    rw [List.length_append, List.length_singleton]
    exact few

/-- Names without repetition, as many as there are ids, can be listed from the log. -/
theorem founded_of_nodup (nodup : listed.Nodup) (few : listed.length ≤ 2 ^ 15) :
    ∃ contents, ({} : Contents).applyAll (Log.founding listed) = .ok contents ∧
      contents.Founded listed := by
  induction listed using List.reverseRecOn with
  | nil => exact ⟨{}, rfl, .empty⟩
  | append_singleton front name ih =>
    rw [List.length_append, List.length_singleton] at few
    rw [List.nodup_append] at nodup
    obtain ⟨contents, happly, founded⟩ := ih nodup.1 (by omega)
    have fresh : name ∉ front := fun h => nodup.2.2 _ h _ List.mem_cons_self rfl
    refine ⟨contents.listWithContainer (firstCluster front.length name), ?_, founded.list few fresh⟩
    rw [Log.founding_concat, applyAll_append happly]
    rfl

end Contents

namespace Store

variable {store : Store} {listed : List String} {name : String}

/-- The id of the next first cluster. -/
theorem nextClusterId_of_founded (founded : store.contents.Founded listed) {id : Int16}
    (h : store.nextClusterId = .ok id) : listed.length < 2 ^ 15 ∧ id = Int16.ofNat listed.length := by
  have hsize : store.contents.clusters.size = listed.length := by
    rw [Table.size, founded.clusters, List.length_mapIdx]
  have hkeys : store.contents.clusters.keys =
      (List.range store.contents.clusters.size).map Int16.ofNat := by
    rw [Table.keys, founded.clusters, hsize]
    exact List.ext_getElem (by simp) fun n _ _ => by simp
  have := Contents.nextId?_of_ids hkeys (hsize ▸ founded.few) (nextId?_of_nextClusterId h)
  rwa [hsize] at this

/-- A store whose log lists some first clusters, which it holds. -/
structure Founds (store : Store) (listed : List String) : Prop where
  founded : store.contents.Founded listed
  holds : store.journal.medium.Holds (Log.bytes (Log.founding listed))

theorem addPhysicalPlan_of_founded (founded : store.contents.Founded listed) (name : String) :
    (∃ error, store.addPhysicalPlan name none (-1) = .refuse error) ∨
    ∃ normal id, normalName name = .ok normal ∧ normal ∉ listed ∧ listed.length < 2 ^ 15 ∧
      store.addPhysicalPlan name none (-1) =
        .act [.listPhysical store.contents (firstCluster listed.length normal)] id := by
  rcases store.addPhysicalPlan_listing name none (-1) with hrefuse |
    ⟨id, normal, hnormal, hfresh, hid, hplan⟩
  · exact .inl hrefuse
  · obtain ⟨hfew, rfl⟩ := nextClusterId_of_founded founded hid
    refine .inr ⟨normal, _, hnormal, fun hlisted => ?_, hfew, hplan⟩
    obtain ⟨n, hn⟩ := List.mem_iff_getElem?.1 hlisted
    have htaken := Table.contains_iff.2 ⟨_, founded.names.2 ⟨n, hn, rfl⟩⟩
    rw [freshName, if_pos htaken] at hfresh
    cases hfresh

/-- Adding one more of the first clusters leaves the log as it was, or writes the entry of its normal
name, also if it fails then. -/
theorem Founds.addPhysical (founds : store.Founds listed) (name : String) :
    (store.addPhysical name none (-1)).2.journal.medium = store.journal.medium ∧
      (∃ error, (store.addPhysical name none (-1)).1 = .error error) ∨
    ∃ normal, normalName name = .ok normal ∧ (listed ++ [normal]).Nodup ∧ listed.length < 2 ^ 15 ∧
      (store.addPhysical name none (-1)).2.journal.medium.Holds
        (Log.bytes (Log.founding (listed ++ [normal]))) ∧
      ((∃ error, (store.addPhysical name none (-1)).1 = .error error) ∨
        (∃ id, (store.addPhysical name none (-1)).1 = .ok id) ∧
          (store.addPhysical name none (-1)).2.Founds (listed ++ [normal])) := by
  rw [addPhysical_eq]
  rcases addPhysicalPlan_of_founded founds.founded name with
    ⟨error, hplan⟩ | ⟨normal, id, hnormal, hfresh, hfew, hplan⟩
  · rw [hplan]
    exact .inl ⟨rfl, error, rfl⟩
  · rw [hplan]
    have hlisted := founds.founded.list hfew hfresh
    have hbytes : Log.bytes (Log.founding (listed ++ [normal])) =
        Log.bytes (Log.founding listed) ++
          (LogEntry.clusterAdded (firstCluster listed.length normal)).encode := by
      rw [Log.founding_concat, Log.bytes_append, Log.bytes_cons, Log.bytes_nil, List.append_nil]
    have hentry : (Deed.listPhysical store.contents (firstCluster listed.length normal)).entry =
        .clusterAdded (firstCluster listed.length normal) := rfl
    have hafter : (Deed.listPhysical store.contents (firstCluster listed.length normal)).after =
        store.contents.listWithContainer (firstCluster listed.length normal) := rfl
    generalize Deed.listPhysical store.contents (firstCluster listed.length normal) = deed
      at hentry hafter
    rw [← hentry] at hbytes
    rw [← hafter] at hlisted
    have hholds := founds.holds.append deed.entry.encode
    rw [← hbytes] at hholds
    rcases happend : store.journal.append deed.entry with ⟨error | offset, journal⟩
    · rw [perform_one_of_refused happend]
      have hmedium := store.journal.medium_append deed.entry
      rw [happend] at hmedium
      rcases hmedium with ⟨-, hsame⟩ | hwritten
      · exact .inl ⟨hsame, error, rfl⟩
      · exact .inr ⟨normal, hnormal, hlisted.nodup, hfew, hwritten ▸ hholds, .inl ⟨error, rfl⟩⟩
    · rw [perform_one_of_written happend]
      have hmedium : (store.done deed journal).journal.medium =
          (store.journal.medium.append deed.entry.encode).2 := by
        rw [journal_done]
        exact (Journal.append_ok happend).1
      have hfounds : (store.done deed journal).Founds (listed ++ [normal]) :=
        ⟨by rw [contents_done]; exact hlisted, hmedium ▸ hholds⟩
      exact .inr ⟨normal, hnormal, hlisted.nodup, hfew, hfounds.holds, .inr ⟨⟨id, rfl⟩, hfounds⟩⟩

/-- What adding the first clusters leaves in the log, whatever refuses some of them: the entries of the
first ones. If nothing refuses any, the store holds all of them. -/
theorem addInitial_of_founds (founds : store.Founds listed) (initial : List String) :
    ∃ more, more.map .ok <+: initial.map normalName ∧ (listed ++ more).Nodup ∧
      (listed ++ more).length ≤ 2 ^ 15 ∧
      (store.addInitial initial).2.journal.medium.Holds (Log.bytes (Log.founding (listed ++ more))) ∧
      ((store.addInitial initial).1 = .ok () → more.map .ok = initial.map normalName ∧
        (store.addInitial initial).2.Founds (listed ++ more)) := by
  induction initial generalizing store listed with
  | nil =>
    have hnil : store.addInitial [] = (.ok (), store) := rfl
    refine ⟨[], List.nil_prefix, ?_⟩
    rw [List.append_nil, hnil]
    exact ⟨founds.founded.nodup, founds.founded.few, founds.holds, fun _ =>
      ⟨by rw [List.map_nil, List.map_nil], founds⟩⟩
  | cons name rest ih =>
    have hstep := founds.addPhysical name
    rw [addInitial_cons]
    rcases hadd : store.addPhysical name none (-1) with ⟨result, after⟩
    rw [hadd] at hstep
    rcases hstep with ⟨hmedium, error, rfl⟩ | ⟨normal, hnormal, hnodup, hfew, hholds, hresult⟩
    · refine ⟨[], List.nil_prefix, ?_⟩
      rw [List.append_nil]
      exact ⟨founds.founded.nodup, founds.founded.few, hmedium ▸ founds.holds, nofun⟩
    · rcases hresult with ⟨error, rfl⟩ | ⟨⟨id, rfl⟩, hfounds⟩
      · refine ⟨[normal], ?_, hnodup, ?_, hholds, nofun⟩
        · rw [List.map_cons, List.map_cons, hnormal]
          exact (List.prefix_cons_inj _).2 List.nil_prefix
        · rw [List.length_append, List.length_singleton]
          exact hfew
      · obtain ⟨more, hprefix, hall⟩ := ih hfounds
        rw [List.append_assoc, List.singleton_append] at hall
        obtain ⟨hnodup', hfew', hholds', hok⟩ := hall
        refine ⟨normal :: more, ?_, hnodup', hfew', hholds', fun h => ?_⟩
        · rw [List.map_cons, List.map_cons, hnormal]
          exact (List.prefix_cons_inj _).2 hprefix
        · obtain ⟨hmore, hlast⟩ := hok h
          rw [List.map_cons, List.map_cons, hnormal, hmore]
          exact ⟨rfl, hlast⟩

end Store

end RecordBase
