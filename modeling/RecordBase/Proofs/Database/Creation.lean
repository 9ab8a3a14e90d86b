import RecordBase.Proofs.Database.Recovery
import RecordBase.Proofs.Store.Founding

/-!
# Creations that were interrupted

The creation of a database appends one entry for each of its first clusters, and whoever opens the log
later takes it for that of a finished database if it lists any cluster.

* `Database.reopened_creation`: of what an attempt leaves, cut anywhere, an opening makes a database with
  all its first clusters just if no entry is left or the entries of all of them are;
* `Database.interrupted_creation_is_taken_for_finished`: one of two clusters is missing, and it is the
  default one.
-/

namespace RecordBase

/-- All first clusters exist, under the normal forms of their names and with the ids 0, 1, 2 and so
on. -/
def Store.HasInitial (store : Store) (initial : List String) : Prop :=
  ∀ n name, initial[n]? = some name → ∃ cluster, store.cluster? (Int16.ofNat n) = some cluster ∧
    cluster.id.toInt = n ∧ Store.normalName name = .ok cluster.name ∧
    store.contents.names.get? cluster.name = some cluster.id

theorem Log.length_founding (names : List String) : (founding names).length = names.length :=
  List.length_mapIdx

theorem Log.founding_take (names : List String) (count : Nat) :
    founding (names.take count) = (founding names).take count := by
  refine List.ext_getElem? fun n => ?_
  simp only [founding, List.getElem?_take, List.getElem?_mapIdx]
  split <;> rfl

namespace Contents

variable {contents : Contents} {listed : List String}

theorem Founded.get?_clusters (founded : contents.Founded listed) {id : Int16} {listing : Listing} :
    contents.clusters.get? id = some listing ↔
      ∃ n name, listed[n]? = some name ∧ id = Int16.ofNat n ∧ listing = ⟨firstCluster n name, n⟩ := by
  rw [← Table.mem_entries_iff, founded.clusters, List.mem_mapIdx]
  constructor
  · rintro ⟨n, hn, he⟩
    obtain ⟨rfl, rfl⟩ := Prod.mk.inj he
    exact ⟨n, listed[n], List.getElem?_eq_getElem hn, rfl, rfl⟩
  · rintro ⟨n, name, hn, rfl, rfl⟩
    obtain ⟨hlt, rfl⟩ := List.getElem?_eq_some_iff.1 hn
    exact ⟨n, hlt, rfl⟩

theorem Founded.size_clusters (founded : contents.Founded listed) :
    contents.clusters.size = listed.length := by
  rw [Table.size, founded.clusters, List.length_mapIdx]

end Contents

namespace Store

variable {store : Store} {listed initial : List String}

/-- A store that lists some of the first clusters has all of them just if they are as many. -/
theorem hasInitial_iff (founded : store.contents.Founded listed)
    (first : listed.map .ok <+: initial.map normalName) :
    store.HasInitial initial ↔ listed.length = initial.length := by
  have hle : listed.length ≤ initial.length := by
    have := first.length_le
    rwa [List.length_map, List.length_map] at this
  constructor
  · intro h
    by_contra hne
    have hlt : listed.length < initial.length := by omega
    obtain ⟨cluster, hcluster, hid, -⟩ := h listed.length _ (List.getElem?_eq_getElem hlt)
    obtain ⟨listing, hlisting, rfl⟩ := Option.map_eq_some_iff.1 hcluster
    obtain ⟨n, name, hn, -, rfl⟩ := founded.get?_clusters.1 hlisting
    obtain ⟨hbelow, -⟩ := List.getElem?_eq_some_iff.1 hn
    have hfew := founded.few
    have hsame : (Int16.ofNat n).toInt = listed.length := hid
    rw [Int16.toInt_ofNat_of_few (by omega)] at hsame
    omega
  · intro hlength n name hname
    obtain ⟨hlt, rfl⟩ := List.getElem?_eq_some_iff.1 hname
    have hn : n < listed.length := by omega
    have hnormal : normalName initial[n] = .ok listed[n] := by
      have := first.getElem (i := n) (by rwa [List.length_map])
      simpa using this.symm
    have hlisted := founded.get?_clusters.2 ⟨n, listed[n], List.getElem?_eq_getElem hn, rfl, rfl⟩
    refine ⟨firstCluster n listed[n], ?_, ?_, hnormal, ?_⟩
    · rw [cluster?, hlisted]
      rfl
    · have hfew := founded.few
      exact Int16.toInt_ofNat_of_few (by omega)
    · exact founded.names.2 ⟨n, List.getElem?_eq_getElem hn, rfl⟩

/-- The default cluster is found just if its name in lower case is listed. -/
theorem defaultClusterId_of_founded (founded : store.contents.Founded listed) :
    (∃ id, store.defaultClusterId = .ok id) ↔ Text.lowercase store.defaultCluster ∈ listed := by
  have hfound : (∃ id, store.defaultClusterId = .ok id) ↔
      ∃ id, store.contents.names.get? (Text.lowercase store.defaultCluster) = some id := by
    rw [defaultClusterId, clusterNamed, clusterNamed?]
    cases store.contents.names.get? (Text.lowercase store.defaultCluster) <;> simp
  rw [hfound, List.mem_iff_getElem?]
  constructor
  · rintro ⟨id, h⟩
    obtain ⟨n, hn, -⟩ := founded.names.1 h
    exact ⟨n, hn⟩
  · rintro ⟨n, hn⟩
    exact ⟨Int16.ofNat n, founded.names.2 ⟨n, hn, rfl⟩⟩

variable {settings : Settings} {victims : Nat → Nat} {journal last : Journal}

/-- Whatever happens to a store, the name of its default cluster stays. -/
theorem Law.defaultCluster {P : Contents → Deed → Prop} :
    Law P fun a b => b.defaultCluster = a.defaultCluster where
  trans h₁ h₂ := h₂.trans h₁
  idle h := h.defaultCluster
  tries h := by
    cases h with
    | refused _ _ => rfl
    | written _ _ => exact defaultCluster_done ..

/-- Over an empty log, opening adds the first clusters. -/
theorem founds_ofContents_empty (settings : Settings) (victims : Nat → Nat)
    (empty : journal.medium.Holds []) : (ofContents settings victims journal {}).Founds [] :=
  ⟨.empty, empty⟩

/-- The log that an attempt to create a store leaves. -/
theorem log_of_attempt (settings : Settings) (victims : Nat → Nat) (empty : journal.medium.Holds []) :
    ∃ listed, listed.map .ok <+: settings.initialClusters.map normalName ∧ listed.Nodup ∧
      listed.length ≤ 2 ^ 15 ∧
      (ofJournal settings victims journal).2.medium.Holds (Log.bytes (Log.founding listed)) := by
  obtain ⟨listed, hprefix, hnodup, hfew, hholds, -⟩ :=
    addInitial_of_founds (founds_ofContents_empty settings victims empty) settings.initialClusters
  refine ⟨listed, hprefix, hnodup, hfew, ?_⟩
  have hnone : journal.replay = .ok ([], journal) := Journal.replay_of_holds_bytes (by simp) empty
  rw [List.nil_append] at hholds
  have hsize : ¬ (Table.empty : Table Int16 Listing).size ≠ 0 := Decidable.not_not.2 rfl
  simp only [ofJournal, hnone, Contents.applyAll, if_neg hsize]
  split <;> rename_i h <;> rwa [h] at hholds

/-- What an opening makes of such a log, cut anywhere: the clusters whose entries are left are all there
are, unless no entry is left and all of them are added. -/
theorem founded_of_reopening (first : listed.map .ok <+: settings.initialClusters.map normalName)
    (nodup : listed.Nodup) (few : listed.length ≤ 2 ^ 15)
    (small : ∀ entry ∈ Log.founding listed, entry.Small) {size : Nat}
    (cut : journal.medium.Holds ((Log.bytes (Log.founding listed)).take size))
    (opens : ofJournal settings victims journal = (.ok store, last)) :
    ∃ entries replayed names, journal.replay = .ok (entries, replayed) ∧
      entries.length ≤ settings.initialClusters.length ∧
      store.defaultCluster = Text.lowercase settings.defaultCluster ∧
      store.contents.Founded names ∧
      names.map .ok = (settings.initialClusters.map normalName).take
        (if entries = [] then settings.initialClusters.length else entries.length) := by
  obtain ⟨medium, hreplay, hholds⟩ := Journal.replay_of_holds small cut
  obtain ⟨entries, replayed, contents, hreplay', happly, -, hopen⟩ := ofJournal_cases opens
  rw [hreplay] at hreplay'
  obtain ⟨rfl, rfl⟩ := Prod.mk.inj (Except.ok.inj hreplay')
  have hwhole := Log.whole_isPrefix size (Log.founding listed)
  generalize Log.whole size (Log.founding listed) = entries at hreplay happly hholds hwhole
  have hcount := hwhole.length_le
  have htake := List.prefix_iff_eq_take.1 hwhole
  rw [Log.length_founding] at hcount
  rw [← Log.founding_take] at htake
  rw [htake] at happly hholds
  have hinitial := first.length_le
  rw [List.length_map, List.length_map] at hinitial
  obtain ⟨found, happly', hfounded⟩ := Contents.founded_of_nodup
    (nodup.sublist (List.take_sublist entries.length listed))
    (Nat.le_trans (List.length_take_le' ..) few)
  rw [Except.ok.inj (happly'.symm.trans happly)] at hfounded
  have hsize := hfounded.size_clusters
  rw [List.length_take, Nat.min_eq_left hcount] at hsize
  refine ⟨entries, { journal with medium }, ?_⟩
  rcases hopen with ⟨hne, rfl⟩ | ⟨hzero, hadd⟩
  · have hsome : entries ≠ [] := fun hnil => hne (by rw [hsize, hnil, List.length_nil])
    refine ⟨_, hreplay, Nat.le_trans hcount hinitial, rfl, hfounded, ?_⟩
    rw [if_neg hsome, List.map_take, List.prefix_iff_eq_take.1 first, List.take_take,
      List.length_map, Nat.min_eq_left hcount]
  · obtain rfl : entries = [] := List.length_eq_zero_iff.1 (hsize.symm.trans hzero)
    rw [List.length_nil, List.take_zero] at hholds hfounded
    have hstart : (ofContents settings victims { journal with medium } contents).Founds [] :=
      ⟨hfounded, hholds⟩
    have hdefault := addInitial_of_law Law.defaultCluster
      (ofContents settings victims { journal with medium } contents) settings.initialClusters
    obtain ⟨more, -, -, -, -, hall⟩ := addInitial_of_founds hstart settings.initialClusters
    rw [hadd] at hdefault hall
    obtain ⟨hnames, hfounds⟩ := hall rfl
    refine ⟨more, hreplay, Nat.zero_le _, hdefault, hfounds.founded, ?_⟩
    have hall : settings.initialClusters.length = (settings.initialClusters.map normalName).length :=
      (List.length_map _).symm
    rw [if_pos rfl, hnames, hall, List.take_length]

end Store

namespace Database

/-- A database is created, and whatever the journal refuses and whichever syncs fail, the attempt leaves a
log, of which the first `size` bytes are there when it is opened with the same settings later. If that
succeeds, all first clusters exist just if the entries of none of them were left or those of all. The
default cluster is found just if its name in lower case is among the names of those left, or of all if
none is. -/
theorem reopened_creation {name name' : String} {mode mode' : StorageMode} {settings : Settings}
    {victims victims' : Nat → Nat} {journal rest last : Journal} {database : Database} {size : Nat}
    (empty : journal.medium.Holds [])
    (small : ∀ n name, (settings.initialClusters.map Store.normalName)[n]? = some (.ok name) →
      (LogEntry.clusterAdded (firstCluster n name)).Small)
    (cut : rest.medium.Holds ((ofJournal name mode settings journal victims).2.medium.bytes.take size))
    (opens : ofJournal name' mode' settings rest victims' = (.ok database, last)) :
    ∃ entries replayed, rest.replay = .ok (entries, replayed) ∧
      (database.store.HasInitial settings.initialClusters ↔
        entries = [] ∨ entries.length = settings.initialClusters.length) ∧
      ((∃ id, database.store.defaultClusterId = .ok id) ↔
        .ok (Text.lowercase (Text.lowercase settings.defaultCluster)) ∈
          (settings.initialClusters.map Store.normalName).take
            (if entries = [] then settings.initialClusters.length else entries.length)) := by
  obtain ⟨listed, hprefix, hnodup, hfew, hholds⟩ := Store.log_of_attempt settings victims empty
  have hmedium : (ofJournal name mode settings journal victims).2 =
      (Store.ofJournal settings victims journal).2 := by
    unfold ofJournal
    split <;> rename_i h <;> rw [h]
  rw [hmedium, hholds.bytes_eq] at cut
  have hsmall : ∀ entry ∈ Log.founding listed, entry.Small := by
    intro entry hentry
    obtain ⟨n, hn, rfl⟩ := List.mem_mapIdx.1 hentry
    have hlt : n < (listed.map (.ok : String → Except Error String)).length := by
      rwa [List.length_map]
    refine small n _ (List.getElem?_eq_some_iff.2 ⟨Nat.lt_of_lt_of_le hlt hprefix.length_le, ?_⟩)
    rw [← hprefix.getElem hlt, List.getElem_map]
  obtain ⟨entries, replayed, names, hreplay, hcount, hdefault, founded, hnames⟩ :=
    Store.founded_of_reopening hprefix hnodup hfew hsmall cut (ofJournal_ok opens).1
  refine ⟨entries, replayed, hreplay, ?_, ?_⟩
  · have hlength := congrArg List.length hnames
    rw [List.length_map, List.length_take, List.length_map] at hlength
    have hfirst : names.map .ok <+: settings.initialClusters.map Store.normalName := by
      rw [hnames]
      exact List.take_prefix _ _
    rw [Store.hasInitial_iff founded hfirst, hlength]
    split
    · rename_i hnone
      simp [hnone]
    · rename_i hsome
      simp only [hsome, false_or]
      omega
  · rw [Store.defaultClusterId_of_founded founded, hdefault, ← hnames]
    simp

/-- Two first clusters, of which the second one is the default cluster. -/
def pairSettings : Settings := { useCache := false, initialClusters := ["a", "b"], defaultCluster := "b" }

theorem normalNames_pair :
    pairSettings.initialClusters.map Store.normalName = [.ok "a", .ok "b"] := by decide +kernel

theorem lowercase_pair : Text.lowercase (Text.lowercase pairSettings.defaultCluster) = "b" := by
  decide +kernel

/-- The log that creating it leaves is opened again. -/
theorem reopened_creation_of_pair :
    let left := (ofJournal "a" .memory pairSettings blankJournal fun _ => 0).2.medium.bytes
    let rest : Journal := { blankJournal with medium := .memory ⟨left.take 50⟩ }
    ∃ database last, ofJournal "a" .memory pairSettings rest (fun _ => 0) = (.ok database, last) ∧
      database.store.HasInitial pairSettings.initialClusters ∧
      ∃ id, database.store.defaultClusterId = .ok id := by
  intro left rest
  have opened : (ofJournal "a" .memory pairSettings rest fun _ => 0).1.isOk = true := by decide +kernel
  rcases opens : ofJournal "a" .memory pairSettings rest (fun _ => 0) with ⟨error | database, last⟩
  · rw [opens] at opened
    cases opened
  · have small : ∀ n name,
        (pairSettings.initialClusters.map Store.normalName)[n]? = some (.ok name) →
        (LogEntry.clusterAdded (firstCluster n name)).Small := by
      intro n name h
      rw [normalNames_pair] at h
      obtain _ | _ | n := n
      · cases h
        decide +kernel
      · cases h
        decide +kernel
      · cases h
    obtain ⟨entries, replayed, hreplay, hall, hdefault⟩ :=
      reopened_creation blankJournal_empty small (Medium.holds_memory _) opens
    have hlength : rest.replay.toOption.map (fun read => read.1.length) = some 2 := by decide +kernel
    rw [hreplay] at hlength
    have htwo : entries.length = 2 := Option.some.inj hlength
    refine ⟨database, last, rfl, hall.2 (.inr htwo), hdefault.2 ?_⟩
    rw [normalNames_pair, lowercase_pair]
    split <;> simp [htwo, pairSettings]

/-- The log is cut behind the entry of the first cluster. Opened again, the database has no other, and
the default cluster is not found. -/
theorem interrupted_creation_is_taken_for_finished :
    let left := (ofJournal "a" .memory pairSettings blankJournal fun _ => 0).2.medium.bytes
    let rest : Journal := { blankJournal with medium := .memory ⟨left.take 29⟩ }
    ∃ database last, ofJournal "a" .memory pairSettings rest (fun _ => 0) = (.ok database, last) ∧
      ¬ database.store.HasInitial pairSettings.initialClusters ∧
      ¬ ∃ id, database.store.defaultClusterId = .ok id := by
  intro left rest
  have seen : (ofJournal "a" .memory pairSettings rest fun _ => 0).1.toOption.map
      (fun database => (database.store.cluster? 1, database.store.defaultClusterId.isOk)) =
      some (none, false) := by decide +kernel
  rcases opens : ofJournal "a" .memory pairSettings rest (fun _ => 0) with ⟨error | database, last⟩
  · rw [opens] at seen
    cases seen
  · rw [opens] at seen
    obtain ⟨hcluster, hdefault⟩ := Prod.mk.inj (Option.some.inj seen)
    refine ⟨database, last, rfl, fun hall => ?_, ?_⟩
    · obtain ⟨cluster, hfound, -⟩ := hall 1 "b" rfl
      exact absurd (hcluster.symm.trans hfound) (by simp)
    · rintro ⟨id, hid⟩
      rw [hid] at hdefault
      cases hdefault

end Database

end RecordBase
