import RecordBase.Proofs.Store.Clusters
import RecordBase.Proofs.Store.Course
import RecordBase.Proofs.Store.Operation
import RecordBase.Proofs.Text.SmallLetters

/-!
# The directory of clusters

A cluster joins the directory with the id after the greatest one and a normal name that is free, and a
logical one with a descriptor that its container has handed out (`Contents.Joins`). No other deed lists a
cluster, so every deed of a store enlists properly (`Contents.Enlists`), and keeps the directory in order
(`Contents.Catalogued`): ids are 0, 1, 2 and so on, clusters and names find each other, and a logical
cluster lies in a physical one before it. The clusters that there were stay, in their order
(`Enlists.listed`).

Clusters are known by normal names only (`Contents.Named`), and stay known by them (`Enlists.knows`).
-/

namespace RecordBase

/-! ## Normal names -/

namespace Store

variable {text normal : String}

theorem normalName_eq_ok : normalName text = .ok normal ↔
    Text.trim text ≠ "" ∧ Text.lowercase (Text.trim text) = normal := by
  rw [ne_eq, ← Text.lowercase_eq_empty, ← String.isEmpty_iff]
  simp only [normalName]
  split <;> simp [*]

theorem error_normalName {error : Error} (h : normalName text = .error error) :
    error = .invalidOperation .blankClusterName := by
  simp only [normalName] at h
  split at h <;> cases h
  rfl

theorem lowercase_of_normalName (h : normalName text = .ok normal) :
    Text.lowercase normal = normal := by
  obtain ⟨-, rfl⟩ := normalName_eq_ok.1 h
  exact Text.lowercase_lowercase _

theorem trim_of_normalName (h : normalName text = .ok normal) : Text.trim normal = normal := by
  obtain ⟨-, rfl⟩ := normalName_eq_ok.1 h
  exact Text.trim_lowercase_iff.2 (Text.trim_trim text)

/-- A normal name is its own normal form. -/
theorem normalName_of_normalName (h : normalName text = .ok normal) :
    normalName normal = .ok normal := by
  rw [normalName_eq_ok, trim_of_normalName h, lowercase_of_normalName h]
  obtain ⟨hsome, rfl⟩ := normalName_eq_ok.1 h
  exact ⟨Text.lowercase_eq_empty.not.2 hsome, rfl⟩

end Store

namespace Contents

variable {contents after : Contents} {deed : Deed} {cluster : Cluster}

/-! ## Joining -/

/-- A physical cluster has handed out the position of a descriptor. -/
structure Hosts (contents : Contents) (container : Int16) (descriptor : RecordId) (root : Listing) :
    Prop where
  listed : contents.clusters.get? container = some root
  physical : root.cluster.kind.isLogical = false
  cluster : descriptor.cluster = container
  nonneg : 0 ≤ descriptor.position.toInt
  handed : descriptor.position.toInt < contents.next root.home

/-- A cluster that the directory may take in. -/
structure Joins (contents : Contents) (cluster : Cluster) : Prop where
  next : contents.nextId? = some cluster.id
  normal : Store.normalName cluster.name = .ok cluster.name
  free : contents.names.get? cluster.name = none
  hosted : ∀ {container descriptor}, cluster.kind = .logical container descriptor →
    ∃ root, contents.Hosts container descriptor root

/-- A fitting deed that lists no cluster, or one that the directory may take in. -/
structure Enlists (contents : Contents) (deed : Deed) : Prop where
  fits : contents.Fits deed
  joins : ∀ {cluster}, deed.entry.cluster? = some cluster → contents.Joins cluster

theorem ListsNone.enlists (keeps : contents.ListsNone deed) (fits : contents.Fits deed) :
    contents.Enlists deed where
  fits := fits
  joins h := by
    rcases fits.directory with ⟨hnone, -⟩ | ⟨cluster, home, -, fresh, hclusters, -⟩
    · rw [hnone] at h
      cases h
    · have hself := Table.get?_insert_self contents.clusters cluster.id ⟨cluster, home⟩
      rw [← hclusters, keeps.clusters, fresh] at hself
      cases hself

end Contents

namespace Store

variable {store : Store}

theorem free_of_freshName {name : String} (h : store.freshName name = .ok ()) :
    store.contents.names.get? name = none := by
  unfold freshName at h
  split at h
  · cases h
  · rename_i hfree
    simpa [Table.contains] using hfree

theorem addPhysicalPlan_enlists (store : Store) (name : String) (file : Option String)
    (size : Int32) : (store.addPhysicalPlan name file size).Each Contents.Enlists store.contents := by
  rcases store.addPhysicalPlan_listing name file size with ⟨error, hplan⟩ |
    ⟨id, normal, hname, hfree, hid, hplan⟩
  · rw [hplan]
    exact .refuse error
  · rw [hplan]
    refine .one ⟨.listPhysical (fresh_of_nextClusterId hid), ?_⟩ _
    rintro _ ⟨⟩
    exact ⟨nextId?_of_nextClusterId hid, normalName_of_normalName hname, free_of_freshName hfree,
      by rintro _ _ ⟨⟩⟩

theorem addLogicalPlan_enlists (sound : store.contents.Sound) (name : String) (container : Int32) :
    (store.addLogicalPlan name container).Each Contents.Enlists store.contents := by
  have hproceeds := addLogicalPlan_proceeds sound name container
  rcases store.addLogicalPlan_listing name container with ⟨error, hplan⟩ |
    ⟨listing, id, normal, position, announced, hname, hplan, rfl, hact⟩
  · rw [hplan]
    exact .refuse error
  · rw [hact] at hproceeds ⊢
    obtain _ | ⟨-, _ | ⟨hdescriptor, _ | ⟨hlisting, -⟩⟩⟩ := hproceeds
    obtain ⟨hlisted, hphysical, -, hposition⟩ := of_logicalPlan sound hplan
    obtain ⟨hfree, hid⟩ := checks_of_logicalPlan hplan
    refine .act _ (.cons ⟨hdescriptor.fits, ?_⟩ (.cons ⟨hlisting.fits, ?_⟩ (.nil _)))
    · rintro _ ⟨⟩
    · rintro _ ⟨⟩
      refine ⟨nextId?_of_nextClusterId hid, normalName_of_normalName hname,
        free_of_freshName hfree, ?_⟩
      rintro _ _ ⟨⟩
      have hhome := sound.housed hlisted
      refine ⟨listing, hlisted, hphysical, rfl, ?_, ?_⟩
      · rw [hposition]
        exact sound.start _
      · show position.toInt < (store.contents.putSlot listing.home position _).next listing.home
        rw [Contents.next_putSlot _ hhome, if_pos rfl]
        omega

end Store

namespace Contents

variable {contents : Contents} {deed : Deed}

/-! ## The directory in order -/

/-- Every cluster, by increasing id. -/
def listed (contents : Contents) : List Cluster := contents.clusters.values.map (·.cluster)

/-- The ids are 0, 1, 2 and so on, clusters and names find each other, and every logical cluster is kept
in a physical one before it, which has handed out its descriptor. -/
structure Catalogued (contents : Contents) : Prop where
  ids : contents.clusters.keys = (List.range contents.clusters.size).map Int16.ofNat
  few : contents.clusters.size ≤ 2 ^ 15
  names : ∀ {name id}, contents.names.get? name = some id ↔
    ∃ listing, contents.clusters.get? id = some listing ∧ listing.cluster.name = name
  inside : ∀ {id listing container descriptor}, contents.clusters.get? id = some listing →
    listing.cluster.kind = .logical container descriptor → container < id ∧
      ∃ root, contents.Hosts container descriptor root ∧ listing.home = root.home

theorem Catalogued.empty : ({} : Contents).Catalogued where
  ids := rfl
  few := Nat.zero_le _
  names {name id} := by
    constructor
    · rintro ⟨⟩
    · rintro ⟨listing, ⟨⟩, -⟩
  inside := by rintro _ _ _ _ ⟨⟩

theorem Fits.next_le (sound : contents.Sound) (fits : contents.Fits deed) (home : Nat) :
    contents.next home ≤ deed.after.next home := by
  have put {listing : Listing} (hhome : listing.home < contents.containers.length)
      (position : Int64) (slot : Slot) :
      contents.next home ≤ (contents.putSlot listing.home position slot).next home := by
    rw [next_putSlot _ hhome]
    split
    · rename_i he
      rw [he]
      exact Int.le_max_left ..
    · exact Int.le_refl _
  cases fits with
  | put tally admits _ => exact put (sound.housed admits.listed) _ _
  | announce listed _ _ => exact put (sound.housed listed) _ _
  | free tally admits => exact Int.le_of_eq (next_removeSlot _ (sound.housed admits.listed) _ _).symm
  | listPhysical _ => exact Int.le_of_eq (next_listWithContainer ..).symm
  | listLogical _ _ | bind | unbind => exact Int.le_refl _

theorem Hosts.after {container : Int16} {descriptor : RecordId} {root : Listing}
    (hosts : contents.Hosts container descriptor root) (sound : contents.Sound)
    (fits : contents.Fits deed) : deed.after.Hosts container descriptor root where
  listed := fits.listed hosts.listed
  physical := hosts.physical
  cluster := hosts.cluster
  nonneg := hosts.nonneg
  handed := Int.lt_of_lt_of_le hosts.handed (fits.next_le sound root.home)

theorem Catalogued.same {after : Contents} (catalogued : contents.Catalogued)
    (same : contents.SameClusters after)
    (hosts : ∀ {container descriptor root}, contents.Hosts container descriptor root →
      after.Hosts container descriptor root) : after.Catalogued where
  ids := by
    rw [same.clusters]
    exact catalogued.ids
  few := by
    rw [same.clusters]
    exact catalogued.few
  names := by
    rw [same.clusters, same.names]
    exact catalogued.names
  inside h hkind := by
    rw [same.clusters] at h
    obtain ⟨hlt, root, hroot, hhome⟩ := catalogued.inside h hkind
    exact ⟨hlt, root, hosts hroot, hhome⟩

/-- Clusters and names still find each other when one more cluster has a free id and a free name. -/
theorem Catalogued.names_insert {cluster : Cluster} {home : Nat} (catalogued : contents.Catalogued)
    (fresh : contents.clusters.get? cluster.id = none)
    (free : contents.names.get? cluster.name = none) {name : String} {id : Int16} :
    (contents.names.insert cluster.name cluster.id).get? name = some id ↔
      ∃ listing, (contents.clusters.insert cluster.id ⟨cluster, home⟩).get? id = some listing ∧
        listing.cluster.name = name := by
  simp only [Table.get?_insert]
  by_cases hlast : id = cluster.id
  · simp only [if_pos hlast, Option.some.injEq, exists_eq_left']
    split
    · rename_i hname
      simp [hname, hlast]
    · rename_i hname
      refine ⟨fun h => ?_, fun h => absurd h.symm hname⟩
      obtain ⟨listing, hlisted, -⟩ := catalogued.names.1 h
      rw [hlast, fresh] at hlisted
      cases hlisted
  · simp only [if_neg hlast]
    split
    · rename_i hname
      refine ⟨fun h => absurd (Option.some.inj h).symm hlast, fun h => ?_⟩
      rw [← catalogued.names, hname, free] at h
      cases h
    · exact catalogued.names

/-- A directory in order stays so when it takes in a cluster. -/
theorem Catalogued.insert {cluster : Cluster} {home : Nat} {after : Contents}
    (catalogued : contents.Catalogued) (joins : contents.Joins cluster)
    (fresh : contents.clusters.get? cluster.id = none)
    (hclusters : after.clusters = contents.clusters.insert cluster.id ⟨cluster, home⟩)
    (hnames : after.names = contents.names.insert cluster.name cluster.id)
    (hhome : ∀ {container descriptor}, cluster.kind = .logical container descriptor →
      ∃ root, contents.clusters.get? container = some root ∧ home = root.home)
    (hosts : ∀ {container descriptor root}, contents.Hosts container descriptor root →
      after.Hosts container descriptor root) : after.Catalogued := by
  have hlast := lt_of_nextId? joins.next
  obtain ⟨hfew, hid⟩ := nextId?_of_ids catalogued.ids catalogued.few joins.next
  have hentries : after.clusters.entries =
      contents.clusters.entries ++ [(cluster.id, ⟨cluster, home⟩)] := by
    rw [hclusters]
    exact Table.entries_insert_of_forall_lt hlast _
  have hsize : after.clusters.size = contents.clusters.size + 1 := by
    rw [Table.size, hentries, List.length_append]
    rfl
  refine ⟨?_, by omega, ?_, ?_⟩
  · rw [hsize, List.range_succ, List.map_append, ← catalogued.ids, Table.keys, hentries, hid,
      List.map_append]
    rfl
  · rw [hclusters, hnames]
    exact catalogued.names_insert fresh joins.free
  · intro id listing container descriptor h hkind
    rw [hclusters, Table.get?_insert] at h
    split at h
    · rename_i he
      cases h
      obtain ⟨root, hroot⟩ := joins.hosted hkind
      obtain ⟨root', hroot', rfl⟩ := hhome hkind
      obtain rfl := Option.some.inj (hroot.listed.symm.trans hroot')
      have hbefore : compare container cluster.id = .lt :=
        hlast (container, root) (Table.mem_entries_iff.2 hroot.listed)
      refine ⟨?_, root, hosts hroot, rfl⟩
      rw [he]
      exact Std.compare_eq_lt.1 hbefore
    · obtain ⟨hlt, root, hroot, heq⟩ := catalogued.inside h hkind
      exact ⟨hlt, root, hosts hroot, heq⟩

theorem Enlists.catalogued (sound : contents.Sound) (enlists : contents.Enlists deed)
    (catalogued : contents.Catalogued) : deed.after.Catalogued := by
  have hosts {container descriptor root} (h : contents.Hosts container descriptor root) :
      deed.after.Hosts container descriptor root := h.after sound enlists.fits
  rcases enlists.fits.directory with ⟨-, same⟩ |
    ⟨cluster, home, hentry, fresh, hclusters, hnames, hhome⟩
  · exact catalogued.same same hosts
  · exact catalogued.insert (enlists.joins hentry) fresh hclusters hnames hhome hosts

/-- Clusters join at the end. -/
theorem Enlists.listed (enlists : contents.Enlists deed) :
    deed.after.listed = contents.listed ++ deed.entry.cluster?.toList := by
  rcases enlists.fits.directory with ⟨hnone, same⟩ |
    ⟨cluster, home, hentry, -, hclusters, -⟩
  · rw [hnone, Contents.listed, same.clusters]
    exact (List.append_nil _).symm
  · have hlast := lt_of_nextId? (enlists.joins hentry).next
    rw [hentry, Contents.listed, Table.values, hclusters, Table.entries_insert_of_forall_lt hlast,
      List.map_append, List.map_append]
    rfl

/-! ## Names -/

/-- Clusters are known by normal names. -/
def Named (contents : Contents) : Prop :=
  ∀ name id, contents.names.get? name = some id → Store.normalName name = .ok name

/-- A cluster is listed, and known by a name. -/
structure Knows (contents : Contents) (name : String) (id : Int16) : Prop where
  named : contents.names.get? name = some id
  listed : ∃ listing, contents.clusters.get? id = some listing

theorem Named.empty : ({} : Contents).Named := by rintro _ _ ⟨⟩

theorem Named.same {after : Contents} (named : contents.Named) (same : contents.SameClusters after) :
    after.Named := by
  intro name id h
  rw [same.names] at h
  exact named name id h

theorem Named.insert {cluster : Cluster} {after : Contents} (named : contents.Named)
    (hnames : after.names = contents.names.insert cluster.name cluster.id)
    (normal : Store.normalName cluster.name = .ok cluster.name) : after.Named := by
  intro name id h
  rw [hnames, Table.get?_insert] at h
  split at h
  · rename_i he
    rw [he]
    exact normal
  · exact named name id h

/-- What the entries of a log give is known by normal names if each of its clusters has one. -/
theorem Named.applyAll {entries : List LogEntry} {after : Contents} (named : contents.Named)
    (h : contents.applyAll entries = .ok after)
    (normal : ∀ entry ∈ entries, ∀ cluster, entry.cluster? = some cluster →
      Store.normalName cluster.name = .ok cluster.name) : after.Named := by
  induction entries generalizing contents with
  | nil =>
    cases h
    exact named
  | cons entry rest ih =>
    rw [Contents.applyAll] at h
    split at h
    · rename_i next hnext
      refine ih ?_ h fun entry hentry => normal entry (List.mem_cons_of_mem _ hentry)
      rcases directory_of_apply hnext with ⟨-, same⟩ | ⟨cluster, home, hentry, -, hnames⟩
      · exact named.same same
      · exact named.insert hnames (normal entry List.mem_cons_self cluster hentry)
    · cases h

theorem Enlists.named (enlists : contents.Enlists deed) (named : contents.Named) :
    deed.after.Named := by
  rcases enlists.fits.directory with ⟨-, same⟩ | ⟨cluster, home, hentry, -, -, hnames, -⟩
  · exact named.same same
  · exact named.insert hnames (enlists.joins hentry).normal

/-- A cluster stays known by its name. -/
theorem Enlists.knows {name : String} {id : Int16} (enlists : contents.Enlists deed)
    (knows : contents.Knows name id) : deed.after.Knows name id where
  named := by
    rcases enlists.fits.directory with ⟨-, same⟩ | ⟨cluster, home, hentry, -, -, hnames, -⟩
    · rw [same.names]
      exact knows.named
    · have hne : name ≠ cluster.name := by
        intro he
        have hfree := (enlists.joins hentry).free
        rw [← he, knows.named] at hfree
        cases hfree
      rw [hnames, Table.get?_insert, if_neg hne]
      exact knows.named
  listed := knows.listed.imp fun _ => enlists.fits.listed

end Contents

namespace Store

variable {store : Store}

/-- A cluster that is added is listed under its normal name. -/
theorem listed_of_addPhysical {after : Store} {name : String} {file : Option String} {size : Int32}
    {added : Int16} (h : store.addPhysical name file size = (.ok added, after)) :
    ∃ normal, normalName name = .ok normal ∧ after.contents =
      store.contents.listWithContainer ⟨added, normal, .physical file size⟩ := by
  unfold addPhysical at h
  split at h
  · cases h
  · rename_i normal hnormal
    refine ⟨normal, hnormal, ?_⟩
    unfold addPhysicalNamed at h
    split at h
    · cases h
    · split at h
      · cases h
      · simp only [write] at h
        split at h <;> rename_i hwrite <;> split at hwrite <;> cases hwrite <;> cases h
        rfl

attribute [local irreducible] normalName in
/-- A cluster that is added is known by its normal name. -/
theorem knows_of_addPhysical {after : Store} {name : String} {file : Option String} {size : Int32}
    {id : Int16} (h : store.addPhysical name file size = (.ok id, after)) :
    ∃ normal, normalName name = .ok normal ∧ after.contents.Knows normal id := by
  obtain ⟨normal, hnormal, hcontents⟩ := listed_of_addPhysical h
  rw [hcontents]
  exact ⟨normal, hnormal, Table.get?_insert_self .., _, Table.get?_insert_self ..⟩

attribute [local irreducible] normalName in
theorem knows_of_addLogical {after : Store} {name : String} {container : Int32} {id : Int16}
    {descriptor : RecordId} (h : store.addLogical name container = (.ok (id, descriptor), after)) :
    ∃ normal, normalName name = .ok normal ∧ after.contents.Knows normal id := by
  unfold addLogical at h
  split at h
  · cases h
  · rename_i normal hnormal
    refine ⟨normal, hnormal, ?_⟩
    split at h
    · cases h
    · rename_i listing next position hplan
      simp only [writeSlot, write] at h
      split at h
      · cases h
      · split at h
        · cases h
        · rename_i hwrite
          split at hwrite <;> cases hwrite
          cases h
          exact ⟨Table.get?_insert_self .., _, Table.get?_insert_self ..⟩

theorem error_nextClusterId {error : Error} (h : store.nextClusterId = .error error) :
    error = .invalidOperation .clusterIdsExhausted := by
  unfold nextClusterId at h
  split at h
  · cases h
  · split at h <;> cases h
    rfl

theorem error_write {after : Store} {entry : LogEntry} {change : Store → Store} {error : Error}
    (h : store.write entry change = (.error error, after)) : error = Journal.refusal := by
  unfold write at h
  split at h <;> rename_i happend <;> cases h
  exact Journal.error_append happend

/-- Adding a physical cluster is rejected because its name is taken just if a cluster is known by the
normal form of the name. -/
theorem clusterExists_iff (name : String) (file : Option String) (size : Int32) :
    (∃ taken, (store.addPhysical name file size).1 = .error (.clusterExists taken)) ↔
      ∃ normal id, normalName name = .ok normal ∧ store.contents.names.get? normal = some id := by
  unfold addPhysical
  split
  · rename_i error hname
    rw [error_normalName hname, hname]
    simp
  · rename_i normal hname
    rw [hname]
    unfold addPhysicalNamed freshName
    cases hfound : store.contents.names.get? normal with
    | some id => simp [Table.contains, hfound]
    | none =>
      simp only [Table.contains, hfound, Option.isSome_none, Bool.false_eq_true, if_false]
      split
      · rename_i error hnext
        simp [error_nextClusterId hnext, hfound]
      · split
        · rename_i error after hwrite
          simp [error_write hwrite, Journal.refusal, hfound]
        · simp [hfound]

end Store
end RecordBase
