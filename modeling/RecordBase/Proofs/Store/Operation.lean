import RecordBase.Proofs.Store.Deed

/-!
# What the operations do

The plan of each operation, seen from the contents: it is refused, or it writes one or two deeds
that proceed (`Contents.Proceeds`): `Store.createPlan_cases` and `Store.createPlan_proceeds` with
their companions for the other operations.
-/

namespace RecordBase

/-- A record in a slot: the slot of an identity in the container of its cluster. -/
structure Contents.Stored (contents : Contents) (id : RecordId) (listing : Listing) (slot : Slot) :
    Prop where
  listed : contents.clusters.get? id.cluster = some listing
  slot_eq : contents.slot? listing.home id.position = some slot
  owner_eq : slot.owner = listing.cluster.id

namespace Contents.Stored

variable {contents : Contents} {id : RecordId} {listing : Listing} {slot : Slot}

theorem admits (sound : contents.Sound) (h : contents.Stored id listing slot) :
    contents.Admits listing id.position where
  listed := by
    rw [sound.keyed h.listed]
    exact h.listed
  own hs := by
    rw [h.slot_eq] at hs
    cases hs
    exact h.owner_eq

/-- An identity is that of its cluster's listing. -/
theorem id_eq (sound : contents.Sound) (h : contents.Stored id listing slot) :
    (⟨listing.cluster.id, id.position⟩ : RecordId) = id := by
  rw [sound.keyed h.listed]

theorem record?_eq (h : contents.Stored id listing slot) :
    contents.record? id = some (slot.record id) := by
  have hs := h.slot_eq
  rw [Contents.slot?] at hs
  simp only [Contents.record?, h.listed, Option.bind_some, Container.ownedSlot?, hs,
    Option.filter_some, h.owner_eq, decide_true, if_true, Option.map_some]

end Contents.Stored

namespace Contents

/-- The id after the greatest one. -/
def nextId? (contents : Contents) : Option Int16 :=
  match contents.clusters.last? with
  | none => some 0
  | some (last, _) => if last = Int16.maxValue then none else some (last + 1)

theorem lt_add_one_of_ne_max {n : Int16} (h : n ≠ Int16.maxValue) : n < n + 1 := by
  have hne : n.toInt ≠ 32767 := fun he => h (Int16.toInt_inj.1 he)
  have h₁ := n.le_toInt
  have h₂ := n.toInt_lt
  rw [Int16.lt_iff_toInt_lt, Int16.toInt_add]
  simp only [Int16.toInt_one, Int.bmod]
  omega

theorem lt_of_nextId? {contents : Contents} {id : Int16} (h : contents.nextId? = some id) :
    ∀ entry ∈ contents.clusters.entries, compare entry.1 id = .lt := by
  unfold nextId? at h
  split at h
  · rename_i hlast
    rw [Table.eq_empty_of_last? hlast]
    rintro _ ⟨⟩
  · rename_i last _ hlast
    split at h <;> cases h
    rename_i hmax
    exact Table.lt_of_last? hlast (Std.compare_eq_lt.2 (lt_add_one_of_ne_max hmax))

/-- After ids that are 0, 1, 2 and so on comes their number. -/
theorem nextId?_of_ids {contents : Contents} {id : Int16}
    (ids : contents.clusters.keys = (List.range contents.clusters.size).map Int16.ofNat)
    (few : contents.clusters.size ≤ 2 ^ 15) (h : contents.nextId? = some id) :
    contents.clusters.size < 2 ^ 15 ∧ id = Int16.ofNat contents.clusters.size := by
  unfold nextId? at h
  split at h
  · rename_i hlast
    cases h
    rw [Table.eq_empty_of_last? hlast]
    exact ⟨by decide, rfl⟩
  · rename_i last listing hlast
    have hkeys : contents.clusters.keys.getLast? = some last := by
      rw [Table.keys, List.getLast?_map, ← Table.last?, hlast]
      rfl
    obtain ⟨count, hcount⟩ : ∃ count, contents.clusters.size = count + 1 :=
      Nat.exists_eq_succ_of_ne_zero (Table.size_ne_zero
        (Table.mem_entries_iff.1 (List.mem_of_getLast? hlast)))
    rw [hcount] at ids few ⊢
    rw [ids, List.range_succ, List.map_append, List.map_singleton, List.getLast?_concat] at hkeys
    obtain rfl := Option.some.inj hkeys
    split at h <;> cases h
    rename_i hmax
    have hne : count ≠ 2 ^ 15 - 1 := fun he => hmax (by rw [he]; rfl)
    exact ⟨by omega, (Int16.ofNat_add _ _).symm⟩

end Contents

namespace Store

variable {store : Store}

theorem clusters_of_listing {cluster : Int16} {listing : Listing}
    (h : store.listing cluster = .ok listing) :
    store.contents.clusters.get? cluster = some listing := by
  unfold Store.listing at h
  split at h
  · rename_i found
    cases h
    exact found
  · cases h

theorem listing_of_clusters {cluster : Int16} {listing : Listing}
    (h : store.contents.clusters.get? cluster = some listing) :
    store.listing cluster = .ok listing := by
  simp only [Store.listing, h]

theorem stored?_eq_record? {id : RecordId} {listing : Listing}
    (h : store.contents.clusters.get? id.cluster = some listing) :
    store.stored? listing id = store.contents.record? id := by
  rw [Contents.record?, h]
  rfl

theorem stored_of_stored? {id : RecordId} {listing : Listing} {record : Record}
    (hlisted : store.contents.clusters.get? id.cluster = some listing)
    (h : store.stored? listing id = some record) :
    ∃ slot, store.contents.Stored id listing slot ∧ record = slot.record id := by
  obtain ⟨slot, hslot, rfl⟩ := Option.map_eq_some_iff.1 h
  obtain ⟨hslot, howner⟩ := Option.filter_eq_some_iff.1 hslot
  exact ⟨slot, ⟨hlisted, hslot, of_decide_eq_true howner⟩, rfl⟩

theorem toInt_of_nextPosition (sound : store.contents.Sound) {home : Nat} {position : Int64}
    (h : store.nextPosition home = .ok position) : position.toInt = store.contents.next home := by
  have hstart := sound.start home
  simp only [nextPosition] at h
  split at h
  · rename_i hlt
    cases h
    have hnext : (store.contents.container home).nextPosition = store.contents.next home := rfl
    rw [hnext] at hlt ⊢
    exact Int64.toInt_ofInt_of_le (by omega) hlt
  · cases h

/-- A write expects a record that is stored at the version given. -/
theorem stored_of_expected {id : RecordId} {version : Int32} {listing : Listing} {current : Record}
    (h : (store.expected id version).1 = .ok (listing, current)) :
    ∃ slot, store.contents.Stored id listing slot ∧ current = slot.record id := by
  unfold expected at h
  split at h
  · cases h
  · split at h
    · cases h
    · rename_i hlisting
      split at h
      · cases h
      · rename_i hfound
        split at h
        · cases h
        · cases h
          exact stored_of_stored? (clusters_of_listing hlisting) hfound

/-! ## Records -/

theorem createPlan_cases (sound : store.contents.Sound) (cluster : Int16) (content : Bytes)
    (type : RecordType) :
    (∃ error, store.createPlan cluster content type = .refuse error) ∨
    ∃ listing position slot tally, store.contents.clusters.get? cluster = some listing ∧
      position.toInt = store.contents.next listing.home ∧ slot.owner = listing.cluster.id ∧
      slot.version = 0 ∧
      store.createPlan cluster content type =
        .act [.put store.contents listing position slot
          (.put (slot.record ⟨listing.cluster.id, position⟩)) tally]
          (slot.record ⟨listing.cluster.id, position⟩) := by
  unfold createPlan
  cases hlisting : store.listing cluster with
  | error error => exact .inl ⟨error, rfl⟩
  | ok listing =>
    simp only
    cases hnext : store.nextPosition listing.home with
    | error error => exact .inl ⟨error, rfl⟩
    | ok position =>
      exact .inr ⟨listing, position, ⟨listing.cluster.id, 0, type, content⟩, _,
        clusters_of_listing hlisting, toInt_of_nextPosition sound hnext, rfl, rfl, rfl⟩

theorem replacePlan_cases (id : RecordId) (content : Bytes) (version : Int32)
    (type : Option RecordType) :
    (∃ error, store.replacePlan id content version type = .refuse error) ∨
    ∃ listing old slot tally, store.contents.Stored id listing old ∧
      slot.owner = listing.cluster.id ∧ slot.version.toInt = old.version.toInt + 1 ∧
      store.replacePlan id content version type =
        .act [.put store.contents listing id.position slot (.put (slot.record id)) tally]
          (slot.record id, old.record id) := by
  unfold replacePlan
  cases hfound : (store.expected id version).1 with
  | error error => exact .inl ⟨error, rfl⟩
  | ok found =>
    obtain ⟨listing, current⟩ := found
    obtain ⟨old, hstored, rfl⟩ := stored_of_expected hfound
    simp only
    split
    · exact .inl ⟨_, rfl⟩
    · rename_i hmax
      have hnext : (old.version + 1).toInt = old.version.toInt + 1 := by
        have hne : old.version.toInt ≠ 2147483647 := fun he => hmax (Int32.toInt_inj.1 he)
        have h₁ := old.version.le_toInt
        have h₂ := old.version.toInt_lt
        rw [Int32.toInt_add]
        simp only [Int32.toInt_one, Int.bmod]
        omega
      exact .inr ⟨listing, old, ⟨listing.cluster.id, old.version + 1, _, content⟩, _, hstored, rfl,
        hnext, rfl⟩

theorem removePlan_cases (id : RecordId) (version : Int32) :
    (∃ error, store.removePlan id version = .refuse error) ∨
    ∃ listing old tally, store.contents.Stored id listing old ∧
      store.removePlan id version =
        .act [.free store.contents listing id.position (.erase id) tally] (old.record id) := by
  unfold removePlan
  cases hfound : (store.expected id version).1 with
  | error error => exact .inl ⟨error, rfl⟩
  | ok found =>
    obtain ⟨listing, current⟩ := found
    obtain ⟨old, hstored, rfl⟩ := stored_of_expected hfound
    exact .inr ⟨listing, old, _, hstored, rfl⟩

/-! ## Clusters -/

theorem ok_of_bind {α β : Type} {result : Except Error α} {next : α → Except Error β} {value : β}
    (h : (result >>= next) = .ok value) : ∃ first, result = .ok first ∧ next first = .ok value := by
  cases result with
  | error error => cases h
  | ok first => exact ⟨first, rfl, h⟩

theorem nextId?_of_nextClusterId {id : Int16} (h : store.nextClusterId = .ok id) :
    store.contents.nextId? = some id := by
  unfold nextClusterId at h
  unfold Contents.nextId?
  rcases hlast : store.contents.clusters.last? with _ | ⟨last, listing⟩
  · rw [hlast] at h
    exact congrArg some (Except.ok.inj h)
  · rw [hlast] at h
    simp only at h ⊢
    split at h <;> cases h
    rename_i hmax
    rw [if_neg hmax]

theorem fresh_of_nextClusterId {id : Int16} (h : store.nextClusterId = .ok id) :
    store.contents.clusters.get? id = none :=
  Table.get?_eq_none_of_forall_lt (Contents.lt_of_nextId? (nextId?_of_nextClusterId h))

/-- A physical cluster is refused, or has a normal name that is free and gets the next id. -/
theorem addPhysicalPlan_listing (name : String) (file : Option String) (size : Int32) :
    (∃ error, store.addPhysicalPlan name file size = .refuse error) ∨
    ∃ id normal, normalName name = .ok normal ∧ store.freshName normal = .ok () ∧
      store.nextClusterId = .ok id ∧
      store.addPhysicalPlan name file size =
        .act [.listPhysical store.contents ⟨id, normal, .physical file size⟩] id := by
  unfold addPhysicalPlan
  cases normalName name with
  | error error => exact .inl ⟨error, rfl⟩
  | ok normal =>
    simp only
    cases hfresh : store.freshName normal with
    | error error => exact .inl ⟨error, rfl⟩
    | ok _ =>
      simp only
      cases hid : store.nextClusterId with
      | error error => exact .inl ⟨error, rfl⟩
      | ok id => exact .inr ⟨id, normal, rfl, hfresh, rfl, rfl⟩

theorem addPhysicalPlan_cases (name : String) (file : Option String) (size : Int32) :
    (∃ error, store.addPhysicalPlan name file size = .refuse error) ∨
    ∃ id normal, store.contents.clusters.get? id = none ∧
      store.addPhysicalPlan name file size =
        .act [.listPhysical store.contents ⟨id, normal, .physical file size⟩] id := by
  rcases store.addPhysicalPlan_listing name file size with hrefuse | ⟨id, normal, -, -, hid, hplan⟩
  · exact .inl hrefuse
  · exact .inr ⟨id, normal, fresh_of_nextClusterId hid, hplan⟩

attribute [local irreducible] Store.addPhysical in
theorem addInitial_cons (store : Store) (name : String) (rest : List String) :
    store.addInitial (name :: rest) =
      match store.addPhysical name none (-1) with
      | (.error error, store) => (.error error, store)
      | (.ok _, store) => store.addInitial rest := rfl

/-- What a new logical cluster needs is there. -/
theorem of_logicalPlan (sound : store.contents.Sound) {name : String} {container : Int32}
    {listing : Listing} {id : Int16} {position : Int64}
    (h : store.logicalPlan name container = .ok (listing, id, position)) :
    store.contents.clusters.get? listing.cluster.id = some listing ∧
      listing.cluster.kind.isLogical = false ∧ store.contents.clusters.get? id = none ∧
      position.toInt = store.contents.next listing.home := by
  obtain ⟨containerId, -, h⟩ := ok_of_bind h
  obtain ⟨_, -, h⟩ := ok_of_bind h
  obtain ⟨found, hfound, h⟩ := ok_of_bind h
  obtain ⟨next, hnext, h⟩ := ok_of_bind h
  obtain ⟨place, hplace, h⟩ := ok_of_bind h
  cases h
  unfold physicalListing at hfound
  split at hfound
  · cases hfound
  · rename_i hlisting
    split at hfound <;> cases hfound
    rename_i hphysical
    have hlisted := clusters_of_listing hlisting
    refine ⟨?_, by simpa using hphysical, fresh_of_nextClusterId hnext,
      toInt_of_nextPosition sound hplace⟩
    rw [sound.keyed hlisted]
    exact hlisted

theorem checks_of_logicalPlan {name : String} {container : Int32} {listing : Listing} {id : Int16}
    {position : Int64} (h : store.logicalPlan name container = .ok (listing, id, position)) :
    store.freshName name = .ok () ∧ store.nextClusterId = .ok id := by
  obtain ⟨_, -, h⟩ := ok_of_bind h
  obtain ⟨_, hfresh, h⟩ := ok_of_bind h
  obtain ⟨_, -, h⟩ := ok_of_bind h
  obtain ⟨_, hnext, h⟩ := ok_of_bind h
  obtain ⟨_, -, h⟩ := ok_of_bind h
  cases h
  exact ⟨hfresh, hnext⟩

/-- A logical cluster is refused, or has a normal name and what it needs is there. -/
theorem addLogicalPlan_listing (name : String) (container : Int32) :
    (∃ error, store.addLogicalPlan name container = .refuse error) ∨
    ∃ listing id normal position announced, normalName name = .ok normal ∧
      store.logicalPlan normal container = .ok (listing, id, position) ∧
      announced = Deed.put store.contents listing position
        ⟨listing.cluster.id, 0, .document, Bytes.ofText normal⟩ ∧
      store.addLogicalPlan name container =
        .act [announced,
          .listLogical announced.after
            ⟨id, normal, .logical listing.cluster.id ⟨listing.cluster.id, position⟩⟩ listing.home]
          (id, ⟨listing.cluster.id, position⟩) := by
  unfold addLogicalPlan
  cases normalName name with
  | error error => exact .inl ⟨error, rfl⟩
  | ok normal =>
    simp only
    cases hplan : store.logicalPlan normal container with
    | error error => exact .inl ⟨error, rfl⟩
    | ok found =>
      obtain ⟨listing, id, position⟩ := found
      exact .inr ⟨listing, id, normal, position, _, rfl, hplan, rfl, rfl⟩

theorem addLogicalPlan_cases (sound : store.contents.Sound) (name : String) (container : Int32) :
    (∃ error, store.addLogicalPlan name container = .refuse error) ∨
    ∃ listing id normal position slot announced,
      store.contents.clusters.get? listing.cluster.id = some listing ∧
      listing.cluster.kind.isLogical = false ∧ store.contents.clusters.get? id = none ∧
      position.toInt = store.contents.next listing.home ∧ slot.owner = listing.cluster.id ∧
      slot.version = 0 ∧ announced = Deed.put store.contents listing position slot ∧
      store.addLogicalPlan name container =
        .act [announced,
          .listLogical announced.after
            ⟨id, normal, .logical listing.cluster.id ⟨listing.cluster.id, position⟩⟩ listing.home]
          (id, ⟨listing.cluster.id, position⟩) := by
  rcases store.addLogicalPlan_listing name container with hrefuse |
    ⟨listing, id, normal, position, announced, -, hplan, hannounced, hact⟩
  · exact .inl hrefuse
  · obtain ⟨hlisted, hphysical, hfresh, hposition⟩ := of_logicalPlan sound hplan
    exact .inr ⟨listing, id, normal, position, _, announced, hlisted, hphysical, hfresh, hposition,
      rfl, rfl, hannounced, hact⟩

/-! ## Operations proceed -/

theorem slot?_next (sound : store.contents.Sound) {home : Nat} {position : Int64}
    (h : position.toInt = store.contents.next home) : store.contents.slot? home position = none :=
  Contents.slot?_eq_none_of_next_le sound (by omega)

theorem createPlan_proceeds (sound : store.contents.Sound) (cluster : Int16) (content : Bytes)
    (type : RecordType) :
    (store.createPlan cluster content type).Each Contents.Proceeds store.contents := by
  rcases createPlan_cases sound cluster content type with ⟨error, hplan⟩ |
    ⟨listing, position, slot, tally, hlisted, hposition, howner, -, hplan⟩
  · rw [hplan]
    exact .refuse error
  · rw [hplan]
    have hkey : store.contents.clusters.get? listing.cluster.id = some listing := by
      rw [sound.keyed hlisted]
      exact hlisted
    exact .one ⟨.put _ (.of_free hkey (slot?_next sound hposition)) howner,
      .create (sound.housed hlisted) (by omega) slot⟩ _

theorem replacePlan_proceeds (sound : store.contents.Sound) (id : RecordId) (content : Bytes)
    (version : Int32) (type : Option RecordType) :
    (store.replacePlan id content version type).Each Contents.Proceeds store.contents := by
  rcases store.replacePlan_cases id content version type with ⟨error, hplan⟩ |
    ⟨listing, old, slot, tally, hstored, howner, hversion, hplan⟩
  · rw [hplan]
    exact .refuse error
  · rw [hplan]
    have hfits := Contents.Fits.put tally (hstored.admits sound) howner
    rw [hstored.id_eq sound] at hfits
    have hlt : old.version < slot.version := Int32.lt_iff_toInt_lt.2 (by omega)
    exact .one ⟨hfits, .raise (sound.housed hstored.listed) hstored.slot_eq
      (howner.trans hstored.owner_eq.symm) hlt⟩ _

theorem removePlan_proceeds (sound : store.contents.Sound) (id : RecordId) (version : Int32) :
    (store.removePlan id version).Each Contents.Proceeds store.contents := by
  rcases store.removePlan_cases id version with ⟨error, hplan⟩ | ⟨listing, old, tally, hstored, hplan⟩
  · rw [hplan]
    exact .refuse error
  · rw [hplan]
    have hfits := Contents.Fits.free tally (hstored.admits sound)
    rw [hstored.id_eq sound] at hfits
    exact .one ⟨hfits, .free (sound.housed hstored.listed) id.position⟩ _

theorem addPhysicalPlan_proceeds (store : Store) (name : String) (file : Option String)
    (size : Int32) :
    (store.addPhysicalPlan name file size).Each Contents.Proceeds store.contents := by
  rcases store.addPhysicalPlan_cases name file size with ⟨error, hplan⟩ | ⟨id, normal, hfresh, hplan⟩
  · rw [hplan]
    exact .refuse error
  · rw [hplan]
    exact .one ⟨.listPhysical hfresh, .listWithContainer _ hfresh⟩ _

theorem addLogicalPlan_proceeds (sound : store.contents.Sound) (name : String) (container : Int32) :
    (store.addLogicalPlan name container).Each Contents.Proceeds store.contents := by
  rcases addLogicalPlan_cases sound name container with ⟨error, hplan⟩ |
    ⟨listing, id, normal, position, slot, announced, hlisted, -, hfresh, hposition, howner, -, rfl,
      hplan⟩
  · rw [hplan]
    exact .refuse error
  · rw [hplan]
    exact .act _ (.cons ⟨.announce hlisted (slot?_next sound hposition) howner,
      .create (sound.housed hlisted) (by omega) slot⟩
      (.cons ⟨.listLogical hlisted hfresh, .list _ hfresh⟩ (.nil _)))

theorem bindPlan_proceeds (store : Store) (key : String) (id : RecordId) :
    (store.bindPlan key id).Each Contents.Proceeds store.contents :=
  .one ⟨.bind, .bindKey key id⟩ _

theorem unbindPlan_proceeds (store : Store) (key : String) :
    (store.unbindPlan key).Each Contents.Proceeds store.contents := by
  unfold unbindPlan
  split
  · exact .act _ (.nil _)
  · exact .one ⟨.unbind, .removeKey key⟩ _

end Store

end RecordBase
