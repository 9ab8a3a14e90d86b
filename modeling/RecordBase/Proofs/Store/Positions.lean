import RecordBase.Proofs.Store.Clusters
import RecordBase.Proofs.Store.Opening
import RecordBase.Proofs.Store.Undo

/-!
# The positions of a container

A container hands out its positions in turn. What is created gets the next one, and everything else
that is done to a store leaves the next positions where they are (`Contents.KeepsNext`): a version or
a deletion is written at a position handed out before, and so is what undoes an entry of a batch.
`Contents.Grants` says for some identities that their positions, container by container, are those
from the next position before to the next position after.

* `Contents.Grants.trans`: what is handed out later follows what was handed out before;
* `createPlan_grants`, `addLogical_grants`, `Batch.grants_of_apply`: what creates records hands out
  their positions and no other.

Each container belongs to one physical cluster (`Contents.Based`), so the positions of a container are
those of that cluster and of the logical clusters inside it (`Based.storage_eq_iff`).
-/

namespace RecordBase

/-! ## Counting -/

/-- The numbers from one on, up to and without another, in their order. -/
structure CountsUp (first : Int) (numbers : List Int) (next : Int) : Prop where
  numbers_eq : numbers = (List.range numbers.length).map fun i => first + Int.ofNat i
  next_eq : next = first + numbers.length

namespace CountsUp

theorem nil (first : Int) : CountsUp first [] first where
  numbers_eq := rfl
  next_eq := (Int.add_zero first).symm

theorem one (first : Int) : CountsUp first [first] (first + 1) where
  numbers_eq := by simp
  next_eq := rfl

theorem append {first middle last : Int} {numbers more : List Int}
    (h₁ : CountsUp first numbers middle) (h₂ : CountsUp middle more last) :
    CountsUp first (numbers ++ more) last where
  numbers_eq := by
    have hmore : more = (List.range more.length).map fun i =>
        first + Int.ofNat (numbers.length + i) := by
      refine h₂.numbers_eq.trans (List.map_congr_left fun i _ => ?_)
      rw [h₁.next_eq, Int.add_assoc]
      rfl
    rw [List.length_append, List.range_add, List.map_append, List.map_map, ← h₁.numbers_eq]
    exact congrArg (numbers ++ ·) hmore
  next_eq := by
    rw [h₂.next_eq, h₁.next_eq, List.length_append]
    omega

end CountsUp

namespace Contents

variable {contents before middle after : Contents} {deed : Deed}

/-! ## Identities handed out -/

/-- The container that keeps the records of the cluster of an identity. -/
def home? (contents : Contents) (id : RecordId) : Option Nat :=
  (contents.clusters.get? id.cluster).map (·.home)

/-- The positions of those of some identities that are kept in a container. -/
def positionsIn (contents : Contents) (home : Nat) (ids : List RecordId) : List Int :=
  (ids.filter fun id => contents.home? id = some home).map (·.position.toInt)

theorem positionsIn_append (contents : Contents) (home : Nat) (ids more : List RecordId) :
    contents.positionsIn home (ids ++ more) =
      contents.positionsIn home ids ++ contents.positionsIn home more := by
  rw [positionsIn, List.filter_append, List.map_append]
  rfl

/-- What the contents become while some identities, and no other position, are handed out in turn. -/
structure Grants (before : Contents) (ids : List RecordId) (after : Contents) : Prop where
  listed : ∀ {id listing}, before.clusters.get? id = some listing →
    after.clusters.get? id = some listing
  known : ∀ id ∈ ids, ∃ listing, after.clusters.get? id.cluster = some listing
  counts : ∀ home, CountsUp (before.next home) (after.positionsIn home ids) (after.next home)

/-- Contents that hand out nothing. -/
theorem Grants.none
    (listed : ∀ {id listing}, before.clusters.get? id = some listing →
      after.clusters.get? id = some listing)
    (next : ∀ home, after.next home = before.next home) : before.Grants [] after where
  listed := listed
  known := by rintro _ ⟨⟩
  counts home := by
    rw [next home]
    exact .nil _

theorem Grants.refl (contents : Contents) : contents.Grants [] contents := .none id fun _ => rfl

theorem Grants.trans {ids more : List RecordId} (h₁ : before.Grants ids middle)
    (h₂ : middle.Grants more after) : before.Grants (ids ++ more) after where
  listed h := h₂.listed (h₁.listed h)
  known id hid := by
    rcases List.mem_append.1 hid with hid | hid
    · obtain ⟨listing, hlisted⟩ := h₁.known id hid
      exact ⟨listing, h₂.listed hlisted⟩
    · exact h₂.known id hid
  counts home := by
    -- The clusters of the first identities are still kept where they were.
    have hfirst : after.positionsIn home ids = middle.positionsIn home ids := by
      rw [positionsIn, positionsIn]
      congr 1
      refine List.filter_congr fun id hid => ?_
      obtain ⟨listing, hlisted⟩ := h₁.known id hid
      rw [home?, home?, hlisted, h₂.listed hlisted]
    rw [positionsIn_append, hfirst]
    exact (h₁.counts home).append (h₂.counts home)

/-- A record at the next position of its container. -/
theorem Grants.create (sound : contents.Sound) {listing : Listing} {position : Int64}
    (listed : contents.clusters.get? listing.cluster.id = some listing)
    (next : position.toInt = contents.next listing.home) (slot : Slot) :
    contents.Grants [⟨listing.cluster.id, position⟩]
      (contents.putSlot listing.home position slot) where
  listed h := h
  known id hid := by
    obtain rfl := List.mem_singleton.1 hid
    exact ⟨listing, listed⟩
  counts home := by
    have hhome : (contents.putSlot listing.home position slot).home?
        ⟨listing.cluster.id, position⟩ = some listing.home := congrArg (Option.map _) listed
    rw [next_putSlot _ (sound.housed listed), positionsIn]
    by_cases h : home = listing.home
    · subst h
      have hmax : max (contents.next listing.home) (position.toInt + 1) =
          contents.next listing.home + 1 := by omega
      simp only [List.filter_cons, hhome, decide_true, if_true, List.filter_nil, List.map_cons,
        List.map_nil, next] at hmax ⊢
      rw [hmax]
      exact .one _
    · have hne : ¬ listing.home = home := fun he => h he.symm
      simp only [List.filter_cons, hhome, Option.some.injEq, hne, decide_false, Bool.false_eq_true,
        if_false, List.filter_nil, List.map_nil, h]
      exact .nil _

/-- A deed that hands out no position. -/
def KeepsNext (contents : Contents) (deed : Deed) : Prop :=
  ∀ home, deed.after.next home = contents.next home

end Contents

/-! ## Plans -/

namespace Store

open Contents (KeepsNext)

variable {store after : Store}

theorem Law.keepsNext :
    Law KeepsNext fun a b => ∀ home, b.contents.next home = a.contents.next home where
  trans h₁ h₂ home := (h₂ home).trans (h₁ home)
  idle h home := by rw [h.contents]
  tries h home := by
    cases h with
    | refused _ _ => rfl
    | written keeps _ =>
      rw [contents_done]
      exact keeps home

theorem replacePlan_keepsNext (sound : store.contents.Sound) (id : RecordId) (content : Bytes)
    (version : Int32) (type : Option RecordType) :
    (store.replacePlan id content version type).Each KeepsNext store.contents := by
  rcases store.replacePlan_cases id content version type with ⟨error, hplan⟩ |
    ⟨listing, old, slot, tally, stored, -, -, hplan⟩
  · rw [hplan]
    exact .refuse error
  · rw [hplan]
    exact .one (Contents.next_setSlot (sound.housed stored.listed) (sound.below stored.slot_eq)
      (some slot)) _

theorem removePlan_keepsNext (sound : store.contents.Sound) (id : RecordId) (version : Int32) :
    (store.removePlan id version).Each KeepsNext store.contents := by
  rcases store.removePlan_cases id version with ⟨error, hplan⟩ | ⟨listing, old, tally, stored, hplan⟩
  · rw [hplan]
    exact .refuse error
  · rw [hplan]
    exact .one (Contents.next_removeSlot _ (sound.housed stored.listed) _) _

theorem addPhysicalPlan_keepsNext (store : Store) (name : String) (file : Option String)
    (size : Int32) : (store.addPhysicalPlan name file size).Each KeepsNext store.contents := by
  rcases store.addPhysicalPlan_cases name file size with ⟨error, hplan⟩ | ⟨id, normal, -, hplan⟩
  · rw [hplan]
    exact .refuse error
  · rw [hplan]
    exact .one (Contents.next_listWithContainer _ _) _

theorem bindPlan_keepsNext (store : Store) (key : String) (id : RecordId) :
    (store.bindPlan key id).Each KeepsNext store.contents := .one (fun _ => rfl) _

theorem unbindPlan_keepsNext (store : Store) (key : String) :
    (store.unbindPlan key).Each KeepsNext store.contents := by
  unfold unbindPlan
  split
  · exact .act _ (.nil _)
  · exact .one (fun _ => rfl) _

/-- The identity under which a record is created, if it is. -/
def created? (store : Store) (cluster : Int16) (content : Bytes) (type : RecordType) :
    Option RecordId :=
  (store.create cluster content type).1.toOption.map (·.id)

/-- A record that is created gets the next position, and one that is refused none. -/
theorem createPlan_grants (sound : store.contents.Sound) {cluster : Int16} {content : Bytes}
    {type : RecordType} {result : Except Error Record}
    (h : store.perform (store.createPlan cluster content type) = (result, after)) :
    store.contents.Grants (result.toOption.map (·.id)).toList after.contents := by
  rcases createPlan_cases sound cluster content type with ⟨error, hplan⟩ |
    ⟨listing, position, slot, tally, hlisted, hposition, -, -, hplan⟩
  · rw [hplan] at h
    cases h
    exact .refl _
  · have hkeyed : store.contents.clusters.get? listing.cluster.id = some listing := by
      rw [sound.keyed hlisted]
      exact hlisted
    have hgrants := Contents.Grants.create sound hkeyed hposition slot
    rw [hplan] at h
    generalize hdeed : Deed.put store.contents listing position slot
      (.put (slot.record ⟨listing.cluster.id, position⟩)) tally = deed at h
    rcases happend : store.journal.append deed.entry with ⟨error | offset, journal⟩
    · rw [perform_one_of_refused happend] at h
      cases h
      exact .refl _
    · rw [perform_one_of_written happend] at h
      cases h
      rw [contents_done, ← hdeed]
      exact hgrants

attribute [local irreducible] normalName in
/-- The identity of the descriptor that is written when a logical cluster is added, whether the cluster
can then be listed or not. -/
def descriptor? (store : Store) (name : String) (container : Int32) : Option RecordId :=
  match normalName name with
  | .error _ => none
  | .ok name =>
    match store.logicalPlan name container with
    | .error _ => none
    | .ok (listing, _, position) =>
      let owner := listing.cluster.id
      match (store.writeSlot listing position ⟨owner, 0, .document, Bytes.ofText name⟩).1 with
      | .error _ => none
      | .ok () => some ⟨owner, position⟩

attribute [local irreducible] normalName in
/-- A descriptor that is written gets the next position of the container. -/
theorem addLogical_grants (sound : store.contents.Sound) (name : String) (container : Int32) :
    store.contents.Grants (store.descriptor? name container).toList
      (store.addLogical name container).2.contents := by
  unfold addLogical descriptor?
  cases normalName name with
  | error error => exact .refl _
  | ok name =>
    simp only
    cases hplan : store.logicalPlan name container with
    | error error => exact .refl _
    | ok found =>
      obtain ⟨listing, id, position⟩ := found
      obtain ⟨hlisted, -, hfresh, hposition⟩ := of_logicalPlan sound hplan
      have hgrants := Contents.Grants.create sound hlisted hposition
        ⟨listing.cluster.id, 0, .document, Bytes.ofText name⟩
      have hlist := @Contents.Advances.list (store.contents.putSlot listing.home position
        ⟨listing.cluster.id, 0, .document, Bytes.ofText name⟩) listing.home
        ⟨id, name, .logical listing.cluster.id ⟨listing.cluster.id, position⟩⟩ hfresh
      simp only [writeSlot, write]
      rcases store.journal.append _ with ⟨error | offset, journal⟩
      · exact .refl _
      · simp only [change]
        rcases journal.append _ with ⟨error | offset, journal⟩
        · exact hgrants
        · have hboth := hgrants.trans (.none hlist.listed fun _ => rfl)
          rwa [List.append_nil] at hboth

end Store

/-! ## Batches -/

namespace Batch

variable {store after : Store} {batch next : Batch} {entry : BatchEntry}

/-- An entry that is applied hands out the positions of the records that it adds to the outcome. -/
theorem grants_of_apply (sound : store.contents.Sound)
    (h : batch.apply store entry = (.ok next, after)) :
    ∃ more, next.outcome.created = batch.outcome.created ++ more ∧
      store.contents.Grants (more.map (·.2)) after.contents := by
  have hadvances := (sound_advances_apply sound h).2
  rw [apply_eq] at h
  cases entry with
  | create cluster name content =>
    cases content with
    | none => cases h
    | some content =>
      simp only [plan] at h
      split at h
      · cases h
      · rename_i target htarget
        obtain ⟨record, hperform, rfl⟩ := Store.ok_of_perform_map h
        exact ⟨_, rfl, Store.createPlan_grants sound hperform⟩
  | update id version content =>
    cases content with
    | none => cases h
    | some content =>
      simp only [plan] at h
      split at h
      · cases h
      · rename_i meant hmeant
        obtain ⟨records, hperform, rfl⟩ := Store.ok_of_perform_map h
        have hnext := Store.Law.keepsNext.perform
          (Store.replacePlan_keepsNext sound meant content version none)
        rw [hperform] at hnext
        exact ⟨[], (List.append_nil _).symm, .none hadvances.listed hnext⟩
  | delete id version =>
    simp only [plan] at h
    split at h
    · cases h
    · rename_i meant hmeant
      obtain ⟨record, hperform, rfl⟩ := Store.ok_of_perform_map h
      have hnext := Store.Law.keepsNext.perform (Store.removePlan_keepsNext sound meant version)
      rw [hperform] at hnext
      exact ⟨[], (List.append_nil _).symm, .none hadvances.listed hnext⟩

/-- An entry that is refused hands out nothing. -/
theorem grants_of_refused {error : Error} (sound : store.contents.Sound)
    (h : batch.apply store entry = (.error error, after)) : store.contents.Grants [] after.contents := by
  have hsets := plan_sets sound batch entry
  rw [apply_eq] at h
  generalize batch.plan store entry = plan at h hsets
  cases hsets with
  | refuse error =>
    cases h
    exact .refl _
  | @act deed answer _ _ _ _ _ _ _ =>
    rcases happend : store.journal.append deed.entry with ⟨failure | offset, journal⟩
    · rw [Store.perform_one_of_refused happend] at h
      cases h
      exact .refl _
    · rw [Store.perform_one_of_written happend] at h
      cases h

/-- Undoing entries hands out nothing and takes no position back. -/
theorem next_foldl_undoOne {start : Contents} {undos : List Undo} (sound : store.contents.Sound)
    (pending : Undo.Pending Contents.Advances start undos store.contents) (home : Nat) :
    (undos.foldl undoOne store).contents.next home = store.contents.next home := by
  induction undos generalizing store with
  | nil => rfl
  | cons undo rest ih =>
    obtain ⟨-, hsound, hpending⟩ := undoOne_of_pending sound pending
    refine (ih hsound hpending).trans ?_
    obtain _ | @⟨_, _, listing, old, _, _, _, earlier, soundBefore, wrote, since⟩ := pending
    -- What the entry wrote stands below the next position, which has not fallen since.
    have hhome := sound.housed (wrote.listed_now since)
    have hbelow := Int.lt_of_lt_of_le (wrote.below_next soundBefore) (since.next listing.home)
    rw [undoOne_eq, wrote.undoPlan_eq soundBefore since]
    split
    · rcases Store.contents_perform_one store (.restore store.contents listing undo.id old) true
        with h | h
      · rw [h]
      · rw [h, Deed.after_restore, Contents.next_setSlot hhome hbelow]
    · rfl

theorem grants_rollback {start : Contents} (sound : store.contents.Sound)
    (pending : Undo.Pending Contents.Advances start batch.undo store.contents) :
    store.contents.Grants [] (batch.rollback store).contents := by
  refine .none (fun {id listing} h => ?_) (next_foldl_undoOne sound pending)
  rw [(sameClusters_rollback batch store).clusters]
  exact h

end Batch

/-! ## Containers and their clusters -/

namespace Contents

variable {contents before after : Contents} {deed : Deed}

/-- Every cluster is kept in the container of a physical one, and no two physical clusters share a
container. -/
structure Based (contents : Contents) : Prop where
  root : ∀ {id listing}, contents.clusters.get? id = some listing →
    ∃ root, contents.clusters.get? listing.cluster.storage = some root ∧
      root.cluster.kind.isLogical = false ∧ root.home = listing.home
  apart : ∀ {id other a b}, contents.clusters.get? id = some a →
    contents.clusters.get? other = some b → a.cluster.kind.isLogical = false →
    b.cluster.kind.isLogical = false → a.home = b.home → id = other

theorem Based.empty : ({} : Contents).Based where
  root h := by cases h
  apart h := by cases h

/-- The clusters kept in the container of a physical cluster are those that have it as their storage. -/
theorem Based.storage_eq_iff (based : contents.Based) {cluster id : Int16} {root listing : Listing}
    (hroot : contents.clusters.get? cluster = some root)
    (physical : root.cluster.kind.isLogical = false)
    (listed : contents.clusters.get? id = some listing) :
    listing.cluster.storage = cluster ↔ listing.home = root.home := by
  obtain ⟨found, hfound, hphysical, hhome⟩ := based.root listed
  constructor
  · rintro rfl
    cases hroot.symm.trans hfound
    exact hhome.symm
  · intro h
    exact based.apart hfound hroot hphysical physical (hhome.trans h)

theorem Based.of_clusters (based : before.Based) (h : after.clusters = before.clusters) :
    after.Based where
  root := by
    rw [h]
    exact based.root
  apart := by
    rw [h]
    exact based.apart

/-- A new cluster that is kept with a physical one or, if it is physical itself, with no other. -/
theorem Based.insert (based : before.Based) {id : Int16} {listing : Listing}
    (fresh : before.clusters.get? id = none)
    (hafter : after.clusters = before.clusters.insert id listing)
    (root : ∃ root, after.clusters.get? listing.cluster.storage = some root ∧
      root.cluster.kind.isLogical = false ∧ root.home = listing.home)
    (apart : listing.cluster.kind.isLogical = false →
      ∀ {other found}, before.clusters.get? other = some found → found.home ≠ listing.home) :
    after.Based where
  root {other found} h := by
    rw [hafter, Table.get?_insert] at h
    split at h
    · cases h
      exact root
    · obtain ⟨base, hbase, hphysical, hhome⟩ := based.root h
      refine ⟨base, ?_, hphysical, hhome⟩
      rw [hafter, Table.get?_insert, if_neg]
      · exact hbase
      · intro he
        rw [he, fresh] at hbase
        cases hbase
  apart {first second a b} ha hb hphysical hphysical' hhome := by
    rw [hafter, Table.get?_insert] at ha hb
    split at ha <;> rename_i hfirst <;> split at hb <;> rename_i hsecond
    · rw [hfirst, hsecond]
    · cases ha
      exact absurd hhome.symm (apart hphysical hb)
    · cases hb
      exact absurd hhome (apart hphysical' ha)
    · exact based.apart ha hb hphysical hphysical' hhome

/-- A deed that fits, and after which every cluster is based if every one was before. -/
structure Bases (contents : Contents) (deed : Deed) : Prop where
  fits : contents.Fits deed
  based : contents.Sound → contents.Based → deed.after.Based

theorem ListsNone.bases (h : contents.ListsNone deed) (fits : contents.Fits deed) :
    contents.Bases deed where
  fits := fits
  based _ based := based.of_clusters h.clusters

end Contents

namespace Store

open Contents (Bases)

variable {store : Store}

/-- Whatever is done to a store, its clusters stay based. -/
theorem Law.based : Law Bases fun a b =>
    a.contents.Sound → b.contents.Sound ∧ (a.contents.Based → b.contents.Based) :=
  .invariant (·.fits) (·.based)

theorem addPhysicalPlan_bases (store : Store) (name : String) (file : Option String)
    (size : Int32) : (store.addPhysicalPlan name file size).Each Bases store.contents := by
  have hproceeds := store.addPhysicalPlan_proceeds name file size
  rcases store.addPhysicalPlan_cases name file size with ⟨error, hplan⟩ | ⟨id, normal, hfresh, hplan⟩
  · rw [hplan]
    exact .refuse error
  · rw [hplan] at hproceeds ⊢
    refine .one ⟨hproceeds.first.fits, fun sound based => ?_⟩ _
    exact based.insert hfresh rfl ⟨_, Table.get?_insert_self _ _ _, rfl, rfl⟩
      fun _ _ _ h => Nat.ne_of_lt (sound.housed h)

theorem addLogicalPlan_bases (sound : store.contents.Sound) (name : String) (container : Int32) :
    (store.addLogicalPlan name container).Each Bases store.contents := by
  have hproceeds := addLogicalPlan_proceeds sound name container
  rcases addLogicalPlan_cases sound name container with ⟨error, hplan⟩ |
    ⟨listing, id, normal, position, slot, announced, hlisted, hphysical, hfresh, -, -, -, rfl, hplan⟩
  · rw [hplan]
    exact .refuse error
  · rw [hplan] at hproceeds ⊢
    obtain _ | ⟨-, _ | ⟨hdescriptor, _ | ⟨hlisting, -⟩⟩⟩ := hproceeds
    have hroot : (store.contents.clusters.insert id
        ⟨⟨id, normal, .logical listing.cluster.id ⟨listing.cluster.id, position⟩⟩, listing.home⟩).get?
          listing.cluster.id = some listing := by
      rw [Table.get?_insert, if_neg]
      · exact hlisted
      · intro he
        rw [he, hfresh] at hlisted
        cases hlisted
    refine .act _ (.cons ⟨hdescriptor.fits, fun _ based => based.of_clusters rfl⟩
      (.cons ⟨hlisting.fits, fun _ based => ?_⟩ (.nil _)))
    exact based.insert hfresh rfl ⟨listing, hroot, hphysical, rfl⟩ nofun

end Store

end RecordBase
