import RecordBase.Proofs.Database.FailedSyncs
import RecordBase.Proofs.Store.Alike
import RecordBase.Proofs.Store.Positions
import RecordBase.Proofs.Store.Views

/-!
# Logical clusters that are added by half

A logical cluster is added in two appends: its descriptor goes into the container, and then the
directory gets its entry. If the medium takes the first and refuses the second, the addition fails and
the descriptor stays, a record of the container that nothing refers to (`Store.GainsRecord`).

* `Database.failed_addition_leaves_no_trace_iff`: a failed addition leaves everything as it was, in the
  database and in one opened over its log, just if its descriptor was not written; if it was, the
  container has gained that record and nothing else has changed;
* `Database.descriptor_of_refused_cluster`: this happens.
-/

namespace RecordBase

/-! ## A record at the next position -/

namespace Contents

variable {contents : Contents} {listing other : Listing} {position : Int64} {slot : Slot}

/-- Of the clusters kept in a container, the one that owns a record at the next position gains it. -/
theorem recordsOf_putSlot (sound : contents.Sound)
    (listed : contents.clusters.get? listing.cluster.id = some listing)
    (next : position.toInt = contents.next listing.home) (owner : slot.owner = listing.cluster.id)
    (known : contents.clusters.get? other.cluster.id = some other) :
    (contents.putSlot listing.home position slot).recordsOf other =
      if other.cluster.id = listing.cluster.id then
        contents.recordsOf other ++ [slot.record ⟨listing.cluster.id, position⟩]
      else contents.recordsOf other := by
  have last : ∀ entry ∈ (contents.container listing.home).slots.entries,
      compare entry.1 position = .lt := by
    rintro ⟨place, found⟩ hentry
    have hslot : contents.slot? listing.home place = some found := Table.mem_entries_iff.1 hentry
    rw [Std.compare_eq_lt, Int64.lt_iff_toInt_lt, next]
    exact sound.below hslot
  rw [recordsOf, putSlot, container_changeContainer _ _ (sound.housed listed), Container.ownedBy]
  by_cases hsame : other.cluster.id = listing.cluster.id
  · have hother : other = listing := by
      rw [hsame, listed] at known
      exact (Option.some.inj known).symm
    subst hother
    rw [if_pos rfl, if_pos rfl, Container.slots_put, Table.entries_insert_of_forall_lt last,
      List.filter_append, List.map_append]
    simp [owner, recordsOf, Container.ownedBy]
  · rw [if_neg hsame]
    split
    · rename_i hhome
      have hforeign : ¬ slot.owner = other.cluster.id := fun h => hsame (h.symm.trans owner)
      rw [Container.slots_put, Table.entries_insert_of_forall_lt last, List.filter_append]
      simp [hforeign, recordsOf, Container.ownedBy, hhome]
    · rfl

/-- Of all counts in all containers, that of its owner grows by a record at the next position. -/
theorem count_putSlot_next (sound : contents.Sound)
    (listed : contents.clusters.get? listing.cluster.id = some listing)
    (next : position.toInt = contents.next listing.home) (owner : slot.owner = listing.cluster.id)
    (home : Nat) (id : Int16) : (contents.putSlot listing.home position slot).count home id =
      if home = listing.home ∧ id = listing.cluster.id then contents.count home id + 1
      else contents.count home id := by
  have hfree : contents.slot? listing.home position = none :=
    slot?_eq_none_of_next_le sound (Int.le_of_eq next.symm)
  refine (count_setSlot (sound.housed listed) position (some slot) home id).trans ?_
  by_cases hid : id = listing.cluster.id
  · by_cases hhome : home = listing.home <;> simp [hhome, hid, hfree, Slot.share, owner]
  · by_cases hhome : home = listing.home <;> simp [hhome, hid, hfree, Slot.share, owner, Ne.symm hid]

end Contents

namespace Store

/-- A cluster has gained a record, behind all that it had, and nothing else has changed. -/
structure GainsRecord (before : Store) (record : Record) (after : Store) : Prop where
  clusters : after.clusters = before.clusters
  scans : ∃ records, before.scan record.id.cluster = .ok records ∧
    after.scan record.id.cluster = .ok (records ++ [record])
  scan : ∀ cluster, cluster ≠ record.id.cluster → after.scan cluster = before.scan cluster
  counts : ∃ number, before.count [record.id.cluster] = .ok number ∧
    after.count [record.id.cluster] = .ok (number + 1)
  count : ∀ cluster, cluster ≠ record.id.cluster → after.count [cluster] = before.count [cluster]
  read : ∀ id, id ≠ record.id → (after.read id).1 = (before.read id).1

variable {before after store : Store} {record : Record}

theorem GainsRecord.not_answersAs (gains : before.GainsRecord record after) :
    ¬ before.AnswersAs after := by
  intro same
  obtain ⟨records, hbefore, hafter⟩ := gains.scans
  rw [same.scan, hbefore] at hafter
  have hlength := congrArg List.length (Except.ok.inj hafter)
  simp at hlength

theorem listing_of_unlisted {cluster : Int16} (h : store.contents.clusters.get? cluster = none) :
    store.listing cluster = .error (.noCluster cluster) := by
  simp only [listing, h]

theorem count_one {cluster : Int16} {listing : Listing}
    (h : store.contents.clusters.get? cluster = some listing) :
    store.count [cluster] = .ok (store.contents.count listing.home listing.cluster.id) := by
  simp only [count, listing_of_clusters h, Int.add_zero]
  rfl

/-- A record written at the next position of a container. -/
theorem gainsRecord_of_putSlot (sound : before.contents.Sound) (hbefore : before.Coherent)
    (hafter : after.Coherent) {listing : Listing} {position : Int64} {slot : Slot}
    (listed : before.contents.clusters.get? listing.cluster.id = some listing)
    (next : position.toInt = before.contents.next listing.home)
    (owner : slot.owner = listing.cluster.id)
    (contents : after.contents = before.contents.putSlot listing.home position slot) :
    before.GainsRecord (slot.record ⟨listing.cluster.id, position⟩) after := by
  have hclusters : after.contents.clusters = before.contents.clusters := by
    rw [contents]
    rfl
  have hcount := Contents.count_putSlot_next sound listed next owner
  rw [← contents] at hcount
  have hscan {cluster : Int16} {other : Listing}
      (known : before.contents.clusters.get? cluster = some other) :
      after.scan cluster = .ok (if cluster = listing.cluster.id then
        before.contents.recordsOf other ++ [slot.record ⟨listing.cluster.id, position⟩]
        else before.contents.recordsOf other) := by
    obtain rfl := sound.keyed known
    rw [scan_of_listed (hclusters ▸ known), contents,
      Contents.recordsOf_putSlot sound listed next owner known]
  have hnone {cluster : Int16} (unknown : before.contents.clusters.get? cluster = none) :
      before.listing cluster = .error (.noCluster cluster) ∧
        after.listing cluster = .error (.noCluster cluster) :=
    ⟨listing_of_unlisted unknown, listing_of_unlisted (hclusters ▸ unknown)⟩
  refine ⟨by rw [Store.clusters, Store.clusters, hclusters], ?_, fun cluster hne => ?_, ?_,
    fun cluster hne => ?_, fun id hne => ?_⟩
  · have hgained := hscan listed
    rw [if_pos rfl] at hgained
    exact ⟨_, scan_of_listed listed, hgained⟩
  · cases known : before.contents.clusters.get? cluster with
    | none => simp only [scan, (hnone known).1, (hnone known).2]
    | some other =>
      have hother : cluster ≠ listing.cluster.id := hne
      rw [hscan known, scan_of_listed known, if_neg hother]
  · have hgained := count_one (hclusters ▸ listed : after.contents.clusters.get? _ = some listing)
    rw [hcount, if_pos ⟨rfl, rfl⟩] at hgained
    exact ⟨_, count_one listed, hgained⟩
  · cases known : before.contents.clusters.get? cluster with
    | none => simp only [count, (hnone known).1, (hnone known).2]
    | some other =>
      have hkey := sound.keyed known
      rw [count_one known, count_one (hclusters ▸ known : after.contents.clusters.get? _ = some other),
        hcount, if_neg fun h => hne (hkey.symm.trans h.2)]
  · rw [read_eq_readUncached hafter, read_eq_readUncached hbefore]
    cases hvalid : id.isValid with
    | false => simp [readUncached, hvalid]
    | true =>
      cases known : before.contents.clusters.get? id.cluster with
      | none =>
        simp only [readUncached, hvalid, (hnone known).1, (hnone known).2, Bool.not_true,
          Bool.false_eq_true, if_false]
      | some other =>
        rw [readUncached_eq_record? hvalid known, readUncached_eq_record? hvalid (hclusters ▸ known),
          contents, Contents.record?_putSlot sound (.of_free listed (slot?_next sound next)) owner,
          if_neg (show id ≠ ⟨_, _⟩ from hne)]

attribute [local irreducible] normalName in
/-- A failed addition has done nothing, or written the descriptor at the next position of the container. -/
theorem addLogical_failed_cases (sound : store.contents.Sound) (syncs : store.journal.SyncsHold)
    {name : String} {container : Int32} {error : Error}
    (failed : (store.addLogical name container).1 = .error error) :
    store.descriptor? name container = none ∧
        (store.addLogical name container).2.contents = store.contents ∨
      ∃ normal listing position, normalName name = .ok normal ∧
        store.descriptor? name container = some ⟨listing.cluster.id, position⟩ ∧
        store.contents.clusters.get? listing.cluster.id = some listing ∧
        position.toInt = store.contents.next listing.home ∧
        (store.addLogical name container).2.contents =
          store.contents.putSlot listing.home position
            ⟨listing.cluster.id, 0, .document, Bytes.ofText normal⟩ ∧
        store.journal.refusals.fate false 0 = false ∧ store.journal.refusals.fate false 1 = true := by
  unfold addLogical descriptor? at *
  cases hname : normalName name with
  | error error => exact .inl ⟨rfl, rfl⟩
  | ok normal =>
    rw [hname] at failed
    simp only at failed ⊢
    cases hplan : store.logicalPlan normal container with
    | error error => exact .inl ⟨rfl, rfl⟩
    | ok found =>
      obtain ⟨listing, id, position⟩ := found
      obtain ⟨hlisted, -, -, hposition⟩ := of_logicalPlan sound hplan
      rw [hplan] at failed
      simp only [writeSlot, write] at failed ⊢
      have hfollows := Journal.append_follows store.journal
        (.recordPut ⟨listing.cluster.storage, position⟩
          ⟨listing.cluster.id, 0, .document, Bytes.ofText normal⟩)
      have hnext := Journal.refusals_append store.journal
        (.recordPut ⟨listing.cluster.storage, position⟩
          ⟨listing.cluster.id, 0, .document, Bytes.ofText normal⟩)
      rcases hfirst : store.journal.append _ with ⟨error | offset, journal⟩
      · exact .inl ⟨rfl, rfl⟩
      · rw [hfirst] at failed hfollows hnext
        have hsyncs := hfollows.syncsHold syncs
        simp only [change] at failed hnext ⊢
        rcases hsecond : journal.append _ with ⟨error | offset, journal'⟩
        · refine .inr ⟨normal, listing, position, rfl, rfl, hlisted, hposition, rfl, ?_, ?_⟩
          · exact (Journal.append_ok hfirst).2
          · have hrefused := (Journal.append_error hsyncs hsecond).2.2
            rwa [hnext] at hrefused
        · rw [hsecond] at failed
          cases failed

end Store

/-! ## In the database and in its log -/

namespace Database

variable {ε : Type} {database : Database}

/-- Every database opened over the whole log of this one, with the same settings, has a store like
this. -/
def Reopens (database : Database) (P : Store → Prop) : Prop :=
  ∀ (journal : Journal) (name : String) (mode : StorageMode) (victims : Nat → Nat),
    journal.medium.Holds database.store.journal.medium.bytes →
    ∃ reopened after, ofJournal name mode database.settings journal victims = (.ok reopened, after) ∧
      P reopened.store

/-- What a database holds is what its log gives. -/
theorem Durable.reopens (durable : Durable ε database) {P : Store → Prop}
    (h : ∀ store : Store, store.contents = database.store.contents → store.Coherent → P store) :
    database.Reopens P := by
  intro journal name mode victims whole
  obtain ⟨reopened, after, hopen, hcontents, coherent⟩ := durable.reopen whole name mode victims
  exact ⟨reopened, after, hopen, h _ hcontents coherent⟩

theorem Durable.operated (durable : Durable ε database) (operation : Operation)
    (small : Store.SmallAppends database.store.logSize (operation.course database)) :
    Durable ε (operation.run database).2 := by
  have hstepped := durable.stepped (.operation operation) (by rwa [Step.course])
  rwa [Step.run] at hstepped

theorem error_of_isError {name : String} {container : Int32}
    (failed : ((Operation.addLogical name container).run database).1.isError = true) :
    ∃ error, (database.store.addLogical name container).1 = .error error := by
  simp only [Operation.run, onStore] at failed
  rcases hadd : database.store.addLogical name container with ⟨error | added, after⟩
  · exact ⟨error, rfl⟩
  · rw [hadd] at failed
    cases failed

-- How a name is made normal does not matter here, and takes long to unfold.
attribute [local irreducible] Store.normalName in
/-- A logical cluster cannot be added to a database, whatever appends are refused, with no sync failing.
Then the clusters are as they were, in the database and in any opened over its log; so are the records
and the counts just if the descriptor was not written. If it was, because the medium took it and refused
the entry of the directory, the container has gained it and nothing else has changed. -/
theorem failed_addition_leaves_no_trace_iff (durable : Durable ε database) {name : String}
    {container : Int32}
    (failed : ((Operation.addLogical name container).run database).1.isError = true)
    (small : Store.SmallAppends database.store.logSize
      ((Operation.addLogical name container).course database)) :
    let after := ((Operation.addLogical name container).run database).2
    (database.store.AnswersAs after.store ∧ after.Reopens database.store.AnswersAs ↔
        database.store.descriptor? name container = none) ∧
      ∀ id, database.store.descriptor? name container = some id →
        database.store.journal.refusals.fate false 0 = false ∧
        database.store.journal.refusals.fate false 1 = true ∧
        ∃ normal, Store.normalName name = .ok normal ∧
          database.store.GainsRecord ⟨id, 0, .document, Bytes.ofText normal⟩ after.store ∧
          after.Reopens (database.store.GainsRecord ⟨id, 0, .document, Bytes.ofText normal⟩) := by
  intro after
  obtain ⟨error, hfailed⟩ := error_of_isError failed
  have hstore : after.store = (database.store.addLogical name container).2 := by
    simp only [after, Operation.run, store_onStore]
  have hdurable : Durable ε after := durable.operated (.addLogical name container) small
  clear_value after
  obtain ⟨sound, coherent⟩ := durable.reached.sound_coherent
  have hcoherent := hdurable.reached.sound_coherent.2
  rcases Store.addLogical_failed_cases sound durable.logs.2.1 hfailed with ⟨hnone, hcontents⟩ |
    ⟨normal, listing, position, hnormal, hsome, listed, next, hcontents, taken, refused⟩
  · have same (store : Store) (h : store.contents = after.store.contents) (hc : store.Coherent) :
        database.store.AnswersAs store := by
      refine Store.answersAs_of_alike ?_ coherent hc
      rw [h, hstore, hcontents]
      exact .refl _
    refine ⟨⟨fun _ => hnone, fun _ => ⟨same _ rfl hcoherent, hdurable.reopens same⟩⟩, ?_⟩
    intro id hid
    rw [hnone] at hid
    cases hid
  · have gains (store : Store) (h : store.contents = after.store.contents) (hc : store.Coherent) :
        database.store.GainsRecord
          ⟨⟨listing.cluster.id, position⟩, 0, .document, Bytes.ofText normal⟩ store := by
      rw [hstore, hcontents] at h
      exact Store.gainsRecord_of_putSlot sound coherent hc listed next rfl h
    refine ⟨⟨fun same => ?_, fun hnone => ?_⟩, fun id hid => ?_⟩
    · exact absurd same.1 (gains _ rfl hcoherent).not_answersAs
    · rw [hnone] at hsome
      cases hsome
    · rw [hsome] at hid
      cases hid
      exact ⟨taken, refused, normal, hnormal, gains _ rfl hcoherent, hdurable.reopens gains⟩

/-! ## A medium that refuses one append -/

/-- An empty log in memory that takes the entry of a first cluster, then so many others, and refuses the
next one. -/
def balkingJournal (taken : Nat) : Journal := blankJournal.refuse (taken + 1) 1

/-- The database that it opens. -/
def balking (taken : Nat) : Database where
  name := "a"
  mode := .memory
  settings := plainSettings
  store := ((Store.ofContents plainSettings (fun _ => 0) (balkingJournal taken) {}).addInitial ["a"]).2

theorem durable_balking {taken : Nat}
    (small : Store.SmallAppends 0
      [Store.ofContents plainSettings (fun _ => 0) (balkingJournal taken) {}, (balking taken).store]) :
    Durable ε (balking taken) := by
  have opening : Store.ofJournal plainSettings (fun _ => 0) (balkingJournal taken) =
        (.ok (balking taken).store, (balking taken).store.journal) ∧
      Store.openingCourse plainSettings (fun _ => 0) (balkingJournal taken) =
        [Store.ofContents plainSettings (fun _ => 0) (balkingJournal taken) {}, (balking taken).store] :=
    Store.ofJournal_of_empty (Medium.holds_memory []) rfl
  refine .opened (Medium.holds_memory []) (fun n => Faults.fate_nil _ n)
    (ofJournal_of_store "a" .memory opening.1) ?_
  rwa [opening.2]

/-- The medium refuses the descriptor. -/
theorem refused_descriptor_leaves_no_trace :
    let after := ((Operation.addLogical "b" 0).run (balking 0)).2
    (balking 0).store.AnswersAs after.store ∧ after.Reopens (balking 0).store.AnswersAs := by
  intro after
  have durable : Durable Unit (balking 0) := durable_balking (by decide +kernel)
  have hnone : (balking 0).store.descriptor? "b" 0 = none := by decide +kernel
  exact (failed_addition_leaves_no_trace_iff durable (by decide +kernel) (by decide +kernel)).1.2 hnone

/-- The medium takes the descriptor and refuses the entry of the directory: the addition fails, and the
cluster `a` has a record that it did not have, also once the log is opened again. -/
theorem descriptor_of_refused_cluster :
    let after := ((Operation.addLogical "b" 0).run (balking 1)).2
    let descriptor : Record := ⟨⟨0, 0⟩, 0, .document, Bytes.ofText "b"⟩
    ((Operation.addLogical "b" 0).run (balking 1)).1.isError = true ∧
      ((balking 1).store.scan 0).toOption = some [] ∧
      (after.store.scan 0).toOption = some [descriptor] ∧
      ∃ reopened last, ofJournal "a" .memory plainSettings
          { blankJournal with medium := .memory ⟨after.store.journal.medium.bytes⟩ } (fun _ => 0) =
            (.ok reopened, last) ∧
        (reopened.store.scan 0).toOption = some [descriptor] := by
  intro after descriptor
  have seen : (ofJournal "a" .memory plainSettings
      { blankJournal with medium := .memory ⟨after.store.journal.medium.bytes⟩ } fun _ => 0).1.toOption.map
      (fun reopened => (reopened.store.scan 0).toOption) = some (some [descriptor]) := by
    decide +kernel
  refine ⟨by decide +kernel, by decide +kernel, by decide +kernel, ?_⟩
  rcases opens : ofJournal "a" .memory plainSettings
      { blankJournal with medium := .memory ⟨after.store.journal.medium.bytes⟩ } (fun _ => 0) with
      ⟨error | reopened, last⟩ <;> rw [opens] at seen
  · cases seen
  · exact ⟨reopened, last, rfl, Option.some.inj seen⟩

end Database

end RecordBase
