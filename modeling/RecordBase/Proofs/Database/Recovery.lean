import RecordBase.Proofs.Database.Course
import RecordBase.Proofs.Store.Opening

/-!
# Opening a log that was cut

* `Database.reopen_cut_log`: a database opened over an empty log, put through any steps and cut
  anywhere behind the entries of its first clusters can be opened again, and holds what it held
  right after the last append that the cut left whole.
-/

namespace RecordBase

namespace Store

variable {store : Store} {settings : Settings} {victims : Nat → Nat} {journal : Journal}
  {entries : List LogEntry}

/-- The first clusters are listed once they are added. -/
theorem listed_of_addInitial {after : Store} {names : List String} (hnames : names ≠ [])
    (h : store.addInitial names = (.ok (), after)) :
    ∃ id listing, after.contents.clusters.get? id = some listing := by
  obtain _ | ⟨name, rest⟩ := names
  · exact absurd rfl hnames
  rw [addInitial_cons, addPhysical_eq] at h
  rcases store.addPhysicalPlan_cases name none (-1) with ⟨error, hplan⟩ | ⟨id, normal, -, hplan⟩
  · rw [hplan] at h
    cases h
  · rw [hplan] at h
    generalize hdeed : Deed.listPhysical store.contents ⟨id, normal, .physical none (-1)⟩ = deed at h
    rcases happend : store.journal.append deed.entry with ⟨error | offset, appended⟩
    · rw [perform_one_of_refused happend] at h
      cases h
    · rw [perform_one_of_written happend] at h
      have hlisted : (store.done deed appended).contents.clusters.get? id =
          some ⟨⟨id, normal, .physical none (-1)⟩, store.contents.containers.length⟩ := by
        rw [contents_done, ← hdeed]
        exact Table.get?_insert_self _ _ _
      have hkept := addInitial_of_law (Law.listed id _) (store.done deed appended) rest hlisted
      simp only at h
      rw [h] at hkept
      exact ⟨id, _, hkept⟩

/-- Opening a log that was cut gives what its whole entries give. -/
theorem ofJournal_of_cut (victims : Nat → Nat) (small : ∀ entry ∈ entries, entry.Small) {size : Nat}
    (cut : journal.medium.Holds ((Log.bytes entries).take size)) {contents : Contents}
    (rebuilt : ({} : Contents).applyAll (Log.whole size entries) = .ok contents)
    (founded : settings.initialClusters = [] ∨ contents.clusters.size ≠ 0) :
    ∃ medium, medium.Holds (Log.bytes (Log.whole size entries)) ∧
      ofJournal settings victims journal =
        (.ok (ofContents settings victims { journal with medium } contents), { journal with medium }) := by
  obtain ⟨medium, hreplay, hholds⟩ := Journal.replay_of_holds small cut
  refine ⟨medium, hholds, ?_⟩
  simp only [ofJournal, hreplay, rebuilt]
  rcases founded with hnone | hsome
  · rw [hnone]
    split <;> rfl
  · rw [if_pos hsome]

/-- Opening a log that tells what a store holds, with some clusters or no first ones, gives that. -/
theorem Logs.reopens (logs : store.Logs entries)
    (founded : settings.initialClusters = [] ∨
      ∃ id listing, store.contents.clusters.get? id = some listing)
    (whole : journal.medium.Holds store.journal.medium.bytes) (victims : Nat → Nat) :
    ∃ medium, ofJournal settings victims journal =
      (.ok (ofContents settings victims { journal with medium } store.contents),
        { journal with medium }) := by
  have hwhole := Log.whole_of_length_le (Nat.le_refl (Log.bytes entries).length)
  rw [logs.holds.bytes_eq, ← List.take_length (l := Log.bytes entries)] at whole
  obtain ⟨medium, -, hopen⟩ := ofJournal_of_cut victims logs.small whole
    ((congrArg _ hwhole).trans logs.rebuilt)
    (founded.imp_right fun ⟨_, _, hlisted⟩ => Table.size_ne_zero hlisted)
  exact ⟨medium, hopen⟩

/-- Opening such a log writes nothing. -/
theorem Logs.openingCourse_eq (logs : store.Logs entries)
    (founded : settings.initialClusters = [] ∨
      ∃ id listing, store.contents.clusters.get? id = some listing)
    (whole : journal.medium.Holds store.journal.medium.bytes) (victims : Nat → Nat) :
    openingCourse settings victims journal =
      [ofContents settings victims journal store.contents] := by
  rw [logs.holds.bytes_eq] at whole
  simp only [openingCourse, Journal.replay_of_holds_bytes logs.small whole, logs.rebuilt]
  rcases founded with hnone | ⟨_, _, hlisted⟩
  · rw [hnone]
    split <;> rfl
  · rw [if_pos (Table.size_ne_zero hlisted)]

/-- A store over an empty log. -/
theorem logs_ofContents_empty (settings : Settings) (victims : Nat → Nat)
    (empty : journal.medium.Holds []) : (ofContents settings victims journal {}).Logs [] where
  small := by simp
  holds := empty
  rebuilt := rfl
  rooted front contents hfront happly := by
    cases List.prefix_nil.1 hfront
    cases happly
    exact .empty

/-- Over an empty log, opening adds the first clusters. -/
theorem ofJournal_of_empty (empty : journal.medium.Holds []) {after : Store}
    (h : (ofContents settings victims journal {}).addInitial settings.initialClusters =
      (.ok (), after)) :
    ofJournal settings victims journal = (.ok after, after.journal) ∧
      openingCourse settings victims journal =
        ofContents settings victims journal {} ::
          (ofContents settings victims journal {}).initialCourse settings.initialClusters := by
  have hnone : journal.replay = .ok ([], journal) :=
    Journal.replay_of_holds_bytes (by simp) empty
  simp only [ofJournal, openingCourse, hnone, Contents.applyAll, h]
  exact ⟨rfl, rfl⟩

/-- A store opened over what a cut has left of a log starts from the whole entries. It has clusters
then and stays as it is, or the first ones are added to it. -/
theorem start_of_ofJournal {before after : Store} (logs : before.Logs entries) {size : Nat}
    (cut : journal.medium.Holds (before.journal.medium.bytes.take size)) {last : Journal}
    (h : ofJournal settings victims journal = (.ok after, last)) :
    ∃ start course, openingCourse settings victims journal = start :: course ∧
      start.Logs (Log.whole size entries) ∧ (journal.SyncsHold → start.journal.SyncsHold) ∧
      (start.contents.clusters.size ≠ 0 ∧ after = start ∧ course = [] ∨
        start.addInitial settings.initialClusters = (.ok (), after) ∧
          course = start.initialCourse settings.initialClusters) := by
  rw [logs.holds.bytes_eq] at cut
  obtain ⟨medium, hreplay, hholds⟩ := Journal.replay_of_holds logs.small cut
  obtain ⟨_, _, contents, hreplay', happly, -, hopen⟩ := ofJournal_cases h
  rw [hreplay] at hreplay'
  cases hreplay'
  have hwhole := Log.whole_isPrefix size entries
  have hlogs : (ofContents settings victims { journal with medium } contents).Logs
      (Log.whole size entries) :=
    { small := fun entry hentry => logs.small entry (hwhole.subset hentry)
      holds := hholds
      rebuilt := happly
      rooted := fun front found hfront => logs.rooted front found (hfront.trans hwhole) }
  simp only [openingCourse, hreplay, happly]
  refine ⟨_, _, rfl, hlogs, fun syncs => syncs, ?_⟩
  rcases hopen with ⟨hsize, hafter⟩ | ⟨hsize, hadd⟩
  · exact .inl ⟨hsize, hafter, if_pos hsize⟩
  · exact .inr ⟨hadd, if_neg (Decidable.not_not.2 hsize)⟩

/-- What holds of every deed that adds a first cluster holds of opening the whole log of a store. -/
theorem ofJournal_of_law {P : Contents → Deed → Prop} {Q : Store → Store → Prop} (law : Law P Q)
    (each : ∀ (store : Store) (name : String),
      (store.addPhysicalPlan name none (-1)).Each P store.contents)
    {before after : Store} (logs : before.Logs entries)
    (whole : journal.medium.Holds before.journal.medium.bytes) {last : Journal}
    (h : ofJournal settings victims journal = (.ok after, last)) :
    ∃ start : Store, start.contents = before.contents ∧ Q start after := by
  rw [← List.take_length (l := before.journal.medium.bytes)] at whole
  obtain ⟨start, course, -, hlogs, -, hopen⟩ := start_of_ofJournal logs whole h
  have hall : Log.whole before.journal.medium.bytes.length entries = entries := by
    rw [logs.holds.bytes_eq]
    exact Log.whole_of_length_le (Nat.le_refl _)
  have hcontents : start.contents = before.contents := by
    have hrebuilt := hlogs.rebuilt
    rw [hall, logs.rebuilt] at hrebuilt
    exact (Except.ok.inj hrebuilt).symm
  refine ⟨start, hcontents, ?_⟩
  rcases hopen with ⟨-, rfl, -⟩ | ⟨hadd, -⟩
  · exact law.idle (.quiet (.refl _))
  · have hadded := addInitial_of_each law each start settings.initialClusters
    rwa [hadd] at hadded

/-- The opening is a path, and ends with clusters if there are first ones. -/
theorem path_openingCourse_of_ok {before after : Store} (logs : before.Logs entries) {size : Nat}
    (cut : journal.medium.Holds (before.journal.medium.bytes.take size)) {last : Journal}
    (h : ofJournal settings victims journal = (.ok after, last)) :
    ∃ start course, openingCourse settings victims journal = start :: course ∧
      start.Logs (Log.whole size entries) ∧ Path start course after ∧
      (journal.SyncsHold → after.journal.SyncsHold) ∧
      (settings.initialClusters = [] ∨
        ∃ id listing, after.contents.clusters.get? id = some listing) := by
  obtain ⟨start, course, hcourse, hlogs, hsyncs, hopen⟩ := start_of_ofJournal logs cut h
  refine ⟨start, course, hcourse, hlogs, ?_⟩
  rcases hopen with ⟨hsize, rfl, rfl⟩ | ⟨hadd, rfl⟩
  · exact ⟨.nil (.refl _), hsyncs, .inr (Table.exists_get? hsize)⟩
  · have hfollows := addInitial_of_law Law.follows start settings.initialClusters
    rw [hadd] at hfollows
    refine ⟨path_initialCourse hadd, fun syncs => hfollows.syncsHold (hsyncs syncs), ?_⟩
    by_cases hnames : settings.initialClusters = []
    · exact .inl hnames
    · exact .inr (listed_of_addInitial hnames hadd)

/-- The opening while no sync fails. -/
theorem path_openingCourse {before after : Store} (logs : before.Logs entries) {size : Nat}
    (cut : journal.medium.Holds (before.journal.medium.bytes.take size))
    (syncs : journal.SyncsHold) {last : Journal}
    (h : ofJournal settings victims journal = (.ok after, last)) :
    ∃ start course, openingCourse settings victims journal = start :: course ∧
      start.Logs (Log.whole size entries) ∧ Path start course after ∧ after.journal.SyncsHold ∧
      (settings.initialClusters = [] ∨
        ∃ id listing, after.contents.clusters.get? id = some listing) := by
  obtain ⟨start, course, hcourse, hlogs, hpath, hsyncs, hfounded⟩ :=
    path_openingCourse_of_ok logs cut h
  exact ⟨start, course, hcourse, hlogs, hpath, hsyncs syncs, hfounded⟩

/-- Whatever the journal does while first clusters are added, a store opened over what a cut has left
of a log is in order. -/
theorem rooted_of_ofJournal {before after : Store} (logs : before.Logs entries) {size : Nat}
    (cut : journal.medium.Holds (before.journal.medium.bytes.take size)) {last : Journal}
    (h : ofJournal settings victims journal = (.ok after, last)) : after.contents.Rooted := by
  obtain ⟨start, _, -, hlogs, -, hopen⟩ := start_of_ofJournal logs cut h
  have hrooted := hlogs.rooted _ start.contents List.prefix_rfl hlogs.rebuilt
  rcases hopen with ⟨-, rfl, -⟩ | ⟨hadd, -⟩
  · exact hrooted
  · have hsound := Contents.Sound.empty.applyAll hlogs.rebuilt
    have hkept := addInitial_of_law Law.sound_rooted start settings.initialClusters hsound
    rw [hadd] at hkept
    exact hkept.2 hrooted

end Store

namespace Database

variable {ε : Type}

theorem ofJournal_ok {name : String} {mode : StorageMode} {settings : Settings} {journal after : Journal}
    {victims : Nat → Nat} {database : Database}
    (h : ofJournal name mode settings journal victims = (.ok database, after)) :
    Store.ofJournal settings victims journal = (.ok database.store, after) ∧
      database.settings = settings := by
  unfold ofJournal at h
  split at h
  · cases h
  · rename_i hstore
    cases h
    exact ⟨hstore, rfl⟩

theorem ofJournal_of_store {settings : Settings} {journal after : Journal} {victims : Nat → Nat}
    {store : Store} (name : String) (mode : StorageMode)
    (h : Store.ofJournal settings victims journal = (.ok store, after)) :
    ofJournal name mode settings journal victims =
      (.ok { name, mode, settings, store }, after) := by
  simp only [ofJournal, h]

/-! ## A database with one cluster -/

/-- No cache and one first cluster. -/
def plainSettings : Settings := { useCache := false, initialClusters := ["a"] }

/-- An empty log in memory. -/
def blankJournal : Journal := { medium := .memory ⟨[]⟩, syncOnWrite := false }

/-- The database that these open. -/
def plain : Database where
  name := "a"
  mode := .memory
  settings := plainSettings
  store := ((Store.ofContents plainSettings (fun _ => 0) blankJournal {}).addInitial ["a"]).2

theorem blankJournal_empty : blankJournal.medium.Holds [] := Medium.holds_memory []

theorem blankJournal_syncsHold : blankJournal.SyncsHold := fun n => Faults.fate_nil _ n

theorem openingCourse_plain :
    Store.openingCourse plainSettings (fun _ => 0) blankJournal =
      [Store.ofContents plainSettings (fun _ => 0) blankJournal {}, plain.store] :=
  (Store.ofJournal_of_empty blankJournal_empty rfl).2

theorem ofJournal_plain :
    ofJournal "a" .memory plainSettings blankJournal (fun _ => 0) =
      (.ok plain, plain.store.journal) :=
  ofJournal_of_store "a" .memory (Store.ofJournal_of_empty blankJournal_empty rfl).1

theorem plain_refusals : plain.store.journal.refusals = [] := by decide +kernel

theorem plain_willing : plain.store.journal.Willing where
  accepts n := by rw [plain_refusals, Faults.fate_nil]
  syncsHold n := Faults.fate_nil _ n

/-! ## Recovery -/

/-- A database is opened over an empty log, steps are carried out while no sync fails and every
entry has fewer than `2 ^ 32` bytes, and of its log the first `size` bytes are left, the entries of
the first clusters among them. Opened again over these, it holds what it held right after the
last append that they contain: at the end of the run, if nothing is missing. -/
theorem reopen_cut_log {name : String} {mode : StorageMode} {settings : Settings}
    {victims : Nat → Nat} {journal after : Journal} {database : Database}
    (empty : journal.medium.Holds []) (syncs : journal.SyncsHold)
    (opens : ofJournal name mode settings journal victims = (.ok database, after))
    (steps : List (Step ε))
    (small : Store.SmallAppends 0
      (Store.openingCourse settings victims journal ++ Step.courseAll database steps))
    {size : Nat} (initial : database.store.logSize ≤ size) {rest : Journal}
    (cut : rest.medium.Holds
      ((Step.runAll database steps).2.store.journal.medium.bytes.take size))
    (name' : String) (mode' : StorageMode) (victims' : Nat → Nat) :
    ∃ reopened after', ofJournal name' mode' settings rest victims' = (.ok reopened, after') ∧
      reopened.store.contents =
        Store.heldAt size database.store.contents (Step.courseAll database steps) ∧
      ((Step.runAll database steps).2.store.logSize ≤ size →
        reopened.store.contents = (Step.runAll database steps).2.store.contents) := by
  obtain ⟨hstore, -⟩ := ofJournal_ok opens
  have sound := (Store.sound_coherent_ofJournal hstore).1
  have hempty := Store.logs_ofContents_empty settings victims empty
  have hall : journal.medium.Holds (journal.medium.bytes.take 0) := empty
  obtain ⟨start, course, hcourse, hlogs, hopening, hsyncs, hfounded⟩ :=
    Store.path_openingCourse hempty hall syncs hstore
  have hrun := Step.path_courseAll steps sound hsyncs
  have hstart : start.logSize = 0 := hlogs.logSize_eq
  rw [hcourse] at small
  obtain ⟨entries, hend, hrebuilt⟩ := (hopening.append hrun).rebuilt hlogs small.2
  have hheld : Store.heldAt size start.contents (course ++ Step.courseAll database steps) =
      Store.heldAt size database.store.contents (Step.courseAll database steps) := by
    rw [Store.heldAt_append, hopening.heldAt_of_le initial]
  have hcontents := hrebuilt size (hstart ▸ Nat.zero_le size)
  have hfounded : settings.initialClusters = [] ∨
      (Store.heldAt size database.store.contents (Step.courseAll database steps)).clusters.size ≠ 0 :=
    hfounded.imp_right fun ⟨_, _, hlisted⟩ =>
      Table.size_ne_zero (hrun.listed_heldAt hlisted hlisted size)
  rw [hend.holds.bytes_eq] at cut
  obtain ⟨medium, -, hopen⟩ := Store.ofJournal_of_cut victims' hend.small cut
    (hcontents.trans (congrArg Except.ok hheld)) hfounded
  exact ⟨_, _, ofJournal_of_store name' mode' hopen, rfl, hrun.heldAt_of_le⟩

/-- The crash while the first record was written: only the cluster is there again. -/
theorem reopen_cut_log_in_first_record :
    let steps : List (Step Unit) := [.operation (.create 0 [1] .document)]
    let log := (Step.runAll plain steps).2.store.journal.medium.bytes
    ∃ reopened after, ofJournal "a" .memory plainSettings
        { blankJournal with medium := .memory ⟨log.take 40⟩ } (fun _ => 0) = (.ok reopened, after) ∧
      reopened.store.contents = plain.store.contents := by
  intro steps log
  have small : Store.SmallAppends 0
      (Store.openingCourse plainSettings (fun _ => 0) blankJournal ++ Step.courseAll plain steps) := by
    rw [openingCourse_plain]
    decide +kernel
  have initial : plain.store.logSize ≤ 40 := by decide +kernel
  have cut : ({ blankJournal with medium := .memory ⟨log.take 40⟩ } : Journal).medium.Holds
      (log.take 40) := Medium.holds_memory _
  obtain ⟨reopened, after, hopen, hheld, -⟩ := reopen_cut_log blankJournal_empty
    blankJournal_syncsHold ofJournal_plain steps small initial cut "a" .memory (fun _ => 0)
  have late : ¬ (Step.runAll plain steps).2.store.logSize ≤ 40 := by decide +kernel
  have torn : Store.heldAt 40 plain.store.contents [(Step.runAll plain steps).2.store] =
      plain.store.contents := by
    rw [Store.heldAt, if_neg late, Store.heldAt]
  exact ⟨reopened, after, hopen, hheld.trans torn⟩

end Database

end RecordBase
