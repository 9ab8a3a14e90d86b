import RecordBase.Proofs.Database.Serving
import RecordBase.Proofs.Store.Directory

/-!
# The directory along a history

`Step.added` lists the clusters that a step adds, each with the text that it is added under. A step
registers these and no other (`Step.registers_run`), and so does an opening. `Log.Lists` is a log with
the clusters that were added while it was written, and `Database.Populated` a database with those
added since its log was empty.

* `Database.directory_consistent`: the clusters of a database are those added, as they were added, with
  ids 0, 1, 2 and so on, and it finds each by its id and by its name.
-/

namespace RecordBase

/-! ## Registering clusters -/

/-- The clusters of the contents after are those before and some that were added, each under the normal
form of a text. -/
structure Contents.Registers (before : Contents) (added : List (String × Cluster)) (after : Contents) :
    Prop where
  listed : after.listed = before.listed ++ added.map (·.2)
  normal : ∀ entry ∈ added, Store.normalName entry.1 = .ok entry.2.name

namespace Contents

variable {before middle after : Contents} {added more : List (String × Cluster)}

theorem Registers.none (same : before.SameClusters after) : before.Registers [] after where
  listed := by
    rw [Contents.listed, same.clusters]
    exact (List.append_nil _).symm
  normal := by rintro _ ⟨⟩

theorem Registers.trans (h₁ : before.Registers added middle) (h₂ : middle.Registers more after) :
    before.Registers (added ++ more) after where
  listed := by rw [h₂.listed, h₁.listed, List.map_append, List.append_assoc]
  normal entry h := (List.mem_append.1 h).elim (h₁.normal entry) (h₂.normal entry)

end Contents

namespace Store

variable {store : Store}

/-- A cluster that was added, with the text it was added under. -/
def joined (after : Store) (name : String) (id : Int16) : List (String × Cluster) :=
  (after.cluster? id).toList.map (name, ·)

/-- The cluster that adding a physical one adds. -/
def physicalAdded (store : Store) (name : String) (file : Option String) (size : Int32) :
    List (String × Cluster) :=
  match store.addPhysical name file size with
  | (.error _, _) => []
  | (.ok id, after) => after.joined name id

/-- The cluster that adding a logical one adds. -/
def logicalAdded (store : Store) (name : String) (container : Int32) : List (String × Cluster) :=
  match store.addLogical name container with
  | (.error _, _) => []
  | (.ok (id, _), after) => after.joined name id

/-- The first clusters that are added. -/
def firstAdded (store : Store) : List String → List (String × Cluster)
  | [] => []
  | name :: rest =>
    let added := store.addPhysical name none (-1)
    store.physicalAdded name none (-1) ++
      match added.1 with
      | .error _ => []
      | .ok _ => added.2.firstAdded rest

/-- The clusters that opening a store over a journal adds. -/
def openingAdded (settings : Settings) (victims : Nat → Nat) (journal : Journal) :
    List (String × Cluster) :=
  match openingCourse settings victims journal with
  | [] => []
  | start :: _ =>
    if start.contents.clusters.size ≠ 0 then [] else start.firstAdded settings.initialClusters

/-- A deed that lists a cluster registers it. -/
theorem registers_of_enlists {contents : Contents} {deed : Deed} {cluster : Cluster} {name : String}
    (enlists : contents.Enlists deed) (hentry : deed.entry.cluster? = some cluster)
    (hname : normalName name = .ok cluster.name) {after : Store} (hafter : after.contents = deed.after) :
    contents.Registers (after.joined name cluster.id) after.contents := by
  rcases enlists.fits.directory with ⟨hnone, -⟩ | ⟨other, home, hother, -, hclusters, -⟩
  · rw [hnone] at hentry
    cases hentry
  · obtain rfl := Option.some.inj (hother.symm.trans hentry)
    have hjoined : after.joined name other.id = [(name, other)] := by
      rw [joined, cluster?, hafter, hclusters, Table.get?_insert_self]
      rfl
    rw [hjoined]
    refine ⟨?_, ?_⟩
    · rw [hafter, enlists.listed, hother]
      rfl
    · intro entry h
      rw [List.mem_singleton.1 h]
      exact hname

-- What is registered never depends on how a name is made normal.
attribute [local irreducible] normalName

theorem registers_addPhysical (store : Store) (name : String) (file : Option String) (size : Int32) :
    store.contents.Registers (store.physicalAdded name file size)
      (store.addPhysical name file size).2.contents := by
  have henlists := store.addPhysicalPlan_enlists name file size
  unfold physicalAdded
  rw [addPhysical_eq]
  rcases store.addPhysicalPlan_listing name file size with ⟨error, hplan⟩ |
    ⟨id, normal, hname, -, -, hplan⟩
  · rw [hplan]
    exact .none (.refl _)
  · rw [hplan] at henlists ⊢
    rcases happend : store.journal.append _ with ⟨error | offset, journal⟩
    · rw [perform_one_of_refused happend]
      exact .none (.refl _)
    · rw [perform_one_of_written happend]
      exact registers_of_enlists henlists.first rfl hname (contents_done ..)

theorem registers_addLogical (sound : store.contents.Sound) (name : String) (container : Int32) :
    store.contents.Registers (store.logicalAdded name container)
      (store.addLogical name container).2.contents := by
  have henlists := addLogicalPlan_enlists sound name container
  unfold logicalAdded
  rw [addLogical_eq]
  rcases store.addLogicalPlan_listing name container with ⟨error, hplan⟩ |
    ⟨listing, id, normal, position, announced, hname, -, hannounced, hplan⟩
  · rw [hplan]
    exact .none (.refl _)
  · rw [hplan] at henlists ⊢
    obtain _ | ⟨-, _ | ⟨-, _ | ⟨hlisting, -⟩⟩⟩ := henlists
    have same : store.contents.SameClusters announced.after := by
      rw [hannounced]
      exact ⟨rfl, rfl⟩
    rcases hfirst : store.journal.append announced.entry with ⟨error | offset, journal⟩
    · rw [perform, enact_of_refused hfirst]
      exact .none (.refl _)
    · rw [perform, enact_of_written hfirst]
      have hannounced : (store.done announced journal).contents = announced.after := contents_done ..
      rcases hsecond : (store.done announced journal).journal.append _ with ⟨error | offset, journal'⟩
      · rw [enact_of_refused hsecond]
        refine .none (same.trans (.of_eq hannounced))
      · rw [enact_of_written hsecond, enact]
        exact (Contents.Registers.none same).trans
          (registers_of_enlists hlisting rfl hname (contents_done ..))

theorem registers_addInitial (store : Store) (names : List String) :
    store.contents.Registers (store.firstAdded names) (store.addInitial names).2.contents := by
  induction names generalizing store with
  | nil => exact .none (.refl _)
  | cons name rest ih =>
    have hfirst := store.registers_addPhysical name none (-1)
    rw [addInitial_cons, firstAdded]
    rcases hadd : store.addPhysical name none (-1) with ⟨error | id, added⟩ <;> rw [hadd] at hfirst
    · rw [List.append_nil]
      exact hfirst
    · exact hfirst.trans (ih added)

end Store

/-! ## What a step adds -/

/-- The clusters that a single operation adds. -/
def Operation.added (database : Database) : Operation → List (String × Cluster)
  | .addPhysical name file size => database.store.physicalAdded name file size
  | .addLogical name container => database.store.logicalAdded name container
  | _ => []

mutual

/-- The clusters that a step adds, in turn, each with the text it is added under. -/
def Step.added {ε : Type} (database : Database) : Step ε → List (String × Cluster)
  | .operation operation => operation.added database
  | .commit number items =>
    match database.ensureOpen with
    | .error _ => []
    | .ok () => Item.added database { batch := Batch.start number } items

/-- The clusters that are added while a batch is fed, from some point on. -/
def Item.added {ε : Type} (database : Database) (state : CommitState ε) :
    List (Item ε) → List (String × Cluster)
  | [] => []
  | .entry entry :: rest =>
    let state := { state with pulled := state.pulled + 1 }
    match state.batch.apply database.store entry with
    | (.error _, _) => []
    | (.ok batch, store) => Item.added { database with store } { state with batch } rest
  | .failure _ :: _ => []
  | .step step :: rest =>
    step.added database ++
      Item.added (step.run database).2
        { state with inner := (step.run database).1 :: state.inner } rest

end

/-- The clusters that some steps add. -/
def Step.addedAll {ε : Type} (database : Database) : List (Step ε) → List (String × Cluster)
  | [] => []
  | step :: rest => step.added database ++ Step.addedAll (step.run database).2 rest

theorem Operation.registers_run (operation : Operation) {database : Database}
    (sound : database.store.contents.Sound) :
    database.store.contents.Registers (operation.added database)
      (operation.run database).2.store.contents := by
  have hother (physical : ∀ name file size, operation ≠ .addPhysical name file size)
      (logical : ∀ name container, operation ≠ .addLogical name container) :
      database.store.contents.Registers [] (operation.run database).2.store.contents :=
    .none (sameClusters_run fun plan hplan => plan?_listsNone hplan physical logical)
  cases operation with
  | addPhysical name file size =>
    rw [run, Database.store_onStore, added]
    exact database.store.registers_addPhysical name file size
  | addLogical name container =>
    rw [run, Database.store_onStore, added]
    exact Store.registers_addLogical sound name container
  | _ => exact hother (by rintro _ _ _ ⟨⟩) (by rintro _ _ ⟨⟩)

section Run

variable {ε : Type}

/-- A step registers the clusters that it adds, and no other. -/
theorem Step.registers_run (step : Step ε) {database : Database}
    (sound : database.store.contents.Sound) :
    database.store.contents.Registers (step.added database) (step.run database).2.store.contents := by
  refine (sound_run_induction
    (fun database step =>
      database.store.contents.Registers (step.added database) (step.run database).2.store.contents)
    (fun database state items =>
      database.store.contents.Registers (Item.added database state items)
        (Item.runAll database state items).2.store.contents)
    ?operation ?closed ?opened ?kept ?refused ?applied ?failed ?inner database step sound).2.2
  case operation =>
    intro database operation sound
    exact operation.registers_run sound
  case closed =>
    intro database error number items hopen
    rw [run_commit_of_closed hopen]
    simp only [Step.added, hopen]
    exact .none (.refl _)
  case opened =>
    intro database number items hopen hbatch
    rw [run_commit_of_open hopen]
    simp only [Step.added, hopen]
    exact hbatch
  case kept =>
    intro database state
    exact .none (.refl _)
  case refused =>
    intro database state entry error store start rest sound hsound undoable happly
    have same := state.batch.sameClusters_apply database.store entry
    rw [Item.runAll_entry_of_refused happly]
    simp only [Item.added, happly] at same ⊢
    exact .none (same.trans (Batch.sameClusters_rollback _ store))
  case applied =>
    intro database state entry batch store rest sound happly hbatch
    have same := state.batch.sameClusters_apply database.store entry
    rw [Item.runAll_entry_of_applied happly]
    simp only [Item.added, happly] at same ⊢
    exact (Contents.Registers.none same).trans hbatch
  case failed =>
    intro database state start cause rest sound undoable
    exact .none (Batch.sameClusters_rollback _ database.store)
  case inner =>
    intro database state step rest sound hstep hbatch
    rw [Item.runAll_step]
    simp only [Item.added]
    exact hstep.trans hbatch

theorem Step.registers_runAll (steps : List (Step ε)) {database : Database}
    (sound : database.store.contents.Sound) :
    database.store.contents.Registers (Step.addedAll database steps)
      (Step.runAll database steps).2.store.contents := by
  induction steps generalizing database with
  | nil => exact .none (.refl _)
  | cons step rest ih =>
    rw [Step.runAll_cons]
    exact (step.registers_run sound).trans (ih (step.sound_run sound))

end Run

/-! ## What a log lists -/

/-- The clusters that some entries list, in turn. -/
def Log.clusters (entries : List LogEntry) : List Cluster := entries.filterMap LogEntry.cluster?

/-- Some entries give contents in which their clusters are listed in order. -/
structure Log.Files (entries : List LogEntry) (contents : Contents) : Prop where
  rooted : contents.Rooted
  catalogued : contents.Catalogued
  listed : contents.listed = Log.clusters entries

theorem Log.Files.append {entries : List LogEntry} {contents : Contents} {deed : Deed}
    (enlists : contents.Enlists deed) (sound : contents.Sound) (files : Log.Files entries contents) :
    Log.Files (entries ++ [deed.entry]) deed.after where
  rooted := enlists.fits.rooted sound files.rooted
  catalogued := enlists.catalogued sound files.catalogued
  listed := by
    rw [enlists.listed, files.listed, Log.clusters, Log.clusters, List.filterMap_append]
    cases h : deed.entry.cluster? <;> simp [h]

/-- The bytes of a log, perhaps cut off, whose fronts give directories in order, and whose whole entries
list the clusters that were added. -/
def Log.Registers (added : List (String × Cluster)) (bytes : Bytes) : Prop :=
  ∃ entries size, (∀ entry ∈ entries, LogEntry.Small entry) ∧ Log.Carries Log.Files entries ∧
    bytes = (Log.bytes entries).take size ∧
    added.map (·.2) = Log.clusters (Log.whole size entries) ∧
    ∀ entry ∈ added, Store.normalName entry.1 = .ok entry.2.name

section Logs

variable {added : List (String × Cluster)} {bytes : Bytes}

theorem Log.Registers.empty : Log.Registers [] [] := by
  refine ⟨[], 0, by simp, ?_, rfl, rfl, by simp⟩
  intro front hfront
  rw [List.prefix_nil.1 hfront]
  exact ⟨{}, rfl, .empty, .empty, rfl⟩

/-- What is left of the log lists the first of the clusters. -/
theorem Log.Registers.take (registers : Log.Registers added bytes) {size : Nat}
    {left : List LogEntry} {length : Nat} (reads : Log.replay (bytes.take size) = .ok (left, length)) :
    Log.Registers (added.take (Log.clusters left).length) (bytes.take size) := by
  obtain ⟨entries, first, small, carries, rfl, hadded, normal⟩ := registers
  rw [List.take_take] at reads ⊢
  rw [Log.replay_take small] at reads
  obtain ⟨rfl, -⟩ := Prod.mk.inj (Except.ok.inj reads)
  refine ⟨entries, min size first, small, carries, rfl, ?_, fun entry h =>
    normal entry (List.mem_of_mem_take h)⟩
  have hprefix : Log.clusters (Log.whole (min size first) entries) <+:
      Log.clusters (Log.whole first entries) :=
    (Log.whole_mono (Nat.min_le_right size first) entries).filterMap _
  rw [List.map_take, hadded]
  exact (List.prefix_iff_eq_take.1 hprefix).symm

namespace Store

variable {store : Store} {entries : List LogEntry} {settings : Settings} {victims : Nat → Nat}
  {journal : Journal}

/-- All deeds of a run list clusters properly. -/
theorem covers_enlists : Covers Contents.Enlists (fun _ => True) fun _ => True :=
  covers_of_listings Contents.ListsNone.enlists
    (fun name file size _ => addPhysicalPlan_enlists _ name file size)
    fun name container sound => addLogicalPlan_enlists sound name container

/-- Whatever is done to a store, its directory stays in order. -/
theorem Law.catalogued : Law Contents.Enlists fun a b =>
    a.contents.Sound → b.contents.Sound ∧ (a.contents.Catalogued → b.contents.Catalogued) :=
  .invariant (·.fits) (·.catalogued)

theorem Logs.registers (logs : store.Logs entries) (carries : Log.Carries Log.Files entries)
    (registers : ({} : Contents).Registers added store.contents) :
    Log.Registers added store.journal.medium.bytes := by
  obtain ⟨contents, happly, files⟩ := carries entries List.prefix_rfl
  rw [logs.rebuilt] at happly
  cases happly
  refine ⟨entries, (Log.bytes entries).length, logs.small, carries, ?_, ?_, registers.normal⟩
  · rw [logs.holds.bytes_eq, List.take_length]
  · rw [Log.whole_of_length_le (Nat.le_refl _), ← files.listed, registers.listed]
    rfl

/-- Opening what is left of a log begins with the clusters that it lists, and then adds first ones or
none. -/
theorem start_of_registers (settings : Settings) (victims : Nat → Nat)
    (registers : Log.Registers added bytes) (holds : journal.medium.Holds bytes) :
    ∃ start names entries, start.Logs entries ∧ Log.Carries Log.Files entries ∧
      ({} : Contents).Registers added start.contents ∧
      (journal.SyncsHold → start.journal.SyncsHold) ∧
      openingCourse settings victims journal = start :: start.initialCourse names ∧
      openingAdded settings victims journal = start.firstAdded names ∧
      (ofJournal settings victims journal).2 = (start.addInitial names).2.journal ∧
      ∀ {store after}, ofJournal settings victims journal = (.ok store, after) →
        start.addInitial names = (.ok (), store) := by
  obtain ⟨entries, size, small, carries, rfl, hadded, normal⟩ := registers
  have hwhole := Log.whole_isPrefix size entries
  obtain ⟨contents, happly, files⟩ := carries _ hwhole
  obtain ⟨start, names, rfl, hholds, hsyncs, hnames, hcourse, hopening⟩ :=
    start_of_holds settings victims small holds happly
  have rooted (front : List LogEntry) (contents : Contents) (hfront : front <+: Log.whole size entries)
      (h : ({} : Contents).applyAll front = .ok contents) : contents.Rooted := by
    obtain ⟨found, hfound, files⟩ := carries front (hfront.trans hwhole)
    rw [Except.ok.inj (h.symm.trans hfound)]
    exact files.rooted
  refine ⟨start, names, Log.whole size entries,
    ⟨fun entry h => small entry (hwhole.subset h), hholds, happly, rooted⟩, carries.mono hwhole,
    ⟨files.listed.trans hadded.symm, normal⟩, hsyncs, hcourse, ?_, hopening⟩
  simp only [openingAdded, hcourse]
  split <;> rename_i hsize
  · rw [hnames, if_pos hsize]
    rfl
  · rw [hnames, if_neg hsize]

/-- Adding first clusters passes the stores of their course, up to the first that is not added. -/
theorem trail_firstAdded (store : Store) (names : List String) :
    ∃ front, front <+: store.initialCourse names ∧
      Trail Contents.Enlists store front (store.addInitial names).2 ∧
      ((store.addInitial names).1 = .ok () → front = store.initialCourse names) :=
  @trail_addInitial Contents.Enlists (fun _ => True)
    (fun name _ => addPhysicalPlan_enlists _ name none (-1))
    ⟨fun _ _ => id, fun _ => id, fun _ => id⟩ store names True.intro

end Store

end Logs

/-- A log with the clusters that were added while it was written, each with the text it was added under:
nothing; what an opening makes of such a log, also if it fails; what steps make of it then; and what a
crash leaves of it, with the clusters that can be read there. Whatever the journals refuse, no sync fails,
and every append is of fewer than `2 ^ 32` bytes. -/
inductive Log.Lists (ε : Type) : List (String × Cluster) → Bytes → Prop
  | empty : Lists ε [] []
  | opened {added : List (String × Cluster)} {bytes : Bytes} {settings : Settings}
      {victims : Nat → Nat} {journal : Journal} (lists : Lists ε added bytes)
      (holds : journal.medium.Holds bytes) (syncs : journal.SyncsHold)
      (small : Store.SmallAppends bytes.length (Store.openingCourse settings victims journal)) :
      Lists ε (added ++ Store.openingAdded settings victims journal)
        (Store.ofJournal settings victims journal).2.medium.bytes
  | run {added : List (String × Cluster)} {bytes : Bytes} {name : String} {mode : StorageMode}
      {settings : Settings} {victims : Nat → Nat} {journal after : Journal} {database : Database}
      (lists : Lists ε added bytes) (holds : journal.medium.Holds bytes) (syncs : journal.SyncsHold)
      (opens : Database.ofJournal name mode settings journal victims = (.ok database, after))
      (steps : List (Step ε))
      (small : Store.SmallAppends bytes.length
        (Store.openingCourse settings victims journal ++ Step.courseAll database steps)) :
      Lists ε (added ++ Store.openingAdded settings victims journal ++ Step.addedAll database steps)
        (Step.runAll database steps).2.store.journal.medium.bytes
  | cut {added : List (String × Cluster)} {bytes : Bytes} (lists : Lists ε added bytes) (size : Nat)
      {left : List LogEntry} {length : Nat} (reads : Log.replay (bytes.take size) = .ok (left, length)) :
      Lists ε (added.take (Log.clusters left).length) (bytes.take size)

section Histories

variable {ε : Type} {added : List (String × Cluster)} {bytes : Bytes}

theorem Log.Lists.registers (lists : Log.Lists ε added bytes) : Log.Registers added bytes := by
  induction lists with
  | empty => exact .empty
  | @opened added bytes settings victims journal _ holds syncs small ih =>
    obtain ⟨start, names, entries, logs, carries, registers, hsyncs, hcourse, hadded, hjournal, -⟩ :=
      Store.start_of_registers settings victims ih holds
    obtain ⟨front, hfront, trail, -⟩ := start.trail_firstAdded names
    rw [hcourse] at small
    obtain ⟨more, hlast, hmore⟩ := logs.trail (·.fits) Log.Files.append carries (hsyncs syncs) trail
      (Store.smallAppends_of_prefix hfront small.2)
    rw [hadded, hjournal]
    exact hlast.registers hmore (registers.trans (start.registers_addInitial names))
  | @run added bytes name mode settings victims journal after database _ holds syncs opens steps small
      ih =>
    obtain ⟨start, names, entries, logs, carries, registers, hsyncs, hcourse, hadded, -, hopened⟩ :=
      Store.start_of_registers settings victims ih holds
    have hadd := hopened (Database.ofJournal_ok opens).1
    obtain ⟨front, -, trail, hall⟩ := start.trail_firstAdded names
    have hfirst := start.registers_addInitial names
    rw [hadd] at trail hall hfirst
    rw [hall rfl] at trail
    have sound := (Contents.Sound.empty.applyAll logs.rebuilt)
    have hsound := (trail.of_law Store.Law.catalogued sound).1
    have hrun := trail.append (Step.trail_courseAll Store.covers_enlists steps hsound True.intro)
    rw [hcourse] at small
    obtain ⟨more, hlast, hmore⟩ :=
      logs.trail (·.fits) Log.Files.append carries (hsyncs syncs) hrun small.2
    rw [hadded]
    exact hlast.registers hmore ((registers.trans hfirst).trans (Step.registers_runAll steps hsound))
  | cut _ size reads ih => exact ih.take reads

namespace Database

variable {database : Database}

/-- A database with the clusters that were added since its log was empty: it was opened over such a log,
with appends of fewer than `2 ^ 32` bytes, and put through some steps with entries however long. -/
inductive Populated (ε : Type) : List (String × Cluster) → Database → Prop
  | opened {added : List (String × Cluster)} {bytes : Bytes} {name : String} {mode : StorageMode}
      {settings : Settings} {victims : Nat → Nat} {journal after : Journal} {database : Database}
      (lists : Log.Lists ε added bytes) (holds : journal.medium.Holds bytes)
      (opens : ofJournal name mode settings journal victims = (.ok database, after)) :
      Populated ε (added ++ Store.openingAdded settings victims journal) database
  | stepped {added : List (String × Cluster)} {database : Database}
      (populated : Populated ε added database) (step : Step ε) :
      Populated ε (added ++ step.added database) (step.run database).2

theorem Populated.reached (populated : Populated ε added database) : Reached ε database := by
  induction populated with
  | opened _ _ opens => exact .opened opens
  | stepped _ step ih => exact .stepped ih step

/-- The clusters of a database are those that were added, and its directory is in order. -/
theorem Populated.registers (populated : Populated ε added database) :
    ({} : Contents).Registers added database.store.contents ∧
      database.store.contents.Catalogued := by
  induction populated with
  | @opened added bytes name mode settings victims journal after database lists holds opens =>
    obtain ⟨start, names, entries, logs, carries, registers, -, -, hadded, -, hopened⟩ :=
      Store.start_of_registers settings victims lists.registers holds
    obtain ⟨contents, happly, files⟩ := carries entries List.prefix_rfl
    rw [logs.rebuilt] at happly
    cases happly
    have sound := Contents.Sound.empty.applyAll logs.rebuilt
    have hfirst := start.registers_addInitial names
    have hkept := Store.addInitial_of_each Store.Law.catalogued
      (fun store name => store.addPhysicalPlan_enlists name none (-1)) start names sound
    rw [hopened (ofJournal_ok opens).1] at hfirst hkept
    rw [hadded]
    exact ⟨registers.trans hfirst, hkept.2 files.catalogued⟩
  | stepped populated step ih =>
    have sound := populated.reached.sound_coherent.1
    have hkept := (step.trail_course Store.covers_enlists sound True.intro).of_law
      Store.Law.catalogued sound
    exact ⟨ih.1.trans (step.registers_run sound), hkept.2 ih.2⟩

end Database

namespace Store

variable {store : Store} {id : Int16}

theorem cluster?_iff_of_sound (sound : store.contents.Sound) {cluster : Cluster} :
    store.cluster? id = some cluster ↔ cluster ∈ store.clusters ∧ cluster.id = id := by
  rw [cluster?, Option.map_eq_some_iff, clusters, Table.values, List.map_map, List.mem_map]
  constructor
  · rintro ⟨listing, hlisting, rfl⟩
    exact ⟨⟨_, Table.mem_entries_iff.2 hlisting, rfl⟩, sound.keyed hlisting⟩
  · rintro ⟨⟨⟨key, listing⟩, hentry, rfl⟩, rfl⟩
    have hlisting := Table.mem_entries_iff.1 hentry
    refine ⟨listing, ?_, rfl⟩
    rw [Function.comp, sound.keyed hlisting]
    exact hlisting

theorem exists_listing_iff {name : String} :
    (∃ listing, store.contents.clusters.get? id = some listing ∧ listing.cluster.name = name) ↔
      ∃ cluster, store.cluster? id = some cluster ∧ cluster.name = name := by
  simp only [cluster?, Option.map_eq_some_iff]
  constructor
  · rintro ⟨listing, hlisting, hname⟩
    exact ⟨_, ⟨listing, hlisting, rfl⟩, hname⟩
  · rintro ⟨_, ⟨listing, hlisting, rfl⟩, hname⟩
    exact ⟨listing, hlisting, hname⟩

/-- The ids of a directory in order, as numbers. -/
theorem ids_of_catalogued (sound : store.contents.Sound) (catalogued : store.contents.Catalogued) :
    store.clusters.map (·.id.toInt) =
      (List.range store.contents.clusters.size).map Int.ofNat := by
  have hkeys : store.clusters.map (·.id) = store.contents.clusters.keys := by
    rw [clusters, Table.values, Table.keys, List.map_map, List.map_map]
    exact List.map_congr_left fun entry hentry => sound.keyed (Table.mem_entries_iff.1 hentry)
  have hsplit : store.clusters.map (·.id.toInt) = (store.clusters.map (·.id)).map Int16.toInt := by
    rw [List.map_map]
    rfl
  rw [hsplit, hkeys, catalogued.ids, List.map_map]
  refine List.map_congr_left fun n hn => ?_
  have hfew := catalogued.few
  have hlt := List.mem_range.1 hn
  exact Int16.toInt_ofNat_of_lt (by omega)

end Store

namespace Database

variable {database : Database}

/-- The directory of a database is in order, and has the clusters that were added: their ids are 0, 1, 2
and so on, their names are the normal forms of the texts they were added under, ids and names find each
other, and a logical cluster is kept where a physical one before it is, which handed out its
descriptor. -/
structure Directory (database : Database) (added : List (String × Cluster)) : Prop where
  clusters : database.store.clusters = added.map (·.2)
  ids : database.store.clusters.map (·.id.toInt) = (List.range added.length).map Int.ofNat
  normal : ∀ entry ∈ added, Store.normalName entry.1 = .ok entry.2.name
  byId : ∀ {id cluster}, database.store.cluster? id = some cluster ↔
    cluster ∈ database.store.clusters ∧ cluster.id = id
  byName : ∀ {name id}, database.store.contents.names.get? name = some id ↔
    ∃ cluster, database.store.cluster? id = some cluster ∧ cluster.name = name
  named : ∀ cluster ∈ database.store.clusters,
    database.store.clusterNamed? cluster.name = some cluster.id
  inside : ∀ cluster ∈ database.store.clusters, ∀ container descriptor,
    cluster.kind = .logical container descriptor → container < cluster.id ∧
      ∃ listing root, database.store.listing cluster.id = .ok listing ∧
        database.store.listing container = .ok root ∧ listing.home = root.home ∧
        root.cluster.kind.isLogical = false ∧ descriptor.cluster = container ∧
        0 ≤ descriptor.position.toInt ∧
        descriptor.position.toInt < database.store.contents.next root.home

/-- The directory of a database is in order and has the clusters that were added since its log was empty,
and whatever is done then, it keeps them, as they are and in their order. Before the log was last opened it
grew by fewer than `2 ^ 32` bytes at a time. -/
theorem directory_consistent (populated : Populated ε added database) :
    database.Directory added ∧ ∀ steps : List (Step ε),
      database.store.clusters <+: (Step.runAll database steps).2.store.clusters := by
  obtain ⟨registers, catalogued⟩ := populated.registers
  have sound := populated.reached.sound_coherent.1
  have hclusters : database.store.clusters = added.map (·.2) := registers.listed
  have hlength : database.store.contents.clusters.size = added.length := by
    have := congrArg List.length hclusters
    rwa [Store.clusters, Table.values, List.length_map, List.length_map, List.length_map] at this
  refine ⟨⟨hclusters, ?_, registers.normal, database.store.cluster?_iff_of_sound sound, ?_, ?_, ?_⟩,
    fun steps => ⟨_, (Step.registers_runAll steps sound).listed.symm⟩⟩
  · rw [Store.ids_of_catalogued sound catalogued, hlength]
  · intro name id
    rw [catalogued.names, Store.exists_listing_iff]
  · intro cluster h
    obtain ⟨entry, hentry, rfl⟩ := List.mem_map.1 (hclusters ▸ h)
    rw [Store.clusterNamed?, Store.lowercase_of_normalName (registers.normal entry hentry),
      catalogued.names, Store.exists_listing_iff]
    exact ⟨entry.2, (Store.cluster?_iff_of_sound sound).2 ⟨h, rfl⟩, rfl⟩
  · intro cluster h container descriptor hkind
    obtain ⟨listing, hlisting, rfl⟩ :=
      Option.map_eq_some_iff.1 ((Store.cluster?_iff_of_sound sound).2 ⟨h, rfl⟩)
    obtain ⟨hlt, root, hosts, hhome⟩ := catalogued.inside hlisting hkind
    exact ⟨hlt, listing, root, Store.listing_of_clusters hlisting, Store.listing_of_clusters hosts.listed,
      hhome, hosts.physical, hosts.cluster, hosts.nonneg, hosts.handed⟩

/-- A logical cluster is refused after its descriptor was written, then added, and the log is opened
anew. -/
theorem directory_consistent_of_reopened :
    let journal : Journal := { blankJournal with refusals := [(2, false), (1, true)] }
    let store := ((Store.ofContents plainSettings (fun _ => 0) journal {}).addInitial ["a"]).2
    let first : Database := { name := "a", mode := .memory, settings := plainSettings, store }
    let add : Step Unit := .operation (.addLogical " B " 0)
    let ran := (add.run (add.run first).2).2
    ∃ added last after, Populated Unit added last ∧
      ofJournal "a" .memory plainSettings
        { blankJournal with medium := .memory ⟨ran.store.journal.medium.bytes⟩ } (fun _ => 0) =
        (.ok last, after) ∧
      last.Directory added ∧
      added.map (·.2) = [⟨0, "a", .physical none (-1)⟩, ⟨1, "b", .logical 0 ⟨0, 1⟩⟩] := by
  intro journal store first add ran
  have empty : journal.medium.Holds [] := Medium.holds_memory []
  have syncs : journal.SyncsHold := fun n => Faults.fate_nil _ n
  have opening : Store.ofJournal plainSettings (fun _ => 0) journal = (.ok store, store.journal) ∧
      Store.openingCourse plainSettings (fun _ => 0) journal =
        [Store.ofContents plainSettings (fun _ => 0) journal {}, store] :=
    Store.ofJournal_of_empty empty rfl
  have opens := ofJournal_of_store "a" .memory opening.1
  have small : Store.SmallAppends 0 (Store.openingCourse plainSettings (fun _ => 0) journal) := by
    rw [opening.2]
    decide +kernel
  have small' : Store.SmallAppends 0 (Store.openingCourse plainSettings (fun _ => 0) journal ++
      Step.courseAll first [add, add]) := by
    rw [opening.2]
    decide +kernel
  have written := @Log.Lists.run Unit [] [] "a" .memory plainSettings (fun _ => 0) journal store.journal
    first .empty empty syncs opens [add, add] small'
  have listed {database : Database} (h : database = (Step.runAll first [add, add]).2) :
      ∃ added, Log.Lists Unit added database.store.journal.medium.bytes := by
    rw [h]
    exact ⟨_, written⟩
  obtain ⟨added, lists⟩ := listed (by simp only [ran, Step.runAll] : ran = _)
  have durable : Durable Unit ran := ((Durable.opened empty syncs opens small).stepped add
    (by decide +kernel)).stepped add (by decide +kernel)
  have hsettings : ran.settings = plainSettings := by
    simp only [ran, Step.settings_run]
    rfl
  have whole : ({ blankJournal with medium := .memory ⟨ran.store.journal.medium.bytes⟩ } :
      Journal).medium.Holds ran.store.journal.medium.bytes := Medium.holds_memory _
  obtain ⟨last, after, hlast, hcontents, -⟩ := durable.reopen whole "a" .memory fun _ => 0
  rw [hsettings] at hlast
  have directory := (directory_consistent (Populated.opened lists whole hlast)).1
  refine ⟨_, last, after, .opened lists whole hlast, hlast, directory, ?_⟩
  rw [← directory.clusters, Store.clusters, hcontents]
  decide +kernel

end Database

end Histories

end RecordBase
