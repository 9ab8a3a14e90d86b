import RecordBase.Proofs.Database.Recovery

/-!
# The databases that runs lead to

`Database.Reached`: opened over some journal and put through steps, whatever the journal refuses.
`Database.Durable`: since its log was empty no sync has failed, so the log tells all that the database
holds, also if it has crashed and was opened again on the way. Opening the log of such a database
gives what the database holds (`Durable.reopen`).
-/

namespace RecordBase

section Settings

variable {ε : Type}

theorem Database.settings_onStore {α : Type} (database : Database) (wrap : α → Answer)
    (operation : Store → Except Error α × Store) :
    (database.onStore wrap operation).2.settings = database.settings := rfl

theorem Operation.settings_run (database : Database) (operation : Operation) :
    (operation.run database).2.settings = database.settings := by
  cases operation with
  | execute request =>
    simp only [run]
    split <;> rfl
  | close =>
    simp only [run, Database.close]
    split <;> rfl
  | _ => simp only [run, Database.settings_onStore, Database.look, Database.notify]

/-- A run keeps the settings. -/
theorem Step.settings_run (step : Step ε) (database : Database) :
    (step.run database).2.settings = database.settings :=
  run_of_rel (R := fun before after => after.settings = before.settings)
    (fun h h' => h'.trans h) (fun _ _ => rfl) Operation.settings_run database step

end Settings

namespace Database

/-- Opened over a journal and put through some steps. -/
inductive Reached (ε : Type) : Database → Prop
  | opened {name : String} {mode : StorageMode} {settings : Settings} {victims : Nat → Nat}
      {journal after : Journal} {database : Database}
      (opens : ofJournal name mode settings journal victims = (.ok database, after)) :
      Reached ε database
  | stepped {database : Database} (reached : Reached ε database) (step : Step ε) :
      Reached ε (step.run database).2

/-- Opened over an empty log or over what a crash left of such a database's log, and put through some
steps, with no sync failing and every entry of fewer than `2 ^ 32` bytes. -/
inductive Durable (ε : Type) : Database → Prop
  | opened {name : String} {mode : StorageMode} {settings : Settings} {victims : Nat → Nat}
      {journal after : Journal} {database : Database} (empty : journal.medium.Holds [])
      (syncs : journal.SyncsHold)
      (opens : ofJournal name mode settings journal victims = (.ok database, after))
      (small : Store.SmallAppends 0 (Store.openingCourse settings victims journal)) :
      Durable ε database
  | stepped {database : Database} (durable : Durable ε database) (step : Step ε)
      (small : Store.SmallAppends database.store.logSize (step.course database)) :
      Durable ε (step.run database).2
  | reopened {name : String} {mode : StorageMode} {settings : Settings} {victims : Nat → Nat}
      {journal after : Journal} {database crashed : Database} (durable : Durable ε crashed)
      {size : Nat} (cut : journal.medium.Holds (crashed.store.journal.medium.bytes.take size))
      (syncs : journal.SyncsHold)
      (opens : ofJournal name mode settings journal victims = (.ok database, after))
      (small : Store.SmallAppends size (Store.openingCourse settings victims journal)) :
      Durable ε database

/-- Opened over an empty log or over what a crash left of a durable database's log, and put through some
steps, whatever the journal refuses, however syncs fail and however long the entries are since. -/
inductive Grown (ε : Type) : Database → Prop
  | opened {name : String} {mode : StorageMode} {settings : Settings} {victims : Nat → Nat}
      {journal after : Journal} {database : Database} (empty : journal.medium.Holds [])
      (opens : ofJournal name mode settings journal victims = (.ok database, after)) :
      Grown ε database
  | reopened {name : String} {mode : StorageMode} {settings : Settings} {victims : Nat → Nat}
      {journal after : Journal} {database crashed : Database} (durable : Durable ε crashed)
      {size : Nat} (cut : journal.medium.Holds (crashed.store.journal.medium.bytes.take size))
      (opens : ofJournal name mode settings journal victims = (.ok database, after)) :
      Grown ε database
  | stepped {database : Database} (grown : Grown ε database) (step : Step ε) :
      Grown ε (step.run database).2

variable {ε : Type} {database : Database}

theorem Reached.sound_coherent (reached : Reached ε database) :
    database.store.contents.Sound ∧ database.store.Coherent := by
  induction reached with
  | opened opens => exact Store.sound_coherent_ofJournal (ofJournal_ok opens).1
  | @stepped database _ step ih =>
    obtain ⟨sound, coherent⟩ := ih
    obtain ⟨hsound, -, hcoherent⟩ := step.run_of_law Store.Law.coherent sound
    exact ⟨hsound, (hcoherent sound).2 coherent⟩

theorem Durable.reached (durable : Durable ε database) : Reached ε database := by
  induction durable with
  | opened _ _ opens _ => exact .opened opens
  | stepped _ step _ ih => exact .stepped ih step
  | reopened _ _ _ opens _ _ => exact .opened opens

/-- The log of a database gives what the database holds, and this is sound. No sync fails, and there is a
cluster or there are no first ones. -/
structure Logged (database : Database) : Prop where
  sound : database.store.contents.Sound
  logs : ∃ entries, database.store.Logs entries
  syncs : database.store.journal.SyncsHold
  founded : database.settings.initialClusters = [] ∨
    ∃ id listing, database.store.contents.clusters.get? id = some listing

/-- Opening what is left of a log. -/
theorem logged_of_opening {name : String} {mode : StorageMode} {settings : Settings}
    {victims : Nat → Nat} {journal after : Journal} {before : Store} {entries : List LogEntry}
    (logs : before.Logs entries) {size : Nat}
    (cut : journal.medium.Holds (before.journal.medium.bytes.take size)) (syncs : journal.SyncsHold)
    (opens : ofJournal name mode settings journal victims = (.ok database, after))
    (small : Store.SmallAppends size (Store.openingCourse settings victims journal)) :
    database.Logged := by
  obtain ⟨hstore, hsettings⟩ := ofJournal_ok opens
  obtain ⟨start, course, hcourse, hstart, hpath, hsyncs, hfounded⟩ :=
    Store.path_openingCourse logs cut syncs hstore
  rw [hcourse] at small
  obtain ⟨more, hend, -⟩ := hpath.rebuilt hstart small.2
  exact ⟨(Store.sound_coherent_ofJournal hstore).1, ⟨_, hend⟩, hsyncs, hsettings ▸ hfounded⟩

theorem Logged.stepped (logged : database.Logged) (step : Step ε)
    (small : Store.SmallAppends database.store.logSize (step.course database)) :
    (step.run database).2.Logged := by
  obtain ⟨sound, ⟨entries, hlogs⟩, syncs, hfounded⟩ := logged
  obtain ⟨more, hend, -⟩ := (step.path_course sound syncs).rebuilt hlogs small
  have hfollows := (step.run_of_law Store.Law.follows sound).2.2
  refine ⟨step.sound_run sound, ⟨_, hend⟩, hfollows.syncsHold syncs, ?_⟩
  rw [step.settings_run]
  exact hfounded.imp_right fun ⟨id, listing, hlisted⟩ =>
    ⟨id, listing, (step.advances_run sound).listed hlisted⟩

theorem Durable.logged (durable : Durable ε database) : database.Logged := by
  induction durable with
  | @opened name mode settings victims journal after database empty syncs opens small =>
    have hall : journal.medium.Holds (journal.medium.bytes.take 0) := empty
    exact logged_of_opening (Store.logs_ofContents_empty settings victims empty) hall syncs opens small
  | stepped _ step small ih => exact ih.stepped step small
  | reopened _ cut syncs opens small ih =>
    obtain ⟨entries, hlogs⟩ := ih.logs
    exact logged_of_opening hlogs cut syncs opens small

/-- The log of a durable database gives what it holds, and it has a cluster or no first ones. -/
theorem Durable.logs (durable : Durable ε database) :
    (∃ entries, database.store.Logs entries) ∧ database.store.journal.SyncsHold ∧
      (database.settings.initialClusters = [] ∨
        ∃ id listing, database.store.contents.clusters.get? id = some listing) :=
  ⟨durable.logged.logs, durable.logged.syncs, durable.logged.founded⟩

/-- Opening the whole log is opening what a crash left that cut nothing. -/
theorem Durable.reopened_whole {name : String} {mode : StorageMode} {settings : Settings}
    {victims : Nat → Nat} {journal after : Journal} {reopened : Database}
    (durable : Durable ε database)
    (whole : journal.medium.Holds database.store.journal.medium.bytes) (syncs : journal.SyncsHold)
    (opens : ofJournal name mode settings journal victims = (.ok reopened, after))
    (small : Store.SmallAppends database.store.logSize
      (Store.openingCourse settings victims journal)) : Durable ε reopened := by
  obtain ⟨⟨entries, hlogs⟩, -, -⟩ := durable.logs
  have hsize : database.store.logSize = database.store.journal.medium.bytes.length := by
    rw [hlogs.logSize_eq, hlogs.holds.bytes_eq]
  rw [← List.take_length (l := database.store.journal.medium.bytes), ← hsize] at whole
  exact .reopened durable whole syncs opens small

theorem durable_plain : Durable ε plain := by
  refine .opened blankJournal_empty blankJournal_syncsHold ofJournal_plain ?_
  rw [openingCourse_plain]
  decide +kernel

theorem Grown.reached (grown : Grown ε database) : Reached ε database := by
  induction grown with
  | opened _ opens => exact .opened opens
  | reopened _ _ opens => exact .opened opens
  | stepped _ step ih => exact .stepped ih step

theorem Grown.sound_rooted (grown : Grown ε database) :
    database.store.contents.Sound ∧ database.store.contents.Rooted := by
  refine ⟨grown.reached.sound_coherent.1, ?_⟩
  induction grown with
  | @opened name mode settings victims journal after database empty opens =>
    have hall : journal.medium.Holds (journal.medium.bytes.take 0) := empty
    exact Store.rooted_of_ofJournal (Store.logs_ofContents_empty settings victims empty) hall
      (ofJournal_ok opens).1
  | reopened durable cut opens =>
    obtain ⟨⟨entries, hlogs⟩, -, -⟩ := durable.logs
    exact Store.rooted_of_ofJournal hlogs cut (ofJournal_ok opens).1
  | stepped grown step ih =>
    have sound := grown.reached.sound_coherent.1
    exact ((step.run_of_law Store.Law.sound_rooted sound).2.2 sound).2 ih

theorem Durable.rooted (durable : Durable ε database) : database.store.contents.Rooted := by
  obtain ⟨⟨entries, hlogs⟩, -, -⟩ := durable.logs
  exact hlogs.rooted entries _ (List.prefix_refl entries) hlogs.rebuilt

/-- A durable database is put through some steps, and of its log the first `size` bytes are left, all
that it had before among them. Opening these gives what it held after the last append that they
contain. -/
theorem Durable.reopen_cut (durable : Durable ε database) (steps : List (Step ε))
    (small : Store.SmallAppends database.store.logSize (Step.courseAll database steps)) {size : Nat}
    (initial : database.store.logSize ≤ size) {rest : Journal}
    (cut : rest.medium.Holds
      ((Step.runAll database steps).2.store.journal.medium.bytes.take size))
    (name : String) (mode : StorageMode) (victims : Nat → Nat) :
    ∃ reopened after, ofJournal name mode database.settings rest victims = (.ok reopened, after) ∧
      reopened.store.contents =
        Store.heldAt size database.store.contents (Step.courseAll database steps) := by
  obtain ⟨⟨entries, hlogs⟩, syncs, hfounded⟩ := durable.logs
  have hrun := Step.path_courseAll steps durable.reached.sound_coherent.1 syncs
  obtain ⟨more, hend, hrebuilt⟩ := hrun.rebuilt hlogs small
  rw [hend.holds.bytes_eq] at cut
  obtain ⟨medium, -, hopen⟩ := Store.ofJournal_of_cut victims hend.small cut (hrebuilt size initial)
    (hfounded.imp_right fun ⟨_, _, hlisted⟩ =>
      Table.size_ne_zero (hrun.listed_heldAt hlisted hlisted size))
  exact ⟨_, _, ofJournal_of_store name mode hopen, rfl⟩

/-- Opening the log of a database, with the same settings, gives what the database holds. -/
theorem Logged.reopen (logged : database.Logged) {journal : Journal}
    (whole : journal.medium.Holds database.store.journal.medium.bytes) (name : String)
    (mode : StorageMode) (victims : Nat → Nat) :
    ∃ reopened after,
      ofJournal name mode database.settings journal victims = (.ok reopened, after) ∧
      reopened.store.contents = database.store.contents ∧ reopened.store.Coherent := by
  obtain ⟨entries, hlogs⟩ := logged.logs
  obtain ⟨medium, hopen⟩ := hlogs.reopens logged.founded whole victims
  exact ⟨_, _, ofJournal_of_store name mode hopen, rfl, Store.coherent_ofContents _ _ _ _⟩

theorem Durable.reopen (durable : Durable ε database) {journal : Journal}
    (whole : journal.medium.Holds database.store.journal.medium.bytes) (name : String)
    (mode : StorageMode) (victims : Nat → Nat) :
    ∃ reopened after,
      ofJournal name mode database.settings journal victims = (.ok reopened, after) ∧
      reopened.store.contents = database.store.contents ∧ reopened.store.Coherent :=
  durable.logged.reopen whole name mode victims

/-- Opening the log of a database with the same settings appends nothing. -/
theorem Logged.small_reopening (logged : database.Logged) {journal : Journal}
    (whole : journal.medium.Holds database.store.journal.medium.bytes) (victims : Nat → Nat) :
    Store.SmallAppends database.store.logSize
      (Store.openingCourse database.settings victims journal) := by
  obtain ⟨entries, hlogs⟩ := logged.logs
  have hsize : journal.medium.size = database.store.logSize := by
    rw [whole.size_eq, hlogs.logSize_eq, hlogs.holds.bytes_eq]
  rw [hlogs.openingCourse_eq logged.founded whole victims]
  refine ⟨?_, True.intro⟩
  show journal.medium.size < database.store.logSize + 2 ^ 32
  omega

theorem Durable.small_reopening (durable : Durable ε database) {journal : Journal}
    (whole : journal.medium.Holds database.store.journal.medium.bytes) (victims : Nat → Nat) :
    Store.SmallAppends database.store.logSize
      (Store.openingCourse database.settings victims journal) :=
  durable.logged.small_reopening whole victims

end Database

end RecordBase
