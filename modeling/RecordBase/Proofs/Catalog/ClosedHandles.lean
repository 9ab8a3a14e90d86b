import RecordBase.Proofs.Catalog.Bounds

/-!
# What closed handles write

Closing a database unlocks its directory, and from then on batches are refused. Single operations
are not: they do on a closed database what they do on an open one, and write where the closed handle
last knew the end of the log. What a step writes is `Step.appended`.

* `Depot.log_is_own_iff`: after a directory has been opened again its log is at every moment what the
  opening left and then what was written through the new handle, just if all that is written through
  others, which are closed, stands there already.
-/

namespace RecordBase

open Files (Place)

/-! ## What a step writes -/

section Step

variable {ε : Type} {database : Database}

/-- The bytes that a step writes to the log. -/
def Step.appended (database : Database) (step : Step ε) : Bytes :=
  let after := (step.run database).2.store
  (after.journal.medium.bytes.drop database.store.logSize).take
    (after.logSize - database.store.logSize)

/-- What was appended to a medium. -/
theorem Step.appended_of_medium {step : Step ε} {data : Bytes}
    (h : (step.run database).2.store.journal.medium =
      (database.store.journal.medium.append data).2) : step.appended database = data := by
  simp only [appended, Store.logSize, h, Medium.size_append, Nat.add_sub_cancel_left,
    Medium.slice_append]

/-- A step writes entries, one behind the other from where the handle knew the end of the log. -/
theorem Step.medium_run (step : Step ε) (sound : database.store.contents.Sound) :
    (∃ entries, step.appended database = Log.bytes entries) ∧
      (step.run database).2.store.journal.medium =
        (database.store.journal.medium.append (step.appended database)).2 := by
  obtain ⟨entries, hmedium⟩ := (step.run_of_law Store.Law.appends sound).2.2
  have happended := appended_of_medium hmedium
  exact ⟨⟨entries, happended⟩, happended.symm ▸ hmedium⟩

theorem Step.file?_run (step : Step ε) (sound : database.store.contents.Sound) :
    (step.run database).2.file? = database.file?.map fun _ =>
      (database.store.journal.medium.append (step.appended database)).2.bytes := by
  rw [Database.file?, Database.file?, (step.medium_run sound).2]
  cases database.store.journal.medium <;> rfl

/-- What a step writes to the file of its database stands there already, where it is written. -/
def Step.Repeats (database : Database) (step : Step ε) : Prop :=
  ∀ log, database.file? = some log →
    (log.drop database.store.logSize).take (step.appended database).length = step.appended database

/-- A step leaves the file of its database just if it writes what stands there. -/
theorem Step.repeats_iff (step : Step ε) (sound : database.store.contents.Sound) :
    step.Repeats database ↔ (step.run database).2.file? = database.file? := by
  rw [step.file?_run sound, Repeats]
  have hiff := database.store.journal.medium.bytes_append_eq_iff (step.appended database)
  unfold Database.file? Store.logSize
  cases hmedium : database.store.journal.medium with
  | memory log => exact iff_of_true (by rintro _ ⟨⟩) rfl
  | file log =>
    rw [hmedium] at hiff
    simp only [Option.map_some, Option.some.injEq, forall_eq']
    exact hiff.symm

/-- What leaves the log writes nothing. -/
theorem Step.appended_eq_nil {step : Step ε}
    (h : (step.run database).2.store.journal.medium = database.store.journal.medium) :
    step.appended database = [] :=
  appended_of_medium (h.trans (Medium.append_nil _).symm)

/-- A batch writes nothing on a closed database. -/
theorem Step.appended_commit_of_closed (h : database.isOpen = false) (number : Int32)
    (items : List (Item ε)) : (Step.commit number items).appended database = [] := by
  have hopen : database.ensureOpen = .error .databaseClosed := by
    simp only [Database.ensureOpen, h]
    rfl
  exact appended_eq_nil (by rw [run_commit_of_closed hopen])

theorem Step.appended_of_idle {operation : Operation}
    (h : operation.plan? database.store = none) :
    (Step.operation operation : Step ε).appended database = [] :=
  appended_eq_nil (Operation.idle_run h).medium

/-- An operation writes on a closed database what it writes on an open one. -/
theorem Step.appended_operation {other : Database} (h : other.store = database.store)
    (operation : Operation) :
    (Step.operation operation : Step ε).appended other =
      (Step.operation operation : Step ε).appended database := by
  cases hplan : operation.plan? database.store with
  | some plan =>
    have hother : operation.plan? other.store = some plan := h ▸ hplan
    simp only [appended, Step.run, Operation.run_of_plan hplan, Operation.run_of_plan hother,
      Database.store_onStore, h]
  | none =>
    have hother : operation.plan? other.store = none := h ▸ hplan
    rw [appended_of_idle hplan, appended_of_idle hother]

end Step

/-! ## What an opening leaves -/

/-- Replaying the log in a file leaves the whole entries in the file. -/
theorem Journal.replay_ofFile {journal after : Journal} {log : Bytes} {entries : List LogEntry}
    (hmedium : journal.medium = .file (.ofFile log)) (h : journal.replay = .ok (entries, after)) :
    ∃ length, Log.replay log = .ok (entries, length) ∧
      after.medium = .file (.ofFile (Log.bytes entries)) := by
  have holds : journal.medium.Holds log := hmedium ▸ Medium.holds_file log
  rw [Journal.replay_eq holds] at h
  cases hread : Log.replay log with
  | error damage =>
    rw [hread] at h
    cases h
  | ok found =>
    obtain ⟨found, length⟩ := found
    obtain ⟨-, rfl, tail, rfl, -⟩ := Log.replay_eq_ok_iff.1 hread
    rw [hread] at h
    replace h : (if (Log.bytes found).length < (Log.bytes found ++ tail).length then _ else _) =
      Except.ok (entries, after) := h
    split at h
    · rename_i hlt
      have hcut : journal.medium.truncate (Log.bytes found).length =
          .ok (.file (.ofFile (Log.bytes found))) := by
        simp only [hmedium, Medium.truncate, FileLog.truncate, FileLog.ofFile,
          if_neg (Nat.not_lt.2 (Nat.le_of_lt hlt)), List.take_left']
        rfl
      rw [hcut] at h
      cases h
      exact ⟨_, rfl, rfl⟩
    · rename_i hnot
      have htail : tail = [] := by
        rw [List.length_append] at hnot
        exact List.length_eq_zero_iff.1 (by omega)
      cases h
      exact ⟨_, rfl, by rw [hmedium, htail, List.append_nil]⟩

/-- A database opened over the log in a file leaves there the entries that it read, and behind them those
of first clusters if they list none. -/
theorem Database.log_of_ofMedium {name : String} {mode : StorageMode} {settings : Settings}
    {log : Bytes} {database : Database} {medium : Medium}
    (h : ofMedium name mode settings (.file (.ofFile log)) = (.ok database, medium)) :
    ∃ replayed length added, Log.replay log = .ok (replayed, length) ∧
      (Log.clusterIds replayed ≠ [] → added = []) ∧ database.store.journal.medium = medium ∧
      medium = .file (.ofFile (Log.bytes (replayed ++ added))) := by
  unfold ofMedium at h
  rcases hopened : ofJournal name mode settings
    { medium := .file (.ofFile log), syncOnWrite := settings.syncOnWrite } fun _ => 0 with
    ⟨result, journal⟩
  rw [hopened] at h
  cases h
  obtain ⟨hstore, -⟩ := ofJournal_ok hopened
  obtain ⟨entries, after, contents, hreplay, happly, hjournal, hopen⟩ := Store.ofJournal_cases hstore
  obtain ⟨length, hread, hafter⟩ := Journal.replay_ofFile rfl hreplay
  rcases hopen with ⟨-, hsame⟩ | ⟨hsize, hadd⟩
  · refine ⟨entries, length, [], hread, fun _ => rfl, congrArg Journal.medium hjournal, ?_⟩
    rw [← hjournal, hsame, List.append_nil]
    exact hafter
  · have happends := Store.addInitial_of_law Store.Law.appends
      (Store.ofContents settings (fun _ => 0) after contents) settings.initialClusters
    rw [hadd] at happends
    obtain ⟨added, hadded⟩ := happends
    have hnone := (Contents.clusterIds_eq_nil_iff happly).2 hsize
    refine ⟨entries, length, added, hread, fun h => absurd hnone h,
      congrArg Journal.medium hjournal, ?_⟩
    rw [← hjournal, hadded, Store.ofContents, hafter, Medium.append_ofFile, Log.bytes_append]

namespace Depot

variable {ε : Type} {depot opened : Depot} {home : Place} {number other : Nat} {log : Bytes}

/-! ## Runs through handles -/

/-- Carries out a step through the handle with a number. -/
def step (depot : Depot) (number : Nat) (step : Step ε) : Depot :=
  (depot.run number fun database => step.run database).2

/-- The bytes that a step through a handle writes to the log of the handle. -/
def appended (depot : Depot) (number : Nat) (step : Step ε) : Bytes :=
  (depot.database? number).elim [] fun database => step.appended database

/-- At every moment of a run through handles the log in a directory is what it was first and then what
was written through one of them. -/
def OwnLog (home : Place) (number : Nat) (log : Bytes) (depot : Depot) :
    List (Nat × Step ε) → Prop
  | [] => depot.disk.log? home = some log
  | (other, step) :: rest =>
    depot.disk.log? home = some log ∧
      OwnLog home number (if other = number then log ++ depot.appended number step else log)
        (depot.step other step) rest

instance decidableOwnLog : (home : Place) → (number : Nat) → (log : Bytes) → (depot : Depot) →
    (run : List (Nat × Step ε)) → Decidable (OwnLog home number log depot run)
  | home, _, log, depot, [] => inferInstanceAs (Decidable (depot.disk.log? home = some log))
  | home, number, log, depot, (other, step) :: rest =>
    have := decidableOwnLog home number
      (if other = number then log ++ depot.appended number step else log) (depot.step other step) rest
    inferInstanceAs (Decidable (depot.disk.log? home = some log ∧ OwnLog ..))

/-- Whatever a run writes to the log in a directory through other handles than one stands there
already. -/
def Repeats (home : Place) (number : Nat) (depot : Depot) : List (Nat × Step ε) → Prop
  | [] => True
  | (other, step) :: rest =>
    (other ≠ number → depot.At other home → ∀ database, depot.database? other = some database →
      step.Repeats database) ∧ Repeats home number (depot.step other step) rest

theorem OwnLog.log? {run : List (Nat × Step ε)} (h : OwnLog home number log depot run) :
    depot.disk.log? home = some log := by
  cases run with
  | nil => exact h
  | cons => exact h.1

/-- A handle on a database in a directory knows all of its log. -/
structure Serves (depot : Depot) (home : Place) (number : Nat) (log : Bytes) : Prop where
  good : depot.AllGood
  directory : depot.disk.tree.isDirectory home = true
  log? : depot.disk.log? home = some log
  handle : ∃ database locks bytes,
    depot.handles.get? number = some (.database database (some home) locks) ∧
      database.store.journal.medium = .file ⟨bytes, log.length⟩

theorem isDirectory_writeFile (h : depot.disk.tree.isDirectory home = true) (place : Option Place)
    (database : Database) : (depot.writeFile place database).disk.tree.isDirectory home = true := by
  unfold writeFile
  split
  · exact Files.Tree.isDirectory_writeFile h _ _
  · exact h

/-- A step does nothing if its handle is not on a database, and else puts that back. -/
theorem step_puts (good : depot.AllGood) (number : Nat) (step : Step ε) :
    (depot.database? number = none ∧ depot.step number step = depot) ∨
    ∃ held place locks database, depot.handles.get? number = some (.database held place locks) ∧
      database = held.withFile ((place.bind depot.disk.log?).getD []) ∧
      depot.database? number = some database ∧ database.Good ∧
      depot.Puts number (step.run database).2 place locks (depot.step number step) := by
  rcases depot.run_puts number fun database => step.run database with ⟨hnone, hsame⟩ |
    ⟨held, place, locks, database, hhandle, hheld, hdatabase, puts⟩
  · exact .inl ⟨hnone, congrArg Prod.snd hsame⟩
  · have hgood := good number held (held?_eq_some_iff.2 ⟨place, locks, hhandle⟩)
    exact .inr ⟨held, place, locks, database, hhandle, hheld, hdatabase,
      hheld ▸ (held.agrees_withFile _).good hgood, puts⟩

theorem allGood_step (good : depot.AllGood) (number : Nat) (step : Step ε) :
    (depot.step number step).AllGood :=
  good.run number fun _ hgood => hgood.step step

theorem Serves.step_own (serves : depot.Serves home number log) (step : Step ε) :
    (depot.step number step).Serves home number (log ++ depot.appended number step) := by
  obtain ⟨good, directory, hlog, held, locks, bytes, hhandle, hmedium⟩ := serves
  rcases step_puts good number step with ⟨hnone, -⟩ |
    ⟨held', place, locks', database, hhandle', hheld, hdatabase, hgood, puts⟩
  · rw [database?_of_handle hhandle] at hnone
    cases hnone
  rw [hhandle] at hhandle'
  cases hhandle'
  have hbefore : database.store.journal.medium = .file (.ofFile log) := by
    rw [hheld, Database.medium_withFile, hmedium, Option.bind_some, hlog]
    rfl
  have happended : depot.appended number step = step.appended database := by
    simp only [appended, hdatabase, Option.elim_some]
  have hfile : (step.run database).2.file? = some (log ++ step.appended database) := by
    rw [step.file?_run hgood.sound, Database.file?, hbefore, Medium.append_ofFile]
    rfl
  have hafter : (step.run database).2.store.journal.medium =
      .file (.ofFile (log ++ step.appended database)) := by
    rw [(step.medium_run hgood.sound).2, hbefore, Medium.append_ofFile]
  rw [happended]
  refine ⟨allGood_step good number step, puts.disk ▸ isDirectory_writeFile directory _ _, ?_,
    _, _, _, (puts.get? number).trans (if_pos rfl), hafter⟩
  rw [puts.disk]
  simp only [writeFile, hfile]
  exact Disk.log?_writeLog_of_log directory hlog _

theorem Serves.step_other (serves : depot.Serves home number log) (hother : other ≠ number)
    (step : Step ε) (h : (depot.step other step).disk.log? home = some log) :
    (depot.step other step).Serves home number log := by
  obtain ⟨good, directory, -, held, locks, bytes, hhandle, hmedium⟩ := serves
  rcases step_puts good other step with ⟨-, hsame⟩ | ⟨_, _, _, _, -, -, -, -, puts⟩
  · rw [hsame] at h ⊢
    exact ⟨good, directory, h, held, locks, bytes, hhandle, hmedium⟩
  · refine ⟨allGood_step good other step, puts.disk ▸ isDirectory_writeFile directory _ _, h, held,
      locks, bytes, ?_, hmedium⟩
    rw [puts.get?, if_neg hother.symm]
    exact hhandle

/-- A step through another handle leaves the log just if it writes what stands there. -/
theorem Serves.log?_step_other_iff (serves : depot.Serves home number log) (step : Step ε) :
    (depot.step other step).disk.log? home = some log ↔ (depot.At other home →
      ∀ database, depot.database? other = some database → step.Repeats database) := by
  rcases step_puts serves.good other step with ⟨hnone, hsame⟩ |
    ⟨held, place, locks, database, hhandle, hheld, hdatabase, hgood, puts⟩
  · rw [hsame, hnone]
    refine iff_of_true serves.log? fun _ _ h => ?_
    cases h
  by_cases hplace : place = some home
  · subst hplace
    have hat : depot.At other home := ⟨held, locks, hhandle⟩
    have hfile : database.file? = held.file?.map fun _ => log := by
      rw [hheld, Database.file?_withFile, Option.bind_some, serves.log?, Option.getD_some]
    have hafter := step.file?_run hgood.sound
    simp only [hat, true_implies, hdatabase, Option.some.injEq, forall_eq', puts.disk,
      step.repeats_iff hgood.sound]
    cases hheldFile : held.file? with
    | none =>
      rw [hfile, hheldFile, Option.map_none] at hafter ⊢
      simp only [writeFile, hafter, Option.map_none, serves.log?]
    | some bytes =>
      rw [hfile, hheldFile, Option.map_some] at hafter ⊢
      simp only [writeFile, hafter, Option.map_some,
        Disk.log?_writeLog_of_log serves.directory serves.log?]
  · have hat : ¬ depot.At other home := by
      rintro ⟨_, _, h⟩
      rw [hhandle] at h
      cases h
      exact hplace rfl
    refine iff_of_true ?_ fun h => absurd h hat
    exact ((puts.log? home).resolve_right fun h => hplace h.1).trans serves.log?

/-- The log is a handle's own just if the others repeat what stands there. -/
theorem ownLog_iff_repeats (serves : depot.Serves home number log) (run : List (Nat × Step ε)) :
    OwnLog home number log depot run ↔ Repeats home number depot run := by
  -- On either side the handle goes on knowing all of the log as long as the property holds.
  induction run generalizing depot log with
  | nil => exact iff_of_true serves.log? True.intro
  | cons first rest ih =>
    obtain ⟨other, step⟩ := first
    simp only [OwnLog, Repeats]
    by_cases hother : other = number
    · subst hother
      simp only [if_true, ne_eq, not_true_eq_false, false_implies, true_and, serves.log?,
        ih (serves.step_own step)]
    · simp only [ne_eq, hother, not_false_eq_true, true_implies, serves.log?, true_and]
      rw [← serves.log?_step_other_iff step]
      constructor
      · intro h
        exact ⟨h.log?, (ih (serves.step_other hother step h.log?)).1 h⟩
      · rintro ⟨hlog, h⟩
        exact (ih (serves.step_other hother step hlog)).2 h

/-! ## Opening a directory again -/

/-- Opening the database in a directory that has a log: the directory was not locked, its handle knows all
of the log, and that is what the opening read and first clusters if that lists none. -/
theorem serves_openStored {settings : Settings} {name : String} {create : Bool}
    (good : depot.AllGood) (found : depot.disk.find name = .ok home)
    (kept : depot.disk.log? home = some log)
    (opens : depot.openStored settings name create = (.ok number, opened)) :
    ∃ replayed length added, Log.replay log = .ok (replayed, length) ∧
      (Log.clusterIds replayed ≠ [] → added = []) ∧
      opened.Serves home number (Log.bytes (replayed ++ added)) ∧ opened.Locks number home := by
  have hgood := good.opens (depot.opens_openStored settings name create)
  rw [opens] at hgood
  obtain ⟨disk, hlogs, ⟨error, hfailed⟩ | ⟨-, hdirectory, hopens⟩⟩ :=
    depot.openStored_of_log settings name create found kept
  · rw [hfailed] at opens
    cases opens
  rw [hopens, openLog] at opens
  rcases hopened : Database.ofMedium name .directory settings (.file (.ofFile log)) with
    ⟨error | database, medium⟩ <;> simp only [hopened] at opens
  · cases opens
  obtain ⟨replayed, length, added, hread, hnone, hmedium, hfile⟩ := Database.log_of_ofMedium hopened
  cases opens
  refine ⟨replayed, length, added, hread, hnone, ⟨hgood,
    Files.Tree.isDirectory_writeFile hdirectory _ _, ?_, database, true, _,
    Table.get?_insert_self _ _ _, hmedium.trans hfile⟩, _, Table.get?_insert_self _ _ _, rfl⟩
  rw [hfile]
  exact Disk.log?_writeLog_of_log hdirectory ((hlogs home).trans kept) _

/-- Only the new handle on a directory that has been opened is on an open database. -/
theorem eq_of_openAt {settings : Settings} {name : String} {create : Bool}
    (ordered : depot.Ordered) (opens : depot.openStored settings name create = (.ok number, opened))
    (hnumber : opened.Locks number home) (hother : opened.OpenAt other home) : other = number := by
  have hordered := ordered.opens (depot.opens_openStored settings name create)
  rw [opens] at hordered
  obtain ⟨database, locks, hhandle, hopen⟩ := hother
  obtain rfl := hordered.keeps hhandle hopen
  exact hordered.apart ⟨_, hhandle, rfl⟩ hnumber

/-- When a directory with a log has been opened, every other handle on it is closed. Through a closed
handle a batch writes nothing, and a single operation the entries that it would write through an open
one. So at every moment of a run the log is what the opening read, with first clusters if that lists
none, and then the entries written through the new handle, just if all that is written through the
others stands there already. -/
theorem log_is_own_iff {settings : Settings} {name : String} {create : Bool}
    (ordered : depot.Ordered) (good : depot.AllGood) (found : depot.disk.find name = .ok home)
    (kept : depot.disk.log? home = some log)
    (opens : depot.openStored settings name create = (.ok number, opened)) :
    (∀ other, opened.OpenAt other home → other = number) ∧
    (∀ closed database : Database, closed.isOpen = false → closed.store = database.store →
      (∀ batch items, (Step.commit batch items : Step ε).appended closed = []) ∧
      ∀ operation, (Step.operation operation : Step ε).appended closed =
        (Step.operation operation : Step ε).appended database) ∧
    (∀ database : Database, database.Good → ∀ step : Step ε,
      ∃ entries, step.appended database = Log.bytes entries) ∧
    ∃ replayed length added, Log.replay log = .ok (replayed, length) ∧
      (Log.clusterIds replayed ≠ [] → added = []) ∧
      ∀ run : List (Nat × Step ε), OwnLog home number (Log.bytes (replayed ++ added)) opened run ↔
        Repeats home number opened run := by
  obtain ⟨replayed, length, added, hread, hnone, serves, hlocks⟩ :=
    serves_openStored good found kept opens
  refine ⟨fun other => eq_of_openAt ordered opens hlocks, fun closed database hclosed hstore =>
    ⟨Step.appended_commit_of_closed hclosed, Step.appended_operation hstore⟩,
    fun database hgood step => (step.medium_run hgood.sound).1,
    replayed, length, added, hread, hnone, ownLog_iff_repeats serves⟩

/-- A database was made in a directory and closed again. -/
def closedOnce : Depot :=
  (({ disk := { root := "/d" } } : Depot).openStored Database.plainSettings "x" true).2.step 0
    (.operation .close : Step Unit)

/-- The directory has been opened anew. -/
def openedTwice : Depot := (closedOnce.openStored Database.plainSettings "x" false).2

/-- The creation of a record. -/
def creation (content : Bytes) : Step Unit := .operation (.create 0 content .document)

theorem ordered_good_closedOnce : closedOnce.Ordered ∧ closedOnce.AllGood := by
  have ordered := ordered_empty { root := "/d" }
  have good : Depot.AllGood { disk := { root := "/d" } } := by rintro _ _ ⟨⟩
  have opens := opens_openStored { disk := { root := "/d" } } Database.plainSettings "x" true
  exact ⟨(ordered.opens opens).run 0 (Step.isOpen_of_run _), allGood_step (good.opens opens) 0 _⟩

theorem eq_ok_of_toOption {α β : Type} {result : Except α β} {value : β}
    (h : result.toOption = some value) : result = .ok value := by
  cases result with
  | error error => cases h
  | ok found => rw [Option.some.inj h]

/-- The second opening, and two runs after it. -/
theorem openedTwice_runs :
    (closedOnce.disk.find "x").toOption = some ["x", "d"] ∧
      (closedOnce.disk.log? ["x", "d"]).isSome = true ∧
      (closedOnce.openStored Database.plainSettings "x" false).1.toOption = some 1 ∧
      OwnLog ["x", "d"] 1 ((openedTwice.disk.log? ["x", "d"]).getD []) openedTwice
        [(1, creation [2]), (0, creation [2])] ∧
      ¬ OwnLog ["x", "d"] 1 ((openedTwice.disk.log? ["x", "d"]).getD []) openedTwice
        [(1, creation [2]), (0, creation [1])] := by
  decide +kernel

/-- The closed handle may write what the new one has written, but nothing else. -/
theorem log_is_own_iff_of_openedTwice :
    (∀ other, openedTwice.OpenAt other ["x", "d"] → other = 1) ∧
      Repeats ["x", "d"] 1 openedTwice [(1, creation [2]), (0, creation [2])] ∧
      ¬ Repeats ["x", "d"] 1 openedTwice [(1, creation [2]), (0, creation [1])] := by
  obtain ⟨ordered, good⟩ := ordered_good_closedOnce
  obtain ⟨hfound, hkept, hnumber, hown, hlost⟩ := openedTwice_runs
  obtain ⟨log, kept⟩ := Option.isSome_iff_exists.1 hkept
  have opens : closedOnce.openStored Database.plainSettings "x" false = (.ok 1, openedTwice) :=
    Prod.ext (eq_ok_of_toOption hnumber) rfl
  obtain ⟨only, -, -, replayed, length, added, -, -, own⟩ :=
    log_is_own_iff (ε := Unit) ordered good (eq_ok_of_toOption hfound) kept opens
  have start : openedTwice.disk.log? ["x", "d"] = some (Log.bytes (replayed ++ added)) :=
    (own []).2 True.intro
  rw [start, Option.getD_some] at hown hlost
  exact ⟨only, (own _).1 hown, fun h => hlost ((own _).2 h)⟩

/-- The new handle creates a record, and the closed one then writes over it. -/
theorem closed_handle_overwrites :
    let written := openedTwice.step 1 (creation [2])
    (written.database? 0).map (·.isOpen) = some false ∧
      (written.step 0 (creation [1])).disk.log? ["x", "d"] ≠ written.disk.log? ["x", "d"] := by
  decide +kernel

end Depot

end RecordBase
