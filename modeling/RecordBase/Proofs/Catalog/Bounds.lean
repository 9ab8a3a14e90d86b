import RecordBase.Proofs.Catalog.Locks
import RecordBase.Proofs.Catalog.Logs
import RecordBase.Proofs.Store.Clusters

/-!
# What is left alone in a catalog

* `Catalog.Untouched`: every open database still holds what it held, over the same log.
* `Catalog.Unextended`: no cluster is added and no database is made. A database that is opened on the way
  holds what its log gives, or first clusters if the log lists none.

Looking at a database keeps both (`Depot.looks_run`), changing one without listing a cluster the second
(`Catalog.unextended_run`), and opening databases that are kept both (`Catalog.enters_openDatabase`).
-/

namespace RecordBase

open Files (Place)

/-! ## A database that is only looked at -/

namespace Database

/-- The same clusters, records and keys over the same log, and open or closed as before. -/
structure Untouched (before after : Database) : Prop where
  isOpen : after.isOpen = before.isOpen
  contents : after.store.contents = before.store.contents
  medium : after.store.journal.medium = before.store.journal.medium

variable {database other : Database}

theorem Untouched.refl (database : Database) : database.Untouched database := ⟨rfl, rfl, rfl⟩

theorem Untouched.trans {a b c : Database} (h₁ : a.Untouched b) (h₂ : b.Untouched c) : a.Untouched c :=
  ⟨h₂.isOpen.trans h₁.isOpen, h₂.contents.trans h₁.contents, h₂.medium.trans h₁.medium⟩

theorem Untouched.withNotices (h : database.Untouched other) (notices : List Notice) :
    database.Untouched { other with notices } :=
  ⟨h.isOpen, h.contents, h.medium⟩

theorem medium_withFile (database : Database) (bytes : Bytes) :
    (database.withFile bytes).store.journal.medium =
      match database.store.journal.medium with
      | .file log => .file { log with bytes }
      | .memory log => .memory log := by
  cases h : database.store.journal.medium with
  | file log => simp only [withFile, h]
  | memory log => simp only [withFile, h]

theorem contents_withFile (database : Database) (bytes : Bytes) :
    (database.withFile bytes).store.contents = database.store.contents :=
  (database.agrees_withFile bytes).contents

theorem sameClusters_withFile (database : Database) (bytes bytes' : Bytes) :
    (database.withFile bytes).store.contents.SameClusters
      (database.withFile bytes').store.contents := by
  rw [contents_withFile, contents_withFile]
  exact .refl _

theorem withFile_withFile (database : Database) (bytes bytes' : Bytes) :
    (database.withFile bytes).withFile bytes' = database.withFile bytes' := by
  unfold withFile
  cases h : database.store.journal.medium <;> simp only [h]

theorem file?_withFile (database : Database) (bytes : Bytes) :
    (database.withFile bytes).file? = database.file?.map fun _ => bytes := by
  unfold file?
  rw [medium_withFile]
  cases database.store.journal.medium <;> rfl

theorem Untouched.file? (h : database.Untouched other) : other.file? = database.file? := by
  rw [Database.file?, Database.file?, h.medium]

theorem Untouched.withFile (h : database.Untouched other) (bytes : Bytes) :
    (database.withFile bytes).Untouched (other.withFile bytes) where
  isOpen := by
    rw [(other.agrees_withFile bytes).isOpen, (database.agrees_withFile bytes).isOpen, h.isOpen]
  contents := by rw [contents_withFile, contents_withFile, h.contents]
  medium := by rw [medium_withFile, medium_withFile, h.medium]

end Database

/-! ## Handles -/

namespace Depot

variable {depot before after : Depot} {number : Nat}

/-- The handle with a number is on a database in a directory. -/
def At (depot : Depot) (number : Nat) (home : Place) : Prop :=
  ∃ database locks, depot.handles.get? number = some (.database database (some home) locks)

theorem database?_of_handle {held : Database} {home : Option Place} {locks : Bool}
    (h : depot.handles.get? number = some (.database held home locks)) :
    depot.database? number = some (held.withFile ((home.bind depot.disk.log?).getD [])) := by
  simp only [database?, h]

/-- Somebody looks at the database with a number. A log that is missing may come back empty. -/
structure Looks (before : Depot) (number : Nat) (after : Depot) : Prop where
  logs (place : Place) : after.disk.log? place = before.disk.log? place ∨
    before.disk.log? place = none ∧ after.disk.log? place = some [] ∧ before.At number place
  databases (other : Nat) :
    Option.Rel Database.Untouched (before.database? other) (after.database? other)
  at_of_at {place : Place} : after.At number place → before.At number place

theorem rel_untouched_refl (depot : Depot) (other : Nat) :
    Option.Rel Database.Untouched (depot.database? other) (depot.database? other) := by
  cases depot.database? other with
  | none => exact .none
  | some database => exact .some (.refl database)

theorem Looks.refl (depot : Depot) (number : Nat) : depot.Looks number depot :=
  ⟨fun _ => .inl rfl, depot.rel_untouched_refl, id⟩

/-- A database that is there stays and is left alone. -/
theorem Looks.kept {other : Nat} {database : Database} (looks : before.Looks number after)
    (h : before.database? other = some database) :
    ∃ now, after.database? other = some now ∧ database.Untouched now := by
  have hrel := looks.databases other
  rw [h] at hrel
  cases hnow : after.database? other with
  | none =>
    rw [hnow] at hrel
    cases hrel
  | some now =>
    rw [hnow] at hrel
    obtain ⟨huntouched⟩ | _ := hrel
    exact ⟨now, rfl, huntouched⟩

/-- A database that is not there does not come. -/
theorem Looks.none {other : Nat} (looks : before.Looks number after)
    (h : before.database? other = none) : after.database? other = none := by
  have hrel := looks.databases other
  rw [h] at hrel
  cases hnow : after.database? other with
  | none => rfl
  | some now =>
    rw [hnow] at hrel
    cases hrel

/-- A file is written in the directory of a handle only. -/
theorem Puts.log? {database : Database} {home : Option Place} {locks : Bool}
    (puts : before.Puts number database home locks after) (place : Place) :
    after.disk.log? place = before.disk.log? place ∨ home = some place ∧
      ∃ bytes, database.file? = some bytes ∧ after.disk.log? place = some bytes := by
  rw [puts.disk]
  unfold writeFile
  split
  · rename_i home bytes hfile
    by_cases hplace : place = home
    · subst hplace
      exact (before.disk.log?_writeLog_self place bytes).symm.imp_right fun h =>
        ⟨rfl, bytes, hfile, h⟩
    · exact .inl (before.disk.log?_writeLog_of_ne bytes hplace)
  · exact .inl rfl

/-- A database that is put back as it was writes its log as it was, or an empty one that is missing. -/
theorem Puts.logs {held database : Database} {home : Option Place} {locks : Bool}
    (puts : before.Puts number database home locks after)
    (hhandle : before.handles.get? number = some (.database held home locks))
    (quiet : (held.withFile ((home.bind before.disk.log?).getD [])).Untouched database)
    (place : Place) :
    after.disk.log? place = before.disk.log? place ∨
      before.disk.log? place = none ∧ after.disk.log? place = some [] ∧ before.At number place := by
  rcases puts.log? place with hsame | ⟨rfl, bytes, hfile, hafter⟩
  · exact .inl hsame
  · rw [quiet.file?, Database.file?_withFile] at hfile
    obtain ⟨-, -, rfl⟩ := Option.map_eq_some_iff.1 hfile
    rw [hafter, Option.bind_some]
    cases before.disk.log? place with
    | none => exact .inr ⟨rfl, rfl, held, locks, hhandle⟩
    | some log => exact .inl rfl

/-- A handle sees the same bytes, whether its log is missing or empty. -/
theorem bytes_of_logs
    (logs : ∀ place, after.disk.log? place = before.disk.log? place ∨
      before.disk.log? place = none ∧ after.disk.log? place = some [] ∧ before.At number place)
    (home : Option Place) :
    (home.bind after.disk.log?).getD [] = (home.bind before.disk.log?).getD [] := by
  cases home with
  | none => rfl
  | some place =>
    rcases logs place with h | ⟨hbefore, hafter, -⟩
    · rw [Option.bind_some, Option.bind_some, h]
    · rw [Option.bind_some, Option.bind_some, hbefore, hafter]
      rfl

theorem looks_run {α : Type} (depot : Depot) (number : Nat) {action : Database → α × Database}
    (quiet : ∀ database, depot.database? number = some database →
      database.Untouched (action database).2) :
    depot.Looks number (depot.run number action).2 := by
  rcases depot.run_puts number action with ⟨-, hnone⟩ |
    ⟨held, home, locks, database, hhandle, rfl, hdatabase, puts⟩
  · rw [hnone]
    exact .refl depot number
  generalize (depot.run number action).2 = after at puts ⊢
  replace quiet := quiet _ hdatabase
  have logs := puts.logs hhandle quiet
  refine ⟨logs, fun other => ?_, ?_⟩
  · by_cases hother : other = number
    · have hchanged := puts.get? number
      rw [if_pos rfl] at hchanged
      have hafter := database?_of_handle hchanged
      rw [bytes_of_logs logs] at hafter
      have hquiet := (quiet.withNotices []).withFile ((home.bind depot.disk.log?).getD [])
      rw [Database.withFile_withFile] at hquiet
      rw [hother, hdatabase, hafter]
      exact .some hquiet
    · have hget : after.handles.get? other = depot.handles.get? other := by
        rw [puts.get?, if_neg hother]
      have hdatabases : after.database? other = depot.database? other := by
        simp only [Depot.database?, hget, bytes_of_logs logs]
      rw [hdatabases]
      exact depot.rel_untouched_refl other
  · rintro place ⟨database, locks, h⟩
    rw [puts.get?, if_pos rfl] at h
    cases h
    exact ⟨held, _, hhandle⟩

/-! ### Opening what is kept -/

/-- What comes of opening a database that is kept in a directory. The logs in directories that are locked
stay as they are, and none is made. -/
structure Finds (before : Depot) (initial : List String) (result : Except Error Nat) (after : Depot) :
    Prop where
  opens : before.Opens result after
  reads (place : Place) : after.disk.log? place = before.disk.log? place ∨ place ∉ before.locked ∧
    ∃ log log', before.disk.log? place = some log ∧ after.disk.log? place = some log' ∧
      Log.Reopens log log'
  begins {number : Nat} : result = .ok number → ∃ database home locks log,
    after.handles.get? number = some (.database database (some home) locks) ∧
      before.disk.log? home = some log ∧ (after.disk.log? home).isSome ∧
        Log.Begins log initial database.store.contents

/-- The handles stay as they are. -/
theorem Opens.kept {result : Except Error Nat} {handle : Handle} (opens : before.Opens result after)
    (ordered : before.Ordered) (h : before.handles.get? number = some handle) :
    after.handles.get? number = some handle := by
  cases opens with
  | failed handles => rwa [handles]
  | opened _ handles =>
    rw [handles, Table.get?_insert, if_neg (Nat.ne_of_lt (ordered.below h))]
    exact h

/-- A handle that was not there is that of the database that is opened. -/
theorem Opens.ok_of_fresh {result : Except Error Nat} {handle : Handle} (opens : before.Opens result after)
    (fresh : before.handles.get? number = none) (h : after.handles.get? number = some handle) :
    result = .ok number := by
  cases opens with
  | failed handles =>
    rw [handles, fresh] at h
    cases h
  | opened _ handles =>
    rw [handles, Table.get?_insert] at h
    split at h
    · rename_i hnumber
      rw [hnumber]
    · rw [fresh] at h
      cases h

/-- Opening the log in a directory that has been locked. -/
theorem finds_openLog (depot : Depot) (settings : Settings) (name : String) {home : Place} {log : Bytes}
    {disk : Disk} (logs : ∀ place, disk.log? place = depot.disk.log? place)
    (kept : depot.disk.log? home = some log) (free : home ∉ depot.locked) :
    let locking := { depot with disk, locked := home :: depot.locked }
    depot.Finds settings.initialClusters (locking.openLog settings name home log).1
      (locking.openLog settings name home log).2 := by
  have opens := depot.opens_openLog settings name log free disk
  obtain ⟨hreopens, hbegins⟩ := Database.ofMedium_spec name .directory settings log
  simp only [openLog] at opens ⊢
  rcases hopened : Database.ofMedium name .directory settings (.file (.ofFile log)) with
    ⟨result, medium⟩
  rw [hopened] at opens hreopens hbegins
  have hself := (disk.log?_writeLog_self home medium.bytes)
  have reads (place : Place) : (disk.writeLog home medium.bytes).log? place = depot.disk.log? place ∨
      place ∉ depot.locked ∧ ∃ log log', depot.disk.log? place = some log ∧
        (disk.writeLog home medium.bytes).log? place = some log' ∧ Log.Reopens log log' := by
    by_cases hplace : place = home
    · subst hplace
      rcases hself with hwritten | hsame
      · exact .inr ⟨free, log, medium.bytes, kept, hwritten, hreopens⟩
      · exact .inl (hsame.trans (logs place))
    · exact .inl ((disk.log?_writeLog_of_ne medium.bytes hplace).trans (logs place))
  cases result with
  | error error => exact ⟨opens, reads, by rintro _ ⟨⟩⟩
  | ok database =>
    refine ⟨opens, reads, ?_⟩
    rintro _ ⟨⟩
    refine ⟨database, home, true, log, Table.get?_insert_self _ _ _, kept, ?_, hbegins database rfl⟩
    rcases hself with hwritten | hsame
    · exact Option.isSome_of_eq_some hwritten
    · exact Option.isSome_of_eq_some (hsame.trans ((logs home).trans kept))

theorem finds_of_failed {initial : List String} {error : Error} {disk : Disk} {locked : List Place}
    (hlocked : locked = depot.locked) (logs : ∀ place, disk.log? place = depot.disk.log? place) :
    depot.Finds initial (.error error) { depot with disk, locked } :=
  ⟨.failed rfl rfl hlocked, fun place => .inl (logs place), nofun⟩

/-- Opening the database in a directory that has a log fails before anything but the lock is looked at,
or locks the directory and opens the log. -/
theorem openStored_of_log (depot : Depot) (settings : Settings) (name : String) (create : Bool)
    {home : Place} {log : Bytes} (found : depot.disk.find name = .ok home)
    (kept : depot.disk.log? home = some log) :
    ∃ disk, (∀ place, disk.log? place = depot.disk.log? place) ∧
      ((∃ error, depot.openStored settings name create = (.error error, { depot with disk })) ∨
        home ∉ depot.locked ∧ disk.tree.isDirectory home = true ∧
          depot.openStored settings name create =
            { depot with disk, locked := home :: depot.locked }.openLog settings name home log) := by
  unfold openStored enter Disk.provide
  simp only [found]
  by_cases hdirectory : depot.disk.tree.isDirectory home = true
  · have hlogs := depot.disk.log?_openLock home
    have hstays := Disk.isDirectory_openLock hdirectory home
    rw [if_pos hdirectory]
    simp only [lock]
    rcases hlock : depot.disk.openLock home with ⟨error | _, disk⟩ <;> rw [hlock] at hlogs hstays
    · exact ⟨disk, hlogs, .inl ⟨error, rfl⟩⟩
    · simp only
      by_cases hlocked : depot.locked.contains home = true
      · rw [if_pos hlocked]
        exact ⟨disk, hlogs, .inl ⟨_, rfl⟩⟩
      · have hfree : home ∉ depot.locked := fun hmem => hlocked (List.contains_iff_mem.2 hmem)
        rw [if_neg hlocked]
        simp only [Except.map, Disk.openLog_of_log ((hlogs home).trans kept)]
        exact ⟨disk, hlogs, .inr ⟨hfree, hstays, rfl⟩⟩
  · rw [if_neg hdirectory]
    exact ⟨depot.disk, fun _ => rfl, .inl ⟨_, rfl⟩⟩

theorem finds_openStored (depot : Depot) (settings : Settings) (name : String) {home : Place}
    {log : Bytes} (found : depot.disk.find name = .ok home) (kept : depot.disk.log? home = some log) :
    depot.Finds settings.initialClusters (depot.openStored settings name false).1
      (depot.openStored settings name false).2 := by
  obtain ⟨disk, hlogs, ⟨error, hfailed⟩ | ⟨hfree, -, hopens⟩⟩ :=
    depot.openStored_of_log settings name false found kept
  · rw [hfailed]
    exact finds_of_failed rfl hlogs
  · rw [hopens]
    exact depot.finds_openLog settings name hlogs kept hfree

/-- Nothing is found to be opened, or a log that was kept is. -/
theorem openBy_finds (depot : Depot) (settings : Settings) (name : String) (mode : StorageMode) :
    depot.openBy settings name mode = (.ok none, depot) ∨
      ∃ result after, depot.openBy settings name mode = (result.map some, after) ∧
        depot.keepsBy name mode = true ∧ depot.Finds settings.initialClusters result after := by
  cases mode with
  | memory => exact .inl rfl
  | directory =>
    rw [openBy]
    cases hkept : depot.disk.isDatabase name with
    | false => exact .inl rfl
    | true =>
      refine .inr ⟨_, _, rfl, hkept, ?_⟩
      unfold Disk.isDatabase Disk.logUnder? at hkept
      cases hfind : depot.disk.find name with
      | error error =>
        rw [hfind] at hkept
        cases hkept
      | ok home =>
        rw [hfind] at hkept
        obtain ⟨log, hlog⟩ := Option.isSome_iff_exists.1 hkept
        exact depot.finds_openStored settings name hfind hlog

end Depot

/-! ## Catalogs -/

namespace Catalog

variable {before mid after catalog : Catalog} {number : Nat}

/-- Every open database holds what it held, over the same log. -/
def Untouched (before after : Catalog) : Prop :=
  ∀ number database, before.depot.database? number = some database → database.isOpen = true →
    ∃ now, after.depot.database? number = some now ∧ database.Untouched now

theorem Untouched.refl (catalog : Catalog) : catalog.Untouched catalog := fun _ database h _ =>
  ⟨database, h, .refl database⟩

theorem Untouched.trans (h₁ : before.Untouched mid) (h₂ : mid.Untouched after) :
    before.Untouched after := by
  intro number database h hopen
  obtain ⟨between, hbetween, huntouched⟩ := h₁ number database h hopen
  obtain ⟨now, hnow, hlast⟩ := h₂ number between hbetween (huntouched.isOpen.trans hopen)
  exact ⟨now, hnow, huntouched.trans hlast⟩

theorem Untouched.of_looks (looks : before.depot.Looks number after.depot) : before.Untouched after :=
  fun _ _ h _ => looks.kept h

/-- No cluster is added and no database is made, except that a log which lists no cluster gets the first
ones of the settings when it is opened. -/
structure Unextended (before after : Catalog) : Prop where
  /-- A name that is listed was one of a database that was open or kept. -/
  names {name : String} : after.opened.contains name = true → before.has name = true
  /-- No log is made but one that a handle had and that is missing. -/
  logs {place : Place} : (after.depot.disk.log? place).isSome →
    (before.depot.disk.log? place).isSome ∨ ∃ number, before.depot.At number place
  /-- The log of a database that is not open reads as before, unless it listed no cluster. -/
  reads {place : Place} {log : Bytes} : before.depot.disk.log? place = some log →
    (∀ number, ¬ before.depot.OpenAt number place) →
      ∃ log', after.depot.disk.log? place = some log' ∧ Log.Reopens log log'
  /-- A database keeps its clusters. -/
  clusters {number : Nat} {database : Database} : before.depot.database? number = some database →
    ∃ now, after.depot.database? number = some now ∧
      database.store.contents.SameClusters now.store.contents
  /-- A database that was not in use is one whose log was kept. -/
  begins {number : Nat} {now : Database} : before.depot.database? number = none →
    after.depot.database? number = some now → ∃ place log, before.depot.disk.log? place = some log ∧
      Log.Begins log before.settings.initialClusters now.store.contents

theorem has_of_contains {name : String} (h : catalog.opened.contains name = true) :
    catalog.has name = true := by
  rw [has, h, Bool.true_or]

theorem Unextended.refl (catalog : Catalog) : catalog.Unextended catalog where
  names := has_of_contains
  logs := .inl
  reads h _ := ⟨_, h, .refl _⟩
  clusters h := ⟨_, h, .refl _⟩
  begins hnone h := by
    rw [hnone] at h
    cases h

/-- The list of open databases and their settings do not matter to what is in the handles. -/
theorem Unextended.of_depot (h : before.Unextended mid) (depot : after.depot = mid.depot)
    (names : ∀ name, after.opened.contains name = true → before.has name = true) :
    before.Unextended after where
  names := names _
  logs := depot ▸ h.logs
  reads := depot ▸ h.reads
  clusters := depot ▸ h.clusters
  begins := depot ▸ h.begins

/-- Looking at a database adds nothing. -/
theorem Unextended.looks (h : before.Unextended mid) (looks : mid.depot.Looks number after.depot)
    (there : ∀ place, mid.depot.At number place →
      (mid.depot.disk.log? place).isSome ∨ ∃ number, before.depot.At number place)
    (opened : after.opened = mid.opened) : before.Unextended after where
  names hname := h.names (opened ▸ hname)
  logs {place} hplace := by
    rcases looks.logs place with hsame | ⟨-, -, hat⟩
    · exact h.logs (hsame ▸ hplace)
    · exact (there place hat).elim h.logs .inr
  reads {place log} hlog hfree := by
    obtain ⟨log', hmid, hreopens⟩ := h.reads hlog hfree
    rcases looks.logs place with hsame | ⟨hnone, -, -⟩
    · exact ⟨log', hsame.trans hmid, hreopens⟩
    · rw [hnone] at hmid
      cases hmid
  clusters {other database} hdatabase := by
    obtain ⟨between, hbetween, hsame⟩ := h.clusters hdatabase
    obtain ⟨now, hnow, huntouched⟩ := looks.kept hbetween
    exact ⟨now, hnow, hsame.trans (.of_eq huntouched.contents)⟩
  begins {other now} hnone hnow := by
    cases hbetween : mid.depot.database? other with
    | none =>
      rw [looks.none hbetween] at hnow
      cases hnow
    | some between =>
      obtain ⟨found, hfound, huntouched⟩ := looks.kept hbetween
      rw [hnow] at hfound
      cases hfound
      exact huntouched.contents ▸ h.begins hnone hbetween

/-- Working with an open database without listing a cluster adds none. -/
theorem unextended_run {α : Type} {action : Database → α × Database}
    (hopen : catalog.depot.isOpen number = true)
    (same : ∀ database, catalog.depot.database? number = some database →
      database.store.contents.SameClusters (action database).2.store.contents) :
    catalog.Unextended (catalog.run number action).2 := by
  rcases catalog.depot.run_puts number action with ⟨hnone, -⟩ |
    ⟨held, home, locks, database, hhandle, hheld, hdatabase, puts⟩
  · rw [Depot.isOpen, hnone] at hopen
    cases hopen
  have hheldOpen : held.isOpen = true := by
    rw [Depot.isOpen, hdatabase, hheld] at hopen
    exact Depot.isOpen_withFile held _ ▸ hopen
  refine ⟨fun h => has_of_contains h, fun {place} hplace => ?_, fun {place log} hlog hfree => ?_,
    fun {other found} h => ?_, fun {other now} hnone hnow => ?_⟩
  · rcases puts.log? place with hsame | ⟨rfl, -⟩
    · exact .inl (hsame ▸ hplace)
    · exact .inr ⟨number, held, locks, hhandle⟩
  · rcases puts.log? place with hsame | ⟨rfl, -⟩
    · exact ⟨log, hsame.trans hlog, .refl log⟩
    · exact absurd ⟨held, locks, hhandle, hheldOpen⟩ (hfree number)
  · by_cases hother : other = number
    · subst hother
      rw [hdatabase] at h
      cases h
      have hchanged := puts.get? other
      rw [if_pos rfl] at hchanged
      refine ⟨_, Depot.database?_of_handle hchanged, ?_⟩
      rw [Database.contents_withFile]
      exact same database hdatabase
    · obtain ⟨held', home', locks', hhandle', rfl⟩ := Depot.handle_of_database? h
      have hkept := puts.get? other
      rw [if_neg hother, hhandle'] at hkept
      exact ⟨_, Depot.database?_of_handle hkept, held'.sameClusters_withFile _ _⟩
  · obtain ⟨held', home', locks', hhandle', -⟩ := Depot.handle_of_database? hnow
    have hkept := puts.get? other
    by_cases hother : other = number
    · rw [hother, hdatabase] at hnone
      cases hnone
    · rw [if_neg hother] at hkept
      rw [Depot.database?_of_handle (hkept.symm.trans hhandle')] at hnone
      cases hnone

/-- Opening what is kept adds no cluster to what lists some. -/
theorem unextended_of_finds {result : Except Error Nat} {depot : Depot}
    (ordered : catalog.depot.Ordered)
    (finds : catalog.depot.Finds catalog.settings.initialClusters result depot) :
    catalog.Unextended { catalog with depot } := by
  refine ⟨fun h => has_of_contains h, fun {place} hplace => ?_, fun {place log} hlog _ => ?_,
    fun {number database} h => ?_, fun {number now} hnone hnow => ?_⟩
  · rcases finds.reads place with hsame | ⟨-, log, log', hlog, -⟩
    · exact .inl (hsame ▸ hplace)
    · exact .inl (Option.isSome_of_eq_some hlog)
  · rcases finds.reads place with hsame | ⟨-, log, log', hbefore, hafter, hreopens⟩
    · exact ⟨log, hsame.trans hlog, .refl log⟩
    · rw [hlog] at hbefore
      cases hbefore
      exact ⟨log', hafter, hreopens⟩
  · obtain ⟨held, home, locks, hhandle, rfl⟩ := Depot.handle_of_database? h
    exact ⟨_, Depot.database?_of_handle (finds.opens.kept ordered hhandle),
      held.sameClusters_withFile _ _⟩
  · obtain ⟨held, home, locks, hhandle, rfl⟩ := Depot.handle_of_database? hnow
    have hfresh : catalog.depot.handles.get? number = none := by
      cases hbefore : catalog.depot.handles.get? number with
      | none => rfl
      | some handle =>
        obtain rfl := Option.some.inj ((finds.opens.kept ordered hbefore).symm.trans hhandle)
        rw [Depot.database?_of_handle hbefore] at hnone
        cases hnone
    obtain ⟨database, place, locks', log, hfound, hlog, -, hbegins⟩ :=
      finds.begins (finds.opens.ok_of_fresh hfresh hhandle)
    rw [hhandle] at hfound
    cases hfound
    exact ⟨place, log, hlog, (Database.contents_withFile held _).symm ▸ hbegins⟩

/-- Opening what is kept leaves what is open alone: the directory of that is locked. -/
theorem untouched_of_finds {result : Except Error Nat} {depot : Depot}
    (ordered : catalog.depot.Ordered)
    (finds : catalog.depot.Finds catalog.settings.initialClusters result depot) :
    catalog.Untouched { catalog with depot } := by
  intro number database h hopen
  obtain ⟨held, home, locks, hhandle, hheld⟩ := Depot.handle_of_database? h
  have hbytes : (home.bind depot.disk.log?).getD [] = (home.bind catalog.depot.disk.log?).getD [] := by
    cases home with
    | none => rfl
    | some place =>
      have hheldOpen : held.isOpen = true := by
        rw [hheld] at hopen
        exact Depot.isOpen_withFile held _ ▸ hopen
      rcases finds.reads place with hsame | ⟨hfree, -⟩
      · rw [Option.bind_some, Option.bind_some, hsame]
      · exact absurd ⟨held, locks, hhandle, hheldOpen⟩ (ordered.free hfree number)
  refine ⟨database, ?_, .refl database⟩
  rw [Depot.database?_of_handle (finds.opens.kept ordered hhandle), hheld]
  exact congrArg (fun bytes => some (held.withFile bytes)) hbytes

/-- No way to keep databases has one under the name, or the first that does finds one. -/
theorem openFirst_finds (catalog : Catalog) (name : String) (modes : List StorageMode) :
    catalog.openFirst name modes = (.ok none, catalog) ∨
      ∃ result depot, catalog.openFirst name modes = (result.map some, { catalog with depot }) ∧
        modes.any (catalog.depot.keepsBy name) = true ∧
          catalog.depot.Finds catalog.settings.initialClusters result depot := by
  induction modes with
  | nil => exact .inl rfl
  | cons mode rest ih =>
    unfold openFirst
    rcases catalog.depot.openBy_finds catalog.settings name mode with hnone |
      ⟨result, depot, hopened, hkept, finds⟩
    · rw [hnone, List.any_cons]
      rcases ih with hnone | ⟨result, depot, hopened, hkept, finds⟩
      · exact .inl hnone
      · exact .inr ⟨result, depot, hopened, by rw [hkept, Bool.or_true], finds⟩
    · refine .inr ⟨result, depot, ?_, by rw [List.any_cons, hkept, Bool.true_or], finds⟩
      rw [hopened]
      cases result <;> rfl

theorem looks_run {α : Type} (catalog : Catalog) (number : Nat) {action : Database → α × Database}
    (quiet : ∀ database : Database, database.Untouched (action database).2) :
    catalog.depot.Looks number (catalog.run number action).2.depot :=
  catalog.depot.looks_run number fun database _ => quiet database

theorem looks_view {α : Type} (catalog : Catalog) (number : Nat) (view : Database → α) :
    catalog.depot.Looks number
      (catalog.run number fun database => (view database, database)).2.depot :=
  catalog.looks_run number fun database => .refl database

theorem looks_enlist (catalog : Catalog) (name : String) (number : Nat) (event : LifecycleEvent) :
    catalog.depot.Looks number (catalog.enlist name number event).depot := by
  let tell (database : Database) :=
    (catalog.listeners.foldl Database.addListener { database with number }).notify event
  refine (catalog.looks_run number fun database => ?_ :
    catalog.depot.Looks number (catalog.run number tell).2.depot)
  simp only [tell, foldl_addListener]
  exact ⟨rfl, rfl, rfl⟩

/-- What opening a database bounds. The log of the database is there, unless it was in use before. -/
structure Enters (before : Catalog) (result : Except Error Nat) (after : Catalog) : Prop where
  unextended : before.Unextended after
  untouched : before.Untouched after
  there {number : Nat} {place : Place} : result = .ok number → after.depot.At number place →
    (after.depot.disk.log? place).isSome ∨ ∃ number, before.depot.At number place

/-- A database that is opened may be looked at. -/
theorem Enters.looks {result : Except Error Nat} (enters : before.Enters result mid)
    (h : result = .ok number) (looks : mid.depot.Looks number after.depot)
    (opened : after.opened = mid.opened) : before.Unextended after ∧ before.Untouched after :=
  ⟨enters.unextended.looks looks (fun _ => enters.there h) opened,
    enters.untouched.trans (.of_looks looks)⟩

theorem Enters.refl (catalog : Catalog) (result : Except Error Nat) : catalog.Enters result catalog where
  unextended := .refl catalog
  untouched := .refl catalog
  there _ hat := .inr ⟨_, hat⟩

/-- A database that was found is listed and told to the listeners. -/
theorem enters_enlist {name : String} {depot : Depot} (ordered : catalog.depot.Ordered)
    (kept : catalog.engines.values.any (catalog.depot.keepsBy name) = true)
    (finds : catalog.depot.Finds catalog.settings.initialClusters (.ok number) depot) :
    catalog.Enters (.ok number) ({ catalog with depot }.enlist name number .opened) := by
  have looks := looks_enlist { catalog with depot } name number .opened
  have there (place : Place) (hat : depot.At number place) : (depot.disk.log? place).isSome := by
    obtain ⟨database, locks, hhandle⟩ := hat
    obtain ⟨_, home, _, _, hfound, -, hlog, -⟩ := finds.begins rfl
    rw [hhandle] at hfound
    cases hfound
    exact hlog
  have hextended : catalog.Unextended { catalog with
      depot := ({ catalog with depot }.enlist name number .opened).depot } :=
    (unextended_of_finds ordered finds).looks looks (fun place hat => .inl (there place hat)) rfl
  refine ⟨hextended.of_depot rfl fun listed hlisted => ?_,
    (untouched_of_finds ordered finds).trans (.of_looks looks), ?_⟩
  · by_cases hname : listed = name
    · rw [has, hname, kept, Bool.or_true]
    · obtain ⟨found, hfound⟩ := Table.contains_iff.1 hlisted
      have hbefore : catalog.opened.get? listed = some found := by
        rw [enlist, Table.get?_insert, if_neg hname] at hfound
        exact hfound
      exact has_of_contains (Table.contains_iff.2 ⟨found, hbefore⟩)
  · rintro _ place ⟨⟩ hat
    have hplace := there place (looks.at_of_at hat)
    rcases looks.logs place with hsame | ⟨hnone, -⟩
    · exact .inl (hsame ▸ hplace)
    · rw [hnone] at hplace
      cases hplace

theorem enters_openDatabase (ordered : catalog.depot.Ordered) (name : String) :
    catalog.Enters (catalog.openDatabase name).1 (catalog.openDatabase name).2 := by
  unfold openDatabase
  cases checkName name with
  | error error => exact .refl catalog _
  | ok _ =>
    simp only
    cases catalog.opened.get? name with
    | some number => exact .refl catalog _
    | none =>
      rcases catalog.openFirst_finds name catalog.engines.values with hnone |
        ⟨error | number, depot, hopened, hkept, finds⟩
      · rw [hnone]
        exact .refl catalog _
      · rw [hopened]
        exact ⟨unextended_of_finds ordered finds, untouched_of_finds ordered finds, nofun⟩
      · rw [hopened]
        exact enters_enlist ordered hkept finds

end Catalog

end RecordBase
