import RecordBase.Proofs.Catalog.Homes
import RecordBase.Proofs.Catalog.Moves
import RecordBase.Proofs.Database.Opening

/-!
# Databases in handles and on the disk

* `Depot.Tight`: only the directories of open databases are locked. Working with a database and opening
  one keep this, so a database that nobody has open can be opened (`Depot.openStored_of_ofMedium`).
* `Depot.Bears`: a handle is on a database whose log stands in its directory. Work through the handle
  keeps this (`Depot.Bears.run`), and what it does to the disk leaves alone all that stands under other
  names (`Disk.Shelves.beside`).
-/

namespace RecordBase

open Files (Path Place Tree)

/-! ## What is locked -/

namespace Depot

variable {depot before after : Depot} {number : Nat} {home : Place}

/-- No directory is locked twice, and each one that is locked is that of an open database. -/
structure Tight (depot : Depot) : Prop where
  nodup : depot.locked.Nodup
  openAt {home : Place} : home ∈ depot.locked → ∃ number, depot.OpenAt number home

theorem mem_of_mem_unlock (depot : Depot) (held? : Option Place)
    (h : home ∈ (depot.unlock held?).locked) : home ∈ depot.locked := by
  cases held? with
  | none => exact h
  | some held => exact List.mem_of_mem_erase h

theorem nodup_unlock {held? : Option Place} (h : depot.locked.Nodup) :
    (depot.unlock held?).locked.Nodup := by
  cases held? with
  | none => exact h
  | some held => exact h.erase held

theorem OpenAt.of_handles (h : before.OpenAt number home)
    (same : after.handles.get? number = before.handles.get? number) : after.OpenAt number home := by
  rwa [OpenAt, same]

theorem Tight.same (tight : before.Tight) (handles : after.handles = before.handles)
    (locked : after.locked = before.locked) : after.Tight where
  nodup := locked ▸ tight.nodup
  openAt h := by
    obtain ⟨number, hopen⟩ := tight.openAt (locked ▸ h)
    exact ⟨number, hopen.of_handles (by rw [handles])⟩

/-- A database that is closed unlocks its directory. -/
theorem Tight.puts (tight : before.Tight) (ordered : before.Ordered) {held database : Database}
    {home : Option Place} {locks : Bool}
    (hhandle : before.handles.get? number = some (.database held home locks))
    (puts : before.Puts number database home locks after) : after.Tight := by
  have hlocked := puts.locked
  cases hopen : database.isOpen with
  | true =>
    rw [hopen, if_pos rfl] at hlocked
    refine ⟨hlocked ▸ tight.nodup, fun {place} h => ?_⟩
    obtain ⟨found, hfound⟩ := tight.openAt (hlocked ▸ h)
    refine ⟨found, ?_⟩
    by_cases hnumber : found = number
    · subst hnumber
      obtain ⟨other, locks', hother, -⟩ := hfound
      rw [hhandle] at hother
      cases hother
      exact ⟨_, _, (puts.get? found).trans (if_pos rfl), hopen⟩
    · exact hfound.of_handles ((puts.get? found).trans (if_neg hnumber))
  | false =>
    rw [hopen, if_neg Bool.false_ne_true] at hlocked
    refine ⟨hlocked ▸ nodup_unlock tight.nodup, fun {place} h => ?_⟩
    rw [hlocked] at h
    obtain ⟨found, hfound⟩ := tight.openAt (mem_of_mem_unlock before _ h)
    refine ⟨found, hfound.of_handles ((puts.get? found).trans (if_neg ?_))⟩
    -- The handle itself kept the directory locked, and has unlocked it.
    rintro rfl
    obtain ⟨other, locks', hother, hheld⟩ := hfound
    rw [hhandle] at hother
    cases hother
    obtain rfl := ordered.keeps hhandle hheld
    exact tight.nodup.not_mem_erase h

theorem Tight.run {α : Type} (tight : depot.Tight) (ordered : depot.Ordered) (number : Nat)
    (action : Database → α × Database) : (depot.run number action).2.Tight := by
  rcases depot.run_puts number action with ⟨-, hsame⟩ | ⟨_, _, _, _, hhandle, -, -, puts⟩
  · rw [hsame]
    exact tight
  · exact tight.puts ordered hhandle puts

theorem Tight.opens (tight : before.Tight) (ordered : before.Ordered) {result : Except Error Nat}
    {name : String} (opens : before.Opens result after) (starts : Starts name result after) :
    after.Tight := by
  cases opens with
  | failed handles _ locked => exact tight.same handles locked
  | @opened database home _ _ handles next locked free =>
    obtain ⟨found, hfound, fresh⟩ := starts _ rfl
    have hget (other : Nat) : after.handles.get? other = if other = before.next then
        some (.database database home home.isSome) else before.handles.get? other := by
      rw [handles, Table.get?_insert]
    have hnew : after.handles.get? before.next = some (.database database home home.isSome) :=
      (hget _).trans (if_pos rfl)
    have hdatabase : found = database := by
      rw [held?, hnew] at hfound
      exact (Option.some.inj hfound).symm
    refine ⟨?_, fun {place} h => ?_⟩
    · rw [locked]
      cases home with
      | none => exact tight.nodup
      | some place => exact List.nodup_cons.2 ⟨free place rfl, tight.nodup⟩
    · rw [locked] at h
      rcases List.mem_append.1 h with h | h
      · rw [Option.mem_toList] at h
        cases h
        exact ⟨before.next, database, true, hnew, hdatabase ▸ fresh.isOpen⟩
      · obtain ⟨number, hopen⟩ := tight.openAt h
        obtain ⟨other, locks, hhandle, -⟩ := id hopen
        have hne := Nat.ne_of_lt (ordered.below hhandle)
        exact ⟨number, hopen.of_handles ((hget number).trans (if_neg hne))⟩

theorem tight_empty (disk : Disk) : Tight { disk } := ⟨List.nodup_nil, fun h => nomatch h⟩

theorem tight_closeAll (tight : depot.Tight) (ordered : depot.Ordered) (numbers : List Nat) :
    (Catalog.closeAll depot numbers).2.Tight := by
  induction numbers generalizing depot with
  | nil => exact tight
  | cons number rest ih =>
    exact ih (tight.run ordered number Database.close)
      (ordered.run number fun database => Operation.isOpen_of_run database .close)

end Depot

namespace Catalog

variable {ε : Type} {catalog after : Catalog}

theorem tight_of_enlists {name : String} {event : LifecycleEvent} {result : Except Error Nat}
    (tight : catalog.depot.Tight) (ordered : catalog.depot.Ordered)
    (enlists : catalog.Enlists name event result after) : after.depot.Tight := by
  cases enlists with
  | failed opens => exact tight.opens ordered opens (Depot.starts_error : Depot.Starts name _ _)
  | @enlisted number depot free opens starts =>
    let tell (database : Database) :=
      (catalog.listeners.foldl Database.addListener { database with number }).notify event
    exact (tight.opens ordered opens starts).run (ordered.opens opens) number tell

/-- Every move keeps it so that only the directories of open databases are locked. -/
theorem Regular.tight_make (regular : catalog.Regular) (tight : catalog.depot.Tight)
    (move : Move ε) : (catalog.make move).depot.Tight := by
  cases move with
  | observe | offer | hear => exact tight
  | create name mode => exact tight_of_enlists tight regular.ordered (catalog.create_cases name mode)
  | find name =>
    rcases catalog.openDatabase_cases name with ⟨number, -, hsame⟩ | enlists
    · rw [Catalog.make, hsame]
      exact tight
    · exact tight_of_enlists tight regular.ordered enlists
  | shutDown => exact Depot.tight_closeAll tight regular.ordered catalog.opened.values
  | work number => exact tight.run regular.ordered number _
  | fault number refusals syncFaults syncFails flushFails =>
    exact tight.run regular.ordered number fun database =>
      ((), database.failing refusals syncFaults syncFails flushFails)

end Catalog

/-! ## Opening the database in a directory -/

namespace Disk

variable {disk after : Disk} {root home : Place} {log : Bytes}

/-- What is written in a directory that was made is all that happens to the disk. -/
theorem Sets.of_made {tree : Tree}
    (hat : ∀ place, tree.at? place =
      if place = home then some .directory else disk.tree.at? place)
    (sets : ({ disk with tree } : Disk).Sets home log after) : disk.Sets home log after where
  root := sets.root
  grows :=
    { directory := fun {place} h => by
        refine sets.grows.directory ?_
        show tree.isDirectory place = true
        rw [Tree.isDirectory, hat]
        by_cases hplace : place = home
        · rw [if_pos hplace]
        · rw [if_neg hplace]
          exact h
      stands := fun {place} h => by
        refine sets.grows.stands ?_
        show (tree.at? place).isSome = true
        rw [hat]
        split
        · rfl
        · exact h }
  keeps := sets.keeps
  apart hne hlock hlog := (sets.apart hne hlock hlog).trans ((hat _).trans (if_neg hne))

end Disk

namespace Depot

variable {depot : Depot} {root home : Place} {name : String} {settings : Settings} {log : Bytes}
  {database : Database}

/-- The database in a directory that nobody has locked is opened if its log can be. -/
theorem openStored_of_ofMedium {create : Bool} {disk : Disk}
    (provides : depot.disk.provide name create = (.ok home, disk))
    (directory : disk.tree.at? home = some .directory)
    (lock : disk.tree.isDirectory (Disk.lockName :: home) = false)
    (file : disk.tree.isDirectory (Disk.logName :: home) = false)
    (free : home ∉ depot.locked)
    (opens : Database.ofMedium name .directory settings
      (StorageMode.medium .directory ((disk.log? home).getD [])) =
        (.ok database, StorageMode.medium .directory log)) :
    ∃ after, depot.openStored settings name create = (.ok depot.next, after) ∧
      after.handles = depot.handles.insert depot.next (.database database (some home) true) ∧
      disk.Sets home log after.disk := by
  obtain ⟨locking, opened, hlock, hlog, sets⟩ := Disk.sets_openFiles directory lock file
  have hfree : depot.locked.contains home = false :=
    Bool.eq_false_iff.2 fun h => free (List.contains_iff_mem.1 h)
  have hlocking : ({ depot with disk } : Depot).lock home =
      (.ok (), { depot with disk := locking, locked := home :: depot.locked }) := by
    unfold Depot.lock
    rw [hlock]
    exact if_neg (Bool.eq_false_iff.1 hfree)
  have henter : depot.enter name create =
      (.ok home, { depot with disk := locking, locked := home :: depot.locked }) := by
    unfold enter
    rw [provides]
    simp only [hlocking]
    rfl
  let locked : Depot :=
    { depot with disk := opened.writeLog home log, locked := home :: depot.locked }
  refine ⟨(locked.add (.database database (some home) true)).2, ?_, rfl,
    sets.trans (sets.keeps.sets_writeLog log)⟩
  have hopens : Database.ofMedium name .directory settings
      (.file (.ofFile ((disk.log? home).getD []))) = _ := opens
  unfold openStored
  rw [henter]
  simp only [hlog]
  unfold openLog
  rw [hopens]
  rfl

/-- Nothing is opened where there is no directory. -/
theorem openStored_of_provide_error {create : Bool} {error : Error} {disk : Disk}
    (provides : depot.disk.provide name create = (.error error, disk)) :
    depot.openStored settings name create = (.error error, { depot with disk }) := by
  unfold openStored enter
  rw [provides]

/-- A database is made in a directory that is missing. -/
theorem openStored_of_absent {names : List String} (founds : settings.Founds names)
    (rooted : depot.disk.Rooted root) (step : Path.IsStep name) (takes : depot.disk.Takes name)
    (absent : depot.disk.tree.at? (name :: root) = none)
    (empty : ∀ file, depot.disk.tree.at? (file :: name :: root) = none)
    (free : name :: root ∉ depot.locked) :
    ∃ database log after, depot.openStored settings name true = (.ok depot.next, after) ∧
      after.handles = depot.handles.insert depot.next
        (.database database (some (name :: root)) true) ∧
      database.Kept settings .directory log ∧ depot.disk.Sets (name :: root) log after.disk := by
  obtain ⟨tree, provides, hat⟩ := Disk.provide_of_absent rooted step takes absent
  have hfile (file : String) : tree.at? (file :: name :: root) = none :=
    (hat _).trans ((if_neg (Disk.cons_ne_of_length rfl file).symm).trans (empty file))
  have hnone : ({ depot.disk with tree } : Disk).log? (name :: root) = none := by
    rw [Disk.log?, Tree.file?, hfile]
  obtain ⟨database, log, opens, kept⟩ := Database.made founds name .directory
  have hnotDirectory (file : String) : tree.isDirectory (file :: name :: root) = false := by
    rw [Tree.isDirectory, hfile]
  obtain ⟨after, hopened, handles, sets⟩ := openStored_of_ofMedium provides
    ((hat _).trans (if_pos rfl)) (hnotDirectory _) (hnotDirectory _) free
    (by rw [hnone]; exact opens)
  exact ⟨database, log, after, hopened, handles, kept, sets.of_made hat⟩

/-- A database that is kept in a directory is opened again. -/
theorem openStored_of_keeps (rooted : depot.disk.Rooted root) (step : Path.IsStep name)
    (takes : depot.disk.Takes name) (keeps : depot.disk.Keeps (name :: root) log)
    (kept : database.Kept settings .directory log) (free : name :: root ∉ depot.locked)
    (create : Bool) :
    ∃ again after, depot.openStored settings name create = (.ok depot.next, after) ∧
      after.handles = depot.handles.insert depot.next
        (.database again (some (name :: root)) true) ∧
      again.Kept settings .directory log ∧ again.store.contents = database.store.contents ∧
      depot.disk.Sets (name :: root) log after.disk := by
  obtain ⟨again, opens, hkept, hcontents⟩ := kept.opened_again name .directory
  have provides := Disk.provide_of_directory rooted step takes keeps.directory create
  obtain ⟨held, hlock⟩ := keeps.lock
  obtain ⟨after, hopened, handles, sets⟩ := openStored_of_ofMedium provides keeps.directory
    (by rw [Tree.isDirectory, hlock]) (by rw [Tree.isDirectory, keeps.log]) free
    (by rw [keeps.log?]; exact opens)
  exact ⟨again, after, hopened, handles, hkept, hcontents, sets⟩

/-- A database is made in memory. -/
theorem openMemory_of_founds {names : List String} (founds : settings.Founds names) (depot : Depot)
    (name : String) :
    ∃ database log after, depot.openMemory settings name = (.ok depot.next, after) ∧
      after.handles = depot.handles.insert depot.next (.database database none false) ∧
      database.Kept settings .memory log ∧ after.disk = depot.disk := by
  obtain ⟨database, log, opens, kept⟩ := Database.made founds name .memory
  rw [StorageMode.medium] at opens
  refine ⟨database, log, (depot.add (.database database none false)).2, ?_, rfl, kept, rfl⟩
  simp only [openMemory, opens]
  rfl

end Depot

/-! ## Working with a database -/

/-- A database is kept in a directory if it has one, and in memory else. -/
def StorageMode.ofHome : Option Place → StorageMode
  | some _ => .directory
  | none => .memory

/-- A log has been written in a directory, if there is one. -/
def Disk.Shelves (before : Disk) (home : Option Place) (log : Bytes) (after : Disk) : Prop :=
  match home with
  | some home => before.Sets home log after
  | none => after = before

namespace Depot

variable {depot after : Depot} {number : Nat} {home : Option Place} {settings : Settings}
  {log more : Bytes} {database : Database}

/-- The handle with a number is on a database with these settings that has this log, in the directory of
the handle if that has one. -/
structure Bears (depot : Depot) (settings : Settings) (number : Nat) (home : Option Place)
    (log : Bytes) (database : Database) : Prop where
  handle : ∃ locks, depot.handles.get? number = some (.database database home locks)
  kept : database.Kept settings (.ofHome home) log
  keeps : ∀ place ∈ home, depot.disk.Keeps place log

theorem Bears.held? (bears : depot.Bears settings number home log database) :
    depot.held? number = some database := by
  obtain ⟨locks, hhandle⟩ := bears.handle
  exact held?_eq_some_iff.2 ⟨home, locks, hhandle⟩

/-- A database is seen as its handle has it. -/
theorem Bears.database? (bears : depot.Bears settings number home log database) :
    depot.database? number = some database := by
  obtain ⟨⟨locks, hhandle⟩, kept, keeps⟩ := bears
  rw [database?_of_handle hhandle]
  cases home with
  | none => rw [kept.withFile_of_memory]
  | some place => rw [Option.bind_some, (keeps place rfl).log?, Option.getD_some,
      kept.withFile_of_directory]

/-- The same handle, while the directory of its database is left alone. -/
theorem Bears.same (bears : depot.Bears settings number home log database)
    (handle : after.handles.get? number = depot.handles.get? number)
    (keeps : ∀ place ∈ home, depot.disk.Keeps place log → after.disk.Keeps place log) :
    after.Bears settings number home log database where
  handle := by
    rw [handle]
    exact bears.handle
  kept := bears.kept
  keeps place hplace := keeps place hplace (bears.keeps place hplace)

/-- Work on a database writes its log. -/
theorem Bears.run {α : Type} (bears : depot.Bears settings number home log database)
    (action : Database → α × Database)
    (kept : (action database).2.Kept settings (.ofHome home) more) :
    (depot.run number action).2.Bears settings number home more
        { (action database).2 with notices := [] } ∧
      (∀ other, other ≠ number → (depot.run number action).2.handles.get? other =
        depot.handles.get? other) ∧
      depot.disk.Shelves home more (depot.run number action).2.disk ∧
      (more = log → (depot.run number action).2.disk = depot.disk) := by
  have hdatabase := bears.database?
  obtain ⟨⟨locks, hhandle⟩, -, keeps⟩ := bears
  rcases depot.run_puts number action with ⟨hnone, -⟩ | ⟨held, home', locks', found, hhandle', -, hfound, puts⟩
  · rw [hdatabase] at hnone
    cases hnone
  rw [hdatabase] at hfound
  cases hfound
  rw [hhandle] at hhandle'
  cases hhandle'
  have hafter := puts.get? number
  rw [if_pos rfl] at hafter
  have hothers (other : Nat) (h : other ≠ number) := (puts.get? other).trans (if_neg h)
  have hkept : ({ (action database).2 with notices := [] } : Database).Kept settings (.ofHome home)
      more := kept.same rfl rfl
  have hdisk := puts.disk
  cases home with
  | none => exact ⟨⟨⟨_, hafter⟩, hkept, nofun⟩, hothers, hdisk, fun _ => hdisk⟩
  | some place =>
    have hfile : (action database).2.file? = some more := by
      rw [Database.file?, kept.medium]
      rfl
    simp only [writeFile, hfile] at hdisk
    have keeps := keeps place rfl
    have sets := keeps.sets_writeLog more
    rw [← hdisk] at sets
    refine ⟨⟨⟨_, hafter⟩, hkept, ?_⟩, hothers, sets, fun h => ?_⟩
    · rintro _ ⟨⟩
      exact sets.keeps
    · rw [hdisk, h, keeps.writeLog_self]

/-- Closing databases leaves the disk as it is. -/
theorem disk_closeAll {numbers : List Nat}
    (bears : ∀ number ∈ numbers, ∃ home log database, depot.Bears settings number home log database) :
    (Catalog.closeAll depot numbers).2.disk = depot.disk := by
  induction numbers generalizing depot with
  | nil => rfl
  | cons number rest ih =>
    obtain ⟨home, log, database, hfirst⟩ := bears number List.mem_cons_self
    obtain ⟨hclosed, hothers, -, hsame⟩ := hfirst.run Database.close hfirst.kept.closed.1
    have hdisk := hsame rfl
    refine (ih fun other hother => ?_).trans hdisk
    by_cases hnumber : other = number
    · subst hnumber
      exact ⟨home, log, _, hclosed⟩
    · obtain ⟨home', log', database', hbears⟩ := bears other (List.mem_cons_of_mem _ hother)
      exact ⟨home', log', database', hbears.same (hothers other hnumber) fun _ _ h => hdisk ▸ h⟩

end Depot

/-! ## The change of one log -/

/-- The directory of the database with a name, if that was made in one. -/
def Disk.homeOf (stored : List String) (root : Place) (name : String) : Option Place :=
  if name ∈ stored then some (name :: root) else none

namespace Disk

variable {before after : Disk} {stored : List String} {root : Place} {name other : String}
  {home : Option Place} {log : Bytes}

theorem Shelves.rooted (shelves : before.Shelves home log after) (rooted : before.Rooted root) :
    after.Rooted root := by
  cases home with
  | none => exact (show after = before from shelves) ▸ rooted
  | some place => exact Sets.rooted shelves rooted

theorem Shelves.takes (shelves : before.Shelves home log after) :
    after.Takes name ↔ before.Takes name := by
  cases home with
  | none => rw [show after = before from shelves]
  | some place => exact Sets.takes shelves

theorem Shelves.keeps (shelves : before.Shelves home log after) :
    ∀ place ∈ home, after.Keeps place log := by
  rintro place rfl
  exact Sets.keeps shelves

/-- Under other names everything is as before. -/
theorem Shelves.beside (shelves : before.Shelves (homeOf stored root name) log after)
    (hne : other ≠ name) :
    (∀ kept, before.Keeps (other :: root) kept → after.Keeps (other :: root) kept) ∧
      after.tree.at? (other :: root) = before.tree.at? (other :: root) ∧
      ∀ file, after.tree.at? (file :: other :: root) = before.tree.at? (file :: other :: root) := by
  by_cases hstored : name ∈ stored
  · rw [homeOf, if_pos hstored] at shelves
    have sets : before.Sets (name :: root) log after := shelves
    have hplace : other :: root ≠ name :: root := fun h => hne (List.cons.inj h).1
    refine ⟨fun _ => sets.keeps_beside rfl hplace, sets.at?_beside rfl hplace, fun file => ?_⟩
    have hfile (file' : String) : file :: other :: root ≠ file' :: name :: root :=
      fun h => hplace (List.cons.inj h).2
    have hlength : (name :: root).length = (other :: root).length := rfl
    exact sets.apart (cons_ne_of_length hlength file).symm (hfile _) (hfile _)
  · rw [homeOf, if_neg hstored] at shelves
    rw [show after = before from shelves]
    exact ⟨fun _ h => h, rfl, fun _ => rfl⟩

end Disk

namespace Depot

variable {depot : Depot} {number other : Nat} {place : Place}

theorem at_of_run {α : Type} {action : Database → α × Database}
    (h : (depot.run number action).2.At other place) : depot.At other place := by
  rcases depot.run_puts number action with ⟨-, hsame⟩ | ⟨held, home, locks, _, hhandle, -, -, puts⟩
  · rwa [hsame] at h
  · obtain ⟨database, locks', hother⟩ := h
    rw [puts.get?] at hother
    split at hother
    · rename_i hnumber
      cases hother
      exact hnumber ▸ ⟨held, locks, hhandle⟩
    · exact ⟨database, locks', hother⟩

theorem at_of_closeAll {numbers : List Nat}
    (h : (Catalog.closeAll depot numbers).2.At other place) : depot.At other place := by
  induction numbers generalizing depot with
  | nil => exact h
  | cons number rest ih => exact at_of_run (ih h)

end Depot

end RecordBase
