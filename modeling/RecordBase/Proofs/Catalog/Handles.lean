import RecordBase.Catalog.Basic
import RecordBase.Proofs.Database.Reached

/-!
# The databases in the handles of a catalog

What the operations of a catalog do to the databases in its handles (`Depot.held?`): doing something
with a database changes that one (`Depot.held?_run`), opening one adds it or fails and leaves all as
they are (`Depot.Opens`), and nothing else touches any.

* `Catalog.Sound`: every database in a handle is sound and its cache coherent, and every name that the
  catalog lists stands for one. Every operation of a catalog keeps this.
* `Catalog.provides_openDatabase`, `Catalog.provides_create`: a database is not opened or made unless its handle
  is there afterwards; if that fails the handles and the list stay as they are.
-/

namespace RecordBase

open Files (Place)

/-! ## Databases and their files -/

namespace Database

/-- What the store of a database holds is sound and its cache coherent. -/
structure Good (database : Database) : Prop where
  sound : database.store.contents.Sound
  coherent : database.store.Coherent

/-- Two databases that differ in their logs, counters and notices at most. -/
structure Agrees (database other : Database) : Prop where
  name : other.name = database.name
  isOpen : other.isOpen = database.isOpen
  contents : other.store.contents = database.store.contents
  cache : other.store.cache = database.store.cache

variable {database other : Database}

theorem Agrees.symm (h : database.Agrees other) : other.Agrees database :=
  ⟨h.name.symm, h.isOpen.symm, h.contents.symm, h.cache.symm⟩

theorem Agrees.good (agrees : database.Agrees other) (good : database.Good) : other.Good where
  sound := agrees.contents ▸ good.sound
  coherent cache h := agrees.contents ▸ good.coherent cache (agrees.cache ▸ h)

theorem agrees_withFile (database : Database) (bytes : Bytes) :
    database.Agrees (database.withFile bytes) := by
  unfold withFile
  split <;> exact ⟨rfl, rfl, rfl, rfl⟩

/-- A run keeps a database good. -/
theorem Good.step {ε : Type} (good : database.Good) (step : Step ε) : (step.run database).2.Good :=
  have ⟨sound, _, coherent⟩ := step.run_of_law Store.Law.coherent good.sound
  ⟨sound, (coherent good.sound).2 good.coherent⟩

theorem Good.operation (good : database.Good) (operation : Operation) :
    (operation.run database).2.Good :=
  good.step (.operation operation : Step Unit)

theorem good_of_ofMedium {name : String} {mode : StorageMode} {settings : Settings} {medium : Medium}
    {database : Database} (h : (ofMedium name mode settings medium).1 = .ok database) :
    database.Good := by
  unfold ofMedium at h
  rcases hopened : ofJournal name mode settings
    { medium, syncOnWrite := settings.syncOnWrite } fun _ => 0 with ⟨result, journal⟩
  rw [hopened] at h
  obtain rfl : result = .ok database := h
  have ⟨sound, coherent⟩ := (Reached.opened hopened : Reached Unit database).sound_coherent
  exact ⟨sound, coherent⟩

end Database

/-! ## Handles -/

namespace Depot

variable {depot after : Depot}

/-- The database in the handle with a number, with its file as the handle saw it last. -/
def held? (depot : Depot) (number : Nat) : Option Database :=
  match depot.handles.get? number with
  | some (.database database _ _) => some database
  | _ => none

theorem held?_of_handles (h : after.handles = depot.handles) (number : Nat) :
    after.held? number = depot.held? number := by
  rw [held?, held?, h]

theorem held?_eq_some_iff {number : Nat} {database : Database} :
    depot.held? number = some database ↔
      ∃ home locks, depot.handles.get? number = some (.database database home locks) := by
  unfold held?
  constructor
  · intro h
    split at h
    · rename_i home locks hhandle
      cases h
      exact ⟨home, locks, hhandle⟩
    · cases h
  · rintro ⟨home, locks, hhandle⟩
    simp only [hhandle]

/-- A database is seen with its file as it is now. -/
theorem database?_of_held {number : Nat} {database : Database}
    (h : depot.held? number = some database) :
    ∃ bytes, depot.database? number = some (database.withFile bytes) := by
  obtain ⟨home, locks, hhandle⟩ := held?_eq_some_iff.1 h
  exact ⟨_, by simp only [database?, hhandle]; rfl⟩

theorem database?_eq_none (number : Nat) :
    depot.database? number = none ↔ depot.held? number = none := by
  unfold database? held?
  split <;> simp_all

theorem agrees_of_database? {number : Nat} {database : Database}
    (h : depot.database? number = some database) :
    ∃ held, depot.held? number = some held ∧ held.Agrees database := by
  cases hheld : depot.held? number with
  | none =>
    rw [(database?_eq_none number).2 hheld] at h
    cases h
  | some held =>
    obtain ⟨bytes, hbytes⟩ := database?_of_held hheld
    rw [hbytes] at h
    cases h
    exact ⟨held, rfl, held.agrees_withFile bytes⟩

/-- The handle of a database that is there. -/
theorem handle_of_database? {number : Nat} {database : Database}
    (h : depot.database? number = some database) :
    ∃ held home locks, depot.handles.get? number = some (.database held home locks) ∧
      database = held.withFile ((home.bind depot.disk.log?).getD []) := by
  unfold database? at h
  split at h
  · rename_i held home locks hhandle
    cases h
    exact ⟨held, home, locks, hhandle, rfl⟩
  · cases h

/-! ### Working with a database -/

@[simp] theorem handles_unlock (depot : Depot) (home : Option Place) :
    (depot.unlock home).handles = depot.handles := by
  cases home <;> rfl

@[simp] theorem handles_writeFile (depot : Depot) (home : Option Place) (database : Database) :
    (depot.writeFile home database).handles = depot.handles := by
  unfold writeFile
  split <;> rfl

@[simp] theorem next_unlock (depot : Depot) (held? : Option Place) :
    (depot.unlock held?).next = depot.next := by
  cases held? <;> rfl

@[simp] theorem next_writeFile (depot : Depot) (home : Option Place) (database : Database) :
    (depot.writeFile home database).next = depot.next := by
  unfold writeFile
  split <;> rfl

@[simp] theorem locked_writeFile (depot : Depot) (home : Option Place) (database : Database) :
    (depot.writeFile home database).locked = depot.locked := by
  unfold writeFile
  split <;> rfl

@[simp] theorem disk_unlock (depot : Depot) (held? : Option Place) :
    (depot.unlock held?).disk = depot.disk := by
  cases held? <;> rfl

/-- The handle on a database after that is changed. -/
def changed (database : Database) (home : Option Place) (locks : Bool) : Handle :=
  .database { database with notices := [] } home (database.isOpen && locks && home.isSome)

/-- A handle on a database, which may have kept its directory locked, after that database is changed. -/
structure Puts (before : Depot) (number : Nat) (database : Database) (home : Option Place)
    (locks : Bool) (after : Depot) : Prop where
  handles : after.handles = before.handles.insert number (changed database home locks)
  disk : after.disk = (before.writeFile home database).disk
  next : after.next = before.next
  locked : after.locked = if database.isOpen then before.locked
    else (before.unlock (if locks then home else none)).locked

theorem puts_put {number : Nat} {held : Database} {home : Option Place} {locks : Bool}
    (h : depot.handles.get? number = some (.database held home locks)) (database : Database) :
    depot.Puts number database home locks (depot.put number database) := by
  simp only [put, h, replace]
  have hkept : (Handle.database held home locks).held?.isSome = (locks && home.isSome) := by
    cases locks <;> rfl
  cases hopen : database.isOpen with
  | true =>
    refine ⟨?_, rfl, next_writeFile .., ?_⟩
    · simp [changed, Handle.home?, hopen, hkept]
    · simp [hopen]
  | false =>
    refine ⟨?_, ?_, ?_, ?_⟩
    · simp [changed, Handle.home?, hopen]
    · simp [Handle.home?]
    · simp
    · simp only [hopen, Handle.held?, Bool.false_eq_true, if_false]
      cases (if locks then home else none) <;> simp [unlock]

/-- The other handles stay as they are. -/
theorem Puts.get? {number : Nat} {database : Database} {home : Option Place} {locks : Bool}
    (puts : depot.Puts number database home locks after) (other : Nat) :
    after.handles.get? other =
      if other = number then some (changed database home locks) else depot.handles.get? other := by
  rw [puts.handles, Table.get?_insert]

/-- A changed database is put in the place of the one before. -/
theorem held?_put {number : Nat} {database held : Database} (h : depot.held? number = some held)
    (other : Nat) :
    (depot.put number database).held? other =
      if other = number then some { database with notices := [] } else depot.held? other := by
  obtain ⟨home, locks, hhandle⟩ := held?_eq_some_iff.1 h
  rw [held?, (puts_put hhandle database).get?]
  by_cases hother : other = number
  · simp only [hother, if_true, changed]
  · simp only [if_neg hother]
    rfl

/-- Nothing is done with a database that is not there, and with one that is there what is asked. -/
theorem run_spec {α : Type} (depot : Depot) (number : Nat) (action : Database → α × Database) :
    (depot.held? number = none ∧ depot.run number action = (none, depot)) ∨
    ∃ database, depot.database? number = some database ∧
      (depot.run number action).1 = some (action database).1 ∧
      ∀ other, (depot.run number action).2.held? other =
        if other = number then some { (action database).2 with notices := [] }
        else depot.held? other := by
  cases hdatabase : depot.database? number with
  | none =>
    refine .inl ⟨(database?_eq_none number).1 hdatabase, ?_⟩
    rw [run, hdatabase]
  | some database =>
    obtain ⟨held, hheld, -⟩ := agrees_of_database? hdatabase
    refine .inr ⟨database, rfl, ?_, fun other => ?_⟩
    · rw [run, hdatabase]
    · rw [run, hdatabase]
      exact held?_put hheld other

/-- Every database in a handle is good. -/
def AllGood (depot : Depot) : Prop :=
  ∀ number database, depot.held? number = some database → database.Good

theorem AllGood.run {α : Type} (good : depot.AllGood) (number : Nat)
    {action : Database → α × Database}
    (h : ∀ database : Database, database.Good → (action database).2.Good) :
    (depot.run number action).2.AllGood := by
  intro other found hfound
  rcases depot.run_spec number action with ⟨-, hnone⟩ | ⟨database, hdatabase, -, hheld⟩
  · rw [hnone] at hfound
    exact good other found hfound
  · rw [hheld] at hfound
    split at hfound
    · obtain ⟨held, hbefore, agrees⟩ := agrees_of_database? hdatabase
      have hafter := h database (agrees.good (good number held hbefore))
      cases hfound
      exact ⟨hafter.sound, hafter.coherent⟩
    · exact good other found hfound

/-! ### Giving up -/

theorem held?_giveUp (depot : Depot) (number other : Nat) :
    (depot.giveUp number).held? other = if other = number then none else depot.held? other := by
  unfold giveUp
  split
  · rw [held?, handles_unlock, Table.get?_erase]
    by_cases hother : other = number
    · simp only [hother, if_true]
    · simp only [if_neg hother]
      rfl
  · rename_i hnone
    split
    · rename_i hother
      rw [hother, held?, hnone]
    · rfl

theorem held?_foldl_giveUp (numbers : List Nat) (depot : Depot) (other : Nat) :
    (numbers.foldl giveUp depot).held? other =
      if other ∈ numbers then none else depot.held? other := by
  induction numbers generalizing depot with
  | nil => simp
  | cons number rest ih =>
    rw [List.foldl_cons, ih, held?_giveUp]
    by_cases hrest : other ∈ rest
    · simp [hrest]
    · by_cases hother : other = number <;> simp [hrest, hother]

/-- What is kept stays, and what is given up is gone. -/
theorem held?_retain (depot : Depot) (keep : List Nat) (number : Nat) :
    (number ∈ keep → (depot.retain keep).held? number = depot.held? number) ∧
      ∀ database, (depot.retain keep).held? number = some database →
        depot.held? number = some database := by
  rw [retain, held?_foldl_giveUp]
  constructor
  · intro hkeep
    rw [if_neg]
    simp [hkeep]
  · intro database h
    split at h
    · cases h
    · exact h

/-! ### Opening -/

/-- What comes of opening a database: a handle under the next number, which keeps the directory of the
database locked that was free before; or nothing but a change of the disk. -/
inductive Opens (depot : Depot) : Except Error Nat → Depot → Prop
  | failed {error : Error} {after : Depot} (handles : after.handles = depot.handles)
      (next : after.next = depot.next) (locked : after.locked = depot.locked) :
      Opens depot (.error error) after
  | opened {database : Database} {home : Option Place} {after : Depot} (good : database.Good)
      (handles : after.handles =
        depot.handles.insert depot.next (.database database home home.isSome))
      (next : after.next = depot.next + 1) (locked : after.locked = home.toList ++ depot.locked)
      (free : ∀ place ∈ home, place ∉ depot.locked) : Opens depot (.ok depot.next) after

theorem AllGood.opens {result : Except Error Nat} (good : depot.AllGood)
    (opens : depot.Opens result after) : after.AllGood := by
  intro number found hfound
  cases opens with
  | failed handles => exact good number found (held?_of_handles handles number ▸ hfound)
  | @opened database _ _ fresh handles =>
    have hheld : after.held? number =
        if number = depot.next then some database else depot.held? number := by
      rw [held?, handles, Table.get?_insert]
      by_cases hnumber : number = depot.next
      · simp only [hnumber, if_true]
      · simp only [if_neg hnumber]
        rfl
    rw [hheld] at hfound
    split at hfound
    · cases hfound
      exact fresh
    · exact good number found hfound

/-- Nothing is locked, or a directory that was not locked. -/
theorem enter_cases (depot : Depot) (name : String) (create : Bool) :
    (∃ error disk, depot.enter name create = (.error error, { depot with disk })) ∨
    ∃ home disk, home ∉ depot.locked ∧
      depot.enter name create = (.ok home, { depot with disk, locked := home :: depot.locked }) := by
  unfold enter
  rcases depot.disk.provide name create with ⟨error | home, disk⟩
  · exact .inl ⟨error, disk, rfl⟩
  · simp only [lock]
    rcases disk.openLock home with ⟨error | _, disk⟩
    · exact .inl ⟨error, disk, rfl⟩
    · simp only
      by_cases hlocked : depot.locked.contains home = true
      · rw [if_pos hlocked]
        exact .inl ⟨_, disk, rfl⟩
      · rw [if_neg hlocked]
        exact .inr ⟨home, disk, fun hmem => hlocked (List.contains_iff_mem.2 hmem), rfl⟩

theorem opens_openMemory (depot : Depot) (settings : Settings) (name : String) :
    depot.Opens (depot.openMemory settings name).1 (depot.openMemory settings name).2 := by
  unfold openMemory
  split
  · exact .failed rfl rfl rfl
  · rename_i database hopened
    exact @Opens.opened _ database none _ (Database.good_of_ofMedium hopened) rfl rfl rfl nofun

/-- Opening the database in a directory that has just been locked. -/
theorem opens_openLog (depot : Depot) (settings : Settings) (name : String) {home : Place}
    (log : Bytes) (free : home ∉ depot.locked) (disk : Disk) :
    let locking := { depot with disk, locked := home :: depot.locked }
    depot.Opens (locking.openLog settings name home log).1
      (locking.openLog settings name home log).2 := by
  simp only [openLog]
  rcases hopened : Database.ofMedium name .directory settings (.file (.ofFile log)) with
    ⟨error | database, medium⟩
  · exact .failed rfl rfl (List.erase_cons_head ..)
  · refine @Opens.opened _ database (some home) _
      (Database.good_of_ofMedium (congrArg Prod.fst hopened)) rfl rfl rfl ?_
    rintro _ ⟨⟩
    exact free

theorem opens_openStored (depot : Depot) (settings : Settings) (name : String) (create : Bool) :
    depot.Opens (depot.openStored settings name create).1
      (depot.openStored settings name create).2 := by
  unfold openStored
  rcases depot.enter_cases name create with ⟨error, disk, henter⟩ | ⟨home, disk, hfree, henter⟩ <;>
    rw [henter]
  · exact .failed rfl rfl rfl
  · simp only
    rcases disk.openLog home with ⟨error | log, disk⟩
    · exact .failed rfl rfl (List.erase_cons_head ..)
    · exact depot.opens_openLog settings name log hfree disk

theorem opens_createBy (depot : Depot) (settings : Settings) (name : String) (mode : StorageMode) :
    depot.Opens (depot.createBy settings name mode).1 (depot.createBy settings name mode).2 := by
  cases mode with
  | memory => exact depot.opens_openMemory settings name
  | directory =>
    rw [createBy]
    by_cases hkept : depot.disk.isDatabase name = true
    · rw [if_pos hkept]
      exact .failed rfl rfl rfl
    · rw [if_neg hkept]
      exact depot.opens_openStored settings name true

/-- Nothing is found to be opened, or it is opened. -/
theorem openBy_spec (depot : Depot) (settings : Settings) (name : String) (mode : StorageMode) :
    depot.openBy settings name mode = (.ok none, depot) ∨
      ∃ result after, depot.openBy settings name mode = (result.map some, after) ∧
        depot.Opens result after := by
  cases mode with
  | memory => exact .inl rfl
  | directory =>
    rw [openBy]
    by_cases hkept : (!depot.disk.isDatabase name) = true
    · rw [if_pos hkept]
      exact .inl rfl
    · rw [if_neg hkept]
      have opens := depot.opens_openStored settings name false
      rcases hopened : depot.openStored settings name false with ⟨result, after⟩
      rw [hopened] at opens
      exact .inr ⟨result, after, rfl, opens⟩

end Depot

/-! ## Catalogs -/

namespace Catalog

variable {catalog after : Catalog}

/-- The databases in the handles are good, and every name that is listed stands for one. -/
structure Sound (catalog : Catalog) : Prop where
  good : catalog.depot.AllGood
  listed {name : String} {number : Nat} : catalog.opened.get? name = some number →
    ∃ database, catalog.depot.held? number = some database

/-- The handles and the list stay as they are. -/
structure Keeps (before after : Catalog) : Prop where
  handles : after.depot.handles = before.depot.handles
  opened : after.opened = before.opened

theorem Keeps.held? (keeps : catalog.Keeps after) (number : Nat) :
    after.depot.held? number = catalog.depot.held? number :=
  Depot.held?_of_handles keeps.handles number

theorem Keeps.sound (keeps : catalog.Keeps after) (sound : catalog.Sound) : after.Sound where
  good number database h := sound.good number database (keeps.held? number ▸ h)
  listed h := by
    rw [keeps.held?]
    exact sound.listed (keeps.opened ▸ h)

theorem sound_start (settings : Settings) (usesDisk : Bool) (disk : Disk) :
    (Catalog.start settings usesDisk { disk }).Sound := by
  have hdepot : (Catalog.start settings usesDisk { disk }).depot = { disk } := by
    cases usesDisk <;> rfl
  have hopened : (Catalog.start settings usesDisk { disk }).opened = Table.empty := by
    cases usesDisk <;> rfl
  refine ⟨fun number database h => ?_, fun {name number} h => ?_⟩
  · rw [hdepot, Depot.held?, Table.get?_empty] at h
    cases h
  · rw [hopened, Table.get?_empty] at h
    cases h

/-- A handle that is there stays, whatever is done with a database. -/
theorem held?_run {α : Type} (number : Nat) (action : Database → α × Database) {other : Nat}
    {database : Database} (h : catalog.depot.held? other = some database) :
    ∃ database, (catalog.run number action).2.depot.held? other = some database := by
  rcases catalog.depot.run_spec number action with ⟨-, hnone⟩ | ⟨_, -, -, hheld⟩
  · rw [Catalog.run, hnone]
    exact ⟨database, h⟩
  · rw [Catalog.run, hheld]
    split
    · exact ⟨_, rfl⟩
    · exact ⟨database, h⟩

/-- Whatever is done with a database that keeps it good, the others and the list stay. -/
theorem Sound.run {α : Type} (sound : catalog.Sound) (number : Nat) {action : Database → α × Database}
    (h : ∀ database : Database, database.Good → (action database).2.Good) :
    (catalog.run number action).2.Sound where
  good := sound.good.run number h
  listed hname := have ⟨_, hheld⟩ := sound.listed hname; held?_run number action hheld

theorem Sound.release (sound : catalog.Sound) (used : List Nat) : (catalog.release used).Sound where
  good number database h :=
    sound.good number database ((catalog.depot.held?_retain (catalog.opened.values ++ used) number).2 database h)
  listed {name number} h := by
    have hlisted : number ∈ catalog.opened.values :=
      List.mem_map.2 ⟨(name, number), Table.mem_entries_iff.2 h, rfl⟩
    obtain ⟨database, hheld⟩ := sound.listed h
    refine ⟨database, ?_⟩
    rw [Catalog.release,
      (catalog.depot.held?_retain _ number).1 (List.mem_append_left used hlisted)]
    exact hheld

theorem Sound.insert (sound : catalog.Sound) (name : String) {number : Nat} {database : Database}
    (h : catalog.depot.held? number = some database) (failures : List Failure) :
    { catalog with failures, opened := catalog.opened.insert name number }.Sound where
  good := sound.good
  listed {other found} hname := by
    rw [Table.get?_insert] at hname
    split at hname
    · cases hname
      exact ⟨database, h⟩
    · exact sound.listed hname

theorem foldl_addListener (listeners : List Listener) (database : Database) :
    listeners.foldl Database.addListener database =
      { database with listeners := database.listeners ++ listeners } := by
  induction listeners generalizing database with
  | nil => rw [List.append_nil, List.foldl_nil]
  | cons listener rest ih =>
    rw [List.foldl_cons, ih, Database.addListener, List.append_assoc, List.singleton_append]

theorem Sound.enlist (sound : catalog.Sound) (name : String) {number : Nat} {database : Database}
    (h : catalog.depot.held? number = some database) (event : LifecycleEvent) :
    (catalog.enlist name number event).Sound ∧
      ∃ database, (catalog.enlist name number event).depot.held? number = some database := by
  let tell (database : Database) :=
    (catalog.listeners.foldl Database.addListener { database with number }).notify event
  have told : (catalog.run number tell).2.Sound := sound.run number fun database good => by
    simp only [tell, foldl_addListener, Database.notify]
    exact ⟨good.sound, good.coherent⟩
  obtain ⟨after, hafter⟩ := held?_run number tell h
  exact ⟨told.insert name hafter _, after, hafter⟩

/-! ### Opening and making databases -/

/-- What comes of opening or making a database: there is one, or the handles and the list stay. -/
inductive Provides (catalog : Catalog) : Except Error Nat → Catalog → Prop
  | failed {error : Error} {after : Catalog} (keeps : catalog.Keeps after) :
      Provides catalog (.error error) after
  | provided {number : Nat} {database : Database} {after : Catalog} (sound : after.Sound)
      (held : after.depot.held? number = some database) : Provides catalog (.ok number) after

theorem Provides.sound {result : Except Error Nat} (provides : catalog.Provides result after)
    (sound : catalog.Sound) : after.Sound := by
  cases provides with
  | failed keeps => exact keeps.sound sound
  | provided sound _ => exact sound

theorem Sound.opens (sound : catalog.Sound) {number : Nat} {depot : Depot}
    (opens : catalog.depot.Opens (.ok number) depot) :
    { catalog with depot }.Sound ∧ ∃ database, depot.held? number = some database := by
  have hgood := sound.good.opens opens
  cases opens with
  | @opened database home _ good handles =>
    have hheld (other : Nat) : depot.held? other =
        if other = catalog.depot.next then some database else catalog.depot.held? other := by
      rw [Depot.held?, handles, Table.get?_insert]
      by_cases hother : other = catalog.depot.next
      · simp only [hother, if_true]
      · simp only [if_neg hother]
        rfl
    refine ⟨⟨hgood, fun {name other} h => ?_⟩, database, ?_⟩
    · rw [hheld]
      split
      · exact ⟨database, rfl⟩
      · exact sound.listed h
    · rw [hheld, if_pos rfl]

theorem Keeps.of_opens {error : Error} {depot : Depot}
    (opens : catalog.depot.Opens (.error error) depot) : catalog.Keeps { catalog with depot } := by
  cases opens with
  | failed handles => exact ⟨handles, rfl⟩

theorem provides_createBy (sound : catalog.Sound) (name : String) (mode : StorageMode) :
    catalog.Provides (catalog.createBy name mode).1 (catalog.createBy name mode).2 := by
  unfold createBy
  split
  · exact .failed ⟨rfl, rfl⟩
  · have opens := catalog.depot.opens_createBy catalog.settings name mode
    rcases hcreated : catalog.depot.createBy catalog.settings name mode with
      ⟨error | number, depot⟩ <;> rw [hcreated] at opens
    · exact .failed (.of_opens opens)
    · obtain ⟨hsound, database, hheld⟩ := sound.opens opens
      obtain ⟨hlisted, after, hafter⟩ := hsound.enlist name hheld .created
      exact .provided hlisted hafter

theorem provides_create (sound : catalog.Sound) (name mode : String) :
    catalog.Provides (catalog.create name mode).1 (catalog.create name mode).2 := by
  unfold create
  cases checkName name with
  | error error => exact .failed ⟨rfl, rfl⟩
  | ok _ =>
    simp only
    cases catalog.engines.get? (Text.asciiLowercase mode) with
    | none => exact .failed ⟨rfl, rfl⟩
    | some mode => exact provides_createBy sound name mode

/-- A way after another is tried until there is a database or a failure. -/
theorem openFirst_spec (sound : catalog.Sound) (name : String) (modes : List StorageMode) :
    (∃ error after, catalog.openFirst name modes = (.error error, after) ∧ catalog.Keeps after) ∨
    (∃ after, catalog.openFirst name modes = (.ok none, after) ∧ catalog.Keeps after) ∨
    ∃ number database after, catalog.openFirst name modes = (.ok (some number), after) ∧
      after.Sound ∧ after.depot.held? number = some database := by
  induction modes with
  | nil => exact .inr (.inl ⟨catalog, rfl, rfl, rfl⟩)
  | cons mode rest ih =>
    unfold openFirst
    rcases catalog.depot.openBy_spec catalog.settings name mode with hnone |
      ⟨result, depot, hopened, opens⟩
    · rw [hnone]
      exact ih
    · rw [hopened]
      cases result with
      | error error => exact .inl ⟨error, _, rfl, .of_opens opens⟩
      | ok number =>
        obtain ⟨hsound, database, hheld⟩ := sound.opens opens
        exact .inr (.inr ⟨number, database, _, rfl, hsound, hheld⟩)

theorem provides_openDatabase (sound : catalog.Sound) (name : String) :
    catalog.Provides (catalog.openDatabase name).1 (catalog.openDatabase name).2 := by
  unfold openDatabase
  cases checkName name with
  | error error => exact .failed ⟨rfl, rfl⟩
  | ok _ =>
    simp only
    cases hlisted : catalog.opened.get? name with
    | some number =>
      obtain ⟨database, hheld⟩ := sound.listed hlisted
      exact .provided sound hheld
    | none =>
      simp only
      rcases openFirst_spec sound name catalog.engines.values with ⟨error, after, hopened, keeps⟩ |
        ⟨after, hopened, keeps⟩ | ⟨number, database, after, hopened, hsound, hheld⟩ <;> rw [hopened]
      · exact .failed keeps
      · exact .failed keeps
      · obtain ⟨hlisted, last, hlast⟩ := hsound.enlist name hheld .opened
        exact .provided hlisted hlast

/-! ### Shutdown -/

theorem allGood_closeAll {depot : Depot} (good : depot.AllGood) (numbers : List Nat) :
    (closeAll depot numbers).2.AllGood := by
  induction numbers generalizing depot with
  | nil => exact good
  | cons number rest ih =>
    exact ih (good.run number fun database hgood => hgood.operation .close)

theorem Sound.shutdown (sound : catalog.Sound) : catalog.shutdown.2.Sound where
  good := allGood_closeAll sound.good catalog.opened.values
  listed := nofun

end Catalog

end RecordBase
