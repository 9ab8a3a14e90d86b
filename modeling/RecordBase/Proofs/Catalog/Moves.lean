import RecordBase.Proofs.Catalog.Locks

/-!
# Histories of a catalog

`Catalog.Move`: what may be done with a catalog, with the databases that it gave out, and with their
journals. `Catalog.makeAll` makes one move after another.

* `Catalog.create_cases`, `Catalog.openDatabase_cases`: making or opening a database fails and leaves the
  handles and the list, or it lists a new database under the next number.
* `Catalog.Regular`: every name that is listed stands for a database of that name, and every open
  database is listed. Every move keeps this (`Regular.make`).
-/

namespace RecordBase

open Files (Place)

variable {ε : Type}

/-! ## Databases -/

/-- How a listener fails at a call, if it does: it, the database and the event are named, and its own words
are told. -/
def Listener.objection? (listener : Listener) (call : Call) : Option Failure :=
  match listener.answer call with
  | .error wording =>
    some ⟨"listener " ++ listener.name ++ " on " ++ call.database ++ " (" ++ call.event.name ++ ")", wording⟩
  | .ok () => none

/-- The database with a journal that fails in other ways from now on. -/
def Database.failing (database : Database) (refusals syncFaults : Faults)
    (syncFails flushFails : Bool) : Database :=
  let journal := { database.store.journal with refusals, syncFaults, syncFails, flushFails }
  { database with store := { database.store with journal } }

namespace Database

/-- A database with which nobody has worked yet. -/
structure Fresh (database : Database) (name : String) : Prop where
  name : database.name = name
  isOpen : database.isOpen = true
  listeners : database.listeners = []
  told : database.told = 0
  notices : database.notices = []

theorem fresh_of_ofMedium {name : String} {mode : StorageMode} {settings : Settings} {medium : Medium}
    {database : Database} (h : (ofMedium name mode settings medium).1 = .ok database) :
    database.Fresh name := by
  unfold ofMedium ofJournal at h
  rcases hopened : Store.ofJournal settings (fun _ => 0)
    { medium, syncOnWrite := settings.syncOnWrite } with ⟨error | store, journal⟩ <;>
    rw [hopened] at h <;> cases h
  exact ⟨rfl, rfl, rfl, rfl, rfl⟩

theorem listeners_withFile (database : Database) (bytes : Bytes) :
    (database.withFile bytes).listeners = database.listeners ∧
      (database.withFile bytes).told = database.told := by
  unfold withFile
  split <;> exact ⟨rfl, rfl⟩

/-- An event raises the failures of all the listeners that are told of it. -/
theorem failures_notify (database : Database) (event : LifecycleEvent) :
    (database.notify event).1 = database.listeners.filterMap (·.objection? (database.call event)) := by
  refine congrArg (List.filterMap · database.listeners) (funext fun listener => ?_)
  unfold Listener.objection?
  cases listener.answer (database.call event) <;> rfl

/-- What may be done with a database: it stays good and keeps its name, and nothing opens it again. -/
structure Works (before after : Database) : Prop where
  good : before.Good → after.Good
  isOpen : after.isOpen = true → before.isOpen = true
  name : after.name = before.name

theorem Works.refl (database : Database) : database.Works database := ⟨id, id, rfl⟩

theorem Works.trans {before middle after : Database} (h : before.Works middle)
    (h' : middle.Works after) : before.Works after :=
  ⟨h'.good ∘ h.good, h.isOpen ∘ h'.isOpen, h'.name.trans h.name⟩

theorem name_onStore {α : Type} (database : Database) (wrap : α → Answer)
    (operation : Store → Except Error α × Store) :
    (database.onStore wrap operation).2.name = database.name := rfl

end Database

theorem Operation.name_run (database : Database) (operation : Operation) :
    (operation.run database).2.name = database.name := by
  cases operation with
  | execute request =>
    simp only [run]
    split <;> rfl
  | close =>
    simp only [run, Database.close]
    split <;> rfl
  | _ => simp only [run, Database.name_onStore, Database.look, Database.notify]

theorem Step.name_run (step : Step ε) (database : Database) :
    (step.run database).2.name = database.name :=
  run_of_rel (R := fun before after => after.name = before.name)
    (fun h h' => h'.trans h) (fun _ _ => rfl) Operation.name_run database step

theorem Step.works (step : Step ε) (database : Database) : database.Works (step.run database).2 where
  good good := good.step step
  isOpen := step.isOpen_of_run database
  name := step.name_run database

theorem Database.works_failing (database : Database) (refusals syncFaults : Faults)
    (syncFails flushFails : Bool) :
    database.Works (database.failing refusals syncFaults syncFails flushFails) where
  good good := ⟨good.sound, good.coherent⟩
  isOpen h := h
  name := rfl

theorem Database.isOpen_close (database : Database) : database.close.2.isOpen = false := by
  unfold close
  split
  · rename_i hclosed
    simpa using hclosed
  · rfl

theorem Database.works_close (database : Database) : database.Works database.close.2 :=
  Step.works (.operation .close : Step Unit) database

/-! ## What an opening leaves -/

namespace Depot

variable {depot after : Depot} {name : String}

theorem Opens.next {number : Nat} (opens : depot.Opens (.ok number) after) : number = depot.next := by
  cases opens
  rfl

theorem Opens.next_after {number : Nat} (opens : depot.Opens (.ok number) after) :
    after.next = depot.next + 1 := by
  cases opens with
  | opened _ _ next => exact next

theorem Opens.held?_of_ne {number other : Nat} (opens : depot.Opens (.ok number) after)
    (h : other ≠ number) : after.held? other = depot.held? other := by
  cases opens with
  | opened _ handles => rw [held?, handles, Table.get?_insert, if_neg h, ← held?]

theorem Ordered.lt_next {number : Nat} {database : Database} (ordered : depot.Ordered)
    (h : depot.held? number = some database) : number < depot.next := by
  obtain ⟨home, locks, hhandle⟩ := held?_eq_some_iff.1 h
  exact ordered.below hhandle

theorem next_run {α : Type} (depot : Depot) (number : Nat) (action : Database → α × Database) :
    (depot.run number action).2.next = depot.next := by
  rcases depot.run_puts number action with ⟨-, hsame⟩ | ⟨_, _, _, _, -, -, -, puts⟩
  · rw [hsame]
  · exact puts.next

/-- What is held after something was done with a database: what was held before, or that database. -/
theorem held_run {α : Type} {number other : Nat} {action : Database → α × Database}
    {database : Database} (h : (depot.run number action).2.held? other = some database) :
    (other ≠ number ∧ depot.held? other = some database) ∨
    (other = number ∧ ∃ before bytes, depot.held? number = some before ∧
      database = { (action (before.withFile bytes)).2 with notices := [] }) := by
  rcases depot.run_spec number action with ⟨hnone, hsame⟩ | ⟨found, hfound, -, hheld⟩
  · rw [hsame] at h
    refine .inl ⟨?_, h⟩
    rintro rfl
    rw [h] at hnone
    cases hnone
  · rw [hheld] at h
    split at h
    · rename_i hother
      obtain ⟨before, home, locks, hhandle, rfl⟩ := handle_of_database? hfound
      cases h
      exact .inr ⟨hother, before, _, held?_eq_some_iff.2 ⟨home, locks, hhandle⟩, rfl⟩
    · rename_i hother
      exact .inl ⟨hother, h⟩

theorem held?_run_of_ne {α : Type} {action : Database → α × Database} (h : other ≠ number) :
    (depot.run number action).2.held? other = depot.held? other := by
  rcases depot.run_spec number action with ⟨-, hsame⟩ | ⟨found, -, -, hheld⟩
  · rw [hsame]
  · rw [hheld, if_neg h]

/-- Work on a database is work on what was held. -/
theorem works_of_run {α : Type} {number other : Nat} {action : Database → α × Database}
    {database : Database} (works : ∀ database, Database.Works database (action database).2)
    (h : (depot.run number action).2.held? other = some database) :
    ∃ before, depot.held? other = some before ∧ Database.Works before database := by
  rcases held_run h with ⟨-, hheld⟩ | ⟨rfl, before, bytes, hheld, rfl⟩
  · exact ⟨database, hheld, .refl database⟩
  · have agrees := before.agrees_withFile bytes
    have works := works (before.withFile bytes)
    refine ⟨before, hheld, fun good => ?_, fun hopen => ?_, works.name.trans agrees.name⟩
    · have hgood := works.good (agrees.good good)
      exact ⟨hgood.sound, hgood.coherent⟩
    · exact agrees.isOpen ▸ works.isOpen hopen

theorem isOpen_iff {number : Nat} : depot.isOpen number = true ↔
    ∃ database, depot.held? number = some database ∧ database.isOpen = true := by
  unfold isOpen
  constructor
  · intro h
    cases hfound : depot.database? number with
    | none =>
      rw [hfound] at h
      cases h
    | some database =>
      rw [hfound] at h
      obtain ⟨held, hheld, agrees⟩ := agrees_of_database? hfound
      exact ⟨held, hheld, agrees.isOpen ▸ h⟩
  · rintro ⟨held, hheld, hopen⟩
    obtain ⟨bytes, hfound⟩ := database?_of_held hheld
    rw [hfound]
    exact (isOpen_withFile held bytes).trans hopen

/-- Work leaves every database in its handle. -/
theorem held_run_of_held {α : Type} {number other : Nat} {action : Database → α × Database}
    {database : Database} (works : ∀ database, Database.Works database (action database).2)
    (h : depot.held? other = some database) :
    ∃ after, (depot.run number action).2.held? other = some after ∧ database.Works after := by
  obtain ⟨after, hafter⟩ : ∃ after, (depot.run number action).2.held? other = some after := by
    rcases depot.run_spec number action with ⟨-, hsame⟩ | ⟨found, -, -, hheld⟩
    · exact ⟨database, hsame ▸ h⟩
    · rw [hheld]
      split
      · exact ⟨_, rfl⟩
      · exact ⟨database, h⟩
  obtain ⟨before, hbefore, works⟩ := works_of_run works hafter
  rw [h] at hbefore
  cases hbefore
  exact ⟨after, hafter, works⟩

/-- Whatever the listeners of the databases noted has been collected. -/
def Collected (depot : Depot) : Prop :=
  ∀ number database, depot.held? number = some database → database.notices = []

theorem Collected.run {α : Type} (collected : depot.Collected) (number : Nat)
    (action : Database → α × Database) : (depot.run number action).2.Collected := by
  intro other database held
  rcases held_run held with ⟨-, hbefore⟩ | ⟨-, _, _, -, rfl⟩
  · exact collected other database hbefore
  · rfl

/-- If a database was opened, it is a fresh one. -/
def Starts (name : String) (result : Except Error Nat) (after : Depot) : Prop :=
  ∀ number, result = .ok number → ∃ database, after.held? number = some database ∧ database.Fresh name

theorem starts_error {error : Error} : Starts name (.error error) after := nofun

theorem starts_add (depot : Depot) {database : Database} (home : Option Place) (locks : Bool)
    (fresh : database.Fresh name) :
    Starts name (.ok depot.next) (depot.add (.database database home locks)).2 := by
  rintro _ ⟨⟩
  exact ⟨database, by simp only [add, held?, Table.get?_insert_self], fresh⟩

theorem starts_openMemory (depot : Depot) (settings : Settings) (name : String) :
    Starts name (depot.openMemory settings name).1 (depot.openMemory settings name).2 := by
  unfold openMemory
  split
  · exact starts_error
  · rename_i database hopened
    exact depot.starts_add _ _ (Database.fresh_of_ofMedium hopened)

theorem starts_openStored (depot : Depot) (settings : Settings) (name : String) (create : Bool) :
    Starts name (depot.openStored settings name create).1
      (depot.openStored settings name create).2 := by
  unfold openStored
  rcases depot.enter_cases name create with ⟨error, disk, henter⟩ | ⟨home, disk, -, henter⟩ <;>
    rw [henter]
  · exact starts_error
  · simp only
    rcases disk.openLog home with ⟨error | log, disk⟩
    · exact starts_error
    · simp only [openLog]
      rcases hopened : Database.ofMedium name .directory settings (.file (.ofFile log)) with
        ⟨error | database, medium⟩
      · exact starts_error
      · exact starts_add _ _ _ (Database.fresh_of_ofMedium (congrArg Prod.fst hopened))

theorem starts_createBy (depot : Depot) (settings : Settings) (name : String) (mode : StorageMode) :
    Starts name (depot.createBy settings name mode).1 (depot.createBy settings name mode).2 := by
  cases mode with
  | memory => exact depot.starts_openMemory settings name
  | directory =>
    rw [createBy]
    split
    · exact starts_error
    · exact depot.starts_openStored settings name true

/-- Nothing is found to be opened, or a database is opened or fails to be. -/
theorem openBy_cases (depot : Depot) (settings : Settings) (name : String) (mode : StorageMode) :
    depot.openBy settings name mode = (.ok none, depot) ∨
      ∃ result after, depot.openBy settings name mode = (result.map some, after) ∧
        depot.Opens result after ∧ Starts name result after := by
  cases mode with
  | memory => exact .inl rfl
  | directory =>
    rw [openBy]
    split
    · exact .inl rfl
    · have opens := depot.opens_openStored settings name false
      have starts := depot.starts_openStored settings name false
      rcases hopened : depot.openStored settings name false with ⟨result, after⟩
      rw [hopened] at opens starts
      exact .inr ⟨result, after, rfl, opens, starts⟩

end Depot

/-! ## Making and opening a database -/

namespace Catalog

variable {catalog after : Catalog} {name : String} {event : LifecycleEvent} {number : Nat}

/-- What comes of making or opening a database under a name: a failure that leaves the handles and the
list, or a new database that is listed and of which the listeners are told. -/
inductive Enlists (catalog : Catalog) (name : String) (event : LifecycleEvent) :
    Except Error Nat → Catalog → Prop
  | failed {error : Error} {depot : Depot} (opens : catalog.depot.Opens (.error error) depot) :
      Enlists catalog name event (.error error) { catalog with depot }
  | enlisted {number : Nat} {depot : Depot} (free : catalog.opened.get? name = none)
      (opens : catalog.depot.Opens (.ok number) depot) (starts : Depot.Starts name (.ok number) depot) :
      Enlists catalog name event (.ok number) ({ catalog with depot }.enlist name number event)

theorem Enlists.refused (error : Error) : catalog.Enlists name event (.error error) catalog :=
  .failed (.failed rfl rfl rfl)

theorem create_cases (catalog : Catalog) (name mode : String) :
    catalog.Enlists name .created (catalog.create name mode).1 (catalog.create name mode).2 := by
  unfold create
  cases checkName name with
  | error error => exact .refused error
  | ok _ =>
    simp only
    cases catalog.engines.get? (Text.asciiLowercase mode) with
    | none => exact .refused _
    | some mode =>
      simp only [createBy]
      split
      · exact .refused _
      · rename_i hfree
        have hlisted : catalog.opened.get? name = none := by
          simp only [has, Table.contains, Bool.or_eq_true, not_or, Bool.not_eq_true,
            Option.isSome_eq_false_iff, Option.isNone_iff_eq_none] at hfree
          exact hfree.1
        have opens := catalog.depot.opens_createBy catalog.settings name mode
        have starts := catalog.depot.starts_createBy catalog.settings name mode
        rcases hcreated : catalog.depot.createBy catalog.settings name mode with
          ⟨error | number, depot⟩ <;> rw [hcreated] at opens starts
        · exact .failed opens
        · exact .enlisted hlisted opens starts

/-- A way after another is tried, until a database is opened or one fails to be. -/
theorem openFirst_cases (catalog : Catalog) (name : String) (modes : List StorageMode) :
    catalog.openFirst name modes = (.ok none, catalog) ∨
      ∃ result depot, catalog.openFirst name modes = (result.map some, { catalog with depot }) ∧
        catalog.depot.Opens result depot ∧ Depot.Starts name result depot := by
  induction modes with
  | nil => exact .inl rfl
  | cons mode rest ih =>
    unfold openFirst
    rcases catalog.depot.openBy_cases catalog.settings name mode with hnone |
      ⟨result, depot, hopened, opens, starts⟩
    · rw [hnone]
      exact ih
    · rw [hopened]
      cases result with
      | error error => exact .inr ⟨.error error, depot, rfl, opens, starts⟩
      | ok number => exact .inr ⟨.ok number, depot, rfl, opens, starts⟩

/-- A database that is listed is given out as it is, another one is opened. -/
theorem openDatabase_cases (catalog : Catalog) (name : String) :
    (∃ number, catalog.opened.get? name = some number ∧
      catalog.openDatabase name = (.ok number, catalog)) ∨
    catalog.Enlists name .opened (catalog.openDatabase name).1 (catalog.openDatabase name).2 := by
  unfold openDatabase
  cases checkName name with
  | error error => exact .inr (.refused error)
  | ok _ =>
    simp only
    cases hlisted : catalog.opened.get? name with
    | some number => exact .inl ⟨number, rfl, rfl⟩
    | none =>
      refine .inr ?_
      rcases catalog.openFirst_cases name catalog.engines.values with hnone |
        ⟨error | number, depot, hopened, opens, starts⟩
      · rw [hnone]
        exact .refused _
      · rw [hopened]
        exact .failed opens
      · rw [hopened]
        exact .enlisted hlisted opens starts

/-- A new database under the next number, which is listed and whose listeners were told of it. -/
structure Gives (catalog : Catalog) (name : String) (event : LifecycleEvent) (number : Nat)
    (database : Database) (after : Catalog) : Prop where
  failures : after.failures = catalog.failures ++
    catalog.listeners.filterMap (·.objection? ⟨event, name, number, 0, true⟩)
  next : number = catalog.depot.next
  next_after : after.depot.next = catalog.depot.next + 1
  free : catalog.opened.get? name = none
  opened : after.opened = catalog.opened.insert name number
  held (other : Nat) : after.depot.held? other =
    if other = number then some database else catalog.depot.held? other
  name : database.name = name
  isOpen : database.isOpen = true
  notices : database.notices = []
  told : database.listeners = catalog.listeners
  listeners : after.listeners = catalog.listeners

theorem Enlists.gives (enlists : catalog.Enlists name event (.ok number) after) :
    ∃ database, catalog.Gives name event number database after := by
  cases enlists with
  | @enlisted _ depot free opens starts =>
    obtain ⟨fresh, hfresh, hname, hopen, hlisteners, hnone, -⟩ := starts number rfl
    let tell (database : Database) :=
      (catalog.listeners.foldl Database.addListener { database with number }).notify event
    obtain ⟨bytes, hbytes⟩ := Depot.database?_of_held hfresh
    rcases depot.run_spec number tell with ⟨hnone, -⟩ | ⟨found, hfound, hanswer, hheld⟩
    · rw [hfresh] at hnone
      cases hnone
    rw [hbytes] at hfound
    cases hfound
    have agrees := fresh.agrees_withFile bytes
    obtain ⟨hempty, htold⟩ := fresh.listeners_withFile bytes
    let attached := { fresh.withFile bytes with listeners := catalog.listeners, number }
    have htell : tell (fresh.withFile bytes) = attached.notify event := by
      simp only [tell, attached, foldl_addListener, hempty, hlisteners, List.nil_append]
    have hcall : attached.call event = ⟨event, name, number, 0, true⟩ := by
      simp only [Database.call, attached, agrees.name, hname, htold, hnone, agrees.isOpen, hopen]
    rw [htell] at hanswer hheld
    rw [Database.failures_notify, hcall] at hanswer
    let database := { attached with told := attached.told + 1, notices := [] }
    have hnext := (depot.next_run number tell).trans opens.next_after
    refine ⟨database, ?_, opens.next, hnext, free, rfl, fun other => ?_, agrees.name.trans hname,
      agrees.isOpen.trans hopen, rfl, rfl, rfl⟩
    · exact congrArg (fun failures => catalog.failures ++ failures.getD []) hanswer
    · refine (hheld other).trans ?_
      split
      · rfl
      · rename_i hother
        exact opens.held?_of_ne hother

theorem Gives.isOpen_number {database : Database}
    (gives : catalog.Gives name event number database after) : after.depot.isOpen number = true :=
  Depot.isOpen_iff.2 ⟨database, (gives.held number).trans (if_pos rfl), gives.isOpen⟩

end Catalog

/-! ## Moves -/

namespace Catalog

/-- Something that is done with a catalog, or with a database that it gave out. -/
inductive Move (ε : Type) where
  /-- A listener is added. -/
  | observe (listener : Listener)
  /-- A way to keep databases is offered. -/
  | offer (mode : StorageMode)
  | create (name mode : String)
  /-- A database is asked for by name. -/
  | find (name : String)
  /-- The failures of listeners are asked for. -/
  | hear
  | shutDown
  /-- Something is done with the database that has a number. -/
  | work (number : Nat) (step : Step ε)
  /-- The journal of the database that has a number fails in other ways from now on. -/
  | fault (number : Nat) (refusals syncFaults : Faults) (syncFails flushFails : Bool)

/-- The catalog after a move. -/
def make (catalog : Catalog) : Move ε → Catalog
  | .observe listener => catalog.addListener listener
  | .offer mode => catalog.register mode
  | .create name mode => (catalog.create name mode).2
  | .find name => (catalog.openDatabase name).2
  | .hear => catalog.takeFailures.2
  | .shutDown => catalog.shutdown.2
  | .work number step => (catalog.run number fun database => step.run database).2
  | .fault number refusals syncFaults syncFails flushFails =>
    (catalog.run number fun database =>
      ((), database.failing refusals syncFaults syncFails flushFails)).2

/-- The catalog after moves that are made one after another. -/
def makeAll (catalog : Catalog) (moves : List (Move ε)) : Catalog := moves.foldl make catalog

variable {catalog after : Catalog} {name : String} {event : LifecycleEvent}

/-- The catalog is sound and its handles are in order. Every name that is listed stands for a database of
that name, and every open database is listed. -/
structure Regular (catalog : Catalog) : Prop where
  sound : catalog.Sound
  ordered : catalog.depot.Ordered
  named {name : String} {number : Nat} {database : Database} :
    catalog.opened.get? name = some number → catalog.depot.held? number = some database →
      database.name = name
  listed {number : Nat} {database : Database} : catalog.depot.held? number = some database →
    database.isOpen = true → catalog.opened.get? database.name = some number
  collected : catalog.depot.Collected

/-- No two names stand for one database. -/
theorem Regular.apart (regular : catalog.Regular) {other : String} {number : Nat}
    (h : catalog.opened.get? name = some number) (h' : catalog.opened.get? other = some number) :
    name = other := by
  obtain ⟨database, held⟩ := regular.sound.listed h
  exact (regular.named h held).symm.trans (regular.named h' held)

theorem depot_start (settings : Settings) (usesDisk : Bool) (disk : Disk) :
    (Catalog.start settings usesDisk { disk }).depot = { disk } := by
  cases usesDisk <;> rfl

theorem opened_start (settings : Settings) (usesDisk : Bool) (disk : Disk) :
    (Catalog.start settings usesDisk { disk }).opened = Table.empty := by
  cases usesDisk <;> rfl

theorem failures_start (settings : Settings) (usesDisk : Bool) (disk : Disk) :
    (Catalog.start settings usesDisk { disk }).failures = [] := by
  cases usesDisk <;> rfl

theorem regular_start (settings : Settings) (usesDisk : Bool) (disk : Disk) :
    (Catalog.start settings usesDisk { disk }).Regular where
  sound := sound_start settings usesDisk disk
  ordered := ordered_start settings usesDisk disk
  named h := by
    rw [opened_start] at h
    cases h
  listed h := by
    rw [depot_start] at h
    cases h
  collected number database h := by
    rw [depot_start] at h
    cases h

/-- A catalog with the same handles and the same list is as regular. -/
theorem Regular.same (regular : catalog.Regular) (handles : after.depot.handles = catalog.depot.handles)
    (next : after.depot.next = catalog.depot.next)
    (locked : after.depot.locked = catalog.depot.locked) (opened : after.opened = catalog.opened) :
    after.Regular where
  sound := Keeps.sound ⟨handles, opened⟩ regular.sound
  ordered := regular.ordered.same handles next locked
  named h held := by
    rw [opened] at h
    exact regular.named h (Depot.held?_of_handles handles _ ▸ held)
  listed held hopen := by
    rw [opened]
    exact regular.listed (Depot.held?_of_handles handles _ ▸ held) hopen
  collected number database held :=
    regular.collected number database (Depot.held?_of_handles handles _ ▸ held)

theorem Regular.run {α : Type} (regular : catalog.Regular) (number : Nat)
    {action : Database → α × Database}
    (works : ∀ database, Database.Works database (action database).2) :
    (catalog.run number action).2.Regular where
  sound := regular.sound.run number fun database => (works database).good
  ordered := ordered_run regular.ordered number fun database => (works database).isOpen
  named h held := by
    obtain ⟨before, hbefore, works⟩ := Depot.works_of_run works held
    exact works.name.trans (regular.named h hbefore)
  listed held hopen := by
    obtain ⟨before, hbefore, works⟩ := Depot.works_of_run works held
    rw [works.name]
    exact regular.listed hbefore (works.isOpen hopen)
  collected := regular.collected.run number action

theorem ordered_of_enlists (ordered : catalog.depot.Ordered) {result : Except Error Nat}
    (enlists : catalog.Enlists name event result after) : after.depot.Ordered := by
  cases enlists with
  | failed opens => exact ordered.opens opens
  | @enlisted number depot free opens =>
    exact @ordered_enlist { catalog with depot } (ordered.opens opens) name number event

theorem sound_of_enlists (sound : catalog.Sound) {result : Except Error Nat}
    (enlists : catalog.Enlists name event result after) : after.Sound := by
  cases enlists with
  | failed opens => exact (Keeps.of_opens opens).sound sound
  | enlisted free opens =>
    obtain ⟨hsound, database, held⟩ := sound.opens opens
    exact (hsound.enlist name held event).1

theorem Regular.enlists (regular : catalog.Regular) {result : Except Error Nat}
    (enlists : catalog.Enlists name event result after) : after.Regular := by
  have hordered := ordered_of_enlists regular.ordered enlists
  have hsound := sound_of_enlists regular.sound enlists
  cases result with
  | error error =>
    cases enlists with
    | failed opens =>
      cases opens with
      | failed handles next locked => exact regular.same handles next locked rfl
  | ok number =>
    obtain ⟨database, gives⟩ := enlists.gives
    refine ⟨hsound, hordered, fun {other found held} h hheld => ?_,
      fun {found held} hheld hopen => ?_, fun found held hheld => ?_⟩
    · rw [gives.held] at hheld
      rw [gives.opened, Table.get?_insert] at h
      split at h
      · rename_i hother
        cases h
        rw [if_pos rfl] at hheld
        cases hheld
        exact gives.name.trans hother.symm
      · obtain ⟨before, hbefore⟩ := regular.sound.listed h
        rw [if_neg (gives.next ▸ Nat.ne_of_lt (regular.ordered.lt_next hbefore))] at hheld
        exact regular.named h hheld
    · rw [gives.held] at hheld
      rw [gives.opened, Table.get?_insert]
      split at hheld
      · rename_i hfound
        cases hheld
        rw [if_pos gives.name, hfound]
      · have hlisted := regular.listed hheld hopen
        rw [if_neg, hlisted]
        intro hname
        rw [hname, gives.free] at hlisted
        cases hlisted
    · rw [gives.held] at hheld
      split at hheld
      · cases hheld
        exact gives.notices
      · exact regular.collected found held hheld

/-- Closing databases works on what was held and leaves none of them open. -/
theorem works_closeAll {depot : Depot} {numbers : List Nat} {other : Nat} {database : Database}
    (h : (closeAll depot numbers).2.held? other = some database) :
    (∃ before, depot.held? other = some before ∧ Database.Works before database) ∧
      (other ∈ numbers → database.isOpen = false) := by
  induction numbers generalizing depot with
  | nil => exact ⟨⟨database, h, .refl database⟩, fun h => absurd h List.not_mem_nil⟩
  | cons number rest ih =>
    obtain ⟨⟨middle, hmiddle, hrest⟩, hclosed⟩ := ih h
    obtain ⟨before, hbefore, hfirst⟩ := Depot.works_of_run Database.works_close hmiddle
    refine ⟨⟨before, hbefore, hfirst.trans hrest⟩, fun hother => ?_⟩
    rcases List.mem_cons.1 hother with rfl | hmem
    · rcases Depot.held_run hmiddle with ⟨hne, -⟩ | ⟨-, found, bytes, -, rfl⟩
      · exact absurd rfl hne
      · exact Bool.eq_false_iff.2 fun hopen =>
          Bool.eq_false_iff.1 (found.withFile bytes).isOpen_close (hrest.isOpen hopen)
    · exact hclosed hmem

theorem held_closeAll_of_held {depot : Depot} {database : Database}
    (h : depot.held? number = some database) (numbers : List Nat) :
    ∃ after, (closeAll depot numbers).2.held? number = some after ∧ database.Works after := by
  induction numbers generalizing depot database with
  | nil => exact ⟨database, h, .refl database⟩
  | cons first rest ih =>
    obtain ⟨middle, hmiddle, works⟩ := Depot.held_run_of_held Database.works_close h
    obtain ⟨after, hafter, hrest⟩ := ih hmiddle
    exact ⟨after, hafter, works.trans hrest⟩

theorem collected_closeAll {depot : Depot} (collected : depot.Collected) (numbers : List Nat) :
    (closeAll depot numbers).2.Collected := by
  induction numbers generalizing depot with
  | nil => exact collected
  | cons number rest ih => exact ih (collected.run number Database.close)

theorem mem_values_of_listed (h : catalog.opened.get? name = some number) :
    number ∈ catalog.opened.values :=
  List.mem_map.2 ⟨(name, number), Table.mem_entries_iff.2 h, rfl⟩

/-- A shutdown leaves no database open. -/
theorem Regular.closed_of_shutdown (regular : catalog.Regular) {database : Database}
    (h : catalog.shutdown.2.depot.held? number = some database) : database.isOpen = false := by
  obtain ⟨⟨before, hbefore, works⟩, hclosed⟩ := works_closeAll h
  refine Bool.eq_false_iff.2 fun hopen => ?_
  have hlisted := regular.listed hbefore (works.isOpen hopen)
  exact Bool.eq_false_iff.1 (hclosed (mem_values_of_listed hlisted)) hopen

theorem Regular.shutdown (regular : catalog.Regular) : catalog.shutdown.2.Regular where
  sound := regular.sound.shutdown
  ordered := ordered_closeAll regular.ordered catalog.opened.values
  named h := by cases h
  listed held hopen := absurd hopen (Bool.eq_false_iff.1 (regular.closed_of_shutdown held))
  collected := collected_closeAll regular.collected catalog.opened.values

theorem Regular.make (regular : catalog.Regular) (move : Move ε) : (catalog.make move).Regular := by
  cases move with
  | observe | offer | hear => exact regular.same rfl rfl rfl rfl
  | create name mode => exact regular.enlists (catalog.create_cases name mode)
  | find name =>
    rcases catalog.openDatabase_cases name with ⟨number, -, hsame⟩ | enlists
    · rw [Catalog.make, hsame]
      exact regular
    · exact regular.enlists enlists
  | shutDown => exact regular.shutdown
  | work number step => exact regular.run number step.works
  | fault number refusals syncFaults syncFails flushFails =>
    exact regular.run number fun database =>
      database.works_failing refusals syncFaults syncFails flushFails

theorem Regular.makeAll (regular : catalog.Regular) (moves : List (Move ε)) :
    (catalog.makeAll moves).Regular := by
  induction moves generalizing catalog with
  | nil => exact regular
  | cons move rest ih => exact ih (regular.make move)

/-- Making or opening a database leaves the others in their handles. -/
theorem Regular.held_of_enlists (regular : catalog.Regular) {result : Except Error Nat}
    (enlists : catalog.Enlists name event result after) {database : Database}
    (h : catalog.depot.held? number = some database) : after.depot.held? number = some database := by
  cases result with
  | error error =>
    cases enlists with
    | failed opens =>
      cases opens with
      | failed handles => exact (Depot.held?_of_handles handles number).trans h
  | ok found =>
    obtain ⟨_, gives⟩ := enlists.gives
    rw [gives.held, if_neg (gives.next ▸ Nat.ne_of_lt (regular.ordered.lt_next h)), h]

/-- Every move leaves every database in its handle, and works on it at most. -/
theorem Regular.held_make (regular : catalog.Regular) (move : Move ε) {database : Database}
    (h : catalog.depot.held? number = some database) :
    ∃ after, (catalog.make move).depot.held? number = some after ∧ database.Works after := by
  cases move with
  | observe | offer | hear => exact ⟨database, h, .refl database⟩
  | create name mode =>
    exact ⟨database, regular.held_of_enlists (catalog.create_cases name mode) h, .refl database⟩
  | find name =>
    rcases catalog.openDatabase_cases name with ⟨found, -, hsame⟩ | enlists
    · refine ⟨database, ?_, .refl database⟩
      rw [Catalog.make, hsame]
      exact h
    · exact ⟨database, regular.held_of_enlists enlists h, .refl database⟩
  | shutDown => exact held_closeAll_of_held h catalog.opened.values
  | work other step => exact Depot.held_run_of_held step.works h
  | fault other refusals syncFaults syncFails flushFails =>
    let action (database : Database) :=
      ((), database.failing refusals syncFaults syncFails flushFails)
    have works (database : Database) : database.Works (action database).2 :=
      database.works_failing refusals syncFaults syncFails flushFails
    exact Depot.held_run_of_held works h

theorem Regular.held_makeAll (regular : catalog.Regular) (moves : List (Move ε))
    {database : Database} (h : catalog.depot.held? number = some database) :
    ∃ after, (catalog.makeAll moves).depot.held? number = some after ∧ database.Works after := by
  induction moves generalizing catalog database with
  | nil => exact ⟨database, h, .refl database⟩
  | cons move rest ih =>
    obtain ⟨middle, hmiddle, works⟩ := regular.held_make move h
    obtain ⟨after, hafter, hrest⟩ := ih (regular.make move) hmiddle
    exact ⟨after, hafter, works.trans hrest⟩

end Catalog

end RecordBase
