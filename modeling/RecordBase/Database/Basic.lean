import RecordBase.Store.Batch

/-!
# Databases

A database is a store under a name, with listeners that are told when it is created, opened and
closed. A listener that fails stops nothing: its failure is reported.
-/

namespace RecordBase

/-- Where the log of a database is kept. -/
inductive StorageMode where
  /-- In memory. -/
  | memory
  /-- In a directory of its own. -/
  | directory
  deriving DecidableEq, Repr

namespace StorageMode

/-- The name of a mode. -/
def name : StorageMode → String
  | memory => "memory"
  | directory => "local"

/-- The mode with a name, in any case. -/
def ofName (name : String) : Except Error StorageMode :=
  match Text.asciiLowercase name with
  | "memory" => .ok .memory
  | "local" => .ok .directory
  | _ => .error (.unsupportedStorage name)

end StorageMode

/-! ## Listeners -/

/-- What listeners are told about. -/
inductive LifecycleEvent where
  | created
  | opened
  | closing
  deriving DecidableEq, Repr

/-- The name of an event. -/
def LifecycleEvent.name : LifecycleEvent → String
  | created => "create"
  | opened => "open"
  | closing => "close"

/-- A step that failed without stopping what it was part of. -/
structure Failure where
  /-- What failed. -/
  component : String
  message : String
  deriving DecidableEq, Repr

/-- The text of a failure. -/
def Failure.text (failure : Failure) : String := failure.component ++ ": " ++ failure.message

/-- A call of a listener. -/
structure Call where
  event : LifecycleEvent
  database : String
  /-- The number of the database in its catalog. -/
  number : Nat
  /-- How many events of the database there were before. -/
  earlier : Nat
  /-- Whether the database is open at that moment. -/
  isOpen : Bool
  deriving DecidableEq, Repr

/-- An observer of databases. It may answer whatever it likes to a call, and tells in its own words why it
fails. No two calls that it gets for the databases of a catalog are alike, so that its answers may depend
on what it finds in a database, and on all that it has been told before. -/
structure Listener where
  name : String
  answer : Call → Except String Unit

/-- A call that was made. -/
structure Notice where
  listener : String
  event : LifecycleEvent
  database : String
  isOpen : Bool
  deriving DecidableEq, Repr

/-! ## Databases -/

/-- A store under a name. -/
structure Database where
  name : String
  mode : StorageMode
  settings : Settings
  store : Store
  listeners : List Listener := []
  isOpen : Bool := true
  /-- Its number in the catalog that lists it. -/
  number : Nat := 0
  /-- How many events its listeners have been told of. -/
  told : Nat := 0
  /-- The calls of listeners, in order, that nobody has collected yet. -/
  notices : List Notice := []

namespace Database

/-- Opens a database over a journal. What the journal holds afterwards is returned also if opening
fails. -/
def ofJournal (name : String) (mode : StorageMode) (settings : Settings) (journal : Journal)
    (victims : Nat → Nat) : Except Error Database × Journal :=
  match Store.ofJournal settings victims journal with
  | (.error error, journal) => (.error error, journal)
  | (.ok store, journal) => (.ok { name, mode, settings, store }, journal)

/-- Opens a database over a medium; its cache evicts the record with the least key. -/
def ofMedium (name : String) (mode : StorageMode) (settings : Settings) (medium : Medium) :
    Except Error Database × Medium :=
  let (result, journal) :=
    ofJournal name mode settings { medium, syncOnWrite := settings.syncOnWrite } fun _ => 0
  (result, journal.medium)

/-- The call that tells a listener of an event. -/
def call (database : Database) (event : LifecycleEvent) : Call :=
  { event, database := database.name, number := database.number, earlier := database.told,
    isOpen := database.isOpen }

/-- Tells every listener of an event and collects their failures. -/
def notify (database : Database) (event : LifecycleEvent) : List Failure × Database :=
  (database.listeners.filterMap fun listener =>
      match listener.answer (database.call event) with
      | .ok () => none
      | .error wording =>
        some ⟨"listener " ++ listener.name ++ " on " ++ database.name ++ " (" ++ event.name ++ ")",
          wording⟩,
    { database with
      told := database.told + 1
      notices := database.notices ++ database.listeners.map fun listener =>
        ⟨listener.name, event, database.name, database.isOpen⟩ })

/-- Adds a listener. -/
def addListener (database : Database) (listener : Listener) : Database :=
  { database with listeners := database.listeners ++ [listener] }

/-- Closes a database: listeners are told and the log is synced. A closed one is left alone. -/
def close (database : Database) : List Failure × Database :=
  if !database.isOpen then ([], database)
  else
    let (failures, database) := { database with isOpen := false }.notify .closing
    let (result, store) := database.store.settle
    (match result with
      | .ok () => failures
      | .error error => failures ++ [⟨"segment log of " ++ database.name, error.message⟩],
      { database with store })

section

variable {database : Database} {error : Error}

theorem close_of_closed (closed : database.isOpen = false) : database.close = ([], database) := by
  rw [close, closed]
  rfl

theorem snd_close (isOpen : database.isOpen = true) :
    database.close.2 = { ({ database with isOpen := false }.notify .closing).2 with
      store := database.store.settle.2 } := by
  rw [close, isOpen]
  rfl

/-- If the log is settled the listeners' failures are all there are. -/
theorem fst_close_of_settled (isOpen : database.isOpen = true)
    (settled : database.store.settle.1 = .ok ()) :
    database.close.1 = ({ database with isOpen := false }.notify .closing).1 := by
  simp only [close, isOpen, Bool.not_true, Bool.false_eq_true, if_false, notify, settled]

theorem fst_close_of_unsettled (isOpen : database.isOpen = true)
    (unsettled : database.store.settle.1 = .error error) :
    database.close.1 = ({ database with isOpen := false }.notify .closing).1 ++
      [⟨"segment log of " ++ database.name, error.message⟩] := by
  simp only [close, isOpen, Bool.not_true, Bool.false_eq_true, if_false, notify, unsettled]

end

/-- Fails unless the database is open. -/
def ensureOpen (database : Database) : Except Error Unit :=
  if database.isOpen then .ok () else .error .databaseClosed

end Database

end RecordBase
