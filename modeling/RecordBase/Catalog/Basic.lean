import RecordBase.Catalog.Depot

/-!
# The catalog of databases

The databases that are open under their names. A database is made in a way that the catalog offers
and stays open until the catalog is shut down. The catalog's listeners are told of each database;
their failures are kept until somebody asks for them.
-/

namespace RecordBase

/-- What was done at a shutdown. -/
structure ShutdownReport where
  /-- The databases that were closed. -/
  closed : List String := []
  /-- What failed on the way. -/
  failures : List Failure := []
  deriving DecidableEq, Repr

namespace ShutdownReport

/-- Whether nothing failed. -/
def isClean (report : ShutdownReport) : Bool := report.failures.isEmpty

/-- Two reports in one. -/
def merge (report other : ShutdownReport) : ShutdownReport :=
  ⟨report.closed ++ other.closed, report.failures ++ other.failures⟩

end ShutdownReport

/-- The open databases, and how databases are made and found. -/
structure Catalog where
  /-- The settings of the databases. -/
  settings : Settings := {}
  /-- The ways to keep databases, by name. -/
  engines : Table String StorageMode := Table.empty
  /-- The numbers of the open databases, by name. -/
  opened : Table String Nat := Table.empty
  /-- Who is told of each database. -/
  listeners : List Listener := []
  /-- The failures of listeners that nobody has asked for yet. -/
  failures : List Failure := []
  depot : Depot

namespace Catalog

/-- Offers a way to keep databases. -/
def register (catalog : Catalog) (mode : StorageMode) : Catalog :=
  { catalog with engines := catalog.engines.insert mode.name mode }

/-- A catalog that offers memory and, if the disk is to be used, directories. -/
def start (settings : Settings) (usesDisk : Bool) (depot : Depot) : Catalog :=
  let catalog : Catalog := Catalog.register { settings, depot } .memory
  if usesDisk then catalog.register .directory else catalog

/-- Adds somebody to be told of each database from now on. -/
def addListener (catalog : Catalog) (listener : Listener) : Catalog :=
  { catalog with listeners := catalog.listeners ++ [listener] }

/-- Refuses what cannot be the name of a database. -/
def checkName (name : String) : Except Error Unit :=
  if name.isEmpty || name == "." || name == ".." ||
      name.toList.any (fun c => c = '/' || c = '\\' || c = ':' || c = Char.ofNat 0) then
    .error (.invalidOperation (.databaseName name))
  else .ok ()

/-- Whether a database is open or kept under a name. -/
def has (catalog : Catalog) (name : String) : Bool :=
  catalog.opened.contains name || catalog.engines.values.any (catalog.depot.keepsBy name)

/-- The number of the open database with a name. -/
def number? (catalog : Catalog) (name : String) : Option Nat := catalog.opened.get? name

/-- Does something with the database that has a number. -/
def run {α : Type} (catalog : Catalog) (number : Nat) (action : Database → α × Database) :
    Option α × Catalog :=
  let (answer, depot) := catalog.depot.run number action
  (answer, { catalog with depot })

/-- Gives up what is neither listed nor among the numbers of what others use. -/
def release (catalog : Catalog) (used : List Nat) : Catalog :=
  { catalog with depot := catalog.depot.retain (catalog.opened.values ++ used) }

/-- Lists a database that was made or opened and tells the listeners of it. -/
def enlist (catalog : Catalog) (name : String) (number : Nat) (event : LifecycleEvent) :
    Catalog :=
  let (failures, catalog) := catalog.run number fun database =>
    (catalog.listeners.foldl Database.addListener { database with number }).notify event
  { catalog with
    failures := catalog.failures ++ failures.getD []
    opened := catalog.opened.insert name number }

/-- Makes a database that is kept in a certain way, under a name that is free. -/
def createBy (catalog : Catalog) (name : String) (mode : StorageMode) :
    Except Error Nat × Catalog :=
  if catalog.has name then (.error (.databaseExists name), catalog)
  else
    match catalog.depot.createBy catalog.settings name mode with
    | (.error error, depot) => (.error error, { catalog with depot })
    | (.ok number, depot) => (.ok number, { catalog with depot }.enlist name number .created)

/-- Makes a database; how it is kept is given by name, in any case. -/
def create (catalog : Catalog) (name mode : String) : Except Error Nat × Catalog :=
  match checkName name with
  | .error error => (.error error, catalog)
  | .ok () =>
    let mode := Text.asciiLowercase mode
    match catalog.engines.get? mode with
    | none => (.error (.unsupportedStorage mode), catalog)
    | some mode => catalog.createBy name mode

/-- Opens the database with a name in the first of some ways in which one is kept. -/
def openFirst (catalog : Catalog) (name : String) :
    List StorageMode → Except Error (Option Nat) × Catalog
  | [] => (.ok none, catalog)
  | mode :: rest =>
    match catalog.depot.openBy catalog.settings name mode with
    | (.error error, depot) => (.error error, { catalog with depot })
    | (.ok (some number), depot) => (.ok (some number), { catalog with depot })
    | (.ok none, depot) => { catalog with depot }.openFirst name rest

/-- The open database with a name; one that is kept but not open is opened. -/
def openDatabase (catalog : Catalog) (name : String) : Except Error Nat × Catalog :=
  match checkName name with
  | .error error => (.error error, catalog)
  | .ok () =>
    match catalog.opened.get? name with
    | some number => (.ok number, catalog)
    | none =>
      match catalog.openFirst name catalog.engines.values with
      | (.error error, catalog) => (.error error, catalog)
      | (.ok none, catalog) => (.error (.databaseNotFound name), catalog)
      | (.ok (some number), catalog) => (.ok number, catalog.enlist name number .opened)

/-- The failures of listeners since somebody last asked. -/
def takeFailures (catalog : Catalog) : List Failure × Catalog :=
  (catalog.failures, { catalog with failures := [] })

/-- Closes the databases with the given numbers and collects what fails. -/
def closeAll (depot : Depot) : List Nat → List Failure × Depot
  | [] => ([], depot)
  | number :: rest =>
    let (failures, depot) := depot.run number Database.close
    let (others, depot) := closeAll depot rest
    (failures.getD [] ++ others, depot)

/-- Closes every open database, in the order of their names; any other order would do as well. -/
def shutdown (catalog : Catalog) : ShutdownReport × Catalog :=
  let (failures, depot) := closeAll catalog.depot catalog.opened.values
  (⟨catalog.opened.keys, catalog.failures ++ failures⟩,
    { catalog with opened := Table.empty, failures := [], depot })

/-- The description of a catalog. -/
def description (catalog : Catalog) : String :=
  describe "EngineRegistry"
    [("engines", describeTexts catalog.engines.keys),
      ("databases", describeTexts catalog.opened.keys)] true

end Catalog

end RecordBase
