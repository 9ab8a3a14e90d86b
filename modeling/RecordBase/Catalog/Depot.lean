import RecordBase.Catalog.Disk
import RecordBase.Database.Operation

/-!
# Databases in use

Handles on databases, and the disk behind those that are kept in files. Handles on one file share
its bytes: what one of them writes is there for the others.

A directory can be locked by one handle at a time. A handle on a database unlocks its directory
when the database is closed or the handle is given up.
-/

namespace RecordBase

open Files (Place)

namespace Database

/-- What the file of a database's log holds, if it is kept in a file. -/
def file? (database : Database) : Option Bytes :=
  match database.store.journal.medium with
  | .file log => some log.bytes
  | .memory _ => none

/-- A database whose file holds the given bytes. The length of its log stays what it was. -/
def withFile (database : Database) (bytes : Bytes) : Database :=
  match database.store.journal.medium with
  | .file log =>
    let journal := { database.store.journal with medium := .file { log with bytes } }
    { database with store := { database.store with journal } }
  | .memory _ => database

end Database

/-- Something in use. -/
inductive Handle where
  /-- A database, with its directory if it has one, and whether it keeps that locked. -/
  | database (database : Database) (home : Option Place) (locks : Bool)
  /-- The directory of a database, without the database. -/
  | directory (home : Place)

namespace Handle

/-- The directory of a handle. -/
def home? : Handle → Option Place
  | database _ home _ => home
  | directory home => some home

/-- The directory that a handle keeps locked. -/
def held? : Handle → Option Place
  | database _ home locks => if locks then home else none
  | directory home => some home

end Handle

/-- The handles in use by number, and the disk. -/
structure Depot where
  disk : Disk
  /-- The directories that are locked. -/
  locked : List Place := []
  handles : Table Nat Handle := Table.empty
  /-- The number of the next handle. -/
  next : Nat := 0
  /-- The calls of listeners that nobody has collected yet. -/
  notices : List Notice := []

namespace Depot

/-! ## Locks -/

/-- Locks a directory, which must not be locked. -/
def lock (depot : Depot) (home : Place) : Except Error Unit × Depot :=
  match depot.disk.openLock home with
  | (.error error, disk) => (.error error, { depot with disk })
  | (.ok (), disk) =>
    if depot.locked.contains home then (.error .databaseLocked, { depot with disk })
    else (.ok (), { depot with disk, locked := home :: depot.locked })

/-- Unlocks a directory, if one is given. -/
def unlock (depot : Depot) : Option Place → Depot
  | some home => { depot with locked := depot.locked.erase home }
  | none => depot

/-! ## Handles -/

/-- Puts a handle to use and returns its number. -/
def add (depot : Depot) (handle : Handle) : Nat × Depot :=
  (depot.next,
    { depot with handles := depot.handles.insert depot.next handle, next := depot.next + 1 })

/-- Gives up the handle with a number. -/
def giveUp (depot : Depot) (number : Nat) : Depot :=
  match depot.handles.get? number with
  | some handle =>
    { depot with handles := depot.handles.erase number }.unlock handle.held?
  | none => depot

/-- Gives up the handles whose numbers are not to be kept. -/
def retain (depot : Depot) (keep : List Nat) : Depot :=
  (depot.handles.keys.filter fun number => !keep.contains number).foldl giveUp depot

/-- The database with a number, with its file as it now is. -/
def database? (depot : Depot) (number : Nat) : Option Database :=
  match depot.handles.get? number with
  | some (.database db home _) => some (db.withFile ((home.bind depot.disk.log?).getD []))
  | _ => none

/-- Writes the file of a database in its directory, if it has one. -/
def writeFile (depot : Depot) (home : Option Place) (database : Database) : Depot :=
  match home, database.file? with
  | some home, some bytes => { depot with disk := depot.disk.writeLog home bytes }
  | _, _ => depot

/-- Puts a changed database in the place of the one in a handle. One that has been closed unlocks
its directory. -/
def replace (depot : Depot) (number : Nat) (handle : Handle) (database : Database) : Depot :=
  let kept := { database with notices := [] }
  if database.isOpen then
    let handle := .database kept handle.home? handle.held?.isSome
    { depot with handles := depot.handles.insert number handle }
  else
    let closed := .database kept handle.home? false
    { depot with handles := depot.handles.insert number closed }.unlock handle.held?

/-- Keeps a changed database: its file is written, and the calls of its listeners are collected. -/
def put (depot : Depot) (number : Nat) (database : Database) : Depot :=
  match depot.handles.get? number with
  | some handle =>
    let depot := (depot.writeFile handle.home? database).replace number handle database
    { depot with notices := depot.notices ++ database.notices }
  | none => depot

/-- Does something with the database that has a number. -/
def run {α : Type} (depot : Depot) (number : Nat) (action : Database → α × Database) :
    Option α × Depot :=
  match depot.database? number with
  | none => (none, depot)
  | some database =>
    let (answer, database) := action database
    (some answer, depot.put number database)

/-- Whether the database with a number is open. -/
def isOpen (depot : Depot) (number : Nat) : Bool :=
  match depot.database? number with
  | some database => database.isOpen
  | none => false

/-! ## Opening -/

/-- Sees to it that there is a directory under a name, and locks it. -/
def enter (depot : Depot) (name : String) (create : Bool) : Except Error Place × Depot :=
  match depot.disk.provide name create with
  | (.error error, disk) => (.error error, { depot with disk })
  | (.ok home, disk) =>
    let (result, depot) := { depot with disk }.lock home
    (result.map fun () => home, depot)

/-- Locks a directory without opening the database in it. -/
def openDirectory (depot : Depot) (name : String) (create : Bool) : Except Error Nat × Depot :=
  match depot.enter name create with
  | (.error error, depot) => (.error error, depot)
  | (.ok home, depot) =>
    let (number, depot) := depot.add (.directory home)
    (.ok number, depot)

/-- Opens the database with a log in a directory that has been locked. If that fails the directory
is unlocked, and its log is left as far as it came. -/
def openLog (depot : Depot) (settings : Settings) (name : String) (home : Place) (log : Bytes) :
    Except Error Nat × Depot :=
  let (result, medium) := Database.ofMedium name .directory settings (.file (.ofFile log))
  let depot := { depot with disk := depot.disk.writeLog home medium.bytes }
  match result with
  | .error error => (.error error, depot.unlock (some home))
  | .ok database =>
    let (number, depot) := depot.add (.database database (some home) true)
    (.ok number, depot)

/-- Opens the database in a directory. -/
def openStored (depot : Depot) (settings : Settings) (name : String) (create : Bool) :
    Except Error Nat × Depot :=
  match depot.enter name create with
  | (.error error, depot) => (.error error, depot)
  | (.ok home, depot) =>
    match depot.disk.openLog home with
    | (.error error, disk) => (.error error, { depot with disk }.unlock (some home))
    | (.ok log, disk) => { depot with disk }.openLog settings name home log

/-- Opens a new database in memory. -/
def openMemory (depot : Depot) (settings : Settings) (name : String) :
    Except Error Nat × Depot :=
  match (Database.ofMedium name .memory settings (.memory ⟨[]⟩)).1 with
  | .error error => (.error error, depot)
  | .ok database =>
    let (number, depot) := depot.add (.database database none false)
    (.ok number, depot)

/-! ## Ways to keep databases -/

/-- Makes a new database that is kept in a certain way. -/
def createBy (depot : Depot) (settings : Settings) (name : String) :
    StorageMode → Except Error Nat × Depot
  | .memory => depot.openMemory settings name
  | .directory =>
    if depot.disk.isDatabase name then (.error (.databaseExists name), depot)
    else depot.openStored settings name true

/-- Opens a database that is kept in a certain way, if there is one. -/
def openBy (depot : Depot) (settings : Settings) (name : String) :
    StorageMode → Except Error (Option Nat) × Depot
  | .memory => (.ok none, depot)
  | .directory =>
    if !depot.disk.isDatabase name then (.ok none, depot)
    else
      let (result, depot) := depot.openStored settings name false
      (result.map some, depot)

/-- Whether a database of some name is kept in a certain way. -/
def keepsBy (depot : Depot) (name : String) : StorageMode → Bool
  | .memory => false
  | .directory => depot.disk.isDatabase name

end Depot

end RecordBase
