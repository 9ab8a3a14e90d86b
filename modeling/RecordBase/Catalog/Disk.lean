import RecordBase.Error
import RecordBase.Files.Tree

/-!
# The directory of databases

Each database that is kept in files has a directory of its own, with the file of its log in it and
a file that is locked while the database is in use. The name of a database is a path from the
directory of databases to that of the database.
-/

namespace RecordBase

open Files (Path Place Refusal Tree)

/-- The directory of databases, and the files around it. -/
structure Disk where
  /-- The path of the directory. -/
  root : String
  tree : Tree := (Tree.provide {} (Path.ofText root)).2

namespace Disk

/-- The name of the file of a log. -/
def logName : String := "segments.dat"

/-- The name of the file that is locked. -/
def lockName : String := "LOCK"

/-- The path of the directory under a name. -/
def path (disk : Disk) (name : String) : String := Path.join disk.root name

/-- Where a name leads. -/
def find (disk : Disk) (name : String) : Except Refusal Place := do
  disk.tree.follow [] (← Path.parse (disk.path name))

/-! ## Logs -/

/-- The log in a directory. -/
def log? (disk : Disk) (place : Place) : Option Bytes := disk.tree.file? (logName :: place)

/-- The log under a name. -/
def logUnder? (disk : Disk) (name : String) : Option Bytes :=
  match disk.find name with
  | .ok place => disk.log? place
  | .error _ => none

/-- Whether a database is kept under a name. -/
def isDatabase (disk : Disk) (name : String) : Bool := (disk.logUnder? name).isSome

/-- Writes the log in a directory. -/
def writeLog (disk : Disk) (place : Place) (bytes : Bytes) : Disk :=
  { disk with tree := disk.tree.writeFile bytes (logName :: place) }

/-- Opens the log in a directory; a missing one is made and is empty. -/
def openLog (disk : Disk) (place : Place) : Except Error Bytes × Disk :=
  let (result, tree) := disk.tree.openFile (logName :: place)
  (result.mapError fun refusal => .medium (.system refusal), { disk with tree })

/-- Opens the file that is locked in a directory. -/
def openLock (disk : Disk) (place : Place) : Except Error Unit × Disk :=
  let (result, tree) := disk.tree.openFile (lockName :: place)
  ((result.map fun _ => ()).mapError .system, { disk with tree })

/-! ## Directories -/

/-- Makes the directories that are missing on the way to a name. -/
def make (disk : Disk) (name : String) : Except Refusal Place × Disk :=
  match Path.parse (disk.path name) with
  | .error refusal => (.error refusal, disk)
  | .ok path =>
    let (result, tree) := disk.tree.provide path
    (result, { disk with tree })

/-- Sees to it that there is a directory under a name; makes it only if asked to. -/
def provide (disk : Disk) (name : String) (create : Bool) : Except Error Place × Disk :=
  match disk.find name with
  | .ok place =>
    if disk.tree.isDirectory place then (.ok place, disk)
    else (.error (.invalidOperation (.notADirectory (disk.path name))), disk)
  | .error _ =>
    if create then
      let (result, disk) := disk.make name
      (result.mapError .system, disk)
    else (.error (.databaseNotFound (disk.path name)), disk)

/-! ## What is put there by hand -/

/-- Puts a log under a name. -/
def putLog (disk : Disk) (name : String) (bytes : Bytes) : Disk :=
  match disk.make name with
  | (.ok place, disk) => disk.writeLog place bytes
  | (.error _, disk) => disk

/-- Drops the last bytes of the log under a name. -/
def cutLog (disk : Disk) (name : String) (count : Nat) : Disk :=
  match disk.find name with
  | .ok place =>
    match disk.log? place with
    | some bytes => disk.writeLog place (bytes.take (bytes.length - count))
    | none => disk
  | .error _ => disk

/-- Puts a file under a name. -/
def putFile (disk : Disk) (name : String) (bytes : Bytes) : Disk :=
  match Path.parse (disk.path name) with
  | .ok path => { disk with tree := disk.tree.writeAlong path bytes }
  | .error _ => disk

end Disk

end RecordBase
