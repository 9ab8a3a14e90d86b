import RecordBase.Cluster

/-!
# Entries of the log

The log of a database is the sequence of its changes. Replaying them from the start rebuilds the
database.
-/

namespace RecordBase

/-- What stands at a position of a physical cluster. -/
structure Slot where
  /-- The cluster through which the record is addressed. -/
  owner : Int16
  version : Int32
  type : RecordType
  content : Bytes
  deriving DecidableEq, Repr

/-- The record in a slot, under the identity by which its owner addresses it. -/
def Slot.record (slot : Slot) (id : RecordId) : Record :=
  ⟨id, slot.version, slot.type, slot.content⟩

/-- One change of a database. -/
inductive LogEntry where
  /-- A cluster joined the directory. -/
  | clusterAdded (cluster : Cluster)
  /-- A record was written at a position of a physical cluster. -/
  | recordPut (place : RecordId) (slot : Slot)
  /-- The record at a position of a physical cluster went. -/
  | recordRemoved (place : RecordId)
  /-- A key of the dictionary was bound. -/
  | keyBound (key : String) (id : RecordId)
  /-- A key of the dictionary was freed. -/
  | keyRemoved (key : String)
  deriving DecidableEq, Repr

end RecordBase
