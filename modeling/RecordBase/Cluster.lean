import RecordBase.Record.Basic

/-!
# Clusters

A cluster groups records under a name. A physical cluster has positions of its own; a logical one
keeps its records at positions of its container, where a descriptor record announces it.
-/

namespace RecordBase

/-- Where the records of a cluster are kept. -/
inductive ClusterKind where
  /-- At positions of its own; `file` and `size` are kept for the client that gave them. -/
  | physical (file : Option String) (size : Int32)
  /-- At positions of `container`, which holds the record `descriptor`. -/
  | logical (container : Int16) (descriptor : RecordId)
  deriving DecidableEq, Repr

/-- Whether a cluster of this kind lives inside another one. -/
def ClusterKind.isLogical : ClusterKind → Bool
  | .physical _ _ => false
  | .logical _ _ => true

/-- A named group of records. -/
structure Cluster where
  id : Int16
  name : String
  kind : ClusterKind
  deriving DecidableEq, Repr

/-- The cluster at whose positions the records are kept. -/
def Cluster.storage (cluster : Cluster) : Int16 :=
  match cluster.kind with
  | .physical _ _ => cluster.id
  | .logical container _ => container

end RecordBase
