import RecordBase.Error
import RecordBase.Log.Entry
import RecordBase.Table

/-!
# What a database holds

The clusters with their names, the slots of each container, and the dictionary. Every change is an
entry of the log, and `apply` gives the effect of one, so a database that applies what it appends
holds at any time what replaying its log gives.
-/

namespace RecordBase

/-! ## Containers -/

/-- The positions that a physical cluster shares with the logical clusters inside it. -/
structure Container where
  /-- The slots in use. -/
  slots : Table Int64 Slot := Table.empty
  /-- The position of the next record. -/
  nextPosition : Int := 0
  /-- How many slots each cluster owns. -/
  owned : Table Int16 Int := Table.empty

namespace Container

/-- The slot at a position, if a cluster owns it. -/
def ownedSlot? (container : Container) (owner : Int16) (position : Int64) : Option Slot :=
  (container.slots.get? position).filter fun slot => slot.owner = owner

/-- How many slots a cluster owns. -/
def count (container : Container) (owner : Int16) : Int := (container.owned.get? owner).getD 0

/-- Adds to the number of slots that a cluster owns. -/
def adjust (container : Container) (owner : Int16) (change : Int) : Container :=
  { container with owned := container.owned.insert owner (container.count owner + change) }

/-- Fills a slot, whatever it held. -/
def put (container : Container) (position : Int64) (slot : Slot) : Container :=
  let freed := match container.slots.get? position with
    | some old => container.adjust old.owner (-1)
    | none => container
  let filled := freed.adjust slot.owner 1
  { filled with
    slots := filled.slots.insert position slot
    nextPosition := max filled.nextPosition (position.toInt + 1) }

/-- Frees a slot. -/
def remove (container : Container) (position : Int64) : Container :=
  match container.slots.get? position with
  | some old =>
    let freed := container.adjust old.owner (-1)
    { freed with slots := freed.slots.erase position }
  | none => container

end Container

/-! ## The directory -/

/-- A cluster of the directory, with the number of the container that keeps its records. -/
structure Listing where
  cluster : Cluster
  home : Nat
  deriving DecidableEq, Repr

/-- Everything that is rebuilt from the log. -/
structure Contents where
  /-- The clusters by id. -/
  clusters : Table Int16 Listing := Table.empty
  /-- The ids of the clusters by name. -/
  names : Table String Int16 := Table.empty
  /-- The containers, in the order in which their clusters were added. -/
  containers : List Container := []
  /-- The records bound to keys. -/
  dictionary : Table String RecordId := Table.empty

namespace Contents

/-- The container with a number. -/
def container (contents : Contents) (home : Nat) : Container :=
  contents.containers.getD home ({} : Container)

/-- Changes the container with a number. -/
def changeContainer (contents : Contents) (home : Nat) (change : Container → Container) :
    Contents :=
  { contents with containers := contents.containers.modify home change }

/-- Fills a slot of a container. -/
def putSlot (contents : Contents) (home : Nat) (position : Int64) (slot : Slot) : Contents :=
  contents.changeContainer home (·.put position slot)

/-- Frees a slot of a container. -/
def removeSlot (contents : Contents) (home : Nat) (position : Int64) : Contents :=
  contents.changeContainer home (·.remove position)

/-- Lists a cluster whose records are kept in a container. -/
def list (contents : Contents) (cluster : Cluster) (home : Nat) : Contents :=
  { contents with
    clusters := contents.clusters.insert cluster.id ⟨cluster, home⟩
    names := contents.names.insert cluster.name cluster.id }

/-- Lists a cluster with a new container of its own. -/
def listWithContainer (contents : Contents) (cluster : Cluster) : Contents :=
  let home := contents.containers.length
  { contents with containers := contents.containers ++ [({} : Container)] }.list cluster home

/-- Adds a cluster: a physical one with a new container, a logical one in that of another. -/
def addCluster (contents : Contents) (cluster : Cluster) : Except Error Contents :=
  match cluster.kind with
  | .physical _ _ => .ok (contents.listWithContainer cluster)
  | .logical container _ =>
    match contents.clusters.get? container with
    | some listing => .ok (contents.list cluster listing.home)
    | none => .error (.noCluster container)

/-- Binds a key of the dictionary. -/
def bindKey (contents : Contents) (key : String) (id : RecordId) : Contents :=
  { contents with dictionary := contents.dictionary.insert key id }

/-- Frees a key of the dictionary. -/
def removeKey (contents : Contents) (key : String) : Contents :=
  { contents with dictionary := contents.dictionary.erase key }

/-- The effect of an entry of the log. -/
def apply (contents : Contents) : LogEntry → Except Error Contents
  | .clusterAdded cluster => contents.addCluster cluster
  | .recordPut place slot =>
    match contents.clusters.get? place.cluster with
    | some listing => .ok (contents.putSlot listing.home place.position slot)
    | none => .error (.damaged (.orphanRecord place))
  | .recordRemoved place =>
    match contents.clusters.get? place.cluster with
    | some listing => .ok (contents.removeSlot listing.home place.position)
    | none => .ok contents
  | .keyBound key id => .ok (contents.bindKey key id)
  | .keyRemoved key => .ok (contents.removeKey key)

/-- The effect of some entries, one after another. -/
def applyAll (contents : Contents) : List LogEntry → Except Error Contents
  | [] => .ok contents
  | entry :: rest =>
    match contents.apply entry with
    | .ok next => next.applyAll rest
    | .error error => .error error

end Contents

end RecordBase
