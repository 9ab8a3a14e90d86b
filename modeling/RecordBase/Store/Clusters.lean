import RecordBase.Store.Basic
import RecordBase.Text.Blank

/-!
# Adding clusters, and opening a store

Clusters get the ids zero, one, two and so on and are known by their names without outer blanks
and in lower case. A store whose log lists no cluster is new and gets the clusters of its settings.
-/

namespace RecordBase.Store

/-- The form in which a cluster's name is kept. -/
def normalName (name : String) : Except Error String :=
  let name := Text.lowercase (Text.trim name)
  if name.isEmpty then .error (.invalidOperation .blankClusterName) else .ok name

/-- The name of a new cluster, which must not be taken. -/
def freshName (store : Store) (name : String) : Except Error Unit :=
  if store.contents.names.contains name then .error (.clusterExists name) else .ok ()

/-- The id of the next cluster: one more than the greatest. -/
def nextClusterId (store : Store) : Except Error Int16 :=
  match store.contents.clusters.last? with
  | none => .ok 0
  | some (last, _) =>
    if last = Int16.maxValue then .error (.invalidOperation .clusterIdsExhausted)
    else .ok (last + 1)

/-- Adds a physical cluster under a normal name. -/
def addPhysicalNamed (store : Store) (name : String) (file : Option String) (size : Int32) :
    Except Error Int16 × Store :=
  match store.freshName name with
  | .error error => (.error error, store)
  | .ok () =>
    match store.nextClusterId with
    | .error error => (.error error, store)
    | .ok id =>
      let cluster : Cluster := ⟨id, name, .physical file size⟩
      match store.write (.clusterAdded cluster) (·.change (·.listWithContainer cluster)) with
      | (.error error, store) => (.error error, store)
      | (.ok (), store) => (.ok id, store)

/-- Adds a physical cluster and returns its id. -/
def addPhysical (store : Store) (name : String) (file : Option String) (size : Int32) :
    Except Error Int16 × Store :=
  match normalName name with
  | .error error => (.error error, store)
  | .ok name => store.addPhysicalNamed name file size

/-- The id of a container given as a number; a negative one stands for the default cluster. -/
def containerId (store : Store) (container : Int32) : Except Error Int16 :=
  if container < 0 then store.defaultClusterId
  else if container ≤ 32767 then .ok container.toInt16
  else .error (.clusterNotFound (Numeral.format container.toInt))

/-- The listing of a cluster that can contain others. -/
def physicalListing (store : Store) (id : Int16) : Except Error Listing :=
  match store.listing id with
  | .error error => .error error
  | .ok listing =>
    if listing.cluster.kind.isLogical then .error (.invalidOperation (.logicalContainer id))
    else .ok listing

/-- What a new logical cluster needs: its container, its id, and the place of its descriptor. -/
def logicalPlan (store : Store) (name : String) (container : Int32) :
    Except Error (Listing × Int16 × Int64) := do
  let containerId ← store.containerId container
  store.freshName name
  let listing ← store.physicalListing containerId
  let id ← store.nextClusterId
  let position ← store.nextPosition listing.home
  return (listing, id, position)

/-- Adds a logical cluster inside a container. The container gets a descriptor record first, and
then the directory its entry. Returns the new id and the identity of the descriptor. -/
def addLogical (store : Store) (name : String) (container : Int32) :
    Except Error (Int16 × RecordId) × Store :=
  match normalName name with
  | .error error => (.error error, store)
  | .ok name =>
    match store.logicalPlan name container with
    | .error error => (.error error, store)
    | .ok (listing, id, position) =>
      let owner := listing.cluster.id
      let descriptor : RecordId := ⟨owner, position⟩
      match store.writeSlot listing position ⟨owner, 0, .document, Bytes.ofText name⟩ with
      | (.error error, store) => (.error error, store)
      | (.ok (), store) =>
        let cluster : Cluster := ⟨id, name, .logical owner descriptor⟩
        match store.write (.clusterAdded cluster) (·.change (·.list cluster listing.home)) with
        | (.error error, store) => (.error error, store)
        | (.ok (), store) => (.ok (id, descriptor), store)

/-! ## The dictionary -/

/-- The record bound to a key. -/
def lookup? (store : Store) (key : String) : Option RecordId := store.contents.dictionary.get? key

/-- Binds a key and returns what it was bound to. -/
def bind (store : Store) (key : String) (id : RecordId) :
    Except Error (Option RecordId) × Store :=
  let previous := store.lookup? key
  match store.write (.keyBound key id) (·.change (·.bindKey key id)) with
  | (.error error, store) => (.error error, store)
  | (.ok (), store) => (.ok previous, store)

/-- Frees a key and returns what it was bound to. A free key is left alone. -/
def unbind (store : Store) (key : String) : Except Error (Option RecordId) × Store :=
  match store.lookup? key with
  | none => (.ok none, store)
  | some previous =>
    match store.write (.keyRemoved key) (·.change (·.removeKey key)) with
    | (.error error, store) => (.error error, store)
    | (.ok (), store) => (.ok (some previous), store)

/-! ## Opening -/

/-- Adds physical clusters one after another until one fails. -/
def addInitial (store : Store) : List String → Except Error Unit × Store
  | [] => (.ok (), store)
  | name :: rest =>
    match store.addPhysical name none (-1) with
    | (.error error, store) => (.error error, store)
    | (.ok _, store) => store.addInitial rest

/-- A store with the given contents over a journal. -/
def ofContents (settings : Settings) (victims : Nat → Nat) (journal : Journal)
    (contents : Contents) : Store where
  contents := contents
  journal := journal
  cache := if settings.useCache then some { capacity := settings.cacheCapacity, victims } else none
  defaultCluster := Text.lowercase settings.defaultCluster

/-- Opens a store over a journal. What the journal holds afterwards is returned also if opening
fails. -/
def ofJournal (settings : Settings) (victims : Nat → Nat) (journal : Journal) :
    Except Error Store × Journal :=
  match journal.replay with
  | .error error => (.error error, journal)
  | .ok (entries, journal) =>
    match ({} : Contents).applyAll entries with
    | .error error => (.error error, journal)
    | .ok contents =>
      let store := ofContents settings victims journal contents
      if contents.clusters.size ≠ 0 then (.ok store, journal)
      else match store.addInitial settings.initialClusters with
        | (.error error, store) => (.error error, store.journal)
        | (.ok (), store) => (.ok store, store.journal)

end RecordBase.Store
