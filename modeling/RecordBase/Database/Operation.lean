import RecordBase.Command.Query
import RecordBase.Database.Description

/-!
# Operations on a database

Everything that can be asked of an open database, as data: single operations, and batches between
whose entries other operations may run. `Operation.run` and `Step.run` carry them out.
-/

namespace RecordBase

/-! ## Single operations -/

/-- A single operation. -/
inductive Operation where
  | create (cluster : Int16) (content : Bytes) (type : RecordType)
  | read (id : RecordId)
  | readUncached (id : RecordId)
  | update (id : RecordId) (content : Bytes) (version : Int32) (type : RecordType)
  | delete (id : RecordId) (version : Int32)
  | scan (cluster : Int16)
  | count (clusters : List Int16)
  | countNamed (name : String)
  | clusterId (name : String)
  | clusterName (id : Int16)
  | clusterInfo (id : Int16)
  | clusterList
  | defaultCluster
  | addPhysical (name : String) (file : Option String) (size : Int32)
  | addLogical (name : String) (container : Int32)
  | lookup (key : String)
  | bind (key : String) (id : RecordId)
  | unbind (key : String)
  | keys
  | stats
  | cacheSize
  | clearCache
  | execute (request : CommandRequest)
  | flush
  | sync
  | ensureOpen
  | isOpen
  | info
  | settings
  | descriptions
  | close
  | notify (event : LifecycleEvent)
  deriving Repr

/-- The answer to a single operation. -/
inductive Answer where
  | done
  | failed (error : Error)
  | record (record : Record)
  | record? (record : Option Record)
  | records (records : List Record)
  | version (version : Int32)
  | number (value : Int)
  | clusterId? (id : Option Int16)
  | name? (name : Option String)
  | cluster? (cluster : Option Cluster)
  | clusters (clusters : List Cluster)
  | logicalAdded (id : Int16) (descriptor : RecordId)
  | identity? (id : Option RecordId)
  | keys (keys : List String)
  | stats (stats : Stats)
  | cacheSize (sizeAndCapacity : Option (Nat × Nat))
  | output (output : CommandOutput)
  | commandFailed (error : CommandError)
  | truth (value : Bool)
  | info (name : String) (mode : StorageMode)
  | settings (settings : Settings)
  | descriptions (texts : List String)
  | failures (failures : List Failure)
  deriving Repr

namespace Answer

/-- The answer made of a result. -/
def ofResult {α : Type} (wrap : α → Answer) : Except Error α → Answer
  | .ok value => wrap value
  | .error error => failed error

end Answer

namespace Database

/-- An operation that leaves the database as it is. -/
def look (database : Database) (answer : Answer) : Answer × Database := (answer, database)

/-- An operation on the store. -/
def onStore {α : Type} (database : Database) (wrap : α → Answer)
    (operation : Store → Except Error α × Store) : Answer × Database :=
  let (result, store) := operation database.store
  (.ofResult wrap result, { database with store })

end Database

/-- Carries out a single operation. -/
def Operation.run (database : Database) : Operation → Answer × Database
  | create cluster content type =>
    database.onStore .record (·.create cluster content type)
  | read id => database.onStore .record? (·.read id)
  | readUncached id => database.onStore .record? (·.readUncached id)
  | update id content version type =>
    database.onStore .version (·.update id content version type)
  | delete id version => database.onStore (fun () => .done) (·.delete id version)
  | scan cluster => database.look (.ofResult .records (database.store.scan cluster))
  | count clusters => database.look (.ofResult .number (database.store.count clusters))
  | countNamed name => database.look (.ofResult .number (database.store.countNamed name))
  | clusterId name => database.look (.clusterId? (database.store.clusterNamed? name))
  | clusterName id => database.look (.name? ((database.store.cluster? id).map (·.name)))
  | clusterInfo id => database.look (.cluster? (database.store.cluster? id))
  | clusterList => database.look (.clusters database.store.clusters)
  | defaultCluster =>
    database.look (.ofResult (.number ·.toInt) database.store.defaultClusterId)
  | addPhysical name file size =>
    database.onStore (.number ·.toInt) (·.addPhysical name file size)
  | addLogical name container =>
    database.onStore (fun added => .logicalAdded added.1 added.2) (·.addLogical name container)
  | lookup key => database.look (.identity? (database.store.lookup? key))
  | bind key id => database.onStore .identity? (·.bind key id)
  | unbind key => database.onStore .identity? (·.unbind key)
  | keys => database.look (.keys database.store.contents.dictionary.keys)
  | stats => database.look (.stats database.store.stats)
  | cacheSize =>
    database.look (.cacheSize (database.store.cache.map fun cache => (cache.size, cache.capacity)))
  | clearCache => (.done, { database with store := database.store.clearCache })
  | execute request =>
    match database.store.execute request with
    | (.ok output, store) => (.output output, { database with store })
    | (.error error, store) => (.commandFailed error, { database with store })
  | flush => database.look (.ofResult (fun () => .done) database.store.flush)
  | sync => database.onStore (fun () => .done) (·.sync)
  | ensureOpen => database.look (.ofResult (fun () => .done) database.ensureOpen)
  | isOpen => database.look (.truth database.isOpen)
  | info => database.look (.info database.name database.mode)
  | settings => database.look (.settings database.settings)
  | descriptions =>
    database.look (.descriptions
      [database.description, database.store.description, database.store.dictionaryDescription])
  | close =>
    let (failures, database) := database.close
    (.failures failures, database)
  | notify event =>
    let (failures, database) := database.notify event
    (.failures failures, database)

/-! ## Batches -/

/-- Why a batch was undone. -/
inductive CommitError (ε : Type) where
  /-- An entry failed. -/
  | store (error : Error)
  /-- The next entry could not be had. -/
  | source (cause : ε)
  deriving DecidableEq, Repr

mutual

/-- An operation or a batch; `ε` tells why a batch's next entry cannot be had. -/
inductive Step (ε : Type) where
  | operation (operation : Operation)
  | commit (number : Int32) (items : List (Item ε))

/-- What a batch is fed with. -/
inductive Item (ε : Type) where
  /-- An entry. -/
  | entry (entry : BatchEntry)
  /-- The entry could not be had. -/
  | failure (cause : ε)
  /-- Something else happens to the database before the next entry is had. -/
  | step (step : Step ε)

end

/-- The answer to a step. A batch also tells the answers of the steps that ran between its entries,
and how many entries and failures it took. -/
inductive Reply (ε : Type) where
  | answer (answer : Answer)
  | commit (result : Except (CommitError ε) Outcome) (inner : List (Reply ε)) (pulled : Nat)

/-- How far a batch has come. -/
structure CommitState (ε : Type) where
  batch : Batch
  /-- The answers of the steps between entries, the last one first. -/
  inner : List (Reply ε) := []
  /-- Entries and failures taken. -/
  pulled : Nat := 0

namespace Database

variable {ε : Type}

/-- Undoes a batch. -/
def abort (database : Database) (state : CommitState ε) (error : CommitError ε) :
    Reply ε × Database :=
  (.commit (.error error) state.inner.reverse state.pulled,
    { database with store := state.batch.rollback database.store })

/-- Keeps a batch. -/
def keep (database : Database) (state : CommitState ε) : Reply ε × Database :=
  let (outcome, store) := state.batch.keep database.store
  (.commit (.ok outcome) state.inner.reverse state.pulled, { database with store })

end Database

mutual

/-- Carries out an operation or a batch. -/
def Step.run {ε : Type} (database : Database) : Step ε → Reply ε × Database
  | .operation operation =>
    let (answer, database) := operation.run database
    (.answer answer, database)
  | .commit number items =>
    match database.ensureOpen with
    | .error error => (.commit (.error (.store error)) [] 0, database)
    | .ok () => Item.runAll database { batch := Batch.start number } items

/-- Feeds a batch until it fails or nothing is left. -/
def Item.runAll {ε : Type} (database : Database) (state : CommitState ε) :
    List (Item ε) → Reply ε × Database
  | [] => database.keep state
  | .entry entry :: rest =>
    let state := { state with pulled := state.pulled + 1 }
    match state.batch.apply database.store entry with
    | (.error error, store) => { database with store }.abort state (.store error)
    | (.ok batch, store) => Item.runAll { database with store } { state with batch } rest
  | .failure cause :: _ =>
    database.abort { state with pulled := state.pulled + 1 } (.source cause)
  | .step step :: rest =>
    let (reply, database) := step.run database
    Item.runAll database { state with inner := reply :: state.inner } rest

end

end RecordBase
