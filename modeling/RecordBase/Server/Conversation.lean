import RecordBase.Server.Host
import RecordBase.Server.Location
import RecordBase.Server.Session
import RecordBase.Wire.Response

/-!
# Carrying out requests

A conversation is a session with what all sessions share. A request is carried out in this order:
its operands are looked at, the session must have an open database if one is needed, its user must
be permitted to do what is asked, and then the database is asked.
-/

namespace RecordBase

open Wire (Request Response CommandMode CommandResult)

/-- A session with what it shares with others. -/
structure Conversation where
  host : Host
  session : Session

namespace Conversation

/-- The number of the session's database, if that is open. -/
def openNumber (talk : Conversation) : Except ServerError Nat :=
  match talk.session.database with
  | some number =>
    if talk.host.catalog.depot.isOpen number then .ok number else .error .noDatabase
  | none => .error .noDatabase

/-- The number of the session's database, if that is open and the user is permitted an access. -/
def permitted (talk : Conversation) (resource : Resource) (access : Access) :
    Except ServerError Nat := do
  let number ← talk.openNumber
  (talk.session.authorize resource access).mapError .access
  return number

/-- Does something with the database that has a number. -/
def run {α : Type} (talk : Conversation) (number : Nat)
    (action : Database → Except ServerError α × Database) : Except ServerError α × Conversation :=
  let (answer, catalog) := talk.host.catalog.run number action
  (answer.getD (.error .noDatabase), { talk with host := { talk.host with catalog } })

/-- Does something with the session's database, for which the user needs a permission. -/
def onDatabase {α : Type} (talk : Conversation) (resource : Resource) (access : Access)
    (action : Database → Except ServerError α × Database) : Except ServerError α × Conversation :=
  match talk.permitted resource access with
  | .error error => (.error error, talk)
  | .ok number => talk.run number action

/-- Does something with the store of the session's database. -/
def onStore {α : Type} (talk : Conversation) (resource : Resource) (access : Access)
    (wrap : α → Response) (action : Store → Except Error α × Store) :
    Except ServerError Response × Conversation :=
  talk.onDatabase resource access fun database =>
    let (result, store) := action database.store
    ((result.map wrap).mapError .database, { database with store })

/-- Looks at the store of the session's database. -/
def look {α : Type} (talk : Conversation) (resource : Resource) (access : Access)
    (wrap : α → Response) (view : Store → Except Error α) :
    Except ServerError Response × Conversation :=
  talk.onStore resource access wrap fun store => (view store, store)

/-- Works on the database with a number from now on. -/
def bind (talk : Conversation) (number : Nat) : Conversation :=
  { talk with session := { talk.session with database := some number } }

/-! ## Users and databases -/

/-- Authenticates the user of the session. -/
def connect [Hashing] (talk : Conversation) (user password : String) :
    Except ServerError Response × Conversation :=
  match talk.host.accounts.authenticate user password with
  | .error error => (.error (.access error), talk)
  | .ok principal =>
    (.ok (.session talk.session.id),
      { talk with session := { talk.session with principal := some principal } })

/-- The user with a name and a password, if that one may open databases. -/
def opener [Hashing] (talk : Conversation) (user password : String) : Except AccessError Principal := do
  let principal ← talk.host.accounts.authenticate user password
  principal.check .database .read
  return principal

/-- The names and ids of the clusters of a database. -/
def clusterEntries (store : Store) : List (String × Int32) :=
  store.clusters.map fun cluster => (cluster.name, cluster.id.toInt32)

/-- Authenticates the user of the session and opens a database. -/
def openDatabase [Hashing] (talk : Conversation) (url user password : String) :
    Except ServerError Response × Conversation :=
  match talk.opener user password with
  | .error error => (.error (.access error), talk)
  | .ok principal =>
    let (result, catalog) := talk.host.catalog.openDatabase (databaseNameAt url)
    let talk := { talk with host := { talk.host with catalog } }
    match result with
    | .error error => (.error (.database error), talk)
    | .ok number =>
      let entered := { talk with session := { talk.session with principal := some principal } }
      (entered.bind number).run number fun database =>
        (.ok (.opened talk.session.id (clusterEntries database.store)), database)

/-- Makes a database and works on it from now on. -/
def createDatabase (talk : Conversation) (name mode : String) :
    Except ServerError Response × Conversation :=
  match talk.session.authorize .server .create with
  | .error error => (.error (.access error), talk)
  | .ok () =>
    let (result, catalog) := talk.host.catalog.create name mode
    let talk := { talk with host := { talk.host with catalog } }
    match result with
    | .error error => (.error (.database error), talk)
    | .ok number => (.ok .done, talk.bind number)

/-- Leaves the session's database. -/
def closeDatabase (talk : Conversation) : Except ServerError Response × Conversation :=
  (.ok .done, { talk with session := { talk.session with database := none } })

/-- Whether the session's database is in the catalog. -/
def databaseExists (talk : Conversation) : Except ServerError Response × Conversation :=
  talk.onDatabase .database .read fun database =>
    (.ok (.truth (talk.host.catalog.has database.name)), database)

/-! ## Commands -/

/-- The response to a command, in the form that the client asked for. -/
def commandResponse (mode : CommandMode) (request : CommandRequest) (output : CommandOutput) :
    Response :=
  match mode, request.maxResults? with
  | .single, _ => .result (.ofOutput output)
  | .stream, some limit => .stream (output.toRecords.take limit)
  | .stream, none => .stream output.toRecords

/-- Carries out a command. -/
def command (talk : Conversation) (mode : CommandMode) (request : CommandRequest) :
    Except ServerError Response × Conversation :=
  match talk.permitted .command .read with
  | .error error => (.error error, talk)
  | .ok number =>
    let noted := { talk with session := { talk.session with lastCommand := some request.text } }
    noted.run number fun database =>
      let (result, store) := database.store.execute request
      ((result.map (commandResponse mode request)).mapError .command, { database with store })

/-! ## The dictionary -/

/-- The record with an identity; nothing if the record or its cluster is gone. -/
def readBound (store : Store) : Option RecordId → Except Error (Option Record) × Store
  | none => (.ok none, store)
  | some id =>
    match store.read id with
    | (.error (.clusterNotFound _), store) => (.ok none, store)
    | answer => answer

/-- Changes the dictionary and reads the record that a key was bound to. -/
def thenReadBound (change : Store → Except Error (Option RecordId) × Store) (store : Store) :
    Except Error (Option Record) × Store :=
  match change store with
  | (.error error, store) => (.error error, store)
  | (.ok previous, store) => readBound store previous

/-- Binds a key to the record whose identity has a text. -/
def bindKey (talk : Conversation) (key identity : String) :
    Except ServerError Response × Conversation :=
  match RecordId.parse? identity with
  | none => (.error (.database (.malformedIdentity identity)), talk)
  | some id => talk.onStore .dictionary .update .frame (thenReadBound (·.bind key id))

/-! ## Batches -/

/-- What a batch is fed with when its entries have been read. -/
def batchItems (entries : List BatchEntry) (failure : Option WireError) :
    List (Item WireError) :=
  entries.map .entry ++ failure.toList.map .failure

/-- The result of a batch. -/
def batchResult : Reply WireError → Except ServerError Response
  | .commit (.ok outcome) _ _ => .ok (.outcome outcome)
  | .commit (.error (.store error)) _ _ => .error (.database error)
  | .commit (.error (.source error)) _ _ => .error (.wire error)
  | .answer _ => .error .noDatabase

/-- Carries out a batch. -/
def commit (talk : Conversation) (number : Int32) (entries : List BatchEntry)
    (failure : Option WireError) : Except ServerError Response × Conversation :=
  talk.onDatabase .record .update fun database =>
    let (reply, database) := (Step.commit number (batchItems entries failure)).run database
    (batchResult reply, database)

/-! ## All requests -/

/-- A whole number as it is sent. -/
def long (value : Int) : Response := .number (Int64.ofInt value)

/-- The number of keys as it is sent: one that is too great is sent as the greatest that there is. -/
def size (count : Nat) : Response := .size (Int32.ofNat (min count 2147483647))

/-- Carries out a request. -/
def perform [Hashing] (talk : Conversation) : Request → Except ServerError Response × Conversation
  | .connect user password => talk.connect user password
  | .openDatabase url user password => talk.openDatabase url user password
  | .createDatabase name mode => talk.createDatabase name mode
  | .closeDatabase => talk.closeDatabase
  | .databaseExists => talk.databaseExists
  | .addPhysicalCluster name file size =>
    talk.onStore .database .update .cluster (·.addPhysical name file size)
  | .addLogicalCluster name container =>
    talk.onStore .database .update (fun added => .logicalCluster added.1 added.2)
      (·.addLogical name container)
  | .countClusters ids => talk.look .cluster .read long (·.count ids)
  | .loadRecord id => talk.onStore .record .read .loaded (·.read id)
  | .createRecord cluster content type =>
    talk.onStore .record .create (fun record => .position record.id.position)
      (·.create cluster content type)
  | .updateRecord id content version type =>
    talk.onStore .record .update .version (·.update id content version type)
  | .deleteRecord id version =>
    talk.onStore .record .delete (fun () => .done) (·.delete id version)
  | .countNamed cluster => talk.look .cluster .read long (·.countNamed cluster)
  | .command mode request => talk.command mode request
  | .lookupKey key =>
    talk.onStore .dictionary .read .frame fun store => readBound store (store.lookup? key)
  | .bindKey key _ identity => talk.bindKey key identity
  | .unbindKey key => talk.onStore .dictionary .delete .frame (thenReadBound (·.unbind key))
  | .countKeys =>
    talk.look .dictionary .read size fun store => .ok store.contents.dictionary.size
  | .listKeys =>
    talk.look .dictionary .read .keys fun store => .ok store.contents.dictionary.keys
  | .commit number entries failure => talk.commit number entries failure

end Conversation

end RecordBase
