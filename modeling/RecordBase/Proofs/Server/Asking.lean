import RecordBase.Proofs.Database.Run
import RecordBase.Server.Conversation

/-!
# Requests by way of operations

A request on the data of a database stands for an operation of that database, or for a batch. Of a key
of the dictionary it also asks for the record that the key was bound to. `Request.ask` carries a request
out by way of these operations, so that what they leave true is true after it (`Request.ask_of_run`).
What a request is to come to is not said here but by `Conversation.result`.

* `Conversation.perform_eq_ask`: carrying out such a request is to check that the session has an open
  database and its user the permission, and to ask that database.
-/

namespace RecordBase

open Wire (Request Response CommandMode)

namespace Wire.Request

/-- What a user needs to be permitted for a request on the data of a database; nothing for the other
requests. -/
def permission? : Request → Option (Resource × Access)
  | .connect .. | .openDatabase .. | .createDatabase .. | .closeDatabase | .databaseExists => none
  | .addPhysicalCluster .. | .addLogicalCluster .. => some (.database, .update)
  | .countClusters _ | .countNamed _ => some (.cluster, .read)
  | .loadRecord _ => some (.record, .read)
  | .createRecord .. => some (.record, .create)
  | .updateRecord .. | .commit .. => some (.record, .update)
  | .deleteRecord .. => some (.record, .delete)
  | .command .. => some (.command, .read)
  | .lookupKey _ | .countKeys | .listKeys => some (.dictionary, .read)
  | .bindKey .. => some (.dictionary, .update)
  | .unbindKey _ => some (.dictionary, .delete)

/-- The operation that a request stands for; none if it is a batch, is not on the data of a database or
names no identity where it has to. -/
def operation? : Request → Option Operation
  | .addPhysicalCluster name file size => some (.addPhysical name file size)
  | .addLogicalCluster name container => some (.addLogical name container)
  | .countClusters ids => some (.count ids)
  | .loadRecord id => some (.read id)
  | .createRecord cluster content type => some (.create cluster content type)
  | .updateRecord id content version type => some (.update id content version type)
  | .deleteRecord id version => some (.delete id version)
  | .countNamed cluster => some (.countNamed cluster)
  | .command _ request => some (.execute request)
  | .lookupKey key => some (.lookup key)
  | .bindKey key _ identity => (RecordId.parse? identity).map (.bind key)
  | .unbindKey key => some (.unbind key)
  | .countKeys | .listKeys => some .keys
  | _ => none

/-- The response that is made of an answer of the database. -/
def respond : Request → Answer → Except ServerError Response
  | _, .failed error => .error (.database error)
  | _, .commandFailed error => .error (.command error)
  | .command mode request, .output output =>
    .ok (Conversation.commandResponse mode request output)
  | .addPhysicalCluster .., .number id => .ok (.cluster (Int16.ofInt id))
  | .countKeys, .keys keys => .ok (Conversation.size keys.length)
  | _, .number count => .ok (.number (Int64.ofInt count))
  | _, .logicalAdded id descriptor => .ok (.logicalCluster id descriptor)
  | _, .record? found => .ok (.loaded found)
  | _, .record record => .ok (.position record.id.position)
  | _, .version version => .ok (.version version)
  | _, .done => .ok .done
  | _, .keys keys => .ok (.keys keys)
  | _, _ => .error .noDatabase

end Wire.Request

namespace Database

/-- Reads the record that a key was bound to, if it was bound. There is none any more if its cluster
is gone. -/
def bound (database : Database) : Option RecordId → Except ServerError Response × Database
  | none => (.ok (.frame none), database)
  | some id =>
    match (Operation.read id).run database with
    | (.record? found, database) => (.ok (.frame found), database)
    | (.failed (.clusterNotFound _), database) => (.ok (.frame none), database)
    | (.failed error, database) => (.error (.database error), database)
    | (_, database) => (.error .noDatabase, database)

end Database

/-- Does what a request asks of a database. -/
def Wire.Request.ask (database : Database) : Request → Except ServerError Response × Database
  | .commit number entries failure =>
    let (reply, database) :=
      (Step.commit number (Conversation.batchItems entries failure)).run database
    (Conversation.batchResult reply, database)
  | request =>
    match request.operation? with
    | none => (.error .noDatabase, database)
    | some operation =>
      match operation.run database with
      | (.identity? found, database) => database.bound found
      | (answer, database) => (request.respond answer, database)

namespace Conversation

/-- The session remembers the text of a command. -/
def remember (talk : Conversation) : Request → Conversation
  | .command _ request =>
    { talk with session := { talk.session with lastCommand := some request.text } }
  | _ => talk

@[simp] theorem host_remember (talk : Conversation) (request : Request) :
    (talk.remember request).host = talk.host := by
  cases request <;> rfl

/-- Asks the session's database for what a request stands for. -/
def asked (talk : Conversation) (request : Request) (number : Nat) :
    Except ServerError Response × Conversation :=
  (talk.remember request).run number request.ask

end Conversation

/-! ## Requests and operations -/

/-- What reading a record leaves true is true after the record of a key was read. -/
theorem Database.bound_of_read {P : Database → Prop} {database : Database} (found : Option RecordId)
    (h : P database) (read : ∀ id, P ((Operation.read id).run database).2) :
    P (database.bound found).2 := by
  cases found with
  | none => exact h
  | some id =>
    have hread := read id
    simp only [bound]
    split <;> rename_i hrun <;> rw [hrun] at hread <;> exact hread

namespace Wire.Request

variable {request : Request} {operation : Operation} {database : Database}

theorem ask_of_operation (h : request.operation? = some operation) :
    request.ask database =
      match operation.run database with
      | (.identity? found, database) => database.bound found
      | (answer, database) => (request.respond answer, database) := by
  cases request with
  | commit => cases h
  | _ => simp only [ask, h]

/-- What the operation leaves true, and the record read after it, is true after the request. -/
theorem ask_of_run {P : Database → Prop} (h : request.operation? = some operation)
    (run : P (operation.run database).2) (bound : ∀ after found, P after → P (after.bound found).2) :
    P (request.ask database).2 := by
  rw [ask_of_operation h]
  split <;> rename_i hrun <;> rw [hrun] at run
  · exact bound _ _ run
  · exact run

theorem ask_of_answer {answer : Answer} {after : Database} (h : request.operation? = some operation)
    (hrun : operation.run database = (answer, after)) (plain : ∀ found, answer ≠ .identity? found) :
    request.ask database = (request.respond answer, after) := by
  rw [ask_of_operation h, hrun]
  cases answer <;> first | rfl | exact absurd rfl (plain _)

theorem ask_of_identity {found : Option RecordId} {after : Database}
    (h : request.operation? = some operation)
    (hrun : operation.run database = (.identity? found, after)) :
    request.ask database = after.bound found := by
  rw [ask_of_operation h, hrun]

/-- A request for an operation on the store, whose answers tell what it responds. -/
theorem ask_of_onStore {α : Type} {wrap : α → Response} {told : α → Answer}
    {action : Store → Except Error α × Store} (h : request.operation? = some operation)
    (hrun : operation.run database = database.onStore told action)
    (htold : ∀ found, request.respond (told found) = .ok (wrap found))
    (hplain : ∀ found id, told found ≠ .identity? id) :
    request.ask database =
      let (result, store) := action database.store
      ((result.map wrap).mapError .database, { database with store }) := by
  rw [Database.onStore] at hrun
  rcases haction : action database.store with ⟨error | found, store⟩ <;> rw [haction] at hrun
  · rw [ask_of_answer h hrun (by rintro _ ⟨⟩)]
    cases request <;> rfl
  · rw [ask_of_answer h hrun (hplain found), Answer.ofResult, htold]
    rfl

end Wire.Request

namespace Conversation

variable {talk : Conversation} {request : Request}

theorem onDatabase_eq_asked {resource : Resource} {access : Access}
    {action : Database → Except ServerError Response × Database}
    (quiet : talk.remember request = talk) (h : ∀ database, request.ask database = action database) :
    talk.onDatabase resource access action =
      match talk.permitted resource access with
      | .error error => (.error error, talk)
      | .ok number => talk.asked request number := by
  obtain rfl : request.ask = action := funext h
  unfold onDatabase
  cases talk.permitted resource access with
  | error error => rfl
  | ok number => exact congrArg (·.run number request.ask) quiet.symm

theorem onStore_eq_asked {α : Type} {resource : Resource} {access : Access} {operation : Operation}
    {told : α → Answer} {wrap : α → Response} {action : Store → Except Error α × Store}
    (quiet : talk.remember request = talk) (h : request.operation? = some operation)
    (hrun : ∀ database, operation.run database = database.onStore told action)
    (htold : ∀ found, request.respond (told found) = .ok (wrap found))
    (hplain : ∀ found id, told found ≠ .identity? id) :
    talk.onStore resource access wrap action =
      match talk.permitted resource access with
      | .error error => (.error error, talk)
      | .ok number => talk.asked request number :=
  onDatabase_eq_asked quiet fun database => Request.ask_of_onStore h (hrun database) htold hplain

/-- The record that a key was bound to is read by an operation, too. -/
theorem bound_eq_readBound (database : Database) (found : Option RecordId) :
    database.bound found =
      let (result, store) := readBound database.store found
      ((result.map Response.frame).mapError .database, { database with store }) := by
  cases found with
  | none => rfl
  | some id =>
    simp only [Database.bound, Operation.run, Database.onStore, readBound]
    rcases database.store.read id with ⟨error | record, store⟩
    · cases error <;> rfl
    · rfl

theorem thenReadBound_eq_asked {resource : Resource} {access : Access} {operation : Operation}
    {change : Store → Except Error (Option RecordId) × Store}
    (quiet : talk.remember request = talk) (h : request.operation? = some operation)
    (hrun : ∀ database, operation.run database = database.onStore .identity? change) :
    talk.onStore resource access .frame (thenReadBound change) =
      match talk.permitted resource access with
      | .error error => (.error error, talk)
      | .ok number => talk.asked request number := by
  refine onDatabase_eq_asked quiet fun database => ?_
  rw [Request.ask_of_operation h, hrun, Database.onStore, thenReadBound]
  rcases change database.store with ⟨error | found, store⟩
  · cases request <;> rfl
  · exact bound_eq_readBound { database with store } found

/-- Carrying out a request on the data of a database is to ask that database, if there is one and the
user has the permission. -/
theorem perform_eq_ask [Hashing] {resource : Resource} {access : Access}
    (h : request.permission? = some (resource, access))
    (named : ∀ key type identity, request = .bindKey key type identity →
      (RecordId.parse? identity).isSome) :
    talk.perform request =
      match talk.permitted resource access with
      | .error error => (.error error, talk)
      | .ok number => talk.asked request number := by
  cases request <;> cases h <;> simp only [perform]
  case addPhysicalCluster name file size =>
    exact onStore_eq_asked rfl rfl (fun _ => rfl) (fun id => by simp [Request.respond])
      (by rintro _ _ ⟨⟩)
  case command mode request =>
    unfold command asked
    cases talk.permitted .command .read with
    | error error => rfl
    | ok number =>
      refine congrArg (talk.remember (.command mode request) |>.run number) (funext fun database => ?_)
      rw [Request.ask_of_operation rfl, Operation.run]
      rcases database.store.execute request with ⟨error | output, store⟩ <;> rfl
  case lookupKey key =>
    exact @thenReadBound_eq_asked talk (.lookupKey key) _ _ (.lookup key)
      (fun store => (.ok (store.lookup? key), store)) rfl rfl fun _ => rfl
  case bindKey key type identity =>
    obtain ⟨id, hid⟩ := Option.isSome_iff_exists.1 (named key type identity rfl)
    simp only [bindKey, hid]
    have hoperation : (Request.bindKey key type identity).operation? = some (.bind key id) := by
      rw [Request.operation?, hid]
      rfl
    exact thenReadBound_eq_asked rfl hoperation fun _ => rfl
  case unbindKey key => exact thenReadBound_eq_asked rfl rfl fun _ => rfl
  case countKeys =>
    refine onDatabase_eq_asked rfl fun database => ?_
    rw [Request.ask_of_operation rfl, Operation.run]
    simp only [Database.look, Request.respond, Table.keys, List.length_map]
    rfl
  case commit number entries failure => exact onDatabase_eq_asked rfl fun database => rfl
  -- The others are one operation on the store each.
  all_goals exact onStore_eq_asked rfl rfl (fun _ => rfl) (fun _ => rfl) (by rintro _ _ ⟨⟩)

end Conversation

end RecordBase
