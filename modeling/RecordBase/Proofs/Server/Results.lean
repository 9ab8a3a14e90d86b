import RecordBase.Proofs.Server.Rejection
import RecordBase.Proofs.Server.Responses

/-!
# What calls are to return

What a call is to return is told by the operations of the store, whatever a server does to carry it out:

* `Query.expected`: what a command gives, all at once or record by record, and what its limit means;
* `Wire.Request.expected`: what a database answers to a call;
* `Conversation.result`: what a session is answered, whose user may not be permitted the call.

`Conversation.perform_of_called`: this is what carrying out a call leads to.
-/

namespace RecordBase

open Wire (Request Response CommandMode)

/-! ## Commands -/

/-- The first of some results, as many as a limit allows. A limit below zero allows them all. -/
def atMost {α : Type} (limit : Int32) (results : List α) : List α :=
  if limit < 0 then results else results.take limit.toInt.toNat

/-- What a query gives. Records that are wanted all at once come as a list of their identities, and one
that is loaded as it is; nothing that is no record comes record by record. -/
def Query.expected (store : Store) (mode : CommandMode) (limit : Int32) :
    Query → Except CommandError Response
  | select cluster => do
    let records ← (store.clusterNamed cluster >>= store.scan).mapError .store
    match mode with
    | .single =>
      return .result (.value (.list ((atMost limit records).map fun record => .identity record.id.text)))
    | .stream => return .stream (atMost limit records)
  | count cluster => do
    let number ← (store.countNamed cluster).mapError .store
    match mode with
    | .single => return .result (.value (.integer (Int64.ofInt number)))
    | .stream => return .stream []
  | load identity => do
    match RecordId.parse? identity with
    | none => throw (.malformedIdentity identity)
    | some id =>
      match mode, ← (store.read id).1.mapError .store with
      | .single, none => return .result .null
      | .single, some record => return .result (.record record)
      | .stream, found => return .stream (atMost limit found.toList)
  | listClusters =>
    match mode with
    | .single => return .result (.value (.list (store.clusters.map fun cluster => .text cluster.name)))
    | .stream => return .stream []

/-- What a command gives. -/
def CommandRequest.expected (request : CommandRequest) (store : Store) (mode : CommandMode) :
    Except CommandError Response :=
  match Query.parse? request.text with
  | none => .error (.unsupported request.text)
  | some query => query.expected store mode request.limit

/-! ## Calls -/

/-- The record that a key is bound to, if it is there. -/
def Store.boundTo (store : Store) (bound : Option RecordId) : Option Record :=
  bound.bind fun id => (store.read id).1.toOption.join

/-- What a database answers to a call. -/
def Wire.Request.expected (database : Database) : Request → Except ServerError Response
  | .addPhysicalCluster name file size => do
    return .cluster (← (database.store.addPhysical name file size).1.mapError .database)
  | .addLogicalCluster name container => do
    let (id, descriptor) ← (database.store.addLogical name container).1.mapError .database
    return .logicalCluster id descriptor
  | .countClusters ids => do
    return .number (Int64.ofInt (← (database.store.count ids).mapError .database))
  | .countNamed cluster => do
    return .number (Int64.ofInt (← (database.store.countNamed cluster).mapError .database))
  | .loadRecord id => do return .loaded (← (database.store.read id).1.mapError .database)
  | .createRecord cluster content type => do
    let record ← (database.store.create cluster content type).1.mapError .database
    return .position record.id.position
  | .updateRecord id content version type => do
    return .version (← (database.store.update id content version type).1.mapError .database)
  | .deleteRecord id version => do
    (database.store.delete id version).1.mapError .database
    return .done
  | .command mode request => (request.expected database.store mode).mapError .command
  | .lookupKey key =>
    return .frame (database.store.boundTo (database.store.lookup? key))
  | .bindKey key _ identity => do
    match RecordId.parse? identity with
    | none => throw (.database (.malformedIdentity identity))
    | some id =>
      let (result, store) := database.store.bind key id
      return .frame (store.boundTo (← result.mapError .database))
  | .unbindKey key => do
    let (result, store) := database.store.unbind key
    return .frame (store.boundTo (← result.mapError .database))
  | .countKeys =>
    let number := database.store.contents.dictionary.keys.length
    return .size (if number < 2 ^ 31 then Int32.ofNat number else Int32.maxValue)
  | .listKeys => return .keys database.store.contents.dictionary.keys
  | .commit number entries _ =>
    match (Step.commit (ε := WireError) number (entries.map .entry)).run database with
    | (.commit (.ok outcome) _ _, _) => return .outcome outcome
    | (.commit (.error (.store error)) _ _, _) => throw (.database error)
    | _ => throw .noDatabase
  | _ => throw .noDatabase

namespace Conversation

/-- The session's database, if it is there and open and the user is permitted an access. -/
def granted (talk : Conversation) (resource : Resource) (access : Access) :
    Except ServerError Database :=
  match talk.session.database.bind talk.host.catalog.depot.database? with
  | none => .error .noDatabase
  | some database =>
    if database.isOpen then
      match talk.session.principal with
      | none => .error (.access .notAuthenticated)
      | some principal =>
        if principal.role.allows resource access then .ok database
        else .error (.access (.notPermitted principal resource access))
    else .error .noDatabase

/-- What a session is answered to a call. -/
def result (talk : Conversation) (request : Request) : Except ServerError Response := do
  match request.permission? with
  | none => throw .noDatabase
  | some (resource, access) => request.expected (← talk.granted resource access)

end Conversation

/-! ## What commands give -/

theorem atMost_maxResults (request : CommandRequest) {α : Type} (results : List α) :
    atMost request.limit results =
      match request.maxResults? with
      | some most => results.take most
      | none => results := by
  unfold atMost CommandRequest.maxResults?
  by_cases hlimit : 0 ≤ request.limit
  · rw [if_neg (by grind), if_pos hlimit]
  · rw [if_pos (by grind), if_neg hlimit]

theorem atMost_atMost (limit : Int32) {α : Type} (results : List α) :
    atMost limit (atMost limit results) = atMost limit results := by
  unfold atMost
  split
  · rfl
  · rw [List.take_take, Nat.min_self]

namespace Conversation

/-- Record by record an output comes with its limit applied. -/
theorem commandResponse_stream (request : CommandRequest) (output : CommandOutput) :
    commandResponse .stream request output = .stream (atMost request.limit output.toRecords) := by
  rw [atMost_maxResults]
  unfold commandResponse
  cases request.maxResults? <;> rfl

theorem commandResponse_value (request : CommandRequest) (value : CommandValue) :
    commandResponse .stream request (.value value) = .stream [] := by
  unfold commandResponse
  cases request.maxResults? with
  | none => rfl
  | some most => exact congrArg Response.stream List.take_nil

theorem select_eq_atMost (request : CommandRequest) (cluster : String) (store : Store) :
    store.select cluster request.maxResults? =
      (store.clusterNamed cluster >>= store.scan).map (atMost request.limit) := by
  rw [Store.select]
  cases store.clusterNamed cluster with
  | error error => rfl
  | ok id =>
    change (store.scan id >>= _) = (store.scan id).map _
    cases store.scan id with
    | error error => rfl
    | ok records => exact congrArg Except.ok (atMost_maxResults request records).symm

theorem answer_eq_expected (request : CommandRequest) (query : Query) (store : Store)
    (mode : CommandMode) :
    (store.answer request.maxResults? query).1.map (commandResponse mode request) =
      query.expected store mode request.limit := by
  cases query with
  | select cluster =>
    simp only [Store.answer, select_eq_atMost, Query.expected]
    cases store.clusterNamed cluster >>= store.scan with
    | error error => rfl
    | ok records =>
      cases mode with
      | single => rfl
      | stream =>
        refine congrArg Except.ok ((commandResponse_stream request _).trans ?_)
        exact congrArg Response.stream (atMost_atMost request.limit records)
  | count cluster =>
    simp only [Store.answer, Query.expected]
    cases store.countNamed cluster with
    | error error => rfl
    | ok number =>
      cases mode with
      | single => rfl
      | stream => exact congrArg Except.ok (commandResponse_value request _)
  | load identity =>
    simp only [Store.answer, Query.expected]
    cases RecordId.parse? identity with
    | none => rfl
    | some id =>
      simp only
      rcases store.read id with ⟨error | _ | record, after⟩
      · rfl
      · cases mode with
        | single => rfl
        | stream => exact congrArg Except.ok (commandResponse_stream request .null)
      · cases mode with
        | single => rfl
        | stream => exact congrArg Except.ok (commandResponse_stream request (.record record))
  | listClusters =>
    cases mode with
    | single => rfl
    | stream => exact congrArg Except.ok (commandResponse_value request _)

/-- Carrying out a command gives what is expected of it. -/
theorem execute_eq_expected (request : CommandRequest) (store : Store) (mode : CommandMode) :
    (store.execute request).1.map (commandResponse mode request) = request.expected store mode := by
  unfold Store.execute CommandRequest.expected
  cases Query.parse? request.text with
  | none => rfl
  | some query => exact answer_eq_expected request query store mode

/-! ## What calls lead to -/

variable {talk : Conversation}

/-- A permission is granted with the session's database. -/
theorem permitted_cases (talk : Conversation) (resource : Resource) (access : Access) :
    (∃ error, talk.permitted resource access = .error error ∧
      talk.granted resource access = .error error) ∨
    ∃ number database, talk.permitted resource access = .ok number ∧
      talk.host.catalog.depot.database? number = some database ∧
      talk.granted resource access = .ok database := by
  unfold permitted openNumber granted Session.authorize Session.user Depot.isOpen
  cases talk.session.database with
  | none => exact .inl ⟨_, rfl, rfl⟩
  | some number =>
    simp only [Option.bind_some]
    cases hdatabase : talk.host.catalog.depot.database? number with
    | none => exact .inl ⟨_, rfl, rfl⟩
    | some database =>
      by_cases hopen : database.isOpen
      · simp only [hopen, if_true]
        cases talk.session.principal with
        | none => exact .inl ⟨_, rfl, rfl⟩
        | some principal =>
          by_cases hallowed : principal.role.allows resource access
          · refine .inr ⟨number, database, ?_, hdatabase, if_pos hallowed⟩
            change ((principal.check resource access).mapError ServerError.access >>= _) = _
            rw [Principal.check, if_pos hallowed]
            rfl
          · refine .inl ⟨.access (.notPermitted principal resource access), ?_, if_neg hallowed⟩
            change ((principal.check resource access).mapError ServerError.access >>= _) = _
            rw [Principal.check, if_neg hallowed]
            rfl
      · simp only [hopen]
        exact .inl ⟨_, rfl, rfl⟩

/-- What is done with the session's database. -/
theorem onDatabase_fst {α : Type} (resource : Resource) (access : Access)
    (action : Database → Except ServerError α × Database) :
    (talk.onDatabase resource access action).1 =
      talk.granted resource access >>= fun database => (action database).1 := by
  unfold onDatabase
  obtain ⟨error, hrefused, hresult⟩ | ⟨number, database, hpermitted, hfound, hresult⟩ :=
    talk.permitted_cases resource access
  · rw [hrefused, hresult]
    rfl
  · rw [hpermitted, hresult]
    simp only [run_fst, hfound]
    rfl

/-- A call that is carried out on the store of the session's database. -/
theorem onStore_eq_result {α : Type} {request : Request} {resource : Resource} {access : Access}
    {wrap : α → Response} {action : Store → Except Error α × Store}
    (hpermission : request.permission? = some (resource, access))
    (h : ∀ database, talk.granted resource access = .ok database →
      ((action database.store).1.map wrap).mapError .database = request.expected database) :
    (talk.onStore resource access wrap action).1 = talk.result request := by
  rw [onStore, onDatabase_fst, result, hpermission]
  simp only
  cases hgranted : talk.granted resource access with
  | error error => rfl
  | ok database => exact h database hgranted

/-- What an operation gives, as a response. -/
theorem map_mapError {α : Type} (wrap : α → Response) (given : Except Error α) :
    (given.map wrap).mapError ServerError.database = do return wrap (← given.mapError .database) := by
  cases given <;> rfl

/-- The record that a key was bound to is read in a store whose cache is coherent. -/
theorem readBound_fst {store : Store} (coherent : store.Coherent) (bound : Option RecordId) :
    (readBound store bound).1 = .ok (store.boundTo bound) := by
  cases bound with
  | none => rfl
  | some id =>
    unfold readBound Store.boundTo
    rcases hread : store.read id with ⟨error | found, after⟩
    · obtain ⟨name, rfl⟩ := Store.read_error coherent (congrArg Prod.fst hread)
      simp only [Option.bind_some, hread]
      rfl
    · simp only [Option.bind_some, hread]
      rfl

theorem thenReadBound_fst {change : Store → Except Error (Option RecordId) × Store} {store : Store}
    (coherent : (change store).2.Coherent) :
    (thenReadBound change store).1 = (change store).1.map (change store).2.boundTo := by
  rw [thenReadBound]
  rcases hchange : change store with ⟨error | bound, after⟩
  · rfl
  · rw [hchange] at coherent
    simp only [readBound_fst coherent]
    rfl

theorem commit_eq_expected (number : Int32) (entries : List BatchEntry) (database : Database) :
    batchResult ((Step.commit number (batchItems entries none)).run database).1 =
      (Request.commit number entries none).expected database := by
  have hitems : batchItems entries none = entries.map .entry := List.append_nil _
  have hcases := batchResult_cases database number entries
  rw [hitems] at hcases ⊢
  rw [Request.expected]
  generalize (Step.commit number (entries.map .entry)).run database = ran at hcases ⊢
  obtain ⟨answer | ⟨(error | error) | outcome, inner, pulled⟩, after⟩ := ran
  · rfl
  · rfl
  · -- No entry fails to be read, so no such failure ends the batch.
    obtain ⟨_, houtcome, -⟩ | ⟨_, herror⟩ := hcases
    · cases houtcome
    · cases herror
  · rfl

/-- More keys than a number can tell are told as the greatest number. -/
theorem size_eq (dictionary : Table String RecordId) :
    size dictionary.size =
      .size (if dictionary.keys.length < 2 ^ 31 then Int32.ofNat dictionary.keys.length
        else Int32.maxValue) := by
  rw [size, Table.keys, List.length_map]
  change Response.size (Int32.ofNat (min dictionary.entries.length _)) = _
  split <;> rename_i hfew
  · rw [Nat.min_eq_left (by omega)]
  · rw [Nat.min_eq_right (by omega)]
    rfl

/-- What a call leads to is what it is to return. -/
theorem perform_of_called [Hashing] {request : Request} (sound : talk.host.catalog.Sound)
    (called : request.Called) : (talk.perform request).1 = talk.result request := by
  have hgood : ∀ {resource access database}, talk.granted resource access = .ok database →
      database.Good := by
    intro resource access database hgranted
    obtain ⟨error, -, hresult⟩ | ⟨number, found, -, hfound, hresult⟩ :=
      talk.permitted_cases resource access
    · cases hresult.symm.trans hgranted
    · cases hresult.symm.trans hgranted
      obtain ⟨held, hheld, agrees⟩ := Depot.agrees_of_database? hfound
      exact agrees.good (sound.good number held hheld)
  cases called <;> simp only [perform, look]
  case command mode request =>
    simp only [command, result, Request.permission?, Request.expected, ← execute_eq_expected]
    obtain ⟨error, hrefused, hresult⟩ | ⟨number, database, hpermitted, hfound, hresult⟩ :=
      talk.permitted_cases .command .read
    · rw [hrefused, hresult]
      rfl
    · rw [hpermitted, hresult]
      simp only [run_fst, hfound]
      rfl
  case lookupKey key =>
    refine onStore_eq_result rfl fun database hgranted => ?_
    rw [readBound_fst (hgood hgranted).coherent]
    rfl
  case bindKey key type id =>
    simp only [bindKey, RecordId.parse?_text]
    refine onStore_eq_result rfl fun database hgranted => ?_
    have hafter := ((hgood hgranted).operation (.bind key id)).coherent
    rw [@thenReadBound_fst (·.bind key id) database.store hafter, Request.expected, RecordId.parse?_text]
    simp only
    rcases database.store.bind key id with ⟨_ | _, after⟩ <;> rfl
  case unbindKey key =>
    refine onStore_eq_result rfl fun database hgranted => ?_
    have hafter := ((hgood hgranted).operation (.unbind key)).coherent
    rw [@thenReadBound_fst (·.unbind key) database.store hafter, Request.expected]
    rcases database.store.unbind key with ⟨_ | _, after⟩ <;> rfl
  case countKeys =>
    refine onStore_eq_result rfl fun database _ => ?_
    rw [Request.expected, ← size_eq]
    rfl
  case commit number entries complete few =>
    rw [commit, onDatabase_fst, result]
    simp only [commit_eq_expected]
    rfl
  -- The others give what one operation of the store gives.
  all_goals exact onStore_eq_result rfl fun database _ => map_mapError _ _

end Conversation

end RecordBase
