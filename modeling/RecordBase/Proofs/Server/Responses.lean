import RecordBase.Proofs.Database.OneByOne
import RecordBase.Proofs.Server.Reached
import RecordBase.Proofs.Wire.Replies

/-!
# What calls are answered with

* `Conversation.answers_perform`: whatever a client's call leads to is an answer to that call as the client
  understands it. A record that was loaded has the identity that was asked for, the value of a command is
  of one of the kinds that commands give, and the outcome of a batch tells no more creations and updates
  than there are entries and as many deletions as the client counts among them.
-/

namespace RecordBase

open Wire (Request Response CommandMode)

/-! ## The outcomes of batches -/

namespace Performed

variable {store : Store} {done : List Performed} {entry : BatchEntry} {operation : Operation}

/-- The operation that an entry stands for deletes a record if the entry does. -/
theorem countP_isDeletion (h : entry.operation store done = .ok operation) (answer : Answer) :
    [⟨entry, operation, answer⟩].countP isDeletion = Response.deletions [entry] := by
  cases BatchEntry.standsFor_of_operation h <;> rfl

/-- One operation is performed for each entry, and one deletion for each entry that deletes. -/
theorem counts_oneByOne {database after : Database} {all : List Performed} {entries : List BatchEntry}
    (h : database.oneByOne done entries = (.ok all, after)) :
    all.length = done.length + entries.length ∧
      all.countP isDeletion = done.countP isDeletion + Response.deletions entries := by
  induction entries generalizing database done with
  | nil =>
    cases h
    exact ⟨rfl, rfl⟩
  | cons entry rest ih =>
    rw [Database.oneByOne] at h
    cases hoperation : entry.operation database.store done with
    | error error =>
      rw [hoperation] at h
      cases h
    | ok operation =>
      simp only [hoperation] at h
      split at h
      · cases h
      · rename_i answer _ _ _
        obtain ⟨hlength, hdeletions⟩ := ih h
        have hrest : Response.deletions (entry :: rest) =
            Response.deletions [entry] + Response.deletions rest :=
          @List.countP_append _ _ [entry] rest
        rw [List.length_append, Nat.add_assoc, List.length_singleton, Nat.add_comm 1] at hlength
        rw [List.countP_append, countP_isDeletion hoperation answer, Nat.add_assoc, ← hrest] at hdeletions
        exact ⟨hlength, hdeletions⟩

end Performed

/-! ## What succeeds -/

/-- A record that is read has the identity that it is read for. -/
theorem Store.id_of_read {store : Store} (coherent : store.Coherent) {id : RecordId} {record : Record}
    (h : (store.read id).1 = .ok (some record)) : record.id = id := by
  rw [read_eq_readUncached coherent] at h
  unfold readUncached at h
  split at h
  · cases h
  · split at h
    · cases h
    · simp only [Except.ok.injEq, stored?, Option.map_eq_some_iff] at h
      obtain ⟨slot, -, rfl⟩ := h
      rfl

theorem ok_of_mapError {ε δ α β : Type} {result : Except ε α} {wrap : α → β} {report : ε → δ}
    {value : β} (h : (result.map wrap).mapError report = .ok value) :
    ∃ found, result = .ok found ∧ value = wrap found := by
  cases result <;> cases h
  exact ⟨_, rfl, rfl⟩

namespace Conversation

variable {talk : Conversation} {α : Type} {value : α} {response : Response}

theorem ok_of_run {number : Nat} {action : Database → Except ServerError α × Database}
    (h : (talk.run number action).1 = .ok value) :
    ∃ database, talk.host.catalog.depot.database? number = some database ∧
      (action database).1 = .ok value := by
  rw [run_fst] at h
  cases hdatabase : talk.host.catalog.depot.database? number with
  | none =>
    rw [hdatabase] at h
    cases h
  | some database =>
    rw [hdatabase] at h
    exact ⟨database, rfl, h⟩

theorem ok_of_onDatabase {resource : Resource} {access : Access}
    {action : Database → Except ServerError α × Database}
    (h : (talk.onDatabase resource access action).1 = .ok value) :
    ∃ number database, talk.host.catalog.depot.database? number = some database ∧
      (action database).1 = .ok value := by
  unfold onDatabase at h
  cases hpermitted : talk.permitted resource access with
  | error error =>
    rw [hpermitted] at h
    cases h
  | ok number =>
    rw [hpermitted] at h
    exact ⟨number, ok_of_run h⟩

theorem ok_of_onStore {resource : Resource} {access : Access} {wrap : α → Response}
    {action : Store → Except Error α × Store}
    (h : (talk.onStore resource access wrap action).1 = .ok response) :
    ∃ number database found, talk.host.catalog.depot.database? number = some database ∧
      (action database.store).1 = .ok found ∧ response = wrap found := by
  obtain ⟨number, database, hdatabase, haction⟩ := ok_of_onDatabase h
  obtain ⟨found, hfound, rfl⟩ := ok_of_mapError haction
  exact ⟨number, database, found, hdatabase, hfound, rfl⟩

/-! ## Answers -/

/-- What a command gives at once. -/
theorem answers_output (request : CommandRequest) {limit : Option Nat} {query : Query} {store : Store}
    {output : CommandOutput} (h : (store.answer limit query).1 = .ok output) :
    Response.Answers (.command .single request) (.result (.ofOutput output)) := by
  cases query with
  | select cluster =>
    obtain ⟨records, -, rfl⟩ := ok_of_mapError h
    have given := CommandValue.Given.identities (records.map fun record => record.id.text)
    rw [List.map_map] at given
    exact .value given
  | count cluster =>
    obtain ⟨count, -, rfl⟩ := ok_of_mapError h
    exact .value (.integer _)
  | load identity =>
    simp only [Store.answer] at h
    cases hidentity : RecordId.parse? identity with
    | none =>
      rw [hidentity] at h
      cases h
    | some id =>
      rw [hidentity] at h
      rcases hread : store.read id with ⟨error | _ | record, after⟩ <;> simp only [hread] at h <;> cases h
      · exact .null
      · exact .record record
  | listClusters =>
    cases h
    have given := CommandValue.Given.texts (store.clusters.map fun cluster => cluster.name)
    rw [List.map_map] at given
    exact .value given

theorem answers_command {mode : CommandMode} {request : CommandRequest}
    (h : (talk.command mode request).1 = .ok response) :
    Response.Answers (.command mode request) response := by
  unfold command at h
  cases hpermitted : talk.permitted .command .read with
  | error error =>
    rw [hpermitted] at h
    cases h
  | ok number =>
    rw [hpermitted] at h
    obtain ⟨database, -, haction⟩ := ok_of_run h
    obtain ⟨output, houtput, rfl⟩ := ok_of_mapError haction
    cases mode with
    | single =>
      unfold Store.execute at houtput
      split at houtput
      · exact answers_output request houtput
      · cases houtput
    | stream =>
      unfold commandResponse
      cases request.maxResults? <;> exact .stream _

/-- A batch of entries has an outcome or is refused by the store. -/
theorem batchResult_cases (database : Database) (number : Int32) (entries : List BatchEntry) :
    (∃ outcome, batchResult ((Step.commit number (batchItems entries none)).run database).1 =
        .ok (.outcome outcome) ∧ Response.Answers (.commit number entries none) (.outcome outcome)) ∨
      ∃ error, batchResult ((Step.commit number (batchItems entries none)).run database).1 =
        .error (.database error) := by
  have hitems : batchItems entries none = entries.map .entry := List.append_nil _
  cases hopen : database.ensureOpen with
  | error error =>
    rw [Step.run_commit_of_closed hopen]
    exact .inr ⟨error, rfl⟩
  | ok _ =>
    rw [Step.run_commit_of_open hopen, hitems]
    have hrun := @Item.runAll_eq_oneByOne WireError number database { batch := Batch.start number } []
      rfl entries
    split at hrun <;> rename_i hdone
    · rename_i all after
      obtain ⟨hlength, hdeletions⟩ := Performed.counts_oneByOne hdone
      rw [List.length_nil, Nat.zero_add] at hlength
      rw [hrun]
      refine .inl ⟨Performed.outcome number all, rfl,
        .outcome rfl ?_ ?_ (hdeletions.trans (Nat.zero_add _))⟩
      · rw [Performed.outcome, List.length_mapIdx, ← hlength]
        exact List.length_filterMap_le _ _
      · rw [Performed.outcome, ← hlength]
        exact List.length_filterMap_le _ _
    · obtain ⟨pulled, after, hfailed⟩ := hrun
      rw [hfailed]
      exact .inr ⟨_, rfl⟩

theorem answers_commit {number : Int32} {entries : List BatchEntry}
    (h : (talk.commit number entries none).1 = .ok response) :
    Response.Answers (.commit number entries none) response := by
  obtain ⟨_, database, -, haction⟩ := ok_of_onDatabase h
  rcases batchResult_cases database number entries with ⟨outcome, hresult, answers⟩ | ⟨error, hresult⟩
  · cases hresult.symm.trans haction
    exact answers
  · cases hresult.symm.trans haction

/-- What a call leads to is an answer to that call. -/
theorem answers_perform [Hashing] {request : Request} (sound : talk.host.catalog.Sound)
    (called : request.Called) (h : (talk.perform request).1 = .ok response) :
    Response.Answers request response := by
  cases called <;> simp only [perform, look] at h
  case addPhysicalCluster name file size =>
    obtain ⟨-, -, id, -, -, rfl⟩ := ok_of_onStore h
    exact .cluster id
  case addLogicalCluster name container =>
    obtain ⟨-, -, added, -, -, rfl⟩ := ok_of_onStore h
    exact .logicalCluster _ _
  case countClusters few =>
    obtain ⟨-, -, count, -, -, rfl⟩ := ok_of_onStore h
    exact .count _
  case loadRecord id =>
    obtain ⟨number, database, found, hdatabase, hread, rfl⟩ := ok_of_onStore h
    obtain ⟨held, hheld, agrees⟩ := Depot.agrees_of_database? hdatabase
    have good := agrees.good (sound.good number held hheld)
    refine .loaded fun record hrecord => Store.id_of_read good.coherent ?_
    rw [hread, hrecord]
  case createRecord cluster content type =>
    obtain ⟨-, -, record, -, -, rfl⟩ := ok_of_onStore h
    exact .created _
  case updateRecord id content version type =>
    obtain ⟨-, -, next, -, -, rfl⟩ := ok_of_onStore h
    exact .updated next
  case deleteRecord id version =>
    obtain ⟨-, -, -, -, -, rfl⟩ := ok_of_onStore h
    exact .deleted
  case countNamed cluster =>
    obtain ⟨-, -, count, -, -, rfl⟩ := ok_of_onStore h
    exact .countNamed _
  case command mode request => exact answers_command h
  case lookupKey key =>
    obtain ⟨-, -, found, -, -, rfl⟩ := ok_of_onStore h
    exact .looked found
  case bindKey key type id =>
    simp only [bindKey, RecordId.parse?_text] at h
    obtain ⟨-, -, found, -, -, rfl⟩ := ok_of_onStore h
    exact .bound found
  case unbindKey key =>
    obtain ⟨-, -, found, -, -, rfl⟩ := ok_of_onStore h
    exact .unbound found
  case countKeys =>
    obtain ⟨-, -, count, -, -, rfl⟩ := ok_of_onStore h
    exact .size _
  case listKeys =>
    obtain ⟨-, -, keys, -, -, rfl⟩ := ok_of_onStore h
    exact .keys keys
  case commit number complete few => exact answers_commit h

/-- Whatever fails in a batch whose entries all read is answered. -/
theorem answered_commit (number : Int32) (entries : List BatchEntry) :
    Answered (talk.commit number entries none).1 := by
  refine answered_onDatabase (fun database => ?_) .record .update
  rcases batchResult_cases database number entries with ⟨outcome, hresult, -⟩ | ⟨error, hresult⟩ <;>
    simp only [hresult] <;> rintro _ ⟨⟩
  rfl

/-- Whatever fails in a call is answered. -/
theorem answered_of_called [Hashing] {request : Request} (called : request.Called) :
    Answered (talk.perform request).1 := by
  cases called with
  | commit number complete few => exact answered_commit number _
  | _ => exact answered_perform nofun

end Conversation

end RecordBase
