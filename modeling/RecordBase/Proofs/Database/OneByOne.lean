import RecordBase.Proofs.Database.Recovery

/-!
# A batch is its entries one by one

An entry of a batch stands for a single operation (`BatchEntry.operation`): a placeholder for the
identity that the creation it stands for was given, an update for one that keeps the type of the
record. Carrying out these operations one after another until one fails (`Database.oneByOne`) leaves
what the batch leaves, and what they were and answered tells the outcome of the batch
(`Performed.outcome`).

* `Database.commit_eq_oneByOne`: a batch is kept exactly if every single operation succeeds, and fails
  with the first error otherwise.
-/

namespace RecordBase

/-! ## Single operations -/

/-- A single operation that was carried out for an entry of a batch. -/
structure Performed where
  entry : BatchEntry
  operation : Operation
  answer : Answer

namespace Performed

/-- The cluster that a creation gave and the identity of its record. -/
def created? (performed : Performed) : Option (Int16 × RecordId) :=
  match performed.entry, performed.answer with
  | .create cluster _ _, .record record => some (cluster, record.id)
  | _, _ => none

/-- The identity of a record that was updated and its new version. -/
def updated? (performed : Performed) : Option (RecordId × Int32) :=
  match performed.operation, performed.answer with
  | .update id _ _ _, .version version => some (id, version)
  | _, _ => none

/-- Whether a record was deleted. -/
def isDeletion (performed : Performed) : Bool :=
  match performed.operation with
  | .delete _ _ => true
  | _ => false

/-- The outcome of a batch for which some single operations were carried out. -/
def outcome (number : Int32) (done : List Performed) : Outcome where
  batch := number
  created := (done.filterMap created?).mapIdx fun ordinal creation =>
    (RecordId.temporary creation.1 ordinal, creation.2)
  updated := done.filterMap updated?
  deleted := done.countP isDeletion

/-- The identity that an entry means: one at a position of minus two or below is that of the record
created first, second and so on. -/
def meant (done : List Performed) (id : RecordId) : Except Error RecordId :=
  if id.position ≤ -2 then
    match (done.filterMap created?)[(-2 - id.position.toInt).toNat]? with
    | some (_, assigned) => .ok assigned
    | none => .error (.invalidBatch (.unresolved id))
  else .ok id

end Performed

/-- The cluster of a creation: the one named, else the one with the id given, else the default one. -/
def Store.destination (store : Store) (cluster : Int16) (name : Option String) :
    Except Error Int16 :=
  if name.getD "" ≠ "" then store.clusterNamed (name.getD "")
  else if cluster < 0 then store.defaultClusterId
  else .ok cluster

/-- The type of the record stored under an identity, if there is one. -/
def Store.storedType (store : Store) (id : RecordId) : RecordType :=
  match (store.readUncached id).1 with
  | .ok (some record) => record.type
  | _ => .document

/-- The single operation that an entry stands for after others. -/
def BatchEntry.operation (store : Store) (done : List Performed) :
    BatchEntry → Except Error Operation
  | .create _ _ none => .error (.invalidBatch .createdWithoutContent)
  | .create cluster name (some content) => do
    return .create (← store.destination cluster name) content .document
  | .update _ _ none => .error (.invalidBatch .updatedWithoutContent)
  | .update id version (some content) => do
    let id ← Performed.meant done id
    return .update id content version (store.storedType id)
  | .delete id version => do
    return .delete (← Performed.meant done id) version

/-- Carries out the operations that some entries stand for, one after another until one fails. -/
def Database.oneByOne (database : Database) (done : List Performed) :
    List BatchEntry → Except Error (List Performed) × Database
  | [] => (.ok done, database)
  | entry :: rest =>
    match entry.operation database.store done with
    | .error error => (.error error, database)
    | .ok operation =>
      match operation.run database with
      | (.failed error, database) => (.error error, database)
      | (answer, database) => database.oneByOne (done ++ [⟨entry, operation, answer⟩]) rest

/-! ## What an entry stands for -/

/-- The operations that entries stand for, and what they are made of. -/
inductive BatchEntry.StandsFor (store : Store) (done : List Performed) : BatchEntry → Operation → Prop
  | create {cluster : Int16} {name : Option String} {content : Bytes} {target : Int16}
      (chosen : store.destination cluster name = .ok target) :
      StandsFor store done (.create cluster name (some content)) (.create target content .document)
  | update {id meant : RecordId} {version : Int32} {content : Bytes}
      (found : Performed.meant done id = .ok meant) :
      StandsFor store done (.update id version (some content))
        (.update meant content version (store.storedType meant))
  | delete {id meant : RecordId} {version : Int32} (found : Performed.meant done id = .ok meant) :
      StandsFor store done (.delete id version) (.delete meant version)

theorem BatchEntry.standsFor_of_operation {store : Store} {done : List Performed} {entry : BatchEntry}
    {operation : Operation} (h : entry.operation store done = .ok operation) :
    entry.StandsFor store done operation := by
  cases entry with
  | create cluster name content =>
    cases content with
    | none => cases h
    | some content =>
      cases htarget : store.destination cluster name <;>
        simp only [BatchEntry.operation, htarget] at h <;> cases h
      exact .create htarget
  | update id version content =>
    cases content with
    | none => cases h
    | some content =>
      cases hid : Performed.meant done id <;> simp only [BatchEntry.operation, hid] at h <;> cases h
      exact .update hid
  | delete id version =>
    cases hid : Performed.meant done id <;> simp only [BatchEntry.operation, hid] at h <;> cases h
    exact .delete hid

namespace Store

variable {store : Store}

theorem targetCluster_eq_destination (store : Store) (cluster : Int16) (name : Option String) :
    Batch.targetCluster store cluster name = store.destination cluster name := by
  have hnumber : (if 0 ≤ cluster then .ok cluster else store.defaultClusterId) =
      if cluster < 0 then store.defaultClusterId else (.ok cluster : Except Error Int16) := by
    by_cases h : cluster < 0
    · rw [if_pos h, if_neg (Int16.not_le.2 h)]
    · rw [if_neg h, if_pos (Int16.not_lt.1 h)]
  unfold Batch.targetCluster destination
  cases name with
  | none => simpa using hnumber
  | some name =>
    by_cases h : name = ""
    · subst h
      simpa [Option.filter_some] using hnumber
    · have hsome : (!name.isEmpty) = true := by simpa using h
      simp only [Option.filter_some, hsome, if_true, Option.getD_some, ne_eq, h, not_false_iff]

/-- An update with the type that is stored keeps the type. -/
theorem replacePlan_storedType (store : Store) (id : RecordId) (content : Bytes) (version : Int32) :
    store.replacePlan id content version (some (store.storedType id)) =
      store.replacePlan id content version none := by
  unfold replacePlan
  cases hfound : (store.expected id version).1 with
  | error error => rfl
  | ok found =>
    obtain ⟨listing, current⟩ := found
    have htype : store.storedType id = current.type := by
      unfold expected at hfound
      unfold storedType readUncached
      split at hfound
      · cases hfound
      · rename_i hvalid
        rw [if_neg hvalid]
        cases hlisting : store.listing id.cluster with
        | error error =>
          rw [hlisting] at hfound
          cases hfound
        | ok own =>
          simp only [hlisting] at hfound ⊢
          split at hfound
          · cases hfound
          · rename_i hstored
            split at hfound <;> cases hfound
            simp only [hstored]
    simp only [htype, Option.getD_some, Option.getD_none]

end Store

namespace Performed

variable {batch : Batch} {number : Int32} {done : List Performed}

/-- A batch whose outcome is told by single operations takes its placeholders for what they mean. -/
theorem resolve_eq_meant (told : batch.outcome = outcome number done) (id : RecordId) :
    batch.resolve id = meant done id := by
  have hcreated : batch.outcome.created[(-2 - id.position.toInt).toNat]? =
      (done.filterMap created?)[(-2 - id.position.toInt).toNat]?.map fun creation =>
        (RecordId.temporary creation.1 (-2 - id.position.toInt).toNat, creation.2) := by
    rw [told, outcome, List.getElem?_mapIdx]
  unfold Batch.resolve meant RecordId.temporaryOrdinal? RecordId.isTemporary
  by_cases h : id.position ≤ -2
  · simp only [h, decide_true, if_true, hcreated]
    cases (done.filterMap created?)[(-2 - id.position.toInt).toNat]? <;> rfl
  · simp only [h, decide_false, Bool.false_eq_true, if_false]

theorem outcome_created {performed : Performed} {cluster : Int16} {id : RecordId}
    (hcreated : performed.created? = some (cluster, id)) (hupdated : performed.updated? = none)
    (hkept : performed.isDeletion = false) (number : Int32) (done : List Performed) :
    outcome number (done ++ [performed]) =
      { outcome number done with
        created := (outcome number done).created ++
          [(RecordId.temporary cluster (outcome number done).created.length, id)] } := by
  simp [outcome, List.filterMap_append, hcreated, hupdated, hkept]

theorem outcome_updated {performed : Performed} {id : RecordId} {version : Int32}
    (hcreated : performed.created? = none) (hupdated : performed.updated? = some (id, version))
    (hkept : performed.isDeletion = false) (number : Int32) (done : List Performed) :
    outcome number (done ++ [performed]) =
      { outcome number done with
        updated := (outcome number done).updated ++ [(id, version)] } := by
  simp [outcome, List.filterMap_append, hcreated, hupdated, hkept]

theorem outcome_deleted {performed : Performed} (hcreated : performed.created? = none)
    (hupdated : performed.updated? = none) (hdeletion : performed.isDeletion = true) (number : Int32)
    (done : List Performed) :
    outcome number (done ++ [performed]) =
      { outcome number done with deleted := (outcome number done).deleted + 1 } := by
  simp [outcome, List.filterMap_append, hcreated, hupdated, hdeletion]

end Performed

namespace Batch

variable {store : Store} {batch : Batch} {number : Int32} {done : List Performed}
  {entry : BatchEntry}

/-- An entry that stands for no operation is refused. -/
theorem plan_of_no_operation (told : batch.outcome = Performed.outcome number done) {error : Error}
    (h : entry.operation store done = .error error) : batch.plan store entry = .refuse error := by
  cases entry with
  | create cluster name content =>
    cases content with
    | none =>
      cases h
      rfl
    | some content =>
      simp only [plan, Store.targetCluster_eq_destination]
      cases htarget : store.destination cluster name <;>
        simp only [BatchEntry.operation, htarget] at h <;> cases h
      rfl
  | update id version content =>
    cases content with
    | none =>
      cases h
      rfl
    | some content =>
      simp only [plan, Performed.resolve_eq_meant told]
      cases hid : Performed.meant done id <;> simp only [BatchEntry.operation, hid] at h <;> cases h
      rfl
  | delete id version =>
    simp only [plan, Performed.resolve_eq_meant told]
    cases hid : Performed.meant done id <;> simp only [BatchEntry.operation, hid] at h <;> cases h
    rfl

/-- An entry and the operation that it stands for have one plan. The answer tells what the entry adds
to the outcome of its batch. -/
theorem plan_of_operation (told : batch.outcome = Performed.outcome number done)
    {operation : Operation} (h : entry.operation store done = .ok operation) :
    ∃ (α : Type) (plan : Plan α) (answer : α → Answer) (note : α → Batch),
      operation.plan? store = some (plan.map answer) ∧ batch.plan store entry = plan.map note ∧
      ∀ found, (∀ error, answer found ≠ .failed error) ∧
        (note found).outcome = Performed.outcome number (done ++ [⟨entry, operation, answer found⟩]) := by
  cases BatchEntry.standsFor_of_operation h with
  | @create cluster name content target chosen =>
    refine ⟨Record, store.createPlan target content .document, .record, batch.noteCreated cluster,
      rfl, ?_, fun record => ⟨by rintro _ ⟨⟩, ?_⟩⟩
    · simp only [plan, Store.targetCluster_eq_destination, chosen]
    · rw [Performed.outcome_created rfl rfl rfl, noteCreated, told]
  | @update id meant version content found =>
    refine ⟨Record × Record, store.replacePlan meant content version none,
      fun records => .version records.1.version,
      fun records => batch.noteUpdated meant records.1 records.2, ?_, ?_,
      fun records => ⟨by rintro _ ⟨⟩, ?_⟩⟩
    · rw [Operation.plan?, store.replacePlan_storedType]
    · simp only [plan, Performed.resolve_eq_meant told, found]
    · rw [Performed.outcome_updated rfl rfl rfl, ← told]
      rfl
  | @delete id meant version found =>
    refine ⟨Record, store.removePlan meant version, fun _ => .done, batch.noteDeleted, rfl, ?_,
      fun record => ⟨by rintro _ ⟨⟩, ?_⟩⟩
    · simp only [plan, Performed.resolve_eq_meant told, found]
    · rw [Performed.outcome_deleted rfl rfl rfl, noteDeleted, told]

/-- The operation that an entry stands for does what the entry does, and fails if it fails. -/
theorem apply_of_operation {database : Database} (told : batch.outcome = Performed.outcome number done)
    {operation : Operation} (h : entry.operation database.store done = .ok operation) :
    (∃ error store, operation.run database = (.failed error, { database with store }) ∧
      batch.apply database.store entry = (.error error, store)) ∨
    ∃ answer next store, operation.run database = (answer, { database with store }) ∧
      (∀ error, answer ≠ .failed error) ∧ batch.apply database.store entry = (.ok next, store) ∧
      next.outcome = Performed.outcome number (done ++ [⟨entry, operation, answer⟩]) := by
  obtain ⟨α, plan, answer, note, hplan, hentry, hfound⟩ := plan_of_operation told h
  rw [Operation.run_of_plan hplan, apply_eq, hentry]
  simp only [Database.onStore, Store.perform_map]
  rcases database.store.perform plan with ⟨error | found, store⟩
  · exact .inl ⟨error, store, rfl, rfl⟩
  · exact .inr ⟨answer found, note found, store, rfl, (hfound found).1, rfl, (hfound found).2⟩

end Batch

/-! ## Batches -/

namespace Database

theorem oneByOne_of_answer {database after : Database} {done : List Performed} {entry : BatchEntry}
    {operation : Operation} {answer : Answer}
    (h : entry.operation database.store done = .ok operation)
    (hrun : operation.run database = (answer, after)) (kept : ∀ error, answer ≠ .failed error)
    (rest : List BatchEntry) :
    database.oneByOne done (entry :: rest) =
      after.oneByOne (done ++ [⟨entry, operation, answer⟩]) rest := by
  simp only [oneByOne, h, hrun]

end Database

/-- The rest of a batch whose outcome so far is told by single operations. -/
theorem Item.runAll_eq_oneByOne {ε : Type} {number : Int32} {database : Database}
    {state : CommitState ε} {done : List Performed}
    (told : state.batch.outcome = Performed.outcome number done) (entries : List BatchEntry) :
    match database.oneByOne done entries with
    | (.ok all, after) =>
      Item.runAll database state (entries.map .entry) =
        (.commit (.ok (Performed.outcome number all)) state.inner.reverse
            (state.pulled + entries.length),
          { after with store := { after.store with stats := after.store.stats.countCommit } })
    | (.error error, _) =>
      ∃ pulled after, Item.runAll database state (entries.map .entry) =
        (.commit (.error (.store error)) state.inner.reverse pulled, after) := by
  induction entries generalizing database state done with
  | nil => simp only [Database.oneByOne, List.map_nil, Item.runAll, Database.keep, Batch.keep, told,
      List.length_nil, Nat.add_zero]
  | cons entry rest ih =>
    rw [List.map_cons]
    cases hoperation : entry.operation database.store done with
    | error error =>
      have happly : state.batch.apply database.store entry = database.store.perform (.refuse error) := by
        rw [Batch.apply_eq, Batch.plan_of_no_operation told hoperation]
      rw [runAll_entry_of_refused happly]
      simp only [Database.oneByOne, hoperation]
      exact ⟨_, _, rfl⟩
    | ok operation =>
      rcases Batch.apply_of_operation told hoperation with ⟨error, store, hrun, happly⟩ |
        ⟨answer, next, store, hrun, kept, happly, htold⟩
      · rw [runAll_entry_of_refused happly]
        simp only [Database.oneByOne, hoperation, hrun]
        exact ⟨_, _, rfl⟩
      · rw [runAll_entry_of_applied happly, Database.oneByOne_of_answer hoperation hrun kept,
          List.length_cons, Nat.add_comm rest.length 1, ← Nat.add_assoc]
        exact ih htold

namespace Database

/-- A batch of entries is kept exactly if the single operations that they stand for succeed one after
another. It then leaves what these leave, log included, but for the count of batches, and its outcome
is what they did. Otherwise it fails with the error of the first entry that stands for no operation or
whose operation fails. -/
theorem commit_eq_oneByOne {ε : Type} {database : Database} (isOpen : database.isOpen = true)
    (number : Int32) (entries : List BatchEntry) :
    match database.oneByOne [] entries with
    | (.ok done, after) =>
      (Step.commit number (entries.map .entry) : Step ε).run database =
        (.commit (.ok (Performed.outcome number done)) [] entries.length,
          { after with store := { after.store with stats := after.store.stats.countCommit } })
    | (.error error, _) =>
      ∃ pulled after, (Step.commit number (entries.map .entry) : Step ε).run database =
        (.commit (.error (.store error)) [] pulled, after) := by
  have hopen : database.ensureOpen = .ok () := by rw [ensureOpen, if_pos isOpen]
  rw [Step.run_commit_of_open hopen]
  have hrun := @Item.runAll_eq_oneByOne ε number database { batch := Batch.start number } [] rfl entries
  simpa only [List.reverse_nil, Nat.zero_add] using hrun

/-- A record that a batch creates, updates and deletes through its placeholder. -/
theorem commit_eq_oneByOne_of_placeholder :
    plain.isOpen = true ∧
      ((Step.commit 7 [.entry (.create 0 none (some [1])), .entry (.update ⟨0, -2⟩ 0 (some [2])),
        .entry (.delete ⟨5, -2⟩ 1)] : Step Unit).run plain).1 =
        .commit (.ok ⟨7, [(⟨0, -2⟩, ⟨0, 0⟩)], [(⟨0, 0⟩, 1)], 1⟩) [] 3 := by
  refine ⟨rfl, ?_⟩
  have hdone : ((plain.oneByOne [] [.create 0 none (some [1]), .update ⟨0, -2⟩ 0 (some [2]),
      .delete ⟨5, -2⟩ 1]).1.map (Performed.outcome 7)).toOption =
        some ⟨7, [(⟨0, -2⟩, ⟨0, 0⟩)], [(⟨0, 0⟩, 1)], 1⟩ := by
    decide +kernel
  have hcommit := @commit_eq_oneByOne Unit plain rfl 7
    [.create 0 none (some [1]), .update ⟨0, -2⟩ 0 (some [2]), .delete ⟨5, -2⟩ 1]
  split at hcommit <;> rename_i heq <;> rw [heq] at hdone
  · exact (congrArg Prod.fst hcommit).trans
      (congrArg (fun outcome => Reply.commit (.ok outcome) [] 3) (Option.some.inj hdone))
  · cases hdone

end Database

end RecordBase
