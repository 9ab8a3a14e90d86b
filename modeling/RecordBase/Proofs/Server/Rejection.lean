import RecordBase.Proofs.Database.Atomicity
import RecordBase.Proofs.Server.Reached

/-!
# A rejected request has no effect

Whatever can fail in a request does so before the first change, with two exceptions: a batch is undone,
and the record that a key was bound to is read after the key is changed, which cannot fail
(`Database.bound_ok`).

* `Wire.Request.alike_of_failed`: while the journal takes every append, asking a database for something
  that fails leaves what the database held, except that positions may have been handed out.
* `Conversation.rejected_request_has_no_effect`: so a request that is answered with a failure changes
  neither the session's user and database, nor the list of open databases, nor what one of them holds.
-/

namespace RecordBase

open Wire (Channel Request Response Source Opcode Sink Field)

/-! ## Operations that fail -/

namespace Store

variable {store : Store}

theorem enact_of_willing (willing : store.journal.Willing) (deeds : List Deed) :
    ∃ after, store.enact deeds = (.ok (), after) := by
  induction deeds generalizing store with
  | nil => exact ⟨store, rfl⟩
  | cons deed rest ih =>
    obtain ⟨offset, journal, happend⟩ := Journal.append_of_taken_of_syncsHold (willing.accepts 0)
      willing.syncsHold deed.entry
    have hwilling := willing.append deed.entry
    rw [happend] at hwilling
    have hdone : (store.done deed journal).journal.Willing := by
      rw [journal_done]
      exact hwilling
    rw [enact_of_written happend]
    exact ih hdone

/-- While no append fails, a plan fails only if it is refused, and then nothing is written. -/
theorem perform_of_willing {α : Type} (willing : store.journal.Willing) (plan : Plan α) :
    (∃ error stats, store.perform plan = (.error error, { store with stats })) ∨
      ∃ deeds answer after, plan = .act deeds answer ∧ store.perform plan = (.ok answer, after) := by
  cases plan with
  | refuse error => exact .inl ⟨error, _, rfl⟩
  | act deeds answer =>
    obtain ⟨after, henact⟩ := enact_of_willing willing deeds
    exact .inr ⟨deeds, answer, after, rfl, by rw [perform, henact]⟩

/-- Reading fails only for a cluster that there is not. -/
theorem readUncached_error {id : RecordId} {error : Error}
    (h : (store.readUncached id).1 = .error error) : ∃ name, error = .clusterNotFound name := by
  unfold readUncached at h
  split at h
  · cases h
  · split at h
    · rename_i hlisting
      unfold listing at hlisting
      split at hlisting <;> cases hlisting
      cases h
      exact ⟨_, rfl⟩
    · cases h

theorem read_error (coherent : store.Coherent) {id : RecordId} {error : Error}
    (h : (store.read id).1 = .error error) : ∃ name, error = .clusterNotFound name := by
  rw [read_eq_readUncached coherent] at h
  exact readUncached_error h

end Store

theorem Plan.answer_of_map {α β : Type} {plan : Plan α} {f : α → β} {deeds : List Deed} {answer : β}
    (h : plan.map f = .act deeds answer) : ∃ value, answer = f value := by
  cases plan with
  | refuse error => cases h
  | act deeds value =>
    cases h
    exact ⟨value, rfl⟩

/-- An operation that neither closes a database nor tells its listeners changes nothing but the store. -/
theorem Operation.run_store {operation : Operation} (database : Database) (stays : operation ≠ .close)
    (silent : ∀ event, operation ≠ .notify event) :
    ∃ store, (operation.run database).2 = { database with store } := by
  cases operation with
  | execute request =>
    simp only [run]
    rcases database.store.execute request with ⟨error | output, store⟩ <;> exact ⟨store, rfl⟩
  | close => exact absurd rfl stays
  | notify event => exact absurd rfl (silent event)
  | _ =>
    simp only [run, Database.onStore, Database.look]
    exact ⟨_, rfl⟩

/-- A batch between whose entries nothing else happens changes nothing but the store, and that by
applying entries, undoing them and counting. -/
theorem Item.runAll_alone {ε : Type} {R : Store → Store → Prop} {items : List (Item ε)}
    (alone : ∀ step, Item.step step ∉ items) (trans : ∀ {a b c}, R a b → R b c → R a c)
    (apply : ∀ (batch : Batch) (store : Store) (entry : BatchEntry),
      R store (batch.apply store entry).2)
    (rollback : ∀ (batch : Batch) (store : Store), R store (batch.rollback store))
    (counts : ∀ (store : Store) (stats : Stats), R store { store with stats })
    (database : Database) (state : CommitState ε) :
    ∃ store, (Item.runAll database state items).2 = { database with store } ∧
      R database.store store := by
  induction items generalizing database state with
  | nil => exact ⟨_, rfl, counts _ _⟩
  | cons item rest ih =>
    have hrest : ∀ step, Item.step step ∉ rest := fun step h =>
      alone step (List.mem_cons_of_mem _ h)
    cases item with
    | entry entry =>
      have hentry := apply state.batch database.store entry
      rcases happly : state.batch.apply database.store entry with ⟨error | batch, store⟩ <;>
        rw [happly] at hentry
      · rw [runAll_entry_of_refused happly]
        exact ⟨_, rfl, trans hentry (rollback _ store)⟩
      · rw [runAll_entry_of_applied happly]
        obtain ⟨last, hlast, hrun⟩ := ih hrest { database with store }
          { state with pulled := state.pulled + 1, batch }
        exact ⟨last, hlast, trans hentry hrun⟩
    | failure cause => exact ⟨_, rfl, rollback _ _⟩
    | step step => exact absurd List.mem_cons_self (alone step)

theorem Conversation.batchItems_alone (entries : List BatchEntry) (failure : Option WireError) :
    ∀ step, Item.step step ∉ batchItems entries failure := by
  cases failure <;> simp [batchItems]

/-! ## Requests that fail -/

namespace Database

variable {database : Database}

/-- The record that a key was bound to is read or not there. -/
theorem bound_ok (good : database.Good) (found : Option RecordId) :
    ∃ record, (database.bound found).1 = .ok (.frame record) := by
  cases found with
  | none => exact ⟨none, rfl⟩
  | some id =>
    rw [Conversation.bound_eq_readBound, Conversation.readBound]
    rcases hread : database.store.read id with ⟨error | record, store⟩
    · obtain ⟨name, rfl⟩ := Store.read_error good.coherent (congrArg Prod.fst hread)
      exact ⟨none, rfl⟩
    · exact ⟨record, rfl⟩

theorem contents_bound (database : Database) (found : Option RecordId) :
    (database.bound found).2.store.contents = database.store.contents :=
  bound_of_read (P := fun after => after.store.contents = database.store.contents) found rfl
    fun id => (@Operation.idle_run database (.read id) rfl).contents

theorem bound_store (database : Database) (found : Option RecordId) :
    ∃ store, (database.bound found).2 = { database with store } :=
  bound_of_read (P := fun after => ∃ store, after = { database with store }) found ⟨_, rfl⟩
    fun id => (Operation.read id).run_store database nofun nofun

end Database

namespace Wire.Request

variable {request : Request} {operation : Operation} {database : Database} {error : ServerError}

/-- What is written answers the request, unless it changes a key. -/
theorem respond_of_plan {deeds : List Deed} {answer : Answer}
    (h : request.operation? = some operation)
    (hplan : operation.plan? database.store = some (.act deeds answer)) :
    (∃ found, answer = .identity? found) ∨
      (∀ found, answer ≠ .identity? found) ∧ ∃ response, request.respond answer = .ok response := by
  cases request with
  | addPhysicalCluster | addLogicalCluster | createRecord | updateRecord | deleteRecord =>
    cases h
    obtain ⟨value, rfl⟩ := Plan.answer_of_map (Option.some.inj hplan)
    exact .inr ⟨nofun, _, rfl⟩
  | unbindKey key =>
    cases h
    obtain ⟨found, rfl⟩ := Plan.answer_of_map (Option.some.inj hplan)
    exact .inl ⟨found, rfl⟩
  | bindKey key type identity =>
    rw [operation?] at h
    obtain ⟨id, -, rfl⟩ := Option.map_eq_some_iff.1 h
    obtain ⟨found, rfl⟩ := Plan.answer_of_map (Option.some.inj hplan)
    exact .inl ⟨found, rfl⟩
  | _ => cases h <;> cases hplan

/-- A batch does to the store what its entries and the rollback do, and changes nothing else. -/
theorem ask_commit {R : Store → Store → Prop} (number : Int32) (entries : List BatchEntry)
    (failure : Option WireError) (database : Database)
    (trans : ∀ {a b c : Store}, R a b → R b c → R a c)
    (apply : ∀ (batch : Batch) (store : Store) (entry : BatchEntry),
      R store (batch.apply store entry).2)
    (rollback : ∀ (batch : Batch) (store : Store), R store (batch.rollback store))
    (counts : ∀ (store : Store) (stats : Stats), R store { store with stats }) :
    ∃ store, ((Request.commit number entries failure).ask database).2 = { database with store } ∧
      R database.store store := by
  cases hopen : database.ensureOpen with
  | error error =>
    simp only [ask, Step.run_commit_of_closed hopen]
    exact ⟨database.store, rfl, counts database.store database.store.stats⟩
  | ok _ =>
    simp only [ask, Step.run_commit_of_open hopen]
    exact Item.runAll_alone (R := R) (Conversation.batchItems_alone entries failure) trans apply
      rollback counts database { batch := Batch.start number }

/-- A batch that fails is undone. -/
theorem alike_commit_of_failed {number : Int32} {entries : List BatchEntry}
    {failure : Option WireError} (good : database.Good) (willing : database.store.journal.Willing)
    (failed : ((Request.commit number entries failure).ask database).1 = .error error) :
    database.store.contents.Alike
      ((Request.commit number entries failure).ask database).2.store.contents := by
  have alone := Conversation.batchItems_alone entries failure
  cases hopen : database.ensureOpen with
  | error error =>
    simp only [ask, Step.run_commit_of_closed hopen]
    exact .refl _
  | ok _ =>
    simp only [ask, Step.run_commit_of_open hopen] at failed ⊢
    rcases hrun : Item.runAll database { batch := Batch.start number }
      (Conversation.batchItems entries failure) with ⟨answer | ⟨error | outcome, inner, pulled⟩, after⟩
    · obtain ⟨_, _, _, hreply⟩ := Item.runAll_reply (Conversation.batchItems entries failure) database
        { batch := Batch.start number }
      rw [hrun] at hreply
      cases hreply
    · exact Item.alike_of_failed alone good.sound willing.syncsHold (.nil (.refl _)) rfl hrun
        fun n _ refused => by
          rw [willing.accepts n] at refused
          cases refused
    · rw [hrun] at failed
      cases failed

/-- What fails of an operation leaves what the database held. -/
theorem contents_of_failed (good : database.Good) (willing : database.store.journal.Willing)
    (h : request.operation? = some operation) (failed : (request.ask database).1 = .error error) :
    (request.ask database).2.store.contents = database.store.contents := by
  cases hplan : operation.plan? database.store with
  | none =>
    exact ask_of_run (P := fun after => after.store.contents = database.store.contents) h
      (Operation.idle_run hplan).contents
      fun after found same => (after.contents_bound found).trans same
  | some plan =>
    have hrun := Operation.run_of_plan hplan
    rw [Database.onStore] at hrun
    rcases Store.perform_of_willing willing plan with ⟨error, stats, hperform⟩ |
      ⟨deeds, answer, store, rfl, hperform⟩ <;> rw [hperform] at hrun
    · rw [ask_of_answer h hrun (by rintro _ ⟨⟩)]
    · rcases respond_of_plan h hplan with ⟨found, rfl⟩ | ⟨plain, response, hrespond⟩
      · have hafter := good.operation operation
        rw [hrun] at hafter
        obtain ⟨record, hbound⟩ := Database.bound_ok hafter found
        rw [ask_of_identity h hrun] at failed
        cases hbound.symm.trans failed
      · rw [ask_of_answer h hrun plain] at failed
        cases hrespond.symm.trans failed

/-- What fails of what a database is asked for leaves what it held, except that positions may have been
handed out. -/
theorem alike_of_failed (good : database.Good) (willing : database.store.journal.Willing)
    (failed : (request.ask database).1 = .error error) :
    database.store.contents.Alike (request.ask database).2.store.contents := by
  cases hoperation : request.operation? with
  | some operation =>
    rw [contents_of_failed good willing hoperation failed]
    exact .refl _
  | none =>
    cases request with
    | commit number entries failure => exact alike_commit_of_failed good willing failed
    | _ =>
      simp only [ask, hoperation]
      exact .refl _

/-- Asking a database changes nothing but its store. -/
theorem ask_store (request : Request) (database : Database) :
    ∃ store, (request.ask database).2 = { database with store } := by
  cases hoperation : request.operation? with
  | some operation =>
    have stays : operation ≠ .close := by
      rintro rfl
      cases request <;> simp [operation?] at hoperation
    have silent : ∀ event, operation ≠ .notify event := by
      rintro event rfl
      cases request <;> simp [operation?] at hoperation
    refine ask_of_run (P := fun after => ∃ store, after = { database with store }) hoperation
      (operation.run_store database stays silent) ?_
    rintro _ found ⟨store, rfl⟩
    exact Database.bound_store { database with store } found
  | none =>
    cases request with
    | commit number entries failure =>
      obtain ⟨store, hstore, -⟩ := ask_commit number entries failure database
        (R := fun _ _ => True) (fun _ _ => trivial) (fun _ _ _ => trivial) (fun _ _ => trivial)
        (fun _ _ => trivial)
      exact ⟨store, hstore⟩
    | _ =>
      simp only [ask, hoperation]
      exact ⟨_, rfl⟩

end Wire.Request

/-! ## Databases that are left alone -/

namespace Database

/-- Nothing has changed but that positions may have been handed out and that work is counted. -/
structure SameData (before after : Database) : Prop where
  name : after.name = before.name
  isOpen : after.isOpen = before.isOpen
  contents : before.store.contents.Alike after.store.contents

/-- The same data, which every look at them shows. -/
structure Undisturbed (before after : Database) : Prop extends SameData before after where
  answers : before.store.AnswersAs after.store

variable {before after held now : Database}

theorem SameData.refl (database : Database) : database.SameData database := ⟨rfl, rfl, .refl _⟩

theorem SameData.trans {a b c : Database} (h₁ : a.SameData b) (h₂ : b.SameData c) : a.SameData c :=
  ⟨h₂.name.trans h₁.name, h₂.isOpen.trans h₁.isOpen, h₁.contents.trans h₂.contents⟩

theorem Agrees.sameData (agrees : before.Agrees after) : before.SameData after :=
  ⟨agrees.name, agrees.isOpen, agrees.contents ▸ .refl _⟩

theorem Undisturbed.refl (database : Database) : database.Undisturbed database :=
  ⟨.refl database, fun _ => rfl, fun _ => rfl, fun _ => rfl, fun _ => rfl, rfl⟩

theorem SameData.undisturbed (same : before.SameData after) (hbefore : before.Good)
    (hafter : after.Good) : before.Undisturbed after :=
  ⟨same, Store.answersAs_of_alike same.contents hbefore.coherent hafter.coherent⟩

/-- What fails of what a database is asked for leaves it alone. -/
theorem sameData_of_failed {request : Request} {error : ServerError} (good : before.Good)
    (willing : before.store.journal.Willing) (failed : (request.ask before).1 = .error error) :
    before.SameData (request.ask before).2 := by
  have alike := Request.alike_of_failed good willing failed
  obtain ⟨store, hstore⟩ := request.ask_store before
  rw [hstore] at alike ⊢
  exact ⟨rfl, rfl, alike⟩

end Database

/-- Databases in handles that are left alone are seen so. -/
theorem Depot.undisturbed {before after : Depot} (hbefore : before.AllGood) (hafter : after.AllGood)
    {number : Nat} (h : Option.Rel Database.SameData (before.held? number) (after.held? number)) :
    Option.Rel Database.Undisturbed (before.database? number) (after.database? number) := by
  cases hold : before.held? number <;> cases hnew : after.held? number <;> rw [hold, hnew] at h
  · rw [(database?_eq_none number).2 hold, (database?_eq_none number).2 hnew]
    exact .none
  · cases h
  · cases h
  · rename_i held now
    obtain ⟨same⟩ | _ := h
    obtain ⟨bytes, hold'⟩ := database?_of_held hold
    obtain ⟨bytes', hnew'⟩ := database?_of_held hnew
    have agrees := held.agrees_withFile bytes
    have agrees' := now.agrees_withFile bytes'
    rw [hold', hnew']
    exact .some (((agrees.symm.sameData.trans same).trans agrees'.sameData).undisturbed
      (agrees.good (hbefore number held hold)) (agrees'.good (hafter number now hnew)))

/-! ## Conversations that are left alone -/

namespace Conversation

/-- Neither the session's user and database, nor the list of open databases, nor what is in the databases
has changed. -/
structure Undisturbed (before after : Conversation) : Prop where
  principal : after.session.principal = before.session.principal
  database : after.session.database = before.session.database
  opened : after.host.catalog.opened = before.host.catalog.opened
  databases : ∀ number, Option.Rel Database.Undisturbed
    (before.host.catalog.depot.database? number) (after.host.catalog.depot.database? number)

variable {talk after : Conversation} {error : ServerError}

theorem Undisturbed.refl (talk : Conversation) : talk.Undisturbed talk where
  principal := rfl
  database := rfl
  opened := rfl
  databases number := by
    cases talk.host.catalog.depot.database? number with
    | none => exact .none
    | some database => exact .some (.refl database)

/-- Counting a request is not seen. -/
theorem Undisturbed.count (h : talk.Undisturbed after) (code : UInt8) (failed : Bool) :
    talk.Undisturbed (after.count code failed) :=
  ⟨h.principal, h.database, h.opened, h.databases⟩

theorem undisturbed_of_keeps (sound : talk.host.catalog.Sound) {catalog : Catalog}
    (keeps : talk.host.catalog.Keeps catalog) :
    talk.Undisturbed { talk with host := { talk.host with catalog } } where
  principal := rfl
  database := rfl
  opened := keeps.opened
  databases number := by
    refine Depot.undisturbed sound.good (keeps.sound sound).good ?_
    rw [keeps.held?]
    cases talk.host.catalog.depot.held? number with
    | none => exact .none
    | some database => exact .some (.refl database)

/-- Something with a database that fails and leaves that database alone. -/
theorem undisturbed_run {α : Type} {number : Nat}
    {action : Database → Except ServerError α × Database} (sound : talk.host.catalog.Sound)
    (keepsGood : ∀ database : Database, database.Good → (action database).2.Good)
    (same : ∀ database, talk.host.catalog.depot.database? number = some database →
      (action database).1 = .error error → database.SameData (action database).2)
    (failed : (talk.run number action).1 = .error error) :
    talk.Undisturbed (talk.run number action).2 where
  principal := rfl
  database := rfl
  opened := rfl
  databases other := by
    have hsound : (talk.run number action).2.host.catalog.Sound := sound.run number keepsGood
    refine Depot.undisturbed sound.good hsound.good ?_
    have hrefl : Option.Rel Database.SameData (talk.host.catalog.depot.held? other)
        (talk.host.catalog.depot.held? other) := by
      cases talk.host.catalog.depot.held? other with
      | none => exact .none
      | some database => exact .some (.refl database)
    rcases talk.host.catalog.depot.run_spec number action with ⟨-, hnone⟩ |
      ⟨database, hdatabase, hanswer, hheld⟩
    · have hafter : (talk.run number action).2.host.catalog.depot = talk.host.catalog.depot :=
        congrArg Prod.snd hnone
      rw [hafter]
      exact hrefl
    · have hafter : (talk.run number action).2.host.catalog.depot.held? other =
          if other = number then some { (action database).2 with notices := [] }
          else talk.host.catalog.depot.held? other := hheld other
      rw [hafter]
      split
      · rename_i hother
        have hfails : (action database).1 = .error error := by
          have hrun : (talk.run number action).1 =
            (talk.host.catalog.depot.run number action).1.getD (.error .noDatabase) := rfl
          rw [hrun, hanswer] at failed
          exact failed
        obtain ⟨held, hfound, agrees⟩ := Depot.agrees_of_database? hdatabase
        have hsame := agrees.sameData.trans (same database hdatabase hfails)
        rw [hother, hfound]
        exact .some ⟨hsame.name, hsame.isOpen, hsame.contents⟩
      · exact hrefl

theorem database_of_permitted {resource : Resource} {access : Access} {number : Nat}
    (h : talk.permitted resource access = .ok number) : talk.session.database = some number := by
  unfold permitted openNumber at h
  cases hdatabase : talk.session.database with
  | none =>
    rw [hdatabase] at h
    cases h
  | some found =>
    rw [hdatabase] at h
    simp only at h
    split at h
    · rcases hallowed : talk.session.authorize resource access with error | _ <;>
        rw [hallowed] at h <;> cases h
      rfl
    · cases h

theorem undisturbed_asked {request : Request} {number : Nat} (sound : talk.host.catalog.Sound)
    (willing : ∀ database, talk.host.catalog.depot.database? number = some database →
      database.store.journal.Willing)
    (failed : (talk.asked request number).1 = .error error) :
    talk.Undisturbed (talk.asked request number).2 := by
  have hhost := talk.host_remember request
  have hprincipal : (talk.remember request).session.principal = talk.session.principal := by
    cases request <;> rfl
  have hdatabase : (talk.remember request).session.database = talk.session.database := by
    cases request <;> rfl
  have hrun : (talk.remember request).Undisturbed (talk.asked request number).2 := by
    refine undisturbed_run (hhost ▸ sound) (fun _ good => good.ask request)
      (fun database hfound hfails => ?_) failed
    rw [hhost] at hfound
    obtain ⟨held, hheld, agrees⟩ := Depot.agrees_of_database? hfound
    exact Database.sameData_of_failed (agrees.good (sound.good number held hheld))
      (willing database hfound) hfails
  exact ⟨hrun.principal.trans hprincipal, hrun.database.trans hdatabase,
    hrun.opened.trans (congrArg (·.catalog.opened) hhost), fun number => hhost ▸ hrun.databases number⟩

/-- A session's database is opened only if it is there. -/
theorem openDatabase_cases [Hashing] (sound : talk.host.catalog.Sound) (url user password : String) :
    (∃ response, (talk.openDatabase url user password).1 = .ok response) ∨
      talk.Undisturbed (talk.openDatabase url user password).2 := by
  unfold openDatabase
  cases talk.opener user password with
  | error error => exact .inr (.refl talk)
  | ok principal =>
    have provides := Catalog.provides_openDatabase sound (databaseNameAt url)
    rcases hopened : talk.host.catalog.openDatabase (databaseNameAt url) with ⟨result, catalog⟩
    rw [hopened] at provides
    cases provides with
    | failed keeps => exact .inr (undisturbed_of_keeps sound keeps)
    | @provided number database _ hsound hheld =>
      obtain ⟨bytes, hfound⟩ := Depot.database?_of_held hheld
      refine .inl ⟨.opened talk.session.id (clusterEntries (database.withFile bytes).store), ?_⟩
      simp only [run_fst, bind, hfound]

theorem createDatabase_cases (sound : talk.host.catalog.Sound) (name mode : String) :
    (∃ response, (talk.createDatabase name mode).1 = .ok response) ∨
      talk.Undisturbed (talk.createDatabase name mode).2 := by
  unfold createDatabase
  cases talk.session.authorize .server .create with
  | error error => exact .inr (.refl talk)
  | ok _ =>
    have provides := Catalog.provides_create sound name mode
    rcases hcreated : talk.host.catalog.create name mode with ⟨result, catalog⟩
    rw [hcreated] at provides
    cases provides with
    | failed keeps => exact .inr (undisturbed_of_keeps sound keeps)
    | provided _ _ => exact .inl ⟨_, rfl⟩

/-- A request that fails is not seen, while the journal of the session's database takes every append. -/
theorem undisturbed_of_failed [Hashing] {request : Request} (sound : talk.host.catalog.Sound)
    (willing : ∀ number database, talk.session.database = some number →
      talk.host.catalog.depot.database? number = some database → database.store.journal.Willing)
    (failed : (talk.perform request).1 = .error error) :
    talk.Undisturbed (talk.perform request).2 := by
  cases hpermission : request.permission? with
  | some permission =>
    obtain ⟨resource, access⟩ := permission
    by_cases hnamed : ∀ key type identity, request = .bindKey key type identity →
        (RecordId.parse? identity).isSome
    · rw [perform_eq_ask hpermission hnamed] at failed ⊢
      cases hpermitted : talk.permitted resource access with
      | error error => exact .refl talk
      | ok number =>
        rw [hpermitted] at failed
        exact undisturbed_asked sound
          (fun database => willing number database (database_of_permitted hpermitted)) failed
    · simp only [Classical.not_forall, Option.not_isSome_iff_eq_none] at hnamed
      obtain ⟨key, type, identity, rfl, hidentity⟩ := hnamed
      simp only [perform, bindKey, hidentity]
      exact .refl talk
  | none =>
    cases request with
    | connect user password =>
      simp only [perform, connect] at failed ⊢
      cases hprincipal : talk.host.accounts.authenticate user password with
      | error error => exact .refl talk
      | ok principal =>
        rw [hprincipal] at failed
        cases failed
    | openDatabase url user password =>
      rcases openDatabase_cases sound url user password with ⟨response, hok⟩ | h
      · cases hok.symm.trans failed
      · exact h
    | createDatabase name mode =>
      rcases createDatabase_cases sound name mode with ⟨response, hok⟩ | h
      · cases hok.symm.trans failed
      · exact h
    | closeDatabase => cases failed
    | databaseExists =>
      simp only [perform, databaseExists, onDatabase] at failed ⊢
      cases hpermitted : talk.permitted .database .read with
      | error error => exact .refl talk
      | ok number =>
        rw [hpermitted] at failed
        exact undisturbed_run sound (fun _ good => good) (fun _ _ _ => .refl _) failed
    | _ => cases hpermission

/-- A request that was carried out is not answered as a failure: its status comes first, whatever can be
sent of the rest. -/
theorem status_answer [Codec] {opcode : Opcode} {response : Response} {channel : Channel} {rest : Bytes}
    (h : (answer opcode (.ok response) channel).2.2.sink.written =
      channel.sink.written ++ Wire.failureStatus :: rest) : False := by
  obtain ⟨front, hfront, hwritten⟩ := extends_answer opcode (.ok response) channel
  obtain ⟨payload, hstatus⟩ := response.sendable_message
  obtain ⟨more, hmore⟩ : Wire.failureStatus :: rest <+: _ :=
    List.append_cancel_left (hwritten.symm.trans h) ▸ hfront
  rw [answerFields, hstatus] at hmore
  cases hmore

/-- A request that is answered with a failure has no effect: neither the session's user and database, nor
which databases are open, nor their clusters, records, counts and keys change, provided that the log of the
session's database takes every append. -/
theorem rejected_request_has_no_effect [Codec] [Hashing] {channel : Channel} {rest : Bytes}
    (reached : talk.host.Reached)
    (willing : ∀ number database, talk.session.database = some number →
      talk.host.catalog.depot.database? number = some database → database.store.journal.Willing)
    (rejected : (talk.cycle channel).2.2.sink.written =
      channel.sink.written ++ Wire.failureStatus :: rest) :
    talk.Undisturbed (talk.cycle channel).2.1 := by
  rcases talk.cycle_cases channel with ⟨source, h⟩ | ⟨code, outcome, after, h⟩ | ⟨opcode, h⟩ <;>
    rw [h] at rejected ⊢
  · exact .refl talk
  · exact (Undisturbed.refl talk).count code true
  · rcases hread : Request.decode opcode channel.source.atOperands with ⟨request, source⟩
    have hdone : ∀ error, (talk.performRead request).1 = .error error →
        talk.Undisturbed (talk.performRead request).2 := by
      cases request with
      | error error => exact fun _ _ => .refl talk
      | ok request => exact fun _ failed => undisturbed_of_failed reached.sound willing failed
    rcases hperformed : talk.performRead request with ⟨error | response, performed⟩ <;>
      rw [hperformed] at hdone <;> rw [serve_of_performed hread hperformed] at rejected ⊢
    · exact (hdone error rfl).count opcode.code _
    · exact (status_answer rejected).elim

/-- The session of an administrator on a database in memory. -/
def settled : Conversation where
  host := { fresh.host with catalog := (fresh.host.catalog.create "a" "memory").2 }
  session := { id := "a", principal := some { name := "a", role := .admin }, database := some 0 }

/-- A batch whose second entry updates a record that there is not. -/
def brokenBatch : Channel where
  source := { arrived := Opcode.commit.code :: Wire.encode (Wire.batchFields 1
    [.create 0 none (some [1]), .update ⟨0, 7⟩ 0 (some [2])]) }

theorem reached_settled : settled.host.Reached :=
  have starts : Host.start { accounts := [] } false [] { root := "" } = .ok fresh.host := rfl
  .changed (.started starts) (.created "a" "memory")

theorem rejected_request_has_no_effect_of_batch :
    (settled.cycle brokenBatch).2.1.session.failures = 1 ∧
      settled.Undisturbed (settled.cycle brokenBatch).2.1 := by
  have hjournal : (settled.host.catalog.depot.database? 0).map (fun database =>
      (database.store.journal.refusals, database.store.journal.syncFaults,
        database.store.journal.syncFails)) = some ([], [], false) := by decide +kernel
  have willing : ∀ number database, settled.session.database = some number →
      settled.host.catalog.depot.database? number = some database →
        database.store.journal.Willing := by
    rintro _ database ⟨⟩ hdatabase
    rw [hdatabase] at hjournal
    obtain ⟨hrefusals, hfaults, hfails⟩ := by simpa using hjournal
    exact ⟨fun n => by rw [hrefusals, Faults.fate_nil], fun n => by rw [hfaults, Faults.fate_nil, hfails]⟩
  have hstatus : (settled.cycle brokenBatch).2.2.sink.written.head? = some Wire.failureStatus := by
    decide +kernel
  exact ⟨by decide +kernel,
    rejected_request_has_no_effect reached_settled willing (List.eq_cons_of_mem_head? hstatus)⟩

end Conversation

end RecordBase
