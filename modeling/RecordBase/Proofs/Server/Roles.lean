import RecordBase.Proofs.Catalog.Bounds
import RecordBase.Proofs.Server.Rejection

/-!
# What a role bounds

* `Host.Reached.ordered`: on every host that is reached, an open database that is kept in a directory is the
  only one that keeps it locked, so that nothing else is opened there.
* `Conversation.role_bounds_request`: whatever a client sends, on a session whose user is not an
  administrator no cluster is added and no database is made, and on one whose user is a reader, or that
  has no user, what the open databases hold and their logs stay as they are.
-/

namespace RecordBase

open Files (Place)
open Wire (Channel Request)

/-! ## Hosts keep their directories locked -/

theorem Wire.Request.isOpen_ask (request : Request) (database : Database) :
    (request.ask database).2.isOpen = database.isOpen := by
  obtain ⟨store, h⟩ := request.ask_store database
  rw [h]

namespace Conversation

variable {talk : Conversation} {after : Catalog}

theorem Acts.ordered (acts : talk.Acts after) (ordered : talk.host.catalog.depot.Ordered) :
    after.depot.Ordered := by
  cases acts with
  | nothing => exact ordered
  | @asked request =>
    exact Catalog.ordered_run ordered _ fun database h => request.isOpen_ask database ▸ h
  | looked => exact Catalog.ordered_run ordered _ fun _ h => h
  | missed => exact Catalog.ordered_openDatabase ordered _
  | opened =>
    exact Catalog.ordered_run (Catalog.ordered_openDatabase ordered _) _ fun _ h => h
  | created name mode => exact Catalog.ordered_create ordered name mode

end Conversation

theorem Catalog.Change.ordered {catalog after : Catalog} (change : catalog.Change after)
    (ordered : catalog.depot.Ordered) : after.depot.Ordered := by
  cases change with
  | registered | observed | heard => exact ordered
  | disk => exact ordered.same rfl rfl rfl
  | created name mode => exact ordered_create ordered name mode
  | opened name => exact ordered_openDatabase ordered name
  | stepped number step => exact ordered_run ordered number fun database => step.isOpen_of_run database
  | failing number => exact ordered_run ordered number fun _ h => h
  | released used => exact ordered.retain _
  | shutDown => exact ordered_closeAll ordered _

theorem Host.Reached.ordered [Codec] [Hashing] {host : Host} (reached : host.Reached) :
    host.catalog.depot.Ordered := by
  induction reached with
  | @started settings usesDisk listeners disk host starts =>
    unfold start at starts
    split at starts <;> cases starts
    exact Catalog.ordered_start _ _ _
  | served reached session channel ih => exact (Conversation.acts_cycle _ channel).ordered ih
  | changed reached change ih => exact change.ordered ih
  | restarted reached usesDisk ih => exact Catalog.ordered_start _ _ _

/-! ## What a request may write -/

namespace Database

variable {database : Database}

theorem untouched_run {operation : Operation} (database : Database)
    (idle : operation.plan? database.store = none) (stays : operation ≠ .close)
    (silent : ∀ event, operation ≠ .notify event) :
    database.Untouched (operation.run database).2 := by
  obtain ⟨store, hstore⟩ := operation.run_store database stays silent
  have hidle := Operation.idle_run idle
  exact ⟨by rw [hstore], hidle.contents, hidle.medium⟩

theorem untouched_bound (database : Database) (found : Option RecordId) :
    database.Untouched (database.bound found).2 :=
  bound_of_read (P := database.Untouched) found (.refl database)
    fun _ => untouched_run database rfl nofun nofun

end Database

namespace Wire.Request

variable {request : Request} {database : Database}

/-- A request that takes no more than the permission to read writes nothing. -/
theorem untouched_of_read {resource : Resource} (h : request.permission? = some (resource, .read)) :
    database.Untouched (request.ask database).2 := by
  obtain ⟨operation, hoperation, hplan, stays, silent⟩ :
      ∃ operation, request.operation? = some operation ∧ operation.plan? database.store = none ∧
        operation ≠ .close ∧ ∀ event, operation ≠ .notify event := by
    cases request <;> cases h <;> exact ⟨_, rfl, rfl, nofun, nofun⟩
  exact ask_of_run (P := database.Untouched) hoperation (database.untouched_run hplan stays silent)
    fun after found h => h.trans (after.untouched_bound found)

theorem sameClusters_of_operation {operation : Operation} (h : request.operation? = some operation)
    (lists : ∀ plan, operation.plan? database.store = some plan →
      plan.Each Contents.ListsNone database.store.contents) :
    database.store.contents.SameClusters (request.ask database).2.store.contents :=
  ask_of_run (P := fun after => database.store.contents.SameClusters after.store.contents) h
    (Operation.sameClusters_run lists)
    fun after found same => same.trans (.of_eq (after.contents_bound found))

theorem sameClusters_of_commit (number : Int32) (entries : List BatchEntry)
    (failure : Option WireError) (database : Database) :
    database.store.contents.SameClusters
      ((Request.commit number entries failure).ask database).2.store.contents := by
  obtain ⟨store, hstore, hsame⟩ := ask_commit number entries failure database
    (R := fun before after => before.contents.SameClusters after.contents) (fun h h' => h.trans h')
    Batch.sameClusters_apply Batch.sameClusters_rollback (fun _ _ => .refl _)
  rw [hstore]
  exact hsame

/-- A request that takes no permission for the database as a whole lists no cluster. -/
theorem sameClusters_of_permission {resource : Resource} {access : Access}
    (h : request.permission? = some (resource, access)) (data : resource ≠ .database) :
    database.store.contents.SameClusters (request.ask database).2.store.contents := by
  cases request with
  | connect | openDatabase | createDatabase | closeDatabase | databaseExists => cases h
  | addPhysicalCluster | addLogicalCluster =>
    cases h
    exact absurd rfl data
  | commit number entries failure => exact sameClusters_of_commit number entries failure database
  | createRecord cluster content type =>
    refine sameClusters_of_operation rfl fun plan hplan => ?_
    obtain rfl := Option.some.inj hplan
    exact (database.store.createPlan_listsNone cluster content type).map _
  | updateRecord id content version type =>
    refine sameClusters_of_operation rfl fun plan hplan => ?_
    obtain rfl := Option.some.inj hplan
    exact (database.store.replacePlan_listsNone id content version (some type)).map _
  | deleteRecord id version =>
    refine sameClusters_of_operation rfl fun plan hplan => ?_
    obtain rfl := Option.some.inj hplan
    exact (database.store.removePlan_listsNone id version).map _
  | unbindKey key =>
    refine sameClusters_of_operation rfl fun plan hplan => ?_
    obtain rfl := Option.some.inj hplan
    exact (database.store.unbindPlan_listsNone key).map _
  | bindKey key type identity =>
    cases hid : RecordId.parse? identity with
    | none =>
      simp only [ask, operation?, hid, Option.map_none]
      exact .refl _
    | some id =>
      refine @sameClusters_of_operation _ database (.bind key id) ?_ fun plan hplan => ?_
      · simp only [operation?, hid, Option.map_some]
      · obtain rfl := Option.some.inj hplan
        exact (database.store.bindPlan_listsNone key id).map _
  -- The others have no plan at all.
  | _ => exact sameClusters_of_operation rfl (by rintro _ ⟨⟩)

end Wire.Request

/-! ## Roles -/

namespace Role

variable {resource : Resource} {access : Access}

theorem reader_reads (h : reader.allows resource access = true) : access = .read := by
  simp only [allows, Bool.and_eq_true, decide_eq_true_eq] at h
  exact h.2

/-- Neither a writer nor a reader may do anything to the set of databases, or more than read with a
database as a whole. -/
theorem bounds_of_allows {role : Role} (hrole : role ∈ [writer, reader])
    (h : role.allows resource access = true) :
    resource ≠ .server ∧ (resource = .database → access = .read) := by
  cases role with
  | admin => simp at hrole
  | writer => cases resource <;> simp_all [allows]
  | reader => exact ⟨by rintro rfl; simp [allows] at h, fun _ => reader_reads h⟩

end Role

namespace Conversation

variable {talk : Conversation} {after : Catalog}

/-- The user of the session, if somebody has authenticated, has one of some roles. -/
def Bounded (talk : Conversation) (roles : List Role) : Prop :=
  ∀ principal, talk.session.principal = some principal → principal.role ∈ roles

theorem allows_of_authorize {session : Session} {resource : Resource} {access : Access}
    (h : session.authorize resource access = .ok ()) :
    ∃ principal, session.principal = some principal ∧
      principal.role.allows resource access = true := by
  unfold Session.authorize Session.user at h
  cases hprincipal : session.principal with
  | none =>
    rw [hprincipal] at h
    cases h
  | some principal =>
    rw [hprincipal] at h
    refine ⟨principal, rfl, ?_⟩
    by_contra hallows
    change (if principal.role.allows resource access then _ else _) = _ at h
    rw [if_neg hallows] at h
    cases h

theorem allows_of_permitted {resource : Resource} {access : Access} {number : Nat}
    (h : talk.permitted resource access = .ok number) :
    talk.host.catalog.depot.isOpen number = true ∧
      ∃ principal, talk.session.principal = some principal ∧
        principal.role.allows resource access = true := by
  unfold permitted at h
  cases hnumber : talk.openNumber with
  | error error =>
    rw [hnumber] at h
    cases h
  | ok found =>
    rw [hnumber] at h
    cases hauthorized : talk.session.authorize resource access with
    | error error =>
      rw [hauthorized] at h
      cases h
    | ok _ =>
      rw [hauthorized] at h
      cases h
      refine ⟨?_, allows_of_authorize hauthorized⟩
      unfold openNumber at hnumber
      split at hnumber
      · split at hnumber
        · rename_i hopen
          cases hnumber
          exact hopen
        · cases hnumber
      · cases hnumber

theorem Acts.unextended (acts : talk.Acts after) (ordered : talk.host.catalog.depot.Ordered)
    (bounded : talk.Bounded [.writer, .reader]) : talk.host.catalog.Unextended after := by
  cases acts with
  | nothing => exact .refl _
  | @asked request resource access number permission permitted =>
    obtain ⟨hopen, principal, hprincipal, hallows⟩ := allows_of_permitted permitted
    refine Catalog.unextended_run hopen fun database _ => ?_
    by_cases data : resource = .database
    · obtain rfl := (Role.bounds_of_allows (bounded principal hprincipal) hallows).2 data
      exact .of_eq (Request.untouched_of_read permission).contents
    · exact Request.sameClusters_of_permission permission data
  | looked number view =>
    exact (Catalog.Unextended.refl _).looks (talk.host.catalog.looks_view number view)
      (fun place hat => .inr ⟨number, hat⟩) rfl
  | missed => exact (Catalog.enters_openDatabase ordered _).unextended
  | opened view found =>
    exact ((Catalog.enters_openDatabase ordered _).looks found (Catalog.looks_view _ _ view) rfl).1
  | created name mode permitted =>
    obtain ⟨principal, hprincipal, hallows⟩ := allows_of_authorize permitted
    exact absurd rfl (Role.bounds_of_allows (bounded principal hprincipal) hallows).1

theorem Acts.untouched (acts : talk.Acts after) (ordered : talk.host.catalog.depot.Ordered)
    (bounded : talk.Bounded [.reader]) : talk.host.catalog.Untouched after := by
  cases acts with
  | nothing => exact .refl _
  | asked permission permitted =>
    obtain ⟨-, principal, hprincipal, hallows⟩ := allows_of_permitted permitted
    rw [List.mem_singleton.1 (bounded principal hprincipal)] at hallows
    obtain rfl := Role.reader_reads hallows
    exact .of_looks (talk.host.catalog.looks_run _ fun _ => Request.untouched_of_read permission)
  | looked number view =>
    exact .of_looks (talk.host.catalog.looks_view number view)
  | missed => exact (Catalog.enters_openDatabase ordered _).untouched
  | opened view found =>
    exact ((Catalog.enters_openDatabase ordered _).looks found (Catalog.looks_view _ _ view) rfl).2
  | created name mode permitted =>
    obtain ⟨principal, hprincipal, hallows⟩ := allows_of_authorize permitted
    rw [List.mem_singleton.1 (bounded principal hprincipal)] at hallows
    cases hallows

/-- Roles bound what a request can change. On a session whose user is not an administrator, a request adds
no cluster and makes no database, whatever its bytes are and whether it succeeds or fails; only a log that
lists no cluster gets its first ones when the request opens it. If the user is a reader, or nobody has
authenticated, every open database also keeps its clusters, records and keys, and its log. -/
theorem role_bounds_request [Codec] [Hashing] (reached : talk.host.Reached) (channel : Channel)
    (bounded : talk.Bounded [.writer, .reader]) :
    talk.host.catalog.Unextended (talk.cycle channel).2.1.host.catalog ∧
      (talk.Bounded [.reader] →
        talk.host.catalog.Untouched (talk.cycle channel).2.1.host.catalog) :=
  have acts := talk.acts_cycle channel
  ⟨acts.unextended reached.ordered bounded, acts.untouched reached.ordered⟩

/-- The session of a reader on a database in memory. -/
def reading : Conversation :=
  { settled with session := { settled.session with principal := some ⟨"a", .reader⟩ } }

/-- The batch of a reader: its first entry would create a record. -/
theorem role_bounds_request_of_batch :
    reading.host.catalog.depot.isOpen 0 = true ∧
      reading.host.catalog.Unextended (reading.cycle brokenBatch).2.1.host.catalog ∧
      reading.host.catalog.Untouched (reading.cycle brokenBatch).2.1.host.catalog := by
  have reached : reading.host.Reached := reached_settled
  have bounded (roles : List Role) (h : Role.reader ∈ roles) : reading.Bounded roles := by
    rintro _ ⟨⟩
    exact h
  obtain ⟨hextended, huntouched⟩ :=
    role_bounds_request reached brokenBatch (bounded [.writer, .reader] (by decide))
  exact ⟨by decide +kernel, hextended, huntouched (bounded [.reader] (by decide))⟩

/-- One user, a writer whose password is his name. -/
def writerSettings : ServerSettings where
  accounts :=
    [⟨"a", "3ecf5388e220da9e0f919485deb676d8bee3aec046a779353b463418511ee622", .writer⟩]

/-- The session of that writer on a server that keeps one database, whose log is empty. -/
def keeping : Conversation where
  host :=
    { settings := writerSettings
      accounts := (Accounts.ofList writerSettings.accounts).toOption.getD {}
      catalog := .start writerSettings.database true { disk := .putLog { root := "" } "b" [] } }
  session := { id := "a", principal := some ⟨"a", .writer⟩ }

/-- The request to open that database. -/
def opening : Channel where
  source := { arrived := Wire.encode (Request.openDatabase "b" "a" "a").fields }

/-- A writer adds clusters to a database that is kept, though not to an open one: opening an empty log lists
the first ones in it. -/
theorem opening_lists_first_clusters :
    keeping.host.Reached ∧ keeping.Bounded [.writer] ∧
      keeping.host.catalog.depot.disk.logUnder? "b" = some [] ∧
      ((keeping.cycle opening).2.1.host.catalog.depot.database? 0).map
          (fun database => database.store.clusters.map (·.name)) =
        some ["internal", "index", "default", "users", "roles", "dictionary"] := by
  have starts : Host.start writerSettings true [] (.putLog { root := "" } "b" []) =
      .ok keeping.host := rfl
  refine ⟨.started starts, ?_, by decide +kernel, by decide +kernel⟩
  rintro _ ⟨⟩
  decide

end Conversation

end RecordBase
