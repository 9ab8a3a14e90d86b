import Mathlib.Data.List.Nodup
import RecordBase.Proofs.Catalog.Moves

/-!
# What becomes of failures

Listeners may fail when they are told of a database that is made, opened or closed, and a log when its
database is closed. Whether they do is for each listener's own answer to say (`Listener.objection?`) and for
the journal's (`Store.settle`). The catalog keeps the failures that come up while it makes and opens
databases until somebody asks for them or shuts it down; those of a shutdown are in its report.

* `Catalog.raises`, `Catalog.reports`: the failures that come up in a move, and the ones it reports.
  `raisedBy_eq`: whatever came up was reported once, in the order in which it came up, or is kept still.
* `Depot.closing_closeAll`: closing databases raises what each of them raises by itself.
* `Catalog.lifecycle`: the account of all failures, what a failure does not prevent, and what a shutdown
  leaves.
-/

namespace RecordBase

variable {ε : Type}

/-! ## Closing one database -/

/-- Whether a log can be settled does not depend on what it holds. -/
theorem Journal.settle_of_medium (journal : Journal) (medium : Medium) :
    ({ journal with medium }).settle.1 = journal.settle.1 := by
  unfold settle flush
  cases obey journal.flushFails <;> rfl

namespace Database

/-- The failures that come up when a database is closed: what its listeners answer to the call that tells
them, and why its log is not settled. -/
def closingFailures (database : Database) : List Failure :=
  if database.isOpen then
    database.listeners.filterMap
        (·.objection? ⟨.closing, database.name, database.number, database.told, false⟩) ++
      match database.store.settle.1 with
      | .error error => [⟨"segment log of " ++ database.name, error.message⟩]
      | .ok () => []
  else []

/-- The calls when a database is closed: one of each listener. -/
def closingNotices (database : Database) : List Notice :=
  if database.isOpen then
    database.listeners.map fun listener => ⟨listener.name, .closing, database.name, false⟩
  else []

variable {database : Database}

theorem failures_close (database : Database) : database.close.1 = database.closingFailures := by
  cases isOpen : database.isOpen with
  | false => simp only [close_of_closed isOpen, closingFailures, isOpen, Bool.false_eq_true, if_false]
  | true =>
    simp only [closingFailures, isOpen, if_true]
    cases settled : database.store.settle.1 with
    | ok _ => rw [fst_close_of_settled isOpen settled, failures_notify, List.append_nil]; rfl
    | error error => rw [fst_close_of_unsettled isOpen settled, failures_notify]; rfl

theorem notices_close (database : Database) :
    database.close.2.notices = database.notices ++ database.closingNotices := by
  cases isOpen : database.isOpen with
  | false =>
    simp only [close_of_closed isOpen, closingNotices, isOpen, Bool.false_eq_true, if_false,
      List.append_nil]
  | true =>
    simp only [closingNotices, isOpen, if_true, snd_close isOpen]
    rfl

/-- What a file holds does not matter. -/
theorem closing_withFile (database : Database) (bytes : Bytes) :
    (database.withFile bytes).closingFailures = database.closingFailures ∧
      (database.withFile bytes).closingNotices = database.closingNotices ∧
      (database.withFile bytes).notices = database.notices := by
  unfold withFile
  split
  · refine ⟨?_, rfl, rfl⟩
    simp only [closingFailures, Store.settle, Journal.settle_of_medium]
  · exact ⟨rfl, rfl, rfl⟩

end Database

namespace Depot

variable {depot : Depot}

theorem openStored_of_handles (depot : Depot) (settings : Settings) (name : String) (create : Bool)
    (handles : Table Nat Handle) (notices : List Notice) :
    ({ depot with handles, notices }.openStored settings name create).1 =
      (depot.openStored settings name create).1 := by
  unfold openStored enter lock
  simp only
  rcases depot.disk.provide name create with ⟨error | home, disk⟩
  · rfl
  · simp only
    rcases disk.openLock home with ⟨error | _, disk⟩
    · rfl
    · by_cases hlocked : depot.locked.contains home = true
      · simp only [if_pos hlocked]
        rfl
      · simp only [if_neg hlocked, Except.map]
        rcases disk.openLog home with ⟨error | log, disk⟩
        · rfl
        · simp only [openLog]
          rcases Database.ofMedium name .directory settings (.file (.ofFile log)) with
            ⟨error | database, medium⟩ <;> rfl

theorem createBy_of_handles (depot : Depot) (settings : Settings) (name : String) (mode : StorageMode)
    (handles : Table Nat Handle) (notices : List Notice) :
    ({ depot with handles, notices }.createBy settings name mode).1 =
      (depot.createBy settings name mode).1 := by
  cases mode with
  | memory =>
    simp only [createBy, openMemory]
    split <;> rfl
  | directory =>
    simp only [createBy]
    split
    · rfl
    · exact depot.openStored_of_handles settings name true handles notices

theorem openBy_of_handles (depot : Depot) (settings : Settings) (name : String) (mode : StorageMode)
    (handles : Table Nat Handle) (notices : List Notice) :
    ({ depot with handles, notices }.openBy settings name mode).1 =
      (depot.openBy settings name mode).1 := by
  cases mode with
  | memory => rfl
  | directory =>
    simp only [openBy]
    split
    · rfl
    · exact congrArg (Except.map some) (depot.openStored_of_handles settings name false handles notices)

/-! ## Closing several databases -/

@[simp] theorem notices_unlock (depot : Depot) (held? : Option Files.Place) :
    (depot.unlock held?).notices = depot.notices := by
  cases held? <;> rfl

@[simp] theorem notices_writeFile (depot : Depot) (home : Option Files.Place) (database : Database) :
    (depot.writeFile home database).notices = depot.notices := by
  unfold writeFile
  split <;> rfl

@[simp] theorem notices_replace (depot : Depot) (number : Nat) (handle : Handle)
    (database : Database) : (depot.replace number handle database).notices = depot.notices := by
  unfold replace
  split
  · rfl
  · exact notices_unlock ..

theorem notices_run {α : Type} (depot : Depot) (number : Nat) (action : Database → α × Database) :
    (depot.run number action).2.notices = depot.notices ++
      (depot.database? number).elim [] fun database => (action database).2.notices := by
  unfold run
  cases hdatabase : depot.database? number with
  | none => exact (List.append_nil _).symm
  | some database =>
    obtain ⟨held, home, locks, hhandle, -⟩ := handle_of_database? hdatabase
    simp only [put, hhandle, notices_replace, notices_writeFile, Option.elim_some]

/-- Closing a database raises its failures and calls its listeners. -/
theorem closing_run (collected : depot.Collected) (number : Nat) :
    (depot.run number Database.close).1.getD [] =
        (depot.held? number).elim [] Database.closingFailures ∧
      (depot.run number Database.close).2.notices = depot.notices ++
        (depot.held? number).elim [] Database.closingNotices := by
  rw [notices_run, run]
  cases hdatabase : depot.database? number with
  | none =>
    rw [(database?_eq_none number).1 hdatabase]
    exact ⟨rfl, rfl⟩
  | some database =>
    obtain ⟨held, home, locks, hhandle, rfl⟩ := handle_of_database? hdatabase
    have hheld := held?_eq_some_iff.2 ⟨home, locks, hhandle⟩
    obtain ⟨hfailures, hnotices, hnoted⟩ :=
      held.closing_withFile ((home.bind depot.disk.log?).getD [])
    rw [hheld]
    refine ⟨(Database.failures_close _).trans hfailures, ?_⟩
    rw [Option.elim_some, Option.elim_some, Database.notices_close, hnotices, hnoted,
      collected number held hheld, List.nil_append]

/-- Closing a database that is closed raises nothing and calls nobody. -/
theorem run_close_of_closed (collected : depot.Collected) {number : Nat} {database : Database}
    (held : depot.held? number = some database) (closed : database.isOpen = false) :
    (depot.run number Database.close).1 = some [] ∧
      (depot.run number Database.close).2.notices = depot.notices := by
  have hfailures : database.closingFailures = [] := by simp [Database.closingFailures, closed]
  have hnotices : database.closingNotices = [] := by simp [Database.closingNotices, closed]
  obtain ⟨hfirst, hnoted⟩ := closing_run collected number
  rw [held, Option.elim_some, hfailures] at hfirst
  rw [held, Option.elim_some, hnotices, List.append_nil] at hnoted
  rcases depot.run_spec number Database.close with ⟨hnone, -⟩ | ⟨found, -, hanswer, -⟩
  · rw [held] at hnone
    cases hnone
  · rw [hanswer] at hfirst ⊢
    exact ⟨congrArg some hfirst, hnoted⟩

/-- Closing databases raises what each of them raises by itself. -/
theorem closing_closeAll (collected : depot.Collected) {numbers : List Nat} (nodup : numbers.Nodup) :
    (Catalog.closeAll depot numbers).1 =
        numbers.flatMap (fun number => (depot.held? number).elim [] Database.closingFailures) ∧
      (Catalog.closeAll depot numbers).2.notices = depot.notices ++
        numbers.flatMap (fun number => (depot.held? number).elim [] Database.closingNotices) := by
  induction numbers generalizing depot with
  | nil => exact ⟨rfl, (List.append_nil _).symm⟩
  | cons number rest ih =>
    obtain ⟨hnumber, hrest⟩ := List.nodup_cons.1 nodup
    obtain ⟨hfirst, hnotes⟩ := closing_run collected number
    obtain ⟨hothers, hnoted⟩ := ih (collected.run number Database.close) hrest
    -- Closing the first one leaves the others as they are.
    have hsame {β : Type} (f : Database → List β) :
        rest.flatMap (fun other => ((depot.run number Database.close).2.held? other).elim [] f) =
          rest.flatMap fun other => (depot.held? other).elim [] f := by
      refine List.flatMap_congr fun other hother => ?_
      have hne : other ≠ number := fun h => hnumber (h ▸ hother)
      rw [held?_run_of_ne hne]
    rw [hsame] at hothers hnoted
    constructor
    · rw [List.flatMap_cons, ← hfirst, ← hothers]
      rfl
    · rw [List.flatMap_cons, ← List.append_assoc, ← hnotes, ← hnoted]
      rfl

end Depot

/-! ## Failures of a catalog -/

namespace Catalog

variable {catalog after : Catalog} {name : String} {event : LifecycleEvent} {number : Nat}

/-- What the listeners answer who are told of a database that is given out. -/
def refusals (catalog : Catalog) (event : LifecycleEvent) (name : String) :
    Except Error Nat → List Failure
  | .ok number => catalog.listeners.filterMap (·.objection? ⟨event, name, number, 0, true⟩)
  | .error _ => []

/-- The database that is listed under a name. -/
def listed? (catalog : Catalog) (name : String) : Option Database :=
  (catalog.number? name).bind catalog.depot.held?

/-- The failures that come up in a move. A database that is listed already is given out without
telling anybody. -/
def raises (catalog : Catalog) : Move ε → List Failure
  | .create name mode => catalog.refusals .created name (catalog.create name mode).1
  | .find name =>
    if catalog.opened.contains name then []
    else catalog.refusals .opened name (catalog.openDatabase name).1
  | .shutDown => catalog.opened.keys.flatMap fun name =>
      (catalog.listed? name).elim [] Database.closingFailures
  | _ => []

/-- The failures that a move reports. -/
def reports (catalog : Catalog) : Move ε → List Failure
  | .hear => catalog.takeFailures.1
  | .shutDown => catalog.shutdown.1.failures
  | _ => []

/-- The failures that come up in moves, in order. -/
def raisedBy (catalog : Catalog) : List (Move ε) → List Failure
  | [] => []
  | move :: rest => catalog.raises move ++ (catalog.make move).raisedBy rest

/-- The failures that moves report, in order. -/
def reportedBy (catalog : Catalog) : List (Move ε) → List Failure
  | [] => []
  | move :: rest => catalog.reports move ++ (catalog.make move).reportedBy rest

/-- What came up in making or opening a database is kept. -/
theorem failures_of_enlists {result : Except Error Nat} (enlists : catalog.Enlists name event result after) :
    after.failures = catalog.failures ++ catalog.refusals event name result := by
  cases result with
  | error error =>
    cases enlists
    exact (List.append_nil _).symm
  | ok number =>
    obtain ⟨database, gives⟩ := enlists.gives
    exact gives.failures

theorem failures_of_listed (h : catalog.opened.contains name = true) :
    (catalog.openDatabase name).2.failures = catalog.failures := by
  obtain ⟨number, hlisted⟩ := Option.isSome_iff_exists.1 h
  unfold openDatabase
  cases checkName name with
  | error error => rfl
  | ok _ => simp only [hlisted]

theorem nodup_values (regular : catalog.Regular) : catalog.opened.values.Nodup := by
  rw [Table.values, List.Nodup, List.pairwise_map]
  refine catalog.opened.increasing.imp_of_mem fun {one two} hone htwo hlt heq => ?_
  have hname := regular.apart (Table.mem_entries_iff.1 hone) (heq ▸ Table.mem_entries_iff.1 htwo)
  rw [hname, Std.ReflOrd.compare_self] at hlt
  cases hlt

theorem nodup_keys (catalog : Catalog) : catalog.opened.keys.Nodup := by
  rw [Table.keys, List.Nodup, List.pairwise_map]
  refine catalog.opened.increasing.imp fun {one two} hlt heq => ?_
  rw [heq, Std.ReflOrd.compare_self] at hlt
  cases hlt

/-- What the numbers of the list give is what its names give. -/
theorem flatMap_values {β : Type} (catalog : Catalog) (f : Database → List β) :
    (catalog.opened.values.flatMap fun number => (catalog.depot.held? number).elim [] f) =
      catalog.opened.keys.flatMap fun name => (catalog.listed? name).elim [] f := by
  rw [Table.values, Table.keys, List.flatMap_map, List.flatMap_map]
  refine List.flatMap_congr fun entry hentry => ?_
  have hlisted : catalog.opened.get? entry.1 = some entry.2 := Table.mem_entries_iff.1 hentry
  rw [listed?, number?, hlisted, Option.bind_some]

/-- In a move the failures that are kept grow by those that come up and shrink by those reported. -/
theorem failures_make (regular : catalog.Regular) (move : Move ε) :
    catalog.failures ++ catalog.raises move =
      catalog.reports move ++ (catalog.make move).failures := by
  cases move with
  | observe | offer | work | fault =>
    simp only [raises, reports, List.append_nil, List.nil_append]
    rfl
  | hear => rfl
  | create name mode =>
    simp only [raises, reports, List.nil_append]
    exact (failures_of_enlists (catalog.create_cases name mode)).symm
  | find name =>
    simp only [raises, reports, List.nil_append]
    split
    · rename_i hlisted
      rw [List.append_nil]
      exact (failures_of_listed hlisted).symm
    · rename_i hfree
      rcases catalog.openDatabase_cases name with ⟨number, hlisted, -⟩ | enlists
      · exact absurd (by rw [Table.contains, hlisted]; rfl) hfree
      · exact (failures_of_enlists enlists).symm
  | shutDown =>
    obtain ⟨hfailures, -⟩ := Depot.closing_closeAll regular.collected (nodup_values regular)
    simp only [raises, reports, ← flatMap_values, ← hfailures]
    exact (List.append_nil _).symm

/-- Whatever came up was reported, or is kept still. -/
theorem raisedBy_eq (regular : catalog.Regular) (moves : List (Move ε)) :
    catalog.failures ++ catalog.raisedBy moves =
      catalog.reportedBy moves ++ (catalog.makeAll moves).failures := by
  induction moves generalizing catalog with
  | nil => exact List.append_nil _
  | cons move rest ih =>
    have hrest := ih (regular.make move)
    calc catalog.failures ++ (catalog.raises move ++ (catalog.make move).raisedBy rest)
        = catalog.reports move ++ ((catalog.make move).failures ++ (catalog.make move).raisedBy rest) := by
          rw [← List.append_assoc, failures_make regular, List.append_assoc]
      _ = catalog.reports move ++ ((catalog.make move).reportedBy rest ++
            ((catalog.make move).makeAll rest).failures) := by rw [hrest]
      _ = _ := (List.append_assoc ..).symm

theorem raisedBy_append (catalog : Catalog) (moves : List (Move ε)) (last : Move ε) :
    catalog.raisedBy (moves ++ [last]) =
      catalog.raisedBy moves ++ (catalog.makeAll moves).raises last := by
  induction moves generalizing catalog with
  | nil => exact List.append_nil _
  | cons move rest ih =>
    rw [List.cons_append, raisedBy, raisedBy, ih, List.append_assoc]
    rfl

theorem reportedBy_append (catalog : Catalog) (moves : List (Move ε)) (last : Move ε) :
    catalog.reportedBy (moves ++ [last]) =
      catalog.reportedBy moves ++ (catalog.makeAll moves).reports last := by
  induction moves generalizing catalog with
  | nil => exact List.append_nil _
  | cons move rest ih =>
    rw [List.cons_append, reportedBy, reportedBy, ih, List.append_assoc]
    rfl

/-! ## What failures do not prevent -/

theorem createBy_fst (catalog : Catalog) (name : String) (mode : StorageMode) :
    (catalog.createBy name mode).1 = if catalog.has name then .error (.databaseExists name)
      else (catalog.depot.createBy catalog.settings name mode).1 := by
  unfold createBy
  split
  · rfl
  · rcases catalog.depot.createBy catalog.settings name mode with ⟨error | number, depot⟩ <;> rfl

theorem openFirst_cons_fst (catalog : Catalog) (name : String) (mode : StorageMode)
    (rest : List StorageMode) : (catalog.openFirst name (mode :: rest)).1 =
      (catalog.depot.openBy catalog.settings name mode).1.bind fun found =>
        found.elim (catalog.openFirst name rest).1 fun number => .ok (some number) := by
  conv_lhs => rw [openFirst]
  rcases catalog.depot.openBy_cases catalog.settings name mode with hnone |
    ⟨error | number, depot, hopened, -⟩
  · rw [hnone]
    rfl
  · rw [hopened]
    rfl
  · rw [hopened]
    rfl

theorem openDatabase_fst_of_free (free : catalog.opened.get? name = none) :
    (catalog.openDatabase name).1 = (checkName name).bind fun _ =>
      (catalog.openFirst name catalog.engines.values).1.bind fun found =>
        found.elim (.error (.databaseNotFound name)) .ok := by
  unfold openDatabase
  cases checkName name with
  | error error => rfl
  | ok _ =>
    simp only [free]
    rcases catalog.openFirst name catalog.engines.values with ⟨error | _ | number, after⟩ <;> rfl

/-- The catalog with other listeners, other failures, and other things in its handles. -/
def withOthers (catalog : Catalog) (listeners : List Listener) (failures : List Failure)
    (handles : Table Nat Handle) (notices : List Notice) : Catalog :=
  { catalog with listeners, failures, depot := { catalog.depot with handles, notices } }

section Others

variable (listeners : List Listener) (failures : List Failure) (handles : Table Nat Handle)
  (notices : List Notice)

theorem create_withOthers (catalog : Catalog) (name mode : String) :
    ((catalog.withOthers listeners failures handles notices).create name mode).1 =
      (catalog.create name mode).1 := by
  unfold create
  cases checkName name with
  | error error => rfl
  | ok _ =>
    simp only [withOthers]
    cases catalog.engines.get? (Text.asciiLowercase mode) with
    | none => rfl
    | some mode =>
      simp only [createBy_fst]
      exact congrArg (fun result => if catalog.has name then _ else result)
        (catalog.depot.createBy_of_handles catalog.settings name mode handles notices)

theorem openFirst_withOthers (catalog : Catalog) (name : String) (modes : List StorageMode) :
    ((catalog.withOthers listeners failures handles notices).openFirst name modes).1 =
      (catalog.openFirst name modes).1 := by
  induction modes with
  | nil => rfl
  | cons mode rest ih =>
    have hopened : ((catalog.withOthers listeners failures handles notices).depot.openBy
        catalog.settings name mode).1 = (catalog.depot.openBy catalog.settings name mode).1 :=
      catalog.depot.openBy_of_handles catalog.settings name mode handles notices
    rw [openFirst_cons_fst, openFirst_cons_fst, ih, ← hopened]
    rfl

theorem openDatabase_withOthers (catalog : Catalog) (name : String) :
    ((catalog.withOthers listeners failures handles notices).openDatabase name).1 =
      (catalog.openDatabase name).1 := by
  have hfirst := openFirst_withOthers listeners failures handles notices catalog name
    catalog.engines.values
  cases hlisted : catalog.opened.get? name with
  | none =>
    have hother : (catalog.withOthers listeners failures handles notices).opened.get? name = none :=
      hlisted
    rw [openDatabase_fst_of_free hlisted, openDatabase_fst_of_free hother, ← hfirst]
    rfl
  | some number =>
    unfold openDatabase
    cases checkName name with
    | error error => rfl
    | ok _ => simp only [withOthers, hlisted]

end Others

/-! ## Shutdown -/

/-- What a shutdown does: every open database is listed once in the report, and none is open afterwards;
each of its listeners is called once to be told of its close; and when one that was open is closed once
more, whatever happened in between, nothing fails and nobody is called. In whatever order the databases are
closed, the same failures come up and the same calls are made. -/
structure ShutsDown (ε : Type) (catalog : Catalog) : Prop where
  lists {number : Nat} {database : Database} : catalog.depot.held? number = some database →
    database.isOpen = true → catalog.listed? database.name = some database ∧
      catalog.shutdown.1.closed.count database.name = 1
  closes (number : Nat) : catalog.shutdown.2.depot.isOpen number = false
  tells : catalog.shutdown.2.depot.notices = catalog.depot.notices ++
    catalog.shutdown.1.closed.flatMap fun name =>
      (catalog.listed? name).elim [] Database.closingNotices
  spares (moves : List (Move ε)) (number : Nat) : catalog.depot.isOpen number = true →
    ((catalog.shutdown.2.makeAll moves).run number Database.close).1 = some [] ∧
      ((catalog.shutdown.2.makeAll moves).run number Database.close).2.depot.notices =
        (catalog.shutdown.2.makeAll moves).depot.notices
  inAnyOrder {order : List Nat} : order.Perm catalog.opened.values →
    (closeAll catalog.depot order).1.Perm (catalog.raises (.shutDown : Move ε)) ∧
      (∀ number, (closeAll catalog.depot order).2.isOpen number = false) ∧
      ∃ calls, (closeAll catalog.depot order).2.notices = catalog.depot.notices ++ calls ∧
        calls.Perm (catalog.opened.keys.flatMap fun name =>
          (catalog.listed? name).elim [] Database.closingNotices)

/-- Once all that are listed have been closed none is open. -/
theorem Regular.isOpen_closeAll (regular : catalog.Regular) {order : List Nat}
    (h : order.Perm catalog.opened.values) (number : Nat) :
    (closeAll catalog.depot order).2.isOpen number = false := by
  refine Bool.eq_false_iff.2 fun hopen => ?_
  obtain ⟨database, held, hopen⟩ := Depot.isOpen_iff.1 hopen
  obtain ⟨⟨before, hbefore, works⟩, hclosed⟩ := works_closeAll held
  have hlisted := regular.listed hbefore (works.isOpen hopen)
  exact Bool.eq_false_iff.1 (hclosed (h.mem_iff.2 (mem_values_of_listed hlisted))) hopen

theorem Regular.shutsDown (regular : catalog.Regular) : catalog.ShutsDown ε where
  lists {number database} held hopen := by
    have hlisted := regular.listed held hopen
    have hmem : database.name ∈ catalog.opened.keys :=
      List.mem_map.2 ⟨(database.name, number), Table.mem_entries_iff.2 hlisted, rfl⟩
    exact ⟨by rw [listed?, number?, hlisted, Option.bind_some, held],
      List.count_eq_one_of_mem catalog.nodup_keys hmem⟩
  closes := regular.isOpen_closeAll (.refl _)
  tells := by
    obtain ⟨-, hnotices⟩ := Depot.closing_closeAll regular.collected (nodup_values regular)
    exact hnotices.trans (congrArg (catalog.depot.notices ++ ·) (catalog.flatMap_values _))
  spares moves number hopen := by
    obtain ⟨database, held, -⟩ := Depot.isOpen_iff.1 hopen
    obtain ⟨closed, hclosed, -⟩ := held_closeAll_of_held held catalog.opened.values
    obtain ⟨last, hlast, works⟩ := regular.shutdown.held_makeAll moves hclosed
    have hfalse : last.isOpen = false := Bool.eq_false_iff.2 fun h =>
      Bool.eq_false_iff.1 (regular.closed_of_shutdown hclosed) (works.isOpen h)
    exact Depot.run_close_of_closed (regular.shutdown.makeAll moves).collected hlast hfalse
  inAnyOrder {order} h := by
    obtain ⟨hfailures, hnotices⟩ :=
      Depot.closing_closeAll regular.collected (h.nodup_iff.2 (nodup_values regular))
    refine ⟨?_, regular.isOpen_closeAll h, _, hnotices, ?_⟩
    · rw [hfailures, raises, ← flatMap_values]
      exact h.flatMap_right _
    · rw [← flatMap_values]
      exact h.flatMap_right _

theorem Gives.isListed {database : Database}
    (gives : catalog.Gives name event number database after) :
    after.opened.get? name = some number ∧ after.depot.isOpen number = true :=
  ⟨by rw [gives.opened, Table.get?_insert_self], gives.isOpen_number⟩

/-- A listener refuses the first event of each database. Each refusal is reported once. -/
example :
    ((Catalog.start Database.plainSettings false { disk := { root := "/d" } }).reportedBy
      [.observe ⟨"l", fun call => if call.earlier = 0 then .error "no" else .ok ()⟩, .create "a" "memory",
        .create "b" "memory", .hear, (.shutDown : Move Unit)]).map Failure.text =
      ["listener l on a (create): no", "listener l on b (create): no"] := by
  decide +kernel

end Catalog

end RecordBase
