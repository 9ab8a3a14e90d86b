import RecordBase.Proofs.Catalog.Handles

/-!
# Directories that are locked

A handle on a database keeps the directory of that database locked while the database is open.
`Depot.Ordered` says so of all handles, and that no two of them keep the same directory: so a directory
that can be locked is that of no open database (`Ordered.free`). Everything that is done with a catalog
keeps this, given that nothing opens a database again that was closed.
-/

namespace RecordBase

open Files (Place)

/-! ## Nothing opens a closed database -/

section Run

variable {ε : Type}

theorem Database.isOpen_onStore {α : Type} (database : Database) (wrap : α → Answer)
    (operation : Store → Except Error α × Store) :
    (database.onStore wrap operation).2.isOpen = database.isOpen := rfl

theorem Operation.isOpen_of_run (database : Database) (operation : Operation)
    (h : (operation.run database).2.isOpen = true) : database.isOpen = true := by
  cases operation with
  | close =>
    simp only [run, Database.close] at h
    split at h
    · exact h
    · cases h
  | execute request =>
    simp only [run] at h
    split at h <;> exact h
  | _ => simpa only [run, Database.isOpen_onStore, Database.look, Database.notify] using h

/-- What a step or a batch leaves open was open before. -/
theorem Step.isOpen_of_run (step : Step ε) (database : Database) :
    (step.run database).2.isOpen = true → database.isOpen = true :=
  run_of_rel (R := fun before after => after.isOpen = true → before.isOpen = true)
    (fun h h' hopen => h (h' hopen)) (fun _ _ hopen => hopen) Operation.isOpen_of_run database step

end Run

/-! ## Handles that keep directories locked -/

namespace Depot

variable {depot before after : Depot} {number other : Nat} {home : Place}

/-- The handle with a number keeps a directory locked. -/
def Locks (depot : Depot) (number : Nat) (home : Place) : Prop :=
  ∃ handle, depot.handles.get? number = some handle ∧ handle.held? = some home

/-- The handles are numbered in order, each keeps a directory of its own locked, and that of an open
database keeps the directory of the database. -/
structure Ordered (depot : Depot) : Prop where
  below {number : Nat} {handle : Handle} :
    depot.handles.get? number = some handle → number < depot.next
  locked {number : Nat} {home : Place} : depot.Locks number home → home ∈ depot.locked
  apart {number other : Nat} {home : Place} :
    depot.Locks number home → depot.Locks other home → number = other
  keeps {number : Nat} {database : Database} {home : Place} {locks : Bool} :
    depot.handles.get? number = some (.database database (some home) locks) →
      database.isOpen = true → locks = true

/-- The handle with a number is on an open database in a directory. -/
def OpenAt (depot : Depot) (number : Nat) (home : Place) : Prop :=
  ∃ database locks, depot.handles.get? number = some (.database database (some home) locks) ∧
    database.isOpen = true

/-- A directory that is not locked is that of no open database. -/
theorem Ordered.free (ordered : depot.Ordered) (free : home ∉ depot.locked) (number : Nat) :
    ¬ depot.OpenAt number home := by
  rintro ⟨database, locks, hhandle, hopen⟩
  obtain rfl := ordered.keeps hhandle hopen
  exact free (ordered.locked ⟨_, hhandle, rfl⟩)

theorem ordered_empty (disk : Disk) : Ordered { disk } where
  below h := by cases h
  locked := by rintro _ _ ⟨_, h, _⟩; cases h
  apart := by rintro _ _ _ ⟨_, h, _⟩; cases h
  keeps h := by cases h

/-- What has the same handles and locks is in order, too. -/
theorem Ordered.same (ordered : before.Ordered) (handles : after.handles = before.handles)
    (next : after.next = before.next) (locked : after.locked = before.locked) : after.Ordered where
  below h := next ▸ ordered.below (handles ▸ h)
  locked h := locked ▸ ordered.locked (by rwa [Locks, handles] at h)
  apart h h' := ordered.apart (by rwa [Locks, handles] at h) (by rwa [Locks, handles] at h')
  keeps h := ordered.keeps (handles ▸ h)

/-! ### Working with a database -/

/-- A handle is changed or given up, and what it kept locked is unlocked if it does not keep that. -/
theorem Ordered.change (ordered : before.Ordered) {old : Handle} {new? : Option Handle}
    (hold : before.handles.get? number = some old)
    (handles : ∀ other, after.handles.get? other =
      if other = number then new? else before.handles.get? other)
    (next : after.next = before.next)
    (locked : ∀ home ∈ before.locked, home ∈ after.locked ∨ old.held? = some home ∧
      new?.bind Handle.held? = none)
    (held : ∀ home, new?.bind Handle.held? = some home → old.held? = some home)
    (keeps : ∀ database home locks, new? = some (.database database (some home) locks) →
      database.isOpen = true → locks = true) : after.Ordered := by
  have hlocks {other home} : after.Locks other home → before.Locks other home := by
    rintro ⟨handle, hhandle, hheld⟩
    rw [handles] at hhandle
    split at hhandle
    · rename_i hother
      exact hother ▸ ⟨old, hold, held home (by rw [hhandle]; exact hheld)⟩
    · exact ⟨handle, hhandle, hheld⟩
  refine ⟨fun {other handle} h => ?_, fun {other home} h => ?_, fun h h' => ?_,
    fun {other database home locks} h hopen => ?_⟩
  · rw [next]
    rw [handles] at h
    split at h
    · rename_i hother
      exact hother ▸ ordered.below hold
    · exact ordered.below h
  · refine (locked home (ordered.locked (hlocks h))).resolve_right fun ⟨hheld, hnone⟩ => ?_
    obtain rfl := ordered.apart (hlocks h) ⟨old, hold, hheld⟩
    obtain ⟨handle, hhandle, hheld⟩ := h
    rw [handles, if_pos rfl] at hhandle
    rw [hhandle] at hnone
    cases hheld.symm.trans hnone
  · exact ordered.apart (hlocks h) (hlocks h')
  · rw [handles] at h
    split at h
    · exact keeps database home locks h hopen
    · exact ordered.keeps h hopen

/-- What is unlocked when a handle lets go of its directory. -/
theorem mem_locked_unlock (depot : Depot) (held? : Option Place) {home : Place}
    (h : home ∈ depot.locked) : home ∈ (depot.unlock held?).locked ∨ held? = some home := by
  cases held? with
  | none => exact .inl h
  | some held =>
    by_cases hhome : held = home
    · exact .inr (congrArg some hhome)
    · exact .inl ((List.mem_erase_of_ne (Ne.symm hhome)).2 h)

theorem Ordered.giveUp (ordered : depot.Ordered) (number : Nat) : (depot.giveUp number).Ordered := by
  unfold Depot.giveUp
  split
  · rename_i handle hhandle
    have handles (other : Nat) : ({ depot with handles := depot.handles.erase number }.unlock
        handle.held?).handles.get? other = if other = number then none else depot.handles.get? other := by
      rw [handles_unlock, Table.get?_erase]
    refine ordered.change hhandle handles (next_unlock _ _) (fun home hhome => ?_)
      (by rintro _ ⟨⟩) (by rintro _ _ _ ⟨⟩)
    refine (mem_locked_unlock _ handle.held? ?_).imp_right fun h => ⟨h, rfl⟩
    exact hhome
  · exact ordered

theorem Ordered.retain (ordered : depot.Ordered) (keep : List Nat) : (depot.retain keep).Ordered := by
  unfold Depot.retain
  generalize depot.handles.keys.filter _ = numbers
  induction numbers generalizing depot with
  | nil => exact ordered
  | cons number rest ih => exact ih (ordered.giveUp number)

/-- Nothing is done with a database that is not there, and one that is there is changed. -/
theorem run_puts {α : Type} (depot : Depot) (number : Nat) (action : Database → α × Database) :
    (depot.database? number = none ∧ depot.run number action = (none, depot)) ∨
    ∃ held home locks database, depot.handles.get? number = some (.database held home locks) ∧
      database = held.withFile ((home.bind depot.disk.log?).getD []) ∧
      depot.database? number = some database ∧
      depot.Puts number (action database).2 home locks (depot.run number action).2 := by
  cases hdatabase : depot.database? number with
  | none => exact .inl ⟨rfl, by rw [run, hdatabase]⟩
  | some database =>
    obtain ⟨held, home, locks, hhandle, hheld⟩ := handle_of_database? hdatabase
    refine .inr ⟨held, home, locks, database, hhandle, hheld, rfl, ?_⟩
    rw [run, hdatabase]
    exact puts_put hhandle _

theorem isOpen_withFile (database : Database) (bytes : Bytes) :
    (database.withFile bytes).isOpen = database.isOpen :=
  (database.agrees_withFile bytes).isOpen

theorem Ordered.puts (ordered : before.Ordered) {held database : Database} {home : Option Place}
    {locks : Bool} (hhandle : before.handles.get? number = some (.database held home locks))
    (puts : before.Puts number database home locks after)
    (h : database.isOpen = true → held.isOpen = true) : after.Ordered := by
  refine ordered.change hhandle puts.get? puts.next (fun place hplace => ?_) (fun place hheld => ?_) ?_
  · rw [puts.locked]
    cases hopen : database.isOpen with
    | true => exact .inl hplace
    | false =>
      refine (mem_locked_unlock before _ hplace).imp_right fun hheld => ⟨hheld, ?_⟩
      simp [changed, Handle.held?, hopen]
  · simp only [changed, Option.bind_some, Handle.held?] at hheld ⊢
    split at hheld
    · rename_i hlocks
      simp only [Bool.and_eq_true] at hlocks
      rwa [if_pos hlocks.1.2]
    · cases hheld
  · rintro _ place _ ⟨⟩ hopen
    obtain rfl := ordered.keeps hhandle (h hopen)
    simpa using hopen

theorem Ordered.run {α : Type} (ordered : depot.Ordered) (number : Nat)
    {action : Database → α × Database}
    (h : ∀ database, (action database).2.isOpen = true → database.isOpen = true) :
    (depot.run number action).2.Ordered := by
  rcases depot.run_puts number action with ⟨-, hnone⟩ |
    ⟨held, home, locks, database, hhandle, rfl, -, puts⟩
  · rw [hnone]
    exact ordered
  · exact ordered.puts hhandle puts fun hopen => isOpen_withFile held _ ▸ h _ hopen

/-! ### Opening -/

theorem Ordered.opens (ordered : before.Ordered) {result : Except Error Nat}
    (opens : before.Opens result after) : after.Ordered := by
  cases opens with
  | failed handles next locked => exact ordered.same handles next locked
  | @opened database home _ _ handles next locked free =>
    have hget (other : Nat) : after.handles.get? other = if other = before.next then
        some (.database database home home.isSome) else before.handles.get? other := by
      rw [handles, Table.get?_insert]
    -- Whatever is locked was locked by a handle before, or it is the new one's and was free.
    have hlocks {other place} : after.Locks other place →
        before.Locks other place ∧ place ∈ before.locked ∨
          other = before.next ∧ home = some place ∧ place ∉ before.locked := by
      rintro ⟨handle, hhandle, hheld⟩
      rw [hget] at hhandle
      split at hhandle
      · rename_i hother
        cases hhandle
        simp only [Handle.held?] at hheld
        split at hheld
        · exact .inr ⟨hother, hheld, free place hheld⟩
        · cases hheld
      · have hbefore : before.Locks other place := ⟨handle, hhandle, hheld⟩
        exact .inl ⟨hbefore, ordered.locked hbefore⟩
    refine ⟨fun {other handle} h => ?_, fun {other place} h => ?_, fun {_ _ place} h h' => ?_,
      fun {other found place locks} h hopen => ?_⟩
    · rw [next]
      rw [hget] at h
      split at h
      · rename_i hother
        exact hother ▸ Nat.lt_succ_self _
      · exact Nat.lt_succ_of_lt (ordered.below h)
    · rw [locked]
      rcases hlocks h with ⟨-, hplace⟩ | ⟨-, rfl, -⟩
      · exact List.mem_append_right _ hplace
      · exact List.mem_cons_self
    · rcases hlocks h with ⟨hone, hplace⟩ | ⟨hone, -, hfree⟩ <;>
        rcases hlocks h' with ⟨htwo, hplace'⟩ | ⟨htwo, -, hfree'⟩
      · exact ordered.apart hone htwo
      · exact absurd hplace hfree'
      · exact absurd hplace' hfree
      · exact hone.trans htwo.symm
    · rw [hget] at h
      split at h
      · cases h
        rfl
      · exact ordered.keeps h hopen

end Depot

/-! ## Catalogs -/

namespace Catalog

variable {catalog : Catalog}

theorem ordered_start (settings : Settings) (usesDisk : Bool) (disk : Disk) :
    (Catalog.start settings usesDisk { disk }).depot.Ordered := by
  have hdepot : (Catalog.start settings usesDisk { disk }).depot = { disk } := by
    cases usesDisk <;> rfl
  rw [hdepot]
  exact Depot.ordered_empty disk

theorem ordered_run {α : Type} (ordered : catalog.depot.Ordered) (number : Nat)
    {action : Database → α × Database}
    (h : ∀ database, (action database).2.isOpen = true → database.isOpen = true) :
    (catalog.run number action).2.depot.Ordered := ordered.run number h

theorem ordered_enlist (ordered : catalog.depot.Ordered) (name : String) (number : Nat)
    (event : LifecycleEvent) : (catalog.enlist name number event).depot.Ordered := by
  let tell (database : Database) :=
    (catalog.listeners.foldl Database.addListener { database with number }).notify event
  refine (ordered_run ordered number fun database hopen => ?_ :
    (catalog.run number tell).2.depot.Ordered)
  simp only [tell, foldl_addListener] at hopen
  exact hopen

theorem ordered_create (ordered : catalog.depot.Ordered) (name mode : String) :
    (catalog.create name mode).2.depot.Ordered := by
  unfold create
  cases checkName name with
  | error error => exact ordered
  | ok _ =>
    simp only
    cases catalog.engines.get? (Text.asciiLowercase mode) with
    | none => exact ordered
    | some mode =>
      simp only [createBy]
      split
      · exact ordered
      · have hopens := ordered.opens (catalog.depot.opens_createBy catalog.settings name mode)
        rcases hcreated : catalog.depot.createBy catalog.settings name mode with
          ⟨error | number, depot⟩ <;> rw [hcreated] at hopens
        · exact hopens
        · exact ordered_enlist hopens name number .created

theorem ordered_openFirst (ordered : catalog.depot.Ordered) (name : String)
    (modes : List StorageMode) : (catalog.openFirst name modes).2.depot.Ordered := by
  induction modes with
  | nil => exact ordered
  | cons mode rest ih =>
    unfold openFirst
    rcases catalog.depot.openBy_spec catalog.settings name mode with hnone |
      ⟨error | number, depot, hopened, opens⟩
    · rw [hnone]
      exact ih
    · rw [hopened]
      exact ordered.opens opens
    · rw [hopened]
      exact ordered.opens opens

theorem ordered_openDatabase (ordered : catalog.depot.Ordered) (name : String) :
    (catalog.openDatabase name).2.depot.Ordered := by
  unfold openDatabase
  cases checkName name with
  | error error => exact ordered
  | ok _ =>
    simp only
    cases catalog.opened.get? name with
    | some number => exact ordered
    | none =>
      have hopened := ordered_openFirst ordered name catalog.engines.values
      rcases hfirst : catalog.openFirst name catalog.engines.values with
        ⟨error | _ | number, after⟩ <;> rw [hfirst] at hopened
      · exact hopened
      · exact hopened
      · exact ordered_enlist hopened name number .opened

theorem ordered_closeAll {depot : Depot} (ordered : depot.Ordered) (numbers : List Nat) :
    (closeAll depot numbers).2.Ordered := by
  induction numbers generalizing depot with
  | nil => exact ordered
  | cons number rest ih =>
    exact ih (ordered.run number fun database => Operation.isOpen_of_run database .close)

end Catalog

end RecordBase
