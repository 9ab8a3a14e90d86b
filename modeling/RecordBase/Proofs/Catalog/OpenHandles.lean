import RecordBase.Proofs.Catalog.Moves

/-!
# Databases that are given out

A catalog gives out a database when it makes one or is asked for one by name. The database is open at
that moment, unless it is listed still and somebody closed it through its handle: closing a database
does not take it off the list, and a database that is listed is given out as it is.

* `Catalog.given_open_iff`: so it is after any moves.
* `Catalog.Tracks`: the invariant, of the listed databases and the ones that were closed through handles.
-/

namespace RecordBase

variable {ε : Type}

namespace Depot

variable {depot after : Depot} {number other : Nat}

theorem isOpen_of_held (h : after.held? number = depot.held? number) :
    after.isOpen number = depot.isOpen number := by
  rw [Bool.eq_iff_iff, isOpen_iff, isOpen_iff, h]

/-- Work on a database leaves the others as they are, and does not open it. -/
theorem isOpen_run {α : Type} {action : Database → α × Database}
    (works : ∀ database, Database.Works database (action database).2)
    (h : (depot.run number action).2.isOpen other = true) : depot.isOpen other = true := by
  obtain ⟨database, held, hopen⟩ := isOpen_iff.1 h
  obtain ⟨before, hbefore, works⟩ := works_of_run works held
  exact isOpen_iff.2 ⟨before, hbefore, works.isOpen hopen⟩

theorem isOpen_run_eq {α : Type} {action : Database → α × Database}
    (keeps : ∀ database, (action database).2.isOpen = database.isOpen) :
    (depot.run number action).2.isOpen other = depot.isOpen other := by
  rcases depot.run_spec number action with ⟨-, hsame⟩ | ⟨found, hfound, -, hheld⟩
  · rw [hsame]
  · by_cases hother : other = number
    · subst hother
      rw [Bool.eq_iff_iff, isOpen_iff, hheld, if_pos rfl]
      simp only [Option.some.injEq, exists_eq_left', keeps, isOpen, hfound]
    · exact isOpen_of_held ((hheld other).trans (if_neg hother))

end Depot

namespace Catalog

variable {catalog after : Catalog} {name : String} {event : LifecycleEvent} {number : Nat}

/-! ## Closing through handles -/

/-- The database that is closed by what is done with it. -/
def closes (catalog : Catalog) : Move ε → List Nat
  | .work number step =>
    if catalog.depot.isOpen number && !(catalog.make (.work number step)).depot.isOpen number
    then [number] else []
  | _ => []

/-- The databases that moves close otherwise than by a shutdown. -/
def closedBy (catalog : Catalog) : List (Move ε) → List Nat
  | [] => []
  | move :: rest => catalog.closes move ++ (catalog.make move).closedBy rest

theorem mem_closes_work {other : Nat} {step : Step ε} :
    other ∈ catalog.closes (.work number step) ↔ other = number ∧ catalog.depot.isOpen number = true ∧
      (catalog.make (.work number step)).depot.isOpen number = false := by
  rw [closes]
  split
  · rename_i h
    rw [Bool.and_eq_true, Bool.not_eq_true'] at h
    simp only [List.mem_singleton, h, and_self, and_true]
  · rename_i h
    rw [Bool.and_eq_true, Bool.not_eq_true'] at h
    simp only [List.not_mem_nil, h, and_false]

/-- A listed database is open unless it is one of those that were closed through handles. -/
structure Tracks (catalog : Catalog) (closed : List Nat) : Prop where
  regular : catalog.Regular
  isOpen_iff {name : String} {number : Nat} : catalog.opened.get? name = some number →
    (catalog.depot.isOpen number = true ↔ number ∉ closed)
  below {number : Nat} : number ∈ closed → number < catalog.depot.next

/-- A new database has not been closed. -/
theorem Tracks.not_mem {closed : List Nat} {database : Database} (tracks : catalog.Tracks closed)
    (gives : catalog.Gives name event number database after) : number ∉ closed :=
  fun h => Nat.lt_irrefl _ (gives.next ▸ tracks.below h)

theorem tracks_start (settings : Settings) (usesDisk : Bool) (disk : Disk) :
    (Catalog.start settings usesDisk { disk }).Tracks [] where
  regular := regular_start settings usesDisk disk
  isOpen_iff h := by
    rw [opened_start] at h
    cases h
  below := nofun

theorem Tracks.same {closed : List Nat} (tracks : catalog.Tracks closed) (regular : after.Regular)
    (held : ∀ number, after.depot.held? number = catalog.depot.held? number)
    (next : after.depot.next = catalog.depot.next) (opened : after.opened = catalog.opened) :
    after.Tracks closed where
  regular := regular
  isOpen_iff h := by
    rw [Depot.isOpen_of_held (held _)]
    exact tracks.isOpen_iff (opened ▸ h)
  below h := next ▸ tracks.below h

theorem Tracks.enlists {closed : List Nat} (tracks : catalog.Tracks closed)
    {result : Except Error Nat} (enlists : catalog.Enlists name event result after) :
    after.Tracks closed := by
  have hregular := tracks.regular.enlists enlists
  cases result with
  | error error =>
    cases enlists with
    | failed opens =>
      cases opens with
      | failed handles next =>
        exact tracks.same hregular (Depot.held?_of_handles handles) next rfl
  | ok number =>
    obtain ⟨database, gives⟩ := enlists.gives
    refine ⟨hregular, fun {other found} h => ?_, fun h =>
      gives.next_after ▸ Nat.lt_succ_of_lt (tracks.below h)⟩
    rw [gives.opened, Table.get?_insert] at h
    split at h
    · cases h
      exact iff_of_true gives.isOpen_number (tracks.not_mem gives)
    · obtain ⟨before, hbefore⟩ := tracks.regular.sound.listed h
      have hne := gives.next ▸ Nat.ne_of_lt (tracks.regular.ordered.lt_next hbefore)
      rw [Depot.isOpen_of_held ((gives.held found).trans (if_neg hne))]
      exact tracks.isOpen_iff h

theorem next_closeAll (depot : Depot) (numbers : List Nat) :
    (closeAll depot numbers).2.next = depot.next := by
  induction numbers generalizing depot with
  | nil => rfl
  | cons number rest ih => exact (ih _).trans (depot.next_run number Database.close)

theorem Tracks.work {closed : List Nat} (tracks : catalog.Tracks closed) (number : Nat)
    (step : Step ε) :
    (catalog.make (.work number step)).Tracks (closed ++ catalog.closes (.work number step)) := by
  have hregular := tracks.regular.make (.work number step)
  have hnext : (catalog.make (.work number step)).depot.next = catalog.depot.next :=
    catalog.depot.next_run number _
  refine ⟨hregular, fun {other found} h => ?_, fun {found} h => ?_⟩
  · have hbefore := tracks.isOpen_iff (show catalog.opened.get? other = some found from h)
    have hafter : (catalog.make (.work number step)).depot.isOpen found = true →
        catalog.depot.isOpen found = true := Depot.isOpen_run step.works
    rw [List.mem_append, not_or, ← hbefore, mem_closes_work]
    by_cases hfound : found = number
    · subst hfound
      simp only [true_and, not_and, Bool.not_eq_false]
      exact ⟨fun h => ⟨hafter h, fun _ => h⟩, fun h => h.2 h.1⟩
    · have hsame : (catalog.make (.work number step)).depot.isOpen found =
          catalog.depot.isOpen found := Depot.isOpen_of_held (Depot.held?_run_of_ne hfound)
      simp only [hsame, hfound, false_and, not_false_eq_true, and_true]
  · rw [hnext]
    rcases List.mem_append.1 h with h | h
    · exact tracks.below h
    · obtain ⟨rfl, hopen, -⟩ := mem_closes_work.1 h
      obtain ⟨database, held, -⟩ := Depot.isOpen_iff.1 hopen
      exact tracks.regular.ordered.lt_next held

theorem Tracks.make {closed : List Nat} (tracks : catalog.Tracks closed) (move : Move ε) :
    (catalog.make move).Tracks (closed ++ catalog.closes move) := by
  have hregular := tracks.regular.make move
  cases move with
  | work number step => exact tracks.work number step
  | observe | offer | hear =>
    simp only [closes, List.append_nil]
    exact tracks.same hregular (fun _ => rfl) rfl rfl
  | create name mode =>
    simp only [closes, List.append_nil]
    exact tracks.enlists (catalog.create_cases name mode)
  | find name =>
    simp only [closes, List.append_nil]
    rcases catalog.openDatabase_cases name with ⟨number, -, hsame⟩ | enlists
    · rw [Catalog.make, hsame]
      exact tracks
    · exact tracks.enlists enlists
  | shutDown =>
    simp only [closes, List.append_nil]
    refine ⟨hregular, fun h => ?_, fun h => ?_⟩
    · cases h
    · exact (next_closeAll catalog.depot _).symm ▸ tracks.below h
  | fault number refusals syncFaults syncFails flushFails =>
    simp only [closes, List.append_nil]
    let action (database : Database) :=
      ((), database.failing refusals syncFaults syncFails flushFails)
    have hopen (found : Nat) : (catalog.depot.run number action).2.isOpen found =
        catalog.depot.isOpen found := Depot.isOpen_run_eq fun _ => rfl
    have hnext := catalog.depot.next_run number action
    refine ⟨hregular, fun {other found} h => ?_, fun h => ?_⟩
    · have hbefore := tracks.isOpen_iff (show catalog.opened.get? other = some found from h)
      rwa [← hopen] at hbefore
    · exact Nat.lt_of_lt_of_eq (tracks.below h) hnext.symm

theorem Tracks.makeAll {closed : List Nat} (tracks : catalog.Tracks closed) (moves : List (Move ε)) :
    (catalog.makeAll moves).Tracks (closed ++ catalog.closedBy moves) := by
  induction moves generalizing catalog closed with
  | nil =>
    rw [closedBy, List.append_nil]
    exact tracks
  | cons move rest ih =>
    rw [closedBy, ← List.append_assoc]
    exact ih (tracks.make move)

/-- A database that is made is open. One that is asked for by name is open just if it is none of those that
were closed through their handles. -/
theorem given_open_iff (settings : Settings) (usesDisk : Bool) (disk : Disk)
    (moves : List (Move ε)) :
    let start := Catalog.start settings usesDisk { disk }
    let catalog := start.makeAll moves
    (∀ name mode number, (catalog.create name mode).1 = .ok number →
      (catalog.create name mode).2.depot.isOpen number = true) ∧
    ∀ name number, (catalog.openDatabase name).1 = .ok number →
      ((catalog.openDatabase name).2.depot.isOpen number = true ↔ number ∉ start.closedBy moves) := by
  intro start catalog
  have tracks := (tracks_start settings usesDisk disk).makeAll moves
  refine ⟨fun name mode number h => ?_, fun name number h => ?_⟩
  · obtain ⟨database, gives⟩ := (h ▸ catalog.create_cases name mode).gives
    exact gives.isOpen_number
  · rcases catalog.openDatabase_cases name with ⟨found, hlisted, hsame⟩ | enlists
    · rw [hsame] at h ⊢
      cases h
      exact tracks.isOpen_iff hlisted
    · obtain ⟨database, gives⟩ := (h ▸ enlists).gives
      exact iff_of_true gives.isOpen_number (tracks.not_mem gives)

/-- A database in memory was made and closed through its handle. -/
theorem closed_database_is_given_out :
    let catalog := (Catalog.start Database.plainSettings false { disk := { root := "/d" } }).makeAll
      [.create "a" "memory", .work 0 (.operation .close : Step Unit)]
    (catalog.openDatabase "a").1.toOption = some 0 ∧
      (catalog.openDatabase "a").2.depot.isOpen 0 = false := by
  decide +kernel

end Catalog

end RecordBase
