import RecordBase.Proofs.Catalog.OpeningFailures
import RecordBase.Proofs.Catalog.Shelves

/-!
# Who keeps a directory locked

Databases are opened in directories, worked with, closed, and their handles given up; meanwhile logs and other
files are put there by hand, so that an opening can find no directory, a file in its place, or a log that is
damaged (`Depot.Move`). A directory is locked as long as there is a database that was opened in it, was not
closed, and whose handle was not given up (`Depot.Kept`).

* `Depot.Attempts`: what an opening does: it fails and leaves all locks, or it locks its directory;
* `Depot.openAt_make`: which handles are on open databases after a move;
* `Depot.lock_follows_open_handles`: so it is the lock that refuses an opening just if such a database is there.
-/

namespace RecordBase

open Files (Place)

namespace Depot

variable {depot after : Depot} {number other : Nat} {home place : Place}

/-! ## Openings -/

/-- An opening comes as far as the lock of a directory: the directory is there or could be made, and the
file in it that is to be locked could be opened. -/
structure Reaches (depot : Depot) (name : String) (create : Bool) (home : Place) : Prop where
  provided : (depot.disk.provide name create).1 = .ok home
  opened : ((depot.disk.provide name create).2.openLock home).1 = .ok ()

instance (depot : Depot) (name : String) (create : Bool) (home : Place) :
    Decidable (depot.Reaches name create home) :=
  decidable_of_iff (_ ∧ _) ⟨fun h => ⟨h.1, h.2⟩, fun h => ⟨h.provided, h.opened⟩⟩

theorem Reaches.eq {name : String} {create : Bool} (reaches : depot.Reaches name create home)
    (others : depot.Reaches name create place) : home = place :=
  Except.ok.inj (reaches.provided.symm.trans others.provided)

/-- Coming to a directory fails before its lock, or at its lock, or it locks the directory. -/
theorem enter_reaches (depot : Depot) (name : String) (create : Bool) :
    (∃ error disk, depot.enter name create = (.error error, { depot with disk }) ∧
      error ≠ .databaseLocked ∧ ∀ home, ¬ depot.Reaches name create home) ∨
    ∃ home disk, depot.Reaches name create home ∧
      (home ∈ depot.locked ∧ depot.enter name create = (.error .databaseLocked, { depot with disk }) ∨
        home ∉ depot.locked ∧
          depot.enter name create = (.ok home, { depot with disk, locked := home :: depot.locked })) := by
  unfold enter
  rcases hprovide : depot.disk.provide name create with ⟨error | home, disk⟩
  · refine .inl ⟨error, disk, rfl, Disk.ne_locked_of_provide (congrArg Prod.fst hprovide),
      fun home hreaches => ?_⟩
    cases (congrArg Prod.fst hprovide).symm.trans hreaches.provided
  · have hplace : (depot.disk.provide name create).1 = .ok home := congrArg Prod.fst hprovide
    have hdisk : (depot.disk.provide name create).2 = disk := congrArg Prod.snd hprovide
    simp only [lock]
    rcases hlock : disk.openLock home with ⟨error | _, locking⟩
    · refine .inl ⟨error, locking, rfl, Disk.ne_locked_of_openLock (congrArg Prod.fst hlock),
        fun place hreaches => ?_⟩
      obtain rfl : home = place := Except.ok.inj (hplace.symm.trans hreaches.provided)
      have hopened := hreaches.opened
      rw [hdisk, hlock] at hopened
      cases hopened
    · have reaches : depot.Reaches name create home := ⟨hplace, by rw [hdisk, hlock]⟩
      refine .inr ⟨home, locking, reaches, ?_⟩
      simp only
      by_cases hlocked : depot.locked.contains home = true
      · rw [if_pos hlocked]
        exact .inl ⟨List.contains_iff_mem.1 hlocked, rfl⟩
      · rw [if_neg hlocked]
        exact .inr ⟨fun hmem => hlocked (List.contains_iff_mem.2 hmem), rfl⟩

/-- What comes of opening the database in a directory: a failure that leaves the handles and the locks, and
that is of the lock just if the opening came as far as that of a locked directory; or an open database
under the next number in the directory that it came to, which was free and is locked now. -/
inductive Attempts (depot : Depot) (name : String) (create : Bool) : Except Error Nat → Depot → Prop
  | failed {error : Error} {after : Depot} (handles : after.handles = depot.handles)
      (next : after.next = depot.next) (locked : after.locked = depot.locked)
      (busy : error = .databaseLocked ↔ ∃ home, depot.Reaches name create home ∧ home ∈ depot.locked) :
      Attempts depot name create (.error error) after
  | opened {database : Database} {home : Place} {after : Depot} (reaches : depot.Reaches name create home)
      (free : home ∉ depot.locked) (isOpen : database.isOpen = true)
      (handles : after.handles = depot.handles.insert depot.next (.database database (some home) true))
      (next : after.next = depot.next + 1) (locked : after.locked = home :: depot.locked) :
      Attempts depot name create (.ok depot.next) after

theorem attempts_openStored (depot : Depot) (settings : Settings) (name : String) (create : Bool) :
    depot.Attempts name create (depot.openStored settings name create).1
      (depot.openStored settings name create).2 := by
  unfold openStored
  rcases depot.enter_reaches name create with ⟨error, disk, henter, hother, hnone⟩ |
    ⟨home, disk, reaches, ⟨hlocked, henter⟩ | ⟨hfree, henter⟩⟩ <;> rw [henter]
  · exact .failed rfl rfl rfl (iff_of_false hother fun ⟨home, reaches, _⟩ => hnone home reaches)
  · exact .failed rfl rfl rfl (iff_of_true rfl ⟨home, reaches, hlocked⟩)
  · have hnone : ¬ ∃ place, depot.Reaches name create place ∧ place ∈ depot.locked := by
      rintro ⟨place, others, hplace⟩
      exact hfree (reaches.eq others ▸ hplace)
    simp only
    rcases hlog : disk.openLog home with ⟨error | log, logging⟩
    · exact .failed rfl rfl (List.erase_cons_head ..)
        (iff_of_false (Disk.ne_locked_of_openLog (congrArg Prod.fst hlog)) hnone)
    · simp only [openLog]
      rcases hopened : Database.ofMedium name .directory settings (.file (.ofFile log)) with
        ⟨error | database, medium⟩
      · exact .failed rfl rfl (List.erase_cons_head ..)
          (iff_of_false (Database.ne_locked_of_ofMedium (congrArg Prod.fst hopened)) hnone)
      · exact .opened reaches hfree (Database.fresh_of_ofMedium (congrArg Prod.fst hopened)).isOpen
          rfl rfl rfl

theorem attempts_of_eq {settings : Settings} {name : String} {create : Bool} {result : Except Error Nat}
    (h : depot.openStored settings name create = (result, after)) :
    depot.Attempts name create result after := by
  simpa only [h] using depot.attempts_openStored settings name create

/-- The lock refuses an opening just if this comes as far as that of a locked directory. -/
theorem openStored_eq_locked_iff (depot : Depot) (settings : Settings) (name : String) (create : Bool) :
    (depot.openStored settings name create).1 = .error .databaseLocked ↔
      ∃ home, depot.Reaches name create home ∧ home ∈ depot.locked := by
  rcases hopened : depot.openStored settings name create with ⟨result, after⟩
  cases attempts_of_eq hopened with
  | failed _ _ _ busy => rw [← busy, Except.error.injEq]
  | opened reaches free =>
    refine iff_of_false (by rintro ⟨⟩) ?_
    rintro ⟨place, others, hplace⟩
    exact free (reaches.eq others ▸ hplace)

/-- An opening that fails leaves all locks as they were. -/
theorem locked_of_openStored_error {settings : Settings} {name : String} {create : Bool} {error : Error}
    (h : (depot.openStored settings name create).1 = .error error) :
    (depot.openStored settings name create).2.locked = depot.locked := by
  rcases hopened : depot.openStored settings name create with ⟨result, after⟩
  rw [hopened] at h
  cases attempts_of_eq hopened with
  | failed _ _ locked => exact locked
  | opened => cases h

/-! ## Moves -/

/-- What is done with handles on databases in directories, and with the files there. -/
inductive Move where
  /-- Opens the database under a name. -/
  | open (settings : Settings) (name : String) (create : Bool)
  /-- Carries out an operation, which may be to close the database. -/
  | work (number : Nat) (operation : Operation)
  /-- Adds a listener to a database. -/
  | listen (number : Nat) (listener : Listener)
  /-- Makes the log of a database fail in other ways from now on. -/
  | fault (number : Nat) (refusals syncFaults : Faults) (syncFails flushFails : Bool)
  /-- Gives up a handle. -/
  | drop (number : Nat)
  /-- Puts a log under a name. -/
  | putLog (name : String) (bytes : Bytes)
  /-- Cuts the log under a name. -/
  | cutLog (name : String) (count : Nat)
  /-- Puts a file under a name. -/
  | putFile (name : String) (bytes : Bytes)

/-- Makes a move. -/
def make (depot : Depot) : Move → Depot
  | .open settings name create => (depot.openStored settings name create).2
  | .work number operation => (depot.run number fun database => operation.run database).2
  | .listen number listener =>
    (depot.run number fun database => ((), database.addListener listener)).2
  | .fault number refusals syncFaults syncFails flushFails =>
    (depot.run number fun database =>
      ((), database.failing refusals syncFaults syncFails flushFails)).2
  | .drop number => depot.giveUp number
  | .putLog name bytes => { depot with disk := depot.disk.putLog name bytes }
  | .cutLog name count => { depot with disk := depot.disk.cutLog name count }
  | .putFile name bytes => { depot with disk := depot.disk.putFile name bytes }

/-- Makes moves one after another. -/
def makeAll (depot : Depot) (moves : List Move) : Depot := moves.foldl make depot

/-- A move closes the database with a number or gives up the handle on it. -/
def Move.LetsGo (number : Nat) (move : Move) : Prop := move = .work number .close ∨ move = .drop number

/-- A move opens the database with a number in a directory. -/
def Gains (depot : Depot) : Move → Nat → Place → Prop
  | .open settings name create, number, home =>
    (depot.openStored settings name create).1 = .ok number ∧
      (depot.disk.provide name create).1 = .ok home
  | _, _, _ => False

/-- One of the moves has opened the database with a number in a directory, and none after it has closed
the database or given up its handle. -/
def Kept (start : Depot) (moves : List Move) (number : Nat) (home : Place) : Prop :=
  ∃ before opening after, moves = before ++ opening :: after ∧
    (start.makeAll before).Gains opening number home ∧ ∀ later ∈ after, ¬ later.LetsGo number

theorem makeAll_concat (depot : Depot) (moves : List Move) (move : Move) :
    depot.makeAll (moves ++ [move]) = (depot.makeAll moves).make move :=
  List.foldl_concat ..

/-- The last move opens the database, or it was opened before and the last move does not let it go. -/
theorem kept_concat (start : Depot) (moves : List Move) (move : Move) :
    start.Kept (moves ++ [move]) number home ↔ (start.makeAll moves).Gains move number home ∨
      start.Kept moves number home ∧ ¬ move.LetsGo number := by
  constructor
  · rintro ⟨before, opening, later, hmoves, hgains, hkept⟩
    rcases later.eq_nil_or_concat' with rfl | ⟨front, last, rfl⟩
    · obtain ⟨rfl, hlast⟩ := List.append_inj' hmoves rfl
      cases hlast
      exact .inl hgains
    · rw [← List.cons_append, ← List.append_assoc] at hmoves
      obtain ⟨rfl, hlast⟩ := List.append_inj' hmoves rfl
      cases hlast
      exact .inr ⟨⟨before, opening, front, rfl, hgains, fun later hlater =>
        hkept later (List.mem_append_left _ hlater)⟩, hkept move (List.mem_append_right _ (.head _))⟩
  · rintro (hgains | ⟨⟨before, opening, later, rfl, hgains, hkept⟩, hlast⟩)
    · exact ⟨moves, move, [], rfl, hgains, List.forall_mem_nil _⟩
    · refine ⟨before, opening, later ++ [move], by simp, hgains, fun found hfound => ?_⟩
      rcases List.mem_append.1 hfound with hfound | hfound
      · exact hkept found hfound
      · exact List.mem_singleton.1 hfound ▸ hlast

/-! ### The handles on open databases -/

/-- Work on a database leaves it open if it does not close it, and leaves the others as they are. -/
theorem openAt_run {α : Type} {action : Database → α × Database} {stays : Bool}
    (h : ∀ database, (action database).2.isOpen = (database.isOpen && stays)) :
    (depot.run other action).2.OpenAt number home ↔
      depot.OpenAt number home ∧ (number = other → stays = true) := by
  rcases depot.run_puts other action with ⟨hnone, hsame⟩ | ⟨held, place?, locks, _, hhandle, rfl, -, puts⟩
  · rw [hsame, iff_self_and]
    rintro ⟨database, locks, hhandle, -⟩ rfl
    rw [database?_eq_none, held?, hhandle] at hnone
    cases hnone
  · simp only [OpenAt, puts.get?]
    by_cases hnumber : number = other
    · subst hnumber
      simp only [if_true, hhandle, changed, Option.some.injEq, Handle.database.injEq, forall_const]
      constructor
      · rintro ⟨_, _, ⟨rfl, rfl, rfl⟩, hopen⟩
        replace hopen : (action _).2.isOpen = true := hopen
        rw [h, isOpen_withFile, Bool.and_eq_true] at hopen
        exact ⟨⟨held, locks, ⟨rfl, rfl, rfl⟩, hopen.1⟩, hopen.2⟩
      · rintro ⟨⟨_, _, ⟨rfl, rfl, rfl⟩, hopen⟩, hstays⟩
        refine ⟨_, _, ⟨rfl, rfl, rfl⟩, ?_⟩
        show (action _).2.isOpen = true
        rw [h, isOpen_withFile, hopen, hstays]
        rfl
    · simp only [hnumber, if_false, false_implies, and_true]

theorem get?_giveUp (depot : Depot) (number other : Nat) :
    (depot.giveUp number).handles.get? other =
      if other = number then none else depot.handles.get? other := by
  unfold giveUp
  split
  · rw [handles_unlock, Table.get?_erase]
  · rename_i hnone
    split
    · rename_i hother
      rw [hother, hnone]
    · rfl

theorem openAt_giveUp : (depot.giveUp other).OpenAt number home ↔
    depot.OpenAt number home ∧ number ≠ other := by
  simp only [OpenAt, get?_giveUp]
  by_cases hnumber : number = other
  · simp [hnumber]
  · simp [hnumber]

/-- An opening that succeeds puts an open database into its directory, under a new number. -/
theorem openAt_openStored (ordered : depot.Ordered) (settings : Settings) (name : String) (create : Bool) :
    (depot.openStored settings name create).2.OpenAt number home ↔
      (depot.openStored settings name create).1 = .ok number ∧
          (depot.disk.provide name create).1 = .ok home ∨ depot.OpenAt number home := by
  rcases hopened : depot.openStored settings name create with ⟨result, after⟩
  cases attempts_of_eq hopened with
  | failed handles =>
    simp only [OpenAt, handles, reduceCtorEq, false_and, false_or]
  | @opened database place _ reaches _ isOpen handles =>
    have hget (other : Nat) : after.handles.get? other = if other = depot.next then
        some (.database database (some place) true) else depot.handles.get? other := by
      rw [handles, Table.get?_insert]
    have hfresh : ¬ depot.OpenAt depot.next home := by
      rintro ⟨_, _, hhandle, -⟩
      exact Nat.lt_irrefl _ (ordered.below hhandle)
    simp only [OpenAt, hget, Except.ok.injEq, reaches.provided]
    by_cases hnumber : number = depot.next
    · subst hnumber
      simp only [if_true, Option.some.injEq, Handle.database.injEq, true_and]
      constructor
      · rintro ⟨_, _, ⟨rfl, rfl, rfl⟩, -⟩
        exact .inl rfl
      · rintro (rfl | hopen)
        · exact ⟨_, _, ⟨rfl, rfl, rfl⟩, isOpen⟩
        · exact absurd hopen hfresh
    · simp only [if_neg hnumber, Ne.symm hnumber, false_and, false_or]

end Depot

/-- An operation leaves a database open unless it is to close it. -/
theorem Operation.isOpen_run (database : Database) {operation : Operation} (h : operation ≠ .close) :
    (operation.run database).2.isOpen = database.isOpen := by
  cases operation with
  | close => exact absurd rfl h
  | execute request =>
    simp only [run]
    split <;> rfl
  | _ => simp only [run, Database.isOpen_onStore, Database.look, Database.notify]

namespace Depot

variable {depot after start : Depot} {number other : Nat} {home place : Place}

/-- After a move a handle is on an open database if the move has opened it, or if it was before and the move
does not let it go. -/
theorem openAt_make (ordered : depot.Ordered) (move : Move) :
    (depot.make move).OpenAt number home ↔
      depot.Gains move number home ∨ depot.OpenAt number home ∧ ¬ move.LetsGo number := by
  cases move with
  | «open» settings name create =>
    rw [make, openAt_openStored ordered]
    simp only [Gains, Move.LetsGo, reduceCtorEq, or_self, not_false_eq_true, and_true]
  | work other operation =>
    simp only [Gains, false_or, make, Move.LetsGo, Move.work.injEq, reduceCtorEq, or_false]
    by_cases hclose : operation = .close
    · subst hclose
      have hcloses (database : Database) :
          (Operation.run database .close).2.isOpen = (database.isOpen && false) :=
        database.isOpen_close.trans (Bool.and_false _).symm
      rw [openAt_run hcloses]
      simp only [Bool.false_eq_true, imp_false, and_true, eq_comm]
    · rw [openAt_run fun database =>
        (Operation.isOpen_run database hclose).trans (Bool.and_true _).symm]
      simp only [hclose, and_false, not_false_eq_true, implies_true]
  | listen | fault =>
    simp only [Gains, false_or, make, Move.LetsGo, reduceCtorEq, or_self, not_false_eq_true, and_true]
    rw [openAt_run fun database => (Bool.and_true _).symm]
    simp only [implies_true, and_true]
  | drop other =>
    rw [make, openAt_giveUp]
    simp only [Gains, false_or, Move.LetsGo, Move.drop.injEq, reduceCtorEq, ne_eq, eq_comm]
  | putLog | cutLog | putFile =>
    simp only [Gains, false_or, make, Move.LetsGo, reduceCtorEq, or_self, not_false_eq_true, and_true,
      OpenAt]

/-! ### The locks -/

theorem Tight.giveUp (tight : depot.Tight) (ordered : depot.Ordered) (number : Nat) :
    (depot.giveUp number).Tight := by
  cases hhandle : depot.handles.get? number with
  | none =>
    rw [Depot.giveUp, hhandle]
    exact tight
  | some handle =>
    let without : Depot := { depot with handles := depot.handles.erase number }
    have hgone : depot.giveUp number = without.unlock handle.held? := by rw [Depot.giveUp, hhandle]
    refine ⟨hgone ▸ @nodup_unlock without handle.held? tight.nodup, fun {place} h => ?_⟩
    rw [hgone] at h
    obtain ⟨found, hfound⟩ := tight.openAt (mem_of_mem_unlock without handle.held? h)
    refine ⟨found, hfound.of_handles ((depot.get?_giveUp number found).trans (if_neg ?_))⟩
    -- The handle itself kept the directory locked, and has unlocked it.
    rintro rfl
    obtain ⟨database, locks, hother, hopen⟩ := hfound
    obtain rfl := ordered.keeps hother hopen
    rw [hhandle] at hother
    cases hother
    exact tight.nodup.not_mem_erase h

theorem Ordered.make (ordered : depot.Ordered) (move : Move) : (depot.make move).Ordered := by
  cases move <;> rw [Depot.make]
  case «open» settings name create => exact ordered.opens (depot.opens_openStored settings name create)
  case work number operation => exact ordered.run number fun database => operation.isOpen_of_run database
  case listen | fault => exact ordered.run _ fun _ hopen => hopen
  case drop number => exact ordered.giveUp number
  case putLog | cutLog | putFile => exact ordered.same rfl rfl rfl

theorem Tight.make (tight : depot.Tight) (ordered : depot.Ordered) (move : Move) :
    (depot.make move).Tight := by
  cases move <;> rw [Depot.make]
  case «open» settings name create =>
    exact tight.opens ordered (depot.opens_openStored settings name create)
      (depot.starts_openStored settings name create)
  case work | listen | fault => exact tight.run ordered _ _
  case drop number => exact tight.giveUp ordered number
  case putLog | cutLog | putFile => exact tight.same rfl rfl

/-- A directory is locked just if a handle is on an open database in it. -/
theorem mem_locked_iff (ordered : depot.Ordered) (tight : depot.Tight) :
    home ∈ depot.locked ↔ ∃ number, depot.OpenAt number home :=
  ⟨tight.openAt, fun ⟨number, hopen⟩ => Decidable.not_not.1 fun hfree => ordered.free hfree number hopen⟩

theorem ordered_tight_makeAll (ordered : start.Ordered) (tight : start.Tight) (moves : List Move) :
    (start.makeAll moves).Ordered ∧ (start.makeAll moves).Tight := by
  induction moves generalizing start with
  | nil => exact ⟨ordered, tight⟩
  | cons move rest ih => exact ih (ordered.make move) (tight.make ordered move)

/-- After any moves the handles on open databases are those that were opened and not let go since. -/
theorem openAt_makeAll_iff (disk : Disk) (moves : List Move) :
    (makeAll { disk } moves).OpenAt number home ↔ Kept { disk } moves number home := by
  induction moves using List.reverseRecOn with
  | nil =>
    refine iff_of_false ?_ ?_
    · rintro ⟨_, _, hhandle, -⟩
      cases hhandle
    · rintro ⟨before, opening, after, hmoves, -⟩
      cases before <;> cases hmoves
  | append_singleton moves move ih =>
    have ⟨ordered, _⟩ := ordered_tight_makeAll (ordered_empty disk) (tight_empty disk) moves
    rw [makeAll_concat, openAt_make ordered, ih, kept_concat]

/-- The lock of a directory follows the databases in it. After any openings, whatever they find and however
they end, and any work, closings, giving up of handles and changes of the files: a directory is locked just if
a database was opened in it that has neither been closed nor had its handle given up since. So an opening that
comes as far as the lock of a directory is refused there just if there is such a database, and no other opening
fails in this way. An opening that fails leaves all locks as they were; if it was not the lock that refused it,
its directory is free and does not refuse the next one. -/
theorem lock_follows_open_handles (disk : Disk) (moves : List Move) :
    let depot := makeAll { disk } moves
    (∀ home, home ∈ depot.locked ↔ ∃ number, Kept { disk } moves number home) ∧
    ∀ settings name create,
      let opening := depot.openStored settings name create
      (∀ home, depot.Reaches name create home →
        (opening.1 = .error .databaseLocked ↔ ∃ number, Kept { disk } moves number home)) ∧
      (opening.1 = .error .databaseLocked → ∃ home, depot.Reaches name create home) ∧
      ∀ error, opening.1 = .error error → opening.2.locked = depot.locked ∧
        (error ≠ .databaseLocked → ∀ home, depot.Reaches name create home →
          home ∉ opening.2.locked ∧ ∀ settings name create, opening.2.Reaches name create home →
            (opening.2.openStored settings name create).1 ≠ .error .databaseLocked) := by
  obtain ⟨ordered, tight⟩ := ordered_tight_makeAll (ordered_empty disk) (tight_empty disk) moves
  have hlocked (home : Place) :
      home ∈ (makeAll { disk } moves).locked ↔ ∃ number, Kept { disk } moves number home := by
    simp only [mem_locked_iff ordered tight, openAt_makeAll_iff]
  refine ⟨hlocked, fun settings name create => ⟨fun home reaches => ?_, fun h => ?_, fun error h => ?_⟩⟩
  · rw [← hlocked, openStored_eq_locked_iff]
    exact ⟨fun ⟨place, others, hplace⟩ => reaches.eq others ▸ hplace, fun h => ⟨home, reaches, h⟩⟩
  · obtain ⟨home, reaches, -⟩ := (openStored_eq_locked_iff ..).1 h
    exact ⟨home, reaches⟩
  · have hsame := locked_of_openStored_error h
    refine ⟨hsame, fun hother home reaches => ?_⟩
    have hfree : home ∉ (makeAll { disk } moves).locked := fun hmem => hother
      (Except.error.inj (h.symm.trans ((openStored_eq_locked_iff ..).2 ⟨home, reaches, hmem⟩)))
    rw [hsame]
    refine ⟨hfree, fun settings name create again hagain => ?_⟩
    obtain ⟨place, others, hplace⟩ := (openStored_eq_locked_iff ..).1 hagain
    rw [hsame] at hplace
    exact hfree (again.eq others ▸ hplace)

/-- A disk with an empty directory of databases. -/
def bareDisk : Disk := { root := "/d" }

/-- A database is opened, and a log that is damaged is put beside it. -/
def oneOpened : List Move := [.open Database.plainSettings "x" true, .putLog "y" [0, 0, 0, 0]]

/-- The same with the database closed. -/
def oneClosed : List Move := oneOpened ++ [.work 0 .close]

/-- The directories that openings come to, and how they end if they are not refused at a lock. -/
theorem oneOpened_openings :
    ({ disk := bareDisk } : Depot).Gains (.open Database.plainSettings "x" true) 0 ["x", "d"] ∧
      (makeAll { disk := bareDisk } oneOpened).Reaches "./x" false ["x", "d"] ∧
      (makeAll { disk := bareDisk } oneOpened).Reaches "y" false ["y", "d"] ∧
      ((makeAll { disk := bareDisk } oneOpened).openStored Database.plainSettings "y" false).1 =
        .error (.damaged (.zeroLength 0)) ∧
      (makeAll { disk := bareDisk } oneClosed).Reaches "./x" false ["x", "d"] ∧
      ((makeAll { disk := bareDisk } oneClosed).openStored Database.plainSettings "./x" false).1 =
        .ok 1 := by
  simp only [Gains]
  decide +kernel

/-- An open database refuses the next opening of its directory, under whatever name; once it is closed nobody
keeps the directory. A damaged log leaves its directory free. -/
theorem lock_follows_open_handles_of_one :
    ((makeAll { disk := bareDisk } oneOpened).openStored Database.plainSettings "./x" false).1 =
        .error .databaseLocked ∧
      (["y", "d"] : Place) ∉ ((makeAll { disk := bareDisk } oneOpened).openStored
        Database.plainSettings "y" false).2.locked ∧
      ¬ ∃ number, Kept { disk := bareDisk } oneClosed number ["x", "d"] := by
  obtain ⟨hgains, reaches, damaged, hdamaged, again, hagain⟩ := oneOpened_openings
  have hkept : Kept { disk := bareDisk } oneOpened 0 ["x", "d"] :=
    ⟨[], _, [.putLog "y" [0, 0, 0, 0]], rfl, hgains, by simp [Move.LetsGo]⟩
  obtain ⟨-, openings⟩ := lock_follows_open_handles bareDisk oneOpened
  obtain ⟨-, closings⟩ := lock_follows_open_handles bareDisk oneClosed
  obtain ⟨hrefused, -, -⟩ := openings Database.plainSettings "./x" false
  obtain ⟨-, -, hfailed⟩ := openings Database.plainSettings "y" false
  obtain ⟨hfree, -, -⟩ := closings Database.plainSettings "./x" false
  refine ⟨(hrefused _ reaches).2 ⟨0, hkept⟩, ((hfailed _ hdamaged).2 (by rintro ⟨⟩) _ damaged).1,
    fun h => ?_⟩
  cases hagain.symm.trans ((hfree _ again).2 h)

end Depot

end RecordBase
