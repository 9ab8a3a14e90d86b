import RecordBase.Proofs.Catalog.Lifecycle
import RecordBase.Proofs.Catalog.Shelves

/-!
# What the names of databases stand for

A catalog that starts with an empty directory is put through moves, none of which closes a database
otherwise than by a shutdown or writes anything new through a closed one (`Catalog.Proper`). Then a name
stands for one database.

* `Catalog.Denotes`: the invariant. A listed name stands for an open database; a name of a database that
  was made in a directory for that database, also after shutdowns; and there is nothing under any other.
* `Catalog.Denotes.makeAll`: every move keeps it. Where a database is made, opened or worked with, one
  lemma says what the change of its log is to all names (`Denotes.put`).
* `Catalog.Denotes.create_spec`, `Catalog.Denotes.openDatabase_of_stored`: what comes of making and opening
  a database by name.
-/

namespace RecordBase

open Files (Place)

variable {ε : Type}

/-! ## Histories that are looked at -/

instance (database : Database) (step : Step ε) : Decidable (step.Repeats database) :=
  decidable_of_iff (∀ log ∈ database.file?,
    (log.drop database.store.logSize).take (step.appended database).length =
      step.appended database) Iff.rfl

/-- What is done with an open database leaves it open and writes entries of fewer than `2 ^ 32` bytes.
Whatever is written through a closed one stands in the file already. -/
def Step.Proper (database : Database) (step : Step ε) : Prop :=
  if database.isOpen = true then (step.run database).2.isOpen = true ∧
    Store.SmallAppends database.store.logSize (step.course database)
  else step.Repeats database

instance (database : Database) (step : Step ε) : Decidable (step.Proper database) :=
  inferInstanceAs (Decidable (if database.isOpen = true then (step.run database).2.isOpen = true ∧
    Store.SmallAppends database.store.logSize (step.course database) else step.Repeats database))

namespace Catalog

/-- A move that makes no journal fail, closes no database otherwise than by a shutdown, and does with each
only what is proper. -/
def Proper (catalog : Catalog) : Move ε → Prop
  | .work number step => ∀ database ∈ catalog.depot.database? number, step.Proper database
  | .fault .. => False
  | _ => True

instance decidableProper (catalog : Catalog) : (move : Move ε) → Decidable (catalog.Proper move)
  | .work number step =>
    inferInstanceAs (Decidable (∀ database ∈ catalog.depot.database? number, step.Proper database))
  | .fault .. => inferInstanceAs (Decidable False)
  | .observe _ | .offer _ | .create .. | .find _ | .hear | .shutDown =>
    inferInstanceAs (Decidable True)

/-- So is each of some moves. -/
def AllProper (catalog : Catalog) : List (Move ε) → Prop
  | [] => True
  | move :: rest => catalog.Proper move ∧ (catalog.make move).AllProper rest

instance decidableAllProper : (catalog : Catalog) → (moves : List (Move ε)) →
    Decidable (catalog.AllProper moves)
  | _, [] => inferInstanceAs (Decidable True)
  | catalog, move :: rest =>
    have := decidableAllProper (catalog.make move) rest
    inferInstanceAs (Decidable (catalog.Proper move ∧ (catalog.make move).AllProper rest))

/-- The name of the database that a move makes in a directory. -/
def stores (catalog : Catalog) : Move ε → List String
  | .create name mode =>
    match (catalog.create name mode).1 with
    | .ok _ => if Text.asciiLowercase mode = StorageMode.directory.name then [name] else []
    | .error _ => []
  | _ => []

/-- The names of the databases that moves make in directories. -/
def storedBy (catalog : Catalog) : List (Move ε) → List String
  | [] => []
  | move :: rest => catalog.stores move ++ (catalog.make move).storedBy rest

/-- The database that is listed under a name, or else the one that was last. -/
def known (catalog : Catalog) (last : String → Option Database) (name : String) : Option Database :=
  (catalog.listed? name).or (last name)

/-- The database that is listed under a name after moves, or else the last one that was. -/
def lastUnder (catalog : Catalog) (last : String → Option Database) :
    List (Move ε) → String → Option Database
  | [] => last
  | move :: rest => (catalog.make move).lastUnder ((catalog.make move).known last) rest

end Catalog

/-! ## Ways to keep databases -/

namespace Catalog

/-- The ways that a catalog offers if it uses the disk. -/
def bothModes : Table String StorageMode :=
  (Table.empty.insert StorageMode.memory.name .memory).insert StorageMode.directory.name .directory

theorem values_bothModes : bothModes.values = [.directory, .memory] := by decide +kernel

theorem get?_bothModes {name : String} {mode : StorageMode} :
    bothModes.get? name = some mode ↔ name = mode.name := by
  rw [bothModes, Table.get?_insert, Table.get?_insert, Table.get?_empty]
  have hne : StorageMode.memory.name ≠ StorageMode.directory.name := by decide
  constructor
  · intro h
    split at h
    · cases h
      assumption
    · split at h <;> cases h
      assumption
  · rintro rfl
    cases mode with
    | memory => rw [if_neg hne, if_pos rfl]
    | directory => rw [if_pos rfl]

theorem insert_bothModes (mode : StorageMode) : bothModes.insert mode.name mode = bothModes :=
  Table.insert_eq_self (get?_bothModes.2 rfl)

end Catalog

/-! ## The invariant -/

namespace Catalog

variable {catalog after : Catalog} {settings : Settings} {root : Place} {stored stored' : List String}
  {last : String → Option Database} {name : String} {number : Nat}

/-- A name of the list stands for an open database, and a name of a database that was made in a directory
for the one that was listed last; there is nothing under the other names. -/
structure Denotes (catalog : Catalog) (settings : Settings) (root : Place) (stored : List String)
    (last : String → Option Database) : Prop where
  regular : catalog.Regular
  tight : catalog.depot.Tight
  chosen : catalog.settings = settings
  engines : catalog.engines = bothModes
  rooted : catalog.depot.disk.Rooted root
  /-- Every handle on a directory is on that of a database that was made. -/
  homes {number : Nat} {place : Place} :
    catalog.depot.At number place → ∃ name ∈ stored, place = name :: root
  kept {name : String} : name ∈ stored → checkName name = .ok () ∧ catalog.depot.disk.Takes name ∧
    ∃ database log, last name = some database ∧ database.Kept settings .directory log ∧
      catalog.depot.disk.Keeps (name :: root) log
  free {name : String} : name ∉ stored → catalog.depot.disk.tree.at? (name :: root) = none ∧
    ∀ file, catalog.depot.disk.tree.at? (file :: name :: root) = none
  listed {name : String} {number : Nat} : catalog.opened.get? name = some number →
    checkName name = .ok () ∧ ∃ database log, last name = some database ∧ database.isOpen = true ∧
      catalog.depot.Bears settings number (Disk.homeOf stored root name) log database

/-- What is listed is what was listed last. -/
theorem Denotes.known_eq (denotes : catalog.Denotes settings root stored last) {name : String}
    (opened : after.opened.get? name = catalog.opened.get? name)
    (held : ∀ number, catalog.opened.get? name = some number →
      after.depot.held? number = catalog.depot.held? number) : after.known last name = last name := by
  simp only [known, listed?, number?, opened]
  cases hlisted : catalog.opened.get? name with
  | none => rfl
  | some number =>
    obtain ⟨-, database, log, hlast, -, bears⟩ := denotes.listed hlisted
    rw [Option.bind_some, held number hlisted, bears.held?, hlast]
    rfl

/-- A move that changes neither the disk nor a listed database. -/
theorem Denotes.same (denotes : catalog.Denotes settings root stored last) (regular : after.Regular)
    (tight : after.depot.Tight) (same : after.settings = catalog.settings)
    (engines : after.engines = catalog.engines) (opened : after.opened = catalog.opened)
    (disk : after.depot.disk = catalog.depot.disk)
    (homes : ∀ number place, after.depot.At number place → catalog.depot.At number place)
    (handles : ∀ name number, catalog.opened.get? name = some number →
      after.depot.handles.get? number = catalog.depot.handles.get? number) :
    after.Denotes settings root stored (after.known last) := by
  have hheld (name : String) (number : Nat) (h : catalog.opened.get? name = some number) :
      after.depot.held? number = catalog.depot.held? number := by
    rw [Depot.held?, handles name number h]
    rfl
  have hknown : after.known last = last :=
    funext fun name => denotes.known_eq (by rw [opened]) (hheld name)
  rw [hknown]
  refine ⟨regular, tight, same.trans denotes.chosen, engines.trans denotes.engines,
    disk ▸ denotes.rooted, fun h => denotes.homes (homes _ _ h), fun h => ?_, fun h => ?_, fun h => ?_⟩
  · rw [disk]
    exact denotes.kept h
  · rw [disk]
    exact denotes.free h
  · rw [opened] at h
    obtain ⟨hname, database, log, hlast, hopen, bears⟩ := denotes.listed h
    exact ⟨hname, database, log, hlast, hopen,
      bears.same (handles _ _ h) fun _ _ hkeeps => disk ▸ hkeeps⟩

theorem Denotes.known_self (denotes : catalog.Denotes settings root stored last) :
    catalog.known last = last :=
  funext fun _ => denotes.known_eq rfl fun _ _ => rfl

/-- What a move does that makes or opens a database or works with an open one: it is listed, its log is
written, and all else is left alone. -/
structure Writes (catalog : Catalog) (settings : Settings) (root : Place) (stored stored' : List String)
    (name : String) (number : Nat) (database : Database) (log : Bytes) (after : Catalog) : Prop where
  regular : after.Regular
  tight : after.depot.Tight
  chosen : after.settings = catalog.settings
  engines : after.engines = catalog.engines
  opened : after.opened = catalog.opened.insert name number
  good : checkName name = .ok ()
  isOpen : database.isOpen = true
  bears : after.depot.Bears settings number (Disk.homeOf stored' root name) log database
  handles (other : Nat) : other ≠ number →
    after.depot.handles.get? other = catalog.depot.handles.get? other
  shelves : catalog.depot.disk.Shelves (Disk.homeOf stored' root name) log after.depot.disk
  takes : name ∈ stored' → catalog.depot.disk.Takes name
  grows (other : String) : other ∈ stored → other ∈ stored'
  others (other : String) : other ∈ stored' → other = name ∨ other ∈ stored

section Writes

variable {database : Database} {log : Bytes} {other : String}
  (writes : catalog.Writes settings root stored stored' name number database log after)

include writes

theorem Writes.number_eq : after.opened.get? name = some number := by
  rw [writes.opened, Table.get?_insert_self]

theorem Writes.known_eq : after.known last name = some database := by
  simp only [known, listed?, number?, writes.number_eq, Option.bind_some, writes.bears.held?]
  rfl

theorem Writes.opened_beside (hne : other ≠ name) :
    after.opened.get? other = catalog.opened.get? other := by
  rw [writes.opened, Table.get?_insert, if_neg hne]

/-- No other name stands for the same number. -/
theorem Writes.handles_beside (hne : other ≠ name) {found : Nat}
    (h : catalog.opened.get? other = some found) :
    after.depot.handles.get? found = catalog.depot.handles.get? found := by
  refine writes.handles found ?_
  rintro rfl
  exact hne (writes.regular.apart ((writes.opened_beside hne).trans h) writes.number_eq)

theorem Writes.mem_beside (hne : other ≠ name) : other ∈ stored' ↔ other ∈ stored :=
  ⟨fun h => (writes.others other h).resolve_left hne, writes.grows other⟩

theorem Denotes.known_beside (denotes : catalog.Denotes settings root stored last)
    (hne : other ≠ name) : after.known last other = last other :=
  denotes.known_eq (writes.opened_beside hne) fun found h => by
    rw [Depot.held?, writes.handles_beside hne h]
    rfl

theorem Denotes.homes_of_writes (denotes : catalog.Denotes settings root stored last) {found : Nat}
    {place : Place} (h : after.depot.At found place) : ∃ name ∈ stored', place = name :: root := by
  by_cases hfound : found = number
  · subst hfound
    obtain ⟨_, _, hhandle⟩ := h
    obtain ⟨locks, hbears⟩ := writes.bears.handle
    rw [hhandle, Disk.homeOf] at hbears
    split at hbears
    · rename_i hstored
      cases hbears
      exact ⟨name, hstored, rfl⟩
    · cases hbears
  · rw [Depot.At, writes.handles found hfound] at h
    obtain ⟨other, hstored, hplace⟩ := denotes.homes h
    exact ⟨other, writes.grows other hstored, hplace⟩

theorem Denotes.kept_of_writes (denotes : catalog.Denotes settings root stored last)
    (h : other ∈ stored') : checkName other = .ok () ∧ after.depot.disk.Takes other ∧
      ∃ database log, after.known last other = some database ∧
        database.Kept settings .directory log ∧ after.depot.disk.Keeps (other :: root) log := by
  by_cases hne : other = name
  · subst hne
    have hhome : Disk.homeOf stored' root other = some (other :: root) := if_pos h
    have bears := writes.bears
    rw [hhome] at bears
    exact ⟨writes.good, writes.shelves.takes.2 (writes.takes h), database, log, writes.known_eq,
      bears.kept, bears.keeps _ rfl⟩
  · obtain ⟨hgood, takes, before, kept, hlast, hkept, keeps⟩ :=
      denotes.kept ((writes.mem_beside hne).1 h)
    exact ⟨hgood, writes.shelves.takes.2 takes, before, kept,
      (denotes.known_beside writes hne).trans hlast, hkept, (writes.shelves.beside hne).1 kept keeps⟩

theorem Denotes.free_of_writes (denotes : catalog.Denotes settings root stored last)
    (h : other ∉ stored') : after.depot.disk.tree.at? (other :: root) = none ∧
      ∀ file, after.depot.disk.tree.at? (file :: other :: root) = none := by
  by_cases hne : other = name
  · subst hne
    have hhome : Disk.homeOf stored' root other = none := if_neg h
    have shelves := writes.shelves
    rw [hhome] at shelves
    rw [show after.depot.disk = catalog.depot.disk from shelves]
    exact denotes.free fun hstored => h (writes.grows other hstored)
  · obtain ⟨-, hat, hfile⟩ := writes.shelves.beside hne
    obtain ⟨hfree, hfiles⟩ := denotes.free fun hstored => h ((writes.mem_beside hne).2 hstored)
    exact ⟨hat.trans hfree, fun file => (hfile file).trans (hfiles file)⟩

theorem Denotes.listed_of_writes (denotes : catalog.Denotes settings root stored last) {found : Nat}
    (h : after.opened.get? other = some found) :
    checkName other = .ok () ∧ ∃ database log, after.known last other = some database ∧
      database.isOpen = true ∧
      after.depot.Bears settings found (Disk.homeOf stored' root other) log database := by
  by_cases hne : other = name
  · subst hne
    rw [writes.number_eq] at h
    cases h
    exact ⟨writes.good, database, log, writes.known_eq, writes.isOpen, writes.bears⟩
  · rw [writes.opened_beside hne] at h
    obtain ⟨hgood, before, kept, hlast, hopen, bears⟩ := denotes.listed h
    have hhome : Disk.homeOf stored' root other = Disk.homeOf stored root other := by
      simp only [Disk.homeOf, writes.mem_beside hne]
    rw [hhome]
    refine ⟨hgood, before, kept, (denotes.known_beside writes hne).trans hlast, hopen,
      bears.same (writes.handles_beside hne h) fun place hplace => ?_⟩
    rw [Option.mem_def, Disk.homeOf] at hplace
    split at hplace
    · cases hplace
      exact (writes.shelves.beside hne).1 kept
    · cases hplace

theorem Denotes.put (denotes : catalog.Denotes settings root stored last) :
    after.Denotes settings root stored' (after.known last) where
  regular := writes.regular
  tight := writes.tight
  chosen := writes.chosen.trans denotes.chosen
  engines := writes.engines.trans denotes.engines
  rooted := writes.shelves.rooted denotes.rooted
  homes := denotes.homes_of_writes writes
  kept := denotes.kept_of_writes writes
  free := denotes.free_of_writes writes
  listed := denotes.listed_of_writes writes

end Writes

/-! ## Working with databases -/

/-- A step that would write what stands in the file leaves the disk as it is. -/
theorem Denotes.disk_of_repeats (denotes : catalog.Denotes settings root stored last)
    {database : Database} {step : Step ε} (found : catalog.depot.database? number = some database)
    (repeats : step.Repeats database) :
    (catalog.make (.work number step)).depot.disk = catalog.depot.disk := by
  rcases catalog.depot.run_puts number fun database => step.run database with ⟨hnone, -⟩ |
    ⟨held, home, locks, other, hhandle, hheld, hother, puts⟩
  · rw [found] at hnone
    cases hnone
  rw [found] at hother
  cases hother
  have hgood := denotes.regular.sound.good number held (Depot.held?_eq_some_iff.2 ⟨home, locks, hhandle⟩)
  have hfile := (step.repeats_iff (hheld ▸ (held.agrees_withFile _).good hgood).sound).1 repeats
  have hdisk : (catalog.make (.work number step)).depot.disk =
      (catalog.depot.writeFile home (step.run database).2).disk := puts.disk
  rw [hdisk]
  cases home with
  | none => rfl
  | some place =>
    obtain ⟨name, hstored, rfl⟩ := denotes.homes ⟨held, locks, hhandle⟩
    obtain ⟨-, -, -, log, -, -, keeps⟩ := denotes.kept hstored
    have hlog : database.file? = held.file?.map fun _ => log := by
      rw [hheld, Option.bind_some, keeps.log?, Option.getD_some, Database.file?_withFile]
    rw [hlog] at hfile
    cases hheldFile : held.file? with
    | none =>
      rw [hheldFile, Option.map_none] at hfile
      simp only [Depot.writeFile, hfile]
    | some bytes =>
      rw [hheldFile, Option.map_some] at hfile
      simp only [Depot.writeFile, hfile, keeps.writeLog_self]

/-- Work with an open database, which is a listed one. -/
theorem Denotes.work_of_open (denotes : catalog.Denotes settings root stored last)
    {database : Database} {step : Step ε} (found : catalog.depot.database? number = some database)
    (hopen : database.isOpen = true) (hafter : (step.run database).2.isOpen = true)
    (small : Store.SmallAppends database.store.logSize (step.course database)) :
    (catalog.make (.work number step)).Denotes settings root stored
      ((catalog.make (.work number step)).known last) := by
  obtain ⟨held, hheld, agrees⟩ := Depot.agrees_of_database? found
  have hlisted := denotes.regular.listed hheld (agrees.isOpen ▸ hopen)
  obtain ⟨hname, listed, log, -, -, bears⟩ := denotes.listed hlisted
  have hsame := bears.database?
  rw [found] at hsame
  obtain rfl := Option.some.inj hsame
  obtain ⟨hbears, hothers, shelves, -⟩ :=
    bears.run (fun database => step.run database) (bears.kept.stepped step small)
  have writes : catalog.Writes settings root stored stored held.name number
      { (step.run database).2 with notices := [] } _ (catalog.make (.work number step)) :=
    ⟨denotes.regular.make (.work number step),
      denotes.regular.tight_make denotes.tight (.work number step), rfl, rfl,
      (Table.insert_eq_self hlisted).symm, hname, hafter, hbears, hothers, shelves,
      fun h => (denotes.kept h).2.1, fun _ h => h, fun _ h => .inr h⟩
  exact denotes.put writes

/-- Work with a closed database, which is none of the listed ones. -/
theorem Denotes.work_of_closed (denotes : catalog.Denotes settings root stored last)
    {database : Database} {step : Step ε} (found : catalog.depot.database? number = some database)
    (hclosed : ¬ database.isOpen = true) (repeats : step.Repeats database) :
    (catalog.make (.work number step)).Denotes settings root stored
      ((catalog.make (.work number step)).known last) := by
  obtain ⟨held, hheld, agrees⟩ := Depot.agrees_of_database? found
  refine denotes.same (denotes.regular.make (.work number step))
    (denotes.regular.tight_make denotes.tight (.work number step)) rfl rfl rfl
    (denotes.disk_of_repeats found repeats) (fun _ _ => Depot.at_of_run) fun name other hlisted => ?_
  obtain ⟨-, listed, _, -, hopen, bears⟩ := denotes.listed hlisted
  have hne : other ≠ number := by
    rintro rfl
    rw [bears.held?] at hheld
    cases hheld
    exact hclosed (agrees.isOpen.trans hopen)
  rcases catalog.depot.run_puts number fun database => step.run database with ⟨-, hsame⟩ |
    ⟨_, _, _, _, -, -, -, puts⟩
  · simp only [make, Catalog.run, hsame]
  · exact (puts.get? other).trans (if_neg hne)

theorem Denotes.work (denotes : catalog.Denotes settings root stored last) {step : Step ε}
    (proper : catalog.Proper (.work number step)) :
    (catalog.make (.work number step)).Denotes settings root stored
      ((catalog.make (.work number step)).known last) := by
  cases found : catalog.depot.database? number with
  | none =>
    have hsame : catalog.make (.work number step) = catalog := by
      simp only [make, Catalog.run, Depot.run, found]
    rw [hsame, denotes.known_self]
    exact denotes
  | some database =>
    have proper := proper database found
    by_cases hopen : database.isOpen = true
    · rw [Step.Proper, if_pos hopen] at proper
      exact denotes.work_of_open found hopen proper.1 proper.2
    · rw [Step.Proper, if_neg hopen] at proper
      exact denotes.work_of_closed found hopen proper

theorem Denotes.shutdown (denotes : catalog.Denotes settings root stored last) :
    catalog.shutdown.2.Denotes settings root stored (catalog.shutdown.2.known last) := by
  have hbears : ∀ number ∈ catalog.opened.values, ∃ home log database,
      catalog.depot.Bears settings number home log database := by
    intro number hnumber
    obtain ⟨⟨name, _⟩, hentry, rfl⟩ := List.mem_map.1 hnumber
    obtain ⟨-, database, log, -, -, bears⟩ := denotes.listed (Table.mem_entries_iff.1 hentry)
    exact ⟨_, log, database, bears⟩
  have hdisk : catalog.shutdown.2.depot.disk = catalog.depot.disk := Depot.disk_closeAll hbears
  have hknown : catalog.shutdown.2.known last = last := funext fun _ => rfl
  rw [hknown]
  refine ⟨denotes.regular.shutdown,
    denotes.regular.tight_make denotes.tight (.shutDown : Move Unit), denotes.chosen,
    denotes.engines, hdisk ▸ denotes.rooted, fun h => denotes.homes (Depot.at_of_closeAll h),
    fun h => ?_, fun h => ?_, fun h => ?_⟩
  · rw [hdisk]
    exact denotes.kept h
  · rw [hdisk]
    exact denotes.free h
  · cases h

/-! ## Making and opening databases -/

/-- There is a database in the directory of a name just if one was made there. -/
theorem Denotes.isDatabase_iff (denotes : catalog.Denotes settings root stored last)
    (good : checkName name = .ok ()) :
    catalog.depot.disk.isDatabase name = true ↔ name ∈ stored := by
  have step := isStep_of_checkName good
  unfold Disk.isDatabase Disk.logUnder?
  by_cases hstored : name ∈ stored
  · obtain ⟨-, takes, _, log, -, -, keeps⟩ := denotes.kept hstored
    rw [Disk.find_of_at denotes.rooted step takes keeps.directory]
    simp only [keeps.log?, Option.isSome_some, hstored]
  · have hnone : ∃ refusal, catalog.depot.disk.find name = .error refusal := by
      by_cases takes : catalog.depot.disk.Takes name
      · refine ⟨.missing, ?_⟩
        rw [Disk.find_of_takes denotes.rooted step takes, (denotes.free hstored).1]
        rfl
      · exact Disk.find_of_not_takes denotes.rooted step takes
    obtain ⟨refusal, hfind⟩ := hnone
    rw [hfind]
    simp only [Option.isSome_none, hstored, Bool.false_eq_true]

theorem Denotes.values_eq (denotes : catalog.Denotes settings root stored last) :
    catalog.engines.values = [.directory, .memory] := by
  rw [denotes.engines, values_bothModes]

theorem Denotes.has_iff (denotes : catalog.Denotes settings root stored last)
    (good : checkName name = .ok ()) :
    catalog.has name = true ↔ (catalog.opened.get? name).isSome = true ∨ name ∈ stored := by
  rw [has, Bool.or_eq_true, denotes.values_eq, ← denotes.isDatabase_iff good]
  simp only [Table.contains, List.any_cons, List.any_nil, Depot.keepsBy, Bool.or_false]

theorem Denotes.free_of_not_has (denotes : catalog.Denotes settings root stored last)
    (good : checkName name = .ok ()) (h : catalog.has name = false) :
    catalog.opened.get? name = none ∧ name ∉ stored := by
  rw [← Bool.not_eq_true, denotes.has_iff good, not_or, Option.not_isSome_iff_eq_none] at h
  exact h

/-- The directory of a name that is not listed is not locked. -/
theorem Denotes.unlocked (denotes : catalog.Denotes settings root stored last)
    (free : catalog.opened.get? name = none) : name :: root ∉ catalog.depot.locked := by
  intro hlocked
  obtain ⟨number, database, locks, hhandle, hopen⟩ := denotes.tight.openAt hlocked
  have hlisted := denotes.regular.listed
    (Depot.held?_eq_some_iff.2 ⟨_, locks, hhandle⟩) hopen
  obtain ⟨-, _, _, -, -, bears⟩ := denotes.listed hlisted
  obtain ⟨_, hbears⟩ := bears.handle
  rw [hhandle, Disk.homeOf] at hbears
  split at hbears
  · simp only [Option.some.injEq, Handle.database.injEq, List.cons.injEq] at hbears
    rw [← hbears.2.1.1, free] at hlisted
    cases hlisted
  · cases hbears

/-- A database that is made or opened: its handle, and what happens to the disk. -/
structure Arrives (catalog : Catalog) (settings : Settings) (home : Option Place) (database : Database)
    (log : Bytes) (depot : Depot) : Prop where
  handles : ∃ locks, depot.handles =
    catalog.depot.handles.insert catalog.depot.next (.database database home locks)
  kept : database.Kept settings (.ofHome home) log
  shelves : catalog.depot.disk.Shelves home log depot.disk

/-- A database has been made or opened, and is listed. -/
theorem Denotes.enlist (denotes : catalog.Denotes settings root stored last) {depot : Depot}
    {event : LifecycleEvent} {database : Database} {log : Bytes}
    (enlists : catalog.Enlists name event (.ok catalog.depot.next)
      ({ catalog with depot }.enlist name catalog.depot.next event))
    (good : checkName name = .ok ())
    (arrives : catalog.Arrives settings (Disk.homeOf stored' root name) database log depot)
    (takes : name ∈ stored' → catalog.depot.disk.Takes name)
    (grows : ∀ other ∈ stored, other ∈ stored')
    (others : ∀ other ∈ stored', other = name ∨ other ∈ stored) :
    let after := { catalog with depot }.enlist name catalog.depot.next event
    after.Denotes settings root stored' (after.known last) ∧
      ∃ given, after.depot.Bears settings catalog.depot.next (Disk.homeOf stored' root name) log given ∧
        given.isOpen = true ∧ given.store.contents = database.store.contents := by
  intro after
  obtain ⟨⟨locks, handles⟩, kept, shelves⟩ := arrives
  let number := catalog.depot.next
  let tell (database : Database) :=
    (catalog.listeners.foldl Database.addListener { database with number }).notify event
  have bears : depot.Bears settings catalog.depot.next (Disk.homeOf stored' root name) log database :=
    ⟨⟨locks, by rw [handles, Table.get?_insert_self]⟩, kept, shelves.keeps⟩
  have hstore : (tell database).2.store = database.store := by
    simp only [tell, foldl_addListener, Database.notify]
  have hkept : (tell database).2.Kept settings (.ofHome (Disk.homeOf stored' root name)) log :=
    kept.same hstore (by simp only [tell, foldl_addListener, Database.notify])
  obtain ⟨hbears, hothers, -, hsame⟩ := bears.run tell hkept
  have hdisk : after.depot.disk = depot.disk := hsame rfl
  obtain ⟨given, gives⟩ := enlists.gives
  have hgiven : _ = given :=
    Option.some.inj (hbears.held?.symm.trans ((gives.held _).trans (if_pos rfl)))
  have hopen := gives.isOpen
  rw [← hgiven] at hopen
  have hhandles (other : Nat) (hne : other ≠ catalog.depot.next) :
      after.depot.handles.get? other = catalog.depot.handles.get? other := by
    refine (hothers other hne).trans ?_
    rw [handles, Table.get?_insert, if_neg hne]
  have writes : catalog.Writes settings root stored stored' name catalog.depot.next
      { (tell database).2 with notices := [] } log after :=
    ⟨denotes.regular.enlists enlists,
      tight_of_enlists denotes.tight denotes.regular.ordered enlists, rfl, rfl, gives.opened, good,
      hopen, hbears, hhandles, hdisk ▸ shelves, takes, grows, others⟩
  exact ⟨denotes.put writes, _, hbears, hopen, congrArg Store.contents hstore⟩

/-- The names of databases in directories after one was made in a certain way. -/
def storing (stored : List String) (name : String) : StorageMode → List String
  | .memory => stored
  | .directory => stored ++ [name]

/-- What comes of making a database under a name that can be one: there is one already, the system does
not take the name, or a new one is listed. -/
theorem Denotes.create_spec (denotes : catalog.Denotes settings root stored last)
    {names : List String} (founds : settings.Founds names) (good : checkName name = .ok ())
    {mode : String} {kind : StorageMode} (offered : Text.asciiLowercase mode = kind.name) :
    catalog.has name = true ∧ catalog.create name mode = (.error (.databaseExists name), catalog) ∨
    catalog.has name = false ∧
      ((∃ refusal, catalog.create name mode = (.error (.system refusal), catalog)) ∨
      ∃ database log depot, catalog.create name mode =
          (.ok catalog.depot.next, { catalog with depot }.enlist name catalog.depot.next .created) ∧
        catalog.Arrives settings (Disk.homeOf (storing stored name kind) root name) database log depot ∧
        (name ∈ storing stored name kind → catalog.depot.disk.Takes name)) := by
  obtain rfl := denotes.chosen
  have hmode : catalog.engines.get? (Text.asciiLowercase mode) = some kind := by
    rw [denotes.engines, offered]
    exact get?_bothModes.2 rfl
  simp only [Catalog.create, good, hmode, Catalog.createBy]
  cases hhas : catalog.has name with
  | true => exact .inl ⟨rfl, by rw [if_pos rfl]⟩
  | false =>
    refine .inr ⟨rfl, ?_⟩
    rw [if_neg Bool.false_ne_true]
    obtain ⟨hfree, hstored⟩ := denotes.free_of_not_has good hhas
    cases kind with
    | memory =>
      obtain ⟨database, log, depot, hopened, handles, kept, hdisk⟩ :=
        catalog.depot.openMemory_of_founds founds name
      have hhome : Disk.homeOf stored root name = none := if_neg hstored
      rw [Depot.createBy, hopened, storing, hhome]
      exact .inr ⟨database, log, depot, rfl, ⟨⟨_, handles⟩, kept, hdisk⟩, fun h => absurd h hstored⟩
    | directory =>
      have step := isStep_of_checkName good
      have hnone : ¬ catalog.depot.disk.isDatabase name = true :=
        fun h => hstored ((denotes.isDatabase_iff good).1 h)
      have hmem : name ∈ stored ++ [name] := List.mem_append_right _ List.mem_cons_self
      have hhome : Disk.homeOf (stored ++ [name]) root name = some (name :: root) := if_pos hmem
      rw [Depot.createBy, if_neg hnone, storing, hhome]
      by_cases takes : catalog.depot.disk.Takes name
      · obtain ⟨habsent, hempty⟩ := denotes.free hstored
        obtain ⟨database, log, depot, hopened, handles, kept, sets⟩ :=
          Depot.openStored_of_absent founds denotes.rooted step takes habsent hempty
            (denotes.unlocked hfree)
        rw [hopened]
        exact .inr ⟨database, log, depot, rfl, ⟨⟨_, handles⟩, kept, sets⟩, fun _ => takes⟩
      · obtain ⟨refusal, hprovide⟩ := Disk.provide_of_not_takes denotes.rooted step takes
        refine .inl ⟨refusal, ?_⟩
        rw [Depot.openStored_of_provide_error hprovide]

/-- A database that was made in a directory and is not listed is opened, with what it held. -/
theorem Denotes.openDatabase_of_stored (denotes : catalog.Denotes settings root stored last)
    (free : catalog.opened.get? name = none) (h : name ∈ stored) :
    ∃ before database log depot, last name = some before ∧
      catalog.openDatabase name =
        (.ok catalog.depot.next, { catalog with depot }.enlist name catalog.depot.next .opened) ∧
      catalog.Arrives settings (Disk.homeOf stored root name) database log depot ∧
      database.store.contents = before.store.contents := by
  obtain rfl := denotes.chosen
  obtain ⟨good, takes, before, log, hlast, kept, keeps⟩ := denotes.kept h
  obtain ⟨database, depot, hopened, handles, hkept, hcontents, sets⟩ :=
    Depot.openStored_of_keeps denotes.rooted (isStep_of_checkName good) takes keeps kept
      (denotes.unlocked free) false
  have hhome : Disk.homeOf stored root name = some (name :: root) := if_pos h
  refine ⟨before, database, log, depot, hlast, ?_, hhome ▸ ⟨⟨_, handles⟩, hkept, sets⟩, hcontents⟩
  have hdatabase := (denotes.isDatabase_iff good).2 h
  simp only [Catalog.openDatabase, good, free, denotes.values_eq, openFirst, Depot.openBy, hdatabase,
    Bool.not_true, Bool.false_eq_true, if_false, hopened]
  rfl

/-- No database is found under another name. -/
theorem Denotes.openDatabase_of_free (denotes : catalog.Denotes settings root stored last)
    (good : checkName name = .ok ()) (free : catalog.opened.get? name = none) (h : name ∉ stored) :
    catalog.openDatabase name = (.error (.databaseNotFound name), catalog) := by
  have hnone : catalog.depot.disk.isDatabase name = false :=
    Bool.eq_false_iff.2 fun hdatabase => h ((denotes.isDatabase_iff good).1 hdatabase)
  simp only [Catalog.openDatabase, good, free, denotes.values_eq, openFirst, Depot.openBy, hnone,
    Bool.not_false, if_true]

/-! ## All moves -/

theorem Denotes.of_create_error (denotes : catalog.Denotes settings root stored last) {mode : String}
    {error : Error} (h : catalog.create name mode = (.error error, catalog)) :
    (catalog.make (.create name mode : Move ε)).Denotes settings root
      (stored ++ catalog.stores (.create name mode : Move ε))
      ((catalog.make (.create name mode : Move ε)).known last) := by
  simp only [make, stores, h, List.append_nil]
  rw [denotes.known_self]
  exact denotes

theorem Denotes.create (denotes : catalog.Denotes settings root stored last) {names : List String}
    (founds : settings.Founds names) (name mode : String) :
    (catalog.make (.create name mode : Move ε)).Denotes settings root
      (stored ++ catalog.stores (.create name mode : Move ε))
      ((catalog.make (.create name mode : Move ε)).known last) := by
  cases good : checkName name with
  | error error =>
    have hcreate : catalog.create name mode = (.error error, catalog) := by
      simp only [Catalog.create, good]
    exact denotes.of_create_error hcreate
  | ok _ =>
    cases hmode : catalog.engines.get? (Text.asciiLowercase mode) with
    | none =>
      have hcreate : catalog.create name mode =
          (.error (.unsupportedStorage (Text.asciiLowercase mode)), catalog) := by
        simp only [Catalog.create, good, hmode]
      exact denotes.of_create_error hcreate
    | some kind =>
      have offered := get?_bothModes.1 (denotes.engines ▸ hmode)
      rcases denotes.create_spec founds good offered with ⟨-, hcreate⟩ |
        ⟨-, ⟨_, hcreate⟩ | ⟨database, log, depot, hcreate, arrives, takes⟩⟩
      · exact denotes.of_create_error hcreate
      · exact denotes.of_create_error hcreate
      · have enlists := catalog.create_cases name mode
        rw [hcreate] at enlists
        have hstores : stored ++ catalog.stores (.create name mode : Move ε) =
            storing stored name kind := by
          simp only [stores, hcreate, offered]
          cases kind with
          | memory => exact List.append_nil stored
          | directory => rfl
        rw [hstores]
        simp only [make, hcreate]
        refine (denotes.enlist enlists good arrives takes ?_ ?_).1
        · intro other hother
          cases kind with
          | memory => exact hother
          | directory => exact List.mem_append_left _ hother
        · intro other hother
          cases kind with
          | memory => exact .inr hother
          | directory => exact (List.mem_append.1 hother).symm.imp_left List.mem_singleton.1

theorem Denotes.find (denotes : catalog.Denotes settings root stored last) (name : String) :
    (catalog.openDatabase name).2.Denotes settings root stored
      ((catalog.openDatabase name).2.known last) := by
  have hsame : (catalog.openDatabase name).2 = catalog →
      (catalog.openDatabase name).2.Denotes settings root stored
        ((catalog.openDatabase name).2.known last) := by
    intro h
    rw [h, denotes.known_self]
    exact denotes
  cases good : checkName name with
  | error error => exact hsame (by simp only [Catalog.openDatabase, good])
  | ok _ =>
    cases hlisted : catalog.opened.get? name with
    | some number => exact hsame (by simp only [Catalog.openDatabase, good, hlisted])
    | none =>
      by_cases hstored : name ∈ stored
      · obtain ⟨_, database, log, depot, -, hopened, arrives, -⟩ :=
          denotes.openDatabase_of_stored hlisted hstored
        rcases catalog.openDatabase_cases name with ⟨number, hnumber, -⟩ | enlists
        · rw [hlisted] at hnumber
          cases hnumber
        · rw [hopened] at enlists ⊢
          exact (denotes.enlist enlists good arrives (fun h => (denotes.kept h).2.1) (fun _ h => h)
            fun _ h => .inr h).1
      · exact hsame (by rw [denotes.openDatabase_of_free good hlisted hstored])

theorem Denotes.make (denotes : catalog.Denotes settings root stored last) {names : List String}
    (founds : settings.Founds names) {move : Move ε} (proper : catalog.Proper move) :
    (catalog.make move).Denotes settings root (stored ++ catalog.stores move)
      ((catalog.make move).known last) := by
  cases move with
  | create name mode => exact denotes.create founds name mode
  | fault => exact proper.elim
  | work number step => exact (List.append_nil stored).symm ▸ denotes.work proper
  | find name => exact (List.append_nil stored).symm ▸ denotes.find name
  | shutDown => exact (List.append_nil stored).symm ▸ denotes.shutdown
  | observe | hear =>
    exact (List.append_nil stored).symm ▸ denotes.same (denotes.regular.make (_ : Move ε)) denotes.tight
      rfl rfl rfl rfl (fun _ _ h => h) fun _ _ _ => rfl
  | offer mode =>
    have hengines : (catalog.make (.offer mode : Move ε)).engines = catalog.engines := by
      simp only [Catalog.make, register, denotes.engines, insert_bothModes]
    exact (List.append_nil stored).symm ▸ denotes.same (denotes.regular.make (.offer mode : Move ε))
      denotes.tight rfl hengines rfl rfl (fun _ _ h => h) fun _ _ _ => rfl

theorem Denotes.makeAll (denotes : catalog.Denotes settings root stored last) {names : List String}
    (founds : settings.Founds names) {moves : List (Move ε)} (proper : catalog.AllProper moves) :
    (catalog.makeAll moves).Denotes settings root (stored ++ catalog.storedBy moves)
      (catalog.lastUnder last moves) := by
  induction moves generalizing catalog stored last with
  | nil => exact (List.append_nil stored).symm ▸ denotes
  | cons move rest ih =>
    rw [storedBy, ← List.append_assoc]
    exact ih (denotes.make founds proper.1) proper.2

end Catalog

end RecordBase
