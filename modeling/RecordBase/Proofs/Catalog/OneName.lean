import RecordBase.Proofs.Catalog.Names

/-!
# One name, one database

What follows for making and opening databases by name from what the names denote after proper moves
(`Denotes.makeAll`) and from the list, which only a shutdown shortens (`Catalog.listed_make`).

* `Catalog.one_name_one_database`: a database is refused because there is one just if the catalog has the
  name; until the next shutdown a name stands for one database; and after it for the one that was made in
  a directory.
* `Catalog.other_name_is_found`: this is about names that a database can have. The catalog has other texts,
  too, that lead to a directory of a database.
-/

namespace RecordBase

open Files (Place)

variable {ε : Type}

/-- The path of the directory of databases leads to a directory with nothing in it. -/
structure Disk.Blank (disk : Disk) (root : Place) : Prop extends disk.Rooted root where
  empty : ∀ front, front ≠ [] → disk.tree.at? (front ++ root) = none

namespace Catalog

variable {catalog : Catalog} {settings : Settings} {root : Place} {name : String} {number : Nat}

theorem denotes_start (settings : Settings) {disk : Disk} (blank : disk.Blank root) :
    (Catalog.start settings true { disk }).Denotes settings root [] fun _ => none where
  regular := regular_start settings true disk
  tight := Depot.tight_empty disk
  chosen := rfl
  engines := rfl
  rooted := blank.toRooted
  homes := by
    rintro _ _ ⟨_, _, ⟨⟩⟩
  kept h := absurd h List.not_mem_nil
  free {name} _ := ⟨blank.empty [name] (List.cons_ne_nil _ _),
    fun file => blank.empty [file, name] (List.cons_ne_nil _ _)⟩
  listed h := by cases h

/-! ## Between two shutdowns -/

/-- The name and the number of the database that a move gives out. -/
def givesOut (catalog : Catalog) : Move ε → Option (String × Nat)
  | .create name mode => (catalog.create name mode).1.toOption.map fun number => (name, number)
  | .find name => (catalog.openDatabase name).1.toOption.map fun number => (name, number)
  | _ => none

theorem listed_of_givesOut {move : Move ε} (h : catalog.givesOut move = some (name, number)) :
    (catalog.make move).opened.get? name = some number := by
  have hmap {result : Except Error Nat} {asked : String}
      (h : (result.toOption.map fun number => (asked, number)) = some (name, number)) :
      result = .ok number ∧ asked = name := by
    cases result with
    | error error => cases h
    | ok found =>
      cases h
      exact ⟨rfl, rfl⟩
  cases move with
  | create asked mode =>
    obtain ⟨hresult, rfl⟩ := hmap h
    obtain ⟨_, gives⟩ := (hresult ▸ catalog.create_cases asked mode).gives
    exact gives.opened ▸ Table.get?_insert_self ..
  | find asked =>
    obtain ⟨hresult, rfl⟩ := hmap h
    rcases catalog.openDatabase_cases asked with ⟨found, hlisted, hsame⟩ | enlists
    · rw [hsame] at hresult
      cases hresult
      rw [Catalog.make, hsame]
      exact hlisted
    · obtain ⟨_, gives⟩ := (hresult ▸ enlists).gives
      exact gives.opened ▸ Table.get?_insert_self ..
  | _ => cases h

/-- What is listed stays listed when a database is made or opened. -/
theorem listed_of_enlists {after : Catalog} {asked : String} {event : LifecycleEvent}
    {result : Except Error Nat} (listed : catalog.opened.get? name = some number)
    (enlists : catalog.Enlists asked event result after) : after.opened.get? name = some number := by
  cases result with
  | error error =>
    cases enlists
    exact listed
  | ok found =>
    obtain ⟨_, gives⟩ := enlists.gives
    have hne : name ≠ asked := by
      rintro rfl
      rw [gives.free] at listed
      cases listed
    rw [gives.opened, Table.get?_insert, if_neg hne]
    exact listed

/-- Only a shutdown takes a name off the list. -/
theorem listed_make {move : Move ε} (listed : catalog.opened.get? name = some number)
    (h : move ≠ .shutDown) : (catalog.make move).opened.get? name = some number := by
  cases move with
  | create asked mode => exact listed_of_enlists listed (catalog.create_cases asked mode)
  | find asked =>
    rcases catalog.openDatabase_cases asked with ⟨_, -, hsame⟩ | enlists
    · rw [Catalog.make, hsame]
      exact listed
    · exact listed_of_enlists listed enlists
  | shutDown => exact absurd rfl h
  | _ => exact listed

theorem listed_makeAll {moves : List (Move ε)} (listed : catalog.opened.get? name = some number)
    (h : ∀ move ∈ moves, move ≠ .shutDown) : (catalog.makeAll moves).opened.get? name = some number := by
  induction moves generalizing catalog with
  | nil => exact listed
  | cons move rest ih =>
    exact ih (listed_make listed (h move List.mem_cons_self)) fun other hother =>
      h other (List.mem_cons_of_mem _ hother)

/-- A name that is listed keeps its number. -/
theorem eq_of_givesOut {move : Move ε} {found : Nat} (listed : catalog.opened.get? name = some number)
    (h : catalog.givesOut move = some (name, found)) : found = number := by
  have hne : move ≠ .shutDown := by
    rintro rfl
    cases h
  have hafter := listed_of_givesOut h
  rw [listed_make listed hne] at hafter
  exact (Option.some.inj hafter).symm

/-- A catalog starts with an empty directory and settings whose first clusters can be listed, and is put
through proper moves. Making a database under a name that can be one then fails because there is one
just if the catalog has that name. Until the next shutdown a name stands for one database. After a
shutdown the catalog has just the names of the databases that were made in directories, and opens each
of these with what it held. -/
theorem one_name_one_database {names : List String} (founds : settings.Founds names) {disk : Disk}
    (blank : disk.Blank root) {moves : List (Move ε)}
    (proper : (Catalog.start settings true { disk }).AllProper moves) :
    let start := Catalog.start settings true { disk }
    let catalog := start.makeAll moves
    (∀ name mode kind, checkName name = .ok () →
      catalog.engines.get? (Text.asciiLowercase mode) = some kind →
        ((catalog.create name mode).1 = .error (.databaseExists name) ↔ catalog.has name = true)) ∧
    (∀ (first second : Move ε) (middle : List (Move ε)) (name : String) (number found : Nat),
      catalog.givesOut first = some (name, number) → (∀ move ∈ middle, move ≠ .shutDown) →
        ((catalog.make first).makeAll middle).givesOut second = some (name, found) → found = number) ∧
    ∀ name, checkName name = .ok () →
      (catalog.shutdown.2.has name = true ↔ name ∈ start.storedBy moves) ∧
      (name ∈ start.storedBy moves → ∃ before number after again,
        start.lastUnder (fun _ => none) moves name = some before ∧
        catalog.shutdown.2.openDatabase name = (.ok number, after) ∧
        after.depot.database? number = some again ∧ again.isOpen = true ∧ again.Good ∧
        again.store.contents = before.store.contents) := by
  intro start catalog
  have denotes : catalog.Denotes settings root (start.storedBy moves)
      (start.lastUnder (fun _ => none) moves) := (denotes_start settings blank).makeAll founds proper
  refine ⟨fun name mode kind good hmode => ?_, fun first second middle name number found hfirst hmiddle
    hsecond => ?_, fun name good => ?_⟩
  · have offered := get?_bothModes.1 (denotes.engines ▸ hmode)
    rcases denotes.create_spec founds good offered with ⟨hhas, hcreate⟩ |
      ⟨hhas, ⟨_, hcreate⟩ | ⟨_, _, _, hcreate, -⟩⟩ <;> rw [hcreate, hhas]
    · exact iff_of_true rfl rfl
    · exact iff_of_false (fun h => by cases h) Bool.false_ne_true
    · exact iff_of_false (fun h => by cases h) Bool.false_ne_true
  · exact eq_of_givesOut (listed_makeAll (listed_of_givesOut hfirst) hmiddle) hsecond
  · have denotes := denotes.shutdown
    have hnone : catalog.shutdown.2.opened.get? name = none := rfl
    refine ⟨?_, fun hstored => ?_⟩
    · rw [denotes.has_iff good, hnone]
      simp
    · obtain ⟨before, database, log, depot, hlast, hopened, arrives, hcontents⟩ :=
        denotes.openDatabase_of_stored hnone hstored
      rcases catalog.shutdown.2.openDatabase_cases name with ⟨number, hnumber, -⟩ | enlists
      · rw [hnone] at hnumber
        cases hnumber
      · rw [hopened] at enlists
        obtain ⟨hafter, given, bears, hopen, hgiven⟩ := denotes.enlist enlists good arrives
          (fun h => (denotes.kept h).2.1) (fun _ h => h) fun _ h => .inr h
        exact ⟨before, _, _, given, hlast, hopened, bears.database?, hopen,
          hafter.regular.sound.good _ given bears.held?, hgiven.trans hcontents⟩

theorem blank_plain : Disk.Blank { root := "/d" } ["d"] where
  leads := by decide +kernel
  directory := by decide +kernel
  empty front hfront := by
    rw [← Option.not_isSome_iff_eq_none, Option.isSome_iff_exists]
    rintro ⟨node, hnode⟩
    have hentries : ∀ entry ∈ ({ root := "/d" } : Disk).tree.nodes.entries, entry.1.length ≤ 1 := by
      decide +kernel
    have hlength := hentries _ (Table.mem_entries_iff.2 hnode)
    rw [List.length_append, List.length_singleton] at hlength
    exact hfront (List.length_eq_zero_iff.1 (by omega))

theorem founds_plain : Database.plainSettings.Founds ["a"] where
  normal := by decide +kernel
  nodup := List.nodup_singleton "a"
  few := by decide
  small := by decide +kernel

/-- Databases were made in a directory and in memory, and records in both. -/
def peopled : List (Move Unit) :=
  [.create "x" "local", .work 0 (.operation (.create 0 [1] .document)), .create "m" "memory",
    .work 1 (.operation (.create 0 [2] .document))]

/-- After a shutdown there is the one in the directory, with its record. -/
theorem one_name_one_database_of_peopled :
    let start := Catalog.start Database.plainSettings true { disk := { root := "/d" } }
    let catalog := start.makeAll peopled
    (catalog.create "m" "local").1 = .error (.databaseExists "m") ∧
      catalog.shutdown.2.has "m" = false ∧ catalog.shutdown.2.has "x" = true ∧
      ∃ before number after again, start.lastUnder (fun _ => none) peopled "x" = some before ∧
        catalog.shutdown.2.openDatabase "x" = (.ok number, after) ∧
        after.depot.database? number = some again ∧
        again.store.contents = before.store.contents := by
  intro start catalog
  obtain ⟨hcreate, -, hafter⟩ := one_name_one_database (ε := Unit) founds_plain blank_plain
    (show start.AllProper peopled by decide +kernel)
  have goodX : checkName "x" = .ok () := by decide +kernel
  have goodM : checkName "m" = .ok () := by decide +kernel
  have hstored : start.storedBy peopled = ["x"] := by decide +kernel
  obtain ⟨hasX, opensX⟩ := hafter "x" goodX
  obtain ⟨before, number, after, again, hlast, hopen, hagain, -, -, hcontents⟩ :=
    opensX (hstored ▸ List.mem_singleton.2 rfl)
  refine ⟨(hcreate "m" "local" .directory goodM (by decide +kernel)).2 (by decide +kernel), ?_,
    hasX.2 (hstored ▸ List.mem_singleton.2 rfl), before, number, after, again, hlast, hopen, hagain,
    hcontents⟩
  refine Bool.eq_false_iff.2 fun h => ?_
  have hm := (hafter "m" goodM).1.1 h
  rw [hstored] at hm
  exact absurd hm (by decide)

/-- A name that no database can have leads to the directory of one. -/
theorem other_name_is_found :
    let start := Catalog.start Database.plainSettings true { disk := { root := "/d" } }
    let moves : List (Move Unit) := [.create "x" "local", .shutDown]
    (start.makeAll moves).has "x/" = true ∧ "x/" ∉ start.storedBy moves ∧
      (start.create "x/" "local").1.toOption = none := by
  decide +kernel

end Catalog

end RecordBase
