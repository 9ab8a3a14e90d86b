import RecordBase.Proofs.Catalog.Homes
import RecordBase.Proofs.Log.Replay

/-!
# Why an opening fails

An opening fails for many reasons before and after it has locked its directory: there is no directory, a file
cannot be opened, the log cannot be replayed, the first clusters cannot be added. None of these failures is that
of a directory that is locked.

* `Database.ne_locked_of_ofMedium`: so it is when a log is opened as a database;
* `Disk.ne_locked_of_provide`, `Disk.ne_locked_of_openLock`, `Disk.ne_locked_of_openLog`: and when a directory
  and the files in it are.
-/

namespace RecordBase

open Files (Place)

variable {error : Error}

theorem ne_locked_of_mapError {ε α : Type} {wrap : ε → Error} {result : Except ε α}
    (wraps : ∀ cause, wrap cause ≠ .databaseLocked) (h : result.mapError wrap = .error error) :
    error ≠ .databaseLocked := by
  cases result with
  | error cause =>
    cases h
    exact wraps cause
  | ok value => cases h

namespace Journal

variable {journal : Journal}

theorem ne_locked_of_obey {refused : Bool} (h : obey refused = .error error) :
    error ≠ .databaseLocked := by
  cases refused <;> cases h
  rintro ⟨⟩

theorem ne_locked_of_append {entry : LogEntry} (h : (journal.append entry).1 = .error error) :
    error ≠ .databaseLocked := by
  simp only [append] at h
  split at h
  · cases h
    rintro ⟨⟩
  · split at h <;> cases h
    rename_i hsync
    unfold syncAfterWrite at hsync
    split at hsync
    · exact ne_locked_of_obey (congrArg Prod.fst hsync)
    · cases hsync

theorem ne_locked_of_replay {bytes : Bytes} (holds : journal.medium.Holds bytes)
    (h : journal.replay = .error error) : error ≠ .databaseLocked := by
  rw [replay_eq holds] at h
  cases hread : Log.replay bytes with
  | error damage =>
    rw [hread] at h
    cases h
    rintro ⟨⟩
  | ok found =>
    rw [hread] at h
    replace h : (if found.2 < bytes.length then _ else _) = Except.error error := h
    split at h
    · cases htruncate : journal.medium.truncate found.2 with
      | error fault =>
        rw [htruncate] at h
        cases h
        rintro ⟨⟩
      | ok medium =>
        rw [htruncate] at h
        cases h
    · cases h

end Journal

namespace Contents

variable {contents : Contents}

theorem ne_locked_of_apply {entry : LogEntry} (h : contents.apply entry = .error error) :
    error ≠ .databaseLocked := by
  cases entry with
  | clusterAdded cluster =>
    replace h : contents.addCluster cluster = .error error := h
    unfold addCluster at h
    split at h
    · cases h
    · split at h <;> cases h
      rintro ⟨⟩
  | recordPut =>
    simp only [apply] at h
    split at h <;> cases h
    rintro ⟨⟩
  | recordRemoved =>
    simp only [apply] at h
    split at h <;> cases h
  | keyBound | keyRemoved => cases h

theorem ne_locked_of_applyAll {entries : List LogEntry} (h : contents.applyAll entries = .error error) :
    error ≠ .databaseLocked := by
  induction entries generalizing contents with
  | nil => cases h
  | cons entry rest ih =>
    unfold applyAll at h
    split at h
    · exact ih h
    · rename_i happly
      cases h
      exact ne_locked_of_apply happly

end Contents

namespace Store

variable {store : Store}

theorem ne_locked_of_write {entry : LogEntry} {change : Store → Store}
    (h : (store.write entry change).1 = .error error) : error ≠ .databaseLocked := by
  unfold write at h
  split at h <;> cases h
  rename_i happend
  exact Journal.ne_locked_of_append (congrArg Prod.fst happend)

theorem ne_locked_of_normalName {name : String} (h : normalName name = .error error) :
    error ≠ .databaseLocked := by
  simp only [normalName] at h
  split at h <;> cases h
  rintro ⟨⟩

theorem ne_locked_of_freshName {name : String} (h : store.freshName name = .error error) :
    error ≠ .databaseLocked := by
  unfold freshName at h
  split at h <;> cases h
  rintro ⟨⟩

theorem ne_locked_of_nextClusterId (h : store.nextClusterId = .error error) :
    error ≠ .databaseLocked := by
  unfold nextClusterId at h
  split at h
  · cases h
  · split at h <;> cases h
    rintro ⟨⟩

theorem ne_locked_of_addPhysical {name : String} {file : Option String} {size : Int32}
    (h : (store.addPhysical name file size).1 = .error error) : error ≠ .databaseLocked := by
  unfold addPhysical at h
  split at h
  · rename_i hnormal
    cases h
    exact ne_locked_of_normalName hnormal
  · unfold addPhysicalNamed at h
    split at h
    · rename_i hfresh
      cases h
      exact ne_locked_of_freshName hfresh
    · split at h
      · rename_i hid
        cases h
        exact ne_locked_of_nextClusterId hid
      · simp only at h
        split at h <;> cases h
        rename_i hwrite
        exact ne_locked_of_write (congrArg Prod.fst hwrite)

theorem ne_locked_of_addInitial {names : List String} (h : (store.addInitial names).1 = .error error) :
    error ≠ .databaseLocked := by
  induction names generalizing store with
  | nil => cases h
  | cons name rest ih =>
    unfold addInitial at h
    split at h
    · rename_i hadd
      cases h
      exact ne_locked_of_addPhysical (congrArg Prod.fst hadd)
    · exact ih h

theorem ne_locked_of_ofJournal {settings : Settings} {victims : Nat → Nat} {journal : Journal}
    {bytes : Bytes} (holds : journal.medium.Holds bytes)
    (h : (ofJournal settings victims journal).1 = .error error) : error ≠ .databaseLocked := by
  unfold ofJournal at h
  split at h
  · rename_i hreplay
    cases h
    exact Journal.ne_locked_of_replay holds hreplay
  · split at h
    · rename_i happly
      cases h
      exact Contents.ne_locked_of_applyAll happly
    · simp only at h
      split at h
      · cases h
      · split at h <;> cases h
        rename_i hadd
        exact ne_locked_of_addInitial (congrArg Prod.fst hadd)

end Store

/-- A log that cannot be opened as a database is not one that is locked. -/
theorem Database.ne_locked_of_ofMedium {name : String} {mode : StorageMode} {settings : Settings}
    {log : Bytes} (h : (ofMedium name mode settings (.file (.ofFile log))).1 = .error error) :
    error ≠ .databaseLocked := by
  simp only [ofMedium, ofJournal] at h
  split at h
  · rename_i hstore
    cases h
    exact Store.ne_locked_of_ofJournal (Medium.holds_file log) (congrArg Prod.fst hstore)
  · cases h

namespace Disk

variable {disk : Disk}

theorem ne_locked_of_provide {name : String} {create : Bool}
    (h : (disk.provide name create).1 = .error error) : error ≠ .databaseLocked := by
  unfold provide at h
  split at h
  · split at h <;> cases h
    rintro ⟨⟩
  · split at h
    · exact ne_locked_of_mapError (fun _ => by rintro ⟨⟩) h
    · cases h
      rintro ⟨⟩

theorem ne_locked_of_openLock {home : Place} (h : (disk.openLock home).1 = .error error) :
    error ≠ .databaseLocked :=
  ne_locked_of_mapError (fun _ => by rintro ⟨⟩) h

theorem ne_locked_of_openLog {home : Place} (h : (disk.openLog home).1 = .error error) :
    error ≠ .databaseLocked :=
  ne_locked_of_mapError (fun _ => by rintro ⟨⟩) h

end Disk

end RecordBase
