import RecordBase.Catalog.Depot
import RecordBase.Proofs.Database.Recovery
import RecordBase.Proofs.Log.Exact
import RecordBase.Proofs.Store.Directory
import RecordBase.Proofs.Store.Told

/-!
# The logs on a disk

Writing or opening one file of a tree leaves the others as they are, so locking a directory changes no
log (`Disk.log?_openLock`) and writing a log changes no other (`Disk.log?_writeLog_of_ne`).

* `Database.ofMedium_spec`: a database that is opened over a log holds what the log gives, and the log
  reads as before, unless it listed no cluster. Then it gets the first ones of the settings.
-/

namespace RecordBase

open Files (Place Tree)

/-! ## Files -/

namespace Files.Tree

variable {place other : Place}

theorem file?_writeFile_of_ne (tree : Tree) (bytes : Bytes) (h : other ≠ place) :
    (tree.writeFile bytes place).file? other = tree.file? other := by
  unfold writeFile
  split
  · rfl
  · split
    · simp only [file?, at?, Table.get?_insert, if_neg h]
    · rfl

/-- A file is written, or nothing is. -/
theorem file?_writeFile_self (tree : Tree) (bytes : Bytes) (place : Place) :
    (tree.writeFile bytes place).file? place = some bytes ∨
      (tree.writeFile bytes place).file? place = tree.file? place := by
  unfold writeFile
  split
  · exact .inr rfl
  · split
    · exact .inl (by simp only [file?, at?, Table.get?_insert_self])
    · exact .inr rfl

theorem file?_openFile_of_ne (tree : Tree) (h : other ≠ place) :
    (tree.openFile place).2.file? other = tree.file? other := by
  unfold openFile
  split
  · rfl
  · split
    · rfl
    · exact tree.file?_writeFile_of_ne [] h

/-- A file that is there is opened as it is. -/
theorem openFile_of_file {tree : Tree} {bytes : Bytes} (h : tree.file? place = some bytes) :
    tree.openFile place = (.ok bytes, tree) := by
  have hfile : tree.isDirectory place = false := by
    unfold file? at h
    unfold isDirectory
    split at h
    · rename_i hat
      rw [hat]
    · cases h
  simp only [openFile, hfile, h, Bool.false_eq_true, if_false]

theorem ne_of_file {bytes : Bytes} {tree : Tree} (h : tree.isDirectory place = true)
    (hfile : tree.file? other = some bytes) : other ≠ place := by
  rintro rfl
  unfold isDirectory at h
  unfold file? at hfile
  split at h
  · rename_i hat
    rw [hat] at hfile
    cases hfile
  · cases h

/-- Directories stay directories. -/
theorem isDirectory_writeFile {tree : Tree} (h : tree.isDirectory place = true) (bytes : Bytes)
    (other : Place) : (tree.writeFile bytes other).isDirectory place = true := by
  unfold writeFile
  split
  · exact h
  · rename_i name around
    split
    · rename_i hfree
      have hne : place ≠ name :: around := by
        rintro rfl
        simp [h] at hfree
      rw [isDirectory, at?, Table.get?_insert, if_neg hne]
      exact h
    · exact h

theorem isDirectory_openFile {tree : Tree} (h : tree.isDirectory place = true) (other : Place) :
    (tree.openFile other).2.isDirectory place = true := by
  unfold openFile
  split
  · exact h
  · split
    · exact h
    · exact isDirectory_writeFile h [] other

/-- A file that is there in a directory is written. -/
theorem file?_writeFile_of_file {tree : Tree} {name : String} {old : Bytes}
    (hdirectory : tree.isDirectory place = true) (hname : isName name = true)
    (hfile : tree.file? (name :: place) = some old) (bytes : Bytes) :
    (tree.writeFile bytes (name :: place)).file? (name :: place) = some bytes := by
  have hfree : tree.isDirectory (name :: place) = false :=
    Bool.eq_false_iff.2 fun h => ne_of_file h hfile rfl
  simp only [writeFile, hdirectory, hname, hfree, Bool.not_false, Bool.and_self, if_true, file?, at?,
    Table.get?_insert_self]

end Files.Tree

/-! ## Logs -/

namespace Disk

variable {disk : Disk} {home place : Place}

theorem log?_openLock (disk : Disk) (home place : Place) :
    (disk.openLock home).2.log? place = disk.log? place := by
  have hne : logName :: place ≠ lockName :: home := fun h => absurd (List.cons.inj h).1 (by decide)
  exact disk.tree.file?_openFile_of_ne hne

theorem isDirectory_openLock {disk : Disk} (h : disk.tree.isDirectory place = true) (home : Place) :
    (disk.openLock home).2.tree.isDirectory place = true :=
  Tree.isDirectory_openFile h _

theorem openLog_of_log {bytes : Bytes} (h : disk.log? home = some bytes) :
    disk.openLog home = (.ok bytes, disk) := by
  rw [openLog, Tree.openFile_of_file h]
  rfl

theorem log?_writeLog_of_ne (disk : Disk) (bytes : Bytes) (h : place ≠ home) :
    (disk.writeLog home bytes).log? place = disk.log? place :=
  disk.tree.file?_writeFile_of_ne bytes fun he => h (List.cons.inj he).2

theorem log?_writeLog_self (disk : Disk) (home : Place) (bytes : Bytes) :
    (disk.writeLog home bytes).log? home = some bytes ∨
      (disk.writeLog home bytes).log? home = disk.log? home :=
  disk.tree.file?_writeFile_self bytes (logName :: home)

/-- A log that is there is written. -/
theorem log?_writeLog_of_log {log : Bytes} (hdirectory : disk.tree.isDirectory home = true)
    (h : disk.log? home = some log) (bytes : Bytes) :
    (disk.writeLog home bytes).log? home = some bytes :=
  Tree.file?_writeFile_of_file hdirectory (by decide +kernel) h bytes

end Disk

/-! ## Opening a log -/

namespace Log

/-- The log lists no cluster. -/
def Unlisted (log : Bytes) : Prop :=
  ∃ entries length, replay log = .ok (entries, length) ∧ clusterIds entries = []

/-- The log gives the contents. -/
def Gives (log : Bytes) (contents : Contents) : Prop :=
  ∃ entries length, replay log = .ok (entries, length) ∧
    ({} : Contents).applyAll entries = .ok contents

/-- A log still reads as it did, unless it listed no cluster. -/
def Reopens (before after : Bytes) : Prop := replay after = replay before ∨ Unlisted before

theorem Reopens.refl (log : Bytes) : Reopens log log := .inl rfl

/-- What is left of a log without its torn end reads as the whole log does. -/
theorem replay_take_of_ok {log : Bytes} {entries : List LogEntry} {length : Nat}
    (h : replay log = .ok (entries, length)) :
    length ≤ log.length ∧ replay (log.take length) = .ok (entries, length) := by
  obtain ⟨small, rfl, tail, rfl, -⟩ := replay_eq_ok_iff.1 h
  refine ⟨by rw [List.length_append]; exact Nat.le_add_right _ _, ?_⟩
  rw [List.take_left' rfl]
  exact replay_eq_ok_iff.2 ⟨small, rfl, [], (List.append_nil _).symm, .inl (Nat.succ_pos 3)⟩

end Log

namespace Contents

/-- Entries that list no cluster add none. -/
theorem clusters_of_applyAll {entries : List LogEntry} {contents after : Contents}
    (h : contents.applyAll entries = .ok after) (none : Log.clusterIds entries = []) :
    after.clusters = contents.clusters := by
  induction entries generalizing contents with
  | nil =>
    cases h
    rfl
  | cons entry rest ih =>
    rw [Log.clusterIds, List.filterMap_cons] at none
    rw [applyAll] at h
    split at h
    · rename_i next hnext
      rcases directory_of_apply hnext with ⟨hnone, same⟩ | ⟨cluster, home, hentry, -⟩
      · rw [LogEntry.clusterId?_eq, hnone] at none
        exact (ih h none).trans same.clusters
      · rw [LogEntry.clusterId?_eq, hentry] at none
        cases none
    · cases h

/-- What is held after a log has clusters just if the log lists some. -/
theorem clusterIds_eq_nil_iff {entries : List LogEntry} {after : Contents}
    (h : ({} : Contents).applyAll entries = .ok after) :
    Log.clusterIds entries = [] ↔ after.clusters.size = 0 := by
  constructor
  · intro none
    rw [clusters_of_applyAll h none]
    rfl
  · intro hsize
    refine List.eq_nil_iff_forall_not_mem.2 fun id hid => ?_
    obtain ⟨listing, hlisted⟩ := Option.isSome_iff_exists.1 (isSome_of_applyAll h (.inr hid))
    exact Table.size_ne_zero hlisted hsize

end Contents

namespace Store

variable {store : Store}

/-- A cluster of a settings' list of first ones. -/
def First (names : List String) (cluster : Cluster) : Prop :=
  cluster.kind = .physical none (-1) ∧ ∃ name ∈ names, normalName name = .ok cluster.name

/-- Every cluster is one that was there or one of the first ones. -/
theorem first_of_addInitial {after : Store} {names : List String}
    (h : store.addInitial names = (.ok (), after)) {id : Int16} {listing : Listing}
    (hlisted : after.contents.clusters.get? id = some listing) :
    store.contents.clusters.get? id = some listing ∨ First names listing.cluster := by
  induction names generalizing store with
  | nil =>
    cases h
    exact .inl hlisted
  | cons name rest ih =>
    rw [addInitial_cons] at h
    split at h
    · cases h
    · rename_i added next hadd
      obtain ⟨normal, hnormal, hcontents⟩ := listed_of_addPhysical hadd
      rcases ih h with hnext | ⟨hkind, other, hmem, hname⟩
      · rw [hcontents, Contents.listWithContainer, Contents.list, Table.get?_insert] at hnext
        split at hnext
        · cases hnext
          exact .inr ⟨rfl, name, List.mem_cons_self, hnormal⟩
        · exact .inl hnext
      · exact .inr ⟨hkind, other, List.mem_cons_of_mem _ hmem, hname⟩

end Store

/-! ## Opening over a log -/

/-- What a database holds that was opened over a log: what the log gives, or, if that lists no cluster,
first clusters only. -/
def Log.Begins (log : Bytes) (initial : List String) (contents : Contents) : Prop :=
  Gives log contents ∨ Unlisted log ∧ ∀ id listing, contents.clusters.get? id = some listing →
    Store.First initial listing.cluster

namespace Store

variable {settings : Settings} {victims : Nat → Nat} {journal : Journal} {log : Bytes}

/-- Opening a store over a log leaves a log that reads as before, unless that listed no cluster. -/
theorem reopens_ofJournal (holds : journal.medium.Holds log) :
    Log.Reopens log (ofJournal settings victims journal).2.medium.bytes := by
  cases hread : Log.replay log with
  | error damage =>
    rw [ofJournal_of_error (Journal.replay_of_error holds hread), holds.bytes_eq]
    exact .refl log
  | ok found =>
    obtain ⟨entries, length⟩ := found
    obtain ⟨hwithin, hfront⟩ := Log.replay_take_of_ok hread
    obtain ⟨medium, hreplay, hholds⟩ := Journal.replay_of_ok holds hread hwithin
    have hsame : Log.Reopens log medium.bytes := by
      rw [hholds.bytes_eq]
      exact .inl (hfront.trans hread.symm)
    simp only [ofJournal, hreplay]
    cases happly : ({} : Contents).applyAll entries with
    | error error => exact hsame
    | ok contents =>
      by_cases hsize : contents.clusters.size ≠ 0
      · simp only [if_pos hsize]
        exact hsame
      · have hnone := (Contents.clusterIds_eq_nil_iff happly).2 (Decidable.not_not.1 hsize)
        exact .inr ⟨entries, length, hread, hnone⟩

/-- An opened store holds what its log gave, or first clusters. -/
theorem begins_of_ofJournal (holds : journal.medium.Holds log) {store : Store} {after : Journal}
    (h : ofJournal settings victims journal = (.ok store, after)) :
    Log.Begins log settings.initialClusters store.contents := by
  obtain ⟨entries, replayed, contents, hreplay, happly, -, hopen⟩ := ofJournal_cases h
  obtain ⟨length, hread⟩ : ∃ length, Log.replay log = .ok (entries, length) := by
    rw [Journal.replay_eq holds] at hreplay
    cases hread : Log.replay log with
    | error damage =>
      rw [hread] at hreplay
      cases hreplay
    | ok found =>
      obtain ⟨found, length⟩ := found
      obtain ⟨hwithin, -⟩ := Log.replay_take_of_ok hread
      obtain ⟨medium, hfound, -⟩ := Journal.replay_of_ok holds hread hwithin
      rw [← Journal.replay_eq holds, hfound] at hreplay
      cases hreplay
      exact ⟨length, rfl⟩
  rcases hopen with ⟨-, rfl⟩ | ⟨hsize, hadd⟩
  · exact .inl ⟨entries, length, hread, happly⟩
  · have hnone := (Contents.clusterIds_eq_nil_iff happly).2 hsize
    refine .inr ⟨⟨entries, length, hread, hnone⟩, fun id listing hlisted => ?_⟩
    refine (first_of_addInitial hadd hlisted).resolve_left fun hbefore => ?_
    exact Table.size_ne_zero hbefore hsize

end Store

namespace Database

/-- Opening a database over the log in a file. -/
theorem ofMedium_spec (name : String) (mode : StorageMode) (settings : Settings) (log : Bytes) :
    Log.Reopens log (ofMedium name mode settings (.file (.ofFile log))).2.bytes ∧
      ∀ database, (ofMedium name mode settings (.file (.ofFile log))).1 = .ok database →
        Log.Begins log settings.initialClusters database.store.contents := by
  have holds := Medium.holds_file log
  have hreopens := @Store.reopens_ofJournal settings (fun _ => 0)
    { medium := .file (.ofFile log), syncOnWrite := settings.syncOnWrite } log holds
  unfold ofMedium ofJournal
  rcases hopened : Store.ofJournal settings (fun _ => 0)
    { medium := .file (.ofFile log), syncOnWrite := settings.syncOnWrite } with
    ⟨error | store, after⟩ <;> rw [hopened] at hreopens
  · exact ⟨hreopens, by rintro _ ⟨⟩⟩
  · refine ⟨hreopens, ?_⟩
    rintro _ ⟨⟩
    exact Store.begins_of_ofJournal holds hopened

end Database

end RecordBase
