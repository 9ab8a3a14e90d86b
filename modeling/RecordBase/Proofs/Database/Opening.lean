import RecordBase.Proofs.Catalog.ClosedHandles
import RecordBase.Proofs.Store.Founding

/-!
# Databases that are made and opened again

A database can be made if its settings name first clusters that can all be listed
(`Settings.Founds`), in memory or over an empty file (`Database.made`). `Database.Kept`: its log gives what
it holds. Working with it keeps this (`Kept.stepped`), so it can be opened again over its log and holds
what it held (`Kept.opened_again`).
-/

namespace RecordBase

/-! ## First clusters that can be listed -/

/-- The first clusters of the settings have these normal names, which are different, of which there are
no more than ids, and whose entries are of fewer than `2 ^ 32` bytes. -/
structure Settings.Founds (settings : Settings) (names : List String) : Prop where
  normal : settings.initialClusters.map Store.normalName = names.map .ok
  nodup : names.Nodup
  few : names.length ≤ 2 ^ 15
  small : ∀ entry ∈ Log.founding names, entry.Small

namespace Store

variable {store : Store} {listed : List String} {name normal : String}

theorem nextClusterId_of_few (founded : store.contents.Founded listed)
    (few : listed.length < 2 ^ 15) : store.nextClusterId = .ok (Int16.ofNat listed.length) := by
  cases hid : store.nextClusterId with
  | ok id => rw [(nextClusterId_of_founded founded hid).2]
  | error error =>
    unfold nextClusterId at hid
    rw [Table.last?, founded.clusters] at hid
    induction listed using List.reverseRecOn with
    | nil => cases hid
    | append_singleton front last _ =>
      rw [List.mapIdx_concat, List.getLast?_concat] at hid
      rw [List.length_append, List.length_singleton] at few
      simp only at hid
      split at hid
      · rename_i hmax
        have hlast := congrArg Int16.toInt hmax
        rw [Int16.toInt_ofNat_of_few (by omega)] at hlast
        have hgreatest : Int16.maxValue.toInt = 2 ^ 15 - 1 := by decide
        omega
      · cases hid

theorem addPhysicalPlan_of_free (founded : store.contents.Founded listed)
    (hnormal : normalName name = .ok normal) (fresh : normal ∉ listed)
    (few : listed.length < 2 ^ 15) :
    store.addPhysicalPlan name none (-1) =
      .act [.listPhysical store.contents (firstCluster listed.length normal)]
        (Int16.ofNat listed.length) := by
  have hfresh : store.freshName normal = .ok () := by
    rw [freshName, if_neg]
    intro htaken
    obtain ⟨id, hid⟩ := Table.contains_iff.1 htaken
    obtain ⟨n, hn, -⟩ := founded.names.1 hid
    exact fresh (List.mem_of_getElem? hn)
  simp only [addPhysicalPlan, hnormal, hfresh, nextClusterId_of_few founded few]
  rfl

attribute [local irreducible] normalName in
/-- While no append fails, first clusters that can be listed are all added, each with a small append. -/
theorem Founds.addInitial_of_willing (founds : store.Founds listed) (willing : store.journal.Willing)
    {initial more : List String} (hnormal : initial.map normalName = more.map .ok)
    (nodup : (listed ++ more).Nodup) (few : (listed ++ more).length ≤ 2 ^ 15)
    (small : ∀ entry ∈ Log.founding (listed ++ more), entry.Small) :
    (store.addInitial initial).1 = .ok () ∧
      SmallAppends store.logSize (store.initialCourse initial) := by
  induction initial generalizing store listed more with
  | nil => exact ⟨rfl, True.intro⟩
  | cons name rest ih =>
    obtain _ | ⟨normal, more⟩ := more
    · cases hnormal
    rw [List.map_cons, List.map_cons, List.cons.injEq] at hnormal
    obtain ⟨hname, hrest⟩ := hnormal
    rw [List.append_cons] at nodup few small
    have fresh : normal ∉ listed := fun h =>
      (List.nodup_append.1 (List.nodup_append.1 nodup).1).2.2 _ h _ List.mem_cons_self rfl
    have hfew : listed.length < 2 ^ 15 := by
      simp only [List.length_append, List.length_singleton] at few
      omega
    -- The entry is appended, since nothing refuses it.
    let deed := Deed.listPhysical store.contents (firstCluster listed.length normal)
    obtain ⟨offset, journal, happend⟩ := Journal.append_of_taken_of_syncsHold (willing.accepts 0)
      willing.syncsHold deed.entry
    have hadd : store.addPhysical name none (-1) =
        (.ok (Int16.ofNat listed.length), store.done deed journal) := by
      rw [addPhysical_eq, addPhysicalPlan_of_free founds.founded hname fresh hfew,
        perform_one_of_written happend]
    have hwilling : (store.done deed journal).journal.Willing := by
      have := willing.append deed.entry
      rw [happend] at this
      rwa [journal_done]
    have hfounds : (store.done deed journal).Founds (listed ++ [normal]) := by
      have hstep := founds.addPhysical name
      rw [hadd] at hstep
      rcases hstep with ⟨-, error, herror⟩ | ⟨other, hother, -, -, -, ⟨error, herror⟩ | ⟨-, hstep⟩⟩
      · cases herror
      · cases herror
      · rw [hname] at hother
        cases hother
        exact hstep
    -- Its length is that by which the log has grown.
    have hsmall : (LogEntry.clusterAdded (firstCluster listed.length normal)).encode.length < 2 ^ 32 := by
      refine small _ ?_
      rw [Log.founding, List.mapIdx_append]
      refine List.mem_append_left _ ?_
      rw [← Log.founding, Log.founding_concat]
      exact List.mem_append_right _ List.mem_cons_self
    have hsize : (store.done deed journal).logSize < store.logSize + 2 ^ 32 := by
      rw [logSize, logSize, hfounds.holds.size_eq, founds.holds.size_eq, Log.founding_concat,
        Log.bytes_append, List.length_append, Log.bytes_cons, Log.bytes_nil, List.append_nil]
      omega
    obtain ⟨hok, hcourse⟩ := ih hfounds hwilling hrest nodup few small
    rw [addInitial_cons, hadd]
    refine ⟨hok, ?_⟩
    rw [initialCourse, hadd]
    exact ⟨hsize, hcourse⟩

/-- A log that gives what a store holds is opened as it is. -/
theorem Logs.ofJournal_eq {settings : Settings} {journal : Journal} {entries : List LogEntry}
    (logs : store.Logs entries)
    (founded : settings.initialClusters = [] ∨
      ∃ id listing, store.contents.clusters.get? id = some listing)
    (whole : journal.medium.Holds store.journal.medium.bytes) (victims : Nat → Nat) :
    ofJournal settings victims journal =
      (.ok (ofContents settings victims journal store.contents), journal) := by
  rw [logs.holds.bytes_eq] at whole
  simp only [ofJournal, Journal.replay_of_holds_bytes logs.small whole, logs.rebuilt]
  rcases founded with hnone | ⟨_, _, hlisted⟩
  · rw [hnone]
    split <;> rfl
  · rw [if_pos (Table.size_ne_zero hlisted)]

end Store

/-! ## Databases and where they are kept -/

/-- A log that is kept in a certain way, by a handle that knows all of it. -/
def StorageMode.medium : StorageMode → Bytes → Medium
  | .memory, log => .memory ⟨log⟩
  | .directory, log => .file (.ofFile log)

theorem StorageMode.holds_medium (mode : StorageMode) (log : Bytes) : (mode.medium log).Holds log := by
  cases mode with
  | memory => exact Medium.holds_memory log
  | directory => exact Medium.holds_file log

theorem StorageMode.append_medium (mode : StorageMode) (log data : Bytes) :
    ((mode.medium log).append data).2 = mode.medium (log ++ data) := by
  cases mode with
  | memory => rfl
  | directory => exact Medium.append_ofFile log data

namespace Database

variable {ε : Type} {database other : Database} {settings : Settings} {mode : StorageMode}
  {log : Bytes}

/-- A database with these settings that is kept in a certain way and has this log, which gives what the
database holds. -/
structure Kept (database : Database) (settings : Settings) (mode : StorageMode) (log : Bytes) :
    Prop where
  logged : database.Logged
  settings : database.settings = settings
  medium : database.store.journal.medium = mode.medium log

theorem Kept.same (kept : database.Kept settings mode log) (store : other.store = database.store)
    (same : other.settings = database.settings) : other.Kept settings mode log where
  logged :=
    { sound := store ▸ kept.logged.sound
      logs := store ▸ kept.logged.logs
      syncs := store ▸ kept.logged.syncs
      founded := by
        rw [store, same]
        exact kept.logged.founded }
  settings := same.trans kept.settings
  medium := store ▸ kept.medium

/-- A database that is kept so is seen as its handle has it. -/
theorem Kept.withFile_of_directory (kept : database.Kept settings .directory log) :
    database.withFile log = database := by
  have hmedium : database.store.journal.medium = .file (.ofFile log) := kept.medium
  unfold withFile
  simp only [hmedium]
  rw [FileLog.ofFile] at hmedium ⊢
  rw [← hmedium]

theorem Kept.withFile_of_memory (kept : database.Kept settings .memory log) (bytes : Bytes) :
    database.withFile bytes = database := by
  have hmedium : database.store.journal.medium = .memory ⟨log⟩ := kept.medium
  simp only [withFile, hmedium]

/-- What a step writes is added to the log. -/
theorem Kept.stepped (kept : database.Kept settings mode log) (step : Step ε)
    (small : Store.SmallAppends database.store.logSize (step.course database)) :
    (step.run database).2.Kept settings mode (log ++ step.appended database) where
  logged := kept.logged.stepped step small
  settings := (step.settings_run database).trans kept.settings
  medium := by
    rw [(step.medium_run kept.logged.sound).2, kept.medium, mode.append_medium]

/-- Closing a database leaves its log as it is. -/
theorem Kept.closed (kept : database.Kept settings mode log) :
    database.close.2.Kept settings mode log ∧
      database.close.2.store.contents = database.store.contents := by
  have hidle : database.store.Idle database.close.2.store :=
    (Operation.idle_run rfl : database.store.Idle (Operation.run database .close).2.store)
  have hsettings : database.close.2.settings = database.settings :=
    Operation.settings_run database .close
  obtain ⟨entries, hlogs⟩ := kept.logged.logs
  refine ⟨⟨⟨?_, ⟨entries, hlogs.still hidle.still⟩, hidle.follows.syncsHold kept.logged.syncs, ?_⟩,
    hsettings.trans kept.settings, hidle.medium.trans kept.medium⟩, hidle.contents⟩
  · rw [hidle.contents]
    exact kept.logged.sound
  · rw [hsettings, hidle.contents]
    exact kept.logged.founded

theorem ofMedium_of_store {medium : Medium} {store : Store} {after : Journal} (name : String)
    (mode : StorageMode)
    (h : Store.ofJournal settings (fun _ => 0) { medium, syncOnWrite := settings.syncOnWrite } =
      (.ok store, after)) :
    ofMedium name mode settings medium = (.ok { name, mode, settings, store }, after.medium) := by
  simp only [ofMedium, ofJournal_of_store name mode h]

/-- A database whose first clusters can be listed can be made. -/
theorem made {names : List String} (founds : settings.Founds names) (name : String)
    (mode : StorageMode) :
    ∃ database log, ofMedium name mode settings (mode.medium []) = (.ok database, mode.medium log) ∧
      database.Kept settings mode log := by
  let journal : Journal := { medium := mode.medium [], syncOnWrite := settings.syncOnWrite }
  let blank := Store.ofContents settings (fun _ => 0) journal {}
  have empty : journal.medium.Holds [] := mode.holds_medium []
  have syncs : journal.SyncsHold := fun n => Faults.fate_nil _ n
  have willing : blank.journal.Willing := ⟨fun n => Faults.fate_nil _ n, syncs⟩
  have hfounds : blank.Founds [] := ⟨.empty, empty⟩
  obtain ⟨hadd, hsmall⟩ :=
    hfounds.addInitial_of_willing willing founds.normal founds.nodup founds.few founds.small
  rcases hadded : blank.addInitial settings.initialClusters with ⟨result, store⟩
  rw [hadded] at hadd
  obtain rfl : result = .ok () := hadd
  obtain ⟨hstore, hcourse⟩ := Store.ofJournal_of_empty empty hadded
  have happends := Store.addInitial_of_law Store.Law.appends blank settings.initialClusters
  rw [hadded] at happends
  obtain ⟨entries, hentries⟩ := happends
  have hmedium : store.journal.medium = mode.medium (Log.bytes entries) :=
    hentries.trans (mode.append_medium [] _)
  have small : Store.SmallAppends 0
      (Store.openingCourse settings (fun _ => 0) journal) := by
    rw [hcourse]
    refine ⟨?_, ?_⟩
    · show (mode.medium []).size < _
      rw [(mode.holds_medium []).size_eq]
      decide
    · exact hsmall
  have hall : journal.medium.Holds (journal.medium.bytes.take 0) := empty
  refine ⟨{ name, mode, settings, store }, Log.bytes entries, ?_, ?_, rfl, hmedium⟩
  · rw [ofMedium_of_store name mode hstore, hmedium]
  · exact logged_of_opening (Store.logs_ofContents_empty settings (fun _ => 0) empty) hall syncs
      (ofJournal_of_store name mode hstore) small

/-- A database that has been made is opened again over its log and holds what it held. -/
theorem Kept.opened_again (kept : database.Kept settings mode log) (name : String)
    (as : StorageMode) :
    ∃ again, ofMedium name as settings (mode.medium log) = (.ok again, mode.medium log) ∧
      again.Kept settings mode log ∧ again.store.contents = database.store.contents := by
  obtain ⟨⟨sound, ⟨entries, hlogs⟩, -, hfounded⟩, rfl, hmedium⟩ := kept
  let journal : Journal :=
    { medium := mode.medium log, syncOnWrite := database.settings.syncOnWrite }
  have whole : journal.medium.Holds database.store.journal.medium.bytes := by
    rw [hmedium, (mode.holds_medium log).bytes_eq]
    exact mode.holds_medium log
  refine ⟨_, ofMedium_of_store name as (hlogs.ofJournal_eq hfounded whole fun _ => 0),
    ⟨⟨sound, ⟨entries, ?_⟩, fun n => Faults.fate_nil _ n, hfounded⟩, rfl, rfl⟩, rfl⟩
  exact ⟨hlogs.small, hlogs.holds.bytes_eq ▸ whole, hlogs.rebuilt, hlogs.rooted⟩

end Database

end RecordBase
