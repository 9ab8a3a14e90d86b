import RecordBase.Proofs.Database.Reached
import RecordBase.Proofs.Database.Traces

/-!
# Databases over the logs that databases leave

`Log.Left`: the logs that are left when databases are opened over nothing or over such a log, put
through steps and cut off anywhere, also if an opening fails, whatever the journals refuse and however
their syncs fail. `Database.Serving`: opened over such a log and put through steps. What such a database
holds is in good order (`Serving.kept`).
-/

namespace RecordBase

namespace Store

variable {store : Store} {settings : Settings} {victims : Nat → Nat} {journal : Journal}
  {entries : List LogEntry} {names : List String}

/-! ## Small appends -/

theorem smallAppends_of_prefix {front back : List Store} (h : front <+: back) {size : Nat}
    (small : SmallAppends size back) : SmallAppends size front := by
  induction front generalizing size back with
  | nil => exact True.intro
  | cons first rest ih =>
    obtain ⟨more, rfl⟩ := h
    exact ⟨small.1, ih ⟨more, rfl⟩ small.2⟩

/-! ## Opening -/

/-- Adding first clusters passes the stores of their course, up to the first that is not added. -/
theorem trail_addInitial {P : Contents → Deed → Prop} {Good : Contents → Prop}
    (physical : ∀ {store : Store} name, Good store.contents →
      (store.addPhysicalPlan name none (-1)).Each P store.contents)
    (law : Law P fun a b => Good a.contents → Good b.contents) (store : Store) (names : List String)
    (good : Good store.contents) :
    ∃ front, front <+: store.initialCourse names ∧ Trail P store front (store.addInitial names).2 ∧
      ((store.addInitial names).1 = .ok () → front = store.initialCourse names) := by
  induction names generalizing store with
  | nil => exact ⟨[], List.prefix_rfl, .nil store, fun _ => rfl⟩
  | cons name rest ih =>
    have hstirs := stirs_perform (store.addPhysicalPlan_single name none (-1)) (physical name good)
    rw [← addPhysical_eq] at hstirs
    have hgood := law.stirs hstirs good
    rw [addInitial_cons, initialCourse]
    rcases hadd : store.addPhysical name none (-1) with ⟨error | id, added⟩
    · rw [hadd] at hstirs
      refine ⟨[added], ⟨_, rfl⟩, .one hstirs, ?_⟩
      rintro ⟨⟩
    · rw [hadd] at hstirs hgood
      obtain ⟨front, hfront, htrail, hall⟩ := ih added hgood
      exact ⟨added :: front, (List.prefix_cons_inj added).2 hfront, .cons hstirs htrail,
        fun h => congrArg (added :: ·) (hall h)⟩

/-- Opening what is left of a log that gives some contents begins with these, and then adds first
clusters or none. -/
theorem start_of_holds (settings : Settings) (victims : Nat → Nat)
    (small : ∀ entry ∈ entries, entry.Small) {size : Nat}
    (holds : journal.medium.Holds ((Log.bytes entries).take size)) {contents : Contents}
    (happly : ({} : Contents).applyAll (Log.whole size entries) = .ok contents) :
    ∃ start names, start.contents = contents ∧
      start.journal.medium.Holds (Log.bytes (Log.whole size entries)) ∧
      (journal.SyncsHold → start.journal.SyncsHold) ∧
      names = (if contents.clusters.size ≠ 0 then [] else settings.initialClusters) ∧
      openingCourse settings victims journal = start :: start.initialCourse names ∧
      (ofJournal settings victims journal).2 = (start.addInitial names).2.journal ∧
      ∀ {store after}, ofJournal settings victims journal = (.ok store, after) →
        start.addInitial names = (.ok (), store) := by
  obtain ⟨medium, hreplay, hholds⟩ := Journal.replay_of_holds small holds
  refine ⟨ofContents settings victims { journal with medium } contents,
    if contents.clusters.size ≠ 0 then [] else settings.initialClusters, rfl, hholds, id, rfl, ?_⟩
  simp only [openingCourse, ofJournal, hreplay, happly]
  by_cases hsize : contents.clusters.size ≠ 0
  · simp only [if_pos hsize]
    refine ⟨rfl, rfl, ?_⟩
    rintro store after ⟨⟩
    rfl
  · simp only [if_neg hsize]
    refine ⟨trivial, ?_⟩
    rcases (ofContents settings victims { journal with medium } contents).addInitial
      settings.initialClusters with ⟨error | _, added⟩
    · refine ⟨rfl, ?_⟩
      rintro store after ⟨⟩
    · refine ⟨rfl, ?_⟩
      rintro store after ⟨⟩
      rfl

/-- Opening a log of orderly entries, cut off anywhere, begins with what the whole entries give and
then adds first clusters or none. -/
theorem start_of_orderly (settings : Settings) (victims : Nat → Nat)
    (small : ∀ entry ∈ entries, entry.Small) (orderly : Log.Orderly entries) {size : Nat}
    (holds : journal.medium.Holds ((Log.bytes entries).take size)) :
    ∃ start names, start.Traces (Log.whole size entries) ∧
      ({} : Contents).applyAll (Log.whole size entries) = .ok start.contents ∧
      openingCourse settings victims journal = start :: start.initialCourse names ∧
      (ofJournal settings victims journal).2 = (start.addInitial names).2.journal ∧
      ∀ {store after}, ofJournal settings victims journal = (.ok store, after) →
        start.addInitial names = (.ok (), store) := by
  have hwhole := Log.whole_isPrefix size entries
  obtain ⟨contents, happly, hkept⟩ := orderly _ hwhole
  obtain ⟨start, names, rfl, hholds, -, -, hopening⟩ :=
    start_of_holds settings victims small holds happly
  exact ⟨start, names, ⟨fun entry h => small entry (hwhole.subset h), hholds, orderly.mono hwhole,
    hkept, _, happly, .refl hkept⟩, happly, hopening⟩

end Store

/-! ## Logs left -/

/-- A log that databases leave: nothing; what an opening makes of such a log, also if it fails; what
steps make of it then; and what a crash leaves of it. Every append is of fewer than `2 ^ 32`
bytes. -/
inductive Log.Left (ε : Type) : Bytes → Prop
  | empty : Left ε []
  | opened {bytes : Bytes} {settings : Settings} {victims : Nat → Nat} {journal : Journal}
      (left : Left ε bytes) (holds : journal.medium.Holds bytes)
      (small : Store.SmallAppends bytes.length (Store.openingCourse settings victims journal)) :
      Left ε (Store.ofJournal settings victims journal).2.medium.bytes
  | run {bytes : Bytes} {name : String} {mode : StorageMode} {settings : Settings}
      {victims : Nat → Nat} {journal after : Journal} {database : Database}
      (left : Left ε bytes) (holds : journal.medium.Holds bytes)
      (opens : Database.ofJournal name mode settings journal victims = (.ok database, after))
      (steps : List (Step ε))
      (small : Store.SmallAppends bytes.length
        (Store.openingCourse settings victims journal ++ Step.courseAll database steps)) :
      Left ε (Step.runAll database steps).2.store.journal.medium.bytes
  | cut {bytes : Bytes} (left : Left ε bytes) (size : Nat) : Left ε (bytes.take size)

variable {ε : Type}

/-- The deeds that runs try, and that openings do, keep contents in good order and have a property. -/
structure Log.Writes (P : Contents → Deed → Prop) : Prop where
  keeps : ∀ {contents deed}, P contents deed → contents.Keeps deed
  covers : Store.Covers P Contents.Placed fun undo => (0 : Int64) ≤ undo.id.position
  physical : ∀ {store : Store} name, store.contents.Kept →
    (store.addPhysicalPlan name none (-1)).Each P store.contents

theorem Log.writes_keeps : Log.Writes Contents.Keeps where
  keeps h := h
  covers := Store.covers_keeps
  physical {store} name kept := (store.addPhysicalPlan_proceeds name none (-1)).keeps kept.sound
    kept.placed (store.addPhysicalPlan_numbers name none (-1))

section Writes

variable {P : Contents → Deed → Prop}

theorem Log.Writes.kept (writes : Log.Writes P) :
    Store.Law P fun a b => a.contents.Kept → b.contents.Kept := Store.Law.kept.weaken writes.keeps

/-- A log that databases leave is that of orderly entries, perhaps cut off, each that of a deed. -/
theorem Log.Left.tells (writes : Log.Writes P) {bytes : Bytes} (left : Log.Left ε bytes) :
    ∃ entries size, (∀ entry ∈ entries, LogEntry.Small entry) ∧ Log.Orderly entries ∧
      Log.Tells P entries ∧ bytes = (Log.bytes entries).take size := by
  have whole {store : Store} {front more : List LogEntry} (traces : store.Traces (front ++ more))
      (first : Log.Tells P front) (told : Log.Tells P more) :
      ∃ entries size, (∀ entry ∈ entries, LogEntry.Small entry) ∧ Log.Orderly entries ∧
        Log.Tells P entries ∧ store.journal.medium.bytes = (Log.bytes entries).take size :=
    ⟨_, (Log.bytes (front ++ more)).length, traces.small, traces.orderly, first.append told,
      traces.holds.bytes_eq.trans (List.take_length).symm⟩
  have cut {entries : List LogEntry} (told : Log.Tells P entries) (size : Nat) :
      Log.Tells P (Log.whole size entries) := fun entry h =>
    told entry ((Log.whole_isPrefix size entries).subset h)
  induction left with
  | empty => exact ⟨[], 0, by simp, .empty, by simp [Log.Tells], rfl⟩
  | @opened bytes settings victims journal left holds small ih =>
    obtain ⟨entries, size, hsmall, orderly, told, rfl⟩ := ih
    obtain ⟨start, names, traces, -, hcourse, hjournal, -⟩ :=
      Store.start_of_orderly settings victims hsmall orderly holds
    obtain ⟨front, hfront, trail, -⟩ :=
      Store.trail_addInitial writes.physical writes.kept start names traces.kept
    rw [hcourse] at small
    obtain ⟨more, hlast, hmore⟩ :=
      traces.trail writes.keeps trail (Store.smallAppends_of_prefix hfront small.2)
    rw [hjournal]
    exact whole hlast (cut told size) hmore
  | @run bytes name mode settings victims journal after database left holds opens steps small ih =>
    obtain ⟨entries, size, hsmall, orderly, told, rfl⟩ := ih
    obtain ⟨start, names, traces, -, hcourse, -, hopened⟩ :=
      Store.start_of_orderly settings victims hsmall orderly holds
    have hadd := hopened (Database.ofJournal_ok opens).1
    obtain ⟨front, -, trail, hall⟩ :=
      Store.trail_addInitial writes.physical writes.kept start names traces.kept
    rw [hadd] at trail hall
    rw [hall rfl] at trail
    have hkept := trail.of_law writes.kept traces.kept
    have hrun := Step.trail_courseAll writes.covers steps hkept.sound hkept.placed
    rw [hcourse] at small
    obtain ⟨more, hlast, hmore⟩ := traces.trail writes.keeps (trail.append hrun) small.2
    exact whole hlast (cut told size) hmore
  | cut left size ih =>
    obtain ⟨entries, length, hsmall, orderly, told, rfl⟩ := ih
    exact ⟨entries, min size length, hsmall, orderly, told, List.take_take⟩

end Writes

namespace Database

/-! ## Databases that serve -/

/-- Opened over a log that databases leave, with appends of fewer than `2 ^ 32` bytes, and put through some
steps, whatever the journal refuses, however its syncs fail and however long the entries are since. -/
inductive Serving (ε : Type) : Database → Prop
  | opened {bytes : Bytes} {name : String} {mode : StorageMode} {settings : Settings}
      {victims : Nat → Nat} {journal after : Journal} {database : Database}
      (left : Log.Left ε bytes) (holds : journal.medium.Holds bytes)
      (opens : ofJournal name mode settings journal victims = (.ok database, after)) :
      Serving ε database
  | stepped {database : Database} (serving : Serving ε database) (step : Step ε) :
      Serving ε (step.run database).2

variable {database : Database}

theorem Serving.reached (serving : Serving ε database) : Reached ε database := by
  induction serving with
  | opened _ _ opens => exact .opened opens
  | stepped _ step ih => exact .stepped ih step

/-- What the log of a database that serves gave, before first clusters were added, it has gone through
deeds with a property since. -/
theorem Serving.trail {P : Contents → Deed → Prop} (writes : Log.Writes P)
    (serving : Serving ε database) :
    ∃ start entries course, ({} : Contents).applyAll entries = .ok start.contents ∧
      Log.Tells P entries ∧ start.contents.Kept ∧ Store.Trail P start course database.store := by
  induction serving with
  | @opened bytes name mode settings victims journal after database left holds opens =>
    obtain ⟨entries, size, small, orderly, told, rfl⟩ := left.tells writes
    obtain ⟨start, names, traces, happly, -, -, hopened⟩ :=
      Store.start_of_orderly settings victims small orderly holds
    obtain ⟨front, -, trail, -⟩ :=
      Store.trail_addInitial writes.physical writes.kept start names traces.kept
    rw [hopened (ofJournal_ok opens).1] at trail
    exact ⟨start, _, front, happly,
      fun entry h => told entry ((Log.whole_isPrefix size entries).subset h), traces.kept, trail⟩
  | stepped _ step ih =>
    obtain ⟨start, entries, course, happly, told, kept, trail⟩ := ih
    have hkept := trail.of_law writes.kept kept
    exact ⟨start, entries, _, happly, told, kept,
      trail.append (step.trail_course writes.covers hkept.sound hkept.placed)⟩

/-- What a database that serves holds is in good order. -/
theorem Serving.kept (serving : Serving ε database) : database.store.contents.Kept := by
  obtain ⟨start, entries, course, -, -, kept, trail⟩ := serving.trail Log.writes_keeps
  exact trail.of_law Store.Law.kept kept

theorem Serving.coherent (serving : Serving ε database) : database.store.Coherent :=
  serving.reached.sound_coherent.2

theorem serving_plain : Serving ε plain := .opened .empty blankJournal_empty ofJournal_plain

end Database

end RecordBase
