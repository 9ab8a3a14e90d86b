import RecordBase.Proofs.Database.Creation
import RecordBase.Proofs.Database.Directory

/-!
# Names that register clusters, and names that find them

A cluster is registered under the normal form of a text, without its outer blanks and in lower case. A
look-up puts a text in lower case only. So it finds nothing for a text with outer blanks
(`Store.findsNone_of_blanks`), and for any other what was registered under it
(`Store.Finds.of_knows`).

* `Database.registration_agrees_iff`: which texts find the cluster that was added under them.
-/

namespace RecordBase

/-! ## Finding a cluster -/

namespace Store

variable {store : Store} {text : String} {id : Int16}

/-- Every look-up by this name finds the cluster: for its id, for the number of its records, and for a
record that is created in it. -/
structure Finds (store : Store) (text : String) (id : Int16) : Prop where
  lookup : store.clusterNamed? text = some id
  counted : ∃ count, store.count [id] = .ok count ∧ store.countNamed text = .ok count
  target : ∀ cluster, Batch.targetCluster store cluster (some text) = .ok id

/-- No look-up by this name finds a cluster. -/
structure FindsNone (store : Store) (text : String) : Prop where
  lookup : store.clusterNamed? text = none
  counted : store.countNamed text = .error (.clusterNotFound text)
  target : ∀ cluster, Batch.targetCluster store cluster (some text) = .error (.clusterNotFound text)

theorem targetCluster_of_name (h : text ≠ "") (cluster : Int16) :
    Batch.targetCluster store cluster (some text) = store.clusterNamed text := by
  have hsome : (!text.isEmpty) = true := by simpa using h
  rw [Batch.targetCluster, Option.filter_some, if_pos hsome]

theorem Finds.of_knows (knows : store.contents.Knows (Text.lowercase text) id) (h : text ≠ "") :
    store.Finds text id := by
  have hnamed : store.clusterNamed text = .ok id := by
    rw [clusterNamed, clusterNamed?, knows.named]
  obtain ⟨listing, hlisting⟩ := knows.listed
  have hcount : ∃ count, store.count [id] = .ok count := by
    simp only [count, listing_of_clusters hlisting]
    exact ⟨_, rfl⟩
  refine ⟨knows.named, hcount.imp fun count h => ⟨h, ?_⟩, fun cluster => ?_⟩
  · rw [countNamed, hnamed]
    exact h
  · rw [targetCluster_of_name h, hnamed]

/-- Where clusters are known by normal names, a text with outer blanks finds none. -/
theorem findsNone_of_blanks (named : store.contents.Named) (h : text ≠ "")
    (blanks : Text.trim text ≠ text) : store.FindsNone text := by
  have hnone : store.clusterNamed? text = none := by
    refine Option.eq_none_iff_forall_ne_some.2 fun id hid => blanks ?_
    exact Text.trim_lowercase_iff.1 (trim_of_normalName (named _ id hid))
  have hnamed : store.clusterNamed text = .error (.clusterNotFound text) := by
    rw [clusterNamed, hnone]
  refine ⟨hnone, ?_, fun cluster => ?_⟩
  · rw [countNamed, hnamed]
  · rw [targetCluster_of_name h, hnamed]

/-- The default cluster is found just if the text that names it has no outer blanks and finds one. -/
theorem defaultClusterId_iff_of_named (named : store.contents.Named)
    (default : store.defaultCluster = Text.lowercase text) :
    (∃ found, store.defaultClusterId = .ok found) ↔
      Text.trim text = text ∧ ∃ found, store.clusterNamed? text = some found := by
  have hlookup : store.clusterNamed? store.defaultCluster = store.clusterNamed? text := by
    rw [clusterNamed?, clusterNamed?, default, Text.lowercase_lowercase]
  rw [defaultClusterId, clusterNamed, hlookup]
  cases hfound : store.clusterNamed? text with
  | none => simp
  | some id =>
    have htrim := Text.trim_lowercase_iff.1 (trim_of_normalName (named _ id hfound))
    simp [htrim]

/-- A cluster is added under a text. -/
inductive Adds (store : Store) (text : String) : Int16 → Store → Prop
  | physical {file : Option String} {size : Int32} {id : Int16} {after : Store}
      (h : store.addPhysical text file size = (.ok id, after)) : Adds store text id after
  | logical {container : Int32} {id : Int16} {descriptor : RecordId} {after : Store}
      (h : store.addLogical text container = (.ok (id, descriptor), after)) : Adds store text id after

/-! ## Names along a history -/

/-- Whatever is done to a store, clusters are known by normal names. -/
theorem Law.named : Law Contents.Enlists fun a b =>
    a.contents.Sound → b.contents.Sound ∧ (a.contents.Named → b.contents.Named) :=
  .invariant (·.fits) fun enlists _ named => enlists.named named

/-- Whatever is done to a store, a cluster stays known by its name. -/
theorem Law.knows (name : String) (id : Int16) : Law Contents.Enlists fun a b =>
    a.contents.Sound → b.contents.Sound ∧
      (a.contents.Knows name id → b.contents.Knows name id) :=
  @invariant _ (·.Knows name id) (·.fits) fun enlists _ knows => enlists.knows knows

theorem Adds.knows {after : Store} (adds : store.Adds text id after) :
    ∃ normal, normalName text = .ok normal ∧ after.contents.Knows normal id := by
  cases adds with
  | physical h => exact knows_of_addPhysical h
  | logical h => exact knows_of_addLogical h

attribute [local irreducible] normalName in
theorem Adds.of_law {Q : Store → Store → Prop} (law : Law Contents.Enlists Q) {after : Store}
    (sound : store.contents.Sound) (adds : store.Adds text id after) : Q store after := by
  cases adds with
  | @physical file size _ _ h =>
    have hlaw := law.perform (store.addPhysicalPlan_enlists text file size)
    rwa [← addPhysical_eq, h] at hlaw
  | @logical container _ _ _ h =>
    have hlaw := law.perform (addLogicalPlan_enlists sound text container)
    rwa [← addLogical_eq, h] at hlaw

end Store

variable {ε : Type}

/-- The deeds that keep contents in good order and list clusters properly. -/
theorem Log.writes_enlists :
    Log.Writes fun contents deed => contents.Keeps deed ∧ contents.Enlists deed where
  keeps h := h.1
  covers := Store.covers_keeps.and Store.covers_enlists
  physical {store} name kept :=
    (Log.writes_keeps.physical name kept).and (store.addPhysicalPlan_enlists name none (-1))

namespace Database

variable {database : Database}

/-- A database that serves knows its clusters by normal names. -/
theorem Serving.named (serving : Serving ε database) : database.store.contents.Named := by
  obtain ⟨start, entries, course, happly, told, kept, trail⟩ := serving.trail Log.writes_enlists
  have hstart : start.contents.Named := by
    refine Contents.Named.empty.applyAll happly fun entry hentry cluster hcluster => ?_
    obtain ⟨contents, deed, ⟨-, enlists⟩, rfl⟩ := told entry hentry
    exact (enlists.joins hcluster).normal
  exact ((trail.of_law (Store.Law.named.weaken And.right)) kept.sound).2 hstart

/-- The store of a database has the name of the default cluster in lower case. -/
theorem Reached.defaultCluster (reached : Reached ε database) :
    database.store.defaultCluster = Text.lowercase database.settings.defaultCluster := by
  induction reached with
  | @opened name mode settings victims journal after database opens =>
    obtain ⟨hstore, rfl⟩ := ofJournal_ok opens
    obtain ⟨entries, replayed, contents, -, -, -, hopen⟩ := Store.ofJournal_cases hstore
    rcases hopen with ⟨-, hafter⟩ | ⟨-, hadd⟩
    · rw [hafter]
      rfl
    · have hdefault := Store.addInitial_of_law Store.Law.defaultCluster
        (Store.ofContents database.settings victims replayed contents) database.settings.initialClusters
      rw [hadd] at hdefault
      exact hdefault
  | @stepped database reached step ih =>
    have hstep := (step.run_of_law Store.Law.defaultCluster reached.sound_coherent.1).2.2
    rw [hstep, step.settings_run, ih]

/-- A cluster that was added under a text is found by the text without outer blanks, whatever steps
follow, and not by the text itself if it has some. -/
theorem Serving.finds_added (serving : Serving ε database) {text : String} {id : Int16} {after : Store}
    (nonblank : Text.trim text ≠ "") (adds : database.store.Adds text id after) (steps : List (Step ε)) :
    (Step.runAll { database with store := after } steps).2.store.Finds (Text.trim text) id ∧
      (Text.trim text ≠ text →
        (Step.runAll { database with store := after } steps).2.store.FindsNone text) := by
  have sound := serving.reached.sound_coherent.1
  obtain ⟨normal, hnormal, knows⟩ := adds.knows
  obtain ⟨hsound, hnamed⟩ := adds.of_law Store.Law.named sound sound
  have trail := @Step.trail_courseAll _ _ _ ε Store.covers_enlists steps
    { database with store := after } hsound True.intro
  have hknows := (trail.of_law (Store.Law.knows normal id) hsound).2 knows
  have hlast := (trail.of_law Store.Law.named hsound).2 (hnamed serving.named)
  obtain ⟨-, rfl⟩ := Store.normalName_eq_ok.1 hnormal
  exact ⟨.of_knows hknows nonblank, Store.findsNone_of_blanks hlast (Text.ne_empty_of_trim nonblank)⟩

/-- A text that is not blank is rejected for a new cluster just if it is found without outer blanks, and
without them it finds what was added under it, whatever steps follow. With outer blanks it finds nothing,
not even what was added under it. So the default cluster is found just if the settings give it without
outer blanks and there is one, as there is if it is one of the first clusters and these exist. The database
was opened over a log that grew by fewer than `2 ^ 32` bytes at a time. -/
theorem registration_agrees_iff (serving : Serving ε database) {text : String}
    (nonblank : Text.trim text ≠ "") :
    (∀ file size,
      (∃ taken, (database.store.addPhysical text file size).1 = .error (.clusterExists taken)) ↔
        ∃ id, database.store.clusterNamed? (Text.trim text) = some id) ∧
    (∀ id after, database.store.Adds text id after → ∀ steps : List (Step ε),
      (Step.runAll { database with store := after } steps).2.store.Finds (Text.trim text) id ∧
        (Text.trim text ≠ text →
          (Step.runAll { database with store := after } steps).2.store.FindsNone text)) ∧
    (Text.trim text ≠ text → database.store.FindsNone text) ∧
    ((∃ id, database.store.defaultClusterId = .ok id) ↔
      Text.trim database.settings.defaultCluster = database.settings.defaultCluster ∧
        ∃ id, database.store.clusterNamed? database.settings.defaultCluster = some id) ∧
    (database.store.HasInitial database.settings.initialClusters →
      database.settings.defaultCluster ∈ database.settings.initialClusters →
      ∃ id, database.store.clusterNamed? (Text.trim database.settings.defaultCluster) = some id) := by
  refine ⟨fun file size => ?_, fun id after adds steps => serving.finds_added nonblank adds steps,
    Store.findsNone_of_blanks serving.named (Text.ne_empty_of_trim nonblank),
    Store.defaultClusterId_iff_of_named serving.named serving.reached.defaultCluster,
    fun initial hmem => ?_⟩
  · rw [Store.clusterExists_iff]
    constructor
    · rintro ⟨normal, id, hnormal, hid⟩
      obtain ⟨-, rfl⟩ := Store.normalName_eq_ok.1 hnormal
      exact ⟨id, hid⟩
    · rintro ⟨id, hid⟩
      exact ⟨_, id, Store.normalName_eq_ok.2 ⟨nonblank, rfl⟩, hid⟩
  · obtain ⟨n, hn⟩ := List.mem_iff_getElem?.1 hmem
    obtain ⟨cluster, -, -, hname, hknown⟩ := initial n _ hn
    obtain ⟨-, hnormal⟩ := Store.normalName_eq_ok.1 hname
    rw [← hnormal] at hknown
    exact ⟨cluster.id, hknown⟩

/-- A text whose last character is a blank is taken by a cluster that it does not find. -/
theorem registration_agrees_of_outer_blank :
    (∃ taken, (plain.store.addPhysical "A " none (-1)).1 = .error (.clusterExists taken)) ∧
      plain.store.FindsNone "A " := by
  obtain ⟨hrejected, -, hnone, -⟩ :=
    @registration_agrees_iff Unit plain serving_plain "A " (by decide +kernel)
  exact ⟨(hrejected none (-1)).2 ⟨0, by decide +kernel⟩, hnone (by decide +kernel)⟩

/-- A cluster is added under a text with outer blanks, and not found by it then. -/
theorem added_cluster_is_not_found :
    ∃ after, plain.store.addPhysical " x " none (-1) = (.ok 1, after) ∧
      after.clusterNamed? " x " = none ∧ after.countNamed " x " = .error (.clusterNotFound " x ") ∧
      Batch.targetCluster after (-1) (some " x ") = .error (.clusterNotFound " x ") := by
  have added : (plain.store.addPhysical " x " none (-1)).1 = .ok 1 := by decide +kernel
  exact ⟨_, Prod.ext added rfl, by decide +kernel, by decide +kernel, by decide +kernel⟩

end Database

end RecordBase
