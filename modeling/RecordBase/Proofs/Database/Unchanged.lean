import RecordBase.Proofs.Database.FailedSyncs

/-!
# Operations that fail

An operation that writes at most one entry of the log decides, appends, and only then changes what the
store holds. So if it fails, for whatever reason, the store differs in its counters and its journal only
(`Store.Untouched`), and every look at the database finds what it found before (`Untouched.run`).

* `Database.failed_operation_changes_nothing`: nor has anything been written, unless the medium took the
  entry and failed to sync it.
-/

namespace RecordBase

/-! ## Looking -/

/-- The operations that tell what a database holds, and nothing of its counters. -/
def Operation.looks : Operation → Bool
  | read _ | readUncached _ | scan _ | count _ | countNamed _ | clusterId _ | clusterName _ |
    clusterInfo _ | clusterList | defaultCluster | lookup _ | keys | cacheSize | execute _ |
    ensureOpen | isOpen | info | settings | descriptions => true
  | _ => false

/-- The operations that write one entry of the log, or none. -/
def Operation.writesOne : Operation → Bool
  | create .. | update .. | delete .. | addPhysical .. | bind .. | unbind _ => true
  | _ => false

namespace Store

/-- Only the counters and the journal may have changed. -/
structure Untouched (before after : Store) : Prop where
  contents : after.contents = before.contents
  cache : after.cache = before.cache
  defaultCluster : after.defaultCluster = before.defaultCluster

namespace Untouched

variable {before after : Store}

theorem eq (h : before.Untouched after) :
    after = { before with journal := after.journal, stats := after.stats } := by
  obtain ⟨hcontents, hcache, hdefault⟩ := h
  rw [← hcontents, ← hcache, ← hdefault]

theorem listing (h : before.Untouched after) (cluster : Int16) :
    after.listing cluster = before.listing cluster := by
  rw [h.eq]
  rfl

theorem nextPosition (h : before.Untouched after) (home : Nat) :
    after.nextPosition home = before.nextPosition home := by
  rw [h.eq]
  rfl

theorem readUncached (h : before.Untouched after) (id : RecordId) :
    (after.readUncached id).1 = (before.readUncached id).1 := by
  unfold Store.readUncached
  rw [h.listing]
  split
  · rfl
  · cases before.listing id.cluster with
    | error error => rfl
    | ok listing =>
      rw [h.eq]
      rfl

theorem readThrough (h : before.Untouched after) (id : RecordId) :
    (after.readThrough id).1 = (before.readThrough id).1 := by
  rw [readThrough_fst, readThrough_fst, h.readUncached]

theorem read (h : before.Untouched after) (id : RecordId) :
    (after.read id).1 = (before.read id).1 := by
  unfold Store.read
  rw [h.cache]
  split
  · rfl
  · split
    · exact h.readThrough id
    · split
      · rfl
      · have hmissed : ({ before with stats := before.stats.countMiss } : Store).Untouched
            { after with stats := after.stats.countMiss } := ⟨h.contents, h.cache, h.defaultCluster⟩
        have hthrough := hmissed.readThrough id
        rwa [h.cache] at hthrough

theorem count (h : before.Untouched after) (clusters : List Int16) :
    after.count clusters = before.count clusters := by
  induction clusters with
  | nil => rfl
  | cons cluster rest ih =>
    rw [Store.count, Store.count, h.listing, ih, h.contents]

theorem countNamed (h : before.Untouched after) (name : String) :
    after.countNamed name = before.countNamed name := by
  simp only [Store.countNamed, clusterNamed, clusterNamed?, h.contents, h.count]

theorem scan (h : before.Untouched after) (cluster : Int16) :
    after.scan cluster = before.scan cluster := by
  rw [Store.scan, Store.scan, h.listing, h.contents]

theorem execute (h : before.Untouched after) (request : CommandRequest) :
    (after.execute request).1 = (before.execute request).1 := by
  unfold Store.execute
  split
  · rename_i query _
    cases query with
    | load identity =>
      simp only [answer]
      split
      · rfl
      · rename_i id _
        have hread := h.read id
        rcases hafter : after.read id with ⟨error | record, _⟩ <;>
          rcases hbefore : before.read id with ⟨error' | record', _⟩ <;>
          rw [hafter, hbefore] at hread <;> cases hread
        · rfl
        · cases record <;> rfl
    | select cluster =>
      simp only [answer, select, clusterNamed, clusterNamed?, h.contents, h.scan]
    | count cluster => simp only [answer, h.countNamed]
    | listClusters => simp only [answer, clusters, h.contents]
  · rfl

/-- Every look finds what it found before. -/
theorem run {database : Database} {store : Store} (h : database.store.Untouched store)
    {look : Operation} (looks : look.looks = true) :
    (look.run { database with store }).1 = (look.run database).1 := by
  cases look with
  | read id => exact congrArg (Answer.ofResult _) (h.read id)
  | readUncached id => exact congrArg (Answer.ofResult _) (h.readUncached id)
  | scan cluster => exact congrArg (Answer.ofResult _) (h.scan cluster)
  | count clusters => exact congrArg (Answer.ofResult _) (h.count clusters)
  | countNamed name => exact congrArg (Answer.ofResult _) (h.countNamed name)
  | execute request =>
    have hexecute := h.execute request
    simp only [Operation.run]
    rcases hafter : store.execute request with ⟨_ | _, _⟩ <;>
      rcases hbefore : database.store.execute request with ⟨_ | _, _⟩ <;>
      rw [hafter, hbefore] at hexecute <;> cases hexecute <;> rfl
  | clusterId | clusterName | clusterInfo | clusterList | defaultCluster | lookup | keys | cacheSize |
    ensureOpen | isOpen | info | settings | descriptions =>
    rw [h.eq]
    rfl
  | _ => cases looks

end Untouched

/-! ## Failing -/

/-- A plan of at most one deed that fails leaves the store untouched, and the log too unless a sync is
lost. -/
theorem untouched_of_failed {α : Type} {store after : Store} {plan : Plan α} (single : plan.Single)
    {error : Error} (h : store.perform plan = (.error error, after)) :
    store.Untouched after ∧
      (¬ store.journal.LosesSync → after.journal.medium = store.journal.medium) := by
  cases single with
  | refuse _ =>
    cases h
    exact ⟨⟨rfl, rfl, rfl⟩, fun _ => rfl⟩
  | none _ => cases h
  | one deed answer =>
    rcases happend : store.journal.append deed.entry with ⟨failure | offset, journal⟩
    · rw [perform_one_of_refused happend] at h
      cases h
      exact ⟨⟨rfl, rfl, rfl⟩, fun kept => (Journal.append_error_of_not_losesSync kept happend).2.1⟩
    · rw [perform_one_of_written happend] at h
      cases h

end Store

namespace Database

variable {database : Database} {operation : Operation}

theorem plan?_of_writesOne (store : Store) (one : operation.writesOne = true) :
    ∃ plan, operation.plan? store = some plan ∧ plan.Single := by
  have hsingle {plan : Plan Answer} (hplan : operation.plan? store = some plan) : plan.Single := by
    refine Operation.plan?_single hplan ?_
    rintro name container rfl
    cases one
  cases operation with
  | create | update | delete | addPhysical | bind | unbind => exact ⟨_, rfl, hsingle rfl⟩
  | _ => cases one

/-- An operation that writes fails only as its plan does. -/
theorem perform_of_failed {plan : Plan Answer} (hplan : operation.plan? database.store = some plan)
    (failed : (operation.run database).1.isError = true) :
    ∃ error store, database.store.perform plan = (.error error, store) ∧
      (operation.run database).2 = { database with store } := by
  rw [Operation.run_of_plan hplan] at failed ⊢
  simp only [onStore] at failed ⊢
  rcases hperform : database.store.perform plan with ⟨error | answer, store⟩
  · exact ⟨error, store, rfl, rfl⟩
  · -- What it answers if it succeeds is no failure.
    rw [hperform] at failed
    cases plan with
    | refuse _ => cases hperform
    | act deeds answer' =>
      have hanswer : answer' = answer := by
        rw [Store.perform_act] at hperform
        generalize (database.store.enact deeds).1 = written at hperform
        cases written <;> cases hperform
        rfl
      have hnone := Operation.isError_of_plan? hplan
      rw [hanswer] at hnone
      exact absurd (failed.symm.trans hnone) (by decide)

/-- A creation, an update, a deletion, the addition of a physical cluster, the binding or the freeing of
a key that fails changes nothing, whatever it fails for: every look at records, clusters and keys finds
what it found before, every container has the next position that it had, and the log is as it was unless
the medium took an entry and failed to sync it. -/
theorem failed_operation_changes_nothing (one : operation.writesOne = true)
    (failed : (operation.run database).1.isError = true) :
    let after := (operation.run database).2
    (∀ look : Operation, look.looks = true → (look.run after).1 = (look.run database).1) ∧
      (∀ home, after.store.nextPosition home = database.store.nextPosition home) ∧
      (¬ database.store.journal.LosesSync →
        after.store.journal.medium = database.store.journal.medium) := by
  obtain ⟨plan, hplan, single⟩ := plan?_of_writesOne database.store one
  obtain ⟨error, store, hperform, hafter⟩ := perform_of_failed hplan failed
  obtain ⟨untouched, medium⟩ := Store.untouched_of_failed single hperform
  intro after
  rw [show after = { database with store } from hafter]
  exact ⟨fun look looks => untouched.run looks, untouched.nextPosition, medium⟩

/-- An update of a record that has another version, and one whose entry the medium refuses. -/
theorem failed_update_changes_nothing :
    let journal : Journal := { blankJournal with refusals := [(2, false), (1, true)] }
    let store := ((Store.ofContents plainSettings (fun _ => 0) journal {}).addInitial ["a"]).2
    let first : Database := { name := "a", mode := .memory, settings := plainSettings, store }
    let database := ((Operation.create 0 [1] .document).run first).2
    let late := ((Operation.update ⟨0, 0⟩ [2] 7 .document).run database).2
    let refused := ((Operation.update ⟨0, 0⟩ [2] 0 .document).run late).2
    ((Operation.read ⟨0, 0⟩).run late).1 = ((Operation.read ⟨0, 0⟩).run database).1 ∧
      ((Operation.read ⟨0, 0⟩).run refused).1 = ((Operation.read ⟨0, 0⟩).run late).1 ∧
      refused.store.nextPosition 0 = late.store.nextPosition 0 ∧
      refused.store.journal.medium = late.store.journal.medium := by
  intro journal store first database late refused
  have hlate : ((Operation.update ⟨0, 0⟩ [2] 7 .document).run database).2 = late := rfl
  have hrefused : ((Operation.update ⟨0, 0⟩ [2] 0 .document).run late).2 = refused := rfl
  obtain ⟨looks, -, -⟩ := @failed_operation_changes_nothing database
    (.update ⟨0, 0⟩ [2] 7 .document) rfl (by decide +kernel)
  obtain ⟨looks', next, medium⟩ := @failed_operation_changes_nothing late
    (.update ⟨0, 0⟩ [2] 0 .document) rfl (by decide +kernel)
  rw [hlate] at looks
  rw [hrefused] at looks' next medium
  exact ⟨looks (.read ⟨0, 0⟩) rfl, looks' (.read ⟨0, 0⟩) rfl, next 0, medium (by decide +kernel)⟩

end Database

end RecordBase
