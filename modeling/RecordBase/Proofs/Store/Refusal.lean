import RecordBase.Proofs.Store.Undo

/-!
# Why an entry of a batch fails

The failures of the store are not those of the journal, so the error of an entry tells whether it asked
for an append (`Batch.refused_of_apply`); it has changed nothing in either case.
-/

namespace RecordBase

namespace Store

variable {store : Store} {error : Error}

theorem ne_refusal_of_listing {cluster : Int16} (h : store.listing cluster = .error error) :
    error ≠ Journal.refusal := by
  unfold listing at h
  split at h <;> cases h
  rintro ⟨⟩

theorem ne_refusal_of_nextPosition {home : Nat} (h : store.nextPosition home = .error error) :
    error ≠ Journal.refusal := by
  simp only [nextPosition] at h
  split at h <;> cases h
  rintro ⟨⟩

theorem ne_refusal_of_clusterNamed {name : String} (h : store.clusterNamed name = .error error) :
    error ≠ Journal.refusal := by
  unfold clusterNamed at h
  split at h <;> cases h
  rintro ⟨⟩

theorem ne_refusal_of_expected {id : RecordId} {version : Int32}
    (h : (store.expected id version).1 = .error error) : error ≠ Journal.refusal := by
  unfold expected at h
  split at h
  · cases h
    rintro ⟨⟩
  · split at h
    · rename_i hlisting
      cases h
      exact ne_refusal_of_listing hlisting
    · split at h
      · cases h
        rintro ⟨⟩
      · split at h <;> cases h
        rintro ⟨⟩

theorem ne_refusal_of_createPlan {cluster : Int16} {content : Bytes} {type : RecordType}
    (h : store.createPlan cluster content type = .refuse error) : error ≠ Journal.refusal := by
  unfold createPlan at h
  split at h
  · rename_i hlisting
    cases h
    exact ne_refusal_of_listing hlisting
  · split at h <;> cases h
    rename_i hnext
    exact ne_refusal_of_nextPosition hnext

theorem ne_refusal_of_replacePlan {id : RecordId} {content : Bytes} {version : Int32}
    {type : Option RecordType} (h : store.replacePlan id content version type = .refuse error) :
    error ≠ Journal.refusal := by
  unfold replacePlan at h
  split at h
  · rename_i hexpected
    cases h
    exact ne_refusal_of_expected hexpected
  · split at h <;> cases h
    rintro ⟨⟩

theorem ne_refusal_of_removePlan {id : RecordId} {version : Int32}
    (h : store.removePlan id version = .refuse error) : error ≠ Journal.refusal := by
  unfold removePlan at h
  split at h <;> cases h
  rename_i hexpected
  exact ne_refusal_of_expected hexpected

end Store

theorem Plan.refuse_of_map {α β : Type} {plan : Plan α} {f : α → β} {error : Error}
    (h : plan.map f = .refuse error) : plan = .refuse error := by
  cases plan with
  | refuse _ =>
    cases h
    rfl
  | act _ _ => cases h

namespace Batch

variable {store after : Store} {batch : Batch} {entry : BatchEntry} {error : Error}

theorem ne_refusal_of_targetCluster {cluster : Int16} {name : Option String}
    (h : targetCluster store cluster name = .error error) : error ≠ Journal.refusal := by
  unfold targetCluster at h
  split at h
  · exact Store.ne_refusal_of_clusterNamed h
  · split at h
    · cases h
    · exact Store.ne_refusal_of_clusterNamed h

theorem ne_refusal_of_resolve {id : RecordId} (h : batch.resolve id = .error error) :
    error ≠ Journal.refusal := by
  unfold resolve at h
  split at h
  · cases h
  · split at h <;> cases h
    rintro ⟨⟩

/-- An entry that the store rejects does not fail as if its append were refused. -/
theorem ne_refusal_of_plan (h : batch.plan store entry = .refuse error) :
    error ≠ Journal.refusal := by
  cases entry with
  | create cluster name content =>
    cases content with
    | none =>
      cases h
      rintro ⟨⟩
    | some content =>
      simp only [plan] at h
      split at h
      · rename_i htarget
        cases h
        exact ne_refusal_of_targetCluster htarget
      · exact Store.ne_refusal_of_createPlan (Plan.refuse_of_map h)
  | update id version content =>
    cases content with
    | none =>
      cases h
      rintro ⟨⟩
    | some content =>
      simp only [plan] at h
      split at h
      · rename_i hid
        cases h
        exact ne_refusal_of_resolve hid
      · exact Store.ne_refusal_of_replacePlan (Plan.refuse_of_map h)
  | delete id version =>
    simp only [plan] at h
    split at h
    · rename_i hid
      cases h
      exact ne_refusal_of_resolve hid
    · exact Store.ne_refusal_of_removePlan (Plan.refuse_of_map h)

/-- An entry that fails changes nothing: the store rejected it, or its append was refused. -/
theorem refused_of_apply (sound : store.contents.Sound) (syncs : store.journal.SyncsHold)
    (h : batch.apply store entry = (.error error, after)) :
    after.contents = store.contents ∧ after.journal.SyncsHold ∧
      (error ≠ Journal.refusal ∧ after.journal = store.journal ∨
        ∀ n, after.journal.refusals.fate false n = store.journal.refusals.fate false (n + 1)) := by
  rw [apply_eq] at h
  have sets := plan_sets sound batch entry
  generalize hplan : batch.plan store entry = plan at h sets
  cases sets with
  | refuse error =>
    cases h
    exact ⟨rfl, syncs, .inl ⟨ne_refusal_of_plan hplan, rfl⟩⟩
  | @act deed answer _ _ _ _ _ _ _ =>
    have hfollows := Journal.append_follows store.journal deed.entry
    have hrefusals := Journal.refusals_append store.journal deed.entry
    rcases happend : store.journal.append deed.entry with ⟨failure | offset, journal⟩
    · rw [Store.perform_one_of_refused happend] at h
      cases h
      rw [happend] at hfollows hrefusals
      refine ⟨rfl, hfollows.syncsHold syncs, .inr fun n => ?_⟩
      rw [hrefusals]
      rfl
    · rw [Store.perform_one_of_written happend] at h
      cases h

end Batch

end RecordBase
