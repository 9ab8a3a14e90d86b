import RecordBase.Proofs.Store.Clusters
import RecordBase.Proofs.Store.Course

/-!
# What a log tells while syncs fail

An append whose sync fails leaves its entry in the log, while the store does not make the change. So
as long as every append is taken the log tells what the store holds (`Store.Told`), or it has one more
entry than that (`Told.enact`): that of a deed which was not done.

No log that tells what its store holds lists two clusters under one id.
-/

namespace RecordBase

/-! ## The ids of a log -/

/-- The id under which an entry lists a cluster. -/
def LogEntry.clusterId? : LogEntry → Option Int16
  | .clusterAdded cluster => some cluster.id
  | _ => none

theorem LogEntry.clusterId?_eq (entry : LogEntry) : entry.clusterId? = entry.cluster?.map (·.id) := by
  cases entry <;> rfl

/-- The ids under which the entries of a log list clusters. -/
def Log.clusterIds (entries : List LogEntry) : List Int16 := entries.filterMap LogEntry.clusterId?

namespace Contents

variable {contents after : Contents}

/-- Clusters stay listed, and that of an entry is listed then. -/
theorem isSome_of_apply {entry : LogEntry} {id : Int16} (h : contents.apply entry = .ok after)
    (hid : (contents.clusters.get? id).isSome ∨ entry.clusterId? = some id) :
    (after.clusters.get? id).isSome := by
  rw [LogEntry.clusterId?_eq] at hid
  rcases directory_of_apply h with ⟨hnone, same⟩ | ⟨cluster, home, hentry, hclusters, -⟩
  · rw [same.clusters]
    exact hid.resolve_right (by rw [hnone]; rintro ⟨⟩)
  · rw [hclusters, Table.get?_insert]
    split
    · rfl
    · rename_i hne
      rw [hentry] at hid
      exact hid.resolve_right fun he => hne (Option.some.inj he).symm

/-- Every cluster that some entries list is listed after them. -/
theorem isSome_of_applyAll {entries : List LogEntry} {id : Int16}
    (h : contents.applyAll entries = .ok after)
    (hid : (contents.clusters.get? id).isSome ∨ id ∈ Log.clusterIds entries) :
    (after.clusters.get? id).isSome := by
  induction entries generalizing contents with
  | nil =>
    cases h
    exact hid.resolve_right List.not_mem_nil
  | cons entry rest ih =>
    rw [applyAll] at h
    split at h
    · rename_i next hnext
      refine ih h ?_
      rw [Log.clusterIds, List.filterMap_cons] at hid
      rcases hid with hlisted | hid
      · exact .inl (isSome_of_apply hnext (.inl hlisted))
      · split at hid
        · exact .inr hid
        · rename_i first hfirst
          rcases List.mem_cons.1 hid with rfl | hid
          · exact .inl (isSome_of_apply hnext (.inr hfirst))
          · exact .inr hid
    · cases h

/-- A cluster is listed under an id that no other has. -/
theorem Fits.fresh {deed : Deed} (fits : contents.Fits deed) {id : Int16}
    (h : deed.entry.clusterId? = some id) : contents.clusters.get? id = none := by
  rw [LogEntry.clusterId?_eq] at h
  rcases fits.directory with ⟨hnone, -⟩ | ⟨cluster, home, hentry, fresh, -⟩
  · rw [hnone] at h
    cases h
  · rw [hentry] at h
    cases h
    exact fresh

end Contents

namespace Store

/-! ## Logs that tell what is held -/

/-- The log of a store is that of these entries, they give what the store holds, and no two of them
list clusters under one id. -/
structure Told (store : Store) (entries : List LogEntry) : Prop where
  logs : store.Logs entries
  apart : (Log.clusterIds entries).Nodup

variable {store a b : Store} {entries : List LogEntry}

theorem Told.still (told : a.Told entries) (h : a.Still b) : b.Told entries :=
  ⟨told.logs.still h, told.apart⟩

/-- What a cut leaves of the entries lists no cluster twice, either. -/
theorem Told.apart_whole (told : a.Told entries) (size : Nat) :
    (Log.clusterIds (Log.whole size entries)).Nodup :=
  told.apart.sublist ((Log.whole_isPrefix size entries).sublist.filterMap _)

/-- A store that holds what a deed makes of it, with the entry of the deed in its log. -/
theorem Told.logged (told : a.Told entries) {deed : Deed} (fits : a.contents.Fits deed)
    (contents : b.contents = deed.after)
    (medium : b.journal.medium = (a.journal.medium.append deed.entry.encode).2)
    (small : b.logSize < a.logSize + 2 ^ 32) : b.Told (entries ++ [deed.entry]) := by
  refine ⟨(told.logs.logged fits contents medium small).1, ?_⟩
  rw [Log.clusterIds, List.filterMap_append, List.nodup_append]
  refine ⟨told.apart, ?_, fun id hid last hlast he => ?_⟩
  · rw [List.filterMap_cons]
    split <;> simp
  · subst he
    have hlisted := Contents.isSome_of_applyAll told.logs.rebuilt (.inr hid)
    obtain ⟨entry, hentry, hfirst⟩ := List.mem_filterMap.1 hlast
    rw [List.mem_singleton.1 hentry] at hfirst
    rw [fits.fresh hfirst] at hlisted
    cases hlisted

theorem Told.path {course : List Store} (told : a.Told entries) (path : Path a course b)
    (small : SmallAppends a.logSize course) : ∃ more, b.Told (entries ++ more) := by
  induction path generalizing entries with
  | nil still =>
    refine ⟨[], ?_⟩
    rw [List.append_nil]
    exact told.still still
  | cons moves path ih =>
    obtain ⟨hfirst, hrest⟩ := small
    cases moves with
    | still h => exact ih (told.still h) hrest
    | @logged deed fits contents medium =>
      obtain ⟨more, htold⟩ := ih (told.logged fits contents medium hfirst) hrest
      rw [List.append_assoc] at htold
      exact ⟨_, htold⟩

/-! ## Appends whose sync may fail -/

/-- Whatever happens to a store, its log does not shrink. -/
theorem Law.logSize_le {P : Contents → Deed → Prop} : Law P fun a b => a.logSize ≤ b.logSize where
  trans h₁ h₂ := Nat.le_trans h₁ h₂
  idle h := Nat.le_of_eq (congrArg Medium.size h.medium).symm
  tries h := by
    obtain ⟨entries, hmedium⟩ := appends.tries h
    rw [logSize, logSize, hmedium, Medium.size_append]
    exact Nat.le_add_right _ _

/-- Whatever happens to a store, a medium that refuses nothing goes on so. -/
theorem Law.accepts {P : Contents → Deed → Prop} :
    Law P fun a b => a.journal.Accepts → b.journal.Accepts where
  trans h₁ h₂ h := h₂ (h₁ h)
  idle h accepts n := by
    rw [h.refusals]
    exact accepts n
  tries {a b} h accepts := by
    cases h with
    | @refused deed error journal _ append =>
      have := accepts.append deed.entry
      rwa [append] at this
    | @written deed offset journal _ append =>
      have := accepts.append deed.entry
      rw [append] at this
      rwa [journal_done]

/-- Deeds that are tried one after another, with every append taken and any sync failing: all are done
and the log tells so, or one is not done though the log has its entry. -/
theorem Told.enact {P : Contents → Deed → Prop}
    (fits : ∀ {contents deed}, P contents deed → contents.Fits deed) (told : store.Told entries)
    (accepts : store.journal.Accepts) {deeds : List Deed} (each : Deed.Each P store.contents deeds)
    (small : (store.enact deeds).2.logSize < store.logSize + 2 ^ 32) :
    (store.enact deeds).1 = .ok () ∧ (∃ more, (store.enact deeds).2.Told (entries ++ more)) ∨
    ∃ error deed more, (store.enact deeds).1 = .error error ∧
      P (store.enact deeds).2.contents deed ∧ store.logSize < (store.enact deeds).2.logSize ∧
      { (store.enact deeds).2 with contents := deed.after }.Told (entries ++ more) := by
  induction deeds generalizing store entries with
  | nil =>
    refine .inl ⟨rfl, [], ?_⟩
    rw [List.append_nil]
    exact told
  | cons deed rest ih =>
    obtain _ | ⟨first, others⟩ := each
    have hmedium := accepts.medium_append deed.entry
    have haccepts := accepts.append deed.entry
    have hgrown : store.logSize < (store.journal.medium.append deed.entry.encode).2.size := by
      rw [Medium.size_append, LogEntry.length_encode]
      exact Nat.lt_add_of_pos_right (Nat.succ_pos _)
    rcases happend : store.journal.append deed.entry with ⟨error | offset, journal⟩ <;>
      rw [happend] at hmedium haccepts <;> simp only at hmedium haccepts
    · rw [enact_of_refused happend] at small ⊢
      refine .inr ⟨error, deed, [deed.entry], rfl, first, ?_, ?_⟩
      · rwa [logSize, logSize, hmedium]
      · exact told.logged (fits first) rfl hmedium small
    · rw [enact_of_written happend] at small ⊢
      have hdone : (store.done deed journal).journal.medium =
          (store.journal.medium.append deed.entry.encode).2 := by rw [journal_done, hmedium]
      have hsize : store.logSize < (store.done deed journal).logSize := by
        rwa [logSize, logSize, hdone]
      have hothers : Deed.Each P (store.done deed journal).contents rest := by
        rw [contents_done]
        exact others
      have hle : (store.done deed journal).logSize ≤ ((store.done deed journal).enact rest).2.logSize :=
        Law.logSize_le.enact hothers
      have htold := told.logged (fits first) (contents_done ..) hdone (Nat.lt_of_le_of_lt hle small)
      have hrest := ih htold (by rwa [journal_done]) hothers (by omega)
      simp only [List.append_assoc] at hrest
      rcases hrest with ⟨hok, more, hlast⟩ | ⟨error, failing, more, herror, hfailing, hlarger, hlast⟩
      · exact .inl ⟨hok, _, hlast⟩
      · exact .inr ⟨error, failing, _, herror, hfailing, Nat.lt_trans hsize hlarger, hlast⟩

end Store

end RecordBase
