import RecordBase.Proofs.Store.Coherence

/-!
# An opened store

Opening a store applies the entries of its log and then, if they list no cluster, adds the first
clusters. Whatever the log holds, what comes out is sound and its cache coherent
(`Store.sound_coherent_ofJournal`).
-/

namespace RecordBase

namespace Store

variable {store : Store} {settings : Settings} {victims : Nat → Nat} {journal : Journal}

/-- What holds of every deed tried holds of adding first clusters, if it is such deeds that add them. -/
theorem addInitial_of_each {P : Contents → Deed → Prop} {Q : Store → Store → Prop} (law : Law P Q)
    (each : ∀ (store : Store) (name : String),
      (store.addPhysicalPlan name none (-1)).Each P store.contents)
    (store : Store) (names : List String) : Q store (store.addInitial names).2 := by
  induction names generalizing store with
  | nil => exact law.idle (.quiet (.refl store))
  | cons name rest ih =>
    have hadd : Q store (store.addPhysical name none (-1)).2 := by
      rw [addPhysical_eq]
      exact law.perform (each store name)
    rw [addInitial_cons]
    split <;> rename_i h <;> rw [h] at hadd
    · exact hadd
    · exact law.trans hadd (ih _)

theorem addInitial_of_law {Q : Store → Store → Prop} (law : Law Contents.Fits Q) (store : Store)
    (names : List String) : Q store (store.addInitial names).2 :=
  addInitial_of_each law
    (fun store name => (addPhysicalPlan_proceeds store name none (-1)).mono (·.fits)) store names

/-- An opened store has added the first clusters, or none, to what its log gave. -/
theorem ofJournal_cases {after : Journal}
    (h : ofJournal settings victims journal = (.ok store, after)) :
    ∃ entries replayed contents, journal.replay = .ok (entries, replayed) ∧
      ({} : Contents).applyAll entries = .ok contents ∧ store.journal = after ∧
      (contents.clusters.size ≠ 0 ∧ store = ofContents settings victims replayed contents ∨
        contents.clusters.size = 0 ∧
          (ofContents settings victims replayed contents).addInitial settings.initialClusters =
            (.ok (), store)) := by
  unfold ofJournal at h
  split at h
  · cases h
  · rename_i entries replayed hreplay
    split at h
    · cases h
    · rename_i contents happly
      refine ⟨entries, replayed, contents, hreplay, happly, ?_⟩
      simp only at h
      split at h
      · rename_i hsize
        cases h
        exact ⟨rfl, .inl ⟨hsize, rfl⟩⟩
      · rename_i hsize
        split at h
        · cases h
        · rename_i hadd
          cases h
          exact ⟨rfl, .inr ⟨Decidable.not_not.1 hsize, hadd⟩⟩

theorem coherent_ofContents (settings : Settings) (victims : Nat → Nat) (journal : Journal)
    (contents : Contents) : (ofContents settings victims journal contents).Coherent := by
  intro cache hcache
  simp only [ofContents, Option.mem_def] at hcache
  split at hcache
  · cases hcache
    exact .of_entries_empty _ rfl
  · cases hcache

theorem sound_coherent_ofJournal {after : Journal}
    (h : ofJournal settings victims journal = (.ok store, after)) :
    store.contents.Sound ∧ store.Coherent := by
  obtain ⟨entries, replayed, contents, -, happly, -, hopen⟩ := ofJournal_cases h
  have hsound := Contents.Sound.empty.applyAll happly
  have hcoherent := coherent_ofContents settings victims replayed contents
  rcases hopen with ⟨-, rfl⟩ | ⟨-, hadd⟩
  · exact ⟨hsound, hcoherent⟩
  · have hkept := addInitial_of_law Law.coherent (ofContents settings victims replayed contents)
      settings.initialClusters hsound
    rw [hadd] at hkept
    exact ⟨hkept.1, hkept.2 hcoherent⟩

end Store

end RecordBase
