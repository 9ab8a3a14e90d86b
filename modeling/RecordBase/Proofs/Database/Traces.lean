import RecordBase.Proofs.Database.Course
import RecordBase.Proofs.Store.Clusters
import RecordBase.Proofs.Store.Kept

/-!
# The log of a running database whose syncs may fail

Every deed that a run tries keeps contents in good order (`Store.covers_keeps`). So at every point of
a run, whatever the journal refuses and however its syncs fail, the entries of the log give contents
in good order that have all that the store holds (`Store.Traces`, `Traces.trail`).
-/

namespace RecordBase

/-! ## Valid numbers -/

namespace Contents

/-- A deed after which cluster ids are valid if they were before. -/
def Numbers (contents : Contents) (deed : Deed) : Prop := contents.Numbered → deed.after.Numbered

variable {before after contents : Contents} {deed : Deed}

theorem ListsNone.numbers (h : contents.ListsNone deed) : contents.Numbers deed := by
  intro numbered id listing hlisted
  rw [h.clusters] at hlisted
  exact numbered hlisted

theorem Numbered.insert (numbered : before.Numbered) {id : Int16} {listing : Listing}
    (hid : 0 ≤ id) (hafter : after.clusters = before.clusters.insert id listing) :
    after.Numbered := by
  intro other found h
  rw [hafter, Table.get?_insert] at h
  split at h
  · rename_i he
    exact he ▸ hid
  · exact numbered h

/-- What advances puts no slot at a negative position. -/
theorem Advances.placed (sound : before.Sound) (advances : before.Advances after)
    (placed : before.Placed) : after.Placed := by
  intro home position slot h
  by_cases hlt : position.toInt < before.next home
  · have hlater := advances.slots hlt
    cases hold : before.slot? home position with
    | none =>
      rw [hold, h] at hlater
      cases hlater.eq_none
    | some old => exact placed hold
  · have := sound.start home
    rw [Int64.le_iff_toInt_le]
    show (0 : Int) ≤ position.toInt
    omega

theorem Proceeds.keeps (sound : contents.Sound) (placed : contents.Placed)
    (proceeds : contents.Proceeds deed) (numbers : contents.Numbers deed) : contents.Keeps deed where
  fits := proceeds.fits
  numbered := numbers
  placed {place slot} hentry := by
    have hafter : deed.after.Placed := proceeds.advances.placed sound placed
    cases proceeds.fits with
    | put tally admits owner =>
      cases hentry
      exact hafter ((slot?_putSlot _ (sound.housed admits.listed) _ _ _ _).trans
        (if_pos ⟨rfl, rfl⟩))
    | announce listed free owner =>
      cases hentry
      exact hafter ((slot?_putSlot _ (sound.housed listed) _ _ _ _).trans (if_pos ⟨rfl, rfl⟩))
    | free | listPhysical | listLogical | bind | unbind => cases hentry

end Contents

/-- Deeds of an operation keep contents in good order, one after another. -/
theorem Deed.Each.keeps {contents : Contents} {deeds : List Deed} (sound : contents.Sound)
    (placed : contents.Placed)
    (each : Deed.Each (fun contents deed => contents.Proceeds deed ∧ contents.Numbers deed)
      contents deeds) : Deed.Each Contents.Keeps contents deeds := by
  induction each with
  | nil contents => exact .nil contents
  | cons first _ ih =>
    obtain ⟨proceeds, numbers⟩ := first
    exact .cons (proceeds.keeps sound placed numbers)
      (ih (proceeds.fits.sound sound) (proceeds.advances.placed sound placed))

theorem Plan.Each.keeps {α : Type} {contents : Contents} {plan : Plan α} (sound : contents.Sound)
    (placed : contents.Placed) (proceeds : plan.Each Contents.Proceeds contents)
    (numbers : plan.Each Contents.Numbers contents) : plan.Each Contents.Keeps contents := by
  cases proceeds.and numbers with
  | refuse error => exact .refuse error
  | act answer each => exact .act answer (each.keeps sound placed)

namespace Store

variable {store : Store}

theorem nonneg_of_nextClusterId (numbered : store.contents.Numbered) {id : Int16}
    (h : store.nextClusterId = .ok id) : 0 ≤ id := by
  unfold nextClusterId at h
  split at h
  · cases h
    exact Int16.le_refl 0
  · rename_i last listing hlast
    split at h
    · cases h
    · rename_i hmax
      cases h
      have hlisted : store.contents.clusters.get? last = some listing :=
        Table.mem_entries_iff.1 (List.mem_of_getLast? hlast)
      have hge := Int16.le_iff_toInt_le.1 (numbered hlisted)
      have hne : last.toInt ≠ 32767 := fun he => hmax (Int16.toInt_inj.1 he)
      have hlt := last.toInt_lt
      rw [Int16.le_iff_toInt_le, Int16.toInt_add]
      simp only [Int16.toInt_zero, Int16.toInt_one, Int.bmod] at hge ⊢
      omega

-- What a plan does never depends on how a name is made normal.
attribute [local irreducible] normalName

theorem addPhysicalPlan_numbers (store : Store) (name : String) (file : Option String)
    (size : Int32) :
    (store.addPhysicalPlan name file size).Each Contents.Numbers store.contents := by
  rcases store.addPhysicalPlan_listing name file size with ⟨error, hplan⟩ |
    ⟨id, normal, -, -, hid, hplan⟩
  · rw [hplan]
    exact .refuse error
  · rw [hplan]
    exact .one (fun numbered => numbered.insert (nonneg_of_nextClusterId numbered hid) rfl) _

theorem addLogicalPlan_numbers (store : Store) (name : String) (container : Int32) :
    (store.addLogicalPlan name container).Each Contents.Numbers store.contents := by
  rcases store.addLogicalPlan_listing name container with ⟨error, hplan⟩ |
    ⟨listing, id, normal, position, announced, -, hplan, rfl, hact⟩
  · rw [hplan]
    exact .refuse error
  · rw [hact]
    exact .act _ (.cons (fun numbered => numbered) (.cons (fun numbered =>
      numbered.insert (nonneg_of_nextClusterId numbered (checks_of_logicalPlan hplan).2) rfl) (.nil _)))

/-- What puts a record back puts it where it was. -/
theorem compensatePlan_at (store : Store) (id : RecordId) (written : Option Int32)
    (previous : Option Record) :
    (store.compensatePlan id written previous).Each
      (fun _ deed => ∀ place slot, deed.entry = .recordPut place slot → place.position = id.position)
      store.contents := by
  unfold compensatePlan
  split
  · exact .refuse _
  · split
    · exact .act _ (.nil _)
    · split
      · exact .one (by rintro _ _ ⟨⟩; rfl) _
      · exact .one (by rintro _ _ ⟨⟩) _

end Store

/-- All deeds of a run keep contents in good order. -/
theorem Store.covers_keeps :
    Store.Covers Contents.Keeps Contents.Placed fun undo => (0 : Int64) ≤ undo.id.position where
  advances sound _ advances placed := advances.placed sound placed
  operation sound placed h :=
    (Operation.plan?_proceeds sound h).keeps sound placed
      (Operation.plan?_each_of_listings sound (fun none _ => none.numbers)
        (addPhysicalPlan_numbers _) (addLogicalPlan_numbers _) h)
  entry {store} batch entry sound placed :=
    (Batch.plan_proceeds sound batch entry).keeps sound placed
      ((Batch.plan_listsNone store batch entry).mono (·.numbers))
  noted {contents undo listing old new} sound placed wrote := by
    cases old with
    | some slot => exact placed wrote.was
    | none =>
      have := sound.start listing.home
      have := wrote.fresh rfl
      rw [Int64.le_iff_toInt_le]
      show (0 : Int) ≤ undo.id.position.toInt
      omega
  undone {store start undo undos} sound pending safe := by
    have fits := (Batch.undoOne_of_pending sound pending).1
    have none := store.compensatePlan_listsNone undo.id undo.written undo.previous
    have at_ := store.compensatePlan_at undo.id undo.written undo.previous
    exact ((fits.and none).and at_).mono fun ⟨⟨fits, none⟩, at_⟩ =>
      ⟨fits, none.numbers, fun hentry => at_ _ _ hentry ▸ safe⟩

/-! ## The log -/

/-- Whatever the first of some entries give is in good order. -/
def Log.Orderly (entries : List LogEntry) : Prop :=
  ∀ front, front <+: entries →
    ∃ contents, ({} : Contents).applyAll front = .ok contents ∧ contents.Kept

theorem Log.Orderly.empty : Log.Orderly [] := by
  intro front hfront
  cases List.prefix_nil.1 hfront
  exact ⟨_, rfl, .empty⟩

theorem Log.Orderly.mono {front entries : List LogEntry} (orderly : Log.Orderly entries)
    (h : front <+: entries) : Log.Orderly front := fun shorter hshorter =>
  orderly shorter (hshorter.trans h)

/-- Every one of some entries is that of a deed with a property. -/
def Log.Tells (P : Contents → Deed → Prop) (entries : List LogEntry) : Prop :=
  ∀ entry ∈ entries, ∃ contents deed, P contents deed ∧ deed.entry = entry

theorem Log.Tells.append {P : Contents → Deed → Prop} {front back : List LogEntry}
    (h₁ : Log.Tells P front) (h₂ : Log.Tells P back) : Log.Tells P (front ++ back) := fun entry h =>
  (List.mem_append.1 h).elim (h₁ entry) (h₂ entry)

namespace Store

/-- The log of a store is that of some entries, whose fronts all give contents in good order, as are
those of the store, and all of them give what the store holds and perhaps more. -/
structure Traces (store : Store) (entries : List LogEntry) : Prop where
  small : ∀ entry ∈ entries, entry.Small
  holds : store.journal.medium.Holds (Log.bytes entries)
  orderly : Log.Orderly entries
  kept : store.contents.Kept
  within : ∃ replayed, ({} : Contents).applyAll entries = .ok replayed ∧
    store.contents.Within replayed

variable {a b : Store} {entries : List LogEntry} {course : List Store}

theorem Traces.still (traces : a.Traces entries) (h : a.Still b) : b.Traces entries where
  small := traces.small
  holds := by
    rw [h.medium]
    exact traces.holds
  orderly := traces.orderly
  kept := by
    rw [h.contents]
    exact traces.kept
  within := by
    rw [h.contents]
    exact traces.within

/-- A deed whose entry is in the log, and whose change may have been made. -/
theorem Traces.appended (traces : a.Traces entries) {deed : Deed} (keeps : a.contents.Keeps deed)
    (contents : b.contents = a.contents ∨ b.contents = deed.after)
    (medium : b.journal.medium = (a.journal.medium.append deed.entry.encode).2)
    (small : b.logSize < a.logSize + 2 ^ 32) : b.Traces (entries ++ [deed.entry]) := by
  obtain ⟨replayed, hreplayed, within⟩ := traces.within
  obtain ⟨_, happly, hkept⟩ := traces.orderly entries List.prefix_rfl
  rw [hreplayed] at happly
  cases happly
  obtain ⟨after, happly, hafter⟩ := hkept.apply (within.meets hkept traces.kept.numbered keeps)
  have hrebuilt : ({} : Contents).applyAll (entries ++ [deed.entry]) = .ok after := by
    rw [Contents.applyAll_append hreplayed, Contents.applyAll, happly]
    rfl
  have hphantom := within.phantom hkept.sound keeps.fits happly
  refine ⟨?_, ?_, ?_, ?_, after, hrebuilt, ?_⟩
  · intro entry hentry
    rcases List.mem_append.1 hentry with h | h
    · exact traces.small entry h
    · obtain rfl := List.mem_singleton.1 h
      rw [logSize, medium, Medium.size_append, logSize] at small
      rw [LogEntry.Small]
      omega
  · rw [medium, Log.bytes_append, Log.bytes_cons, Log.bytes_nil, List.append_nil]
    exact traces.holds.append _
  · intro front hfront
    rcases List.prefix_concat_iff.1 hfront with rfl | hfront
    · exact ⟨after, hrebuilt, hafter⟩
    · exact traces.orderly front hfront
  · rcases contents with h | h
    · exact h ▸ traces.kept
    · exact h ▸ keeps.kept traces.kept
  · rcases contents with h | h
    · exact h ▸ hphantom
    · exact h ▸ hphantom.done keeps.fits happly

/-- A step of a run, whatever the journal does. What it adds to the log are entries of deeds tried. -/
theorem Traces.stirs {P : Contents → Deed → Prop}
    (keeps : ∀ {contents deed}, P contents deed → contents.Keeps deed) (traces : a.Traces entries)
    (h : a.Stirs P b) (small : b.logSize < a.logSize + 2 ^ 32) :
    ∃ more, b.Traces (entries ++ more) ∧ Log.Tells P more := by
  have rests (h : a.Still b) : ∃ more, b.Traces (entries ++ more) ∧ Log.Tells P more := by
    refine ⟨[], ?_, by simp [Log.Tells]⟩
    rw [List.append_nil]
    exact traces.still h
  have told {deed : Deed} (tried : P a.contents deed) : Log.Tells P [deed.entry] := by
    intro entry hentry
    obtain rfl := List.mem_singleton.1 hentry
    exact ⟨_, deed, tried, rfl⟩
  rcases h with h | h
  · exact rests h.still
  · cases h with
    | @refused deed error journal tried append =>
      have hmedium := Journal.medium_append a.journal deed.entry
      rw [append] at hmedium
      rcases hmedium with ⟨-, hsame⟩ | hgrown
      · exact rests ⟨rfl, hsame⟩
      · exact ⟨_, traces.appended (keeps tried) (.inl rfl) hgrown small, told tried⟩
    | @written deed offset journal tried append =>
      refine ⟨_, traces.appended (keeps tried) (.inr (contents_done ..)) ?_ small, told tried⟩
      rw [journal_done]
      exact (Journal.append_ok append).1

/-- A run whose appends are all small. -/
theorem Traces.trail {P : Contents → Deed → Prop}
    (keeps : ∀ {contents deed}, P contents deed → contents.Keeps deed) (traces : a.Traces entries)
    (trail : Trail P a course b) (small : SmallAppends a.logSize course) :
    ∃ more, b.Traces (entries ++ more) ∧ Log.Tells P more := by
  induction trail generalizing entries with
  | nil store => exact ⟨[], by rwa [List.append_nil], by simp [Log.Tells]⟩
  | @idle a b c course idle _ ih =>
    have hsize : b.logSize = a.logSize := congrArg Medium.size idle.medium
    exact ih (traces.still idle.still) (hsize ▸ small)
  | cons first _ ih =>
    obtain ⟨hfirst, hrest⟩ := small
    obtain ⟨more, htraces, htold⟩ := traces.stirs keeps first hfirst
    obtain ⟨more', htraces', htold'⟩ := ih htraces hrest
    exact ⟨more ++ more', by rwa [← List.append_assoc], htold.append htold'⟩

/-- Whatever becomes of the log, contents stay in good order. -/
theorem Law.kept : Law Contents.Keeps fun a b => a.contents.Kept → b.contents.Kept where
  trans h₁ h₂ h := h₂ (h₁ h)
  idle h kept := by
    rw [h.contents]
    exact kept
  tries h kept := by
    cases h with
    | refused _ _ => exact kept
    | written keeps _ =>
      rw [contents_done]
      exact keeps.kept kept

end Store

end RecordBase
