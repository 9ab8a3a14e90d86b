import RecordBase.Proofs.Log.Replay
import RecordBase.Proofs.Store.Deed

/-!
# The log of a running store

While no sync fails, what a store holds and its log change together: an append that succeeds adds one
entry to the log and makes its change, and nothing else touches either (`Store.Moves`). So the stores
that a run passes (`Store.Path`) tell what is read back from the first bytes of its log: what was
held when the log had its last whole entry among these bytes (`Path.rebuilt`).
-/

namespace RecordBase

theorem Contents.Fits.listed {contents : Contents} {deed : Deed} (fits : contents.Fits deed)
    {id : Int16} {listing : Listing} (h : contents.clusters.get? id = some listing) :
    deed.after.clusters.get? id = some listing := by
  cases fits with
  | put | announce | free | bind | unbind => exact h
  | listPhysical fresh => exact (Contents.Advances.listWithContainer _ fresh).listed h
  | listLogical _ fresh => exact (Contents.Advances.list _ fresh).listed h

theorem Contents.applyAll_append {contents next : Contents} {front : List LogEntry}
    (h : contents.applyAll front = .ok next) (back : List LogEntry) :
    contents.applyAll (front ++ back) = next.applyAll back := by
  induction front generalizing contents with
  | nil =>
    cases h
    rfl
  | cons entry rest ih =>
    rw [applyAll] at h
    rw [List.cons_append, applyAll]
    split at h
    · exact ih h
    · cases h

namespace Store

/-! ## One append -/

/-- The length of a store's log. -/
def logSize (store : Store) : Nat := store.journal.medium.size

/-- What the store holds and its log are as they were. -/
structure Still (before after : Store) : Prop where
  contents : after.contents = before.contents
  medium : after.journal.medium = before.journal.medium

/-- What the store holds and its log are as they were, or a fitting deed was done and its entry is
the last one of the log. -/
inductive Moves (before after : Store) : Prop
  | still (h : before.Still after)
  | logged {deed : Deed} (fits : before.contents.Fits deed) (contents : after.contents = deed.after)
      (medium : after.journal.medium = (before.journal.medium.append deed.entry.encode).2)

theorem Still.refl (store : Store) : store.Still store := ⟨rfl, rfl⟩

theorem Still.trans {a b c : Store} (h₁ : a.Still b) (h₂ : b.Still c) : a.Still c :=
  ⟨h₂.contents.trans h₁.contents, h₂.medium.trans h₁.medium⟩

theorem Still.moves {a b c : Store} (h₁ : a.Still b) (h₂ : b.Moves c) : a.Moves c := by
  cases h₂ with
  | still h => exact .still (h₁.trans h)
  | logged fits contents medium =>
    rw [h₁.contents] at fits
    rw [h₁.medium] at medium
    exact .logged fits contents medium

variable {store before after : Store}

theorem Idle.still (h : before.Idle after) : before.Still after := ⟨h.contents, h.medium⟩

/-- A deed done. -/
theorem Moves.of_written {deed : Deed} (fits : before.contents.Fits deed) {offset : Nat}
    {journal : Journal} (append : before.journal.append deed.entry = (.ok offset, journal)) :
    before.Moves (before.done deed journal) := by
  refine .logged fits (contents_done ..) ?_
  rw [journal_done]
  exact (Journal.append_ok append).1

/-- A deed tried while no sync fails. -/
theorem Tries.moves (h : before.Tries Contents.Fits after) (syncs : before.journal.SyncsHold) :
    before.Moves after := by
  cases h with
  | refused fits append => exact .still ⟨rfl, (Journal.append_error syncs append).2.1⟩
  | written fits append => exact .of_written fits append

/-- Whatever happens, the journal keeps to its ways. -/
theorem Law.follows {P : Contents → Deed → Prop} :
    Law P fun a b => a.journal.Follows b.journal where
  trans h₁ h₂ := h₁.trans h₂
  idle h := h.follows
  tries {a b} h := by
    cases h with
    | @refused deed error journal _ append =>
      have := Journal.append_follows a.journal deed.entry
      rwa [append] at this
    | @written deed offset journal _ append =>
      have := Journal.append_follows a.journal deed.entry
      rw [append] at this
      rwa [journal_done]

/-- Whatever happens appends some entries to the log. -/
theorem Law.appends {P : Contents → Deed → Prop} :
    Law P fun a b => ∃ entries, b.journal.medium =
      (a.journal.medium.append (Log.bytes entries)).2 where
  trans h₁ h₂ := by
    obtain ⟨first, hfirst⟩ := h₁
    obtain ⟨more, hmore⟩ := h₂
    exact ⟨first ++ more, by rw [hmore, hfirst, Medium.append_append, Log.bytes_append]⟩
  idle h := ⟨[], by rw [h.medium, Log.bytes_nil, Medium.append_nil]⟩
  tries {a b} h := by
    have grown {deed : Deed} {medium : Medium}
        (hgrown : medium = (a.journal.medium.append deed.entry.encode).2) :
        ∃ entries, medium = (a.journal.medium.append (Log.bytes entries)).2 :=
      ⟨[deed.entry], by rw [hgrown, Log.bytes_cons, Log.bytes_nil, List.append_nil]⟩
    cases h with
    | @refused deed error journal _ append =>
      have hmedium := Journal.medium_append a.journal deed.entry
      rw [append] at hmedium
      rcases hmedium with ⟨-, hsame⟩ | hgrown
      · exact ⟨[], by rw [Log.bytes_nil, Medium.append_nil]; exact hsame⟩
      · exact grown hgrown
    | @written deed offset journal _ append =>
      rw [journal_done]
      exact grown (Journal.append_ok append).1

/-- Whatever happens, clusters stay listed. -/
theorem Law.listed (id : Int16) (listing : Listing) :
    Law Contents.Fits fun a b => a.contents.clusters.get? id = some listing →
      b.contents.clusters.get? id = some listing where
  trans h₁ h₂ h := h₂ (h₁ h)
  idle h hlisted := by rwa [h.contents]
  tries h hlisted := by
    cases h with
    | refused _ _ => exact hlisted
    | written fits _ =>
      rw [contents_done]
      exact fits.listed hlisted

end Store

/-- A plan of at most one deed. -/
inductive Plan.Single {α : Type} : Plan α → Prop
  | refuse (error : Error) : Single (.refuse error)
  | none (answer : α) : Single (.act [] answer)
  | one (deed : Deed) (answer : α) : Single (.act [deed] answer)

theorem Plan.Single.map {α β : Type} {plan : Plan α} (single : plan.Single) (f : α → β) :
    (plan.map f).Single := by
  cases single with
  | refuse error => exact .refuse error
  | none answer => exact .none (f answer)
  | one deed answer => exact .one deed (f answer)

namespace Store

variable {store : Store}

/-- What succeeds moves the store, whatever syncs do. -/
theorem moves_perform_of_ok {α : Type} {plan : Plan α} (single : plan.Single)
    (each : plan.Each Contents.Fits store.contents) {answer : α}
    (h : (store.perform plan).1 = .ok answer) : store.Moves (store.perform plan).2 := by
  cases single with
  | refuse error => cases h
  | none _ => exact .still (.refl store)
  | one deed answer =>
    obtain _ | ⟨_, _ | ⟨fits, -⟩⟩ := each
    rcases happend : store.journal.append deed.entry with ⟨error | offset, journal⟩
    · rw [perform_one_of_refused happend] at h
      cases h
    · rw [perform_one_of_written happend]
      exact .of_written fits happend

/-! ## Runs -/

/-- A run from one store to another that passes some stores, with at most one append from each
of them to the next and none after the last. -/
inductive Path : Store → List Store → Store → Prop
  | nil {a b : Store} (still : a.Still b) : Path a [] b
  | cons {a b c : Store} {course : List Store} (moves : a.Moves b) (rest : Path b course c) :
      Path a (b :: course) c

variable {a b c : Store} {course : List Store}

theorem Path.append {more : List Store} (h₁ : Path a course b) (h₂ : Path b more c) :
    Path a (course ++ more) c := by
  induction h₁ with
  | nil still =>
    cases h₂ with
    | nil still' => exact .nil (still.trans still')
    | cons moves rest => exact .cons (still.moves moves) rest
  | cons moves _ ih => exact .cons moves (ih h₂)

/-- What was held when the log had its last whole entry among its first `size` bytes: what the last
of the stores passed with so short a log held. -/
def heldAt (size : Nat) (held : Contents) : List Store → Contents
  | [] => held
  | store :: rest => heldAt size (if store.logSize ≤ size then store.contents else held) rest

/-- Every append on the way, of a run from a store with a log of `size` bytes, is of fewer than
`2 ^ 32` bytes. -/
def SmallAppends (size : Nat) : List Store → Prop
  | [] => True
  | store :: rest => store.logSize < size + 2 ^ 32 ∧ SmallAppends store.logSize rest

instance decidableSmallAppends : (size : Nat) → (course : List Store) →
    Decidable (SmallAppends size course)
  | _, [] => inferInstanceAs (Decidable True)
  | size, store :: rest =>
    have := decidableSmallAppends store.logSize rest
    inferInstanceAs (Decidable (store.logSize < size + 2 ^ 32 ∧ SmallAppends store.logSize rest))

theorem Moves.listed (moves : a.Moves b) {id : Int16} {listing : Listing}
    (h : a.contents.clusters.get? id = some listing) : b.contents.clusters.get? id = some listing := by
  cases moves with
  | still still => rwa [still.contents]
  | logged fits contents _ =>
    rw [contents]
    exact fits.listed h

/-- A cluster listed from the start is listed at every cut. -/
theorem Path.listed_heldAt (path : Path a course b) {id : Int16} {listing : Listing}
    (h : a.contents.clusters.get? id = some listing) {held : Contents}
    (hheld : held.clusters.get? id = some listing) (size : Nat) :
    (heldAt size held course).clusters.get? id = some listing := by
  induction path generalizing held with
  | nil _ => exact hheld
  | cons moves _ ih =>
    have hb := moves.listed h
    rw [heldAt]
    refine ih hb ?_
    split
    · exact hb
    · exact hheld

/-! ## The log read back -/

/-- The log of a store is that of some entries, and these give what the store holds. Whatever the
first of them give is in order, too. -/
structure Logs (store : Store) (entries : List LogEntry) : Prop where
  small : ∀ entry ∈ entries, entry.Small
  holds : store.journal.medium.Holds (Log.bytes entries)
  rebuilt : ({} : Contents).applyAll entries = .ok store.contents
  rooted : ∀ front contents, front <+: entries → ({} : Contents).applyAll front = .ok contents →
    contents.Rooted

variable {entries : List LogEntry}

theorem Logs.logSize_eq (logs : store.Logs entries) : store.logSize = (Log.bytes entries).length :=
  logs.holds.size_eq

theorem Logs.still (logs : a.Logs entries) (h : a.Still b) : b.Logs entries where
  small := logs.small
  holds := by
    rw [h.medium]
    exact logs.holds
  rebuilt := by
    rw [h.contents]
    exact logs.rebuilt
  rooted := logs.rooted

/-- A deed done adds its entry. -/
theorem Logs.logged (logs : a.Logs entries) {deed : Deed} (fits : a.contents.Fits deed)
    (contents : b.contents = deed.after)
    (medium : b.journal.medium = (a.journal.medium.append deed.entry.encode).2)
    (small : b.logSize < a.logSize + 2 ^ 32) :
    b.Logs (entries ++ [deed.entry]) ∧ b.logSize = a.logSize + deed.entry.encode.length := by
  have hbytes : Log.bytes (entries ++ [deed.entry]) = Log.bytes entries ++ deed.entry.encode := by
    rw [Log.bytes_append, Log.bytes_cons, Log.bytes_nil, List.append_nil]
  have hholds : b.journal.medium.Holds (Log.bytes (entries ++ [deed.entry])) := by
    rw [medium, hbytes]
    exact logs.holds.append _
  have hsize : b.logSize = a.logSize + deed.entry.encode.length := by
    rw [logSize, medium, Medium.size_append, logSize]
  have hrooted := logs.rooted entries a.contents (List.prefix_refl _) logs.rebuilt
  have hrebuilt : ({} : Contents).applyAll (entries ++ [deed.entry]) = .ok b.contents := by
    rw [Contents.applyAll_append logs.rebuilt, contents]
    simp only [Contents.applyAll, fits.apply hrooted]
  refine ⟨⟨fun entry hentry => ?_, hholds, ?_, fun front found hfront happly => ?_⟩, hsize⟩
  · rcases List.mem_append.1 hentry with h | h
    · exact logs.small entry h
    · obtain rfl := List.mem_singleton.1 h
      rw [LogEntry.Small]
      omega
  · exact hrebuilt
  · rcases List.prefix_concat_iff.1 hfront with rfl | hfront
    · rw [hrebuilt] at happly
      cases happly
      rw [contents]
      exact fits.rooted (Contents.Sound.empty.applyAll logs.rebuilt) hrooted
    · exact logs.rooted front found hfront happly

theorem Moves.logSize_le (moves : a.Moves b) : a.logSize ≤ b.logSize := by
  cases moves with
  | still h => exact Nat.le_of_eq (congrArg Medium.size h.medium).symm
  | logged _ _ medium =>
    rw [logSize, logSize, medium, Medium.size_append]
    exact Nat.le_add_right _ _

theorem Path.logSize_le (path : Path a course b) : a.logSize ≤ b.logSize := by
  induction path with
  | nil still => exact (Moves.still still).logSize_le
  | cons moves _ ih => exact Nat.le_trans moves.logSize_le ih

/-- No store passed after the log has grown beyond `size` counts. -/
theorem heldAt_of_lt (path : Path a course b) {size : Nat} (h : size < a.logSize)
    (held : Contents) : heldAt size held course = held := by
  induction path with
  | nil _ => rfl
  | cons moves _ ih =>
    have hlt := Nat.lt_of_lt_of_le h moves.logSize_le
    rw [heldAt, if_neg (Nat.not_le.2 hlt)]
    exact ih hlt

theorem heldAt_append (size : Nat) (held : Contents) (front back : List Store) :
    heldAt size held (front ++ back) = heldAt size (heldAt size held front) back := by
  induction front generalizing held with
  | nil => rfl
  | cons store rest ih => exact ih _

/-- At a cut behind the log of the last store, the last store counts. -/
theorem Path.heldAt_of_le (path : Path a course b) {size : Nat} (h : b.logSize ≤ size) :
    heldAt size a.contents course = b.contents := by
  induction path with
  | nil still => exact still.contents.symm
  | cons moves path ih =>
    rw [heldAt, if_pos (Nat.le_trans path.logSize_le h)]
    exact ih h

/-- Of the log of a store that a run led to, the entries within the first `size` bytes give what was
held when the log had the last of them. -/
theorem Path.rebuilt (path : Path a course b) (logs : a.Logs entries)
    (small : SmallAppends a.logSize course) :
    ∃ more, b.Logs (entries ++ more) ∧ ∀ size, a.logSize ≤ size →
      ({} : Contents).applyAll (Log.whole size (entries ++ more)) =
        .ok (heldAt size a.contents course) := by
  induction path generalizing entries with
  | nil still =>
    refine ⟨[], ?_, fun size hsize => ?_⟩
    · rw [List.append_nil]
      exact logs.still still
    · rw [List.append_nil, Log.whole_of_length_le (logs.logSize_eq ▸ hsize)]
      exact logs.rebuilt
  | @cons a b c course moves path ih =>
    obtain ⟨hfirst, hrest⟩ := small
    cases moves with
    | still h =>
      obtain ⟨more, hlogs, hrebuilt⟩ := ih (logs.still h) hrest
      refine ⟨more, hlogs, fun size hsize => ?_⟩
      have hb : b.logSize = a.logSize := congrArg Medium.size h.medium
      rw [heldAt, if_pos (hb ▸ hsize)]
      exact hrebuilt size (hb ▸ hsize)
    | @logged deed fits contents medium =>
      obtain ⟨hlogged, hgrown⟩ := logs.logged fits contents medium hfirst
      obtain ⟨more, hlogs, hrebuilt⟩ := ih hlogged hrest
      rw [List.append_assoc, List.singleton_append] at hlogs hrebuilt
      refine ⟨deed.entry :: more, hlogs, fun size hsize => ?_⟩
      rw [heldAt]
      split
      · rename_i hle
        exact hrebuilt size hle
      · -- The cut goes through this entry: nothing from here on is read back.
        rename_i hlt
        rw [heldAt_of_lt path (Nat.not_le.1 hlt), Log.whole_append (logs.logSize_eq ▸ hsize),
          Log.whole, if_neg, List.append_nil]
        · exact logs.rebuilt
        · rw [← logs.logSize_eq]
          omega

end Store

end RecordBase
