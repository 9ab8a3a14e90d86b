import RecordBase.Proofs.Store.Course

/-!
# The stores that a run passes, whatever its syncs do

An append whose sync fails leaves its entry in the log and the store as it was. So the stores that a
run passes are in general only known to be made one from another by deeds tried (`Store.Trail`).
Whatever holds of every deed tried holds from the first of them to the last (`Trail.of_law`), and
while no sync fails they are a path (`Trail.path`).
-/

namespace RecordBase

/-- Whatever the first of some entries give has a property together with them. -/
def Log.Carries (Q : List LogEntry → Contents → Prop) (entries : List LogEntry) : Prop :=
  ∀ front, front <+: entries →
    ∃ contents, ({} : Contents).applyAll front = .ok contents ∧ Q front contents

theorem Log.Carries.mono {Q : List LogEntry → Contents → Prop} {front entries : List LogEntry}
    (gives : Log.Carries Q entries) (h : front <+: entries) : Log.Carries Q front :=
  fun shorter hshorter => gives shorter (hshorter.trans h)

namespace Store

variable {P : Contents → Deed → Prop} {a b c store : Store} {course more : List Store}

/-- A step of a run: nothing is written, or a deed is tried. -/
inductive Stirs (P : Contents → Deed → Prop) (before after : Store) : Prop
  | idle (h : before.Idle after)
  | tries (h : before.Tries P after)

/-- A run from one store to another that passes some stores, of which each is made from the one before
by at most one deed tried; nothing is written after the last. -/
inductive Trail (P : Contents → Deed → Prop) : Store → List Store → Store → Prop
  | nil (store : Store) : Trail P store [] store
  | idle {a b c : Store} {course : List Store} (idle : a.Idle b) (rest : Trail P b course c) :
      Trail P a course c
  | cons {a b c : Store} {course : List Store} (first : a.Stirs P b) (rest : Trail P b course c) :
      Trail P a (b :: course) c

theorem Trail.one (h : a.Stirs P b) : Trail P a [b] b := .cons h (.nil b)

theorem Trail.append (h₁ : Trail P a course b) (h₂ : Trail P b more c) :
    Trail P a (course ++ more) c := by
  induction h₁ with
  | nil _ => exact h₂
  | idle idle _ ih => exact .idle idle (ih h₂)
  | cons first _ ih => exact .cons first (ih h₂)

theorem Trail.last (h₁ : Trail P a course b) (h₂ : b.Idle c) : Trail P a course c := by
  have := h₁.append (.idle h₂ (.nil c))
  rwa [List.append_nil] at this

theorem Law.stirs {Q : Store → Store → Prop} (law : Law P Q) (h : a.Stirs P b) : Q a b := by
  rcases h with h | h
  · exact law.idle h
  · exact law.tries h

/-- What holds of every deed tried holds of a run. -/
theorem Trail.of_law {Q : Store → Store → Prop} (law : Law P Q) (trail : Trail P a course b) :
    Q a b := by
  induction trail with
  | nil store => exact law.idle (.quiet (.refl store))
  | idle idle _ ih => exact law.trans (law.idle idle) ih
  | cons first _ ih => exact law.trans (law.stirs first) ih

theorem Stirs.moves (h : a.Stirs Contents.Fits b) (syncs : a.journal.SyncsHold) : a.Moves b := by
  rcases h with h | h
  · exact .still h.still
  · exact h.moves syncs

/-- While no sync fails, a trail of fitting deeds is a path. -/
theorem Trail.path (trail : Trail Contents.Fits a course b) (syncs : a.journal.SyncsHold) :
    Path a course b := by
  induction trail with
  | nil store => exact .nil (.refl store)
  | idle idle _ ih => exact (Path.nil idle.still).append (ih (idle.follows.syncsHold syncs))
  | cons first _ ih =>
    exact .cons (first.moves syncs) (ih ((Law.follows.stirs first).syncsHold syncs))

/-! ## What the log gives -/

/-- While no sync fails, the entries of the deeds that are tried give what the deeds do, and whatever
each deed keeps true of the log and what it gives stays true. -/
theorem Logs.trail {Q : List LogEntry → Contents → Prop}
    (fits : ∀ {contents deed}, P contents deed → contents.Fits deed)
    (keeps : ∀ {front contents deed}, P contents deed → contents.Sound → Q front contents →
      Q (front ++ [deed.entry]) deed.after)
    {entries : List LogEntry} (logs : a.Logs entries) (gives : Log.Carries Q entries)
    (syncs : a.journal.SyncsHold) (trail : Trail P a course b)
    (small : SmallAppends a.logSize course) :
    ∃ more, b.Logs (entries ++ more) ∧ Log.Carries Q (entries ++ more) := by
  induction trail generalizing entries with
  | nil store => exact ⟨[], by rwa [List.append_nil], by rwa [List.append_nil]⟩
  | @idle a b c course idle _ ih =>
    have hsize : b.logSize = a.logSize := congrArg Medium.size idle.medium
    exact ih (logs.still idle.still) gives (idle.follows.syncsHold syncs) (hsize ▸ small)
  | @cons a b c course first _ ih =>
    obtain ⟨hfirst, hrest⟩ := small
    have hsyncs := (Law.follows.stirs first).syncsHold syncs
    have still (h : a.Still b) : ∃ more, c.Logs (entries ++ more) ∧ Log.Carries Q (entries ++ more) :=
      ih (logs.still h) gives hsyncs hrest
    rcases first with idle | tried
    · exact still idle.still
    · cases tried with
      | refused tried append => exact still ⟨rfl, (Journal.append_error syncs append).2.1⟩
      | @written deed offset journal tried append =>
        have hmedium : (a.done deed journal).journal.medium =
            (a.journal.medium.append deed.entry.encode).2 := by
          rw [journal_done]
          exact (Journal.append_ok append).1
        obtain ⟨hlogged, -⟩ := logs.logged (fits tried) (contents_done ..) hmedium hfirst
        have hgives : Log.Carries Q (entries ++ [deed.entry]) := by
          intro front hfront
          rcases List.prefix_concat_iff.1 hfront with rfl | hfront
          · obtain ⟨held, happly, hq⟩ := gives entries List.prefix_rfl
            rw [logs.rebuilt] at happly
            cases happly
            have sound := Contents.Sound.empty.applyAll logs.rebuilt
            have hrebuilt := hlogged.rebuilt
            rw [contents_done] at hrebuilt
            exact ⟨_, hrebuilt, keeps tried sound hq⟩
          · exact gives front hfront
        obtain ⟨more, hlast, hmore⟩ := ih hlogged hgives hsyncs hrest
        exact ⟨deed.entry :: more, by simpa using hlast, by simpa using hmore⟩

/-! ## Carrying out plans -/

/-- Carrying out a plan of at most one deed is one step. -/
theorem stirs_perform {α : Type} {plan : Plan α} (single : plan.Single)
    (each : plan.Each P store.contents) : store.Stirs P (store.perform plan).2 := by
  cases single with
  | refuse error => exact .idle (.quiet (.ofStats store _))
  | none answer => exact .idle (.quiet (.refl store))
  | one deed answer =>
    obtain _ | ⟨-, _ | ⟨fits, -⟩⟩ := each
    rcases happend : store.journal.append deed.entry with ⟨error | offset, journal⟩
    · rw [perform_one_of_refused happend]
      exact .tries (.refused fits happend)
    · rw [perform_one_of_written happend]
      exact .tries (.written fits happend)

/-- Two deeds pass the store after the first one. -/
theorem trail_perform_two {α β : Type} {first second : Deed} {answer : α} {early : β}
    (each : (Plan.act [first, second] answer).Each P store.contents) :
    Trail P store
      [(store.perform (.act [first] early)).2, (store.perform (.act [first, second] answer)).2]
      (store.perform (.act [first, second] answer)).2 := by
  obtain _ | ⟨-, _ | ⟨fits, _ | ⟨fits', -⟩⟩⟩ := each
  refine .cons (stirs_perform (.one first early) (.one fits early)) (.one ?_)
  rcases happend : store.journal.append first.entry with ⟨error | offset, journal⟩
  · rw [perform_one_of_refused happend, perform, enact_of_refused happend]
    exact .idle (.quiet (.refl _))
  · rw [perform_one_of_written happend, perform, enact_of_written happend]
    have hcontents : (store.done first journal).contents = first.after := contents_done ..
    exact stirs_perform (.one second answer) (.one (hcontents ▸ fits') answer)

end Store

end RecordBase
