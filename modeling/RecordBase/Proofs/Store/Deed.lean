import RecordBase.Proofs.Log.Journal
import RecordBase.Proofs.Store.Advance
import RecordBase.Proofs.Store.Plan

/-!
# Deeds in order

A deed fits the contents it meets (`Contents.Fits`) if it writes where its cluster may write, or
lists a cluster under a free id. Such a deed keeps the contents sound (`Fits.sound`), its entry of
the log says what it does (`Fits.apply`), and what it notes for the cache is what it does to the
records (`Fits.tells`).

What holds whenever such a deed is tried, whether the journal takes its entry or not, and whenever
nothing is written holds of whatever is made of these (`Store.Law`): of a plan (`Law.perform`) and, in
the modules that follow, of a rollback and of any run.
-/

namespace RecordBase

/-! ## Fitting deeds -/

/-- Whether a note for the cache tells what became of the records. -/
def CacheNote.Tells (note : CacheNote) (before after : Contents) : Prop :=
  match note with
  | .keep => ∀ id record, before.record? id = some record → after.record? id = some record
  | .put record => ∀ id, after.record? id = if id = record.id then some record else before.record? id
  | .erase gone => ∀ id, after.record? id = if id = gone then none else before.record? id

namespace Contents

/-- What the log of a store gives beyond being sound: the records of a logical cluster are kept where
those of its container are, and every record has a cluster. -/
structure Rooted (contents : Contents) : Prop where
  storage : ∀ {id listing}, contents.clusters.get? id = some listing →
    ∃ root, contents.clusters.get? listing.cluster.storage = some root ∧ root.home = listing.home
  owned : ∀ {home position slot}, contents.slot? home position = some slot →
    ∃ listing, contents.clusters.get? slot.owner = some listing

theorem Rooted.empty : ({} : Contents).Rooted where
  storage h := by cases h
  owned h := by cases h

/-- A deed that is in order for the contents it meets. -/
inductive Fits (contents : Contents) : Deed → Prop
  | put (tally : Stats → Stats) {listing : Listing} {position : Int64} {slot : Slot}
      (admits : contents.Admits listing position) (owner : slot.owner = listing.cluster.id) :
      Fits contents (.put contents listing position slot
        (.put (slot.record ⟨listing.cluster.id, position⟩)) tally)
  | announce {listing : Listing} {position : Int64} {slot : Slot}
      (listed : contents.clusters.get? listing.cluster.id = some listing)
      (free : contents.slot? listing.home position = none)
      (owner : slot.owner = listing.cluster.id) :
      Fits contents (.put contents listing position slot)
  | free (tally : Stats → Stats) {listing : Listing} {position : Int64}
      (admits : contents.Admits listing position) :
      Fits contents (.free contents listing position (.erase ⟨listing.cluster.id, position⟩) tally)
  | listPhysical {id : Int16} {name : String} {file : Option String} {size : Int32}
      (fresh : contents.clusters.get? id = none) :
      Fits contents (.listPhysical contents ⟨id, name, .physical file size⟩)
  | listLogical {id : Int16} {name : String} {container : Int16} {descriptor : RecordId}
      {listing : Listing} (listed : contents.clusters.get? container = some listing)
      (fresh : contents.clusters.get? id = none) :
      Fits contents (.listLogical contents ⟨id, name, .logical container descriptor⟩ listing.home)
  | bind {key : String} {id : RecordId} : Fits contents (.bind contents key id)
  | unbind {key : String} : Fits contents (.unbind contents key)

/-- What an operation does: it fits and advances the contents. -/
structure Proceeds (contents : Contents) (deed : Deed) : Prop where
  fits : contents.Fits deed
  advances : contents.Advances deed.after

variable {contents : Contents} {deed : Deed}

theorem Admits.of_free {listing : Listing} {position : Int64}
    (listed : contents.clusters.get? listing.cluster.id = some listing)
    (free : contents.slot? listing.home position = none) : contents.Admits listing position where
  listed := listed
  own h := by
    rw [free] at h
    cases h

theorem Fits.sound (sound : contents.Sound) (fits : contents.Fits deed) : deed.after.Sound := by
  cases fits with
  | put tally admits _ => exact sound.putSlot (sound.housed admits.listed) _ _
  | announce listed _ _ => exact sound.putSlot (sound.housed listed) _ _
  | free tally admits => exact sound.removeSlot (sound.housed admits.listed) _
  | listPhysical _ => exact sound.listWithContainer _
  | listLogical listed _ => exact sound.list _ (sound.housed listed)
  | bind => exact ⟨sound.keyed, sound.housed, sound.start, sound.below⟩
  | unbind => exact ⟨sound.keyed, sound.housed, sound.start, sound.below⟩

/-- A new cluster keeps the others where they are. -/
theorem Rooted.insert (rooted : contents.Rooted) {id : Int16} {listing : Listing} {after : Contents}
    (fresh : contents.clusters.get? id = none)
    (hafter : after.clusters = contents.clusters.insert id listing)
    (hslots : ∀ home position, after.slot? home position = contents.slot? home position)
    (root : ∃ root, after.clusters.get? listing.cluster.storage = some root ∧
      root.home = listing.home) : after.Rooted := by
  have kept : ∀ {other found}, contents.clusters.get? other = some found →
      after.clusters.get? other = some found := by
    intro other found h
    rw [hafter, Table.get?_insert, if_neg]
    · exact h
    · rintro rfl
      rw [fresh] at h
      cases h
  refine ⟨fun {other found} h => ?_, fun {home position slot} h => ?_⟩
  · rw [hafter, Table.get?_insert] at h
    split at h
    · cases h
      exact root
    · obtain ⟨root, hroot, hhome⟩ := rooted.storage h
      exact ⟨root, kept hroot, hhome⟩
  · rw [hslots] at h
    obtain ⟨found, hfound⟩ := rooted.owned h
    exact ⟨found, kept hfound⟩

/-- A slot of a listed cluster. -/
theorem Rooted.putSlot (rooted : contents.Rooted) {listing : Listing} {slot : Slot}
    (listed : contents.clusters.get? listing.cluster.id = some listing)
    (hhome : listing.home < contents.containers.length) (position : Int64)
    (owner : slot.owner = listing.cluster.id) :
    (contents.putSlot listing.home position slot).Rooted where
  storage h := rooted.storage h
  owned h := by
    rw [slot?_putSlot _ hhome] at h
    split at h
    · cases h
      exact ⟨listing, owner ▸ listed⟩
    · exact rooted.owned h

theorem Fits.rooted (sound : contents.Sound) (rooted : contents.Rooted) (fits : contents.Fits deed) :
    deed.after.Rooted := by
  cases fits with
  | put tally admits owner =>
    exact rooted.putSlot admits.listed (sound.housed admits.listed) _ owner
  | announce listed _ owner => exact rooted.putSlot listed (sound.housed listed) _ owner
  | free tally admits =>
    refine ⟨rooted.storage, fun {home position slot} h => ?_⟩
    simp only [Deed.free] at h
    rw [slot?_removeSlot _ (sound.housed admits.listed)] at h
    split at h
    · cases h
    · exact rooted.owned h
  | bind | unbind => exact ⟨rooted.storage, rooted.owned⟩
  | @listPhysical id name file size fresh =>
    refine rooted.insert fresh rfl (slot?_listWithContainer contents _)
      ⟨⟨⟨id, name, .physical file size⟩, contents.containers.length⟩, ?_, rfl⟩
    exact Table.get?_insert_self _ _ _
  | @listLogical id name container descriptor listing listed fresh =>
    refine rooted.insert fresh rfl (fun _ _ => rfl) ⟨listing, ?_, rfl⟩
    show (contents.clusters.insert id _).get? container = some listing
    rw [Table.get?_insert, if_neg]
    · exact listed
    · intro he
      rw [he, fresh] at listed
      cases listed

/-- The entry of a fitting deed says what the deed does. -/
theorem Fits.apply (rooted : contents.Rooted) (fits : contents.Fits deed) :
    contents.apply deed.entry = .ok deed.after := by
  cases fits with
  | put tally admits _ =>
    obtain ⟨root, hroot, hhome⟩ := rooted.storage admits.listed
    simp only [Deed.put, Contents.apply, hroot, hhome]
  | announce listed _ _ =>
    obtain ⟨root, hroot, hhome⟩ := rooted.storage listed
    simp only [Deed.put, Contents.apply, hroot, hhome]
  | free tally admits =>
    obtain ⟨root, hroot, hhome⟩ := rooted.storage admits.listed
    simp only [Deed.free, Contents.apply, hroot, hhome]
  | listPhysical _ => rfl
  | listLogical listed _ => simp only [Deed.listLogical, Contents.apply, addCluster, listed]
  | bind => rfl
  | unbind => rfl

/-- What a fitting deed notes for the cache is what becomes of the records. -/
theorem Fits.tells (sound : contents.Sound) (fits : contents.Fits deed) :
    deed.note.Tells contents deed.after := by
  cases fits with
  | put tally admits owner => exact fun id => record?_putSlot sound admits owner id
  | @announce listing position slot listed free owner =>
    intro id record h
    have he : id ≠ ⟨listing.cluster.id, position⟩ := by
      rintro rfl
      rw [record?_of_keyed sound listed, free] at h
      cases h
    refine (record?_putSlot sound (.of_free listed free) owner id).trans ?_
    rw [if_neg he]
    exact h
  | free tally admits => exact fun id => record?_removeSlot sound admits id
  | listPhysical fresh =>
    exact fun id record => record?_of_listed_before sound (Advances.listWithContainer _ fresh).listed
      (slot?_listWithContainer contents _)
  | listLogical listed fresh =>
    exact fun id record => record?_of_listed_before sound (Advances.list _ fresh).listed
      fun _ _ => rfl
  | bind => exact fun _ _ h => h
  | unbind => exact fun _ _ h => h

end Contents

/-! ## Deeds one after another -/

/-- Every deed has a property at the contents that the deeds before it leave. -/
inductive Deed.Each (P : Contents → Deed → Prop) : Contents → List Deed → Prop
  | nil (contents : Contents) : Each P contents []
  | cons {contents : Contents} {deed : Deed} {rest : List Deed} (first : P contents deed)
      (others : Each P deed.after rest) : Each P contents (deed :: rest)

/-- Every deed of a plan has a property at the contents it meets. -/
inductive Plan.Each {α : Type} (P : Contents → Deed → Prop) (contents : Contents) : Plan α → Prop
  | refuse (error : Error) : Each P contents (.refuse error)
  | act {deeds : List Deed} (answer : α) (each : Deed.Each P contents deeds) :
      Each P contents (.act deeds answer)

section Each

variable {α β : Type} {P Q : Contents → Deed → Prop} {contents : Contents}

theorem Deed.Each.mono (h : ∀ {contents deed}, P contents deed → Q contents deed)
    {deeds : List Deed} (each : Deed.Each P contents deeds) : Deed.Each Q contents deeds := by
  induction each with
  | nil contents => exact .nil contents
  | cons first _ ih => exact .cons (h first) ih

theorem Plan.Each.mono (h : ∀ {contents deed}, P contents deed → Q contents deed) {plan : Plan α}
    (each : plan.Each P contents) : plan.Each Q contents := by
  cases each with
  | refuse error => exact .refuse error
  | act answer each => exact .act answer (each.mono h)

theorem Deed.Each.and {deeds : List Deed} (first : Deed.Each P contents deeds)
    (second : Deed.Each Q contents deeds) :
    Deed.Each (fun contents deed => P contents deed ∧ Q contents deed) contents deeds := by
  induction first with
  | nil contents => exact .nil contents
  | cons h _ ih =>
    obtain _ | ⟨h', others⟩ := second
    exact .cons ⟨h, h'⟩ (ih others)

theorem Plan.Each.and {plan : Plan α} (first : plan.Each P contents) (second : plan.Each Q contents) :
    plan.Each (fun contents deed => P contents deed ∧ Q contents deed) contents := by
  cases first with
  | refuse error => exact .refuse error
  | act answer each =>
    obtain _ | ⟨-, each'⟩ := second
    exact .act answer (each.and each')

theorem Plan.Each.map {plan : Plan α} (each : plan.Each P contents) (f : α → β) :
    (plan.map f).Each P contents := by
  cases each with
  | refuse error => exact .refuse error
  | act answer each => exact .act (f answer) each

theorem Plan.Each.of_map {plan : Plan α} {f : α → β} (each : (plan.map f).Each P contents) :
    plan.Each P contents := by
  cases plan with
  | refuse error => exact .refuse error
  | act deeds answer =>
    obtain _ | ⟨-, each⟩ := each
    exact .act answer each

/-- A plan of one deed. -/
theorem Plan.Each.one {deed : Deed} (first : P contents deed) (answer : α) :
    (Plan.act [deed] answer).Each P contents := .act answer (.cons first (.nil _))

theorem Plan.Each.first {deed : Deed} {answer : α} (each : (Plan.act [deed] answer).Each P contents) :
    P contents deed := by
  cases each with
  | act _ each =>
    cases each with
    | cons first _ => exact first

end Each

namespace Store

/-- What an operation that writes nothing may do to the cache. -/
inductive Refreshes (contents : Contents) (cache : Option Cache) : Option Cache → Prop
  | same : Refreshes contents cache cache
  | noted {record : Record} (stored : contents.record? record.id = some record) :
      Refreshes contents cache (cache.map (·.insert record.key record))
  | cleared : Refreshes contents cache (cache.map (·.clear))

/-- A look at the store: only the cache and the counters may change. -/
structure Quiet (before after : Store) : Prop where
  contents : after.contents = before.contents
  journal : after.journal = before.journal
  defaultCluster : after.defaultCluster = before.defaultCluster
  cache : Refreshes before.contents before.cache after.cache

/-- An operation that writes nothing looks at the store or makes its journal durable. -/
inductive Idle (before : Store) : Store → Prop
  | quiet {after : Store} (h : before.Quiet after) : Idle before after
  | synced : Idle before before.sync.2

theorem Quiet.refl (store : Store) : store.Quiet store := ⟨rfl, rfl, rfl, .same⟩

theorem Quiet.ofStats (store : Store) (stats : Stats) : store.Quiet { store with stats } :=
  ⟨rfl, rfl, rfl, .same⟩

namespace Idle

variable {before after : Store}

theorem contents (h : before.Idle after) : after.contents = before.contents := by
  cases h with
  | quiet h => exact h.contents
  | synced => rfl

theorem defaultCluster (h : before.Idle after) : after.defaultCluster = before.defaultCluster := by
  cases h with
  | quiet h => exact h.defaultCluster
  | synced => rfl

theorem medium (h : before.Idle after) : after.journal.medium = before.journal.medium := by
  cases h with
  | quiet h => rw [h.journal]
  | synced => rfl

theorem refusals (h : before.Idle after) : after.journal.refusals = before.journal.refusals := by
  cases h with
  | quiet h => rw [h.journal]
  | synced => rfl

theorem follows (h : before.Idle after) : before.journal.Follows after.journal := by
  cases h with
  | quiet h =>
    rw [h.journal]
    exact .refl _
  | synced => exact Journal.sync_follows before.journal

theorem cache (h : before.Idle after) : Refreshes before.contents before.cache after.cache := by
  cases h with
  | quiet h => exact h.cache
  | synced => exact .same

end Idle

/-- What happens to a store when a deed is tried: its journal refuses the entry, or it is done. -/
inductive Tries (P : Contents → Deed → Prop) (before : Store) : Store → Prop
  | refused {deed : Deed} {error : Error} {journal : Journal} (fits : P before.contents deed)
      (append : before.journal.append deed.entry = (.error error, journal)) :
      Tries P before { before with journal }
  | written {deed : Deed} {offset : Nat} {journal : Journal} (fits : P before.contents deed)
      (append : before.journal.append deed.entry = (.ok offset, journal)) :
      Tries P before (before.done deed journal)

/-- A relation between a store and what becomes of it that holds whenever nothing is written and
whenever a deed is tried, and so of all that is made of these. -/
structure Law (P : Contents → Deed → Prop) (Q : Store → Store → Prop) : Prop where
  trans : ∀ {a b c}, Q a b → Q b c → Q a c
  idle : ∀ {a b}, a.Idle b → Q a b
  tries : ∀ {a b}, a.Tries P b → Q a b

variable {P : Contents → Deed → Prop} {Q : Store → Store → Prop} {store : Store}

theorem Law.trivial : Law P fun _ _ => True where
  trans _ _ := True.intro
  idle _ := True.intro
  tries _ := True.intro

theorem Law.weaken {P' : Contents → Deed → Prop} (h : ∀ {contents deed}, P' contents deed →
    P contents deed) (law : Law P Q) : Law P' Q where
  trans := law.trans
  idle := law.idle
  tries tried := by
    cases tried with
    | refused fits append => exact law.tries (.refused (h fits) append)
    | written fits append => exact law.tries (.written (h fits) append)

/-- What every deed keeps true of sound contents stays true, whatever happens to a store. -/
theorem Law.invariant {I : Contents → Prop}
    (fits : ∀ {contents deed}, P contents deed → contents.Fits deed)
    (keeps : ∀ {contents deed}, P contents deed → contents.Sound → I contents → I deed.after) :
    Law P fun a b => a.contents.Sound → b.contents.Sound ∧ (I a.contents → I b.contents) where
  trans h₁ h₂ sound := by
    obtain ⟨sound', hkeeps⟩ := h₁ sound
    obtain ⟨sound'', hkeeps'⟩ := h₂ sound'
    exact ⟨sound'', fun h => hkeeps' (hkeeps h)⟩
  idle h sound := by
    rw [h.contents]
    exact ⟨sound, id⟩
  tries h sound := by
    cases h with
    | refused _ _ => exact ⟨sound, id⟩
    | written tried _ =>
      rw [contents_done]
      exact ⟨(fits tried).sound sound, keeps tried sound⟩

/-- Whatever happens to a store, its contents stay in order. -/
theorem Law.sound_rooted : Law Contents.Fits fun a b =>
    a.contents.Sound → b.contents.Sound ∧ (a.contents.Rooted → b.contents.Rooted) :=
  .invariant id fun fits sound rooted => fits.rooted sound rooted

theorem Law.enact (law : Law P Q) {deeds : List Deed} (each : Deed.Each P store.contents deeds) :
    Q store (store.enact deeds).2 := by
  induction deeds generalizing store with
  | nil => exact law.idle (.quiet (.refl store))
  | cons deed rest ih =>
    obtain ⟨⟩ | ⟨fits, hrest⟩ := each
    rcases happend : store.journal.append deed.entry with ⟨error | offset, journal⟩
    · rw [enact_of_refused happend]
      exact law.tries (.refused fits happend)
    · rw [enact_of_written happend]
      refine law.trans (law.tries (.written fits happend)) (ih ?_)
      rw [contents_done]
      exact hrest

theorem Law.perform {α : Type} (law : Law P Q) {plan : Plan α}
    (each : plan.Each P store.contents) : Q store (store.perform plan).2 := by
  cases each with
  | refuse error => exact law.idle (.quiet (.ofStats store _))
  | act answer each =>
    have h := law.enact each
    simp only [Store.perform]
    split <;> rename_i henact <;> rw [henact] at h <;> exact h

/-- A plan of one deed leaves the contents or makes them those of the deed. -/
theorem contents_perform_one {α : Type} (store : Store) (deed : Deed) (answer : α) :
    (store.perform (.act [deed] answer)).2.contents = store.contents ∨
      (store.perform (.act [deed] answer)).2.contents = deed.after := by
  rcases happend : store.journal.append deed.entry with ⟨error | offset, journal⟩
  · left
    rw [perform_one_of_refused happend]
  · right
    rw [perform_one_of_written happend, contents_done]

end Store

end RecordBase
