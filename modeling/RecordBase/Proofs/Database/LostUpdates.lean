import RecordBase.Proofs.Database.Reached
import RecordBase.Proofs.Store.Seen

/-!
# Versions stand for what was seen

An update or a deletion is accepted on the word of a version number. `Step.incidents` tells, in order,
which records a run shows to those who look, which writes it accepts at which versions and what stood
there, and what rollbacks take back, in batches and between their entries alike.

* `Database.accepted_version_stands_for_seen`: a write accepted with the version of a record that was
  shown before replaces just that record, unless a rollback has taken it back in between.
-/

namespace RecordBase

/-! ## What happens in a run -/

/-- Something that matters to those who look at a record before they write it. -/
inductive Incident where
  /-- Somebody was told of a record. -/
  | shown (record : Record)
  /-- A write that expects a version was accepted, where this stood. -/
  | accepted (id : RecordId) (version : Int32) (stood : Option Record)
  /-- A rollback removed or replaced a record. -/
  | takenBack (record : Record)
  deriving DecidableEq, Repr

/-- The records that an answer tells of. -/
def Answer.shown : Answer → List Record
  | .record found => [found]
  | .record? found => found.toList
  | .records found => found
  | .output given => given.toRecords
  | _ => []

/-- Whether an answer tells of a failure. -/
def Answer.isFailed : Answer → Bool
  | .failed _ => true
  | _ => false

/-- The identity that a single operation writes, and the version that it expects there. -/
def Operation.expects? : Operation → Option (RecordId × Int32)
  | .update id _ version _ => some (id, version)
  | .delete id version => some (id, version)
  | _ => none

/-- What a single operation brings about. -/
def Operation.incidents (database : Database) (operation : Operation) : List Incident :=
  let answer := (operation.run database).1
  match operation.expects? with
  | some (id, version) =>
    bif answer.isFailed then [] else [.accepted id version (database.store.contents.record? id)]
  | none => answer.shown.map .shown

/-- The writes that an entry of a batch expects a version for. -/
def Batch.accepted (batch : Batch) (store : Store) : BatchEntry → List Incident
  | .create _ _ _ => []
  | .update id version _ | .delete id version =>
    match batch.resolve id with
    | .ok meant => [.accepted meant version (store.contents.record? meant)]
    | .error _ => []

/-- What a rollback brings about. -/
def Batch.undone (batch : Batch) (store : Store) : List Incident :=
  (takenBack store batch.undo).map .takenBack

mutual

/-- What an operation or a batch brings about, in order. -/
def Step.incidents {ε : Type} (database : Database) : Step ε → List Incident
  | .operation operation => operation.incidents database
  | .commit number items =>
    match database.ensureOpen with
    | .error _ => []
    | .ok () => Item.incidents database { batch := Batch.start number } items

/-- What the rest of a batch brings about. -/
def Item.incidents {ε : Type} (database : Database) (state : CommitState ε) :
    List (Item ε) → List Incident
  | [] => []
  | .entry entry :: rest =>
    let state := { state with pulled := state.pulled + 1 }
    match state.batch.apply database.store entry with
    | (.error _, store) => state.batch.undone store
    | (.ok batch, store) =>
      state.batch.accepted database.store entry ++
        Item.incidents { database with store } { state with batch } rest
  | .failure _ :: _ => state.batch.undone database.store
  | .step step :: rest =>
    step.incidents database ++
      Item.incidents (step.run database).2
        { state with inner := (step.run database).1 :: state.inner } rest

end

/-- What some steps bring about one after another. -/
def Step.incidentsAll {ε : Type} (database : Database) : List (Step ε) → List Incident
  | [] => []
  | step :: rest => step.incidents database ++ Step.incidentsAll (step.run database).2 rest

/-! ## What answers tell is stored -/

namespace Store

variable {store : Store} {id : RecordId} {version : Int32} {record : Record}

theorem id_of_record? (sound : store.contents.Sound) (h : store.contents.record? id = some record) :
    record.id = id := by
  obtain ⟨listing, slot, -, rfl⟩ := Contents.stored_of_record? sound h
  rfl

theorem stored_of_read (sound : store.contents.Sound) (coherent : store.Coherent)
    (h : (store.read id).1 = .ok (some record)) : store.contents.record? record.id = some record := by
  rw [read_eq_readUncached coherent, readUncached_eq_some_iff] at h
  rw [id_of_record? sound h.2]
  exact h.2

theorem stored_of_scan {cluster : Int16} {records : List Record} (sound : store.contents.Sound)
    (h : store.scan cluster = .ok records) (hrecord : record ∈ records) :
    store.contents.record? record.id = some record := by
  unfold scan at h
  split at h
  · cases h
  · rename_i listing hlisting
    have hlisted := clusters_of_listing hlisting
    rw [← sound.keyed hlisted] at hlisted
    obtain rfl := Except.ok.inj h
    obtain ⟨⟨position, slot⟩, hentry, rfl⟩ := List.mem_map.1 hrecord
    obtain ⟨hentry, howner⟩ := List.mem_filter.1 hentry
    have hstored : store.contents.Stored ⟨listing.cluster.id, position⟩ listing slot :=
      ⟨hlisted, Table.mem_entries_iff.1 hentry, of_decide_eq_true howner⟩
    exact hstored.record?_eq

theorem stored_of_select {cluster : String} {limit : Option Nat} {records : List Record}
    (sound : store.contents.Sound) (h : store.select cluster limit = .ok records)
    (hrecord : record ∈ records) : store.contents.record? record.id = some record := by
  obtain ⟨id, -, h⟩ := ok_of_bind h
  obtain ⟨found, hscan, h⟩ := ok_of_bind h
  obtain rfl := Except.ok.inj h
  refine stored_of_scan sound hscan ?_
  cases limit with
  | none => exact hrecord
  | some limit => exact List.mem_of_mem_take hrecord

theorem stored_of_create {cluster : Int16} {content : Bytes} {type : RecordType}
    (sound : store.contents.Sound) (h : (store.create cluster content type).1 = .ok record) :
    (store.create cluster content type).2.contents.record? record.id = some record := by
  rw [create_eq] at h ⊢
  rcases createPlan_cases sound cluster content type with ⟨error, hplan⟩ |
    ⟨listing, position, slot, tally, hlisted, hposition, howner, -, hplan⟩
  · rw [hplan] at h
    cases h
  · rw [hplan] at h ⊢
    rw [← sound.keyed hlisted] at hlisted
    generalize hdeed : Deed.put store.contents listing position slot _ tally = deed at h ⊢
    rcases happend : store.journal.append deed.entry with ⟨error | offset, journal⟩
    · rw [perform_one_of_refused happend] at h
      cases h
    · rw [perform_one_of_written happend] at h ⊢
      obtain rfl := Except.ok.inj h
      rw [contents_done, ← hdeed]
      exact (Contents.record?_putSlot sound (.of_free hlisted (slot?_next sound hposition)) howner
        _).trans (if_pos rfl)

/-- A write expects the record that stands there with the version. -/
theorem record_of_expected {listing : Listing}
    (h : (store.expected id version).1 = .ok (listing, record)) :
    store.contents.record? id = some record ∧ record.version = version := by
  unfold expected at h
  split at h
  · cases h
  · split at h
    · cases h
    · rename_i hlisting
      split at h
      · cases h
      · rename_i hfound
        split at h
        · cases h
        · rename_i hversion
          obtain ⟨rfl, rfl⟩ := Prod.mk.inj (Except.ok.inj h)
          rw [← stored?_eq_record? (clusters_of_listing hlisting)]
          exact ⟨hfound, by simpa using hversion⟩

theorem record_of_replace {content : Bytes} {type : Option RecordType} {replaced : Record × Record}
    (h : (store.replace id content version type).1 = .ok replaced) :
    ∃ current, store.contents.record? id = some current ∧ current.version = version := by
  rw [replace_eq] at h
  unfold replacePlan at h
  cases hfound : (store.expected id version).1 with
  | error error =>
    rw [hfound] at h
    cases h
  | ok found => exact ⟨found.2, record_of_expected hfound⟩

theorem record_of_remove {removed : Record} (h : (store.remove id version).1 = .ok removed) :
    ∃ current, store.contents.record? id = some current ∧ current.version = version := by
  rw [remove_eq] at h
  unfold removePlan at h
  cases hfound : (store.expected id version).1 with
  | error error =>
    rw [hfound] at h
    cases h
  | ok found => exact ⟨found.2, record_of_expected hfound⟩

end Store

/-- What fails shows nothing. -/
theorem Answer.ok_of_shown {α : Type} {wrap : α → Answer} {result : Except Error α} {record : Record}
    (h : record ∈ (Answer.ofResult wrap result).shown) :
    ∃ value, result = .ok value ∧ record ∈ (wrap value).shown := by
  cases result with
  | error error => cases h
  | ok value => exact ⟨value, rfl, h⟩

namespace Operation

variable {database : Database} {operation : Operation} {record : Record}

/-- Every record that a command gives is stored. -/
theorem stored_of_output {store : Store} {request : CommandRequest} {output : CommandOutput}
    (sound : store.contents.Sound) (coherent : store.Coherent)
    (h : (store.execute request).1 = .ok output) (hrecord : record ∈ output.toRecords) :
    store.contents.record? record.id = some record := by
  unfold Store.execute at h
  split at h
  · rename_i query _
    cases query with
    | select cluster =>
      simp only [Store.answer] at h
      cases hselect : store.select cluster request.maxResults? with
      | error error =>
        rw [hselect] at h
        cases h
      | ok records =>
        rw [hselect] at h
        obtain rfl := Except.ok.inj h
        exact Store.stored_of_select sound hselect hrecord
    | count cluster =>
      simp only [Store.answer] at h
      cases hcount : store.countNamed cluster with
      | error error =>
        rw [hcount] at h
        cases h
      | ok n =>
        rw [hcount] at h
        obtain rfl := Except.ok.inj h
        cases hrecord
    | load identity =>
      simp only [Store.answer] at h
      split at h
      · cases h
      · rename_i id _
        split at h <;> rename_i hread <;> cases h
        · obtain rfl := List.mem_singleton.1 hrecord
          exact Store.stored_of_read sound coherent (congrArg Prod.fst hread)
        · cases hrecord
    | listClusters =>
      cases h
      cases hrecord
  · cases h

/-- Every record that an answer tells of is stored. -/
theorem stored_of_shown (sound : database.store.contents.Sound) (coherent : database.store.Coherent)
    (h : record ∈ (operation.run database).1.shown) :
    (operation.run database).2.store.contents.record? record.id = some record := by
  cases operation with
  | create cluster content type =>
    simp only [run, Database.onStore] at h ⊢
    obtain ⟨created, hcreate, hrecord⟩ := Answer.ok_of_shown h
    obtain rfl := List.mem_singleton.1 hrecord
    exact Store.stored_of_create sound hcreate
  | read id =>
    rw [(idle_run rfl).contents]
    simp only [run, Database.onStore] at h
    obtain ⟨found, hread, hrecord⟩ := Answer.ok_of_shown h
    obtain rfl := Option.mem_toList.1 hrecord
    exact Store.stored_of_read sound coherent hread
  | readUncached id =>
    rw [(idle_run rfl).contents]
    simp only [run, Database.onStore] at h
    obtain ⟨found, hread, hrecord⟩ := Answer.ok_of_shown h
    obtain rfl := Option.mem_toList.1 hrecord
    rw [← Store.read_eq_readUncached coherent] at hread
    exact Store.stored_of_read sound coherent hread
  | scan cluster =>
    rw [(idle_run rfl).contents]
    simp only [run, Database.look] at h
    obtain ⟨records, hscan, hrecord⟩ := Answer.ok_of_shown h
    exact Store.stored_of_scan sound hscan hrecord
  | execute request =>
    rw [(idle_run rfl).contents]
    simp only [run] at h
    split at h
    · rename_i hexecute
      exact stored_of_output sound coherent (congrArg Prod.fst hexecute) h
    · cases h
  | update | delete | count | countNamed | defaultCluster | addPhysical | addLogical | bind | unbind
  | flush | sync | ensureOpen =>
    simp only [run, Database.onStore, Database.look] at h
    obtain ⟨_, -, hrecord⟩ := Answer.ok_of_shown h
    cases hrecord
  | _ => exact absurd h List.not_mem_nil

end Operation

/-! ## What is accepted stands at the version given -/

/-- Every write accepted among these incidents met what these contents hold, at the version given. -/
def Contents.Met (contents : Contents) (incidents : List Incident) : Prop :=
  ∀ id version stood, .accepted id version stood ∈ incidents →
    stood = contents.record? id ∧ ∃ current, stood = some current ∧ current.version = version

theorem Contents.Met.of_shown (contents : Contents) (records : List Record) :
    contents.Met (records.map .shown) := by
  intro id version stood h
  obtain ⟨record, -, ⟨⟩⟩ := List.mem_map.1 h

theorem Contents.Met.accepted {contents : Contents} {id : RecordId} {version : Int32}
    (h : ∃ current, contents.record? id = some current ∧ current.version = version) :
    contents.Met [.accepted id version (contents.record? id)] := by
  intro _ _ _ hmem
  obtain ⟨rfl, rfl, rfl⟩ := Incident.accepted.inj (List.mem_singleton.1 hmem)
  exact ⟨rfl, h⟩

namespace Operation

variable {database : Database}

/-- A single operation shows what its answer tells, or is a write that met the version given. -/
theorem incidents_cases (database : Database) (operation : Operation) :
    operation.incidents database = (operation.run database).1.shown.map .shown ∨
    ∃ id version, operation.incidents database =
        [.accepted id version (database.store.contents.record? id)] ∧
      ∃ current, database.store.contents.record? id = some current ∧ current.version = version := by
  cases operation with
  | update id content version type =>
    simp only [incidents, expects?, run, Database.onStore, Store.update]
    rcases hreplace : database.store.replace id content version (some type) with
      ⟨error | ⟨updated, current⟩, store⟩
    · exact .inl rfl
    · exact .inr ⟨id, version, rfl, Store.record_of_replace (congrArg Prod.fst hreplace)⟩
  | delete id version =>
    simp only [incidents, expects?, run, Database.onStore, Store.delete]
    rcases hremove : database.store.remove id version with ⟨error | removed, store⟩
    · exact .inl rfl
    · exact .inr ⟨id, version, rfl, Store.record_of_remove (congrArg Prod.fst hremove)⟩
  | _ => exact .inl rfl

end Operation

namespace Batch

variable {store after : Store} {batch next : Batch} {entry : BatchEntry}

theorem met_accepted (h : batch.apply store entry = (.ok next, after)) :
    store.contents.Met (batch.accepted store entry) := by
  cases entry with
  | create cluster name content => exact .of_shown _ []
  | update id version content =>
    cases content with
    | none => cases h
    | some content =>
      simp only [apply, applyUpdate] at h
      simp only [accepted]
      cases hmeant : batch.resolve id with
      | error error => exact .of_shown _ []
      | ok meant =>
        rcases hreplace : store.replace meant content version none with ⟨error | replaced, later⟩
        · simp only [hmeant, hreplace] at h
          cases h
        · exact .accepted (Store.record_of_replace (congrArg Prod.fst hreplace))
  | delete id version =>
    simp only [apply, applyDelete] at h
    simp only [accepted]
    cases hmeant : batch.resolve id with
    | error error => exact .of_shown _ []
    | ok meant =>
      rcases hremove : store.remove meant version with ⟨error | removed, later⟩
      · simp only [hmeant, hremove] at h
        cases h
      · exact .accepted (Store.record_of_remove (congrArg Prod.fst hremove))

theorem ne_shown_of_accepted {record : Record} : .shown record ∉ batch.accepted store entry := by
  intro h
  cases entry with
  | create cluster name content => cases h
  | update id version content | delete id version =>
    simp only [accepted] at h
    split at h
    · cases List.mem_singleton.1 h
    · cases h

end Batch

/-! ## Records seen through a run -/

/-- Where a list is taken apart at an element, the element is in the first or the second half. -/
theorem split_append {α : Type} {first second front rest : List α} {element : α}
    (h : first ++ second = front ++ element :: rest) :
    (∃ between, first = front ++ element :: between ∧ rest = between ++ second) ∨
      ∃ between, front = first ++ between ∧ second = between ++ element :: rest := by
  rcases List.append_eq_append_iff.1 h with ⟨between, hfront, hsecond⟩ | ⟨between, hfirst, hrest⟩
  · exact .inr ⟨between, hfront, hsecond⟩
  · cases between with
    | nil => exact .inr ⟨[], by simpa using hfirst.symm, hrest.symm⟩
    | cons other between =>
      rw [List.cons_append] at hrest
      obtain ⟨rfl, hbehind⟩ := List.cons.inj hrest
      exact .inl ⟨between, hfirst, hbehind⟩

/-- Every write accepted at the version of the record meets the record, unless the record has been
taken back before. -/
def Incident.Trusts (record : Record) (incidents : List Incident) : Prop :=
  ∀ front stood rest, incidents = front ++ .accepted record.id record.version stood :: rest →
    .takenBack record ∉ front → stood = some record

/-- What becomes of a record seen since `base`: who writes at its version meets it, and it is still
one seen since `base`, unless it is taken back. -/
structure Incident.Spares (base : Contents) (record : Record) (incidents : List Incident)
    (after : Contents) : Prop where
  trusts : Trusts record incidents
  seen : .takenBack record ∈ incidents ∨ Undo.Seen base record [] after

namespace Incident

variable {base now between after : Contents} {record : Record} {undos : List Undo}
  {incidents first second : List Incident}

theorem Trusts.append (h₁ : Trusts record first)
    (h₂ : .takenBack record ∉ first → Trusts record second) : Trusts record (first ++ second) := by
  intro front stood rest hsplit hkept
  rcases split_append hsplit with ⟨between, hfirst, -⟩ | ⟨between, hfront, hsecond⟩
  · exact h₁ front stood between hfirst hkept
  · rw [hfront, List.mem_append, not_or] at hkept
    exact h₂ hkept.1 between stood rest hsecond hkept.2

theorem trusts_of_met (met : now.Met incidents) (seen : Undo.Seen base record undos now) :
    Trusts record incidents := by
  intro front stood rest hsplit _
  obtain ⟨rfl, current, hcurrent, hversion⟩ := met record.id record.version stood (by simp [hsplit])
  rw [hcurrent, seen.record_eq hcurrent hversion]

theorem trusts_of_forall (h : ∀ id version stood, .accepted id version stood ∉ incidents) :
    Trusts record incidents := by
  intro front stood rest hsplit _
  exact absurd (hsplit ▸ List.mem_append_right front List.mem_cons_self) (h _ _ stood)

theorem Spares.before (h : Spares base record second after) (trusts : Trusts record first) :
    Spares base record (first ++ second) after where
  trusts := trusts.append fun _ => h.trusts
  seen := h.seen.imp_left (List.mem_append_right first)

/-- What was done since `base` spares the records seen: those seen before it started, with a batch under
way, and those shown in its course. -/
structure Respects (base : Contents) (undos : List Undo) (now : Contents)
    (incidents : List Incident) (after : Contents) : Prop where
  earlier : ∀ {record}, Undo.Seen base record undos now → Spares base record incidents after
  shown : ∀ {front record rest}, Undo.Pending Contents.Advances base undos now →
    incidents = front ++ .shown record :: rest → Spares base record rest after

/-- What brings nothing to light and leads further. -/
theorem Respects.of_met (met : now.Met incidents) (hidden : ∀ record, .shown record ∉ incidents)
    (kept : ∀ {record}, Undo.Seen base record undos now →
      .takenBack record ∈ incidents ∨ Undo.Seen base record [] after) :
    Respects base undos now incidents after where
  earlier seen := ⟨trusts_of_met met seen, kept seen⟩
  shown _ hsplit := absurd (hsplit ▸ List.mem_append_right _ List.mem_cons_self) (hidden _)

/-- An entry of a batch is applied, and then comes the rest of the batch. -/
theorem Respects.entry {undo : Undo} {listing : Listing} {old new : Option Slot} (sound : now.Sound)
    (wrote : undo.Wrote listing old new now) (met : now.Met first)
    (hidden : ∀ record, .shown record ∉ first)
    (h : Respects base (undo :: undos) wrote.left second after) :
    Respects base undos now (first ++ second) after where
  earlier seen := (h.earlier (.before seen sound wrote (.refl _))).before (trusts_of_met met seen)
  shown {front record rest} pending hsplit := by
    rcases split_append hsplit with ⟨within, hfirst, -⟩ | ⟨within, -, hsecond⟩
    · exact absurd (hfirst ▸ List.mem_append_right _ List.mem_cons_self) (hidden record)
    · exact h.shown (.cons pending sound wrote (.refl _)) hsecond

/-- Something happens in a batch, and then the rest of the batch. -/
theorem Respects.inner (h₁ : ∀ base, Respects base [] now first between)
    (advances : now.Advances between) (h₂ : Respects base undos between second after) :
    Respects base undos now (first ++ second) after where
  earlier seen := by
    obtain ⟨moment, -, sound, stood, later⟩ := seen.moment
    have hseen : Undo.Seen moment _ [] now := .since (.nil (.refl _)) sound stood later
    exact (h₂.earlier (seen.andThen advances)).before ((h₁ moment).earlier hseen).trusts
  shown {front record rest} pending hsplit := by
    rcases split_append hsplit with ⟨within, hfirst, rfl⟩ | ⟨within, rfl, hsecond⟩
    · obtain ⟨trusts, htaken | hseen⟩ := (h₁ now).shown (.nil (.refl _)) hfirst
      · exact ⟨trusts.append fun hkept => absurd htaken hkept, .inl (List.mem_append_left _ htaken)⟩
      · obtain ⟨moment, hmoment, sound, stood, later⟩ := hseen.moment
        have hamid := Undo.Seen.since (pending.andThen .trans hmoment) sound stood later
        exact (h₂.earlier hamid).before trusts
    · exact h₂.shown (pending.andThen .trans advances) hsecond

end Incident

section Run

open Incident

variable {ε : Type} {base start : Contents} {database : Database}

theorem Operation.respects_incidents (operation : Operation) (sound : database.store.contents.Sound)
    (coherent : database.store.Coherent) (base : Contents) :
    Respects base [] database.store.contents (operation.incidents database)
      (operation.run database).2.store.contents := by
  obtain ⟨hsound, hadvances⟩ := operation.sound_advances_run sound
  rcases operation.incidents_cases database with hcase | ⟨id, version, hcase, hmet⟩
  · rw [hcase]
    refine ⟨fun seen => ⟨trusts_of_met (.of_shown _ _) seen, .inr (seen.andThen hadvances)⟩, ?_⟩
    intro front record rest pending hsplit
    have hrest : ∀ incident ∈ .shown record :: rest, ∃ shown ∈ (operation.run database).1.shown,
        Incident.shown shown = incident := fun incident h =>
      List.mem_map.1 (hsplit ▸ List.mem_append_right front h)
    obtain ⟨_, hrecord, ⟨⟩⟩ := hrest _ List.mem_cons_self
    refine ⟨trusts_of_forall fun id version stood h => ?_, .inr ?_⟩
    · obtain ⟨_, -, ⟨⟩⟩ := hrest _ (List.mem_cons_of_mem _ h)
    · exact .since (pending.andThen .trans hadvances) hsound
        (Operation.stored_of_shown sound coherent hrecord) (.refl _)
  · rw [hcase]
    refine .of_met (.accepted hmet) (fun record h => ?_) fun seen => .inr (seen.andThen hadvances)
    cases List.mem_singleton.1 h

/-- A rollback takes back what it does not spare. -/
theorem Batch.respects_undone {batch : Batch} {store : Store} {now : Contents}
    (sound : store.contents.Sound) (advances : now.Advances store.contents) :
    Respects base batch.undo now (batch.undone store) (batch.rollback store).contents := by
  have hundone : ∀ incident ∈ batch.undone store, ∃ record, incident = .takenBack record := by
    intro incident h
    obtain ⟨record, -, rfl⟩ := List.mem_map.1 h
    exact ⟨record, rfl⟩
  refine .of_met (fun id version stood h => ?_) (fun record h => ?_) fun seen => ?_
  · obtain ⟨_, ⟨⟩⟩ := hundone _ h
  · obtain ⟨_, ⟨⟩⟩ := hundone _ h
  · exact ((seen.andThen advances).rollback sound).imp_left fun h => List.mem_map_of_mem h

/-- A step respects the records seen. -/
theorem Step.respects_incidents (step : Step ε) (sound : database.store.contents.Sound)
    (coherent : database.store.Coherent) (base : Contents) :
    Respects base [] database.store.contents (step.incidents database)
      (step.run database).2.store.contents := by
  refine (sound_run_induction
    (fun database step => database.store.Coherent → ∀ base, Respects base []
      database.store.contents (step.incidents database) (step.run database).2.store.contents)
    (fun database state items => database.store.Coherent → ∀ base,
      Respects base state.batch.undo database.store.contents (Item.incidents database state items)
        (Item.runAll database state items).2.store.contents)
    ?operation ?closed ?opened ?kept ?refused ?applied ?failed ?inner database step sound).2.2
    coherent base
  case operation =>
    intro database operation sound coherent base
    exact operation.respects_incidents sound coherent base
  case closed =>
    intro database error number items hopen _ base
    rw [run_commit_of_closed hopen]
    simp only [Step.incidents, hopen]
    exact .of_met (.of_shown _ []) (fun _ => List.not_mem_nil) .inr
  case opened =>
    intro database number items hopen hbatch coherent base
    rw [run_commit_of_open hopen]
    simp only [Step.incidents, hopen]
    exact hbatch coherent base
  case kept =>
    intro database state _ base
    exact .of_met (.of_shown _ []) (fun _ => List.not_mem_nil) fun seen => .inr seen.kept
  case refused =>
    intro database state entry error store _ rest sound hsound _ happly _ base
    rw [Item.runAll_entry_of_refused happly]
    simp only [Item.incidents, happly]
    exact Batch.respects_undone hsound (Batch.sound_advances_apply sound happly).2
  case applied =>
    intro database state entry batch store rest sound happly hbatch coherent base
    have hcoherent := (Batch.apply_of_law Store.Law.coherent sound happly sound).2 coherent
    obtain ⟨undo, listing, old, new, wrote, hundo, hcontents, -⟩ :=
      Batch.wrote_of_apply sound happly
    rw [Item.runAll_entry_of_applied happly]
    simp only [Item.incidents, happly]
    have hrest := hbatch hcoherent base
    rw [hundo, hcontents] at hrest
    exact .entry sound wrote (Batch.met_accepted happly) (fun _ => Batch.ne_shown_of_accepted) hrest
  case failed =>
    intro database state _ cause rest sound _ _ base
    simp only [Item.incidents]
    exact Batch.respects_undone sound (.refl _)
  case inner =>
    intro database state step rest sound hstep hbatch coherent base
    have hcoherent := ((step.run_of_law Store.Law.coherent sound).2.2 sound).2 coherent
    rw [Item.runAll_step]
    simp only [Item.incidents]
    exact .inner (hstep coherent) (step.advances_run sound) (hbatch hcoherent base)

theorem Step.respects_incidentsAll (steps : List (Step ε)) (sound : database.store.contents.Sound)
    (coherent : database.store.Coherent) (base : Contents) :
    Respects base [] database.store.contents (Step.incidentsAll database steps)
      (Step.runAll database steps).2.store.contents := by
  induction steps generalizing database with
  | nil => exact .of_met (.of_shown _ []) (fun _ => List.not_mem_nil) .inr
  | cons step rest ih =>
    obtain ⟨hsound, hadvances, hcoherent⟩ := step.run_of_law Store.Law.coherent sound
    exact .inner (step.respects_incidents sound coherent) hadvances
      (ih hsound ((hcoherent sound).2 coherent))

end Run

namespace Database

variable {ε : Type} {database : Database}

/-- Somebody is shown a record, and later a write of its identity is accepted that expects its version.
Then what that write replaces is the record shown, with its type and content, unless the record was the
write of a batch that has been undone in between. So it is however operations, batches and operations
between the entries of batches follow each other, and whatever the journal refuses. -/
theorem accepted_version_stands_for_seen (reached : Reached ε database) {steps : List (Step ε)}
    {early between late : List Incident} {seen : Record} {stood : Option Record}
    (run : Step.incidentsAll database steps =
      early ++ .shown seen :: (between ++ .accepted seen.id seen.version stood :: late))
    (kept : .takenBack seen ∉ between) : stood = some seen := by
  obtain ⟨sound, coherent⟩ := reached.sound_coherent
  have respects := Step.respects_incidentsAll steps sound coherent database.store.contents
  exact (respects.shown (.nil (.refl _)) run).trusts between stood late rfl kept

/-- Somebody reads what an entry of a batch has written, and writes after the batch is kept. -/
theorem accepted_version_stands_for_entry :
    let steps : List (Step Unit) :=
      [.operation (.create 0 [1] .document),
        .commit 1 [.entry (.update ⟨0, 0⟩ 0 (some [2])), .step (.operation (.read ⟨0, 0⟩))]]
    let database := (Step.runAll plain steps).2
    database.store.contents.record? ⟨0, 0⟩ = some ⟨⟨0, 0⟩, 1, .document, [2]⟩ := by
  intro steps database
  let created : Record := ⟨⟨0, 0⟩, 0, .document, [1]⟩
  let seen : Record := ⟨⟨0, 0⟩, 1, .document, [2]⟩
  have run : Step.incidentsAll plain (steps ++ [.operation (.update ⟨0, 0⟩ [3] 1 .document)]) =
      [.shown created, .accepted ⟨0, 0⟩ 0 (some created)] ++ .shown seen ::
        ([] ++ .accepted seen.id seen.version (database.store.contents.record? ⟨0, 0⟩) :: []) := by
    decide +kernel
  exact accepted_version_stands_for_seen (.opened ofJournal_plain) run List.not_mem_nil

/-- Somebody reads what an entry of a batch has written, and the batch is undone. Another write gives the
version out again, and the write that expects the version seen replaces a content that was not. -/
theorem version_taken_back_is_given_again :
    let steps : List (Step Unit) :=
      [.operation (.create 0 [1] .document),
        .commit 1 [.entry (.update ⟨0, 0⟩ 0 (some [2])), .step (.operation (.read ⟨0, 0⟩)), .failure ()],
        .operation (.update ⟨0, 0⟩ [3] 0 .document), .operation (.update ⟨0, 0⟩ [4] 1 .document)]
    let seen : Record := ⟨⟨0, 0⟩, 1, .document, [2]⟩
    Reached Unit plain ∧ ∃ early between late stood, stood ≠ some seen ∧
      Step.incidentsAll plain steps =
        early ++ .shown seen :: (between ++ .accepted seen.id seen.version stood :: late) := by
  intro steps seen
  let created : Record := ⟨⟨0, 0⟩, 0, .document, [1]⟩
  let other : Record := ⟨⟨0, 0⟩, 1, .document, [3]⟩
  exact ⟨.opened ofJournal_plain, [.shown created, .accepted ⟨0, 0⟩ 0 (some created)],
    [.takenBack seen, .accepted ⟨0, 0⟩ 0 (some created)], [], some other, by decide, by decide +kernel⟩

end Database

end RecordBase
