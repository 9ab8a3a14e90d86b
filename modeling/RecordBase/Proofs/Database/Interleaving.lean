import RecordBase.Proofs.Database.Reached
import RecordBase.Proofs.Store.Positions
import RecordBase.Proofs.Store.Refusal
import RecordBase.Proofs.Store.Writes

/-!
# Batches amid other writes

`Step.effect` is the account of a step: what is left of its writes once it is over. A single operation
that succeeds leaves what it wrote, a batch that is kept leaves its entries and what the steps between
them left, in order, and a batch that is undone only the latter. A logical cluster whose listing is
refused leaves its descriptor. While no sync fails and the journal takes what undoes the batches that fail
(`Step.Completes`), the account is right for every step (`Step.becomes_run`), so

* `Database.failed_batch_keeps_other_writes`: after a batch has failed every record is what the last
  write of somebody else left, and one that nobody else wrote is what it was before the batch.
-/

namespace RecordBase

/-! ## Accounts -/

/-- The identity that a single operation with this answer has written. The descriptor of a logical cluster is
written also where the cluster cannot be listed then. -/
def Operation.target? (before : Store) : Operation → Answer → Option RecordId
  | .create _ _ _, .record record => some record.id
  | .update id _ _ _, .version _ => some id
  | .delete id _, .done => some id
  | .addLogical name container, _ => before.descriptor? name container
  | _, _ => none

/-- What a single operation leaves: the record it wrote, if any, as it stands thereafter. -/
def Operation.writes (database : Database) (operation : Operation) : Writes :=
  let (answer, after) := operation.run database
  match operation.target? database.store answer with
  | some id => .single id (after.store.contents.record? id)
  | none => .nothing

/-- What the last entry that a batch has applied leaves, as it stands in the store. -/
def Batch.lastWrite (batch : Batch) (store : Store) : Writes :=
  match batch.undo with
  | undo :: _ => .single undo.id (store.contents.record? undo.id)
  | [] => .nothing

mutual

/-- What an operation or a batch leaves of its writes. -/
def Step.effect {ε : Type} (database : Database) : Step ε → Writes
  | .operation operation => operation.writes database
  | .commit number items =>
    match database.ensureOpen with
    | .error _ => .nothing
    | .ok () => Item.effect database { batch := Batch.start number } .nothing .nothing items

/-- What a batch leaves, given what its entries and the steps between them have written (`all`) and
what the steps alone have (`others`). -/
def Item.effect {ε : Type} (database : Database) (state : CommitState ε) (all others : Writes) :
    List (Item ε) → Writes
  | [] => all
  | .entry entry :: rest =>
    let state := { state with pulled := state.pulled + 1 }
    match state.batch.apply database.store entry with
    | (.error _, _) => others
    | (.ok batch, store) =>
      Item.effect { database with store } { state with batch }
        (all.andThen (batch.lastWrite store)) others rest
  | .failure _ :: _ => others
  | .step step :: rest =>
    Item.effect (step.run database).2 { state with inner := (step.run database).1 :: state.inner }
      (all.andThen (step.effect database)) (others.andThen (step.effect database)) rest

end

/-! ## Batches that are undone to the end -/

mutual

/-- The journal takes what undoes the entries of every batch that fails. -/
def Step.Completes {ε : Type} (database : Database) : Step ε → Prop
  | .operation _ => True
  | .commit number items =>
    match database.ensureOpen with
    | .error _ => True
    | .ok () => Item.Completes database { batch := Batch.start number } items

/-- The same for a batch from some point on. -/
def Item.Completes {ε : Type} (database : Database) (state : CommitState ε) : List (Item ε) → Prop
  | [] => True
  | .entry entry :: rest =>
    let state := { state with pulled := state.pulled + 1 }
    match state.batch.apply database.store entry with
    | (.error _, store) => store.journal.Takes state.batch.undo.length
    | (.ok batch, store) => Item.Completes { database with store } { state with batch } rest
  | .failure _ :: _ => database.store.journal.Takes state.batch.undo.length
  | .step step :: rest =>
    step.Completes database ∧
      Item.Completes (step.run database).2
        { state with inner := (step.run database).1 :: state.inner } rest

end

/-- While no append fails every batch that fails is undone to the end. -/
theorem Step.completes_of_willing {ε : Type} (step : Step ε) {database : Database}
    (sound : database.store.contents.Sound) (willing : database.store.journal.Willing) :
    step.Completes database := by
  refine (sound_run_induction
    (fun database step => database.store.journal.Willing → step.Completes database)
    (fun database state items => database.store.journal.Willing →
      Item.Completes database state items)
    ?operation ?closed ?opened ?kept ?refused ?applied ?failed ?inner database step sound).2.2 willing
  case operation =>
    intro database operation sound willing
    exact True.intro
  case closed =>
    intro database error number items hopen willing
    simp only [Step.Completes, hopen]
  case opened =>
    intro database number items hopen hbatch willing
    simp only [Step.Completes, hopen]
    exact hbatch willing
  case kept =>
    intro database state willing
    exact True.intro
  case refused =>
    intro database state entry error store start rest sound _ _ happly willing
    simp only [Item.Completes, happly]
    exact (Batch.apply_of_law Store.Law.willing sound happly willing).accepts.takes _
  case applied =>
    intro database state entry batch store rest sound happly hbatch willing
    simp only [Item.Completes, happly]
    exact hbatch (Batch.apply_of_law Store.Law.willing sound happly willing)
  case failed =>
    intro database state start cause rest sound _ willing
    exact willing.accepts.takes _
  case inner =>
    intro database state step rest sound hstep hbatch willing
    exact ⟨hstep willing, hbatch ((step.run_of_law Store.Law.willing sound).2.2 willing)⟩

/-! ## Single operations -/

section Operation

variable {database : Database}

-- What an operation writes never depends on how a name is made normal.
attribute [local irreducible] Store.normalName

/-- Listing one more cluster shows no record that has not shown before. -/
theorem Contents.Becomes.of_listed {before after : Contents} {id : Int16} {listing : Listing}
    (sound : before.Sound) (rooted : before.Rooted) (advances : before.Advances after)
    (fresh : before.clusters.get? id = none)
    (hafter : after.clusters = before.clusters.insert id listing) (hkey : listing.cluster.id = id)
    (hslots : ∀ home position, after.slot? home position = before.slot? home position) :
    before.Becomes .nothing after where
  advances := advances
  record other := by
    show after.record? other = before.record? other
    by_cases hid : other.cluster = id
    · have hlisted : after.clusters.get? other.cluster = some listing := by
        rw [hafter, hid, Table.get?_insert_self]
      have hbefore : before.record? other = none := record?_of_unlisted (hid ▸ fresh)
      rw [hbefore, record?_of_listed hlisted (hkey.trans hid.symm), hslots,
        Option.map_eq_none_iff, Option.filter_eq_none_iff]
      intro slot hslot howner
      obtain ⟨found, hfound⟩ := rooted.owned hslot
      rw [of_decide_eq_true howner, hid, fresh] at hfound
      cases hfound
    · have hsame : after.clusters.get? other.cluster = before.clusters.get? other.cluster := by
        rw [hafter, Table.get?_insert, if_neg hid]
      cases hlisted : before.clusters.get? other.cluster with
      | none => rw [record?_of_unlisted hlisted, record?_of_unlisted (hsame.trans hlisted)]
      | some found =>
        have hown := sound.keyed hlisted
        rw [record?_of_listed hlisted hown, record?_of_listed (hsame.trans hlisted) hown, hslots]
  changed h := absurd rfl h

/-- What changes no record. -/
theorem Contents.Becomes.of_dictionary {before after : Contents} (advances : before.Advances after)
    (h : ∀ id, after.record? id = before.record? id) : before.Becomes .nothing after where
  advances := advances
  record := h
  changed h := absurd rfl h

/-- The operations that write a single record. -/
theorem Operation.becomes_of_sets {operation : Operation} {plan : Plan Answer}
    (sound : database.store.contents.Sound) (hplan : operation.plan? database.store = some plan)
    (hfailed : ∀ error, operation.target? database.store (.failed error) = none)
    (sets : plan.Sets database.store.contents fun answer undo =>
      operation.target? database.store answer = some undo.id) :
    database.store.contents.Becomes (operation.writes database)
      (operation.run database).2.store.contents := by
  rw [Operation.writes, run_of_plan hplan, Database.onStore]
  cases sets with
  | refuse error =>
    simp only [Store.perform, Answer.ofResult, hfailed]
    exact .refl _
  | @act deed answer undo listing old new undone wrote hafter =>
    rcases happend : database.store.journal.append deed.entry with ⟨error | offset, journal⟩
    · simp only [Store.perform_one_of_refused happend, Answer.ofResult, hfailed]
      exact .refl _
    · simp only [Store.perform_one_of_written happend, Answer.ofResult, undone, Store.contents_done,
        hafter]
      exact wrote.becomes sound

/-- The operations that write no record. -/
theorem Operation.becomes_of_nothing {operation : Operation}
    (hnothing : ∀ answer, operation.target? database.store answer = none)
    (h : database.store.contents.Becomes .nothing (operation.run database).2.store.contents) :
    database.store.contents.Becomes (operation.writes database)
      (operation.run database).2.store.contents := by
  simp only [Operation.writes, hnothing]
  exact h

/-- What a plan of one deed that writes no record leaves. -/
theorem Store.becomes_perform_one {α : Type} {store : Store} {deed : Deed}
    (h : store.contents.Becomes .nothing deed.after) (answer : α) :
    store.contents.Becomes .nothing (store.perform (.act [deed] answer)).2.contents := by
  rcases store.contents_perform_one deed answer with hsame | hdone
  · rw [hsame]
    exact .refl _
  · rw [hdone]
    exact h

/-- Of two deeds none is done, or the first, or both are. -/
theorem Store.perform_two_cases {α β : Type} (store : Store) (first second : Deed) (early : α)
    (answer : β) :
    (∃ error, (store.perform (.act [first] early)).1 = .error error ∧
      (store.perform (.act [first] early)).2.contents = store.contents ∧
      (store.perform (.act [first, second] answer)).2.contents = store.contents) ∨
    (store.perform (.act [first] early)).1 = .ok early ∧
      (store.perform (.act [first] early)).2.contents = first.after ∧
      ((store.perform (.act [first, second] answer)).2.contents = first.after ∨
        (store.perform (.act [first, second] answer)).2.contents = second.after) := by
  rcases happend : store.journal.append first.entry with ⟨error | offset, journal⟩
  · rw [perform_one_of_refused happend, perform, enact_of_refused happend]
    exact .inl ⟨error, rfl, rfl, rfl⟩
  · rw [perform_one_of_written happend, perform, enact_of_written happend]
    refine .inr ⟨rfl, contents_done .., ?_⟩
    rcases hnext : (store.done first journal).journal.append second.entry with ⟨error | offset, later⟩
    · rw [enact_of_refused hnext]
      exact .inl (contents_done ..)
    · rw [enact_of_written hnext, enact]
      exact .inr (contents_done ..)

theorem Store.descriptor?_of_refused {store : Store} {name : String} {container : Int32} {error : Error}
    (h : store.addLogicalPlan name container = .refuse error) : store.descriptor? name container = none := by
  unfold addLogicalPlan at h
  cases hnormal : normalName name with
  | error error => simp only [descriptor?, hnormal]
  | ok normal =>
    simp only [hnormal] at h
    cases hplan : store.logicalPlan normal container with
    | error error => simp only [descriptor?, hnormal, hplan]
    | ok found =>
      simp only [hplan] at h
      cases h

/-- The first deed of an addition writes the descriptor. -/
theorem Store.descriptor?_of_act {store : Store} {name : String} {container : Int32} {first : Deed}
    {rest : List Deed} {answer : Int16 × RecordId}
    (h : store.addLogicalPlan name container = .act (first :: rest) answer) :
    store.descriptor? name container =
      (store.perform (.act [first] ())).1.toOption.map fun _ => answer.2 := by
  unfold addLogicalPlan at h
  cases hnormal : normalName name with
  | error error =>
    simp only [hnormal] at h
    cases h
  | ok normal =>
    simp only [hnormal] at h
    cases hplan : store.logicalPlan normal container with
    | error error =>
      simp only [hplan] at h
      cases h
    | ok found =>
      simp only [hplan] at h
      cases h
      simp only [descriptor?, hnormal, hplan, writeSlot_eq]
      split <;> rename_i hwritten <;> rw [hwritten] <;> rfl

theorem Operation.writes_of_descriptor {name : String} {container : Int32} {descriptor : RecordId}
    (h : database.store.descriptor? name container = some descriptor) :
    (addLogical name container).writes database = .single descriptor
      ((database.store.addLogical name container).2.contents.record? descriptor) := by
  simp only [Operation.writes, run, Database.onStore, target?, h]

theorem Operation.writes_of_no_descriptor {name : String} {container : Int32}
    (h : database.store.descriptor? name container = none) :
    (addLogical name container).writes database = .nothing := by
  simp only [Operation.writes, target?, h]

/-- The descriptor of a logical cluster is a record of its container. It is there before the cluster is
listed, and stays when that is done or refused. -/
theorem Operation.becomes_addLogical (sound : database.store.contents.Sound)
    (rooted : database.store.contents.Rooted) {name : String} {container : Int32} :
    ∀ passed ∈ database.store.logicalCourse name container,
      database.store.contents.Becomes ((addLogical name container).writes database)
        passed.contents := by
  have hrun := database.store.addLogical_eq name container
  rcases database.store.logicalCourse_cases name container with ⟨⟨error, hrefused⟩, hcourse⟩ |
    ⟨first, second, answer, hact, hcourse⟩
  · rw [hrefused] at hrun
    rw [writes_of_no_descriptor (Store.descriptor?_of_refused hrefused), hcourse, hrun]
    exact List.forall_mem_singleton.2 (.refl _)
  have hdescriptor := Store.descriptor?_of_act hact
  rcases Store.addLogicalPlan_cases sound name container with ⟨error, hcase⟩ |
    ⟨listing, id, normal, position, slot, announced, hlisted, -, hfresh, hposition, howner, hversion,
      rfl, hcase⟩
  · rw [hcase] at hact
    cases hact
  have hput := (Undo.Wrote.ofCreate sound hlisted hposition howner hversion).becomes sound
  have hfits := Contents.Fits.announce hlisted (Store.slot?_next sound hposition) howner
  have hlist : (Deed.put database.store.contents listing position slot).after.Becomes .nothing
      (Deed.listLogical (Deed.put database.store.contents listing position slot).after
        ⟨id, normal, .logical listing.cluster.id ⟨listing.cluster.id, position⟩⟩ listing.home).after :=
    .of_listed (hfits.sound sound) (hfits.rooted sound rooted) (.list _ hfresh) hfresh rfl rfl
      fun _ _ => rfl
  have hboth := hput.trans hlist
  rw [Writes.andThen_nothing] at hboth
  rw [hcase] at hact hrun
  cases hact
  rw [hcourse, List.forall_mem_cons, List.forall_mem_singleton]
  rcases database.store.perform_two_cases (Deed.put database.store.contents listing position slot) _ ()
    _ with ⟨error, hrefused, hone, htwo⟩ | ⟨hdone, hone, htwo | htwo⟩ <;> rw [← hrun] at htwo
  · rw [hrefused] at hdescriptor
    rw [writes_of_no_descriptor hdescriptor, hone, htwo]
    exact ⟨.refl _, .refl _⟩
  · rw [hdone] at hdescriptor
    rw [writes_of_descriptor hdescriptor, hone, htwo]
    exact ⟨hput, hput⟩
  · rw [hdone] at hdescriptor
    rw [writes_of_descriptor hdescriptor, hone, htwo, hlist.record]
    exact ⟨hput, hboth⟩

theorem Operation.run_mem_course (operation : Operation) (database : Database) :
    (operation.run database).2.store ∈ operation.course database := by
  cases operation with
  | addLogical name container =>
    rw [run, Database.store_onStore]
    rcases database.store.logicalCourse_cases name container with ⟨-, hcourse⟩ |
      ⟨_, _, _, -, hcourse⟩ <;>
      simp only [course, hcourse, List.mem_cons, true_or, or_true]
  | _ => exact List.mem_singleton_self _

/-- A single operation leaves what it says. -/
theorem Operation.becomes_run (operation : Operation) (sound : database.store.contents.Sound)
    (rooted : database.store.contents.Rooted) :
    database.store.contents.Becomes (operation.writes database)
      (operation.run database).2.store.contents := by
  cases operation with
  | create cluster content type =>
    refine becomes_of_sets sound rfl (fun _ => rfl) ((Store.createPlan_sets sound ..).map ?_)
    rintro record undo ⟨rfl, -⟩
    rfl
  | update id content version type =>
    refine becomes_of_sets sound rfl (fun _ => rfl) ((Store.replacePlan_sets ..).map ?_)
    rintro ⟨updated, previous⟩ undo ⟨-, rfl⟩
    rfl
  | delete id version =>
    refine becomes_of_sets sound rfl (fun _ => rfl) ((Store.removePlan_sets ..).map ?_)
    rintro record undo ⟨-, rfl⟩
    rfl
  | addLogical name container =>
    exact becomes_addLogical sound rooted _ (run_mem_course (addLogical ..) database)
  | addPhysical name file size =>
    refine becomes_of_nothing (fun _ => rfl) ?_
    rw [run_of_plan rfl, Database.store_onStore]
    rcases database.store.addPhysicalPlan_cases name file size with ⟨error, hcase⟩ |
      ⟨id, normal, hfresh, hcase⟩
    · rw [hcase]
      exact .refl _
    · rw [hcase]
      exact Store.becomes_perform_one (.of_listed sound rooted (.listWithContainer _ hfresh) hfresh
        rfl rfl fun _ _ => Contents.slot?_listWithContainer ..) _
  | bind key id =>
    refine becomes_of_nothing (fun _ => rfl) ?_
    rw [run_of_plan rfl, Database.store_onStore]
    exact Store.becomes_perform_one (.of_dictionary (.bindKey key id) fun _ => rfl) _
  | unbind key =>
    refine becomes_of_nothing (fun _ => rfl) ?_
    rw [run_of_plan rfl, Database.store_onStore, Store.unbindPlan]
    split
    · exact .refl _
    · exact Store.becomes_perform_one (.of_dictionary (.removeKey key) fun _ => rfl) _
  | _ =>
    refine becomes_of_nothing (fun _ => rfl) ?_
    rw [(idle_run rfl).contents]
    exact .refl _

/-- It does so with its first append. -/
theorem Operation.becomes_course (operation : Operation) (sound : database.store.contents.Sound)
    (rooted : database.store.contents.Rooted) :
    ∀ passed ∈ operation.course database,
      database.store.contents.Becomes (operation.writes database) passed.contents := by
  cases operation with
  | addLogical name container => exact becomes_addLogical sound rooted
  | _ => exact List.forall_mem_singleton.2 (becomes_run _ sound rooted)

end Operation

/-! ## Runs -/

section Run

variable {ε : Type}

/-- While no sync fails and every batch that fails is undone to the end, the account of a step is right:
every record is what the step's writes left of it. -/
theorem Step.becomes_run (step : Step ε) {database : Database}
    (sound : database.store.contents.Sound) (rooted : database.store.contents.Rooted)
    (syncs : database.store.journal.SyncsHold) (completes : step.Completes database) :
    database.store.contents.Becomes (step.effect database) (step.run database).2.store.contents := by
  refine (sound_run_induction
    (fun database step => database.store.contents.Rooted → database.store.journal.SyncsHold →
      step.Completes database →
      database.store.contents.Becomes (step.effect database) (step.run database).2.store.contents)
    (fun database state items => ∀ {start all others}, database.store.contents.Rooted →
      database.store.journal.SyncsHold → Item.Completes database state items →
      start.Becomes all database.store.contents →
      Undo.Amid start state.batch.undo others database.store.contents →
      start.Becomes (Item.effect database state all others items)
        (Item.runAll database state items).2.store.contents)
    ?operation ?closed ?opened ?kept ?refused ?applied ?failed ?inner database step sound).2.2 rooted
      syncs completes
  case operation =>
    intro database operation sound rooted syncs completes
    exact operation.becomes_run sound rooted
  case closed =>
    intro database error number items hopen rooted syncs completes
    rw [run_commit_of_closed hopen]
    simp only [Step.effect, hopen]
    exact .refl _
  case opened =>
    intro database number items hopen hbatch rooted syncs completes
    simp only [Step.Completes, hopen] at completes
    rw [run_commit_of_open hopen]
    simp only [Step.effect, hopen]
    exact hbatch rooted syncs completes (.refl _) (.nil (.refl _))
  case kept =>
    intro database state start all others rooted syncs completes hall amid
    exact hall
  case refused =>
    intro database state entry error store _ rest sound hsound _ happly start all others rooted
      syncs completes hall amid
    obtain ⟨hcontents, hsyncs, -⟩ := Batch.refused_of_apply sound syncs happly
    simp only [Item.Completes, happly] at completes
    rw [Item.runAll_entry_of_refused happly]
    simp only [Item.effect, happly]
    exact Batch.becomes_rollback hsound hsyncs completes (hcontents ▸ amid)
  case applied =>
    intro database state entry batch store rest sound happly hbatch start all others rooted syncs
      completes hall amid
    have hrooted := (Batch.apply_of_law Store.Law.sound_rooted sound happly sound).2 rooted
    have hsyncs := (Batch.apply_of_law Store.Law.follows sound happly).syncsHold syncs
    obtain ⟨undo, listing, old, new, wrote, hundo, hcontents, -⟩ :=
      Batch.wrote_of_apply sound happly
    have hwrite : database.store.contents.Becomes (batch.lastWrite store) store.contents := by
      rw [Batch.lastWrite, hundo, hcontents]
      exact wrote.becomes sound
    simp only [Item.Completes, happly] at completes
    rw [Item.runAll_entry_of_applied happly]
    simp only [Item.effect, happly]
    refine hbatch hrooted hsyncs completes (hall.trans hwrite) ?_
    rw [hundo, hcontents]
    exact amid.entry sound wrote
  case failed =>
    intro database state _ cause rest sound _ start all others rooted syncs completes hall amid
    exact Batch.becomes_rollback sound syncs completes amid
  case inner =>
    intro database state step rest sound hstep hbatch start all others rooted syncs completes hall amid
    have hrooted := ((step.run_of_law Store.Law.sound_rooted sound).2.2 sound).2 rooted
    have hsyncs := (step.run_of_law Store.Law.follows sound).2.2.syncsHold syncs
    have hbecomes := hstep rooted syncs completes.1
    rw [Item.runAll_step]
    simp only [Item.effect]
    exact hbatch hrooted hsyncs completes.2 (hall.trans hbecomes) (amid.andThen hbecomes)

end Run

/-- Whether a reply tells of a batch that was undone. -/
def Reply.isFailure {ε : Type} : Reply ε → Bool
  | .commit (.error _) _ _ => true
  | _ => false

theorem Reply.eq_of_isFailure {ε : Type} {reply : Reply ε} (h : reply.isFailure = true) :
    ∃ error inner pulled, reply = .commit (.error error) inner pulled := by
  unfold isFailure at h
  split at h
  · exact ⟨_, _, _, rfl⟩
  · cases h

namespace Database

variable {ε : Type}

/-- A batch fails, with any steps between its entries, while no append fails. Then every record is
what the last write of those steps left that took effect: a single operation that succeeded, or an
entry of a batch that was kept. A record that no such write touched is what it was before the batch.
So it is also read, with or without the cache. If the database was opened over a log that others left,
they appended fewer than `2 ^ 32` bytes at a time; now there is no bound. -/
theorem failed_batch_keeps_other_writes {database after : Database} {number : Int32}
    {items : List (Item ε)} {error : CommitError ε} {inner : List (Reply ε)} {pulled : Nat}
    (grown : Grown ε database) (willing : database.store.journal.Willing)
    (fails : (Step.commit number items).run database = (.commit (.error error) inner pulled, after))
    (id : RecordId) :
    let left := ((Step.commit number items).effect database id).getD
      (database.store.contents.record? id)
    after.store.contents.record? id = left ∧
      (id.isValid = true → (after.store.cluster? id.cluster).isSome = true →
        (after.store.read id).1 = .ok left ∧ (after.store.readUncached id).1 = .ok left) := by
  intro left
  obtain ⟨sound, rooted⟩ := grown.sound_rooted
  have hrecord : after.store.contents.record? id = left := by
    have h := ((Step.commit number items).becomes_run sound rooted willing.syncsHold
      (Step.completes_of_willing _ sound willing)).record id
    rwa [fails] at h
  refine ⟨hrecord, fun hvalid hsome => ?_⟩
  have hreached : Reached ε after := by
    have h := Reached.stepped grown.reached (Step.commit number items)
    rwa [fails] at h
  rw [Store.cluster?, Option.isSome_map] at hsome
  obtain ⟨listing, hlisted⟩ := Option.isSome_iff_exists.1 hsome
  rw [Store.read_eq_readUncached hreached.sound_coherent.2,
    Store.readUncached_eq_record? hvalid hlisted, hrecord]
  exact ⟨rfl, rfl⟩

/-- Somebody creates a record while a batch has created one; the batch fails. -/
theorem failed_batch_keeps_other_creation :
    let items : List (Item Unit) :=
      [.entry (.create 0 none (some [1])), .step (.operation (.create 0 [2] .document)), .failure ()]
    let after := ((Step.commit 1 items).run plain).2
    after.store.contents.record? ⟨0, 0⟩ = none ∧
      after.store.contents.record? ⟨0, 1⟩ = some ⟨⟨0, 1⟩, 0, .document, [2]⟩ := by
  intro items after
  have grown : Grown Unit plain := .opened blankJournal_empty ofJournal_plain
  have failed : ((Step.commit 1 items).run plain).1.isFailure = true := by decide +kernel
  obtain ⟨error, inner, pulled, reply⟩ := Reply.eq_of_isFailure failed
  have fails : (Step.commit 1 items).run plain = (.commit (.error error) inner pulled, after) := by
    rw [← reply]
  have own := (failed_batch_keeps_other_writes grown plain_willing fails ⟨0, 0⟩).1
  have other := (failed_batch_keeps_other_writes grown plain_willing fails ⟨0, 1⟩).1
  have gone : ((Step.commit 1 items).effect plain ⟨0, 0⟩).getD
      (plain.store.contents.record? ⟨0, 0⟩) = none := by decide +kernel
  have kept : ((Step.commit 1 items).effect plain ⟨0, 1⟩).getD
      (plain.store.contents.record? ⟨0, 1⟩) = some ⟨⟨0, 1⟩, 0, .document, [2]⟩ := by decide +kernel
  exact ⟨own.trans gone, other.trans kept⟩

end Database

end RecordBase
