import Mathlib.Data.List.Forall2
import Mathlib.Data.List.Infix
import RecordBase.Proofs.Database.Interleaving

/-!
# Batches and cut logs

A batch is many entries of the log, and what undoes it are more of them. So a crash may leave some of
its entries. `Step.remains` lists what is left of the writes of a step at each of the stores that it
passes, and `Step.survives` what a cut of the log leaves of those of a run.

* `Database.cut_batch_keeps_first_entries`: a database opened over a log that was cut has all that a
  step wrote if the cut spares the step, nothing of the steps behind the cut, and of a batch that the
  cut goes through exactly the first of its entries.
-/

namespace RecordBase

open List (Forall₂)

/-! ## Entries undone one by one -/

/-- What is left of all that has happened since the start of a batch if some entries are undone, the
last one first: since a point before them there has been nothing but them, amid the writes of others. -/
def Undo.Leaves (start now : Contents) (undos : List Undo) (left : Writes) : Prop :=
  ∃ middle first next, start.Becomes first middle ∧ Amid middle undos next now ∧
    left = first.andThen next

/-- A batch under way with the entries that these undo, the last one first: what is left if none of
them is undone, and the `fewer` if one is, two are, and so on. -/
def Undo.Layered (start now : Contents) (undos : List Undo) (all : Writes) (fewer : List Writes) :
    Prop :=
  Forall₂ (Leaves start now) undos.inits (all :: fewer)

section Undo

variable {start now later : Contents} {undo : Undo} {undos : List Undo} {all left writes : Writes}
  {fewer : List Writes} {listing : Listing} {old new : Option Slot}

namespace Undo.Leaves

theorem of_becomes (h : start.Becomes left now) : Leaves start now [] left :=
  ⟨now, left, .nothing, h, .nil (.refl now), (Writes.andThen_nothing left).symm⟩

theorem becomes (leaves : Leaves start now [] left) : start.Becomes left now := by
  obtain ⟨middle, first, next, hfirst, ⟨hnext⟩, rfl⟩ := leaves
  exact hfirst.trans hnext

theorem andThen (leaves : Leaves start now undos left) (h : now.Becomes writes later) :
    Leaves start later undos (left.andThen writes) := by
  obtain ⟨middle, first, next, hfirst, amid, rfl⟩ := leaves
  exact ⟨middle, first, next.andThen writes, hfirst, amid.andThen h, Writes.andThen_assoc ..⟩

theorem entry (leaves : Leaves start now undos left) (sound : now.Sound)
    (wrote : undo.Wrote listing old new now) : Leaves start wrote.left (undo :: undos) left := by
  obtain ⟨middle, first, next, hfirst, amid, rfl⟩ := leaves
  exact ⟨middle, first, next, hfirst, amid.entry sound wrote, rfl⟩

end Undo.Leaves

namespace Undo.Layered

theorem exists_inits (undos : List Undo) : ∃ more, undos.inits = [] :: more := by
  cases undos <;> exact ⟨_, rfl⟩

theorem refl (start : Contents) : Layered start start [] .nothing [] :=
  .cons (.of_becomes (.refl start)) .nil

theorem becomes (layered : Layered start now undos all fewer) : start.Becomes all now := by
  obtain ⟨more, hinits⟩ := exists_inits undos
  rw [Layered, hinits] at layered
  obtain _ | ⟨hall, -⟩ := layered
  exact hall.becomes

theorem andThen (layered : Layered start now undos all fewer) (h : now.Becomes writes later) :
    Layered start later undos (all.andThen writes) (fewer.map (·.andThen writes)) := by
  have hmap : Forall₂ (Leaves start later) undos.inits ((all :: fewer).map (·.andThen writes)) :=
    List.forall₂_map_right_iff.2 (List.Forall₂.imp (fun _ _ leaves => leaves.andThen h) layered)
  exact hmap

/-- One more entry. -/
theorem entry (layered : Layered start now undos all fewer) (sound : now.Sound)
    (wrote : undo.Wrote listing old new now) :
    Layered start wrote.left (undo :: undos)
      (all.andThen (.single undo.id (wrote.left.record? undo.id))) (all :: fewer) := by
  rw [Layered, List.inits_cons]
  exact .cons (.of_becomes (layered.becomes.trans (wrote.becomes sound)))
    (List.forall₂_map_left_iff.2
      (List.Forall₂.imp (fun _ _ leaves => leaves.entry sound wrote) layered))

/-- The last entry is undone. -/
theorem undoOne {store : Store} (sound : store.contents.Sound) (syncs : store.journal.SyncsHold)
    (taken : store.journal.Takes (undos.length + 1))
    (layered : Layered start store.contents (undo :: undos) all fewer) :
    ∃ next rest, fewer = next :: rest ∧ (Batch.undoOne store undo).contents.Sound ∧
      (Batch.undoOne store undo).journal.SyncsHold ∧
      (Batch.undoOne store undo).journal.Takes undos.length ∧
      Layered start (Batch.undoOne store undo).contents undos next rest := by
  rw [Layered, List.inits_cons] at layered
  obtain _ | ⟨-, hfewer⟩ := layered
  -- Each of the accounts with one entry fewer was told with this entry still to be undone.
  have hundone (later : List Undo) (left : Writes)
      (h : Leaves start store.contents (undo :: later) left) :
      (Batch.undoOne store undo).contents.Sound ∧ (Batch.undoOne store undo).journal.SyncsHold ∧
        (Batch.undoOne store undo).journal.Takes undos.length ∧
        Leaves start (Batch.undoOne store undo).contents later left := by
    obtain ⟨middle, first, next, hfirst, amid, rfl⟩ := h
    obtain ⟨hsound, hsyncs, htaken, hamid⟩ := Batch.undoOne_amid sound syncs taken amid
    exact ⟨hsound, hsyncs, htaken, middle, first, next, hfirst, hamid, rfl⟩
  have hlayered := (List.forall₂_map_left_iff.1 hfewer).imp hundone
  obtain ⟨more, hinits⟩ := exists_inits undos
  rw [hinits] at hlayered
  obtain _ | ⟨⟨hsound, hsyncs, htaken, hnext⟩, hrest⟩ := hlayered
  refine ⟨_, _, rfl, hsound, hsyncs, htaken, ?_⟩
  rw [Layered, hinits]
  exact .cons hnext (hrest.imp fun _ _ h => h.2.2.2)

end Undo.Layered

/-- What is left while the entries of a batch are undone. -/
theorem Batch.becomes_undoCourse {store : Store} (sound : store.contents.Sound)
    (syncs : store.journal.SyncsHold) (taken : store.journal.Takes undos.length)
    (layered : Undo.Layered start store.contents undos all fewer) :
    Forall₂ (fun passed left => start.Becomes left passed.contents) (undoCourse store undos)
      fewer := by
  induction undos generalizing store all fewer with
  | nil =>
    obtain _ | ⟨-, ⟨⟩⟩ := layered
    exact .nil
  | cons undo rest ih =>
    obtain ⟨next, more, rfl, hsound, hsyncs, htaken, hlayered⟩ := layered.undoOne sound syncs taken
    exact .cons hlayered.becomes (ih hsound hsyncs htaken hlayered)

end Undo

/-! ## What remains of a step -/

mutual

/-- What is left of the writes of a step at each of the stores that it passes. An operation leaves the
record that it writes. A batch leaves its first entries, one more with each that is applied and one
fewer with each that is undone, and what the steps between them left. -/
def Step.remains {ε : Type} (database : Database) : Step ε → List Writes
  | .operation operation => (operation.course database).map fun _ => operation.writes database
  | .commit number items =>
    match database.ensureOpen with
    | .error _ => []
    | .ok () => Item.remains database { batch := Batch.start number } .nothing [] items

/-- What is left of a batch from some point on, given what there is with all of its entries so far and
with fewer and fewer of them. -/
def Item.remains {ε : Type} (database : Database) (state : CommitState ε) (all : Writes)
    (fewer : List Writes) : List (Item ε) → List Writes
  | [] => []
  | .entry entry :: rest =>
    let state := { state with pulled := state.pulled + 1 }
    match state.batch.apply database.store entry with
    | (.error _, _) => all :: fewer
    | (.ok batch, store) =>
      let more := all.andThen (batch.lastWrite store)
      more :: Item.remains { database with store } { state with batch } more (all :: fewer) rest
  | .failure _ :: _ => fewer
  | .step step :: rest =>
    (step.remains database).map all.andThen ++
      Item.remains (step.run database).2
        { state with inner := (step.run database).1 :: state.inner }
        (all.andThen (step.effect database)) (fewer.map (·.andThen (step.effect database))) rest

end

section Run

variable {ε : Type}

/-- While no sync fails and every batch that fails is undone to the end, this is right for every step. -/
theorem Step.becomes_course (step : Step ε) {database : Database}
    (sound : database.store.contents.Sound) (rooted : database.store.contents.Rooted)
    (syncs : database.store.journal.SyncsHold) (completes : step.Completes database) :
    Forall₂ (fun passed left => database.store.contents.Becomes left passed.contents)
      (step.course database) (step.remains database) := by
  refine (sound_run_induction
    (fun database step => database.store.contents.Rooted → database.store.journal.SyncsHold →
      step.Completes database →
      Forall₂ (fun passed left => database.store.contents.Becomes left passed.contents)
        (step.course database) (step.remains database))
    (fun database state items => ∀ {start all fewer}, database.store.contents.Rooted →
      database.store.journal.SyncsHold → Item.Completes database state items →
      Undo.Layered start database.store.contents state.batch.undo all fewer →
      Forall₂ (fun passed left => start.Becomes left passed.contents)
        (Item.course database state items) (Item.remains database state all fewer items))
    ?operation ?closed ?opened ?kept ?refused ?applied ?failed ?inner database step sound).2.2 rooted
      syncs completes
  case operation =>
    intro database operation sound rooted syncs completes
    simp only [Step.course, Step.remains]
    rw [List.forall₂_map_right_iff, List.forall₂_same]
    exact operation.becomes_course sound rooted
  case closed =>
    intro database error number items hopen rooted syncs completes
    simp only [Step.course, Step.remains, hopen]
    exact .nil
  case opened =>
    intro database number items hopen hbatch rooted syncs completes
    simp only [Step.Completes, hopen] at completes
    simp only [Step.course, Step.remains, hopen]
    exact hbatch rooted syncs completes (.refl _)
  case kept =>
    intro database state start all fewer rooted syncs completes layered
    exact .nil
  case refused =>
    intro database state entry error store _ rest sound hsound _ happly start all fewer rooted syncs
      completes layered
    obtain ⟨hcontents, hsyncs, -⟩ := Batch.refused_of_apply sound syncs happly
    rw [← hcontents] at layered
    simp only [Item.Completes, happly] at completes
    simp only [Item.course, Item.remains, happly]
    exact .cons layered.becomes (Batch.becomes_undoCourse hsound hsyncs completes layered)
  case applied =>
    intro database state entry batch store rest sound happly hbatch start all fewer rooted syncs
      completes layered
    have hrooted := (Batch.apply_of_law Store.Law.sound_rooted sound happly sound).2 rooted
    have hsyncs := (Batch.apply_of_law Store.Law.follows sound happly).syncsHold syncs
    obtain ⟨undo, listing, old, new, wrote, hundo, hcontents, -⟩ :=
      Batch.wrote_of_apply sound happly
    have hlayered : Undo.Layered start store.contents batch.undo
        (all.andThen (batch.lastWrite store)) (all :: fewer) := by
      rw [Batch.lastWrite, hundo, hcontents]
      exact layered.entry sound wrote
    simp only [Item.Completes, happly] at completes
    simp only [Item.course, Item.remains, happly]
    exact .cons hlayered.becomes (hbatch hrooted hsyncs completes hlayered)
  case failed =>
    intro database state _ cause rest sound _ start all fewer rooted syncs completes layered
    exact Batch.becomes_undoCourse sound syncs completes layered
  case inner =>
    intro database state step rest sound hstep hbatch start all fewer rooted syncs completes layered
    have hrooted := ((step.run_of_law Store.Law.sound_rooted sound).2.2 sound).2 rooted
    have hsyncs := (step.run_of_law Store.Law.follows sound).2.2.syncsHold syncs
    have hbecomes := step.becomes_run sound rooted syncs completes.1
    have hinner : Forall₂ (fun passed left => start.Becomes left passed.contents)
        (step.course database) ((step.remains database).map all.andThen) :=
      List.forall₂_map_right_iff.2 ((hstep rooted syncs completes.1).imp
        fun _ _ h => layered.becomes.trans h)
    simp only [Item.course, Item.remains]
    exact List.rel_append hinner (hbatch hrooted hsyncs completes.2 (layered.andThen hbecomes))

/-! ## What survives a cut -/

/-- Of what was left of some writes at some stores, what is left in the first `size` bytes of the log:
the last whose store has a log no longer than that. -/
def Writes.leftAt (size : Nat) (left : Writes) : List (Store × Writes) → Writes
  | [] => left
  | (store, next) :: rest => leftAt size (if store.logSize ≤ size then next else left) rest

/-- What is left of a step if the first `size` bytes of the log are. -/
def Step.tornAt (size : Nat) (database : Database) (step : Step ε) : Writes :=
  .leftAt size .nothing ((step.course database).zip (step.remains database))

/-- What survives of the writes of some steps if the first `size` bytes of the log are left: all of those
steps that ended there, nothing of those that began later, and of the one in between what is left. -/
def Step.survives (size : Nat) (database : Database) : List (Step ε) → Writes
  | [] => .nothing
  | step :: rest =>
    let after := (step.run database).2
    if after.store.logSize ≤ size then
      (step.effect database).andThen (Step.survives size after rest)
    else step.tornAt size database

/-- Of some steps every batch that fails is undone to the end. -/
def Step.CompletesAll (database : Database) : List (Step ε) → Prop
  | [] => True
  | step :: rest => step.Completes database ∧ Step.CompletesAll (step.run database).2 rest

theorem Store.becomes_heldAt {start held : Contents} {left : Writes} {course : List Store}
    {remains : List Writes}
    (h : Forall₂ (fun passed left => start.Becomes left passed.contents) course remains)
    (becomes : start.Becomes left held) (size : Nat) :
    start.Becomes (.leftAt size left (course.zip remains)) (heldAt size held course) := by
  induction h generalizing held left with
  | nil => exact becomes
  | cons passed _ ih =>
    rw [List.zip_cons_cons, Writes.leftAt, heldAt]
    refine ih ?_
    split
    · exact passed
    · exact becomes

/-- What a cut log gives back is what survives of the steps. -/
theorem Step.becomes_heldAt (steps : List (Step ε)) {database : Database}
    (sound : database.store.contents.Sound) (rooted : database.store.contents.Rooted)
    (syncs : database.store.journal.SyncsHold) (completes : Step.CompletesAll database steps)
    {size : Nat} (initial : database.store.logSize ≤ size) :
    database.store.contents.Becomes (Step.survives size database steps)
      (Store.heldAt size database.store.contents (Step.courseAll database steps)) := by
  induction steps generalizing database with
  | nil => exact .refl _
  | cons step rest ih =>
    have hsound := step.sound_run sound
    have hsyncs := (step.run_of_law Store.Law.follows sound).2.2.syncsHold syncs
    have hpath := step.path_course sound syncs
    rw [Step.courseAll, Store.heldAt_append, Step.survives]
    split
    · rename_i hle
      rw [hpath.heldAt_of_le hle]
      exact (step.becomes_run sound rooted syncs completes.1).trans
        (ih hsound (((step.run_of_law Store.Law.sound_rooted sound).2.2 sound).2 rooted) hsyncs
          completes.2 hle)
    · -- The cut goes through this step: of the stores passed after it none counts.
      rename_i hlt
      rw [Store.heldAt_of_lt (Step.path_courseAll rest hsound hsyncs) (Nat.not_le.1 hlt)]
      exact Store.becomes_heldAt (step.becomes_course sound rooted syncs completes.1) (.refl _) size

/-! ## Batches without steps between their entries -/

theorem Writes.leftAt_mem (size : Nat) (left : Writes) (course : List Store)
    (remains : List Writes) : Writes.leftAt size left (course.zip remains) ∈ left :: remains := by
  induction course generalizing left remains with
  | nil => exact List.mem_cons_self
  | cons store course ih =>
    cases remains with
    | nil => exact List.mem_cons_self
    | cons next remains =>
      rw [List.zip_cons_cons, leftAt]
      split
      · exact List.mem_cons_of_mem _ (ih next remains)
      · rcases List.mem_cons.1 (ih left remains) with h | h
        · rw [h]
          exact List.mem_cons_self
        · exact List.mem_cons_of_mem _ (List.mem_cons_of_mem _ h)

/-- What remains of a batch is what it would leave with its first items only. -/
theorem Item.remains_of_alone {items : List (Item ε)} (alone : ∀ step, Item.step step ∉ items)
    (database : Database) (state : CommitState ε) (all others : Writes) (fewer : List Writes) :
    ∀ left ∈ Item.remains database state all fewer items, left ∈ all :: fewer ∨
      ∃ count ≤ items.length, left = Item.effect database state all others (items.take count) := by
  induction items generalizing database state all fewer with
  | nil => exact List.forall_mem_nil _
  | cons item rest ih =>
    intro left hleft
    cases item with
    | entry entry =>
      rcases happly : state.batch.apply database.store entry with ⟨error | batch, store⟩ <;>
        simp only [remains, happly] at hleft
      · exact .inl hleft
      · -- One item more in front: the account with this entry is where the rest begins.
        have htake (count : Nat) :
            Item.effect database state all others ((Item.entry entry :: rest).take (count + 1)) =
              Item.effect { database with store } { state with pulled := state.pulled + 1, batch }
                (all.andThen (batch.lastWrite store)) others (rest.take count) := by
          simp only [List.take_succ_cons, effect, happly]
        have hmore : ∃ count ≤ (Item.entry entry :: rest).length,
            all.andThen (batch.lastWrite store) =
              Item.effect database state all others ((Item.entry entry :: rest).take count) :=
          ⟨1, Nat.succ_le_succ (Nat.zero_le _), by rw [htake, List.take_zero, effect]⟩
        rcases List.mem_cons.1 hleft with rfl | hrest
        · exact .inr hmore
        · rcases ih (fun step h => alone step (List.mem_cons_of_mem _ h)) _ _ _ _ left hrest with
            hsame | ⟨count, hcount, rfl⟩
          · rcases List.mem_cons.1 hsame with rfl | hfewer
            · exact .inr hmore
            · exact .inl hfewer
          · exact .inr ⟨count + 1, Nat.succ_le_succ hcount, (htake count).symm⟩
    | failure cause => exact .inl (List.mem_cons_of_mem _ hleft)
    | step step => exact absurd List.mem_cons_self (alone step)

theorem Step.tornAt_of_alone {items : List (Item ε)} (alone : ∀ step, Item.step step ∉ items)
    (size : Nat) (database : Database) (number : Int32) :
    ∃ count ≤ items.length, (Step.commit number items).tornAt size database =
      (Step.commit number (items.take count)).effect database := by
  have hmem := Writes.leftAt_mem size .nothing ((Step.commit number items).course database)
    ((Step.commit number items).remains database)
  cases hopen : database.ensureOpen with
  | error error =>
    simp only [remains, hopen, List.mem_singleton] at hmem
    exact ⟨0, Nat.zero_le _, by simp only [tornAt, effect, remains, hopen, hmem]⟩
  | ok _ =>
    simp only [remains, hopen] at hmem
    have hnone : ∃ count ≤ items.length, Writes.nothing =
        (Step.commit number (items.take count)).effect database :=
      ⟨0, Nat.zero_le _, by simp only [effect, hopen, List.take_zero, Item.effect]⟩
    rcases List.mem_cons.1 hmem with h | h
    · simp only [tornAt, remains, hopen, h, hnone]
    · rcases Item.remains_of_alone alone _ _ _ .nothing _ _ h with hsame | ⟨count, hcount, heffect⟩
      · simp only [tornAt, remains, hopen, List.mem_singleton.1 hsame, hnone]
      · exact ⟨count, hcount, by simp only [tornAt, remains, effect, hopen, heffect]⟩

/-- A batch that fails leaves none of its entries. -/
theorem Item.effect_of_failed {items : List (Item ε)} (alone : ∀ step, Item.step step ∉ items)
    {database : Database} {state : CommitState ε} {all others : Writes}
    (failed : (Item.runAll database state items).1.isFailure = true) :
    Item.effect database state all others items = others := by
  induction items generalizing database state all with
  | nil => cases failed
  | cons item rest ih =>
    cases item with
    | entry entry =>
      rcases happly : state.batch.apply database.store entry with ⟨error | batch, store⟩
      · simp only [effect, happly]
      · rw [runAll_entry_of_applied happly] at failed
        simp only [effect, happly]
        exact ih (fun step h => alone step (List.mem_cons_of_mem _ h)) failed
    | failure cause => rfl
    | step step => exact absurd List.mem_cons_self (alone step)

theorem Step.effect_of_failed {items : List (Item ε)} (alone : ∀ step, Item.step step ∉ items)
    {database : Database} {number : Int32}
    (failed : ((Step.commit number items).run database).1.isFailure = true) :
    (Step.commit number items).effect database = .nothing := by
  cases hopen : database.ensureOpen with
  | error error => simp only [effect, hopen]
  | ok _ =>
    rw [run_commit_of_open hopen] at failed
    simp only [effect, hopen]
    exact Item.effect_of_failed alone failed

end Run

namespace Database

variable {ε : Type}

/-- A durable database is put through some steps that append fewer than `2 ^ 32` bytes at a time, in which
every batch that fails is undone to the end, and of its log the first `size` bytes are left, all that it
had before among them. Opened again over these, it holds what
survives of the steps: all that a step left if it ended there, so nothing of the entries of a batch
that was undone, and nothing of the steps that began later. Of a batch that the cut goes through there
is what it would leave with its first items only, if nothing ran between them. -/
theorem cut_batch_keeps_first_entries {database : Database} (durable : Durable ε database)
    (steps : List (Step ε)) (completes : Step.CompletesAll database steps)
    (small : Store.SmallAppends database.store.logSize (Step.courseAll database steps)) {size : Nat}
    (initial : database.store.logSize ≤ size) {rest : Journal}
    (cut : rest.medium.Holds
      ((Step.runAll database steps).2.store.journal.medium.bytes.take size))
    (name : String) (mode : StorageMode) (victims : Nat → Nat) :
    (∃ reopened after, ofJournal name mode database.settings rest victims = (.ok reopened, after) ∧
      database.store.contents.Becomes (Step.survives size database steps)
        reopened.store.contents) ∧
    ∀ (start : Database) (number : Int32) (items : List (Item ε)),
      (∀ step, Item.step step ∉ items) →
      (((Step.commit number items).run start).1.isFailure = true →
        (Step.commit number items).effect start = .nothing) ∧
      ∃ count ≤ items.length, (Step.commit number items).tornAt size start =
        (Step.commit number (items.take count)).effect start := by
  obtain ⟨-, syncs, -⟩ := durable.logs
  obtain ⟨reopened, after, hopen, hheld⟩ :=
    durable.reopen_cut steps small initial cut name mode victims
  refine ⟨⟨reopened, after, hopen, ?_⟩, fun start number items alone =>
    ⟨Step.effect_of_failed alone, Step.tornAt_of_alone alone size start number⟩⟩
  rw [hheld]
  exact Step.becomes_heldAt steps durable.reached.sound_coherent.1 durable.rooted syncs completes
    initial

/-- A batch that creates two records. -/
def pair : Step Unit :=
  .commit 1 [.entry (.create 0 none (some [1])), .entry (.create 0 none (some [2]))]

/-- Of the log in which a batch has created two records, all but the last byte. -/
def pairCut : Journal :=
  { blankJournal with medium := .memory ⟨(pair.run plain).2.store.journal.medium.bytes.take 86⟩ }

theorem small_pair : Store.SmallAppends plain.store.logSize (Step.courseAll plain [pair]) := by
  decide +kernel

theorem logSize_plain_le : plain.store.logSize ≤ 86 := by decide +kernel

theorem holds_pairCut : pairCut.medium.Holds
    ((Step.runAll plain [pair]).2.store.journal.medium.bytes.take 86) := Medium.holds_memory _

/-- The cut goes through the second entry of the batch: what survives is the first one. -/
theorem cut_batch_keeps_first_entries_of_pair :
    ∃ reopened after, ofJournal "a" .memory plainSettings pairCut (fun _ => 0) =
        (.ok reopened, after) ∧
      reopened.store.contents.record? ⟨0, 0⟩ = some ⟨⟨0, 0⟩, 0, .document, [1]⟩ ∧
      reopened.store.contents.record? ⟨0, 1⟩ = none := by
  have durable : Durable Unit plain := durable_plain
  have completes : Step.CompletesAll plain [pair] :=
    ⟨pair.completes_of_willing durable.reached.sound_coherent.1 plain_willing, True.intro⟩
  obtain ⟨⟨reopened, after, opens, becomes⟩, -⟩ := cut_batch_keeps_first_entries durable [pair]
    completes small_pair logSize_plain_le holds_pairCut "a" .memory fun _ => 0
  have first : (Step.survives 86 plain [pair] ⟨0, 0⟩).getD (plain.store.contents.record? ⟨0, 0⟩) =
      some ⟨⟨0, 0⟩, 0, .document, [1]⟩ := by decide +kernel
  have second : (Step.survives 86 plain [pair] ⟨0, 1⟩).getD (plain.store.contents.record? ⟨0, 1⟩) =
      none := by decide +kernel
  exact ⟨reopened, after, opens, (becomes.record _).trans first, (becomes.record _).trans second⟩

/-- The batch has created both records, and of them the cut leaves one. -/
theorem batch_is_cut_in_two :
    (pair.run plain).1.isFailure = false ∧ plain.store.logSize ≤ 86 ∧
      ((ofJournal "a" .memory plainSettings pairCut fun _ => 0).1.toOption.map fun reopened =>
        (reopened.store.contents.record? ⟨0, 0⟩, reopened.store.contents.record? ⟨0, 1⟩)) =
        some (some ⟨⟨0, 0⟩, 0, .document, [1]⟩, none) := by
  obtain ⟨reopened, after, opens, held⟩ := (durable_plain (ε := Unit)).reopen_cut [pair] small_pair
    logSize_plain_le holds_pairCut "a" .memory fun _ => 0
  refine ⟨by decide +kernel, logSize_plain_le, ?_⟩
  rw [show plainSettings = plain.settings from rfl, opens]
  simp only [Except.toOption, Option.map_some, held]
  decide +kernel

end Database

end RecordBase
