import RecordBase.Proofs.Database.Run
import RecordBase.Proofs.Store.Twins

/-!
# The cache does not show

Databases whose stores are twins with coherent caches (`Database.Twins`) answer every step alike and
stay so.

* `Database.transcript_independent_of_cache`: opened over the same log with and without a cache, or
  with caches of any size and any choice of what is evicted, two databases give the same replies to
  any steps and write the same log. Only what tells of the cache itself is left out of the replies.
-/

namespace RecordBase

/-! ## Replies -/

/-- An answer without what it tells of the cache and the counters. -/
def Answer.withoutCounters : Answer → Answer
  | stats _ | cacheSize _ | settings _ | descriptions _ => done
  | answer => answer

mutual

/-- A reply without what its answers tell of the cache and the counters. -/
def Reply.withoutCounters {ε : Type} : Reply ε → Reply ε
  | .answer given => .answer given.withoutCounters
  | .commit result inner pulled => .commit result (Reply.allWithoutCounters inner) pulled

/-- Replies without what they tell of the cache and the counters. -/
def Reply.allWithoutCounters {ε : Type} : List (Reply ε) → List (Reply ε)
  | [] => []
  | reply :: rest => reply.withoutCounters :: Reply.allWithoutCounters rest

end

/-! ## Databases -/

/-- Databases whose stores are twins with coherent caches and that agree in all but the settings. -/
structure Database.Twins (a b : Database) : Prop where
  name : b.name = a.name
  mode : b.mode = a.mode
  listeners : b.listeners = a.listeners
  isOpen : b.isOpen = a.isOpen
  number : b.number = a.number
  told : b.told = a.told
  notices : b.notices = a.notices
  store : a.store.Twins b.store
  coherent : a.store.Coherent
  coherent' : b.store.Coherent

namespace Database

variable {a b : Database} {ε : Type}

theorem Twins.withStore (twins : a.Twins b) {c d : Store} (store : c.Twins d) (hc : c.Coherent)
    (hd : d.Coherent) : { a with store := c }.Twins { b with store := d } :=
  ⟨twins.name, twins.mode, twins.listeners, twins.isOpen, twins.number, twins.told, twins.notices,
    store, hc, hd⟩

theorem Twins.onStore {α : Type} (twins : a.Twins b) (wrap : α → Answer)
    (operation : Store → Except Error α × Store)
    (hresult : (operation a.store).1 = (operation b.store).1)
    (hstore : (operation a.store).2.Twins (operation b.store).2)
    (ha : (operation a.store).2.Coherent) (hb : (operation b.store).2.Coherent) :
    (a.onStore wrap operation).1 = (b.onStore wrap operation).1 ∧
      (a.onStore wrap operation).2.Twins (b.onStore wrap operation).2 := by
  refine ⟨?_, twins.withStore hstore ha hb⟩
  simp only [Database.onStore, hresult]

/-- A look that reads the store only past its cache. -/
theorem Twins.quiet {α : Type} (twins : a.Twins b) (wrap : α → Answer)
    (operation : Store → Except Error α × Store)
    (hquiet : ∀ store : Store, store.Quiet (operation store).2)
    (hresult : (operation a.store).1 = (operation b.store).1) :
    (a.onStore wrap operation).1 = (b.onStore wrap operation).1 ∧
      (a.onStore wrap operation).2.Twins (b.onStore wrap operation).2 :=
  twins.onStore wrap operation hresult (twins.store.quiet (hquiet _) (hquiet _))
    (twins.coherent.idle (.quiet (hquiet _))) (twins.coherent'.idle (.quiet (hquiet _)))

theorem Twins.notify (twins : a.Twins b) (event : LifecycleEvent) :
    (a.notify event).1 = (b.notify event).1 ∧ (a.notify event).2.Twins (b.notify event).2 := by
  have hcall : b.call event = a.call event := by
    simp only [call, twins.name, twins.number, twins.told, twins.isOpen]
  refine ⟨?_, ?_⟩
  · simp only [Database.notify, hcall, twins.listeners, twins.name]
  · refine ⟨twins.name, twins.mode, twins.listeners, twins.isOpen, twins.number,
      congrArg (· + 1) twins.told, ?_, twins.store, twins.coherent, twins.coherent'⟩
    simp only [Database.notify, twins.listeners, twins.name, twins.isOpen, twins.notices]

theorem Twins.close (twins : a.Twins b) :
    a.close.1 = b.close.1 ∧ a.close.2.Twins b.close.2 := by
  cases isOpen : a.isOpen with
  | false =>
    rw [close_of_closed isOpen, close_of_closed (twins.isOpen.trans isOpen)]
    exact ⟨rfl, twins⟩
  | true =>
    have isOpen' : b.isOpen = true := twins.isOpen.trans isOpen
    have hclosed : { a with isOpen := false }.Twins { b with isOpen := false } :=
      ⟨twins.name, twins.mode, twins.listeners, rfl, twins.number, twins.told, twins.notices, twins.store,
        twins.coherent, twins.coherent'⟩
    obtain ⟨hfailures, htold⟩ := hclosed.notify .closing
    obtain ⟨hresult, hstore⟩ := twins.store.settle
    constructor
    · cases settled : a.store.settle.1 with
      | ok _ =>
        rw [fst_close_of_settled isOpen settled, hfailures,
          fst_close_of_settled isOpen' (hresult.symm.trans settled)]
      | error error =>
        rw [fst_close_of_unsettled isOpen settled, hfailures, ← twins.name,
          fst_close_of_unsettled isOpen' (hresult.symm.trans settled)]
    · rw [snd_close isOpen, snd_close isOpen']
      exact htold.withStore hstore (twins.coherent.idle (Store.idle_settle _))
        (twins.coherent'.idle (Store.idle_settle _))

/-! ## Single operations -/

theorem plan?_of_twins {a b : Store} (twins : a.Twins b) (operation : Operation) :
    operation.plan? b = operation.plan? a := by
  cases operation with
  | create cluster content type => simp only [Operation.plan?, twins.createPlan]
  | update id content version type => simp only [Operation.plan?, twins.replacePlan]
  | delete id version => simp only [Operation.plan?, twins.removePlan]
  | addPhysical name file size => simp only [Operation.plan?, twins.addPhysicalPlan]
  | addLogical name container => simp only [Operation.plan?, twins.addLogicalPlan]
  | bind key id => simp only [Operation.plan?, Store.bindPlan, Store.lookup?, twins.contents]
  | unbind key => simp only [Operation.plan?, Store.unbindPlan, Store.lookup?, twins.contents]
  | _ => rfl

theorem Twins.execute (twins : a.Twins b) (request : CommandRequest) :
    ((Operation.execute request).run a).1.withoutCounters =
        ((Operation.execute request).run b).1.withoutCounters ∧
      ((Operation.execute request).run a).2.Twins ((Operation.execute request).run b).2 := by
  have hresult := twins.store.execute twins.coherent twins.coherent' request
  have ha := a.store.quiet_execute request
  have hb := b.store.quiet_execute request
  have hstore := twins.store.quiet ha hb
  have hca := twins.coherent.idle (.quiet ha)
  have hcb := twins.coherent'.idle (.quiet hb)
  simp only [Operation.run]
  generalize a.store.execute request = done at *
  generalize b.store.execute request = done' at *
  obtain ⟨_ | _, _⟩ := done <;> obtain ⟨_ | _, _⟩ := done' <;> cases hresult <;>
    exact ⟨rfl, twins.withStore hstore hca hcb⟩

/-- Twins answer an operation that writes nothing alike. -/
theorem Twins.operation_of_idle (twins : a.Twins b) (operation : Operation)
    (hplan : operation.plan? a.store = none) :
    (operation.run a).1.withoutCounters = (operation.run b).1.withoutCounters ∧
      (operation.run a).2.Twins (operation.run b).2 := by
  have store := twins.store
  cases operation with
  | create | update | delete | addPhysical | addLogical | bind | unbind => cases hplan
  | read id =>
    exact (twins.quiet _ (·.read id) (·.quiet_read id)
      (store.read twins.coherent twins.coherent' id)).imp_left (congrArg Answer.withoutCounters)
  | readUncached id =>
    exact (twins.quiet _ (·.readUncached id) (·.quiet_readUncached id)
      (store.readUncached id)).imp_left (congrArg Answer.withoutCounters)
  | scan cluster => exact ⟨by simp only [Operation.run, look, store.scan], twins⟩
  | count clusters => exact ⟨by simp only [Operation.run, look, store.count], twins⟩
  | countNamed name => exact ⟨by simp only [Operation.run, look, store.countNamed], twins⟩
  | clusterId name =>
    exact ⟨by simp only [Operation.run, look, Store.clusterNamed?, store.contents], twins⟩
  | clusterName id =>
    exact ⟨by simp only [Operation.run, look, Store.cluster?, store.contents], twins⟩
  | clusterInfo id =>
    exact ⟨by simp only [Operation.run, look, Store.cluster?, store.contents], twins⟩
  | clusterList => exact ⟨by simp only [Operation.run, look, Store.clusters, store.contents], twins⟩
  | defaultCluster =>
    exact ⟨by simp only [Operation.run, look, store.defaultClusterId], twins⟩
  | lookup key => exact ⟨by simp only [Operation.run, look, Store.lookup?, store.contents], twins⟩
  | keys => exact ⟨by simp only [Operation.run, look, store.contents], twins⟩
  | stats | cacheSize | settings | descriptions =>
    exact ⟨by simp only [Operation.run, look, Answer.withoutCounters], twins⟩
  | clearCache =>
    exact ⟨rfl, twins.withStore ⟨store.contents, store.journal, store.defaultCluster⟩
      (twins.coherent.idle (.quiet ⟨rfl, rfl, rfl, .cleared⟩))
      (twins.coherent'.idle (.quiet ⟨rfl, rfl, rfl, .cleared⟩))⟩
  | execute request => exact twins.execute request
  | flush => exact ⟨by simp only [Operation.run, look, Store.flush, store.journal], twins⟩
  | sync =>
    obtain ⟨hresult, hstore⟩ := store.sync
    exact (twins.onStore _ (·.sync) hresult hstore (twins.coherent.idle .synced)
      (twins.coherent'.idle .synced)).imp_left (congrArg Answer.withoutCounters)
  | ensureOpen => exact ⟨by simp only [Operation.run, look, Database.ensureOpen, twins.isOpen], twins⟩
  | isOpen => exact ⟨by simp only [Operation.run, look, twins.isOpen], twins⟩
  | info => exact ⟨by simp only [Operation.run, look, twins.name, twins.mode], twins⟩
  | close => exact twins.close.imp_left fun h => by simp only [Operation.run, h]
  | notify event => exact (twins.notify event).imp_left fun h => by simp only [Operation.run, h]

/-- Twins answer a single operation alike. -/
theorem Twins.operation (twins : a.Twins b) (sound : a.store.contents.Sound)
    (operation : Operation) :
    (operation.run a).1.withoutCounters = (operation.run b).1.withoutCounters ∧
      (operation.run a).2.Twins (operation.run b).2 := by
  have sound' : b.store.contents.Sound := twins.store.contents ▸ sound
  have hplan' := plan?_of_twins twins.store operation
  cases hplan : operation.plan? a.store with
  | some plan =>
    have ha := (operation.run_of_law Store.Law.coherent sound sound).2 twins.coherent
    have hb := (operation.run_of_law Store.Law.coherent sound' sound').2 twins.coherent'
    rw [hplan] at hplan'
    rw [Operation.run_of_plan hplan] at ha ⊢
    rw [Operation.run_of_plan hplan'] at hb ⊢
    obtain ⟨hresult, hstore⟩ := twins.store.perform plan
    exact (twins.onStore _ (·.perform plan) hresult hstore ha hb).imp_left
      (congrArg Answer.withoutCounters)
  | none => exact twins.operation_of_idle operation hplan

end Database

/-! ## Runs -/

section Run

variable {ε : Type} {a b : Database}

theorem Reply.allWithoutCounters_eq_map (replies : List (Reply ε)) :
    Reply.allWithoutCounters replies = replies.map Reply.withoutCounters := by
  induction replies with
  | nil => rfl
  | cons reply rest ih => rw [Reply.allWithoutCounters, ih, List.map_cons]

/-- Batches under way that have come equally far. -/
structure CommitState.Twins (state state' : CommitState ε) : Prop where
  batch : state'.batch = state.batch
  inner : Reply.allWithoutCounters state'.inner = Reply.allWithoutCounters state.inner
  pulled : state'.pulled = state.pulled

namespace CommitState

variable {state state' : CommitState ε}

theorem Twins.inner_reverse (twins : state.Twins state') :
    Reply.allWithoutCounters state'.inner.reverse = Reply.allWithoutCounters state.inner.reverse := by
  have h := twins.inner
  simp only [Reply.allWithoutCounters_eq_map, List.map_reverse] at h ⊢
  rw [h]

theorem Twins.pull (twins : state.Twins state') :
    { state with pulled := state.pulled + 1 }.Twins { state' with pulled := state'.pulled + 1 } :=
  ⟨twins.batch, twins.inner, congrArg (· + 1) twins.pulled⟩

theorem Twins.abort (twins : a.Twins b) (states : state.Twins state')
    (sound : a.store.contents.Sound) {start : Contents}
    (undoable : state.Undoable start a.store.contents) (error : CommitError ε) :
    (a.abort state error).1.withoutCounters = (b.abort state' error).1.withoutCounters ∧
      (a.abort state error).2.Twins (b.abort state' error).2 := by
  have sound' : b.store.contents.Sound := twins.store.contents ▸ sound
  have undoable' : state.Undoable start b.store.contents := twins.store.contents ▸ undoable
  refine ⟨?_, ?_⟩
  · simp only [Database.abort, Reply.withoutCounters, states.inner_reverse, states.pulled]
  · simp only [Database.abort, states.batch]
    exact twins.withStore (twins.store.rollback state.batch)
      ((Batch.rollback_of_law Store.Law.coherent sound undoable sound).2 twins.coherent)
      ((Batch.rollback_of_law Store.Law.coherent sound' undoable' sound').2 twins.coherent')

end CommitState

/-- Twins carry out any step alike. -/
theorem Database.Twins.step (twins : a.Twins b) (sound : a.store.contents.Sound) (step : Step ε) :
    (step.run a).1.withoutCounters = (step.run b).1.withoutCounters ∧
      (step.run a).2.Twins (step.run b).2 := by
  refine (Step.sound_run_induction
    (fun a step => ∀ {b : Database}, a.Twins b →
      (step.run a).1.withoutCounters = (step.run b).1.withoutCounters ∧
        (step.run a).2.Twins (step.run b).2)
    (fun a state items => ∀ {b : Database} {state' : CommitState ε}, a.Twins b →
      state.Twins state' →
      (Item.runAll a state items).1.withoutCounters =
          (Item.runAll b state' items).1.withoutCounters ∧
        (Item.runAll a state items).2.Twins (Item.runAll b state' items).2)
    ?operation ?closed ?opened ?kept ?refused ?applied ?failed ?inner a step sound).2.2 twins
  case operation =>
    intro a operation sound b twins
    exact (twins.operation sound operation).imp_left fun h => by
      simp only [Step.run, Reply.withoutCounters, h]
  case closed =>
    intro a error number items hopen b twins
    have hopen' : b.ensureOpen = .error error := by
      rw [← hopen, Database.ensureOpen, Database.ensureOpen, twins.isOpen]
    rw [Step.run_commit_of_closed hopen, Step.run_commit_of_closed hopen']
    exact ⟨rfl, twins⟩
  case opened =>
    intro a number items hopen hbatch b twins
    have hopen' : b.ensureOpen = .ok () := by
      rw [← hopen, Database.ensureOpen, Database.ensureOpen, twins.isOpen]
    rw [Step.run_commit_of_open hopen, Step.run_commit_of_open hopen']
    exact hbatch twins ⟨rfl, rfl, rfl⟩
  case kept =>
    intro a state b state' twins states
    refine ⟨?_, ?_⟩
    · simp only [Item.runAll, Database.keep, Reply.withoutCounters, Batch.keep, states.batch,
        states.inner_reverse, states.pulled]
    · exact twins.withStore ⟨twins.store.contents, twins.store.journal, twins.store.defaultCluster⟩
        (twins.coherent.idle (.quiet (.ofStats _ _)))
        (twins.coherent'.idle (.quiet (.ofStats _ _)))
  case refused =>
    intro a state entry error store start rest sound hsound undoable happly b state' twins states
    have sound' : b.store.contents.Sound := twins.store.contents ▸ sound
    obtain ⟨store', happly', hstore⟩ := twins.store.apply happly
    rw [← states.batch] at happly'
    have hca := (Batch.apply_of_law Store.Law.coherent sound happly sound).2 twins.coherent
    have hcb := (Batch.apply_of_law Store.Law.coherent sound' happly' sound').2 twins.coherent'
    rw [Item.runAll_entry_of_refused happly, Item.runAll_entry_of_refused happly']
    exact states.pull.abort (twins.withStore hstore hca hcb) hsound undoable _
  case applied =>
    intro a state entry batch store rest sound happly hbatch b state' twins states
    have sound' : b.store.contents.Sound := twins.store.contents ▸ sound
    obtain ⟨store', happly', hstore⟩ := twins.store.apply happly
    rw [← states.batch] at happly'
    have hca := (Batch.apply_of_law Store.Law.coherent sound happly sound).2 twins.coherent
    have hcb := (Batch.apply_of_law Store.Law.coherent sound' happly' sound').2 twins.coherent'
    rw [Item.runAll_entry_of_applied happly, Item.runAll_entry_of_applied happly']
    exact hbatch (twins.withStore hstore hca hcb)
      ⟨rfl, states.inner, congrArg (· + 1) states.pulled⟩
  case failed =>
    intro a state start cause rest sound undoable b state' twins states
    exact states.pull.abort twins sound undoable _
  case inner =>
    intro a state step rest sound hstep hbatch b state' twins states
    obtain ⟨hreply, hafter⟩ := hstep twins
    rw [Item.runAll_step, Item.runAll_step]
    refine hbatch hafter ⟨states.batch, ?_, states.pulled⟩
    simp only [Reply.allWithoutCounters, hreply, states.inner]

/-- Twins carry out any steps alike. -/
theorem Database.Twins.steps (twins : a.Twins b) (sound : a.store.contents.Sound)
    (steps : List (Step ε)) :
    (Step.runAll a steps).1.map Reply.withoutCounters =
        (Step.runAll b steps).1.map Reply.withoutCounters ∧
      (Step.runAll a steps).2.Twins (Step.runAll b steps).2 := by
  induction steps generalizing a b with
  | nil => exact ⟨rfl, twins⟩
  | cons step rest ih =>
    obtain ⟨hreply, hafter⟩ := twins.step sound step
    obtain ⟨hreplies, hlast⟩ := ih hafter (step.sound_run sound)
    rw [Step.runAll_cons, Step.runAll_cons, List.map_cons, List.map_cons, hreply, hreplies]
    exact ⟨rfl, hlast⟩

end Run

/-! ## Transcripts -/

namespace Database

variable {ε : Type}

/-- What opening a database over a log and carrying out some steps gives: the replies, without what
they tell of the cache and the counters, and the journal. -/
def transcript (name : String) (mode : StorageMode) (settings : Settings) (victims : Nat → Nat)
    (journal : Journal) (steps : List (Step ε)) : Except Error (List (Reply ε)) × Journal :=
  match ofJournal name mode settings journal victims with
  | (.error error, journal) => (.error error, journal)
  | (.ok database, _) =>
    let (replies, database) := Step.runAll database steps
    (.ok (replies.map Reply.withoutCounters), database.store.journal)

/-- With or without a cache, of whatever capacity and whichever records it evicts, the replies to
any steps and the log they leave are the same. -/
theorem transcript_independent_of_cache (name : String) (mode : StorageMode) (settings : Settings)
    (useCache : Bool) (cacheCapacity : Nat) (victims victims' : Nat → Nat) (journal : Journal)
    (steps : List (Step ε)) :
    transcript name mode { settings with useCache, cacheCapacity } victims' journal steps =
      transcript name mode settings victims journal steps := by
  rcases Store.twins_ofJournal settings useCache cacheCapacity victims victims' journal with
    ⟨error, after, ha, hb⟩ | ⟨a, b, after, ha, hb, twins⟩
  · simp only [transcript, ofJournal, ha, hb]
  · obtain ⟨sound, ca⟩ := Store.sound_coherent_ofJournal ha
    obtain ⟨-, cb⟩ := Store.sound_coherent_ofJournal hb
    have databases : ({ name, mode, settings, store := a } : Database).Twins
        { name, mode, settings := { settings with useCache, cacheCapacity }, store := b } :=
      ⟨rfl, rfl, rfl, rfl, rfl, rfl, rfl, twins, ca, cb⟩
    obtain ⟨hreplies, hlast⟩ := databases.steps sound steps
    simp only [transcript, ofJournal, ha, hb, hreplies, hlast.store.journal]

end Database

end RecordBase
