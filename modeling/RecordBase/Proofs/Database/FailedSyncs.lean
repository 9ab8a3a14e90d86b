import RecordBase.Proofs.Database.Reached
import RecordBase.Proofs.Store.Told

/-!
# Syncs that fail

Of a database whose journal syncs every append, some syncs fail. An operation that fails for it has
written an entry all the same, and whoever opens the log later finds what the entry says.

* `Database.faithful_iff`: a run of operations leaves no such trace just if no operation fails after
  its entry was written, but for those that bind a key to what it is bound to anyway;
* `Database.failed_create_is_found`: a record that could not be created is found after reopening, and
  a cluster that could not be added shares its id with the next one.
-/

namespace RecordBase

/-! ## What a database shows -/

/-- Contents that show what others do: the same clusters, records with their versions, and bindings. -/
structure Contents.Shows (found held : Contents) : Prop where
  clusters : ∀ id,
    (found.clusters.get? id).map (·.cluster) = (held.clusters.get? id).map (·.cluster)
  names : ∀ name, found.names.get? name = held.names.get? name
  records : ∀ id, found.record? id = held.record? id
  bindings : ∀ key, found.dictionary.get? key = held.dictionary.get? key

theorem Contents.Shows.refl (contents : Contents) : contents.Shows contents :=
  ⟨fun _ => rfl, fun _ => rfl, fun _ => rfl, fun _ => rfl⟩

/-- Whether an answer reports an error. -/
def Answer.isError : Answer → Bool
  | .failed _ | .commandFailed _ => true
  | .failures reported => !reported.isEmpty
  | _ => false

/-- Whoever opens the log of a database anew, with the same settings, is shown this. -/
def Database.ReopensTo (database : Database) (held : Contents) : Prop :=
  ∀ (journal : Journal) (name : String) (mode : StorageMode) (victims : Nat → Nat),
    journal.medium.Holds database.store.journal.medium.bytes →
    ∃ reopened after,
      Database.ofJournal name mode database.settings journal victims = (.ok reopened, after) ∧
      reopened.store.contents.Shows held

namespace Operation

/-- Once an operation is done, opening the log shows what the database shows, and what it showed
before if the operation reports an error; and no two clusters of the log share an id. -/
structure Faithful (database : Database) (operation : Operation) : Prop where
  live : (operation.run database).2.ReopensTo (operation.run database).2.store.contents
  failed : (operation.run database).1.isError = true →
    (operation.run database).2.ReopensTo database.store.contents
  apart : ∀ entries replayed,
    (operation.run database).2.store.journal.replay = .ok (entries, replayed) →
    (Log.clusterIds entries).Nodup

/-- An operation reports an error though an entry was written: the sync after it failed. -/
def Unsynced (database : Database) (operation : Operation) : Prop :=
  (operation.run database).1.isError = true ∧
    database.store.logSize < (operation.run database).2.store.logSize

instance (database : Database) (operation : Operation) : Decidable (operation.Unsynced database) :=
  inferInstanceAs (Decidable (_ ∧ _))

/-- An operation binds a key to what it is bound to. -/
def Rebinds (contents : Contents) (operation : Operation) : Prop :=
  ∃ key id, operation = .bind key id ∧ contents.dictionary.get? key = some id

/-- An operation adds fewer than `2 ^ 32` bytes to the log. -/
def AddsLittle (database : Database) (operation : Operation) : Prop :=
  (operation.run database).2.store.logSize < database.store.logSize + 2 ^ 32

instance (database : Database) (operation : Operation) : Decidable (operation.AddsLittle database) :=
  inferInstanceAs (Decidable (_ < _))

/-- Every operation of a run has a property at the database that the ones before it leave. -/
inductive Each (P : Database → Operation → Prop) : Database → List Operation → Prop
  | nil (database : Database) : Each P database []
  | cons {database : Database} {operation : Operation} {rest : List Operation}
      (first : P database operation) (others : Each P (operation.run database).2 rest) :
      Each P database (operation :: rest)

theorem each_cons {P : Database → Operation → Prop} {database : Database} {operation : Operation}
    {rest : List Operation} :
    Each P database (operation :: rest) ↔
      P database operation ∧ Each P (operation.run database).2 rest := by
  constructor
  · rintro (_ | ⟨first, others⟩)
    exact ⟨first, others⟩
  · rintro ⟨first, others⟩
    exact .cons first others

end Operation

/-! ## What an entry shows -/

/-- A deed in order that would be noticed, unless it is one that changes nothing. -/
structure Contents.Noticed (changesNothing : Prop) (contents : Contents) (deed : Deed) : Prop where
  fits : contents.Fits deed
  same : changesNothing → deed.after = contents
  differs : ¬ changesNothing → ¬ deed.after.Shows contents

namespace Contents

variable {contents : Contents} {deed : Deed} {nothing : Prop}

theorem Noticed.of_differs (fits : contents.Fits deed) (something : ¬ nothing)
    (differs : ¬ deed.after.Shows contents) : contents.Noticed nothing deed :=
  ⟨fits, fun h => absurd h something, fun _ => differs⟩

/-- Deeds that change nothing leave what is held alone. -/
theorem Noticed.law : Store.Law (Noticed nothing) fun a b => nothing → b.contents = a.contents where
  trans h₁ h₂ h := (h₂ h).trans (h₁ h)
  idle h _ := h.contents
  tries h hnothing := by
    cases h with
    | refused _ _ => rfl
    | written noticed _ =>
      rw [Store.contents_done]
      exact noticed.same hnothing

theorem not_shows_of_record {after : Contents} {id : RecordId} {found held : Option Record}
    (hfound : after.record? id = found) (hheld : contents.record? id = held) (hne : found ≠ held) :
    ¬ after.Shows contents := fun shows => hne (by rw [← hfound, ← hheld, shows.records])

theorem not_shows_of_cluster {after : Contents} {id : Int16} {listing : Listing}
    (fresh : contents.clusters.get? id = none) (listed : after.clusters.get? id = some listing) :
    ¬ after.Shows contents := by
  intro shows
  have := shows.clusters id
  rw [fresh, listed] at this
  cases this

/-- A record at a position that was free. -/
theorem not_shows_of_put (sound : contents.Sound) {listing : Listing} {position : Int64} {slot : Slot}
    (listed : contents.clusters.get? listing.cluster.id = some listing)
    (free : contents.slot? listing.home position = none) (owner : slot.owner = listing.cluster.id) :
    ¬ (contents.putSlot listing.home position slot).Shows contents := by
  have hbefore : contents.record? ⟨listing.cluster.id, position⟩ = none := by
    rw [record?_of_keyed sound listed, free]
    rfl
  have hafter := record?_putSlot sound (.of_free listed free) owner ⟨listing.cluster.id, position⟩
  rw [if_pos rfl] at hafter
  exact not_shows_of_record hafter hbefore nofun

end Contents

namespace Store

variable {store : Store} {nothing : Prop}

theorem createPlan_noticed (sound : store.contents.Sound) (something : ¬ nothing) (cluster : Int16)
    (content : Bytes) (type : RecordType) :
    (store.createPlan cluster content type).Each (Contents.Noticed nothing) store.contents := by
  rcases createPlan_cases sound cluster content type with ⟨error, hplan⟩ |
    ⟨listing, position, slot, tally, hlisted, hposition, howner, -, hplan⟩
  · rw [hplan]
    exact .refuse error
  · rw [hplan]
    have hkey : store.contents.clusters.get? listing.cluster.id = some listing := by
      rw [sound.keyed hlisted]
      exact hlisted
    have hfree := slot?_next sound hposition
    exact .one (.of_differs (.put _ (.of_free hkey hfree) howner) something
      (Contents.not_shows_of_put sound hkey hfree howner)) _

theorem replacePlan_noticed (sound : store.contents.Sound) (something : ¬ nothing) (id : RecordId)
    (content : Bytes) (version : Int32) (type : Option RecordType) :
    (store.replacePlan id content version type).Each (Contents.Noticed nothing) store.contents := by
  rcases store.replacePlan_cases id content version type with ⟨error, hplan⟩ |
    ⟨listing, old, slot, tally, hstored, howner, hversion, hplan⟩
  · rw [hplan]
    exact .refuse error
  · rw [hplan]
    have hafter := Contents.record?_putSlot sound (hstored.admits sound) howner id
    have hfits := Contents.Fits.put tally (hstored.admits sound) howner
    rw [hstored.id_eq sound] at hfits hafter
    rw [if_pos rfl] at hafter
    refine .one (.of_differs hfits something ?_) _
    refine Contents.not_shows_of_record hafter hstored.record?_eq fun he => ?_
    have hsame : slot.version = old.version := congrArg Record.version (Option.some.inj he)
    rw [hsame] at hversion
    omega

theorem removePlan_noticed (sound : store.contents.Sound) (something : ¬ nothing) (id : RecordId)
    (version : Int32) :
    (store.removePlan id version).Each (Contents.Noticed nothing) store.contents := by
  rcases store.removePlan_cases id version with ⟨error, hplan⟩ | ⟨listing, old, tally, hstored, hplan⟩
  · rw [hplan]
    exact .refuse error
  · rw [hplan]
    have hafter := Contents.record?_removeSlot sound (hstored.admits sound) id
    have hfits := Contents.Fits.free tally (hstored.admits sound)
    rw [hstored.id_eq sound] at hfits hafter
    rw [if_pos rfl] at hafter
    exact .one (.of_differs hfits something
      (Contents.not_shows_of_record hafter hstored.record?_eq nofun)) _

theorem addPhysicalPlan_noticed (store : Store) (something : ¬ nothing) (name : String)
    (file : Option String) (size : Int32) :
    (store.addPhysicalPlan name file size).Each (Contents.Noticed nothing) store.contents := by
  rcases store.addPhysicalPlan_cases name file size with ⟨error, hplan⟩ | ⟨id, normal, hfresh, hplan⟩
  · rw [hplan]
    exact .refuse error
  · rw [hplan]
    exact .one (.of_differs (.listPhysical hfresh) something
      (Contents.not_shows_of_cluster hfresh (Table.get?_insert_self _ _ _))) _

theorem addLogicalPlan_noticed (sound : store.contents.Sound) (something : ¬ nothing) (name : String)
    (container : Int32) :
    (store.addLogicalPlan name container).Each (Contents.Noticed nothing) store.contents := by
  rcases addLogicalPlan_cases sound name container with ⟨error, hplan⟩ |
    ⟨listing, id, normal, position, slot, announced, hlisted, -, hfresh, hposition, howner, -, rfl,
      hplan⟩
  · rw [hplan]
    exact .refuse error
  · rw [hplan]
    have hfree := slot?_next sound hposition
    refine .act _ (.cons (.of_differs (.announce hlisted hfree howner) something
      (Contents.not_shows_of_put sound hlisted hfree howner)) (.cons ?_ (.nil _)))
    exact .of_differs (.listLogical hlisted hfresh) something
      (Contents.not_shows_of_cluster hfresh (Table.get?_insert_self _ _ _))

/-- Binding a key goes unnoticed if the key is bound so. -/
theorem bindPlan_noticed (store : Store) (key : String) (id : RecordId) :
    (store.bindPlan key id).Each
      (Contents.Noticed (store.contents.dictionary.get? key = some id)) store.contents := by
  refine .one ⟨.bind, fun bound => ?_, fun unbound shows => ?_⟩ _
  · show store.contents.bindKey key id = store.contents
    rw [Contents.bindKey, Table.insert_eq_self bound]
  · have hkey := shows.bindings key
    refine unbound (hkey.symm.trans ?_)
    exact Table.get?_insert_self _ _ _

theorem unbindPlan_noticed (store : Store) (something : ¬ nothing) (key : String) :
    (store.unbindPlan key).Each (Contents.Noticed nothing) store.contents := by
  unfold unbindPlan
  split
  · exact .act _ (.nil _)
  · rename_i previous hbound
    refine .one (.of_differs .unbind something fun shows => ?_) _
    have hkey : (store.contents.dictionary.erase key).get? key = store.contents.dictionary.get? key :=
      shows.bindings key
    rw [Table.get?_erase, if_pos rfl] at hkey
    exact absurd (hkey.trans hbound) nofun

end Store

namespace Operation

variable {database : Database} {operation : Operation}

theorem plan?_noticed {store : Store} {plan : Plan Answer} (sound : store.contents.Sound)
    (h : operation.plan? store = some plan) :
    plan.Each (Contents.Noticed (operation.Rebinds store.contents)) store.contents := by
  have hother (hbind : ∀ key id, operation ≠ .bind key id) : ¬ operation.Rebinds store.contents :=
    fun ⟨key, id, he, _⟩ => hbind key id he
  cases operation with
  | create cluster content type =>
    obtain rfl := Option.some.inj h
    exact (Store.createPlan_noticed sound (hother nofun) cluster content type).map _
  | update id content version type =>
    obtain rfl := Option.some.inj h
    exact (Store.replacePlan_noticed sound (hother nofun) id content version (some type)).map _
  | delete id version =>
    obtain rfl := Option.some.inj h
    exact (Store.removePlan_noticed sound (hother nofun) id version).map _
  | addPhysical name file size =>
    obtain rfl := Option.some.inj h
    exact (store.addPhysicalPlan_noticed (hother nofun) name file size).map _
  | addLogical name container =>
    obtain rfl := Option.some.inj h
    exact (Store.addLogicalPlan_noticed sound (hother nofun) name container).map _
  | bind key id =>
    obtain rfl := Option.some.inj h
    have hiff : (Operation.bind key id).Rebinds store.contents ↔
        store.contents.dictionary.get? key = some id := by
      constructor
      · rintro ⟨_, _, he, hbound⟩
        cases he
        exact hbound
      · exact fun hbound => ⟨key, id, rfl, hbound⟩
    rw [propext hiff]
    exact (store.bindPlan_noticed key id).map _
  | unbind key =>
    obtain rfl := Option.some.inj h
    exact (store.unbindPlan_noticed (hother nofun) key).map _
  | _ => cases h

/-- What an operation answers if it writes all it is going to write is no error. -/
theorem isError_of_plan? {store : Store} {deeds : List Deed} {answer : Answer}
    (h : operation.plan? store = some (.act deeds answer)) : answer.isError = false := by
  have hmap {α : Type} {f : α → Answer} {plan : Plan α} (hf : ∀ value, (f value).isError = false)
      (h : some (plan.map f) = some (.act deeds answer)) : answer.isError = false := by
    cases plan with
    | refuse error => cases h
    | act given value =>
      cases h
      exact hf value
  cases operation with
  | create | update | delete | addPhysical | addLogical | bind | unbind => exact hmap (fun _ => rfl) h
  | _ => cases h

end Operation

/-! ## Opening -/

namespace Store

variable {settings : Settings} {victims : Nat → Nat} {journal last : Journal} {after : Store}

/-- Reading a journal back leaves all but its medium alone. -/
theorem replayed_eq {entries : List LogEntry} {replayed : Journal}
    (h : journal.replay = .ok (entries, replayed)) : ∃ medium, replayed = { journal with medium } := by
  rw [Journal.replay] at h
  obtain ⟨bytes, -, h⟩ := ok_of_bind h
  obtain ⟨⟨found, length⟩, -, h⟩ := ok_of_bind h
  simp only at h
  split at h
  · obtain ⟨medium, -, h⟩ := ok_of_bind h
    cases h
    exact ⟨medium, rfl⟩
  · cases h
    exact ⟨journal.medium, rfl⟩

theorem accepts_of_ofJournal (accepts : journal.Accepts)
    (h : ofJournal settings victims journal = (.ok after, last)) : after.journal.Accepts := by
  obtain ⟨entries, replayed, contents, hreplay, -, -, hopen⟩ := ofJournal_cases h
  obtain ⟨medium, rfl⟩ := replayed_eq hreplay
  rcases hopen with ⟨-, rfl⟩ | ⟨-, hadd⟩
  · exact accepts
  · have hkept := addInitial_of_law Law.accepts
      (ofContents settings victims { journal with medium } contents) settings.initialClusters accepts
    rwa [hadd] at hkept

/-- A store opened over what a cut has left of a log that tells what a store holds. -/
theorem Told.opened {before : Store} {entries : List LogEntry} (told : before.Told entries)
    {size : Nat} (cut : journal.medium.Holds (before.journal.medium.bytes.take size))
    (h : ofJournal settings victims journal = (.ok after, last))
    (small : SmallAppends size (openingCourse settings victims journal)) :
    (∃ found, after.Told found) ∧ (settings.initialClusters = [] ∨
      ∃ id listing, after.contents.clusters.get? id = some listing) := by
  obtain ⟨start, course, hcourse, hlogs, hpath, -, hfounded⟩ :=
    path_openingCourse_of_ok told.logs cut h
  rw [hcourse] at small
  have hstart : start.Told (Log.whole size entries) := ⟨hlogs, told.apart_whole size⟩
  obtain ⟨more, hlast⟩ := hstart.path hpath small.2
  exact ⟨⟨_, hlast⟩, hfounded⟩

end Store

/-- While no sync fails, the log of a database tells what it holds. -/
theorem Database.Durable.told {ε : Type} {database : Database} (durable : Durable ε database) :
    ∃ entries, database.store.Told entries := by
  induction durable with
  | @opened name mode settings victims journal after database empty syncs opens small =>
    have hall : journal.medium.Holds (journal.medium.bytes.take 0) := empty
    have hempty : (Store.ofContents settings victims journal {}).Told [] :=
      ⟨Store.logs_ofContents_empty settings victims empty, List.nodup_nil⟩
    exact (hempty.opened hall (ofJournal_ok opens).1 small).1
  | @stepped database durable step small ih =>
    obtain ⟨entries, htold⟩ := ih
    have sound := durable.reached.sound_coherent.1
    obtain ⟨more, hlast⟩ := htold.path (step.path_course sound durable.logs.2.1) small
    exact ⟨_, hlast⟩
  | reopened _ cut _ opens small ih =>
    obtain ⟨entries, htold⟩ := ih
    exact (htold.opened cut (ofJournal_ok opens).1 small).1

/-! ## Runs with failing syncs -/

namespace Database

/-- The log of a database tells what it holds, its journal takes every append, and it has a cluster or
no first ones. -/
structure Told (database : Database) : Prop where
  told : ∃ entries, database.store.Told entries
  accepts : database.store.journal.Accepts
  founded : database.settings.initialClusters = [] ∨
    ∃ id listing, database.store.contents.clusters.get? id = some listing

variable {database : Database} {operation : Operation}

theorem Told.sound (told : database.Told) : database.store.contents.Sound := by
  obtain ⟨entries, htold⟩ := told.told
  exact Contents.Sound.empty.applyAll htold.logs.rebuilt

/-- A log that tells what some store holds shows that. -/
theorem reopens_of_told {store : Store} {entries : List LogEntry} (told : store.Told entries)
    (founded : database.settings.initialClusters = [] ∨
      ∃ id listing, store.contents.clusters.get? id = some listing)
    (medium : database.store.journal.medium = store.journal.medium) {journal : Journal}
    (whole : journal.medium.Holds database.store.journal.medium.bytes) (name : String)
    (mode : StorageMode) (victims : Nat → Nat) :
    ∃ reopened after,
      ofJournal name mode database.settings journal victims = (.ok reopened, after) ∧
      reopened.store.contents = store.contents := by
  rw [medium] at whole
  obtain ⟨medium, hopen⟩ := told.logs.reopens founded whole victims
  exact ⟨_, _, ofJournal_of_store name mode hopen, rfl⟩

theorem Told.reopensTo (told : database.Told) : database.ReopensTo database.store.contents := by
  obtain ⟨entries, htold⟩ := told.told
  intro journal name mode victims whole
  obtain ⟨reopened, after, hopen, hcontents⟩ :=
    reopens_of_told htold told.founded rfl whole name mode victims
  exact ⟨reopened, after, hopen, hcontents ▸ .refl _⟩

/-- A log that tells of something else does not show what a database holds. -/
theorem not_reopensTo {store : Store} {entries : List LogEntry} (told : store.Told entries)
    (founded : database.settings.initialClusters = [] ∨
      ∃ id listing, store.contents.clusters.get? id = some listing)
    (medium : database.store.journal.medium = store.journal.medium) {held : Contents}
    (differs : ¬ store.contents.Shows held) : ¬ database.ReopensTo held := by
  intro reopensTo
  have hholds : database.store.journal.medium.Holds database.store.journal.medium.bytes := by
    rw [medium, told.logs.holds.bytes_eq]
    exact told.logs.holds
  obtain ⟨reopened, after, hopen, hcontents⟩ :=
    reopens_of_told told founded medium hholds "" .memory fun _ => 0
  obtain ⟨other, last, hother, shows⟩ := reopensTo database.store.journal "" .memory _ hholds
  rw [hopen] at hother
  cases hother
  exact differs (hcontents ▸ shows)

/-- An operation after which the log tells what the store holds. -/
theorem Told.run (told : database.Told) {entries : List LogEntry}
    (after : (operation.run database).2.store.Told entries) : (operation.run database).2.Told where
  told := ⟨entries, after⟩
  accepts := operation.run_of_law Store.Law.accepts told.sound told.accepts
  founded := by
    rw [operation.settings_run]
    exact told.founded.imp_right fun ⟨id, listing, hlisted⟩ =>
      ⟨id, listing, (operation.sound_advances_run told.sound).2.listed hlisted⟩

theorem Told.faithful (after : (operation.run database).2.Told)
    (same : (operation.run database).1.isError = true →
      (operation.run database).2.store.contents = database.store.contents) :
    operation.Faithful database where
  live := after.reopensTo
  failed h := same h ▸ after.reopensTo
  apart entries replayed hreplay := by
    obtain ⟨told, htold⟩ := after.told
    rw [Journal.replay_of_holds_bytes htold.logs.small htold.logs.holds] at hreplay
    cases hreplay
    exact htold.apart

/-- An operation that leaves the log and what is held alone. -/
theorem Told.still (told : database.Told)
    (still : database.store.Still (operation.run database).2.store) :
    (operation.run database).2.Told ∧ operation.Faithful database ∧ ¬ operation.Unsynced database := by
  obtain ⟨entries, htold⟩ := told.told
  have hafter := told.run (htold.still still)
  refine ⟨hafter, hafter.faithful fun _ => still.contents, fun unsynced => ?_⟩
  have hsize : (operation.run database).2.store.logSize = database.store.logSize :=
    congrArg Medium.size still.medium
  exact absurd unsynced.2 (by rw [hsize]; exact Nat.lt_irrefl _)

/-- One operation: the log goes on telling what is held, and every error leaves no trace, or an entry
was written for a change that was not made. -/
theorem Told.step (told : database.Told) (operation : Operation)
    (little : operation.AddsLittle database) :
    (operation.run database).2.Told ∧ operation.Faithful database ∧
        (operation.Unsynced database → operation.Rebinds database.store.contents) ∨
      ¬ operation.Faithful database ∧ operation.Unsynced database ∧
        ¬ operation.Rebinds database.store.contents := by
  cases hplan : operation.plan? database.store with
  | none =>
    obtain ⟨hafter, hfaithful, hsynced⟩ := told.still (Operation.idle_run hplan).still
    exact .inl ⟨hafter, hfaithful, fun h => absurd h hsynced⟩
  | some plan =>
    have hnoticed := Operation.plan?_noticed told.sound hplan
    have hrun := Operation.run_of_plan hplan
    cases hnoticed with
    | refuse error =>
      have hstill : database.store.Still (operation.run database).2.store := by
        rw [hrun]
        exact ⟨rfl, rfl⟩
      obtain ⟨hafter, hfaithful, hsynced⟩ := told.still hstill
      exact .inl ⟨hafter, hfaithful, fun h => absurd h hsynced⟩
    | @act deeds answer each =>
      obtain ⟨entries, htold⟩ := told.told
      simp only [onStore, Store.perform_act] at hrun
      have hanswer := congrArg Prod.fst hrun
      have hstore : (operation.run database).2.store = (database.store.enact deeds).2 := by rw [hrun]
      rw [Operation.AddsLittle, hstore] at little
      rcases htold.enact (·.fits) told.accepts each little with
        ⟨hok, more, hlast⟩ | ⟨error, deed, more, herror, hdeed, hgrown, hlast⟩
      · have hdone : (operation.run database).1.isError = false := by
          rw [hanswer, hok]
          exact Operation.isError_of_plan? hplan
        have hafter := told.run (hstore ▸ hlast)
        refine .inl ⟨hafter, hafter.faithful fun h => ?_, fun h => ?_⟩
        · rw [hdone] at h
          cases h
        · rw [Operation.Unsynced, hdone] at h
          cases h.1
      · have hunsynced : operation.Unsynced database := by
          rw [Operation.Unsynced, hanswer, herror, hstore]
          exact ⟨rfl, hgrown⟩
        -- The deed that failed is told by the log; it matters only if it would change something.
        by_cases hnothing : operation.Rebinds database.store.contents
        · rw [hdeed.same hnothing] at hlast
          have hafter := told.run (hstore ▸ hlast)
          refine .inl ⟨hafter, hafter.faithful fun _ => ?_, fun _ => hnothing⟩
          rw [hstore]
          exact Contents.Noticed.law.enact each hnothing
        · refine .inr ⟨fun faithful => ?_, hunsynced, hnothing⟩
          refine not_reopensTo hlast ?_ (congrArg (fun store => store.journal.medium) hstore) ?_
            faithful.live
          · rw [operation.settings_run]
            rcases told.founded with hempty | ⟨id, listing, hlisted⟩
            · exact .inl hempty
            · have hkept := (operation.sound_advances_run told.sound).2.listed hlisted
              rw [hstore] at hkept
              exact .inr ⟨id, listing, hdeed.fits.listed hkept⟩
          · rw [hstore]
            exact hdeed.differs hnothing

/-- Opened over what a crash left of the log of a durable database. -/
theorem told_of_ofJournal {ε : Type} {name : String} {mode : StorageMode} {settings : Settings}
    {victims : Nat → Nat} {journal last : Journal} {crashed : Database}
    (durable : Durable ε crashed) {size : Nat}
    (cut : journal.medium.Holds (crashed.store.journal.medium.bytes.take size))
    (accepts : journal.Accepts)
    (opens : ofJournal name mode settings journal victims = (.ok database, last))
    (small : Store.SmallAppends size (Store.openingCourse settings victims journal)) :
    database.Told := by
  obtain ⟨hstore, hsettings⟩ := ofJournal_ok opens
  obtain ⟨entries, htold⟩ := durable.told
  obtain ⟨hafter, hfounded⟩ := htold.opened cut hstore small
  exact ⟨hafter, Store.accepts_of_ofJournal accepts hstore, hsettings ▸ hfounded⟩

/-- Operations on such a database. -/
theorem Told.each_iff (told : database.Told) {operations : List Operation}
    (little : Operation.Each (fun database operation => operation.AddsLittle database) database
      operations) :
    Operation.Each (fun database operation => operation.Faithful database) database operations ↔
      Operation.Each (fun database operation =>
        operation.Unsynced database → operation.Rebinds database.store.contents) database
        operations := by
  induction operations generalizing database with
  | nil => exact ⟨fun _ => .nil _, fun _ => .nil _⟩
  | cons operation rest ih =>
    rw [Operation.each_cons] at little
    rw [Operation.each_cons, Operation.each_cons]
    rcases told.step operation little.1 with ⟨hafter, hfaithful, hsynced⟩ | ⟨hnot, hunsynced, hother⟩
    · rw [ih hafter little.2]
      exact and_congr_left fun _ => ⟨fun _ => hsynced, fun _ => hfaithful⟩
    · exact ⟨fun h => absurd h.1 hnot, fun h => absurd (h.1 hunsynced) hother⟩

/-- A database is opened over an empty log, or over what a crash has left of one that no failed sync
has touched; then any syncs may fail, but no append is refused. Every operation of a run leaves a log
that shows what the database shows, and nothing of an operation that failed, just if no operation fails
after its entry was written, unless it binds a key to what it is bound to. -/
theorem faithful_iff {ε : Type} {name : String} {mode : StorageMode} {settings : Settings}
    {victims : Nat → Nat} {journal last : Journal} {crashed : Database}
    (durable : Durable ε crashed) {size : Nat}
    (cut : journal.medium.Holds (crashed.store.journal.medium.bytes.take size))
    (accepts : journal.Accepts)
    (opens : ofJournal name mode settings journal victims = (.ok database, last))
    (small : Store.SmallAppends size (Store.openingCourse settings victims journal))
    {operations : List Operation}
    (little : Operation.Each (fun database operation => operation.AddsLittle database) database
      operations) :
    Operation.Each (fun database operation => operation.Faithful database) database operations ↔
      Operation.Each (fun database operation =>
        operation.Unsynced database → operation.Rebinds database.store.contents) database
        operations :=
  (told_of_ofJournal durable cut accepts opens small).each_iff little

/-! ## A database whose second and third sync fail -/

/-- An empty log in memory. -/
def flakyJournal : Journal :=
  { medium := .memory ⟨[]⟩, syncOnWrite := true, syncFaults := [(1, false), (2, true)] }

/-- The database that it opens. -/
def flaky : Database where
  name := "a"
  mode := .memory
  settings := plainSettings
  store := ((Store.ofContents plainSettings (fun _ => 0) flakyJournal {}).addInitial ["a"]).2

theorem ofJournal_flaky :
    ofJournal "a" .memory plainSettings flakyJournal (fun _ => 0) = (.ok flaky, flaky.store.journal) :=
  ofJournal_of_store "a" .memory (Store.ofJournal_of_empty (Medium.holds_memory []) rfl).1

theorem openingCourse_flaky :
    Store.openingCourse plainSettings (fun _ => 0) flakyJournal =
      [Store.ofContents plainSettings (fun _ => 0) flakyJournal {}, flaky.store] :=
  (Store.ofJournal_of_empty (Medium.holds_memory []) rfl).2

/-- Syncs that fail while nothing is written leave no trace. -/
theorem faithful_of_failing_syncs :
    Operation.Each (fun database operation => operation.Faithful database) flaky
      [.sync, .sync, .create 0 [1] .document] := by
  have accepts : flakyJournal.Accepts := fun n => Faults.fate_nil _ n
  have small : Store.SmallAppends 0 (Store.openingCourse plainSettings (fun _ => 0) flakyJournal) := by
    rw [openingCourse_flaky]
    decide +kernel
  have cut : flakyJournal.medium.Holds (plain.store.journal.medium.bytes.take 0) :=
    Medium.holds_memory []
  have durable : Durable Unit plain := durable_plain
  refine (faithful_iff durable cut accepts ofJournal_flaky small ?_).2 ?_
  · exact .cons (by decide +kernel) (.cons (by decide +kernel) (.cons (by decide +kernel) (.nil _)))
  · have first : ¬ Operation.sync.Unsynced flaky := by decide +kernel
    have second : ¬ Operation.sync.Unsynced (Operation.sync.run flaky).2 := by decide +kernel
    have third : ¬ (Operation.create 0 [1] .document).Unsynced
        (Operation.sync.run (Operation.sync.run flaky).2).2 := by decide +kernel
    exact .cons (absurd · first) (.cons (absurd · second) (.cons (absurd · third) (.nil _)))

/-- A record that could not be created is there after reopening, and of two clusters that are added
then, the first of them in vain, the log lists both under one id. -/
theorem failed_create_is_found :
    let create : Operation := .create 0 [1] .document
    let failed := (create.run flaky).2
    let last := ((Operation.addPhysical "y" none 0).run
      ((Operation.addPhysical "x" none 0).run failed).2).2
    (create.run flaky).1.isError = true ∧ failed.store.contents.record? ⟨0, 0⟩ = none ∧
      (∃ reopened after, ofJournal "a" .memory plainSettings
          { blankJournal with medium := .memory ⟨failed.store.journal.medium.bytes⟩ } (fun _ => 0) =
            (.ok reopened, after) ∧
        reopened.store.contents.record? ⟨0, 0⟩ = some ⟨⟨0, 0⟩, 0, .document, [1]⟩) ∧
      ∃ entries replayed, last.store.journal.replay = .ok (entries, replayed) ∧
        Log.clusterIds entries = [0, 1, 1] := by
  intro create failed last
  have seen : (ofJournal "a" .memory plainSettings
      { blankJournal with medium := .memory ⟨failed.store.journal.medium.bytes⟩ } fun _ => 0).1.toOption.map
      (fun reopened => reopened.store.contents.record? ⟨0, 0⟩) =
      some (some ⟨⟨0, 0⟩, 0, .document, [1]⟩) := by decide +kernel
  have listed : last.store.journal.replay.toOption.map (fun found => Log.clusterIds found.1) =
      some [0, 1, 1] := by decide +kernel
  refine ⟨by decide +kernel, by decide +kernel, ?_, ?_⟩
  · rcases opens : ofJournal "a" .memory plainSettings
      { blankJournal with medium := .memory ⟨failed.store.journal.medium.bytes⟩ } (fun _ => 0) with
      ⟨error | reopened, after⟩ <;> rw [opens] at seen
    · cases seen
    · exact ⟨reopened, after, rfl, Option.some.inj seen⟩
  · rcases hreplay : last.store.journal.replay with error | ⟨entries, replayed⟩ <;>
      rw [hreplay] at listed
    · cases listed
    · exact ⟨entries, replayed, rfl, Option.some.inj listed⟩

end Database

end RecordBase
