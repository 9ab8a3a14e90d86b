import RecordBase.Proofs.Catalog.Moves
import RecordBase.Proofs.Server.Asking
import RecordBase.Proofs.Server.Boundary

/-!
# The hosts that requests and everything else lead to

`Host.Reached`: a server was started, served requests of any sessions over any channels, and whatever else
may happen to its catalog happened in between (`Catalog.Change`): databases are made, opened, worked with,
closed and given up in the same process, their journals start to fail, the files change.

* `Conversation.acts_cycle`: all that a request does to the catalog, each with the permission it takes.
* `Host.Reached.sound`: the databases in the handles of such a host are sound and their caches coherent,
  and every name that its catalog lists stands for one of them.
-/

namespace RecordBase

open Files (Place)
open Wire (Channel Request Response Source Opcode)

/-! ## What is asked keeps a database good -/

namespace Database

variable {database : Database}

theorem Good.bound (good : database.Good) (found : Option RecordId) : (database.bound found).2.Good :=
  Database.bound_of_read found good fun id => good.operation (.read id)

theorem Good.ask (good : database.Good) (request : Request) : (request.ask database).2.Good := by
  by_cases hcommit : ∃ number entries failure, request = .commit number entries failure
  · obtain ⟨number, entries, failure, rfl⟩ := hcommit
    exact good.step (.commit number (Conversation.batchItems entries failure))
  · cases hoperation : request.operation? with
    | none =>
      cases request <;> first | exact absurd ⟨_, _, _, rfl⟩ hcommit | skip
      all_goals simp only [Request.ask, hoperation]; exact good
    | some operation =>
      exact Request.ask_of_run hoperation (good.operation operation) fun _ found h => h.bound found

end Database

/-! ## What requests do to a catalog -/

namespace Conversation

variable {talk : Conversation}

/-- What carrying out a request may do to the catalog, and what the user has to be permitted for it. -/
inductive Acts (talk : Conversation) : Catalog → Prop
  | nothing : talk.Acts talk.host.catalog
  | asked {request : Request} {resource : Resource} {access : Access} {number : Nat}
      (permission : request.permission? = some (resource, access))
      (permitted : talk.permitted resource access = .ok number) :
      talk.Acts (talk.host.catalog.run number request.ask).2
  | looked {α : Type} (number : Nat) (view : Database → α) :
      talk.Acts (talk.host.catalog.run number fun database => (view database, database)).2
  | missed {name : String} {error : Error}
      (missing : (talk.host.catalog.openDatabase name).1 = .error error) :
      talk.Acts (talk.host.catalog.openDatabase name).2
  | opened {α : Type} {name : String} {number : Nat} (view : Database → α)
      (found : (talk.host.catalog.openDatabase name).1 = .ok number) :
      talk.Acts ((talk.host.catalog.openDatabase name).2.run number
        fun database => (view database, database)).2
  | created (name mode : String) (permitted : talk.session.authorize .server .create = .ok ()) :
      talk.Acts (talk.host.catalog.create name mode).2

theorem acts_openDatabase [Hashing] (talk : Conversation) (url user password : String) :
    talk.Acts (talk.openDatabase url user password).2.host.catalog := by
  unfold openDatabase
  cases talk.opener user password with
  | error error => exact .nothing
  | ok principal =>
    simp only
    generalize databaseNameAt url = name
    rcases hopened : talk.host.catalog.openDatabase name with ⟨error | number, catalog⟩
    · have hmissed := @Acts.missed talk name error (congrArg Prod.fst hopened)
      rwa [hopened] at hmissed
    · have hview := @Acts.opened talk _ name number
        (fun database => (Except.ok (.opened talk.session.id (clusterEntries database.store)) :
          Except ServerError Response)) (congrArg Prod.fst hopened)
      rwa [hopened] at hview

theorem acts_createDatabase (talk : Conversation) (name mode : String) :
    talk.Acts (talk.createDatabase name mode).2.host.catalog := by
  unfold createDatabase
  cases hpermitted : talk.session.authorize .server .create with
  | error error => exact .nothing
  | ok _ =>
    have hcreated := @Acts.created talk name mode hpermitted
    rcases hresult : talk.host.catalog.create name mode with ⟨error | number, catalog⟩ <;>
      rwa [hresult] at hcreated

/-- A request acts on the catalog after the check of its permission, if it does so at all. -/
theorem acts_perform [Hashing] (talk : Conversation) (request : Request) :
    talk.Acts (talk.perform request).2.host.catalog := by
  cases hpermission : request.permission? with
  | some permission =>
    obtain ⟨resource, access⟩ := permission
    by_cases hnamed : ∀ key type identity, request = .bindKey key type identity →
        (RecordId.parse? identity).isSome
    · rw [perform_eq_ask hpermission hnamed]
      cases hpermitted : talk.permitted resource access with
      | error error => exact .nothing
      | ok number =>
        have hasked := @Acts.asked talk request resource access number hpermission hpermitted
        rwa [← talk.host_remember request] at hasked
    · simp only [Classical.not_forall, Option.not_isSome_iff_eq_none] at hnamed
      obtain ⟨key, type, identity, rfl, hidentity⟩ := hnamed
      simp only [perform, bindKey, hidentity]
      exact .nothing
  | none =>
    cases request with
    | connect user password =>
      simp only [perform, connect]
      split <;> exact .nothing
    | openDatabase url user password => exact talk.acts_openDatabase url user password
    | createDatabase name mode => exact talk.acts_createDatabase name mode
    | closeDatabase => exact .nothing
    | databaseExists =>
      simp only [perform, databaseExists, onDatabase]
      cases talk.permitted .database .read with
      | error error => exact .nothing
      | ok number => exact .looked number _
    | _ => cases hpermission

/-- What a cycle does is told by the first byte of the connection, if there is one. -/
theorem cycle_forms [Codec] [Hashing] (talk : Conversation) (channel : Channel) :
    (channel.source.pending = [] ∧
      ∃ source, talk.cycle channel = (.closed, talk, { channel with source })) ∨
    (∃ code rest, channel.source.pending = code :: rest ∧ Opcode.ofCode? code = none ∧
      talk.cycle channel =
        ((answerUnknown { channel with source := channel.source.atOperands }).1, talk.count code true,
          (answerUnknown { channel with source := channel.source.atOperands }).2)) ∨
    ∃ opcode rest, channel.source.pending = Opcode.code opcode :: rest ∧
      talk.cycle channel = talk.serve opcode { channel with source := channel.source.atOperands } := by
  cases delivered : channel.source.pending with
  | nil =>
    obtain ⟨source, hread⟩ := Source.word_of_ended delivered
    exact .inl ⟨rfl, source, by rw [cycle, hread]⟩
  | cons code rest =>
    cases hopcode : Opcode.ofCode? code with
    | none =>
      refine .inr (.inl ⟨code, rest, rfl, hopcode, ?_⟩)
      rw [cycle, (Source.word_number delivered).1]
      simp only [hopcode]
      rfl
    | some opcode =>
      obtain rfl := Opcode.code_of_ofCode? hopcode
      exact .inr (.inr ⟨opcode, rest, rfl, cycle_of_number delivered⟩)

/-- A cycle reads no number, or that of no request, or serves a request. -/
theorem cycle_cases [Codec] [Hashing] (talk : Conversation) (channel : Channel) :
    (∃ source, talk.cycle channel = (.closed, talk, { channel with source })) ∨
    (∃ code outcome after, talk.cycle channel = (outcome, talk.count code true, after)) ∨
    ∃ opcode, talk.cycle channel =
      talk.serve opcode { channel with source := channel.source.atOperands } := by
  rcases talk.cycle_forms channel with ⟨-, source, h⟩ | ⟨code, -, -, -, h⟩ | ⟨opcode, -, -, h⟩
  · exact .inl ⟨source, h⟩
  · exact .inr (.inl ⟨code, _, _, h⟩)
  · exact .inr (.inr ⟨opcode, h⟩)

/-- A request is served by reading it, carrying it out and answering it. -/
theorem serve_of_performed [Codec] [Hashing] {opcode : Opcode} {channel : Channel}
    {request : Except WireError Request} {source : Source} {result : Except ServerError Response}
    {performed : Conversation}
    (hread : Request.decode opcode channel.source = (request, source))
    (hperformed : talk.performRead request = (result, performed)) :
    talk.serve opcode channel =
      ((answer opcode result { channel with source }).2.1,
        performed.count opcode.code (answer opcode result { channel with source }).1,
        (answer opcode result { channel with source }).2.2) := by
  rw [serve_eq, hread]
  simp only [hperformed]

theorem acts_cycle [Codec] [Hashing] (talk : Conversation) (channel : Channel) :
    talk.Acts (talk.cycle channel).2.1.host.catalog := by
  rcases talk.cycle_cases channel with ⟨source, h⟩ | ⟨code, outcome, after, h⟩ | ⟨opcode, h⟩ <;> rw [h]
  · exact .nothing
  · exact .nothing
  · rcases hread : Request.decode opcode channel.source.atOperands with ⟨error | request, source⟩ <;>
      rw [serve_of_performed hread rfl]
    · exact .nothing
    · exact talk.acts_perform request

/-- Whatever a request does keeps a catalog sound. -/
theorem Acts.sound {after : Catalog} (acts : talk.Acts after) (sound : talk.host.catalog.Sound) :
    after.Sound := by
  cases acts with
  | nothing => exact sound
  | @asked request => exact sound.run _ fun _ good => good.ask request
  | looked => exact sound.run _ fun _ good => good
  | missed => exact (Catalog.provides_openDatabase sound _).sound sound
  | opened => exact ((Catalog.provides_openDatabase sound _).sound sound).run _ fun _ good => good
  | created name mode => exact (Catalog.provides_create sound name mode).sound sound

end Conversation

/-! ## Whatever else happens to a catalog -/

/-- What may happen to a catalog other than by requests. -/
inductive Catalog.Change (catalog : Catalog) : Catalog → Prop
  | registered (mode : StorageMode) : Change catalog (catalog.register mode)
  | observed (listener : Listener) : Change catalog (catalog.addListener listener)
  | created (name mode : String) : Change catalog (catalog.create name mode).2
  | opened (name : String) : Change catalog (catalog.openDatabase name).2
  | stepped {ε : Type} (number : Nat) (step : Step ε) :
      Change catalog (catalog.run number fun database => step.run database).2
  | failing (number : Nat) (refusals syncFaults : Faults) (syncFails flushFails : Bool) :
      Change catalog (catalog.run number fun database =>
        ((), database.failing refusals syncFaults syncFails flushFails)).2
  | released (used : List Nat) : Change catalog (catalog.release used)
  | shutDown : Change catalog catalog.shutdown.2
  | heard : Change catalog catalog.takeFailures.2
  | disk (disk : Disk) : Change catalog { catalog with depot := { catalog.depot with disk } }

namespace Host

/-- A host whose server was started and has served requests, while its catalog was also changed from
elsewhere. -/
inductive Reached [Codec] [Hashing] : Host → Prop
  | started {settings : ServerSettings} {usesDisk : Bool} {listeners : List ShutdownListener}
      {disk : Disk} {host : Host} (starts : start settings usesDisk listeners disk = .ok host) :
      Reached host
  | served {host : Host} (reached : Reached host) (session : Session) (channel : Channel) :
      Reached ((Conversation.mk host session).cycle channel).2.1.host
  | changed {host : Host} (reached : Reached host) {catalog : Catalog}
      (change : host.catalog.Change catalog) : Reached { host with catalog }
  | restarted {host : Host} (reached : Reached host) (usesDisk : Bool) :
      Reached { host with
        catalog := .start host.catalog.settings usesDisk { disk := host.catalog.depot.disk } }

end Host

theorem Catalog.Sound.change {catalog after : Catalog} (sound : catalog.Sound)
    (change : catalog.Change after) : after.Sound := by
  cases change with
  | registered | observed | heard | disk =>
    refine Keeps.sound ?_ sound
    exact ⟨rfl, rfl⟩
  | created name mode => exact (provides_create sound name mode).sound sound
  | opened name => exact (provides_openDatabase sound name).sound sound
  | stepped number step => exact sound.run number fun _ good => good.step step
  | failing number => exact sound.run number fun _ good => ⟨good.sound, good.coherent⟩
  | released used => exact sound.release used
  | shutDown => exact sound.shutdown

/-- The databases of a host that is reached are good, and those that it lists are there. -/
theorem Host.Reached.sound [Codec] [Hashing] {host : Host} (reached : host.Reached) : host.catalog.Sound := by
  induction reached with
  | @started settings usesDisk listeners disk host starts =>
    unfold start at starts
    split at starts <;> cases starts
    exact Catalog.sound_start _ _ _
  | served reached session channel ih => exact (Conversation.acts_cycle _ channel).sound ih
  | changed reached change ih => exact ih.change change
  | restarted reached usesDisk ih => exact Catalog.sound_start _ _ _

end RecordBase
