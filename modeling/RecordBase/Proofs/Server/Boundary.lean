import RecordBase.Cbor.Command
import RecordBase.Digest.Hashing
import RecordBase.Proofs.Server.Answering
import RecordBase.Proofs.Server.Feeding
import RecordBase.Proofs.Wire.Layout

/-!
# Where the next request begins

A request that fails is read to its end, whatever stopped it: what a refused field owes is dropped,
and then the operands that were not taken. So the next byte is the number of the next request, unless
that request is there too early, for what has arrived when the failure is answered is dropped.

* `Conversation.failed_request_is_read`: this is so for every kind of request whose layout tells how
  long its operands are, and for counts of clusters.
-/

namespace RecordBase

open Wire

/-! ## Dropping operands -/

/-- Operands that are there are dropped. -/
theorem reads_skipOperands {operands : List Operand} {fields : List Field} {limit : Nat}
    (framed : List.Forall₂ OperandKind.Frames (operands.map Operand.kind) fields) :
    (skipOperands operands).Reads limit fields () := by
  induction operands generalizing fields with
  | nil =>
    cases framed
    exact .pure ()
  | cons operand rest ih =>
    obtain ⟨name, kind⟩ := operand
    obtain _ | @⟨_, field, _, fields, hfield, hrest⟩ := framed
    -- The kind of the operand and the field it frames go together; no other pair is framed.
    cases kind <;> cases field <;> first | exact hfield.elim | skip
    · exact (Source.reads_byte _).bind (ih hrest)
    · exact (Source.reads_short _).bind (ih hrest)
    · exact (Source.reads_int _).bind (ih hrest)
    · exact (Source.reads_long _).bind (ih hrest)
    · exact (Source.reads_skipBytes hfield).bind (ih hrest)
    · exact (Source.reads_skipBytes hfield).bind (ih hrest)

/-- After a whole count of clusters no operand is dropped. -/
theorem skipOperands_countClusters (count : Nat) :
    skipOperands (Opcode.countClusters.operands.drop (count + 1)) = Pure.pure () := by
  cases count with
  | zero => rfl
  | succ count =>
    rw [List.drop_eq_nil_of_le (Nat.le_add_left 2 count)]
    rfl

/-- Behind the number of entries of a batch no operand is dropped. -/
theorem skipOperands_commit (count : Nat) :
    skipOperands (Opcode.commit.operands.drop (count + 2)) = Pure.pure () := by
  cases count with
  | zero => rfl
  | succ count =>
    rw [List.drop_eq_nil_of_le (Nat.le_add_left 3 count)]
    rfl

/-- After a request that was read to its end nothing is dropped. -/
theorem skipRest_of_read {opcode : Opcode} {front : Bytes} {count : Nat} {source after : Source}
    (htaken : source.taken = some 0) (howed : source.owed = 0) (past : source.Past front count after)
    (whole : skipOperands (opcode.operands.drop count) = Pure.pure ()) :
    ∃ settled, skipRest opcode after = (.ok (), settled) ∧ source.Past front count settled := by
  obtain ⟨settled, hskipped, nothing⟩ := Source.skipOwed_of_nothing (past.owed.trans howed)
  have further := past.trans nothing
  rw [List.append_nil] at further
  refine ⟨settled, (Decoder.bind_of_ok hskipped).trans ?_, further⟩
  have htook : settled.taken = some count := by
    rw [further.taken, htaken, Option.map_some, Nat.zero_add, Nat.add_zero]
  simp only [unreadOperands, htook, whole]
  rfl

/-- Wherever the reading of a request has stopped, the rest of the request is dropped. -/
theorem skipRest_decode [Codec] {opcode : Opcode} {fields : List Field} {source : Source}
    (framed : opcode.Frames fields) (htaken : source.taken = some 0) (howed : source.owed = 0)
    (hfront : encode fields <+: source.pending) :
    ∃ settled, skipRest opcode (Request.decode opcode source).2 = (.ok (), settled) ∧
      source.Past (encode fields) fields.length settled := by
  by_cases hcount : opcode = .countClusters
  · subst hcount
    obtain ⟨ids, hids, rfl⟩ := framed
    obtain ⟨after, hread, past⟩ := Request.reads_decode_countClusters hids source rfl hfront
    rw [hread]
    refine skipRest_of_read htaken howed past ?_
    rw [List.length_cons, List.length_map]
    exact skipOperands_countClusters ids.length
  · rw [Opcode.frames_iff hcount] at framed
    obtain ⟨count, middle, hread, hskipped, past⟩ :=
      (Request.consumes_decode ((Opcode.frames_iff hcount _).2 framed) source howed hfront).settles howed
    have htook : middle.taken = some count := by
      rw [past.taken, htaken, Option.map_some, Nat.zero_add]
    have hrest := List.forall₂_drop count framed
    rw [← List.map_drop] at hrest
    have hnext : encode (fields.drop count) <+: middle.pending := by
      obtain ⟨rest, hrest⟩ := hfront
      rw [← List.take_append_drop count fields, encode_append, List.append_assoc] at hrest
      exact ⟨rest, (past.pending_eq hrest.symm).symm⟩
    obtain ⟨settled, hdropped, further⟩ := reads_skipOperands hrest middle rfl hnext
    refine ⟨settled, ?_, ?_⟩
    · refine (Decoder.bind_of_ok hskipped).trans ?_
      simp only [unreadOperands, htook]
      exact hdropped
    · have whole := past.trans further
      rwa [← encode_append, List.take_append_drop, List.length_drop, Nat.add_sub_cancel' hread] at whole

/-! ## Failures that are answered -/

theorem answered_ok {α : Type} (value : α) : Answered (.ok value) := by
  rintro _ ⟨⟩

theorem answered_mapError_database {α : Type} (result : Except Error α) :
    Answered (result.mapError .database) := by
  rintro error h
  cases result <;> cases h
  rfl

namespace Conversation

variable {talk : Conversation} {α : Type}

/-- What is done with a database that is there gives. -/
theorem run_fst (number : Nat) (action : Database → Except ServerError α × Database) :
    (talk.run number action).1 = match talk.host.catalog.depot.database? number with
      | none => .error .noDatabase
      | some database => (action database).1 := by
  unfold Conversation.run Catalog.run Depot.run
  cases talk.host.catalog.depot.database? number <;> rfl

theorem answered_run {action : Database → Except ServerError α × Database}
    (h : ∀ database, Answered (action database).1) (number : Nat) :
    Answered (talk.run number action).1 := by
  rw [run_fst]
  cases talk.host.catalog.depot.database? number with
  | none =>
    rintro _ ⟨⟩
    rfl
  | some database => exact h database

theorem answered_permitted (resource : Resource) (access : Access) :
    Answered (talk.permitted resource access) := by
  unfold permitted
  cases hnumber : talk.openNumber with
  | error error =>
    rintro _ ⟨⟩
    unfold openNumber at hnumber
    split at hnumber
    · split at hnumber <;> cases hnumber
      rfl
    · cases hnumber
      rfl
  | ok number =>
    cases talk.session.authorize resource access with
    | error error =>
      rintro _ ⟨⟩
      rfl
    | ok => exact answered_ok _

theorem answered_onDatabase {action : Database → Except ServerError α × Database}
    (h : ∀ database, Answered (action database).1) (resource : Resource) (access : Access) :
    Answered (talk.onDatabase resource access action).1 := by
  unfold onDatabase
  have hpermitted := @answered_permitted talk resource access
  cases hnumber : talk.permitted resource access with
  | error error =>
    rintro _ ⟨⟩
    exact hpermitted error hnumber
  | ok number => exact answered_run h number

theorem answered_onStore (resource : Resource) (access : Access) (wrap : α → Response)
    (action : Store → Except Error α × Store) :
    Answered (talk.onStore resource access wrap action).1 :=
  answered_onDatabase (fun _ => answered_mapError_database _) resource access

theorem answered_look (resource : Resource) (access : Access) (wrap : α → Response)
    (view : Store → Except Error α) : Answered (talk.look resource access wrap view).1 :=
  answered_onStore resource access wrap fun store => (view store, store)

theorem answered_connect [Hashing] (user password : String) : Answered (talk.connect user password).1 := by
  unfold connect
  split <;> rintro _ ⟨⟩
  rfl

theorem answered_openDatabase [Hashing] (url user password : String) :
    Answered (talk.openDatabase url user password).1 := by
  unfold openDatabase
  split
  · rintro _ ⟨⟩
    rfl
  · rcases talk.host.catalog.openDatabase (databaseNameAt url) with ⟨error | number, catalog⟩
    · rintro _ ⟨⟩
      rfl
    · exact answered_run (fun _ => answered_ok _) number

theorem answered_createDatabase (name mode : String) :
    Answered (talk.createDatabase name mode).1 := by
  unfold createDatabase
  split
  · rintro _ ⟨⟩
    rfl
  · rcases talk.host.catalog.create name mode with ⟨error | number, catalog⟩ <;> rintro _ ⟨⟩
    rfl

theorem answered_command (mode : CommandMode) (request : CommandRequest) :
    Answered (talk.command mode request).1 := by
  unfold command
  have hpermitted := @answered_permitted talk .command .read
  cases hnumber : talk.permitted .command .read with
  | error error =>
    rintro _ ⟨⟩
    exact hpermitted error hnumber
  | ok number =>
    refine answered_run (fun database => ?_) number
    rcases database.store.execute request with ⟨error | output, store⟩ <;> rintro _ ⟨⟩
    rfl

theorem answered_bindKey (key identity : String) : Answered (talk.bindKey key identity).1 := by
  unfold bindKey
  split
  · rintro _ ⟨⟩
    rfl
  · exact answered_onStore _ _ _ _

/-- Whatever fails in carrying out a request that is no batch is answered. -/
theorem answered_perform [Hashing] {request : Request} (h : request.opcode ≠ .commit) :
    Answered (talk.perform request).1 := by
  cases request <;> simp only [perform]
  case connect user password => exact answered_connect user password
  case openDatabase url user password => exact answered_openDatabase url user password
  case createDatabase name mode => exact answered_createDatabase name mode
  case closeDatabase => exact answered_ok _
  case databaseExists => exact answered_onDatabase (fun _ => answered_ok _) _ _
  case command mode request => exact answered_command mode request
  case bindKey key type identity => exact answered_bindKey key identity
  case commit => exact absurd rfl h
  case countClusters | countNamed | countKeys | listKeys => exact answered_look _ _ _ _
  all_goals exact answered_onStore _ _ _ _

/-! ## Cycles -/

variable {opcode : Opcode} {fields : List Field} {next : Bytes} {source : Source} {error : ServerError}

/-- A request of a fixed layout that fails is answered. -/
theorem answered_performRead [Codec] [Hashing] (talk : Conversation) (framed : opcode.Frames fields)
    (howed : source.owed = 0) (hfront : encode fields <+: source.pending) :
    Answered (talk.performRead (Request.decode opcode source).1).1 := by
  have hbatch : opcode ≠ .commit := by
    rintro rfl
    obtain _ | ⟨_, _ | ⟨_, _ | ⟨hentries, _⟩⟩⟩ := framed
    exact hentries
  rcases Request.consumes_decode framed source howed hfront with ⟨request, after, hread, -⟩ |
    ⟨error, after, -, -, hread, hopen, -⟩ <;> rw [hread]
  · exact answered_perform (Request.opcode_of_decode opcode source request after hread ▸ hbatch)
  · rintro _ ⟨⟩
    cases error <;> first | exact absurd rfl hopen | rfl

end Conversation

namespace Wire

/-- The source behind the number of a request, where the operands begin. -/
def Source.atOperands (source : Source) : Source := (Source.word UInt8 source).2.beginMessage

theorem Source.word_number {code : UInt8} {source : Source} {rest : Bytes}
    (delivered : source.pending = code :: rest) :
    Source.word UInt8 source = (.ok code, (Source.word UInt8 source).2) ∧
      source.atOperands.pending = rest ∧ source.atOperands.arrived = source.arrived.drop 1 := by
  have hfront : encode [.byte code] <+: source.pending := ⟨rest, delivered.symm⟩
  obtain ⟨after, hread, past⟩ := Source.reads_byte code source rfl hfront
  rw [atOperands, hread]
  exact ⟨rfl, past.pending_eq delivered, past.arrived⟩

/-- No number is read where the connection has ended. -/
theorem Source.word_of_ended {source : Source} (ended : source.pending = []) :
    ∃ after, Source.word UInt8 source = (.error .closed, after) := by
  have hshort : source.pending.length < 1 := by
    rw [ended]
    exact Nat.zero_lt_one
  have hread : Source.takeBytes 1 source = (.error .closed, source.advance source.pending.length 0) :=
    if_pos hshort
  exact ⟨_, Decoder.bind_of_error (Decoder.bind_of_error hread)⟩

theorem Source.limit_atOperands {code : UInt8} {source : Source} {rest : Bytes}
    (delivered : source.pending = code :: rest) : source.atOperands.limit = source.limit := by
  obtain ⟨after, hread, past⟩ := Source.reads_byte code source rfl ⟨rest, delivered.symm⟩
  rw [atOperands, hread]
  exact past.limit

theorem Opcode.ofCode?_code (opcode : Opcode) : ofCode? opcode.code = some opcode := by
  cases opcode <;> rfl

theorem Opcode.code_of_ofCode? {code : UInt8} {opcode : Opcode} (h : ofCode? code = some opcode) :
    code = opcode.code :=
  (of_decide_eq_true (@List.find?_some _ (fun known : Opcode => known.code = code) _ _ h)).symm

end Wire

/-- Nothing is dropped from a source whose bytes have all been read but those that come later. -/
theorem pending_discard {source settled : Source} {front next : Bytes} {count : Nat}
    (past : source.Past front count settled) (delivered : source.pending = front ++ next)
    (onTime : source.arrived.length ≤ front.length) : settled.discard.2.pending = next := by
  have harrived : settled.arrived = [] := past.arrived.trans (List.drop_eq_nil_of_le onTime)
  have hpending := past.pending_eq delivered
  rwa [Source.pending, harrived] at hpending

namespace Conversation

variable {talk : Conversation} {opcode : Opcode} {channel : Channel}

/-- A request whose kind is known is served. -/
theorem cycle_of_number [Codec] [Hashing] {rest : Bytes}
    (delivered : channel.source.pending = opcode.code :: rest) :
    talk.cycle channel = talk.serve opcode { channel with source := channel.source.atOperands } := by
  unfold cycle
  rw [(Source.word_number delivered).1]
  simp only [Opcode.ofCode?_code]
  rfl

/-- What is left after a request that fails on a transport that works. -/
theorem cycle_of_failed [Codec] [Hashing] {rest : Bytes} {error : ServerError} {settled : Source}
    (delivered : channel.source.pending = opcode.code :: rest) (works : channel.sink.broken = false)
    (failed : (talk.performRead (Request.decode opcode channel.source.atOperands).1).1 = .error error)
    (answered : error.isTransport = false) (tellable : error.Tellable)
    (skipped : skipRest opcode (Request.decode opcode channel.source.atOperands).2 = (.ok (), settled)) :
    (talk.cycle channel).1 = .goOn ∧ (talk.cycle channel).2.2.source = settled.discard.2 := by
  rcases hread : Request.decode opcode channel.source.atOperands with ⟨request, source⟩
  rw [hread] at failed skipped
  rcases hdone : talk.performRead request with ⟨result, after⟩
  rw [hdone] at failed
  obtain rfl : result = .error error := failed
  obtain ⟨sink, hfailure, -⟩ :=
    @answerFailure_of_works opcode { channel with source } settled error works answered tellable skipped
  rw [cycle_of_number delivered, serve_eq, hread]
  simp only [hdone, answer, hfailure, and_self]

/-- A request of a fixed layout that fails is read to its end before anything else is dropped. So on
a transport that works and does not deliver the next request before this one is answered, the next
byte that is read is the number of the next request, provided that the failure can be told at all. -/
theorem failed_request_is_read [Codec] [Hashing] {fields : List Field} {next : Bytes} {error : ServerError}
    (framed : opcode.Frames fields) (talk : Conversation) {channel : Channel}
    (delivered : channel.source.pending = opcode.code :: (encode fields ++ next))
    (failed : (talk.performRead (Request.decode opcode channel.source.atOperands).1).1 = .error error) :
    (∃ rest, skipRest opcode (Request.decode opcode channel.source.atOperands).2 = (.ok (), rest) ∧
      rest.pending = next) ∧
    (channel.sink.broken = false → error.Tellable →
      channel.source.arrived.length ≤ (encode fields).length + 1 →
      (talk.cycle channel).1 = .goOn ∧ (talk.cycle channel).2.2.source.pending = next ∧
      ∀ code later, next = code :: later →
        (Source.word UInt8 (talk.cycle channel).2.2.source).1 = .ok code) := by
  obtain ⟨-, hpending, harrived⟩ := Source.word_number delivered
  have hfront : encode fields <+: channel.source.atOperands.pending := ⟨next, hpending.symm⟩
  obtain ⟨settled, hskipped, past⟩ := skipRest_decode framed rfl rfl hfront
  refine ⟨⟨settled, hskipped, past.pending_eq hpending⟩, fun works tellable onTime => ?_⟩
  have answered := answered_performRead talk framed rfl hfront error failed
  obtain ⟨hgoes, hsource⟩ := cycle_of_failed delivered works failed answered tellable hskipped
  have hnext : (talk.cycle channel).2.2.source.pending = next := by
    rw [hsource]
    refine pending_discard past hpending ?_
    rw [harrived, List.length_drop]
    omega
  refine ⟨hgoes, hnext, ?_⟩
  rintro code later rfl
  rw [(Source.word_number hnext).1]

/-- A connection of a server without accounts and databases. -/
def fresh : Conversation where
  host := { settings := { accounts := [] }, accounts := {},
            catalog := .start {} false { disk := { root := "" } } }
  session := { id := "a" }

/-- A creation whose content is longer than the server accepts. The number of the next request comes
late. -/
def longContent : Channel where
  source := { arrived := 31 :: encode [.short 0, .bytes (some [1, 2, 3]), .byte 0x64], late := [7],
              limit := 2 }

theorem failed_request_is_read_of_long_content :
    (fresh.cycle longContent).1 = .goOn ∧ (fresh.cycle longContent).2.2.source.pending = [7] ∧
      ∀ code later, [7] = code :: later →
        (Source.word UInt8 (fresh.cycle longContent).2.2.source).1 = .ok code := by
  have framed : Opcode.createRecord.Frames [.short 0, .bytes (some [1, 2, 3]), .byte 0x64] :=
    .cons trivial (.cons (show 3 < 2 ^ 31 by decide) (.cons trivial .nil))
  have delivered : longContent.source.pending = Opcode.createRecord.code ::
      (encode [.short 0, .bytes (some [1, 2, 3]), .byte 0x64] ++ [7]) := by decide +kernel
  have failed : (fresh.performRead
      (Request.decode .createRecord longContent.source.atOperands).1).1 =
        .error (.wire (.tooLong 3 2)) := rfl
  exact (failed_request_is_read framed fresh delivered failed).2 rfl (by decide +kernel) (by decide +kernel)

end Conversation

end RecordBase
