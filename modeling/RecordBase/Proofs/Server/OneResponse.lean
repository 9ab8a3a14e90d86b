import RecordBase.Proofs.Server.BatchEnd
import RecordBase.Proofs.Server.BrokenOff
import RecordBase.Proofs.Server.Dropping

/-!
# One response to each request

A cycle answers the request that it reads once: with a success and the payload that the kind of the request
asks for, or with a failure and its category and wording, but never with a part of one and a part of the
other. It ends the service only if nothing can be sent or the connection ends before the request does.

* `Conversation.answersOnce_iff`: this is so but for two cases. When a request has failed and one of the
  operands that are then dropped has a length that makes no sense, the service ends, too. And when the
  answer is too long to be sent, a failure ends the service, and a response is broken off and followed by
  a failure.
* `Conversation.cycles_answers`: so all that is sent on a connection are replies, and responses that are
  broken off with a failure behind, one after another, and a part of one more if the service ends while
  that is sent.
-/

namespace RecordBase

open Wire (Channel Request Response Sink Source Opcode Field Extent MetEnd Complete IsReply encode
  brokenOffFields failureFields replyFields ReplySendable)

/-! ## What is answered -/

theorem Wire.Request.eq_commit (request : Request) (h : request.opcode = .commit) :
    ∃ number entries failure, request = .commit number entries failure := by
  cases request <;> cases h
  exact ⟨_, _, _, rfl⟩

namespace Conversation

variable {talk : Conversation} {opcode : Opcode} {response : Response} {channel : Channel}

/-- What a batch gives is an outcome. -/
theorem fits_batchResult {reply : Reply WireError} (h : batchResult reply = .ok response) :
    response.Fits .commit := by
  unfold batchResult at h
  split at h <;> cases h
  exact .outcome _

theorem fits_openDatabase [Hashing] {url user password : String}
    (h : (talk.openDatabase url user password).1 = .ok response) : response.Fits .openDatabase := by
  unfold openDatabase at h
  cases hopener : talk.opener user password with
  | error error =>
    rw [hopener] at h
    cases h
  | ok principal =>
    rcases hopened : talk.host.catalog.openDatabase (databaseNameAt url) with
      ⟨error | number, catalog⟩ <;> simp only [hopener, hopened] at h
    · cases h
    · obtain ⟨database, -, haction⟩ := ok_of_run h
      cases haction
      exact .opened _ _

theorem fits_createDatabase {name mode : String}
    (h : (talk.createDatabase name mode).1 = .ok response) : response.Fits .createDatabase := by
  unfold createDatabase at h
  cases hpermitted : talk.session.authorize .server .create with
  | error error =>
    rw [hpermitted] at h
    cases h
  | ok _ =>
    rcases hcreated : talk.host.catalog.create name mode with ⟨error | number, catalog⟩ <;>
      simp only [hpermitted, hcreated] at h <;> cases h
    exact .created

theorem fits_command {mode : Wire.CommandMode} {request : CommandRequest}
    (h : (talk.command mode request).1 = .ok response) : response.Fits .command := by
  unfold command at h
  cases hpermitted : talk.permitted .command .read with
  | error error =>
    rw [hpermitted] at h
    cases h
  | ok number =>
    rw [hpermitted] at h
    obtain ⟨database, -, haction⟩ := ok_of_run h
    obtain ⟨output, -, rfl⟩ := ok_of_mapError haction
    unfold commandResponse
    split
    · exact .result _
    · exact .stream _
    · exact .stream _

theorem fits_onStore {α : Type} {resource : Resource} {access : Access} {wrap : α → Response}
    {action : Store → Except Error α × Store}
    (h : (talk.onStore resource access wrap action).1 = .ok response)
    (fits : ∀ value, (wrap value).Fits opcode) : response.Fits opcode := by
  obtain ⟨-, -, found, -, -, rfl⟩ := ok_of_onStore h
  exact fits found

/-- What a request leads to is of the kind that it asks for. -/
theorem fits_perform [Hashing] {request : Request} (h : (talk.perform request).1 = .ok response) :
    response.Fits request.opcode := by
  cases request <;> simp only [perform, look] at h
  case connect user password =>
    unfold connect at h
    split at h <;> cases h
    exact .session _
  case openDatabase url user password => exact fits_openDatabase h
  case createDatabase name mode => exact fits_createDatabase h
  case closeDatabase =>
    cases h
    exact .closed
  case databaseExists =>
    obtain ⟨-, database, -, haction⟩ := ok_of_onDatabase h
    cases haction
    exact .exists _
  case command mode request => exact fits_command h
  case bindKey key type identity =>
    unfold bindKey at h
    split at h
    · cases h
    · exact fits_onStore h .bound
  case commit number entries failure =>
    obtain ⟨-, database, -, haction⟩ := ok_of_onDatabase h
    exact fits_batchResult haction
  all_goals exact fits_onStore h fun _ => by constructor

/-- What is done for a request of some kind fits it. -/
theorem fits_handle [Codec] [Hashing] {source : Source} (h : (talk.handle opcode source).1 = .ok response) :
    response.Fits opcode := by
  rw [handle_eq] at h
  rcases hread : Request.decode opcode source with ⟨error | request, after⟩ <;> rw [hread] at h
  · cases h
  · rw [← Request.opcode_of_decode opcode source request after hread]
    exact fits_perform h

/-- Only the end of the connection makes a request fail as that of the transport. -/
theorem metEnd_of_transport [Codec] [Hashing] {source : Source} {error : ServerError}
    (h : (talk.handle opcode source).1 = .error error) (transport : error.isTransport = true) :
    MetEnd (Request.decode opcode source).1 := by
  rw [handle_eq] at h
  rcases hread : Request.decode opcode source with ⟨cause | request, after⟩ <;> simp only [hread] at h ⊢
  · cases h
    cases cause <;> cases transport
    exact .stopped
  · by_cases hcommit : request.opcode = .commit
    · obtain ⟨number, entries, failure, rfl⟩ := request.eq_commit hcommit
      cases failure with
      | none => exact absurd transport (Bool.eq_false_iff.1 (answered_commit number entries error h))
      | some cause =>
        obtain ⟨failed, hfailed, hclosed⟩ := commit_of_failure talk number entries cause
        cases hfailed.symm.trans h
        exact hclosed transport ▸ .inBatch number entries
    · exact absurd transport (Bool.eq_false_iff.1 (answered_perform hcommit error h))

/-- A request that is carried out has been read with all that belongs to it. -/
theorem complete_of_handled [Codec] [Hashing] {source : Source}
    (h : (talk.handle opcode source).1 = .ok response) : Complete (Request.decode opcode source).1 := by
  rw [handle_eq] at h
  rcases hread : Request.decode opcode source with ⟨cause | request, after⟩ <;> simp only [hread] at h ⊢
  · cases h
  · by_cases hcommit : request.opcode = .commit
    · obtain ⟨number, entries, failure, rfl⟩ := request.eq_commit hcommit
      cases failure with
      | none => exact .batch number entries
      | some cause =>
        obtain ⟨failed, hfailed, -⟩ := commit_of_failure talk number entries cause
        cases hfailed.symm.trans h
    · exact .other hcommit

end Conversation

/-! ## How a result is answered -/

/-- What becomes of a result on a transport that works. -/
inductive Fate [Codec] (opcode : Opcode) (result : Except ServerError Response) (channel : Channel) :
    CycleOutcome × Channel → Prop
  | replied {source : Source} {sink : Sink} (sendable : ReplySendable result)
      (sent : sink.sent = channel.sink.written ++ encode (replyFields result)) (flushed : sink.buffer = []) :
      Fate opcode result channel (.goOn, { source, sink })
  /-- It was the end of the transport. -/
  | ended {error : ServerError} {after : Channel} (failed : result = .error error)
      (transport : error.isTransport = true) : Fate opcode result channel (.closed, after)
  /-- The rest of the request cannot be dropped. -/
  | lost {error : ServerError} {cause : WireError} {after : Channel} (failed : result = .error error)
      (answered : error.isTransport = false)
      (stuck : (skipRest opcode channel.source).1 = .error cause) :
      Fate opcode result channel (.closed, after)
  /-- The wording of the failure is too long. -/
  | untold {error : ServerError} {after : Channel} (failed : result = .error error)
      (answered : error.isTransport = false) (untellable : ¬ error.Tellable) :
      Fate opcode result channel (.closed, after)
  /-- The response is broken off, and the failure to send it follows. -/
  | brokenOff {response : Response} {source : Source} {sink : Sink} (count : UInt64)
      (carried : result = .ok response) (unsendable : ¬ response.Sendable)
      (sent : sink.sent = channel.sink.written ++ encode (brokenOffFields response count))
      (flushed : sink.buffer = []) : Fate opcode result channel (.goOn, { source, sink })
  | brokenOffLast {response : Response} {after : Channel} (carried : result = .ok response)
      (unsendable : ¬ response.Sendable) : Fate opcode result channel (.closed, after)

theorem eq_closed {answered : CycleOutcome × Channel} (h : answered.1 = .closed) :
    answered = (.closed, answered.2) :=
  Prod.ext h rfl

theorem fate_answerFailure [Codec] {channel : Channel} (works : channel.sink.broken = false)
    (opcode : Opcode) (error : ServerError) :
    Fate opcode (.error error) channel (answerFailure opcode error channel) := by
  cases answered : error.isTransport with
  | true =>
    rw [answerFailure_of_transport answered]
    exact .ended rfl answered
  | false =>
    by_cases tellable : error.Tellable
    · rcases hskip : skipRest opcode channel.source with ⟨cause | _, settled⟩
      · have stuck := congrArg Prod.fst hskip
        rw [eq_closed (answerFailure_of_lost stuck answered)]
        exact .lost rfl answered stuck
      · obtain ⟨sink, hfailure, hsent, hbuffer⟩ := answerFailure_of_works works answered tellable hskip
        rw [hfailure]
        exact .replied tellable hsent hbuffer
    · rw [eq_closed (answerFailure_of_not_tellable works tellable)]
      exact .untold rfl answered tellable

theorem fate_answer [Codec] {channel : Channel} (works : channel.sink.broken = false) (opcode : Opcode)
    (result : Except ServerError Response) :
    Fate opcode result channel (answer opcode result channel).2 := by
  cases result with
  | error error => exact fate_answerFailure works opcode error
  | ok response =>
    by_cases sendable : response.Sendable
    · obtain ⟨sink, hanswer, hsent, hbuffer⟩ := @answer_of_sendable opcode _ _ _ works sendable
      rw [hanswer]
      exact .replied sendable hsent hbuffer
    · obtain ⟨count, sink, hanswer, hwritten, hworks⟩ := @answer_of_unsendable opcode _ _ _ works sendable
      rw [hanswer]
      rcases hskip : skipRest opcode channel.source with ⟨cause | _, settled⟩
      · rw [eq_closed (@answerFailure_of_lost opcode { channel with sink } (Wire.overlong count) cause
          (congrArg Prod.fst hskip) rfl)]
        exact .brokenOffLast rfl sendable
      · obtain ⟨last, hfailure, hsent, hbuffer⟩ := @answerFailure_of_works opcode { channel with sink }
          settled (Wire.overlong count) hworks rfl (Wire.tellable_overlong count) hskip
        rw [hfailure]
        refine .brokenOff count rfl sendable ?_ hbuffer
        rw [hsent, brokenOffFields, Wire.encode_append, ← List.append_assoc, ← hwritten]

/-! ## Cycles -/

namespace Wire

theorem Source.extent_of_number {source : Source} {rest : Bytes} {opcode : Opcode}
    (delivered : source.pending = opcode.code :: rest) :
    source.extent = opcode.extent source.atOperands.pending := by
  rw [(word_number delivered).2.1]
  simp only [extent, delivered, Opcode.ofCode?_code]

end Wire

namespace Conversation

variable {talk : Conversation} {channel : Channel}

/-- A request has failed, and one of the operands that are then dropped has a length that makes no
sense. -/
def MeetsSenselessLength [Codec] [Hashing] (talk : Conversation) (channel : Channel) : Prop :=
  ∃ opcode rest error length, channel.source.pending = Opcode.code opcode :: rest ∧
    (talk.handle opcode channel.source.atOperands).1 = .error error ∧ error.isTransport = false ∧
    (skipRest opcode (talk.handle opcode channel.source.atOperands).2.2).1 = .error (.invalidLength length)

/-- A request that is there, as far as it is needed, cannot be answered: the response has a byte string that
is too long for its length to be told, or too many keys, or the wording of the failure is too long. -/
def MeetsTooLong [Codec] [Hashing] (talk : Conversation) (channel : Channel) : Prop :=
  channel.source.extent ≠ .cut ∧ ∃ opcode rest, channel.source.pending = Opcode.code opcode :: rest ∧
    Answered (talk.handle opcode channel.source.atOperands).1 ∧
    ¬ ReplySendable (talk.handle opcode channel.source.atOperands).1

/-- A cycle does not end the service, and sends and flushes exactly one reply. -/
structure Replies [Codec] [Hashing] (talk : Conversation) (channel : Channel) : Prop where
  goes : (talk.cycle channel).1 = .goOn
  reply : ∃ code rest fields, channel.source.pending = code :: rest ∧ IsReply code fields ∧
    (talk.cycle channel).2.2.sink.sent = channel.sink.written ++ encode fields ∧
    (talk.cycle channel).2.2.sink.buffer = []

theorem dropped_handle [Codec] [Hashing] (talk : Conversation) {opcode : Opcode} {rest : Bytes}
    (delivered : channel.source.pending = opcode.code :: rest) :
    Dropped channel.source.extent (skipRest opcode (talk.handle opcode channel.source.atOperands).2.2).1 := by
  rw [Source.extent_of_number delivered, handle_eq]
  exact (Request.dropped_decode opcode rfl rfl).2.2

/-- The cycle of a request answers its result. -/
theorem cycle_answers [Codec] [Hashing] (talk : Conversation) {opcode : Opcode} {rest : Bytes}
    (delivered : channel.source.pending = opcode.code :: rest) :
    ((talk.cycle channel).1, (talk.cycle channel).2.2) =
      (answer opcode (talk.handle opcode channel.source.atOperands).1
        { channel with source := (talk.handle opcode channel.source.atOperands).2.2 }).2 := by
  rw [cycle_of_number delivered, serve]

theorem fate_cycle [Codec] [Hashing] (talk : Conversation) (works : channel.sink.broken = false)
    {opcode : Opcode} {rest : Bytes} (delivered : channel.source.pending = opcode.code :: rest) :
    Fate opcode (talk.handle opcode channel.source.atOperands).1
      { channel with source := (talk.handle opcode channel.source.atOperands).2.2 }
      ((talk.cycle channel).1, (talk.cycle channel).2.2) := by
  rw [talk.cycle_answers delivered]
  exact @fate_answer _ { channel with source := (talk.handle opcode channel.source.atOperands).2.2 }
    works opcode _

/-- A transport that takes nothing ends the service. -/
theorem closed_cycle_of_broken [Codec] [Hashing] (talk : Conversation)
    (broken : channel.sink.broken = true) : (talk.cycle channel).1 = .closed := by
  rcases talk.cycle_forms channel with ⟨-, source, hcycle⟩ | ⟨code, rest, -, -, hcycle⟩ |
    ⟨opcode, rest, delivered, -⟩
  · rw [hcycle]
  · rw [hcycle]
    exact closed_answerUnknown broken
  · exact (congrArg Prod.fst (talk.cycle_answers delivered)).trans (@closed_of_broken opcode
      { channel with source := (talk.handle opcode channel.source.atOperands).2.2 } _ broken _)

/-- A request that is carried out is there, and one that fails with the end of the transport is not. -/
theorem extent_of_handled [Codec] [Hashing] (talk : Conversation) {opcode : Opcode} {rest : Bytes}
    (delivered : channel.source.pending = opcode.code :: rest) :
    (∀ response, (talk.handle opcode channel.source.atOperands).1 = .ok response →
      channel.source.extent ≠ .cut) ∧
    ∀ error, (talk.handle opcode channel.source.atOperands).1 = .error error →
      error.isTransport = true → channel.source.extent = .cut := by
  have hends := @Request.dropped_decode _ opcode channel.source.atOperands rfl rfl
  rw [← Source.extent_of_number delivered] at hends
  refine ⟨fun response hresponse hcut => ?_, fun error herror transport => ?_⟩
  · obtain ⟨_, hwhole⟩ := hends.2.1 (complete_of_handled hresponse)
    cases hwhole.symm.trans hcut
  · exact hends.1 (metEnd_of_transport herror transport)

/-- What can be sent in answer to a request is a reply. -/
theorem isReply_handle [Codec] [Hashing] (talk : Conversation) (opcode : Opcode) (source : Source)
    (sendable : ReplySendable (talk.handle opcode source).1) :
    IsReply opcode.code (replyFields (talk.handle opcode source).1) := by
  cases hresult : (talk.handle opcode source).1 with
  | error error =>
    rw [hresult] at sendable
    exact .failure opcode.ofCode?_code error.category sendable
  | ok response =>
    rw [hresult] at sendable
    exact .success opcode.ofCode?_code (fits_handle hresult) sendable

/-- On a transport that works a cycle replies, or it ends as the connection ends before the request does, or
it meets a length that makes no sense or an answer that is too long. -/
theorem cycle_of_works [Codec] [Hashing] (talk : Conversation) (works : channel.sink.broken = false) :
    talk.Replies channel ∨ ((talk.cycle channel).1 = .closed ∧ channel.source.extent = .cut) ∨
      talk.MeetsSenselessLength channel ∨ talk.MeetsTooLong channel := by
  rcases talk.cycle_forms channel with ⟨delivered, source, hcycle⟩ |
    ⟨code, rest, delivered, hopcode, hcycle⟩ | ⟨opcode, rest, delivered, -⟩
  · refine .inr (.inl ⟨by rw [hcycle], ?_⟩)
    simp only [Source.extent, delivered]
  · obtain ⟨source, sink, hanswer, hsent⟩ := @answerUnknown_of_works
      { channel with source := channel.source.atOperands } works
    rw [hanswer] at hcycle
    exact .inl ⟨by rw [hcycle], code, rest, _, delivered, .unknown hopcode, by rw [hcycle]; exact hsent⟩
  · have dropped := dropped_handle talk delivered
    obtain ⟨hcarried, htransport⟩ := extent_of_handled talk delivered
    have fate := talk.fate_cycle works delivered
    generalize hcycle : ((talk.cycle channel).1, (talk.cycle channel).2.2) = cycled at fate
    cases fate with
    | @replied source sink sendable sent flushed =>
      obtain ⟨hgoes, hafter⟩ := Prod.mk.inj hcycle
      refine .inl ⟨hgoes, _, rest, _, delivered, isReply_handle talk opcode _ sendable, ?_⟩
      rw [hafter]
      exact ⟨sent, flushed⟩
    | ended failed transport =>
      exact .inr (.inl ⟨congrArg Prod.fst hcycle, htransport _ failed transport⟩)
    | lost failed answered stuck =>
      rw [stuck] at dropped
      cases dropped with
      | cut hcut => exact .inr (.inl ⟨congrArg Prod.fst hcycle, hcut⟩)
      | lost hlost length =>
        exact .inr (.inr (.inl ⟨opcode, rest, _, length, delivered, failed, answered, stuck⟩))
    | @untold error _ failed answered untellable =>
      by_cases hcut : channel.source.extent = .cut
      · exact .inr (.inl ⟨congrArg Prod.fst hcycle, hcut⟩)
      · refine .inr (.inr (.inr ⟨hcut, opcode, rest, delivered, ?_⟩))
        rw [failed]
        exact ⟨by rintro _ ⟨⟩; exact answered, untellable⟩
    | brokenOff _ carried unsendable | brokenOffLast carried unsendable =>
      refine .inr (.inr (.inr ⟨hcarried _ carried, opcode, rest, delivered, ?_⟩))
      rw [carried]
      exact ⟨by rintro _ ⟨⟩, unsendable⟩

/-- A cycle ends the service only if the transport takes nothing or the connection ends before the request
does, and otherwise has sent and flushed exactly one reply. -/
structure AnswersOnce [Codec] [Hashing] (talk : Conversation) (channel : Channel) : Prop where
  closed : (talk.cycle channel).1 = .closed →
    channel.sink.broken = true ∨ channel.source.extent = .cut
  goOn : (talk.cycle channel).1 = .goOn →
    ∃ code rest fields, channel.source.pending = code :: rest ∧ IsReply code fields ∧
      (talk.cycle channel).2.2.sink.sent = channel.sink.written ++ encode fields ∧
      (talk.cycle channel).2.2.sink.buffer = []

/-- A length that makes no sense hides where the request ends, and ends the service. -/
theorem cycle_of_senselessLength [Codec] [Hashing] (h : talk.MeetsSenselessLength channel) :
    (talk.cycle channel).1 = .closed ∧ channel.source.extent = .lost := by
  obtain ⟨opcode, rest, error, length, delivered, hfailed, hanswered, hlength⟩ := h
  have dropped := dropped_handle talk delivered
  rw [hlength] at dropped
  refine ⟨(congrArg Prod.fst (talk.cycle_answers delivered)).trans ?_, by cases dropped; assumption⟩
  rw [hfailed]
  exact answerFailure_of_lost hlength hanswered

/-- It does so although the transport works and the connection goes on. -/
theorem not_answersOnce_of_senselessLength [Codec] [Hashing] (works : channel.sink.broken = false)
    (h : talk.MeetsSenselessLength channel) : ¬ talk.AnswersOnce channel := by
  obtain ⟨hclosed, hlost⟩ := cycle_of_senselessLength h
  intro answers
  rcases answers.closed hclosed with hbroken | hcut
  · cases works.symm.trans hbroken
  · cases hlost.symm.trans hcut

/-- After an answer that is too long a transport that works has ended the service, or a response has been
broken off. -/
theorem cycle_of_tooLong [Codec] [Hashing] (works : channel.sink.broken = false)
    (h : talk.MeetsTooLong channel) :
    (talk.cycle channel).1 = .closed ∨ ∃ opcode rest response count,
      channel.source.pending = Opcode.code opcode :: rest ∧ Response.Fits opcode response ∧
        ¬ response.Sendable ∧
        (talk.cycle channel).2.2.sink.sent =
          channel.sink.written ++ encode (brokenOffFields response count) ∧
        (talk.cycle channel).2.2.sink.buffer = [] := by
  obtain ⟨-, opcode, rest, delivered, -, unsendable⟩ := h
  have fate := talk.fate_cycle works delivered
  generalize hcycle : ((talk.cycle channel).1, (talk.cycle channel).2.2) = cycled at fate
  cases fate with
  | replied sendable => exact absurd sendable unsendable
  | ended | lost | untold | brokenOffLast => exact .inl (Prod.mk.inj hcycle).1
  | @brokenOff response source sink count carried unsendable sent flushed =>
    refine .inr ⟨opcode, rest, response, count, delivered, fits_handle carried, unsendable, ?_⟩
    rw [(Prod.mk.inj hcycle).2]
    exact ⟨sent, flushed⟩

/-- An answer that is too long ends the service of a transport that works, or what is sent is no reply. -/
theorem not_answersOnce_of_tooLong [Codec] [Hashing] (works : channel.sink.broken = false)
    (h : talk.MeetsTooLong channel) : ¬ talk.AnswersOnce channel := by
  intro answers
  cases houtcome : (talk.cycle channel).1 with
  | closed =>
    rcases answers.closed houtcome with hbroken | hcut
    · cases works.symm.trans hbroken
    · exact h.1 hcut
  | goOn =>
    obtain hclosed | ⟨opcode, rest, response, count, delivered, fits, unsendable, sent, -⟩ :=
      cycle_of_tooLong works h
    · cases houtcome.symm.trans hclosed
    · obtain ⟨code, later, fields, hcode, reply, hsent, -⟩ := answers.goOn houtcome
      cases delivered.symm.trans hcode
      exact Wire.brokenOff_ne_reply fits unsendable count reply
        (List.append_cancel_left (sent.symm.trans hsent))

/-- Every request is answered once, and only the transport ends the service, but for two cases on a transport
that works. Where a request has failed and one of the operands that are then dropped has a length that
makes no sense, the service ends although the connection goes on. And where the answer to a request is
too long to be sent, the service ends, too, or a part of a response is followed by a failure. -/
theorem answersOnce_iff [Codec] [Hashing] (talk : Conversation) (channel : Channel) :
    talk.AnswersOnce channel ↔
      ¬ (channel.sink.broken = false ∧
        (talk.MeetsSenselessLength channel ∨ talk.MeetsTooLong channel)) := by
  constructor
  · rintro answers ⟨works, hsenseless | hlong⟩
    · exact not_answersOnce_of_senselessLength works hsenseless answers
    · exact not_answersOnce_of_tooLong works hlong answers
  · intro sensible
    cases works : channel.sink.broken with
    | true =>
      refine ⟨fun _ => .inl works, fun hgoes => ?_⟩
      cases hgoes.symm.trans (talk.closed_cycle_of_broken works)
    | false =>
      obtain ⟨hgoes, reply⟩ | ⟨hclosed, hcut⟩ | hmeets := talk.cycle_of_works works
      · refine ⟨fun hclosed => ?_, fun _ => reply⟩
        cases hgoes.symm.trans hclosed
      · refine ⟨fun _ => .inr hcut, fun hgoes => ?_⟩
        cases hgoes.symm.trans hclosed
      · exact absurd ⟨works, hmeets⟩ sensible

/-- A request without a user, and with a password of a length that makes no sense. -/
def senselessLength : Channel where
  source := { arrived := Opcode.connect.code :: encode [.bytes none, .int (-2)] ++ [0, 0, 0, 0] }

/-- It ends the service of a transport that works and of a connection that goes on. -/
theorem senseless_length_ends_service : (fresh.cycle senselessLength).1 = .closed ∧
    senselessLength.sink.broken = false ∧ senselessLength.source.extent = .lost ∧
      ¬ fresh.AnswersOnce senselessLength := by
  have hclosed : (fresh.cycle senselessLength).1 = .closed := by decide +kernel
  have hlost : senselessLength.source.extent = .lost := by decide +kernel
  refine ⟨hclosed, rfl, hlost, fun answers => ?_⟩
  rcases answers.closed hclosed with hbroken | hcut
  · cases hbroken
  · cases hlost.symm.trans hcut

/-! ## Connections -/

/-- What is sent in answer to a request with some number: a reply, or a response that is broken off with the
failure to send it behind. -/
inductive IsAnswer [Codec] (code : UInt8) : List Field → Prop
  | reply {fields : List Field} (reply : IsReply code fields) : IsAnswer code fields
  | brokenOff {opcode : Opcode} {response : Response} (known : Opcode.ofCode? code = some opcode)
      (fits : response.Fits opcode) (unsendable : ¬ response.Sendable) (count : UInt64) :
      IsAnswer code (brokenOffFields response count)

/-- Bytes that are the front of an answer. -/
def IsPart [Codec] (bytes : Bytes) : Prop :=
  bytes = [] ∨ ∃ code fields, IsAnswer code fields ∧ bytes <+: encode fields

theorem IsPart.front [Codec] {bytes front : Bytes} (part : IsPart bytes) (h : front <+: bytes) :
    IsPart front := by
  obtain rfl | ⟨code, fields, answer, hbytes⟩ := part
  · exact .inl (List.prefix_nil.1 h)
  · exact .inr ⟨code, fields, answer, h.trans hbytes⟩

/-- What is told of a failure is all of a reply, or its front if the wording is too long. -/
theorem isPart_toldFields [Codec] (opcode : Opcode) (error : ServerError) :
    IsPart (encode error.toldFields) := by
  have failure {message : String} (sendable : (Field.text (some message)).Sendable) :=
    IsAnswer.reply (.failure opcode.ofCode?_code error.category sendable)
  unfold ServerError.toldFields
  split
  · exact .inl rfl
  · by_cases tellable : error.Tellable
    · rw [Wire.sendable_of_all tellable.sendable]
      exact .inr ⟨_, _, failure tellable, List.prefix_rfl⟩
    · have hwording : ¬ (Field.text (some error.message)).Sendable := tellable
      have hfront : Wire.sendable error.envelope.fields =
          [.byte Wire.failureStatus, .text (some error.category.name)] := by
        refine (Wire.sendable_cons (Nat.zero_le _) _).trans (congrArg _ ?_)
        refine (Wire.sendable_cons error.category.sendable_name _).trans (congrArg _ ?_)
        exact List.takeWhile_cons_of_neg (by simpa using hwording)
      have hfields : failureFields (some error.category.name) (some "") =
          Wire.sendable error.envelope.fields ++ [.text (some "")] := by
        rw [hfront]
        rfl
      refine .inr ⟨_, _, @failure "" (Nat.zero_le _), ?_⟩
      rw [hfields, Wire.encode_append]
      exact List.prefix_append _ _

/-- What is sent in answer to a result is an answer, or the front of one. -/
theorem isPart_answerFields [Codec] (limit : Nat) {result : Except ServerError Response}
    (fits : ∀ response, result = .ok response → response.Fits opcode) :
    IsPart (encode (answerFields limit result)) := by
  cases result with
  | error error => exact isPart_toldFields opcode error
  | ok response =>
    by_cases sendable : response.Sendable
    · rw [answerFields_of_sendable sendable limit]
      exact .inr ⟨_, _, .reply (.success opcode.ofCode?_code (fits response rfl) sendable), List.prefix_rfl⟩
    · obtain ⟨count, hfields⟩ := Wire.answerFields_of_unsendable sendable limit
      rw [hfields]
      exact .inr ⟨_, _, .brokenOff opcode.ofCode?_code (fits response rfl) sendable count, List.prefix_rfl⟩

/-- A cycle sends a part of an answer at least, and nothing else. -/
theorem part_cycle [Codec] [Hashing] (talk : Conversation) (channel : Channel) :
    ∃ part, IsPart part ∧ (talk.cycle channel).2.2.sink.written = channel.sink.written ++ part := by
  rcases talk.cycle_forms channel with ⟨-, source, hcycle⟩ | ⟨code, rest, -, hopcode, hcycle⟩ |
    ⟨opcode, rest, delivered, -⟩
  · refine ⟨[], .inl rfl, ?_⟩
    rw [hcycle, List.append_nil]
  · obtain ⟨part, hprefix, hwritten⟩ :=
      extends_answerUnknown { channel with source := channel.source.atOperands }
    refine ⟨part, .inr ⟨code, _, .reply (.unknown hopcode), hprefix⟩, ?_⟩
    rw [hcycle]
    exact hwritten
  · obtain ⟨part, hprefix, hwritten⟩ := extends_answer opcode
      (talk.handle opcode channel.source.atOperands).1
      { channel with source := (talk.handle opcode channel.source.atOperands).2.2 }
    refine ⟨part, (isPart_answerFields _ fun _ => fits_handle).front hprefix, ?_⟩
    rw [(Prod.mk.inj (talk.cycle_answers delivered)).2]
    exact hwritten

/-- A cycle that does not end the service has sent and flushed exactly one answer. -/
theorem answer_of_goOn [Codec] [Hashing] (h : (talk.cycle channel).1 = .goOn) :
    ∃ code fields, IsAnswer code fields ∧
      (talk.cycle channel).2.2.sink.sent = channel.sink.written ++ encode fields ∧
      (talk.cycle channel).2.2.sink.buffer = [] := by
  have works : channel.sink.broken = false := by
    refine Bool.eq_false_iff.2 fun broken => ?_
    cases h.symm.trans (talk.closed_cycle_of_broken broken)
  obtain ⟨-, code, rest, fields, -, reply, hsent⟩ | ⟨hclosed, -⟩ | hsenseless | hlong :=
    talk.cycle_of_works works
  · exact ⟨code, fields, .reply reply, hsent⟩
  · cases h.symm.trans hclosed
  · cases h.symm.trans (cycle_of_senselessLength hsenseless).1
  · obtain hclosed | ⟨opcode, -, response, count, -, fits, unsendable, hsent⟩ := cycle_of_tooLong works hlong
    · cases h.symm.trans hclosed
    · exact ⟨_, _, .brokenOff opcode.ofCode?_code fits unsendable count, hsent⟩

/-- How much has been sent after each of some answers. -/
def ends (sent : Nat) : List (List Field) → List Nat
  | [] => []
  | answer :: later => (sent + (encode answer).length) :: ends (sent + (encode answer).length) later

/-- All that is sent on a connection are answers, one after another, and a part of one more if the service
ends while that is sent. The number that is noted after each cycle tells where its answer ends. -/
theorem cycles_answers [Codec] [Hashing] (talk : Conversation) (channel : Channel) (fuel : Nat) :
    ∃ answers part, (∀ fields ∈ answers, ∃ code, IsAnswer code fields) ∧ IsPart part ∧
      (talk.cycles channel fuel).1 = ends channel.sink.written.length answers ∧
      (talk.cycles channel fuel).2.2.sink.written =
        channel.sink.written ++ encode answers.flatten ++ part := by
  induction fuel generalizing talk channel with
  | zero => exact ⟨[], [], by simp, .inl rfl, rfl, by simp [cycles, encode]⟩
  | succ fuel ih =>
    have hgoOn := @answer_of_goOn talk channel _ _
    obtain ⟨part, hpart, hwritten⟩ := talk.part_cycle channel
    rw [cycles]
    rcases hcycle : talk.cycle channel with ⟨outcome, after, settled⟩
    rw [hcycle] at hgoOn hwritten
    cases outcome with
    | closed => exact ⟨[], part, by simp, hpart, rfl, by simpa [encode] using hwritten⟩
    | goOn =>
      obtain ⟨code, fields, answer, hsent, hbuffer⟩ := hgoOn rfl
      have hsettled : settled.sink.written = channel.sink.written ++ encode fields := by
        rw [Sink.written, hbuffer, List.append_nil]
        exact hsent
      obtain ⟨answers, part, hanswers, hpart, hends, hfinal⟩ := ih after settled
      refine ⟨fields :: answers, part, ?_, hpart, ?_, ?_⟩
      · exact List.forall_mem_cons.2 ⟨⟨code, answer⟩, hanswers⟩
      · have hlength : settled.sink.sent.length = channel.sink.written.length + (encode fields).length := by
          rw [hsent, List.length_append]
        rw [hsettled, List.length_append] at hends
        simp only [hends, ends, hlength]
      · rw [List.flatten_cons, Wire.encode_append, ← List.append_assoc, ← hsettled]
        exact hfinal

end Conversation

end RecordBase
