import RecordBase.Proofs.Wire.Sink
import RecordBase.Proofs.Wire.Source
import RecordBase.Server.Cycle

/-!
# What is sent in answer

A result is answered with a response, or with the category and the wording of a failure (`replyFields`). A
response that cannot be sent to its end is broken off, and the failure to send it follows. A failure
whose wording is too long to be sent ends the service.

* `extends_answer`: what is sent in answer, or a part of it if the transport takes nothing;
* `closed_of_broken`: a transport that takes nothing ends the service;
* `answer_of_works`: a reply that can be sent is sent and flushed by a transport that works;
* `answer_of_unsendable`: what becomes of a response that cannot be sent.
-/

namespace RecordBase

open Wire

/-! ## Replies -/

/-- The fields of a reply. -/
def Wire.replyFields [Codec] : Except ServerError Response → List Field
  | .ok response => response.fields
  | .error error => error.envelope.fields

/-- The failure to send a response that is too long. -/
def Wire.overlong (count : UInt64) : ServerError := .wire (.tooLong Int32.maxValue count)

/-- A result that is answered: it does not tell the end of the transport. -/
def Answered {α : Type} (result : Except ServerError α) : Prop :=
  ∀ error, result = .error error → error.isTransport = false

/-- The wording of a failure is not too long to be sent. -/
def ServerError.Tellable (error : ServerError) : Prop :=
  (Bytes.ofText error.message).length ≤ greatest

instance : DecidablePred ServerError.Tellable := fun error =>
  inferInstanceAs (Decidable ((Bytes.ofText error.message).length ≤ greatest))

/-- A response is not too long to be sent. -/
structure Wire.Response.Sendable [Codec] (response : Response) : Prop where
  fields : ∀ field ∈ response.fields, field.Sendable
  refusal : response.refusal? = none

/-- A reply is not too long to be sent. -/
def Wire.ReplySendable [Codec] : Except ServerError Response → Prop
  | .ok response => response.Sendable
  | .error error => error.Tellable

theorem Category.sendable_name (category : Category) : (Field.text (some category.name)).Sendable := by
  cases category <;> decide

theorem ServerError.Tellable.sendable {error : ServerError} (tellable : error.Tellable) :
    ∀ field ∈ error.envelope.fields, field.Sendable :=
  List.forall_mem_cons.2 ⟨Nat.zero_le _, List.forall_mem_cons.2 ⟨error.category.sendable_name,
    List.forall_mem_singleton.2 tellable⟩⟩

/-- Nothing is told of a failure whose wording cannot be sent. -/
theorem ServerError.told_of_not_tellable {error : ServerError} (h : ¬ error.Tellable) (limit : Nat) :
    error.envelope.told limit = .error (untold limit) := by
  have hlong : ¬ ∀ field ∈ error.envelope.fields, field.Sendable := fun sendable =>
    h (sendable (.text (some error.message)) (List.mem_of_getLast? rfl))
  rw [Message.told, told, if_neg hlong]
  rfl

namespace Wire.Response

variable [Codec] {response : Response}

theorem message_of_sendable (h : response.Sendable) : response.message = { fields := response.fields } := by
  rw [message, h.refusal]

/-- The numbers and identities of an outcome can always be sent. -/
theorem sendable_outcome (outcome : Outcome) : (Response.outcome outcome).Sendable where
  fields := by
    have numbers : ∀ field ∈ (Response.outcome outcome).fields, field.size = 0 := by
      simp +contextual [Response.fields, payloadFields, outcomeFields, identityFields,
        countField, Field.size, or_imp]
    exact fun field h => Nat.le_trans (Nat.le_of_eq (numbers field h)) (Nat.zero_le _)
  refusal := rfl

/-- The status comes first, whatever can be sent of what follows. -/
theorem sendable_message (response : Response) :
    ∃ rest, sendable response.message.fields = .byte successStatus :: rest := by
  unfold message
  split <;> exact ⟨_, sendable_cons (Nat.zero_le _) _⟩

/-- Where a response cannot be sent, some length or number in it is too great. -/
theorem told_of_not_sendable (h : ¬ response.Sendable) (limit : Nat) :
    ∃ count, response.message.told limit = .error (.tooLong Int32.maxValue count) := by
  cases hrefusal : response.refusal? with
  | none =>
    have hlong : ¬ ∀ field ∈ response.fields, field.Sendable := fun fields => h ⟨fields, hrefusal⟩
    refine ⟨.ofNat limit, ?_⟩
    rw [message, hrefusal, Message.told, told, if_neg hlong]
    rfl
  | some error =>
    obtain ⟨count, rfl⟩ : ∃ count, error = .tooLong Int32.maxValue count := by
      unfold refusal? at hrefusal
      split at hrefusal
      · split at hrefusal <;> cases hrefusal
        exact ⟨_, rfl⟩
      · cases hrefusal
    have hstatus : told limit [.byte successStatus] = .ok () :=
      told_of_all (List.forall_mem_singleton.2 (Nat.zero_le _))
    refine ⟨count, ?_⟩
    rw [message, hrefusal, Message.told, hstatus]
    rfl

end Wire.Response

/-! ## On any transport -/

/-- What is told of a failure; nothing of the end of the transport. -/
def ServerError.toldFields (error : ServerError) : List Field :=
  if error.isTransport then [] else sendable error.envelope.fields

/-- What is sent in answer to a result on a channel with some limit. -/
def answerFields [Codec] (limit : Nat) : Except ServerError Response → List Field
  | .error error => error.toldFields
  | .ok response =>
    sendable response.message.fields ++
      match response.message.told limit with
      | .ok () => []
      | .error error => ServerError.toldFields (.wire error)

theorem answerFields_of_sendable [Codec] {response : Response} (h : response.Sendable) (limit : Nat) :
    answerFields limit (.ok response) = response.fields := by
  simp only [answerFields, Response.message_of_sendable h, sendable_of_all h.fields, Message.told,
    told_of_all h.fields]
  exact List.append_nil _

section

variable {opcode : Opcode} {channel : Channel}

theorem written_flushed (channel : Channel) : (flushed channel).2.sink.written = channel.sink.written := by
  obtain ⟨front, hfront, hwritten⟩ := channel.sink.takes_flush.front
  rw [List.prefix_nil.1 hfront, List.append_nil] at hwritten
  exact hwritten

/-- What is told of a failure is sent. -/
theorem extends_answerFailure (opcode : Opcode) (error : ServerError) (channel : Channel) :
    channel.sink.Extends (encode error.toldFields) (answerFailure opcode error channel).2.sink := by
  unfold answerFailure ServerError.toldFields
  cases error.isTransport with
  | true => exact ⟨[], List.prefix_rfl, (List.append_nil _).symm⟩
  | false =>
    obtain ⟨result, sink, takes, hsend⟩ := channel.send_cases error.envelope
    have hfront := takes.front
    rw [hsend]
    simp only [Bool.false_eq_true, if_false]
    rcases (do result; error.envelope.told channel.source.limit : Except WireError Unit) with _ | _
    · exact hfront
    · simp only
      rcases skipRest opcode channel.source with ⟨_ | _, settled⟩
      · exact hfront
      · obtain ⟨front, hprefix, hwritten⟩ := hfront
        exact ⟨front, hprefix, (written_flushed _).trans hwritten⟩

theorem extends_answer [Codec] (opcode : Opcode) (result : Except ServerError Response)
    (channel : Channel) :
    channel.sink.Extends (encode (answerFields channel.source.limit result))
      (answer opcode result channel).2.2.sink := by
  cases result with
  | error error => exact extends_answerFailure opcode error channel
  | ok response =>
    obtain ⟨result, sink, takes, hsend⟩ := channel.send_cases response.message
    rw [answer, hsend, answerFields, encode_append]
    cases takes with
    | part _ _ front =>
      obtain ⟨front, hprefix, hwritten⟩ := front
      exact ⟨front, hprefix.trans (List.prefix_append _ _), hwritten⟩
    | all _ written =>
      have hanswered : (do Except.ok (); response.message.told channel.source.limit) =
        response.message.told channel.source.limit := rfl
      rw [hanswered]
      cases response.message.told channel.source.limit with
      | ok _ =>
        exact ⟨_, List.prefix_append _ _, (written_flushed _).trans written⟩
      | error error =>
        obtain ⟨front, hprefix, hwritten⟩ :=
          extends_answerFailure opcode (.wire error) { channel with sink }
        refine ⟨_, (List.prefix_append_right_inj _).2 hprefix, ?_⟩
        rw [hwritten, written, List.append_assoc]

theorem extends_answerUnknown (channel : Channel) :
    channel.sink.Extends (encode (failureFields none none)) (answerUnknown channel).2.sink := by
  obtain ⟨result, sink, takes, hsend⟩ := { channel with source := channel.source.discard.2 }.send_cases
    { fields := failureFields none none }
  have hfront := takes.front
  simp only [answerUnknown, hsend]
  rcases (do result; _ : Except WireError Unit) with _ | _
  · exact hfront
  · obtain ⟨front, hprefix, hwritten⟩ := hfront
    exact ⟨front, hprefix, (written_flushed _).trans hwritten⟩

/-! ## On a transport that is broken -/

/-- A transport that takes nothing ends the service when what waits is flushed. -/
theorem closed_of_waiting (broken : channel.sink.broken = true) (waits : channel.sink.buffer ≠ []) :
    (flushed channel).1 = .closed := by
  simp only [flushed, Sink.flush_of_broken broken waits]

/-- A broken transport refuses a message at once, or at the next flush. -/
theorem send_of_broken {message : Message} {first : UInt8} {rest : List Field}
    (broken : channel.sink.broken = true) (starts : sendable message.fields = .byte first :: rest) :
    (∃ sink, channel.send message = (.error .closed, { channel with sink })) ∨
      ∃ answered after, channel.send message = (answered, after) ∧ after.sink.broken = true ∧
        ∀ source, (flushed { after with source }).1 = .closed := by
  obtain ⟨result, sink, takes, hsend⟩ := channel.send_cases message
  cases takes with
  | part => exact .inl ⟨sink, hsend⟩
  | all keeps written =>
    have hbroken : sink.broken = true := keeps.broken.trans broken
    refine .inr ⟨_, _, hsend, hbroken, fun source => ?_⟩
    refine @closed_of_waiting { source, sink } hbroken fun hempty => ?_
    rw [Sink.written, Sink.written, keeps.sent broken, hempty, starts, List.append_assoc] at written
    have hnone := List.append_eq_nil_iff.1 (List.append_cancel_left written).symm
    exact List.cons_ne_nil first (encode rest) hnone.2

theorem closed_answerFailure (broken : channel.sink.broken = true) (error : ServerError) :
    (answerFailure opcode error channel).1 = .closed := by
  have starts : sendable error.envelope.fields = .byte failureStatus :: _ :=
    sendable_cons (Nat.zero_le _) _
  unfold answerFailure
  cases error.isTransport with
  | true => rfl
  | false =>
    obtain ⟨sink, hsend⟩ | ⟨_ | _, after, hsend, -, hflushed⟩ := send_of_broken broken starts <;>
      simp only [hsend, Bool.false_eq_true, if_false]
    rcases skipRest opcode after.source with ⟨_ | _, settled⟩
    · rfl
    · exact hflushed _

theorem closed_answerUnknown (broken : channel.sink.broken = true) :
    (answerUnknown channel).1 = .closed := by
  have starts : sendable (failureFields none none) = .byte failureStatus :: _ :=
    sendable_cons (Nat.zero_le _) _
  obtain ⟨sink, hsend⟩ | ⟨_ | _, after, hsend, -, hflushed⟩ :=
    @send_of_broken { channel with source := channel.source.discard.2 }
      { fields := failureFields none none } _ _ broken starts <;>
    simp only [answerUnknown, hsend]
  exact hflushed after.source

/-- A transport that takes nothing ends the service. -/
theorem closed_of_broken [Codec] (broken : channel.sink.broken = true)
    (result : Except ServerError Response) : (answer opcode result channel).2.1 = .closed := by
  cases result with
  | error error => exact closed_answerFailure broken error
  | ok response =>
    obtain ⟨rest, starts⟩ := response.sendable_message
    obtain ⟨sink, hsend⟩ | ⟨_ | _, after, hsend, hbroken, hflushed⟩ := send_of_broken broken starts <;>
      simp only [answer, hsend]
    · rfl
    · exact closed_answerFailure hbroken _
    · exact hflushed after.source

/-! ## On a transport that works -/

theorem answerUnknown_of_works (works : channel.sink.broken = false) :
    ∃ source sink, answerUnknown channel = (.goOn, { source, sink }) ∧
      sink.sent = channel.sink.written ++ encode (failureFields none none) ∧ sink.buffer = [] := by
  obtain ⟨sink, hsend, hwritten, hworks⟩ := @Channel.send_of_sendable
    { channel with source := channel.source.discard.2 } works (failureFields none none) (by decide)
  refine ⟨channel.source.discard.2, { sink with sent := sink.written, buffer := [] }, ?_, hwritten, rfl⟩
  simp only [answerUnknown, hsend, flushed, Sink.flush_of_works hworks]

/-- The end of the transport is not told. -/
theorem answerFailure_of_transport {error : ServerError} (transport : error.isTransport = true) :
    answerFailure opcode error channel = (.closed, channel) := by
  simp only [answerFailure, transport, if_true]

/-- How a failure is answered. -/
theorem answerFailure_of_works {settled : Source} {error : ServerError}
    (works : channel.sink.broken = false) (answered : error.isTransport = false)
    (tellable : error.Tellable) (skipped : skipRest opcode channel.source = (.ok (), settled)) :
    ∃ sink, answerFailure opcode error channel = (.goOn, { source := settled.discard.2, sink }) ∧
      sink.sent = channel.sink.written ++ encode error.envelope.fields ∧ sink.buffer = [] := by
  obtain ⟨sink, hsent, hwritten, hworks⟩ := Channel.send_of_sendable works tellable.sendable
  refine ⟨{ sink with sent := sink.written, buffer := [] }, ?_, hwritten, rfl⟩
  have hsend : channel.send error.envelope = (.ok (), { channel with sink }) := hsent
  simp only [answerFailure, answered, Bool.false_eq_true, if_false, hsend, skipped, finish, flushed,
    Sink.flush_of_works hworks]

/-- A failure whose wording cannot be sent ends the service. -/
theorem answerFailure_of_not_tellable {error : ServerError} (works : channel.sink.broken = false)
    (untold : ¬ error.Tellable) : (answerFailure opcode error channel).1 = .closed := by
  unfold answerFailure
  cases error.isTransport with
  | true => rfl
  | false =>
    obtain ⟨sink, hsend, -⟩ := Channel.send_of_works works error.envelope
    rw [ServerError.told_of_not_tellable untold] at hsend
    simp only [hsend, Bool.false_eq_true, if_false]

/-- Where the rest of a request cannot be dropped, the service ends. -/
theorem answerFailure_of_lost {error : ServerError} {cause : WireError}
    (h : (skipRest opcode channel.source).1 = .error cause) (answered : error.isTransport = false) :
    (answerFailure opcode error channel).1 = .closed := by
  obtain ⟨result, sink, -, hsend⟩ := channel.send_cases error.envelope
  rcases hskip : skipRest opcode channel.source with ⟨_, settled⟩
  rw [hskip] at h
  obtain rfl := h
  simp only [answerFailure, answered, Bool.false_eq_true, if_false, hsend]
  cases (do result; error.envelope.told channel.source.limit : Except WireError Unit) with
  | error => rfl
  | ok => simp only [hskip]

/-- How a request that was carried out is answered with a response that can be sent. -/
theorem answer_of_sendable [Codec] {response : Response} (works : channel.sink.broken = false)
    (h : response.Sendable) :
    ∃ sink, answer opcode (.ok response) channel = (false, .goOn, { channel with sink }) ∧
      sink.sent = channel.sink.written ++ encode response.fields ∧ sink.buffer = [] := by
  obtain ⟨sink, hsend, hwritten, hworks⟩ := Channel.send_of_sendable works h.fields
  refine ⟨{ sink with sent := sink.written, buffer := [] }, ?_, hwritten, rfl⟩
  simp only [answer, Response.message_of_sendable h, hsend, flushed, Sink.flush_of_works hworks]

/-- A response that cannot be sent is broken off, and the failure to send it is answered. -/
theorem answer_of_unsendable [Codec] {response : Response} (works : channel.sink.broken = false)
    (h : ¬ response.Sendable) :
    ∃ count sink,
      answer opcode (.ok response) channel =
        (true, answerFailure opcode (overlong count) { channel with sink }) ∧
      sink.written = channel.sink.written ++ encode (sendable response.message.fields) ∧
      sink.broken = false := by
  obtain ⟨sink, hsend, hwritten, hworks⟩ := Channel.send_of_works works response.message
  obtain ⟨count, htold⟩ := Response.told_of_not_sendable h channel.source.limit
  refine ⟨count, sink, ?_, hwritten, hworks⟩
  simp only [answer, hsend, htold, overlong]

/-- A reply that can be sent is sent and flushed. A success leaves the connection where it is, and after a
failure the rest of the request is dropped. -/
theorem answer_of_works [Codec] {result : Except ServerError Response} {settled : Source}
    (works : channel.sink.broken = false) (answered : Answered result)
    (sendable : ReplySendable result) (skipped : skipRest opcode channel.source = (.ok (), settled)) :
    ∃ failed source sink, answer opcode result channel = (failed, .goOn, { source, sink }) ∧
      sink.sent = channel.sink.written ++ encode (replyFields result) ∧ sink.buffer = [] ∧
      source = match result with
        | .ok _ => channel.source
        | .error _ => settled.discard.2 := by
  cases result with
  | ok response =>
    obtain ⟨sink, hanswer, hsent⟩ := answer_of_sendable works sendable
    exact ⟨_, _, sink, hanswer, hsent.1, hsent.2, rfl⟩
  | error error =>
    obtain ⟨sink, hfailure, hsent⟩ :=
      answerFailure_of_works works (answered error rfl) sendable skipped
    exact ⟨true, _, sink, congrArg (Prod.mk true) hfailure, hsent.1, hsent.2, rfl⟩

end

end RecordBase
