import RecordBase.Proofs.Command.RoundTrip
import RecordBase.Proofs.Server.Results

/-!
# Client and server agree

A client's call is sent, served in one cycle, and its reply read. What the call is to return is told by the
operations of the database of the session (`Conversation.result`).

* `Conversation.cycle_of_called`: the server replies with exactly that result, or with the category and
  the wording of its failure.
* `Client.call_of_replied`: from this reply the client gets the result, and nothing is left of the reply.
* `Conversation.call_returns_result`: so every call returns what the operations of the database give.
-/

namespace RecordBase

open Wire (Channel Request Response Decoder Source Opcode Field Client AllWithin encode failureFields
  replyFields ReplySendable)

/-- What a client gets to know of a failure. -/
def ServerError.reported (error : ServerError) : WireError :=
  .remote (some error.category.name) (some error.message)

/-- A channel with some limit accepts a reply. -/
def Wire.ReplyWithin [Codec] (limit : Nat) : Except ServerError Response → Prop
  | .ok response => response.Within limit
  | .error error => AllWithin limit error.envelope.fields

instance [Codec] (limit : Nat) : DecidablePred (Wire.ReplyWithin limit)
  | .ok response => inferInstanceAs (Decidable (response.Within limit))
  | .error _ => inferInstanceAs (Decidable (AllWithin limit _))

open Wire (ReplyWithin)

/-! ## What is accepted can be sent -/

namespace Wire

theorem Field.Within.sendable {limit : Nat} {field : Field} (within : field.Within limit) :
    field.Sendable := by
  cases field with
  | bytes value | text value => exact Nat.le_of_lt_succ within.1
  | _ => exact Nat.zero_le _

theorem Response.Within.sendable [Codec] {limit : Nat} {response : Response}
    (within : response.Within limit) : response.Sendable where
  fields := List.forall_mem_cons.2 ⟨Nat.zero_le _, fun field h => (within.1 field h).sendable⟩
  refusal := by
    unfold refusal?
    split
    · exact if_neg (Nat.not_lt.2 (Nat.le_of_lt_succ within.2))
    · rfl

theorem ReplyWithin.sendable [Codec] {limit : Nat} {result : Except ServerError Response}
    (within : ReplyWithin limit result) : ReplySendable result := by
  cases result with
  | ok response => exact Response.Within.sendable within
  | error error =>
    exact (within (.text (some error.message)) (List.mem_of_getLast? rfl)).sendable

theorem Request.sendable_fields [Codec] {limit : Nat} {request : Request}
    (within : AllWithin limit request.operandFields) : ∀ field ∈ request.fields, field.Sendable :=
  List.forall_mem_cons.2 ⟨Nat.zero_le _, fun field h => (within field h).sendable⟩

end Wire

/-! ## The client's side -/

namespace Wire.Client

variable {client : Client} {request : Request}

/-- A call on a transport that works sends its request and reads what comes back. -/
theorem call_of_works [Codec] {limit : Nat} (called : request.Called)
    (works : client.channel.sink.broken = false) (accepted : AllWithin limit request.operandFields) :
    ∃ sink, sink.sent = client.channel.sink.written ++ encode request.fields ∧
      client.call request = (Client.mk { client.channel with sink }).receive
        (do status; Response.decode request) := by
  have hmessage : message request = { fields := request.fields } := by
    cases called with
    | countClusters few => exact if_neg (Nat.not_lt.2 few)
    | commit number complete few => exact if_neg (Nat.not_lt.2 (Nat.le_of_lt_succ few))
    | _ => rfl
  obtain ⟨sink, hsend, htook, hworks⟩ := Channel.send_of_sendable works (Request.sendable_fields accepted)
  refine ⟨{ sink with sent := sink.written, buffer := [] }, htook, ?_⟩
  simp only [call, hmessage, exchange, send, hsend, Sink.flush_of_works hworks]

/-- The result of a call is read from its reply, of which nothing is left. -/
theorem call_of_replied [Codec] (lawful : Codec.Lawful) {limit : Nat}
    {result : Except ServerError Response} (called : request.Called)
    (works : client.channel.sink.broken = false) (accepted : AllWithin limit request.operandFields)
    (answers : ∀ response, result = .ok response → Response.Answers request response)
    (readable : ReplyWithin client.channel.source.limit result)
    (replied : client.channel.source.pending = encode (replyFields result)) :
    (client.call request).2.channel.sink.sent =
        client.channel.sink.written ++ encode request.fields ∧
      (client.call request).1 = result.mapError ServerError.reported ∧
      (client.call request).2.channel.source.pending = [] := by
  obtain ⟨sink, hsent, hcall⟩ := call_of_works called works accepted
  have hpending := replied.trans (List.append_nil _).symm
  cases result with
  | ok response =>
    have hreads : (do status; Response.decode request : Decoder Response).Reads
        client.channel.source.limit response.fields response :=
      reads_status.bind (Response.reads_decode lawful called (answers response rfl) readable)
    obtain ⟨after, hread, past⟩ := hreads client.channel.source rfl ⟨[], hpending.symm⟩
    rw [hcall, receive, hread]
    exact ⟨hsent, rfl, past.pending_eq hpending⟩
  | error error =>
    obtain ⟨after, hread, past⟩ := (rejects_status readable).bind client.channel.source rfl
      ⟨[], hpending.symm⟩
    rw [hcall, receive, hread]
    exact ⟨hsent, rfl, past.pending_eq hpending⟩

end Wire.Client

/-! ## The server's side -/

namespace Wire.Request

variable {request : Request}

/-- A call has all the operands of its kind. -/
theorem Called.skipOperands [Codec] (called : request.Called) :
    skipOperands (request.opcode.operands.drop request.operandFields.length) = Pure.pure () := by
  cases called with
  | countClusters few =>
    rw [operandFields, List.length_cons, List.length_map]
    exact skipOperands_countClusters _
  | @commit number entries complete few =>
    exact skipOperands_commit (entries.flatMap entryFields).length
  | _ => rfl

end Wire.Request

namespace Conversation

variable {talk : Conversation} {request : Request}

/-- A call is replied to with its result, if that can be sent. -/
theorem cycle_of_called [Codec] [Hashing] (lawful : Codec.Lawful) {server : Channel}
    (sound : talk.host.catalog.Sound) (called : request.Called) (works : server.sink.broken = false)
    (accepted : AllWithin server.source.limit request.operandFields)
    (sendable : ReplySendable (talk.result request))
    (delivered : server.source.pending = encode request.fields) :
    (talk.cycle server).1 = .goOn ∧
      (talk.cycle server).2.2.sink.sent =
        server.sink.written ++ encode (replyFields (talk.result request)) := by
  have hnumber : server.source.pending = request.opcode.code :: encode request.operandFields :=
    delivered
  have hpending := (Source.word_number hnumber).2.1
  have hlimit := Source.limit_atOperands hnumber
  obtain ⟨after, hread, past⟩ := Request.reads_decode lawful called accepted
    server.source.atOperands hlimit ⟨[], (List.append_nil _).trans hpending.symm⟩
  obtain ⟨settled, hskipped, -⟩ := skipRest_of_read rfl rfl past called.skipOperands
  have answered := @answered_of_called talk _ request called
  have hperformed : talk.performRead (.ok request) =
    ((talk.perform request).1, (talk.perform request).2) := rfl
  rw [cycle_of_number hnumber, serve_of_performed hread hperformed]
  rw [← perform_of_called sound called] at sendable ⊢
  obtain ⟨failed, source, sink, hanswer, hsent, -⟩ := @answer_of_works request.opcode
    { source := after, sink := server.sink } _ _ settled works answered sendable hskipped
  rw [hanswer]
  exact ⟨rfl, hsent⟩

/-! ## Both sides -/

/-- Client and server agree on every call. When the server gets what the client sends, it replies, and the
client that gets this reply returns what the operations of the session's database give, or the category and
the wording of the failure, and has read all of the reply. The server accepts the operands of the call, and
the client what is replied, and what decodes commands and their values decodes what was encoded. -/
theorem call_returns_result [Codec] [Hashing] (lawful : Codec.Lawful) {server : Channel} {client : Client}
    (reached : talk.host.Reached) (called : request.Called) (serverWorks : server.sink.broken = false)
    (clientWorks : client.channel.sink.broken = false)
    (accepted : AllWithin server.source.limit request.operandFields)
    (readable : ReplyWithin client.channel.source.limit (talk.result request))
    (delivered : server.source.pending = encode request.fields) :
    (talk.cycle server).1 = .goOn ∧
      ∃ reply, (talk.cycle server).2.2.sink.sent = server.sink.written ++ reply ∧
        (client.channel.source.pending = reply →
          (client.call request).2.channel.sink.sent =
              client.channel.sink.written ++ server.source.pending ∧
            (client.call request).1 = (talk.result request).mapError ServerError.reported ∧
            (client.call request).2.channel.source.pending = []) := by
  have sound := reached.sound
  obtain ⟨hgoes, hsent⟩ :=
    cycle_of_called lawful sound called serverWorks accepted readable.sendable delivered
  refine ⟨hgoes, _, hsent, fun replied => ?_⟩
  rw [delivered]
  refine Client.call_of_replied lawful called clientWorks accepted (fun response hresponse => ?_)
    readable replied
  exact answers_perform sound called ((perform_of_called sound called).trans hresponse)

/-- A batch that creates a record, updates it and deletes it. -/
def wholeLife : Request :=
  .commit 7 [.create 0 none (some [1]), .update ⟨0, -2⟩ 0 (some [2]), .delete ⟨0, -2⟩ 1] none

/-- The outcome of that batch in an empty database. -/
def lived : Outcome := ⟨7, [(⟨0, -2⟩, ⟨0, 0⟩)], [(⟨0, 0⟩, 1)], 1⟩

/-- The outcome of a batch that a result tells. -/
def outcome? : Except ServerError Response → Option Outcome
  | .ok (.outcome outcome) => some outcome
  | _ => none

theorem eq_of_outcome? {result : Except ServerError Response} {outcome : Outcome}
    (h : outcome? result = some outcome) : result = .ok (.outcome outcome) := by
  unfold outcome? at h
  split at h <;> cases h
  rfl

theorem result_wholeLife : settled.result wholeLife = .ok (.outcome lived) :=
  eq_of_outcome? (by decide +kernel)

theorem call_returns_result_of_wholeLife :
    let server : Channel := { source := { arrived := encode wholeLife.fields } }
    let client : Client := ⟨{ source := { arrived := encode (Response.outcome lived).fields } }⟩
    (settled.cycle server).2.2.sink.sent = client.channel.source.pending ∧
      (client.call wholeLife).2.channel.sink.sent = server.source.pending ∧
      (client.call wholeLife).1 = .ok (.outcome lived) ∧
      (client.call wholeLife).2.channel.source.pending = [] := by
  intro server client
  have called : wholeLife.Called := .commit 7 (by simp [BatchEntry.IsComplete]) (by decide)
  obtain ⟨-, reply, hsent, hclient⟩ := @call_returns_result settled wholeLife _ _ Cbor.lawful server
    client reached_settled called rfl rfl (by decide +kernel)
    (by rw [result_wholeLife]; decide +kernel) (List.append_nil _)
  have hreply : client.channel.source.pending = reply :=
    (show client.channel.source.pending = (settled.cycle server).2.2.sink.sent by decide +kernel).trans
      hsent
  rw [result_wholeLife] at hclient
  exact ⟨hsent.trans hreply.symm, hclient hreply⟩

end Conversation

end RecordBase
