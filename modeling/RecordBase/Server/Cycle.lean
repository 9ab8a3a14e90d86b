import RecordBase.Server.Feeding
import RecordBase.Wire.Channel

/-!
# Serving a connection

One request is read, carried out and answered at a time. A success is answered with a response; any
other failure than that of the transport is answered with its category and wording, and what is
left of the request is dropped: what a refused field owes, then the operands that its kind still
names, then whatever else has arrived. The end of the transport ends the service.
-/

namespace RecordBase

open Wire (Channel Message Request Response Decoder Source Opcode Operand)

/-- What is done after a request. -/
inductive CycleOutcome where
  /-- The next request is awaited. -/
  | goOn
  /-- The transport has ended. -/
  | closed
  deriving DecidableEq, Repr

/-- Whether a failure is that of the transport. -/
def ServerError.isTransport : ServerError → Bool
  | wire .closed => true
  | _ => false

/-! ## Dropping the rest of a request -/

/-- Drops operands, up to the first whose length its kind does not tell. -/
def skipOperands : List Operand → Decoder Unit
  | [] => return ()
  | operand :: rest =>
    match operand.kind with
    | .byte => do
      let _ ← Source.word UInt8
      skipOperands rest
    | .short => do
      let _ ← Source.word Int16
      skipOperands rest
    | .int => do
      let _ ← Source.word Int32
      skipOperands rest
    | .long => do
      let _ ← Source.word Int64
      skipOperands rest
    | .string | .bytes => do
      Source.skipBytes
      skipOperands rest
    | .shorts | .entries => return ()

/-- The operands of a kind of request that have not been taken, as far as that is known. -/
def unreadOperands (opcode : Opcode) (source : Source) : List Operand :=
  match source.taken with
  | some taken => opcode.operands.drop taken
  | none => []

/-- Drops what a refused field owes and the operands that have not been taken. -/
def skipRest (opcode : Opcode) : Decoder Unit := do
  let _ ← Source.skipOwed
  fun source => skipOperands (unreadOperands opcode source) source

/-! ## Answers -/

/-- Flushes what has been sent; a transport that refuses it has ended. -/
def flushed (channel : Channel) : CycleOutcome × Channel :=
  let (result, sink) := channel.sink.flush
  (match result with | .ok () => .goOn | .error _ => .closed, { channel with sink })

/-- Drops what has arrived and flushes what has been sent. -/
def finish (channel : Channel) : CycleOutcome × Channel :=
  let (_, source) := channel.source.discard
  flushed { channel with source }

/-- What is sent of a failure. -/
def ServerError.envelope (error : ServerError) : Message :=
  { fields := Wire.failureFields (some error.category.name) (some error.message) }

/-- Answers a request that failed: tells why and drops what is left of it. A failure that cannot be told
ends the service, as that of the transport does. -/
def answerFailure (opcode : Opcode) (error : ServerError) (channel : Channel) :
    CycleOutcome × Channel :=
  if error.isTransport then (.closed, channel)
  else match channel.send error.envelope with
    | (.error _, channel) => (.closed, channel)
    | (.ok (), channel) =>
      match skipRest opcode channel.source with
      | (.error _, source) => (.closed, { channel with source })
      | (.ok (), source) => finish { channel with source }

/-- Answers a request of an unknown kind. -/
def answerUnknown (channel : Channel) : CycleOutcome × Channel :=
  let (_, source) := channel.source.discard
  match { channel with source }.send { fields := Wire.failureFields none none } with
  | (.error _, channel) => (.closed, channel)
  | (.ok (), channel) => flushed channel

/-- Answers a request that was carried out or failed. Also tells whether it failed. A response that cannot
be sent to its end is a failure, too, and is answered as one behind what has been sent of it. -/
def answer [Codec] (opcode : Opcode) (result : Except ServerError Response) (channel : Channel) :
    Bool × CycleOutcome × Channel :=
  match result with
  | .error error => (true, answerFailure opcode error channel)
  | .ok response =>
    match channel.send response.message with
    | (.error error, channel) => (true, answerFailure opcode (.wire error) channel)
    | (.ok (), channel) => (false, flushed channel)

/-! ## Cycles -/

namespace Conversation

/-- Carries out a request that was read, or fails as its reading did. -/
def performRead [Hashing] (talk : Conversation) :
    Except WireError Request → Except ServerError Response × Conversation
  | .error error => (.error (.wire error), talk)
  | .ok request => talk.perform request

/-- Counts a request. -/
def count (talk : Conversation) (code : UInt8) (failed : Bool) : Conversation :=
  { talk with session := talk.session.count code failed }

/-- Reads the operands of a request and carries it out. -/
def handle [Codec] [Hashing] (talk : Conversation) (opcode : Opcode) (source : Source) :
    Except ServerError Response × Conversation × Source :=
  match opcode with
  | .commit => talk.commitFrom source
  | opcode =>
    let (request, source) := Request.decode opcode source
    let (result, talk) := talk.performRead request
    (result, talk, source)

/-- Reads the operands of a request, carries it out and answers it. -/
def serve [Codec] [Hashing] (talk : Conversation) (opcode : Opcode) (channel : Channel) :
    CycleOutcome × Conversation × Channel :=
  let (result, talk, source) := talk.handle opcode channel.source
  let (failed, outcome, channel) := answer opcode result { channel with source }
  (outcome, talk.count opcode.code failed, channel)

/-- Reads, carries out and answers one request. -/
def cycle [Codec] [Hashing] (talk : Conversation) (channel : Channel) :
    CycleOutcome × Conversation × Channel :=
  match Source.word UInt8 channel.source with
  | (.error _, source) => (.closed, talk, { channel with source })
  | (.ok code, source) =>
    let channel := { channel with source := source.beginMessage }
    match Opcode.ofCode? code with
    | some opcode => talk.serve opcode channel
    | none =>
      let (outcome, channel) := answerUnknown channel
      (outcome, talk.count code true, channel)

/-- Serves requests until the transport ends, `fuel` at most. After each request it is noted how
much has been sent; the last number is that after the end. -/
def cycles [Codec] [Hashing] (talk : Conversation) (channel : Channel) : (fuel : Nat) →
    List Nat × Conversation × Channel
  | 0 => ([], talk, channel)
  | fuel + 1 =>
    match talk.cycle channel with
    | (.closed, talk, channel) => ([], talk, channel)
    | (.goOn, talk, channel) =>
      let (later, talk, final) := talk.cycles channel fuel
      (channel.sink.sent.length :: later, talk, final)

/-- Serves all the requests of a connection. Each takes a byte at least. -/
def serveAll [Codec] [Hashing] (talk : Conversation) (channel : Channel) :
    List Nat × Conversation × Channel :=
  talk.cycles channel (channel.source.pending.length + 1)

end Conversation

end RecordBase
