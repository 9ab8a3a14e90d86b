import RecordBase.Database.Description
import RecordBase.Wire.Source

/-!
# Channels

What is sent goes through a buffer: pieces gather there until one does not fit, or until the buffer
is flushed. A transport that is broken takes nothing, so a write fails as soon as it reaches it.
A channel is a source with such a sink.

A byte string that is too long for its length to be told is not sent, and nothing that would follow it
in its message is. What has been sent before it has been sent.
-/

namespace RecordBase.Wire

/-- The pieces in which a byte string is sent on a channel with a limit: its length and its bytes. -/
def countedPieces (limit : Nat) : Option Bytes → Except WireError (List Bytes)
  | none => .ok [Word.toBigEndian nothing]
  | some bytes =>
    if greatest < bytes.length then .error (.tooLong Int32.maxValue (.ofNat limit))
    else .ok [Word.toBigEndian (Int32.ofNat bytes.length), bytes]

/-- The pieces in which a field is sent on a channel with a limit. -/
def Field.pieces (limit : Nat) : Field → Except WireError (List Bytes)
  | byte value => .ok [[value]]
  | short value => .ok [Word.toBigEndian value]
  | int value => .ok [Word.toBigEndian value]
  | long value => .ok [Word.toBigEndian value]
  | bytes value => countedPieces limit value
  | text value => countedPieces limit (value.map Bytes.ofText)

/-- Fields that are to be sent, and why nothing can follow them, if they are not all of a message. -/
structure Message where
  fields : List Field
  refusal : Option WireError := none
  deriving DecidableEq, Repr

/-- The sending side of a connection. -/
structure Sink where
  /-- What the transport has taken. -/
  sent : Bytes := []
  /-- What waits in the buffer. -/
  buffer : Bytes := []
  /-- Whether the transport refuses to take anything. -/
  broken : Bool := false
  deriving DecidableEq, Repr

namespace Sink

/-- Hands the buffer to the transport. -/
def flush (sink : Sink) : Except WireError Unit × Sink :=
  if sink.broken && !sink.buffer.isEmpty then (.error .closed, sink)
  else (.ok (), { sink with sent := sink.sent ++ sink.buffer, buffer := [] })

/-- Sends one piece when the buffer has room for it or is empty. -/
def place (sink : Sink) (piece : Bytes) : Except WireError Unit × Sink :=
  if piece.length < bufferSize then (.ok (), { sink with buffer := sink.buffer ++ piece })
  else if sink.broken then (.error .closed, sink)
  else (.ok (), { sink with sent := sink.sent ++ piece })

/-- Sends one piece. -/
def write (sink : Sink) (piece : Bytes) : Except WireError Unit × Sink :=
  if sink.buffer.length + piece.length ≤ bufferSize then sink.place piece
  else match sink.flush with
    | (.ok (), sink) => sink.place piece
    | (.error error, sink) => (.error error, sink)

/-- Sends some pieces. -/
def writeAll (sink : Sink) : List Bytes → Except WireError Unit × Sink
  | [] => (.ok (), sink)
  | piece :: rest =>
    match sink.write piece with
    | (.ok (), sink) => sink.writeAll rest
    | (.error error, sink) => (.error error, sink)

/-- Sends some fields on a channel with a limit. -/
def send (limit : Nat) (sink : Sink) : List Field → Except WireError Unit × Sink
  | [] => (.ok (), sink)
  | field :: rest =>
    match field.pieces limit with
    | .error error => (.error error, sink)
    | .ok pieces =>
      match sink.writeAll pieces with
      | (.ok (), sink) => sink.send limit rest
      | (.error error, sink) => (.error error, sink)

end Sink

/-- Both sides of a connection. -/
structure Channel where
  source : Source
  sink : Sink := {}
  deriving DecidableEq, Repr

/-- Sends a message. -/
def Channel.send (channel : Channel) (message : Message) : Except WireError Unit × Channel :=
  match channel.sink.send channel.source.limit message.fields with
  | (.error error, sink) => (.error error, { channel with sink })
  | (.ok (), sink) =>
    (match message.refusal with | none => .ok () | some error => .error error, { channel with sink })

/-- The description of a channel. -/
def Channel.description (channel : Channel) : String :=
  describe "WireChannel"
    [("buffered_input", toString channel.source.buffered),
      ("buffered_output", toString channel.sink.buffer.length),
      ("max_length", toString channel.source.limit),
      ("operands", describeOption (channel.source.taken.map toString))] false

end RecordBase.Wire
