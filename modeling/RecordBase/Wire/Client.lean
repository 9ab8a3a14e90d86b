import RecordBase.Wire.Channel
import RecordBase.Wire.Response

/-!
# Clients

A client sends one request at a time and reads its response. A request that fails before it is
flushed stays in the buffer.
-/

namespace RecordBase.Wire

/-- A client at its end of a connection. -/
structure Client where
  channel : Channel
  deriving DecidableEq, Repr

namespace Client

/-- Sends a message and flushes it. -/
def send (client : Client) (message : Message) : Except WireError Unit × Client :=
  match client.channel.send message with
  | (.error error, channel) => (.error error, ⟨channel⟩)
  | (.ok (), channel) =>
    let (result, sink) := channel.sink.flush
    (result, ⟨{ channel with sink }⟩)

/-- Takes the status of a response. A failure is an error with what follows. -/
def status : Decoder Unit := do
  let status ← Source.word UInt8
  if status = successStatus then return ()
  else if status = failureStatus then
    let category ← Source.text
    let message ← Source.text
    Decoder.fail (.remote category message)
  else Decoder.fail (.unexpectedStatus status)

/-- Reads from the connection. -/
def receive {α : Type} (client : Client) (decoder : Decoder α) : Except WireError α × Client :=
  let (result, source) := decoder client.channel.source
  (result, ⟨{ client.channel with source }⟩)

/-- Sends a message and reads what answers it after the status. -/
def exchange {α : Type} (client : Client) (message : Message) (payload : Decoder α) :
    Except WireError α × Client :=
  match client.send message with
  | (.error error, client) => (.error error, client)
  | (.ok (), client) => client.receive (do status; payload)

/-- The message of a request. Nothing is sent of one for more clusters than their number can tell, and
of a batch with more entries than their number can tell only the number of its kind. -/
def message [Codec] : Request → Message
  | request@(.countClusters ids) =>
    if 32767 < ids.length then { fields := [], refusal := some (.invalidLength Int32.maxValue) }
    else { fields := request.fields }
  | request@(.commit _ entries _) =>
    if greatest < entries.length then
      { fields := [.byte request.opcode.code], refusal := some (.negativeCount Int32.maxValue) }
    else { fields := request.fields }
  | request => { fields := request.fields }

/-- Sends a request and reads its response. -/
def call [Codec] (client : Client) (request : Request) : Except WireError Response × Client :=
  client.exchange (message request) (Response.decode request)

/-- Sends bytes as they are, one at a time, and reads the status of the response. -/
def sendRaw (client : Client) (bytes : Bytes) : Except WireError Unit × Client :=
  client.exchange { fields := bytes.map .byte } (Decoder.pure ())

/-- The description of a client. -/
def description (client : Client) : String :=
  describe "RemoteClient" [("channel", client.channel.description)] false

end Client

end RecordBase.Wire
