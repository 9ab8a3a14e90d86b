import RecordBase.Command.Value

/-!
# Commands and values as bytes

Clients and servers send commands, and the values that commands give, in a format that both take from
elsewhere (`Codec`). They rely on it to read what it has written (`Codec.Lawful`).
-/

namespace RecordBase

/-- A format for commands and values. -/
class Codec where
  encodeCommand : CommandRequest → Bytes
  /-- The command with the given bytes, if they read as one. -/
  decodeCommand? : Bytes → Option CommandRequest
  encodeValue : CommandValue → Bytes
  /-- The value with the given bytes, if they read as one. -/
  decodeValue? : Bytes → Option CommandValue

/-- The values that commands give as their results. -/
inductive CommandValue.Given : CommandValue → Prop
  | integer (value : Int64) : Given (.integer value)
  | texts (values : List String) : Given (.list (values.map .text))
  | identities (values : List String) : Given (.list (values.map .identity))

/-- What was written is read: commands, and the values that commands give, where a message can tell their
length. -/
structure Codec.Lawful [Codec] : Prop where
  command : ∀ request : CommandRequest, (encodeCommand request).length < 2 ^ 31 →
    decodeCommand? (encodeCommand request) = some request
  value : ∀ value : CommandValue, value.Given → (encodeValue value).length < 2 ^ 31 →
    decodeValue? (encodeValue value) = some value

end RecordBase
