import RecordBase.Bytes.Utf8
import RecordBase.Cbor.Decoder
import RecordBase.Command.Codec

/-!
# Commands and values as data items

The format in which commands and values are sent. A command is a map with the keys `text` and `limit`;
other keys are passed over, and the limit may be missing. A value is the text `Null` or a map from the
name of its kind to what it holds. Bytes that follow are not looked at.
-/

namespace RecordBase

open Cbor (Head Decoder)

/-- How many levels of arrays, maps and values may be nested. -/
def nestingLimit : Nat := 256

/-- The bytes of a text as a data item. -/
def textItem (text : String) : Bytes :=
  let bytes := Bytes.ofText text
  (Head.text (some bytes.length)).encode ++ bytes

/-! ## Commands -/

/-- The bytes of a command. -/
def CommandRequest.encode (request : CommandRequest) : Bytes :=
  (Head.map (some 2)).encode ++ textItem "text" ++ textItem request.text ++ textItem "limit" ++
    (Head.ofInt request.limit.toInt).encode

/-- An entry of the map that a command is. -/
inductive CommandEntry where
  | text (text : String)
  | limit (limit : Int32)
  | other

namespace CommandEntry

/-- Takes an entry. -/
def decode : Decoder CommandEntry := do
  let key ← Decoder.key
  if key = Bytes.ofText "text" then return .text (← Decoder.text)
  else if key = Bytes.ofText "limit" then
    return .limit (Int32.ofInt (← Decoder.integerWithin (-2 ^ 31) (2 ^ 31 - 1)))
  else
    Decoder.skip (nestingLimit - 1)
    return .other

/-- The text in an entry. -/
def text? : CommandEntry → Option String
  | text value => some value
  | _ => none

/-- The limit in an entry. -/
def limit? : CommandEntry → Option Int32
  | limit value => some value
  | _ => none

end CommandEntry

/-- The command with the given entries: one text, and at most one limit. -/
def CommandRequest.ofEntries? (entries : List CommandEntry) : Option CommandRequest :=
  match entries.filterMap CommandEntry.text?, entries.filterMap CommandEntry.limit? with
  | [text], [] => some ⟨text, -1⟩
  | [text], [limit] => some ⟨text, limit⟩
  | _, _ => none

/-- Takes a command. -/
def CommandRequest.decoder : Decoder CommandRequest := do
  match ← Decoder.head with
  | .map count => liftM (CommandRequest.ofEntries? (← Decoder.items CommandEntry.decode count))
  | _ => failure

/-- The command with the given bytes. -/
def CommandRequest.decode? (bytes : Bytes) : Option CommandRequest :=
  (CommandRequest.decoder bytes).map (·.1)

/-! ## Values -/

/-- The bytes of a value that holds something, before those of what it holds. -/
def variantStart (name : String) : Bytes := (Head.map (some 1)).encode ++ textItem name

mutual

/-- The bytes of a value. -/
def CommandValue.encode : CommandValue → Bytes
  | .null => textItem "Null"
  | .bool value => variantStart "Bool" ++ (Head.ofBool value).encode
  | .integer value => variantStart "Integer" ++ (Head.ofInt value.toInt).encode
  | .float bits => variantStart "Float" ++ (Head.float bits).encode
  | .text value => variantStart "Text" ++ textItem value
  | .bytes value =>
    variantStart "Bytes" ++ (Head.array (some value.length)).encode ++
      value.flatMap fun byte => (Head.positive byte.toNat).encode
  | .list items =>
    variantStart "List" ++ (Head.array (some items.length)).encode ++
      CommandValue.encodeAll items
  | .identity value => variantStart "Rid" ++ textItem value

/-- The bytes of some values, one after another. -/
def CommandValue.encodeAll : List CommandValue → Bytes
  | [] => []
  | value :: rest => value.encode ++ CommandValue.encodeAll rest

end

namespace CommandValue

/-- Takes the name of a value's kind: a text, or the key of a map with one entry. -/
def variant : Decoder Bytes := do
  match ← Decoder.head with
  | .map (some 1) => Decoder.key
  | .text length =>
    let name ← Decoder.keyBody length
    let _ ← Decoder.textOf name
    return name
  | _ => failure

/-- Takes a byte string or an array of bytes, in which `depth` levels may be nested. -/
def bytesDecoder (depth : Nat) : Decoder Bytes := do
  match ← Decoder.head, depth with
  | .bytes length, _ => Decoder.bytesBody length
  | .array count, _ + 1 =>
    let values ← Decoder.items (Decoder.integerWithin 0 255) count
    return values.map fun value => UInt8.ofNat value.toNat
  | _, _ => failure

/-- Takes an array, in which `depth` levels may be nested. A byte string without bytes is an array
without items. -/
def arrayDecoder {α : Type} (depth : Nat) (item : Decoder α) : Decoder (List α) := do
  match ← Decoder.head, depth with
  | .bytes length, _ =>
    if (← Decoder.bytesBody length).isEmpty then return [] else failure
  | .array count, _ + 1 => Decoder.items item count
  | _, _ => failure

/-- Takes a value, in which `depth` levels may be nested. -/
def decoder : (depth : Nat) → Decoder CommandValue
  | 0 => failure
  | depth + 1 => do
    let name ← variant
    if name = Bytes.ofText "Null" then return .null
    else if name = Bytes.ofText "Bool" then return .bool (← Decoder.bool)
    else if name = Bytes.ofText "Integer" then
      return .integer (Int64.ofInt (← Decoder.integerWithin (-2 ^ 63) (2 ^ 63 - 1)))
    else if name = Bytes.ofText "Float" then return .float (← Decoder.float)
    else if name = Bytes.ofText "Text" then return .text (← Decoder.text)
    else if name = Bytes.ofText "Bytes" then return .bytes (← bytesDecoder depth)
    else if name = Bytes.ofText "List" then
      return .list (← arrayDecoder depth (match depth with
        | 0 => failure
        | depth + 1 => decoder depth))
    else if name = Bytes.ofText "Rid" then return .identity (← Decoder.text)
    else failure

/-- The value with the given bytes. -/
def decode? (bytes : Bytes) : Option CommandValue := (decoder nestingLimit bytes).map (·.1)

end CommandValue

/-- The format of commands and values. -/
instance Cbor.codec : Codec where
  encodeCommand := CommandRequest.encode
  decodeCommand? := CommandRequest.decode?
  encodeValue := CommandValue.encode
  decodeValue? := CommandValue.decode?

end RecordBase
