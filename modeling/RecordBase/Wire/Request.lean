import RecordBase.Command.Codec
import RecordBase.Wire.Batch
import RecordBase.Wire.Opcode

/-!
# Requests

A request is the number of its kind and its operands. `Request.fields` writes one, and
`Request.decode` reads the operands of a kind.
-/

namespace RecordBase.Wire

/-- What a client asks for. -/
inductive Request where
  | connect (user password : String)
  | openDatabase (url user password : String)
  | createDatabase (name mode : String)
  | closeDatabase
  | databaseExists
  | addPhysicalCluster (name : String) (file : Option String) (size : Int32)
  | addLogicalCluster (name : String) (container : Int32)
  | countClusters (ids : List Int16)
  | loadRecord (id : RecordId)
  | createRecord (cluster : Int16) (content : Bytes) (type : RecordType)
  | updateRecord (id : RecordId) (content : Bytes) (version : Int32) (type : RecordType)
  | deleteRecord (id : RecordId) (version : Int32)
  | countNamed (cluster : String)
  | command (mode : CommandMode) (request : CommandRequest)
  | lookupKey (key : String)
  /-- Binds a key to the record whose identity has a text. -/
  | bindKey (key : String) (type : RecordType) (identity : String)
  | unbindKey (key : String)
  | countKeys
  | listKeys
  /-- A batch: its entries, up to the first that does not read and why it does not. -/
  | commit (number : Int32) (entries : List BatchEntry) (failure : Option WireError)
  deriving DecidableEq, Repr

namespace Request

/-- The kind of a request. -/
def opcode : Request → Opcode
  | connect .. => .connect
  | openDatabase .. => .openDatabase
  | createDatabase .. => .createDatabase
  | closeDatabase => .closeDatabase
  | databaseExists => .databaseExists
  | addPhysicalCluster .. => .addPhysicalCluster
  | addLogicalCluster .. => .addLogicalCluster
  | countClusters .. => .countClusters
  | loadRecord .. => .loadRecord
  | createRecord .. => .createRecord
  | updateRecord .. => .updateRecord
  | deleteRecord .. => .deleteRecord
  | countNamed .. => .countNamed
  | command .. => .command
  | lookupKey .. => .lookupKey
  | bindKey .. => .bindKey
  | unbindKey .. => .unbindKey
  | countKeys => .countKeys
  | listKeys => .listKeys
  | commit .. => .commit

/-- The operands of a request. -/
def operandFields [Codec] : Request → List Field
  | connect user password => [.text (some user), .text (some password)]
  | openDatabase url user password => [.text (some url), .text (some user), .text (some password)]
  | createDatabase name mode => [.text (some name), .text (some mode)]
  | closeDatabase | databaseExists | countKeys | listKeys => []
  | addPhysicalCluster name file size => [.text (some name), .text file, .int size]
  | addLogicalCluster name container => [.text (some name), .int container]
  | countClusters ids => .short (Int16.ofNat ids.length) :: ids.map .short
  | loadRecord id => identityFields id
  | createRecord cluster content type => [.short cluster, .bytes (some content), .byte type.tag]
  | updateRecord id content version type =>
    identityFields id ++ [.bytes (some content), .int version, .byte type.tag]
  | deleteRecord id version => identityFields id ++ [.int version]
  | countNamed cluster => [.text (some cluster)]
  | command mode request => [.byte mode.tag, .bytes (some (Codec.encodeCommand request))]
  | lookupKey key | unbindKey key => [.text (some key)]
  | bindKey key type identity => [.text (some key), .byte type.tag, .text (some identity)]
  | commit number entries _ => batchFields number entries

/-- The fields of a request. -/
def fields [Codec] (request : Request) : List Field :=
  .byte request.opcode.code :: request.operandFields

/-! ## Reading -/

/-- Takes as many cluster ids as the number before them says. -/
def clusterIds : Decoder (List Int16) := do
  let count ← Source.word Int16
  if count < 0 then Decoder.fail (.invalidLength count.toInt32)
  else Decoder.repeated count.toInt.toNat (Source.word Int16)

/-- Takes a command. -/
def commandOperand [Codec] : Decoder CommandRequest := do
  let payload ← Source.requiredBytes "command"
  match Codec.decodeCommand? payload with
  | some request => return request
  | none => Decoder.fail .malformedCommand

/-- Takes the number and all the entries of a batch. -/
def batch : Decoder Request := do
  let reader ← BatchReader.start
  fun source =>
    let ((entries, failure), _, source) := reader.rest source
    (.ok (.commit reader.number entries failure), source)

/-- Takes the operands of a kind of request. -/
def decode [Codec] : Opcode → Decoder Request
  | .connect => do
    return connect (← Source.requiredText "user") (← Source.requiredText "password")
  | .openDatabase => do
    let url ← Source.requiredText "database url"
    return openDatabase url (← Source.requiredText "user") (← Source.requiredText "password")
  | .createDatabase => do
    return createDatabase (← Source.requiredText "database name")
      (← Source.requiredText "storage mode")
  | .closeDatabase => return closeDatabase
  | .databaseExists => return databaseExists
  | .addPhysicalCluster => do
    return addPhysicalCluster (← Source.requiredText "cluster name") (← Source.text)
      (← Source.word Int32)
  | .addLogicalCluster => do
    return addLogicalCluster (← Source.requiredText "cluster name") (← Source.word Int32)
  | .countClusters => do return countClusters (← clusterIds)
  | .loadRecord => do return loadRecord (← Source.identity)
  | .createRecord => do
    return createRecord (← Source.word Int16) (← Source.requiredBytes "record content")
      (← Source.recordType)
  | .updateRecord => do
    return updateRecord (← Source.identity) (← Source.requiredBytes "record content")
      (← Source.word Int32) (← Source.recordType)
  | .deleteRecord => do return deleteRecord (← Source.identity) (← Source.word Int32)
  | .countNamed => do return countNamed (← Source.requiredText "cluster name")
  | .command => do
    return command (.ofTag (← Source.word UInt8)) (← commandOperand)
  | .lookupKey => do return lookupKey (← Source.requiredText "dictionary key")
  | .bindKey => do
    return bindKey (← Source.requiredText "dictionary key") (← Source.recordType)
      (← Source.requiredText "record id")
  | .unbindKey => do return unbindKey (← Source.requiredText "dictionary key")
  | .countKeys => return countKeys
  | .listKeys => return listKeys
  | .commit => batch

end Request

end RecordBase.Wire
