import RecordBase.Command.Query
import RecordBase.Wire.Channel
import RecordBase.Wire.Request

/-!
# Responses

A response starts with a status. After a success the payload of the request's kind follows, after
a failure a category and a wording. `Response.fields` writes a success, and `Response.decode` reads
the payload that answers a request.
-/

namespace RecordBase.Wire

/-- The status of a success. -/
def successStatus : UInt8 := 0

/-- The status of a failure. -/
def failureStatus : UInt8 := 1

/-- The fields of a failure. -/
def failureFields (category message : Option String) : List Field :=
  [.byte failureStatus, .text category, .text message]

/-- The result of a command that is delivered at once. -/
inductive CommandResult where
  | null
  | record (record : Record)
  | value (value : CommandValue)
  deriving Repr

/-- The result that an output is delivered as; records are delivered as their identities. -/
def CommandResult.ofOutput : CommandOutput → CommandResult
  | .null => null
  | .record found => record found
  | .value given => value given
  | .records found => value (identityList found)

/-- What answers a request that succeeded. -/
inductive Response where
  | done
  | session (id : String)
  /-- A session on a database with some clusters. -/
  | opened (session : String) (clusters : List (String × Int32))
  | truth (value : Bool)
  | cluster (id : Int16)
  | logicalCluster (id : Int16) (descriptor : RecordId)
  | number (value : Int64)
  | loaded (record : Option Record)
  | position (position : Int64)
  | version (version : Int32)
  | result (result : CommandResult)
  | stream (records : List Record)
  | frame (record : Option Record)
  | size (count : Int32)
  | keys (keys : List String)
  | outcome (outcome : Outcome)
  deriving Repr

namespace Response

/-! ## Writing -/

/-- The tags of results. -/
def nullTag : UInt8 := 0x6e
def recordTag : UInt8 := 0x72
def valueTag : UInt8 := 0x61

/-- The marks before a record of a stream and at its end. -/
def recordMark : UInt8 := 1
def endMark : UInt8 := 0

/-- The fields of a result. -/
def resultFields [Codec] : CommandResult → List Field
  | .null => [.byte nullTag, .bytes none]
  | .record record => .byte recordTag :: frameFields (some record)
  | .value value => [.byte valueTag, .bytes (some (Codec.encodeValue value))]

/-- The fields of a stream. -/
def streamFields (records : List Record) : List Field :=
  (records.flatMap fun record => .byte recordMark :: frameFields (some record)) ++ [.byte endMark]

/-- The fields of a record that was loaded, whose identity the client knows. -/
def loadedFields : Option Record → List Field
  | some record =>
    [.byte 1, .bytes (some record.content), .int record.version, .byte record.type.tag]
  | none => [.byte 0]

/-- The fields of a batch's outcome. -/
def outcomeFields (outcome : Outcome) : List Field :=
  [countField outcome.created.length] ++
    (outcome.created.flatMap fun pair => identityFields pair.1 ++ identityFields pair.2) ++
    [countField outcome.updated.length] ++
    outcome.updated.flatMap fun pair => identityFields pair.1 ++ [.int pair.2]

/-- The fields of a payload. -/
def payloadFields [Codec] : Response → List Field
  | done => []
  | session id => [.text (some id)]
  | opened id clusters =>
    [.text (some id), countField clusters.length] ++
      clusters.flatMap fun entry => [.text (some entry.1), .int entry.2]
  | truth value => [.byte (if value then 1 else 0)]
  | cluster id => [.short id]
  | logicalCluster id descriptor => [.short id, .text (some descriptor.text)]
  | number value => [.long value]
  | loaded found => loadedFields found
  | position place => [.long place]
  | version value => [.int value]
  | result given => resultFields given
  | stream found => streamFields found
  | frame found => frameFields found
  | size count => [.int count]
  | keys texts => textsFields texts
  | outcome given => outcomeFields given

/-- The fields of a success. -/
def fields [Codec] (response : Response) : List Field := .byte successStatus :: response.payloadFields

/-- Why a payload is not sent, if it is not: there are more keys than a message can tell the number
of. -/
def refusal? : Response → Option WireError
  | keys texts =>
    if greatest < texts.length then some (.tooLong Int32.maxValue (.ofNat texts.length)) else none
  | _ => none

/-- The message of a success; the status alone where the payload is not sent. -/
def message [Codec] (response : Response) : Message :=
  match response.refusal? with
  | none => { fields := response.fields }
  | some error => { fields := [.byte successStatus], refusal := some error }

/-! ## Reading -/

/-- Takes a number of items and then the items; a negative number stands for none. -/
def counted {α : Type} (item : Decoder α) : Decoder (List α) := do
  let count ← Source.word Int32
  Decoder.repeated count.toInt.toNat item

/-- Takes the name and the id of a cluster. -/
def clusterEntry : Decoder (String × Int32) := do
  return (← Source.requiredText "cluster name", ← Source.word Int32)

/-- Takes a cluster's id and the identity of its descriptor. -/
def logicalClusterPayload : Decoder Response := do
  let id ← Source.word Int16
  let text ← Source.requiredText "container rid"
  match RecordId.parse? text with
  | some descriptor => return logicalCluster id descriptor
  | none => Decoder.fail (.malformedIdentity text)

/-- Takes a record with a known identity. -/
def loadedPayload (id : RecordId) : Decoder Response := do
  let found ← Source.word UInt8
  if found = 0 then return loaded none
  else
    let content ← Source.bytes
    let version ← Source.word Int32
    let type ← Source.recordType
    return loaded (some ⟨id, version, type, content.getD []⟩)

/-- Takes the value of a command. -/
def commandValue [Codec] : Decoder CommandValue := do
  match Codec.decodeValue? (← Source.requiredBytes "command value") with
  | some value => return value
  | none => Decoder.fail .malformedCommand

/-- Takes the result of a command. -/
def resultPayload [Codec] : Decoder Response := do
  let tag ← Source.word UInt8
  if tag = nullTag then
    let _ ← Source.bytes
    return result .null
  else if tag = recordTag then
    match ← Source.frame with
    | some record => return result (.record record)
    | none => return result .null
  else if tag = valueTag then return result (.value (← commandValue))
  else Decoder.fail (.unexpectedStatus tag)

/-- Takes the records of a stream up to its end; `fuel` marks at most. -/
def streamed : (fuel : Nat) → Decoder (List Record)
  | 0 => Decoder.fail .closed
  | fuel + 1 => do
    let mark ← Source.word UInt8
    if mark = endMark then return []
    else if mark = recordMark then
      let record ← Source.frame
      let rest ← streamed fuel
      return record.toList ++ rest
    else Decoder.fail (.unexpectedStatus mark)

/-- Takes the records of a stream. Each mark takes a byte. -/
def streamPayload : Decoder Response := fun source =>
  (do return stream (← streamed (source.pending.length + 1)) : Decoder Response) source

/-- Takes the identities of a record that a batch created. -/
def createdEntry : Decoder (RecordId × RecordId) := do
  return (← Source.identity, ← Source.identity)

/-- Takes the identity and the version of a record that a batch updated. -/
def updatedEntry : Decoder (RecordId × Int32) := do
  return (← Source.identity, ← Source.word Int32)

/-- How many records some entries delete. -/
def deletions (entries : List BatchEntry) : Nat :=
  entries.countP fun entry => match entry with
    | .delete .. => true
    | _ => false

/-- Takes the outcome of a batch. -/
def outcomePayload (number : Int32) (entries : List BatchEntry) : Decoder Response := do
  let created ← counted createdEntry
  let updated ← counted updatedEntry
  return outcome ⟨number, created, updated, deletions entries⟩

/-- Takes the payload that answers a request. -/
def decode [Codec] : Request → Decoder Response
  | .connect .. => do return session (← Source.requiredText "session id")
  | .openDatabase .. => do
    return opened (← Source.requiredText "session id") (← counted clusterEntry)
  | .createDatabase .. | .closeDatabase | .deleteRecord .. => return done
  | .databaseExists => do return truth ((← Source.word UInt8) != 0)
  | .addPhysicalCluster .. => do return cluster (← Source.word Int16)
  | .addLogicalCluster .. => logicalClusterPayload
  | .countClusters .. | .countNamed .. => do return number (← Source.word Int64)
  | .loadRecord id => loadedPayload id
  | .createRecord .. => do return position (← Source.word Int64)
  | .updateRecord .. => do return version (← Source.word Int32)
  | .command .single _ => resultPayload
  | .command .stream _ => streamPayload
  | .lookupKey .. | .bindKey .. | .unbindKey .. => do return frame (← Source.frame)
  | .countKeys => do return size (← Source.word Int32)
  | .listKeys => do return keys (← counted (Source.requiredText "dictionary key"))
  | .commit batch entries _ => outcomePayload batch entries

end Response

end RecordBase.Wire
