import RecordBase.Proofs.Wire.Calls
import RecordBase.Wire.Client

/-!
# Replies as the client reads them

`Response.Answers` says which responses a call may get. The client reads each of them as what the server
means, provided that it accepts the length of every field (`Response.reads_decode`); it takes what it
knows itself, such as the identity of a record that it asked for, from its request. A failure is read as
its category and wording (`Client.rejects_status`).
-/

namespace RecordBase.Wire

open Decoder (Reads)

variable {limit : Nat}

/-! ## Parts of replies -/

namespace Source

/-- A frame is read as what was written. -/
theorem reads_frame {found : Option Record} (within : AllWithin limit (frameFields found)) :
    frame.Reads limit (frameFields found) found := by
  cases found with
  | none => exact (reads_short noRecord).map (if_pos rfl)
  | some record =>
    have hcontent : (Field.bytes (some record.content)).Within limit :=
      within _ (by simp [frameFields])
    refine (reads_short noClass).bind ?_
    rw [if_neg (by decide)]
    exact (reads_recordType record.type).bind ((reads_identity record.id).bind
      ((reads_int record.version).bind ((reads_bytes hcontent.1 hcontent.2).map rfl)))

end Source

namespace Response

open Source

/-- As many items as were written are read. -/
theorem reads_counted {α : Type} {item : Decoder α} {write : α → List Field} {values : List α}
    (few : values.length < 2 ^ 31) (h : ∀ value ∈ values, item.Reads limit (write value) value) :
    (counted item).Reads limit ([countField values.length] ++ values.flatMap write) values := by
  rw [countField_of_le (Nat.le_of_lt_succ few)]
  refine (reads_int _).bind ?_
  rw [toInt_ofNat_length few]
  exact .repeated h

theorem streamFields_cons (record : Record) (rest : List Record) :
    streamFields (record :: rest) =
      [.byte recordMark] ++ (frameFields (some record) ++ streamFields rest) := by
  simp [streamFields]

theorem length_le_encode_stream (records : List Record) :
    records.length ≤ (encode (streamFields records)).length := by
  induction records with
  | nil => exact Nat.zero_le _
  | cons record rest ih =>
    rw [streamFields_cons, encode_append, encode_append, List.length_append, List.length_append,
      encode_singleton, Field.encode_byte, Word.length_toBigEndian, List.length_cons]
    show rest.length + 1 ≤ 1 + _
    omega

/-- The records of a stream are read up to the mark of its end. -/
theorem reads_streamed {records : List Record} {fuel : Nat} (enough : records.length < fuel)
    (within : AllWithin limit (streamFields records)) :
    (streamed fuel).Reads limit (streamFields records) records := by
  induction records generalizing fuel with
  | nil =>
    obtain ⟨fuel, rfl⟩ := Nat.exists_eq_add_one_of_ne_zero (Nat.ne_of_gt enough)
    exact (reads_byte endMark).map (if_pos rfl)
  | cons record rest ih =>
    obtain ⟨fuel, rfl⟩ := Nat.exists_eq_add_one_of_ne_zero (Nat.ne_zero_of_lt enough)
    rw [streamFields_cons] at within ⊢
    obtain ⟨hframe, hrest⟩ := within.append.2.append
    refine (reads_byte recordMark).bind ?_
    rw [if_neg (by decide), if_pos rfl]
    exact (reads_frame hframe).bind ((ih (Nat.lt_of_succ_lt_succ enough) hrest).map rfl)

theorem reads_streamPayload {records : List Record} (within : AllWithin limit (streamFields records)) :
    streamPayload.Reads limit (streamFields records) (.stream records) := by
  intro source hlimit hfront
  have hlength := length_le_encode_stream records
  have hpending := hfront.length_le
  have hall : (do return Response.stream (← streamed (source.pending.length + 1)) :
      Decoder Response).Reads limit (streamFields records) (.stream records) :=
    (reads_streamed (by omega) within).map rfl
  exact hall source hlimit hfront

/-! ## Replies to calls -/

/-- A response that a call may get. -/
inductive Answers : Request → Response → Prop
  | cluster {name : String} {file : Option String} {size : Int32} (id : Int16) :
      Answers (.addPhysicalCluster name file size) (.cluster id)
  | logicalCluster {name : String} {container : Int32} (id : Int16) (descriptor : RecordId) :
      Answers (.addLogicalCluster name container) (.logicalCluster id descriptor)
  | count {ids : List Int16} (value : Int64) : Answers (.countClusters ids) (.number value)
  | countNamed {cluster : String} (value : Int64) : Answers (.countNamed cluster) (.number value)
  | loaded {id : RecordId} {found : Option Record} (own : ∀ record, found = some record → record.id = id) :
      Answers (.loadRecord id) (.loaded found)
  | created {cluster : Int16} {content : Bytes} {type : RecordType} (position : Int64) :
      Answers (.createRecord cluster content type) (.position position)
  | updated {id : RecordId} {content : Bytes} {version : Int32} {type : RecordType} (next : Int32) :
      Answers (.updateRecord id content version type) (.version next)
  | deleted {id : RecordId} {version : Int32} : Answers (.deleteRecord id version) .done
  | null {request : CommandRequest} : Answers (.command .single request) (.result .null)
  | record {request : CommandRequest} (record : Record) :
      Answers (.command .single request) (.result (.record record))
  | value {request : CommandRequest} {value : CommandValue} (given : value.Given) :
      Answers (.command .single request) (.result (.value value))
  | stream {request : CommandRequest} (records : List Record) :
      Answers (.command .stream request) (.stream records)
  | looked {key : String} (found : Option Record) : Answers (.lookupKey key) (.frame found)
  | bound {key identity : String} {type : RecordType} (found : Option Record) :
      Answers (.bindKey key type identity) (.frame found)
  | unbound {key : String} (found : Option Record) : Answers (.unbindKey key) (.frame found)
  | size (count : Int32) : Answers .countKeys (.size count)
  | keys (keys : List String) : Answers .listKeys (.keys keys)
  | outcome {number : Int32} {entries : List BatchEntry} {failure : Option WireError}
      {outcome : Outcome} (batch : outcome.batch = number)
      (created : outcome.created.length ≤ entries.length)
      (updated : outcome.updated.length ≤ entries.length)
      (deleted : outcome.deleted = deletions entries) :
      Answers (.commit number entries failure) (.outcome outcome)

/-- How many keys a response counts. -/
def keyCount : Response → Nat
  | .keys found => found.length
  | _ => 0

/-- A channel with some limit accepts a response, and the number of its keys can be told. -/
def Within [Codec] (limit : Nat) (response : Response) : Prop :=
  AllWithin limit response.payloadFields ∧ response.keyCount < 2 ^ 31

instance [Codec] (limit : Nat) : DecidablePred (Within limit) := fun response =>
  inferInstanceAs (Decidable (_ ∧ response.keyCount < 2 ^ 31))

/-- A response is read as what was written. -/
theorem reads_decode [Codec] (lawful : Codec.Lawful) {request : Request} {response : Response}
    (called : request.Called) (answers : Answers request response) (within : response.Within limit) :
    (decode request).Reads limit response.payloadFields response := by
  have hfields := within.1
  cases answers with
  | cluster id => exact (reads_short id).map rfl
  | logicalCluster id descriptor =>
    have htext : (Field.text (some descriptor.text)).Within limit :=
      hfields _ (by simp [payloadFields])
    refine (reads_short id).bind ((reads_requiredText htext).map ?_)
    rw [RecordId.parse?_text]
  | count value | countNamed value => exact (reads_long value).map rfl
  | @loaded id found own =>
    cases found with
    | none => exact (reads_byte 0).map (if_pos rfl)
    | some record =>
      obtain rfl := own record rfl
      have hcontent : (Field.bytes (some record.content)).Within limit :=
        hfields _ (by simp [payloadFields, loadedFields])
      refine (reads_byte 1).bind ?_
      rw [if_neg (by decide)]
      exact (reads_bytes hcontent.1 hcontent.2).bind ((reads_int record.version).bind
        ((reads_recordType record.type).map rfl))
  | created position => exact (reads_long position).map rfl
  | updated next => exact (reads_int next).map rfl
  | deleted => exact .pure _
  | null =>
    have hnothing : bytes.Reads limit [.bytes none] none := reads_bytes (by decide) (Nat.zero_le _)
    refine (reads_byte nullTag).bind ?_
    rw [if_pos rfl]
    exact hnothing.map rfl
  | record record =>
    have hframe : AllWithin limit (frameFields (some record)) := fun field hfield =>
      hfields field (List.mem_cons_of_mem _ hfield)
    refine (reads_byte recordTag).bind ?_
    rw [if_neg (by decide), if_pos rfl]
    exact (reads_frame hframe).map rfl
  | @value _ value given =>
    have hpayload : (Field.bytes (some (Codec.encodeValue value))).Within limit :=
      hfields _ (by simp [payloadFields, resultFields])
    have hvalue : commandValue.Reads limit [.bytes (some (Codec.encodeValue value))] value := by
      refine (reads_requiredBytes hpayload).map ?_
      rw [lawful.value value given hpayload.1]
    refine (reads_byte valueTag).bind ?_
    rw [if_neg (by decide), if_neg (by decide), if_pos rfl]
    exact hvalue.map rfl
  | stream records => exact reads_streamPayload hfields
  | looked found | bound found | unbound found => exact (reads_frame hfields).map rfl
  | size count => exact (reads_int count).map rfl
  | keys keys =>
    have hkeys : (counted (requiredText "dictionary key")).Reads limit (textsFields keys) keys := by
      rw [textsFields, List.map_eq_flatMap]
      refine reads_counted within.2 fun key hkey => reads_requiredText (hfields _ ?_)
      exact List.mem_cons_of_mem _ (List.mem_map.2 ⟨key, hkey, rfl⟩)
    exact hkeys.map rfl
  | @outcome number entries failure outcome batch hcreated hupdated hdeleted =>
    obtain _ | _ | _ | _ | _ | _ | _ | _ | _ | _ | _ | _ | _ | _ | ⟨_, few⟩ := called
    have hfirst : (counted createdEntry).Reads limit ([countField outcome.created.length] ++
        outcome.created.flatMap fun pair => identityFields pair.1 ++ identityFields pair.2)
        outcome.created :=
      reads_counted (by omega) fun pair _ =>
        (reads_identity pair.1).bind ((reads_identity pair.2).map rfl)
    have hsecond : (counted updatedEntry).Reads limit ([countField outcome.updated.length] ++
        outcome.updated.flatMap fun pair => identityFields pair.1 ++ [.int pair.2])
        outcome.updated :=
      reads_counted (by omega) fun pair _ => (reads_identity pair.1).bind ((reads_int pair.2).map rfl)
    have hrest : (do
        let updated ← counted updatedEntry
        return .outcome ⟨number, outcome.created, updated, deletions entries⟩ :
        Decoder Response).Reads limit ([countField outcome.updated.length] ++
          outcome.updated.flatMap fun pair => identityFields pair.1 ++ [.int pair.2])
          (.outcome outcome) := by
      refine hsecond.map ?_
      rw [← batch, ← hdeleted]
    rw [payloadFields, outcomeFields, List.append_assoc]
    exact hfirst.bind hrest

end Response

/-! ## Failures -/

namespace Decoder

variable {α β : Type} {fields others : List Field} {value : α} {error : WireError}
  {decoder : Decoder α} {next : α → Decoder β}

/-- A reader fails on some fields, of which it takes all. -/
def Rejects (decoder : Decoder α) (limit : Nat) (fields : List Field) (error : WireError) : Prop :=
  ∀ source : Source, source.limit = limit → encode fields <+: source.pending →
    ∃ after, decoder source = (.error error, after) ∧ source.Past (encode fields) fields.length after

theorem rejects_fail (error : WireError) : (fail error : Decoder α).Rejects limit [] error :=
  fun source _ _ => ⟨source, rfl, .refl source⟩

theorem Rejects.bind (h : decoder.Rejects limit fields error) :
    (decoder >>= next).Rejects limit fields error := by
  intro source hlimit hfront
  obtain ⟨after, hread, past⟩ := h source hlimit hfront
  exact ⟨after, bind_of_error hread, past⟩

theorem Reads.rejects (first : decoder.Reads limit fields value)
    (second : (next value).Rejects limit others error) :
    (decoder >>= next).Rejects limit (fields ++ others) error := by
  intro source hlimit ⟨rest, hrest⟩
  rw [encode_append, List.append_assoc] at hrest
  obtain ⟨middle, hfirst, past⟩ := first source hlimit ⟨_, hrest⟩
  obtain ⟨after, hsecond, further⟩ := second middle (past.limit.trans hlimit)
    ⟨rest, (past.pending_eq hrest.symm).symm⟩
  refine ⟨after, (bind_of_ok hfirst).trans hsecond, ?_⟩
  rw [encode_append, List.length_append]
  exact past.trans further

end Decoder

namespace Client

theorem reads_status : status.Reads limit [.byte successStatus] () :=
  (Source.reads_byte successStatus).map (if_pos rfl)

/-- A failure is read as its category and wording. -/
theorem rejects_status {category message : Option String}
    (within : AllWithin limit (failureFields category message)) :
    status.Rejects limit (failureFields category message) (.remote category message) := by
  have hcategory : (Field.text category).Within limit := within _ (by simp [failureFields])
  have hmessage : (Field.text message).Within limit := within _ (by simp [failureFields])
  refine (Source.reads_byte failureStatus).rejects ?_
  rw [if_neg (by decide), if_pos rfl]
  exact (Source.reads_text hcategory.1 hcategory.2).rejects
    ((Source.reads_text hmessage.1 hmessage.2).rejects (Decoder.rejects_fail _))

end Client

end RecordBase.Wire
