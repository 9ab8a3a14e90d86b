import RecordBase.Proofs.Record.Identity
import RecordBase.Proofs.Wire.Layout

/-!
# Calls as the server reads them

What a client's call sends is read as the request that the client means, provided that the server accepts
the length of every operand (`Request.reads_decode`).
-/

namespace RecordBase

namespace Wire

/-- A channel with some limit accepts a field. -/
def Field.Within (limit : Nat) : Field → Prop
  | .bytes value => (value.getD []).length < 2 ^ 31 ∧ (value.getD []).length ≤ limit
  | .text value =>
    ((value.map Bytes.ofText).getD []).length < 2 ^ 31 ∧
      ((value.map Bytes.ofText).getD []).length ≤ limit
  | _ => True

instance (limit : Nat) : DecidablePred (Field.Within limit)
  | .bytes _ | .text _ => inferInstanceAs (Decidable (_ ∧ _))
  | .byte _ | .short _ | .int _ | .long _ => inferInstanceAs (Decidable True)

/-- A channel with some limit accepts some fields. -/
def AllWithin (limit : Nat) (fields : List Field) : Prop := ∀ field ∈ fields, field.Within limit

instance (limit : Nat) (fields : List Field) : Decidable (AllWithin limit fields) :=
  inferInstanceAs (Decidable (∀ field ∈ fields, field.Within limit))

theorem AllWithin.append {limit : Nat} {fields others : List Field}
    (h : AllWithin limit (fields ++ others)) : AllWithin limit fields ∧ AllWithin limit others :=
  List.forall_mem_append.1 h

namespace Source

open Decoder (Reads)

variable {limit : Nat}

theorem reads_requiredText {what text : String} (h : (Field.text (some text)).Within limit) :
    (requiredText what).Reads limit [.text (some text)] text :=
  reads_required (reads_text h.1 h.2)

theorem reads_requiredBytes {what : String} {bytes : Bytes}
    (h : (Field.bytes (some bytes)).Within limit) :
    (requiredBytes what).Reads limit [.bytes (some bytes)] bytes :=
  reads_required (reads_bytes h.1 h.2)

end Source

end Wire

/-! ## Batches -/

/-- An entry comes with the content that it needs. -/
def BatchEntry.IsComplete : BatchEntry → Prop
  | .create _ _ content | .update _ _ content => content.isSome
  | .delete _ _ => True

namespace Wire

open Decoder (Reads)

variable {limit : Nat}

/-- An entry is read as what was written. -/
theorem Source.reads_entry {entry : BatchEntry} (complete : entry.IsComplete)
    (within : AllWithin limit (entryFields entry)) :
    Source.entry.Reads limit (entryFields entry) entry := by
  cases entry with
  | create cluster name content =>
    obtain ⟨content, rfl⟩ := Option.isSome_iff_exists.1 complete
    have hname : (Field.text name).Within limit := within _ (by simp [entryFields])
    have hcontent : (Field.bytes (some content)).Within limit := within _ (by simp [entryFields])
    refine (reads_byte 1).bind ?_
    rw [if_pos rfl]
    exact (reads_short cluster).bind ((reads_text hname.1 hname.2).bind
      ((reads_requiredBytes hcontent).map rfl))
  | update id version content =>
    obtain ⟨content, rfl⟩ := Option.isSome_iff_exists.1 complete
    have hcontent : (Field.bytes (some content)).Within limit := within _ (by simp [entryFields])
    refine (reads_byte 2).bind ?_
    rw [if_neg (by decide), if_pos rfl]
    exact (reads_short id.cluster).bind ((reads_long id.position).bind ((reads_int version).bind
      ((reads_requiredBytes hcontent).map rfl)))
  | delete id version =>
    refine (reads_byte 3).bind ?_
    rw [if_neg (by decide), if_neg (by decide), if_pos rfl]
    exact (reads_short id.cluster).bind ((reads_long id.position).bind ((reads_int version).map rfl))

namespace BatchReader

/-- The number of a batch and that of its entries are read as what was written. -/
theorem reads_start (number : Int32) {count : Nat} (small : count < 2 ^ 31) :
    start.Reads limit [.int number, countField count] { number, announced := count } := by
  rw [countField_of_le (Nat.le_of_lt_succ small)]
  have hcount := Source.toInt_ofNat_length small
  have hnatural : ¬ Int32.ofNat count < 0 := fun hlt => by
    have := Int32.lt_iff_toInt_lt.1 hlt
    rw [hcount] at this
    exact absurd this (by show ¬ (count : Int) < 0; omega)
  refine (Source.reads_int number).bind ((Source.reads_int _).map ?_)
  rw [if_neg hnatural, hcount]
  rfl

section Next

variable {reader : BatchReader} {source after : Source} {count : Nat}

theorem remaining_advance (h : reader.remaining = count + 1) :
    reader.advance.remaining = count := by
  unfold remaining at h
  split at h
  · cases h
  · rename_i going
    show (if reader.finished = true then 0 else reader.announced - (reader.consumed + 1)) = count
    rw [if_neg going]
    omega

theorem next_of_entry {entry : BatchEntry} (h : reader.remaining = count + 1)
    (hentry : Source.entry source = (.ok entry, after)) :
    reader.next source = (some (.ok entry), reader.advance, after) := by
  rw [next, if_neg (by omega), hentry]

theorem next_of_failure {error : WireError} (h : reader.remaining = count + 1)
    (hentry : Source.entry source = (.error error, after)) :
    reader.next source = (some (.error error), reader.finish, after) := by
  rw [next, if_neg (by omega), hentry]

end Next

/-- As many entries as are there and were announced are taken. -/
theorem take_of_entries {entries : List BatchEntry} {reader : BatchReader} {source : Source}
    (complete : ∀ entry ∈ entries, entry.IsComplete)
    (within : AllWithin source.limit (entries.flatMap entryFields))
    (left : entries.length ≤ reader.remaining)
    (front : encode (entries.flatMap entryFields) <+: source.pending) :
    ∃ last after, take entries.length reader source = ((entries, none), last, after) ∧
      source.Past (encode (entries.flatMap entryFields)) (entries.flatMap entryFields).length
        after := by
  induction entries generalizing reader source with
  | nil => exact ⟨_, source, rfl, .refl source⟩
  | cons entry rest ih =>
    rw [List.flatMap_cons] at within front
    obtain ⟨hentry, hrest⟩ := within.append
    obtain ⟨more, hmore⟩ := front
    rw [encode_append, List.append_assoc] at hmore
    obtain ⟨middle, hread, past⟩ := Source.reads_entry (complete entry List.mem_cons_self) hentry
      source rfl ⟨_, hmore⟩
    have hlength : (entry :: rest).length = rest.length + 1 := rfl
    obtain ⟨others, hremaining⟩ : ∃ others, reader.remaining = others + 1 :=
      Nat.exists_eq_add_one.2 (Nat.zero_lt_of_lt left)
    have hnext := next_of_entry hremaining hread
    obtain ⟨last, after, htake, further⟩ := @ih reader.advance middle
      (fun other hother => complete other (List.mem_cons_of_mem _ hother)) (past.limit ▸ hrest)
      (by rw [remaining_advance hremaining]; omega) ⟨more, (past.pending_eq hmore.symm).symm⟩
    refine ⟨last, after, ?_, ?_⟩
    · rw [hlength, take, hnext]
      simp only [htake]
    · rw [List.flatMap_cons, encode_append, List.length_append]
      exact past.trans further

end BatchReader

/-- A batch is read as what was written. -/
theorem Request.reads_batch (number : Int32) {entries : List BatchEntry}
    (complete : ∀ entry ∈ entries, entry.IsComplete) (small : entries.length < 2 ^ 31)
    (within : AllWithin limit (entries.flatMap entryFields)) :
    batch.Reads limit (batchFields number entries) (.commit number entries none) := by
  have hentries (source : Source) (hlimit : source.limit = limit)
      (hfront : encode (entries.flatMap entryFields) <+: source.pending) :
      ∃ last after, ({ number, announced := entries.length } : BatchReader).rest source =
          ((entries, none), last, after) ∧
        source.Past (encode (entries.flatMap entryFields)) (entries.flatMap entryFields).length
          after :=
    @BatchReader.take_of_entries entries { number, announced := entries.length } source complete
      (hlimit ▸ within) (Nat.le_refl _) hfront
  refine (BatchReader.reads_start number small).bind fun source hlimit hfront => ?_
  obtain ⟨last, after, hrest, past⟩ := hentries source hlimit hfront
  refine ⟨after, ?_, past⟩
  simp only [hrest]

/-! ## Requests -/

namespace Request

open Source

/-- A request for the data of a session's database as a client's call makes it. -/
inductive Called : Request → Prop
  | addPhysicalCluster (name : String) (file : Option String) (size : Int32) :
      Called (.addPhysicalCluster name file size)
  | addLogicalCluster (name : String) (container : Int32) :
      Called (.addLogicalCluster name container)
  | countClusters {ids : List Int16} (few : ids.length ≤ 32767) : Called (.countClusters ids)
  | loadRecord (id : RecordId) : Called (.loadRecord id)
  | createRecord (cluster : Int16) (content : Bytes) (type : RecordType) :
      Called (.createRecord cluster content type)
  | updateRecord (id : RecordId) (content : Bytes) (version : Int32) (type : RecordType) :
      Called (.updateRecord id content version type)
  | deleteRecord (id : RecordId) (version : Int32) : Called (.deleteRecord id version)
  | countNamed (cluster : String) : Called (.countNamed cluster)
  | command (mode : CommandMode) (request : CommandRequest) : Called (.command mode request)
  | lookupKey (key : String) : Called (.lookupKey key)
  | bindKey (key : String) (type : RecordType) (id : RecordId) : Called (.bindKey key type id.text)
  | unbindKey (key : String) : Called (.unbindKey key)
  | countKeys : Called .countKeys
  | listKeys : Called .listKeys
  | commit (number : Int32) {entries : List BatchEntry}
      (complete : ∀ entry ∈ entries, entry.IsComplete) (few : entries.length < 2 ^ 31) :
      Called (.commit number entries none)

/-- What a call sends is read as the request that it means. -/
theorem reads_decode [Codec] (lawful : Codec.Lawful) {request : Request} (called : request.Called)
    (within : AllWithin limit request.operandFields) :
    (decode request.opcode).Reads limit request.operandFields request := by
  cases called with
  | addPhysicalCluster name file size =>
    have hname : (Field.text (some name)).Within limit := within _ (by simp [operandFields])
    have hfile : (Field.text file).Within limit := within _ (by simp [operandFields])
    exact (reads_requiredText hname).bind ((reads_text hfile.1 hfile.2).bind
      ((reads_int size).map rfl))
  | addLogicalCluster name container =>
    have hname : (Field.text (some name)).Within limit := within _ (by simp [operandFields])
    exact (reads_requiredText hname).bind ((reads_int container).map rfl)
  | countClusters few => exact reads_decode_countClusters (by omega)
  | loadRecord id => exact (reads_identity id).map rfl
  | createRecord cluster content type =>
    have hcontent : (Field.bytes (some content)).Within limit := within _ (by simp [operandFields])
    exact (reads_short cluster).bind ((reads_requiredBytes hcontent).bind
      ((reads_recordType type).map rfl))
  | updateRecord id content version type =>
    have hcontent : (Field.bytes (some content)).Within limit := within _ (by simp [operandFields])
    exact (reads_identity id).bind ((reads_requiredBytes hcontent).bind ((reads_int version).bind
      ((reads_recordType type).map rfl)))
  | deleteRecord id version => exact (reads_identity id).bind ((reads_int version).map rfl)
  | countNamed cluster =>
    have hcluster : (Field.text (some cluster)).Within limit := within _ (by simp [operandFields])
    exact (reads_requiredText hcluster).map rfl
  | command mode request =>
    have hpayload : (Field.bytes (some (Codec.encodeCommand request))).Within limit :=
      within _ (by simp [operandFields])
    have hmode : CommandMode.ofTag mode.tag = mode := by cases mode <;> rfl
    have hoperand : commandOperand.Reads limit [.bytes (some (Codec.encodeCommand request))] request := by
      refine (reads_requiredBytes hpayload).map ?_
      rw [lawful.command request hpayload.1]
    refine (reads_byte mode.tag).bind (hoperand.map ?_)
    rw [hmode]
  | lookupKey key | unbindKey key =>
    have hkey : (Field.text (some key)).Within limit := within _ (by simp [operandFields])
    exact (reads_requiredText hkey).map rfl
  | bindKey key type id =>
    have hkey : (Field.text (some key)).Within limit := within _ (by simp [operandFields])
    have hid : (Field.text (some id.text)).Within limit := within _ (by simp [operandFields])
    exact (reads_requiredText hkey).bind ((reads_recordType type).bind
      ((reads_requiredText hid).map rfl))
  | countKeys | listKeys => exact .pure _
  | commit number complete few =>
    refine reads_batch number complete few fun field hfield => within field ?_
    exact List.mem_cons_of_mem _ (List.mem_cons_of_mem _ hfield)

end Request

end Wire

end RecordBase
