import RecordBase.Log.Codec

/-!
# An entry reads back as it was written

A reader takes a field (`FieldReader.Reads`) if it yields its value and leaves what follows. Readers
one after another take fields one after another (`Reads.bind`), so an entry is read field by field.

* `LogEntry.decode_encode`: an entry whose bytes are fewer than `2 ^ 32`, the lengths that the
  first four bytes can tell, is read back from its bytes;
* `LogEntry.announcedLength_encode_append`: its length is known from the front of the log.
-/

namespace RecordBase

namespace FieldReader

/-- The reader takes the field off whatever follows it, with this value. -/
def Reads {α : Type} (reader : FieldReader α) (field : Bytes) (value : α) : Prop :=
  ∀ rest, reader (field ++ rest) = .ok (value, rest)

variable {α β : Type} {reader : FieldReader α} {field : Bytes} {value : α}

theorem Reads.pure (value : α) : (Pure.pure value : FieldReader α).Reads [] value := fun _ => rfl

theorem Reads.bind {next : α → FieldReader β} {other : Bytes} {result : β}
    (h : reader.Reads field value) (hnext : (next value).Reads other result) :
    (reader >>= next).Reads (field ++ other) result := fun rest => by
  show (reader (field ++ other ++ rest) >>= fun pair => next pair.1 pair.2) = _
  rw [List.append_assoc, h]
  exact hnext rest

/-- The last field of several, after which the result is put together. -/
theorem Reads.map {result : β} {next : α → FieldReader β} (h : reader.Reads field value)
    (hnext : next value = Pure.pure result) : (reader >>= next).Reads field result := by
  have := h.bind (hnext ▸ Reads.pure result)
  rwa [List.append_nil] at this

theorem reads_take (bytes : Bytes) : (take bytes.length).Reads bytes bytes := fun rest => by
  rw [take, if_neg (by simp), List.take_left', List.drop_left'] <;> rfl

theorem reads_word [Word α] (value : α) : (word α).Reads (Word.toLittleEndian value) value := by
  have h := reads_take (Word.toLittleEndian value)
  rw [Word.length_toLittleEndian] at h
  exact h.map (by rw [Word.ofLittleEndian_toLittleEndian])

theorem toNat_length {bytes : Bytes} (h : bytes.length < 2 ^ 32) :
    (UInt32.ofNat bytes.length).toNat = bytes.length := by
  rw [UInt32.toNat_ofNat']
  omega

theorem reads_optionalText_textField {text : String}
    (h : (Bytes.ofText text).length < 2 ^ 32 - 1) :
    optionalText.Reads (textField text) (some text) := by
  have hlen : (Bytes.ofText text).length < 2 ^ 32 := by omega
  have hne : UInt32.ofNat (Bytes.ofText text).length ≠ missingText := fun he => by
    have := congrArg UInt32.toNat he
    rw [toNat_length hlen] at this
    simp only [missingText, UInt32.reduceToNat] at this
    omega
  refine (reads_word _).bind ?_
  rw [if_neg hne, toNat_length hlen]
  exact (reads_take _).map (by rw [Bytes.toText?_ofText])

theorem reads_optionalText {text : Option String}
    (h : ∀ known ∈ text, (Bytes.ofText known).length < 2 ^ 32 - 1) :
    optionalText.Reads (optionalTextField text) text := by
  cases text with
  | some known => exact reads_optionalText_textField (h known rfl)
  | none => exact (reads_word missingText).map (by rw [if_pos rfl])

theorem reads_text {name : String} (h : (Bytes.ofText name).length < 2 ^ 32 - 1) (missing : Damage) :
    (text missing).Reads (textField name) name :=
  (reads_optionalText_textField h).map rfl

theorem reads_identity (id : RecordId) : identity.Reads (identityField id) id :=
  (reads_word id.cluster).bind ((reads_word id.position).map rfl)

theorem reads_recordType (type : RecordType) : recordType.Reads [type.tag] type := by
  have htag : Word.toLittleEndian type.tag = [type.tag] := by
    cases type <;> rfl
  have h := reads_word type.tag
  rw [htag] at h
  exact h.map (by rw [RecordType.ofTag?_tag])

theorem reads_clusterKind {kind : ClusterKind}
    (h : ∀ file size, kind = .physical (some file) size → (Bytes.ofText file).length < 2 ^ 32 - 1) :
    clusterKind.Reads kind.field kind := by
  cases kind with
  | physical file size =>
    have hfile := reads_optionalText fun known (hk : known ∈ file) =>
      h known size (by rw [Option.mem_def.1 hk])
    have hrest : Reads (do let file ← optionalText; return .physical file (← word Int32))
        (optionalTextField file ++ Word.toLittleEndian size) (ClusterKind.physical file size) :=
      hfile.bind ((reads_word size).map rfl)
    exact (reads_word (0 : UInt8)).bind (by rw [if_pos rfl]; exact hrest)
  | logical container descriptor =>
    have hrest : Reads (do let container ← word Int16; return .logical container (← identity))
        (Word.toLittleEndian container ++ identityField descriptor)
        (ClusterKind.logical container descriptor) :=
      (reads_word container).bind ((reads_identity descriptor).map rfl)
    exact (reads_word (1 : UInt8)).bind (by rw [if_neg (by decide), if_pos rfl]; exact hrest)

theorem reads_slot {stored : Slot} (h : stored.content.length < 2 ^ 32) :
    slot.Reads stored.field stored := by
  have hfield : stored.field = Word.toLittleEndian stored.owner ++
      (Word.toLittleEndian stored.version ++ ([stored.type.tag] ++
        (Word.toLittleEndian (UInt32.ofNat stored.content.length) ++ stored.content))) := by
    simp [Slot.field, countedBytes]
  rw [hfield]
  refine (reads_word stored.owner).bind ((reads_word stored.version).bind
    ((reads_recordType stored.type).bind ((reads_word _).bind ?_)))
  rw [toNat_length h]
  exact (reads_take stored.content).map rfl

end FieldReader

namespace LogEntry

/-- The first four bytes can tell the length of the entry. -/
def Small (entry : LogEntry) : Prop := entry.encode.length < 2 ^ 32

instance (entry : LogEntry) : Decidable entry.Small := inferInstanceAs (Decidable (_ < _))

theorem length_frame (body : Bytes) : (frame body).length = body.length + frameSize := by
  have hw : Word.width UInt32 = 4 := rfl
  simp only [frame, List.length_append, Word.length_toLittleEndian, hw, frameSize]
  omega

theorem length_encode (entry : LogEntry) : entry.encode.length = entry.body.length + frameSize :=
  length_frame entry.body

theorem length_textField (text : String) :
    (textField text).length = (Bytes.ofText text).length + 4 := by
  have hw : Word.width UInt32 = 4 := rfl
  simp only [textField, countedBytes, List.length_append, Word.length_toLittleEndian, hw]
  omega

/-- The byte for the kind of an entry. -/
def kind : LogEntry → UInt8
  | clusterAdded _ => 1
  | recordPut _ _ => 2
  | recordRemoved _ => 3
  | keyBound _ _ => 4
  | keyRemoved _ => 5

/-- The fields after the kind of an entry. -/
def fields : LogEntry → Bytes
  | clusterAdded cluster =>
    Word.toLittleEndian cluster.id ++ (textField cluster.name ++ cluster.kind.field)
  | recordPut place slot => identityField place ++ slot.field
  | recordRemoved place => identityField place
  | keyBound key id => textField key ++ identityField id
  | keyRemoved key => textField key

theorem body_eq (entry : LogEntry) : entry.body = entry.kind :: entry.fields := by
  cases entry <;> simp [body, kind, fields]

theorem Small.length_fields {entry : LogEntry} (h : entry.Small) :
    entry.fields.length < 2 ^ 32 - 9 := by
  have := length_encode entry
  rw [body_eq, List.length_cons] at this
  simp only [Small, frameSize] at h this
  omega

/-- The fields of an entry are read back one by one. -/
theorem reads_fields {entry : LogEntry} (h : entry.Small) :
    (FieldReader.entry entry.kind).Reads entry.fields entry := by
  have hlen := h.length_fields
  cases entry with
  | clusterAdded cluster =>
    simp only [fields, List.length_append, length_textField] at hlen
    refine (FieldReader.reads_word cluster.id).bind
      ((FieldReader.reads_text (by omega) _).bind ((FieldReader.reads_clusterKind ?_).map rfl))
    intro file size hkind
    simp only [hkind, ClusterKind.field, optionalTextField, List.cons_append, List.length_cons,
      List.length_append, length_textField] at hlen
    omega
  | recordPut place slot =>
    simp only [fields, Slot.field, countedBytes, List.length_append, List.length_cons] at hlen
    exact (FieldReader.reads_identity place).bind ((FieldReader.reads_slot (by omega)).map rfl)
  | recordRemoved place => exact (FieldReader.reads_identity place).map rfl
  | keyBound key id =>
    simp only [fields, List.length_append, length_textField] at hlen
    exact (FieldReader.reads_text (by omega) _).bind ((FieldReader.reads_identity id).map rfl)
  | keyRemoved key =>
    simp only [fields, length_textField] at hlen
    exact (FieldReader.reads_text (by omega) _).map rfl

theorem ofBody_body {entry : LogEntry} (h : entry.Small) : ofBody entry.body = .ok entry := by
  have hread := reads_fields h []
  rw [List.append_nil] at hread
  rw [body_eq, ofBody]
  simp only [hread]
  rfl

/-! ## Frames -/

/-- The bytes of an entry before its checksum. -/
def checked (entry : LogEntry) : Bytes :=
  Word.toLittleEndian (UInt32.ofNat (entry.body.length + frameSize)) ++ entry.body

theorem encode_eq (entry : LogEntry) :
    entry.encode = entry.checked ++ Word.toLittleEndian (Checksum.crc32 entry.checked) := rfl

theorem length_checked (entry : LogEntry) : entry.checked.length = entry.encode.length - 4 := by
  have hw : Word.width UInt32 = 4 := rfl
  rw [encode_eq, List.length_append, Word.length_toLittleEndian, hw]
  omega

theorem announcedLength_encode_append {entry : LogEntry} (h : entry.Small) (rest : Bytes) :
    announcedLength (entry.encode ++ rest) = entry.encode.length := by
  have hlen : (Word.toLittleEndian (UInt32.ofNat (entry.body.length + frameSize))).length = 4 :=
    Word.length_toLittleEndian _
  simp only [announcedLength, encode_eq, checked, List.append_assoc]
  rw [List.take_left' hlen, Word.ofLittleEndian_toLittleEndian, UInt32.toNat_ofNat']
  have := length_encode entry
  simp only [Small, this] at h
  have h' := length_encode entry
  rw [encode_eq, checked, List.append_assoc] at h'
  rw [h']
  omega

theorem decode_encode {entry : LogEntry} (h : entry.Small) : decode entry.encode = .ok entry := by
  have hlen := length_encode entry
  have hbody : 0 < entry.body.length := by simp [body_eq]
  have hannounced := announcedLength_encode_append h []
  rw [List.append_nil] at hannounced
  have hmin : ¬ entry.encode.length < minimumSize := by
    simp only [minimumSize, frameSize] at *
    omega
  have htake : entry.encode.take (entry.encode.length - 4) = entry.checked := by
    rw [← length_checked, encode_eq, List.take_left' rfl]
  have hdrop : entry.encode.drop (entry.encode.length - 4) =
      Word.toLittleEndian (Checksum.crc32 entry.checked) := by
    rw [← length_checked, encode_eq, List.drop_left' rfl]
  have hchecked : entry.checked.drop 4 = entry.body :=
    List.drop_left' (Word.length_toLittleEndian _)
  simp only [decode, if_neg hmin, hannounced, ne_eq, not_true_eq_false, if_false, htake, hdrop,
    Word.ofLittleEndian_toLittleEndian, hchecked]
  exact ofBody_body h

end LogEntry

end RecordBase
