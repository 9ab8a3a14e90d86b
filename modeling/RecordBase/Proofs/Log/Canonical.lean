import RecordBase.Proofs.Log.RoundTrip

/-!
# An entry is written in one way only

A reader restores its field (`FieldReader.Restores`) if the bytes that it takes are those of the value
that it finds. So does every reader of the log, for a length is told by its four bytes alone, a missing
text has a length of its own, and only the bytes of a text read as one.

* `LogEntry.eq_encode_of_decode`: whatever reads as an entry is how that entry is written;
* `LogEntry.decode_eq_ok_iff`: reading accepts the bytes of the entries shorter than `2 ^ 32` bytes, each
  as its entry, and nothing else.
-/

namespace RecordBase

namespace FieldReader

variable {α β : Type} {reader : FieldReader α} {bytes rest : Bytes}

/-- The bytes that the reader takes are those of the value that it finds. -/
def Restores (reader : FieldReader α) (write : α → Bytes) : Prop :=
  ∀ {bytes value rest}, reader bytes = .ok (value, rest) → bytes = write value ++ rest

theorem ok_of_bind {next : α → FieldReader β} {result : β}
    (h : (reader >>= next) bytes = .ok (result, rest)) :
    ∃ value middle, reader bytes = .ok (value, middle) ∧ next value middle = .ok (result, rest) := by
  change (reader bytes >>= fun pair => next pair.1 pair.2) = _ at h
  rcases hread : reader bytes with error | ⟨value, middle⟩ <;> rw [hread] at h
  · cases h
  · exact ⟨value, middle, rfl, h⟩

theorem ok_of_take {count : Nat} {value : Bytes} (h : take count bytes = .ok (value, rest)) :
    value.length = count ∧ bytes = value ++ rest := by
  unfold take at h
  split at h <;> cases h
  rename_i enough
  exact ⟨List.length_take_of_le (Nat.le_of_not_lt enough), (List.take_append_drop count bytes).symm⟩

theorem restores_word (α : Type) [Word α] : (word α).Restores Word.toLittleEndian := by
  intro bytes value rest h
  obtain ⟨front, middle, htake, h⟩ := ok_of_bind h
  cases h
  obtain ⟨hlength, rfl⟩ := ok_of_take htake
  rw [Word.toLittleEndian_ofLittleEndian hlength]

/-- A length and the bytes that it counts were written for these bytes. -/
theorem counted_of_take {length : UInt32} {value : Bytes}
    (h : take length.toNat bytes = .ok (value, rest)) :
    Word.toLittleEndian length ++ bytes = countedBytes value ++ rest := by
  obtain ⟨hlength, rfl⟩ := ok_of_take h
  rw [countedBytes, hlength, UInt32.ofNat_toNat, List.append_assoc]

theorem restores_optionalText : optionalText.Restores optionalTextField := by
  intro bytes value rest h
  obtain ⟨length, middle, hlength, h⟩ := ok_of_bind h
  rw [restores_word UInt32 hlength]
  split at h
  · rename_i hmissing
    cases h
    rw [hmissing, optionalTextField]
  · obtain ⟨content, after, hcontent, h⟩ := ok_of_bind h
    cases htext : Bytes.toText? content with
    | none =>
      rw [htext] at h
      cases h
    | some text =>
      rw [htext] at h
      cases h
      rw [counted_of_take hcontent, Bytes.toText?_eq_some_iff.1 htext]
      rfl

theorem restores_text (missing : Damage) : (text missing).Restores textField := by
  intro bytes value rest h
  obtain ⟨found, middle, hfound, h⟩ := ok_of_bind h
  cases found with
  | none => cases h
  | some name =>
    cases h
    exact restores_optionalText hfound

theorem restores_identity : identity.Restores identityField := by
  intro bytes value rest h
  obtain ⟨cluster, middle, hcluster, h⟩ := ok_of_bind h
  obtain ⟨position, after, hposition, h⟩ := ok_of_bind h
  cases h
  rw [restores_word Int16 hcluster, restores_word Int64 hposition, identityField, List.append_assoc]

theorem toLittleEndian_octet (octet : UInt8) : Word.toLittleEndian octet = [octet] := by
  simp [Word.toLittleEndian, Bytes.littleEndian, Word.width, Word.bits]

theorem restores_clusterKind : clusterKind.Restores ClusterKind.field := by
  intro bytes value rest h
  obtain ⟨tag, middle, htag, h⟩ := ok_of_bind h
  rw [restores_word UInt8 htag, toLittleEndian_octet]
  split at h
  · rename_i hphysical
    obtain ⟨file, after, hfile, h⟩ := ok_of_bind h
    obtain ⟨size, last, hsize, h⟩ := ok_of_bind h
    cases h
    rw [hphysical, restores_optionalText hfile, restores_word Int32 hsize]
    simp [ClusterKind.field]
  · split at h
    · rename_i hlogical
      obtain ⟨container, after, hcontainer, h⟩ := ok_of_bind h
      obtain ⟨descriptor, last, hdescriptor, h⟩ := ok_of_bind h
      cases h
      rw [hlogical, restores_word Int16 hcontainer, restores_identity hdescriptor]
      simp [ClusterKind.field]
    · cases h

theorem restores_recordType : recordType.Restores fun type => [type.tag] := by
  intro bytes value rest h
  obtain ⟨tag, middle, htag, h⟩ := ok_of_bind h
  rw [restores_word UInt8 htag, toLittleEndian_octet]
  cases htype : RecordType.ofTag? tag with
  | none =>
    rw [htype] at h
    cases h
  | some type =>
    rw [htype] at h
    cases h
    rw [RecordType.ofTag?_eq_some_iff.1 htype]

theorem restores_slot : slot.Restores Slot.field := by
  intro bytes value rest h
  obtain ⟨owner, afterOwner, howner, h⟩ := ok_of_bind h
  obtain ⟨version, afterVersion, hversion, h⟩ := ok_of_bind h
  obtain ⟨type, afterType, htype, h⟩ := ok_of_bind h
  obtain ⟨length, afterLength, hlength, h⟩ := ok_of_bind h
  obtain ⟨content, last, hcontent, h⟩ := ok_of_bind h
  cases h
  rw [restores_word Int16 howner, restores_word Int32 hversion, restores_recordType htype,
    restores_word UInt32 hlength, counted_of_take hcontent]
  simp [Slot.field]

/-- The fields that are read as those of a kind of entry are the fields of that entry. -/
theorem restores_entry {kind : UInt8} {found : LogEntry} (h : entry kind bytes = .ok (found, rest)) :
    found.kind = kind ∧ bytes = found.fields ++ rest := by
  unfold entry at h
  split at h
  · rename_i hkind
    obtain ⟨id, afterId, hid, h⟩ := ok_of_bind h
    obtain ⟨name, afterName, hname, h⟩ := ok_of_bind h
    obtain ⟨kind, last, hfield, h⟩ := ok_of_bind h
    cases h
    rw [restores_word Int16 hid, restores_text _ hname, restores_clusterKind hfield]
    exact ⟨hkind.symm, by simp [LogEntry.fields]⟩
  split at h
  · rename_i hkind
    obtain ⟨place, afterPlace, hplace, h⟩ := ok_of_bind h
    obtain ⟨stored, last, hstored, h⟩ := ok_of_bind h
    cases h
    rw [restores_identity hplace, restores_slot hstored]
    exact ⟨hkind.symm, by simp [LogEntry.fields]⟩
  split at h
  · rename_i hkind
    obtain ⟨place, last, hplace, h⟩ := ok_of_bind h
    cases h
    exact ⟨hkind.symm, restores_identity hplace⟩
  split at h
  · rename_i hkind
    obtain ⟨key, afterKey, hkey, h⟩ := ok_of_bind h
    obtain ⟨id, last, hid, h⟩ := ok_of_bind h
    cases h
    rw [restores_text _ hkey, restores_identity hid]
    exact ⟨hkind.symm, by simp [LogEntry.fields]⟩
  split at h
  · rename_i hkind
    obtain ⟨key, last, hkey, h⟩ := ok_of_bind h
    cases h
    exact ⟨hkind.symm, restores_text _ hkey⟩
  · cases h

end FieldReader

namespace LogEntry

variable {bytes : Bytes} {entry : LogEntry}

/-- What reads as the body of an entry is its body. -/
theorem eq_body_of_ofBody {body : Bytes} (h : ofBody body = .ok entry) : body = entry.body := by
  cases body with
  | nil => cases h
  | cons kind fields =>
    rw [ofBody] at h
    rcases hread : FieldReader.entry kind fields with error | ⟨found, rest⟩ <;> rw [hread] at h
    · cases h
    · obtain ⟨rfl, rfl⟩ := FieldReader.restores_entry hread
      cases rest with
      | nil =>
        cases h
        rw [body_eq, List.append_nil]
      | cons byte more => cases h

/-- The bytes of an entry are checked by a checksum at their end, announce their length, and hold a body
between the two. -/
theorem ok_of_decode (h : decode bytes = .ok entry) :
    ∃ checked, 4 ≤ checked.length ∧ bytes = checked ++ Word.toLittleEndian (Checksum.crc32 checked) ∧
      announcedLength bytes = bytes.length ∧ ofBody (checked.drop 4) = .ok entry := by
  unfold decode at h
  extract_lets size checked stored computed at h
  split at h
  · cases h
  rename_i enough
  split at h
  · cases h
  rename_i hannounced
  split at h
  · cases h
  rename_i hchecksum
  have hsize : minimumSize ≤ bytes.length := Nat.le_of_not_lt enough
  simp only [minimumSize, frameSize] at hsize
  refine ⟨checked, ?_, ?_, Decidable.not_not.1 hannounced, h⟩
  · rw [List.length_take]
    omega
  · have hfour : (bytes.drop (bytes.length - 4)).length = 4 := by
      rw [List.length_drop]
      omega
    show bytes = checked ++ Word.toLittleEndian computed
    rw [← Decidable.not_not.1 hchecksum, Word.toLittleEndian_ofLittleEndian hfour]
    exact (List.take_append_drop _ _).symm

/-- A length that is announced is written as four bytes announce it. -/
theorem take_four_of_announced (enough : 4 ≤ bytes.length) :
    bytes.take 4 = Word.toLittleEndian (UInt32.ofNat (announcedLength bytes)) := by
  rw [announcedLength, UInt32.ofNat_toNat, Word.toLittleEndian_ofLittleEndian]
  exact List.length_take_of_le enough

/-- Whatever reads as an entry is how that entry is written, and its length is one that four bytes can
tell. -/
theorem eq_encode_of_decode (h : decode bytes = .ok entry) : bytes = entry.encode ∧ entry.Small := by
  obtain ⟨checked, enough, hbytes, hannounced, hbody⟩ := ok_of_decode h
  have hdrop : checked.drop 4 = entry.body := eq_body_of_ofBody hbody
  have hlength : bytes.length = entry.body.length + frameSize := by
    have hcrc : (Word.toLittleEndian (Checksum.crc32 checked)).length = 4 := Word.length_toLittleEndian _
    have := congrArg List.length hdrop
    rw [List.length_drop] at this
    rw [hbytes, List.length_append, hcrc, frameSize]
    omega
  have htake : checked.take 4 = bytes.take 4 := by
    rw [hbytes, List.take_append_of_le_length enough]
  have hchecked : checked = entry.checked := by
    rw [← List.take_append_drop 4 checked, htake, hdrop, take_four_of_announced, hannounced, hlength,
      LogEntry.checked]
    rw [hlength, frameSize]
    omega
  have hencode : bytes = entry.encode := by rw [encode_eq, ← hchecked, ← hbytes]
  refine ⟨hencode, ?_⟩
  rw [Small, ← hencode, ← hannounced]
  exact UInt32.toNat_lt _

/-- Reading and writing entries are inverse to each other. The entries whose bytes are fewer than
`2 ^ 32` are read back from their bytes, and nothing but these bytes reads as an entry; in particular no
two byte strings read as the same one. The texts of such an entry are shorter than the length that
stands for a missing text. -/
theorem decode_eq_ok_iff (bytes : Bytes) (entry : LogEntry) :
    decode bytes = .ok entry ↔ entry.Small ∧ bytes = entry.encode := by
  constructor
  · intro h
    obtain ⟨hencode, small⟩ := eq_encode_of_decode h
    exact ⟨small, hencode⟩
  · rintro ⟨small, rfl⟩
    exact decode_encode small

end LogEntry

end RecordBase
