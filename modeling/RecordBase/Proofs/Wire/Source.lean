import RecordBase.Wire.Source

/-!
# What a reader takes

A reader takes bytes off the front of a source and counts fields (`Source.Past`); how the bytes have
arrived does not matter. `Decoder.Reads` says that a reader finds a value in some fields: it takes
exactly their bytes and counts each of them.

* `Source.takeBytes_of_pending`, `Source.dropBytes_of_pending`: bytes that are there are taken.
* `Decoder.Reads.bind`: readers one after another read one list of fields after another.
* `Source.reads_word`, `Source.reads_bytes`, `Source.reads_text`: a field is read as what was written.
-/

namespace RecordBase.Wire

theorem Decoder.bind_of_ok {α β : Type} {decoder : Decoder α} {next : α → Decoder β} {value : α}
    {source after : Source} (h : decoder source = (.ok value, after)) :
    (decoder >>= next) source = next value after := by
  show Decoder.bind decoder next source = _
  rw [Decoder.bind, h]

theorem Decoder.bind_of_error {α β : Type} {decoder : Decoder α} {next : α → Decoder β}
    {error : WireError} {source after : Source} (h : decoder source = (.error error, after)) :
    (decoder >>= next) source = (.error error, after) := by
  show Decoder.bind decoder next source = _
  rw [Decoder.bind, h]

/-- A source after some bytes have been taken off its front and some fields counted. -/
structure Source.Past (source : Source) (front : Bytes) (count : Nat) (after : Source) : Prop where
  pending : source.pending = front ++ after.pending
  arrived : after.arrived = source.arrived.drop front.length
  taken : after.taken = source.taken.map (· + count)
  owed : after.owed = source.owed
  limit : after.limit = source.limit

namespace Source

variable {source after later : Source} {front other rest : Bytes} {count further : Nat}

theorem Past.refl (source : Source) : source.Past [] 0 source where
  pending := rfl
  arrived := rfl
  taken := by simp
  owed := rfl
  limit := rfl

theorem Past.trans (first : source.Past front count after) (second : after.Past other further later) :
    source.Past (front ++ other) (count + further) later where
  pending := by rw [first.pending, second.pending, List.append_assoc]
  arrived := by rw [second.arrived, first.arrived, List.drop_drop, List.length_append]
  taken := by
    rw [second.taken, first.taken, Option.map_map]
    congr 1
    funext taken
    exact Nat.add_assoc taken count further
  owed := second.owed.trans first.owed
  limit := second.limit.trans first.limit

theorem pending_advance (source : Source) (count buffered : Nat) :
    (source.advance count buffered).pending = source.pending.drop count := by
  rw [pending, pending, List.drop_append]
  rfl

theorem Past.advance (h : source.pending = front ++ rest) (buffered : Nat) :
    source.Past front 0 (source.advance front.length buffered) where
  pending := by rw [pending_advance, h, List.drop_left]
  arrived := rfl
  taken := by simp [Source.advance]
  owed := rfl
  limit := rfl

theorem Past.countField (source : Source) : source.Past [] 1 source.countField where
  pending := rfl
  arrived := rfl
  taken := rfl
  owed := rfl
  limit := rfl

/-- What follows the bytes that were taken. -/
theorem Past.pending_eq (past : source.Past front count after) (h : source.pending = front ++ rest) :
    after.pending = rest :=
  List.append_cancel_left (past.pending.symm.trans h)

/-- Bytes that are there are taken. -/
theorem takeBytes_of_pending (h : source.pending = front ++ rest) :
    ∃ after, takeBytes front.length source = (.ok front, after) ∧ source.Past front 0 after := by
  have enough : ¬ source.pending.length < front.length := by
    rw [h, List.length_append]
    omega
  refine ⟨_, ?_, Past.advance h (bufferedAfter source.buffered source.arrived.length front.length)⟩
  rw [takeBytes, if_neg enough, h, List.take_left]

/-- Bytes that are there are dropped. -/
theorem dropBytes_of_pending (h : source.pending = front ++ rest) :
    ∃ after, dropBytes front.length source = (.ok (), after) ∧ source.Past front 0 after := by
  have enough : ¬ source.pending.length < front.length := by
    rw [h, List.length_append]
    omega
  unfold dropBytes
  rw [if_neg enough]
  by_cases hbuffered : front.length ≤ source.buffered
  · rw [if_pos hbuffered]
    exact ⟨_, rfl, Past.advance h _⟩
  · rw [if_neg hbuffered]
    exact ⟨_, rfl, Past.advance h _⟩

/-- A word that is there is taken. -/
theorem takeWord_of_pending {α : Type} [Word α] {value : α}
    (h : source.pending = Word.toBigEndian value ++ rest) :
    ∃ after, takeWord α source = (.ok value, after) ∧
      source.Past (Word.toBigEndian value) 0 after := by
  obtain ⟨after, htaken, past⟩ := takeBytes_of_pending h
  rw [Word.length_toBigEndian] at htaken
  refine ⟨after, (Decoder.bind_of_ok htaken).trans ?_, past⟩
  show ((.ok (Word.ofBigEndian (Word.toBigEndian value)) : Except WireError α), after) = _
  rw [Word.ofBigEndian_toBigEndian]

/-- The bytes that stand before a byte string, or for its absence. -/
def mark : Option Bytes → Bytes
  | none => Word.toBigEndian nothing
  | some bytes => Word.toBigEndian (Int32.ofNat bytes.length)

theorem toInt_ofNat_length {length : Nat} (h : length < 2 ^ 31) :
    (Int32.ofNat length).toInt = length :=
  Int32.toInt_ofNat_of_lt h

/-- The length of a byte string that is there is taken. -/
theorem takeLength_of_pending {value : Option Bytes} (small : (value.getD []).length < 2 ^ 31)
    (h : source.pending = mark value ++ rest) :
    ∃ after, takeLength source = (.ok (value.map List.length), after) ∧
      source.Past (mark value) 0 after := by
  cases value with
  | none =>
    obtain ⟨after, htaken, past⟩ := takeWord_of_pending h
    exact ⟨after, Decoder.bind_of_ok htaken, past⟩
  | some bytes =>
    obtain ⟨after, htaken, past⟩ := takeWord_of_pending h
    refine ⟨after, (Decoder.bind_of_ok htaken).trans ?_, past⟩
    have hlength := toInt_ofNat_length small
    rw [Option.getD_some] at hlength
    have hsome : Int32.ofNat bytes.length ≠ nothing := fun heq => by
      have := congrArg Int32.toInt heq
      rw [hlength] at this
      exact absurd this (by show (bytes.length : Int) ≠ -1; omega)
    have hsensible : ¬ Int32.ofNat bytes.length < nothing := fun hlt => by
      have := Int32.lt_iff_toInt_lt.1 hlt
      rw [hlength] at this
      exact absurd this (by show ¬ (bytes.length : Int) < -1; omega)
    refine (congrFun ((if_neg hsome).trans (if_neg hsensible)) after).trans ?_
    rw [hlength]
    rfl

end Source

/-! ## Fields -/

theorem encode_append (fields others : List Field) :
    encode (fields ++ others) = encode fields ++ encode others :=
  List.flatMap_append

@[simp] theorem encode_nil : encode [] = [] := rfl

theorem encode_cons (field : Field) (fields : List Field) :
    encode (field :: fields) = field.encode ++ encode fields := rfl

theorem encode_singleton (field : Field) : encode [field] = field.encode := by
  rw [encode_cons, encode_nil, List.append_nil]

@[simp] theorem Field.encode_byte (value : UInt8) : (Field.byte value).encode = Word.toBigEndian value := by
  simp [Field.encode, Word.toBigEndian, Bytes.bigEndian, Bytes.littleEndian, Word.width,
    Word.bits]

@[simp] theorem Field.encode_short (value : Int16) :
    (Field.short value).encode = Word.toBigEndian value := rfl

@[simp] theorem Field.encode_int (value : Int32) : (Field.int value).encode = Word.toBigEndian value :=
  rfl

@[simp] theorem Field.encode_long (value : Int64) :
    (Field.long value).encode = Word.toBigEndian value := rfl

theorem Field.encode_bytes (value : Option Bytes) :
    (Field.bytes value).encode = Source.mark value ++ value.getD [] := by
  cases value <;> simp [Field.encode, counted, Source.mark]

namespace Decoder

variable {α β : Type} {limit : Nat} {fields others : List Field} {value : α} {result : β}
  {decoder : Decoder α} {next : α → Decoder β}

/-- A reader that accepts byte strings up to a limit finds a value in some fields: wherever they
come first it takes them and nothing else. -/
def Reads (decoder : Decoder α) (limit : Nat) (fields : List Field) (value : α) : Prop :=
  ∀ source : Source, source.limit = limit → encode fields <+: source.pending →
    ∃ after, decoder source = (.ok value, after) ∧ source.Past (encode fields) fields.length after

theorem Reads.pure (value : α) : (Pure.pure value : Decoder α).Reads limit [] value :=
  fun source _ _ => ⟨source, rfl, .refl source⟩

theorem Reads.bind (first : decoder.Reads limit fields value)
    (second : (next value).Reads limit others result) :
    (decoder >>= next).Reads limit (fields ++ others) result := by
  intro source hlimit hfront
  obtain ⟨rest, hrest⟩ := hfront
  rw [encode_append, List.append_assoc] at hrest
  obtain ⟨middle, hfirst, past⟩ := first source hlimit ⟨_, hrest⟩
  obtain ⟨after, hsecond, further⟩ := second middle (past.limit.trans hlimit)
    ⟨rest, (past.pending_eq hrest.symm).symm⟩
  refine ⟨after, (bind_of_ok hfirst).trans hsecond, ?_⟩
  rw [encode_append, List.length_append]
  exact past.trans further

/-- A value that is found is changed. -/
theorem Reads.map (first : decoder.Reads limit fields value)
    (second : next value = Pure.pure result) : (decoder >>= next).Reads limit fields result := by
  have h := first.bind (second ▸ Reads.pure result : (next value).Reads limit [] result)
  rwa [List.append_nil] at h

/-- Items are read one after another. -/
theorem Reads.repeated {item : Decoder α} {write : α → List Field} {values : List α}
    (h : ∀ value ∈ values, item.Reads limit (write value) value) :
    (repeated values.length item).Reads limit (values.flatMap write) values := by
  induction values with
  | nil => exact .pure []
  | cons value values ih =>
    rw [List.flatMap_cons]
    exact (h value List.mem_cons_self).bind
      ((ih fun other hother => h other (List.mem_cons_of_mem _ hother)).map rfl)

end Decoder

namespace Source

variable {limit : Nat}

open Decoder (Reads)

theorem reads_word {α : Type} [Word α] {field : Field} (value : α)
    (h : field.encode = Word.toBigEndian value) : (word α).Reads limit [field] value := by
  intro source hlimit hfront
  rw [encode_singleton, h] at hfront ⊢
  obtain ⟨rest, hrest⟩ := hfront
  obtain ⟨after, htaken, past⟩ := takeWord_of_pending hrest.symm
  refine ⟨after.countField, Decoder.bind_of_ok htaken, ?_⟩
  have counted := past.trans (.countField after)
  rwa [List.append_nil] at counted

theorem reads_byte (value : UInt8) : (word UInt8).Reads limit [.byte value] value :=
  reads_word value (Field.encode_byte value)

theorem reads_short (value : Int16) : (word Int16).Reads limit [.short value] value :=
  reads_word value (Field.encode_short value)

theorem reads_int (value : Int32) : (word Int32).Reads limit [.int value] value :=
  reads_word value (Field.encode_int value)

theorem reads_long (value : Int64) : (word Int64).Reads limit [.long value] value :=
  reads_word value (Field.encode_long value)

/-- An identity is read as what was written. -/
theorem reads_identity (id : RecordId) : identity.Reads limit (identityFields id) id :=
  (reads_short id.cluster).bind ((reads_long id.position).map rfl)

/-- A type is read as what was written. -/
theorem reads_recordType (type : RecordType) : recordType.Reads limit [.byte type.tag] type := by
  refine (reads_byte type.tag).map ?_
  rw [RecordType.ofTag?_tag]

/-! ### Byte strings -/

section Bytes

variable {source : Source} {value : Option Bytes} {rest : Bytes}

/-- A byte string within the limit is taken. -/
theorem bytes_of_accepted (small : (value.getD []).length < 2 ^ 31)
    (accepted : (value.getD []).length ≤ source.limit)
    (h : source.pending = (Field.bytes value).encode ++ rest) :
    ∃ after, bytes source = (.ok value, after) ∧
      source.Past (Field.bytes value).encode 1 after := by
  rw [Field.encode_bytes, List.append_assoc] at h
  rw [Field.encode_bytes]
  obtain ⟨middle, hlength, past⟩ := takeLength_of_pending small h
  cases value with
  | none =>
    have haccepted : takeAcceptedLength source = (.ok none, middle) := Decoder.bind_of_ok hlength
    exact ⟨middle.countField, Decoder.bind_of_ok haccepted, past.trans (.countField middle)⟩
  | some value =>
    have hlimit : ¬ middle.limit < value.length := Nat.not_lt.2 (past.limit.symm ▸ accepted)
    have haccepted : takeAcceptedLength source = (.ok (some value.length), middle) :=
      (Decoder.bind_of_ok hlength).trans (if_neg hlimit)
    obtain ⟨after, htaken, further⟩ := takeBytes_of_pending (past.pending_eq h)
    refine ⟨after.countField,
      (Decoder.bind_of_ok haccepted).trans (Decoder.bind_of_ok htaken), ?_⟩
    have counted := (past.trans further).trans (.countField after)
    rwa [List.append_nil] at counted

theorem skipOwed_of_dropped {settled : Source}
    (h : dropBytes source.owed { source with owed := 0 } = (.ok (), settled)) :
    skipOwed source = (.ok source.owed, settled) := by
  rw [skipOwed, h]

/-- A byte string above the limit is refused. It counts as taken, and dropping what is owed of it drops
its bytes; nothing is owed any more then. -/
theorem bytes_of_long {value : Bytes} (small : value.length < 2 ^ 31)
    (long : source.limit < value.length)
    (h : source.pending = (Field.bytes (some value)).encode ++ rest) :
    ∃ after settled,
      bytes source = (.error (.tooLong (Int32.ofNat value.length) (.ofNat source.limit)), after) ∧
      skipOwed after = (.ok value.length, settled) ∧ after.owed = value.length ∧
      ({ source with owed := 0 } : Source).Past (Field.bytes (some value)).encode 1 settled := by
  rw [Field.encode_bytes, List.append_assoc] at h
  rw [Field.encode_bytes]
  obtain ⟨middle, hlength, past⟩ := @takeLength_of_pending source _ (some value) small h
  have hlimit : middle.limit < value.length := past.limit.symm ▸ long
  have hrefused : takeAcceptedLength source =
      (.error (.tooLong (Int32.ofNat value.length) (.ofNat middle.limit)),
        { middle with owed := value.length }.countField) :=
    (Decoder.bind_of_ok hlength).trans (if_pos hlimit)
  have hpending : ({ middle with owed := 0 }.countField : Source).pending = value ++ rest :=
    past.pending_eq h
  obtain ⟨settled, hdropped, further⟩ := dropBytes_of_pending hpending
  refine ⟨{ middle with owed := value.length }.countField, settled, ?_, skipOwed_of_dropped hdropped, rfl,
    ?_⟩
  · rw [← past.limit]
    exact Decoder.bind_of_error hrefused
  · have cleared : ({ source with owed := 0 } : Source).Past (mark (some value)) 0
        ({ middle with owed := 0 } : Source) := { past with owed := rfl }
    have whole := (cleared.trans (.countField _)).trans further
    rwa [List.append_nil] at whole

/-- A byte string above the limit is refused if nothing was owed before. -/
theorem bytes_of_refused {value : Bytes} (small : value.length < 2 ^ 31)
    (refused : source.limit < value.length) (nothingOwed : source.owed = 0)
    (h : source.pending = (Field.bytes (some value)).encode ++ rest) :
    ∃ error after settled, bytes source = (.error error, after) ∧ error ≠ .closed ∧
      skipOwed after = (.ok after.owed, settled) ∧
      source.Past (Field.bytes (some value)).encode 1 settled := by
  obtain ⟨after, settled, hread, hskipped, howed, past⟩ := bytes_of_long small refused h
  have hsource : ({ source with owed := 0 } : Source) = source := by
    rw [← nothingOwed]
  exact ⟨_, after, settled, hread, nofun, howed.symm ▸ hskipped, hsource ▸ past⟩

/-- A byte string is read as what was written. -/
theorem reads_bytes (small : (value.getD []).length < 2 ^ 31)
    (accepted : (value.getD []).length ≤ limit) : bytes.Reads limit [.bytes value] value := by
  intro source hlimit hfront
  rw [encode_singleton] at hfront ⊢
  obtain ⟨rest, hrest⟩ := hfront
  exact bytes_of_accepted small (hlimit.symm ▸ accepted) hrest.symm

/-- A text is read as what was written. -/
theorem reads_text {value : Option String}
    (small : ((value.map Bytes.ofText).getD []).length < 2 ^ 31)
    (accepted : ((value.map Bytes.ofText).getD []).length ≤ limit) :
    text.Reads limit [.text value] value := by
  have hbytes : bytes.Reads limit [.text value] (value.map Bytes.ofText) := reads_bytes small accepted
  refine hbytes.map ?_
  cases value with
  | none => rfl
  | some value => simp only [Option.map_some, Bytes.toText?_ofText]

/-- What has to be there is read if it is there. -/
theorem reads_required {α : Type} {what : String} {decoder : Decoder (Option α)} {fields : List Field}
    {value : α} (h : decoder.Reads limit fields (some value)) :
    (required what decoder).Reads limit fields value :=
  h.map rfl

/-- A byte string of any length is dropped. -/
theorem reads_skipBytes (small : (value.getD []).length < 2 ^ 31) :
    skipBytes.Reads limit [.bytes value] () := by
  intro source hlimit hfront
  rw [encode_singleton, Field.encode_bytes] at hfront ⊢
  obtain ⟨rest, hrest⟩ := hfront
  rw [List.append_assoc] at hrest
  obtain ⟨middle, hlength, past⟩ := takeLength_of_pending small hrest.symm
  cases value with
  | none => exact ⟨middle.countField, Decoder.bind_of_ok hlength, past.trans (.countField middle)⟩
  | some value =>
    obtain ⟨after, hdropped, further⟩ := dropBytes_of_pending (past.pending_eq hrest.symm)
    refine ⟨after.countField,
      (Decoder.bind_of_ok hlength).trans (Decoder.bind_of_ok hdropped), ?_⟩
    have counted := (past.trans further).trans (.countField after)
    rwa [List.append_nil] at counted

end Bytes

end Source

end RecordBase.Wire
