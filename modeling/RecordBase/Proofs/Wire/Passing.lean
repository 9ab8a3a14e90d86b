import RecordBase.Proofs.Wire.Calls
import RecordBase.Proofs.Wire.Sink

/-!
# Getting past fields

Fields that were written one after another are read back by readers of their kinds, whatever follows them.
A byte string or a text need not be read: it can be skipped, and one that is too long for the reader is
refused, after which what is owed of it is dropped (`FieldKind.pass`). Each way leaves the reader behind the
field, with one field more counted.

* `Field.passes`: getting past one field, in any of these ways;
* `fields_delimit_themselves`: so any mixture of them gets past a list of fields and no further.
-/

namespace RecordBase.Wire

/-! ## Fields of a kind -/

/-- What kind of value a field holds. -/
inductive FieldKind where
  | byte
  | short
  | int
  | long
  | bytes
  | text
  deriving DecidableEq, Repr

/-- The kind of a field. -/
def Field.kind : Field → FieldKind
  | byte _ => .byte
  | short _ => .short
  | int _ => .int
  | long _ => .long
  | bytes _ => .bytes
  | text _ => .text

namespace FieldKind

/-- Whether the fields of a kind start with a length. -/
def isCounted : FieldKind → Bool
  | bytes | text => true
  | _ => false

/-- Reads a field of a kind. -/
def read : FieldKind → Decoder Field
  | byte => do return .byte (← Source.word UInt8)
  | short => do return .short (← Source.word Int16)
  | int => do return .int (← Source.word Int32)
  | long => do return .long (← Source.word Int64)
  | bytes => do return .bytes (← Source.bytes)
  | text => do return .text (← Source.text)

/-- Reads fields of some kinds, one after another. -/
def readAll : List FieldKind → Decoder (List Field)
  | [] => return []
  | kind :: rest => do
    let field ← kind.read
    let others ← readAll rest
    return field :: others

end FieldKind

theorem Field.within_iff {field : Field} {limit : Nat} :
    field.Within limit ↔ field.size < 2 ^ 31 ∧ field.size ≤ limit := by
  cases field with
  | bytes value | text value => exact Iff.rfl
  | _ => exact iff_of_true trivial ⟨Nat.two_pow_pos 31, Nat.zero_le _⟩

namespace FieldKind

open Decoder (Reads)

variable {limit : Nat}

/-- A field is read as what was written. -/
theorem reads_field {field : Field} (within : field.Within limit) :
    field.kind.read.Reads limit [field] field := by
  cases field with
  | byte value => exact (Source.reads_byte value).map rfl
  | short value => exact (Source.reads_short value).map rfl
  | int value => exact (Source.reads_int value).map rfl
  | long value => exact (Source.reads_long value).map rfl
  | bytes value => exact (Source.reads_bytes within.1 within.2).map rfl
  | text value => exact (Source.reads_text within.1 within.2).map rfl

/-- Fields are read one after another. -/
theorem reads_fields {fields : List Field} (within : AllWithin limit fields) :
    (readAll (fields.map Field.kind)).Reads limit fields fields := by
  induction fields with
  | nil => exact .pure []
  | cons field rest ih =>
    obtain ⟨hfield, hrest⟩ := List.forall_mem_cons.1 within
    exact (reads_field hfield).bind ((ih hrest).map rfl)

end FieldKind

/-! ## Ways past a field -/

/-- What comes of getting past a field. -/
inductive Passage where
  /-- The field was read. -/
  | found (field : Field)
  /-- The field was skipped. -/
  | skipped
  /-- The field was refused, and so many bytes that were owed of it have been dropped. -/
  | refused (error : WireError) (dropped : Nat)
  deriving DecidableEq, Repr

namespace FieldKind

/-- Reads a field. If that fails, what is owed of the field is dropped. -/
def readOrDrop (kind : FieldKind) : Decoder Passage := fun source =>
  match kind.read source with
  | (.ok field, source) => (.ok (.found field), source)
  | (.error error, source) =>
    match Source.skipOwed source with
    | (.ok dropped, source) => (.ok (.refused error dropped), source)
    | (.error error, source) => (.error error, source)

/-- Gets past a field. One that starts with a length can be skipped. -/
def pass (skips : Bool) (kind : FieldKind) : Decoder Passage :=
  if skips && kind.isCounted then do
    Source.skipBytes
    return .skipped
  else kind.readOrDrop

/-- Gets past fields of some kinds, one after another. -/
def passAll : List (FieldKind × Bool) → Decoder (List Passage)
  | [] => return []
  | (kind, skips) :: rest => do
    let passage ← kind.pass skips
    let others ← passAll rest
    return passage :: others

end FieldKind

/-- What comes of getting past a field with a reader that accepts byte strings up to a limit. -/
def Field.passage (limit : Nat) (skips : Bool) (field : Field) : Passage :=
  if skips && field.kind.isCounted then .skipped
  else if field.size ≤ limit then .found field
  else .refused (.tooLong (Int32.ofNat field.size) (.ofNat limit)) field.size

/-- A source when some bytes have been passed and some fields counted, whatever may be owed. -/
structure Source.Passed (source : Source) (front : Bytes) (count : Nat) (after : Source) : Prop where
  pending : source.pending = front ++ after.pending
  taken : after.taken = source.taken.map (· + count)
  limit : after.limit = source.limit

namespace Source

variable {source after later : Source} {front other : Bytes} {count further : Nat}

theorem Past.passed (past : source.Past front count after) : source.Passed front count after :=
  ⟨past.pending, past.taken, past.limit⟩

theorem Passed.trans (first : source.Passed front count after)
    (second : after.Passed other further later) :
    source.Passed (front ++ other) (count + further) later where
  pending := by rw [first.pending, second.pending, List.append_assoc]
  taken := by
    rw [second.taken, first.taken, Option.map_map]
    congr 1
    funext taken
    exact Nat.add_assoc taken count further
  limit := second.limit.trans first.limit

end Source

namespace Field

variable {field : Field} {source : Source} {tail : Bytes}

/-- A field that starts with a length stands there as a byte string. -/
theorem encode_of_isCounted (counted : field.kind.isCounted = true) :
    ∃ value : Option Bytes, field.encode = (Field.bytes value).encode ∧
      field.size = (value.getD []).length := by
  cases field with
  | bytes value => exact ⟨value, rfl, rfl⟩
  | text value => exact ⟨value.map Bytes.ofText, rfl, rfl⟩
  | _ => cases counted

/-- Only a field that starts with a length has a size. -/
theorem isCounted_of_size (h : 0 < field.size) : field.kind.isCounted = true := by
  cases field with
  | bytes | text => rfl
  | _ => exact absurd h (Nat.lt_irrefl 0)

/-- A failure of the reader of byte strings is one of the reader of a field. -/
theorem read_of_error {error : WireError} {after : Source} (counted : field.kind.isCounted = true)
    (h : Source.bytes source = (.error error, after)) : field.kind.read source = (.error error, after) := by
  cases field with
  | bytes value => exact Decoder.bind_of_error h
  | text value => exact Decoder.bind_of_error (Decoder.bind_of_error h)
  | _ => cases counted

/-- A field that is too long is refused, and what is owed of it dropped. -/
theorem readOrDrop_of_long (small : field.size < 2 ^ 31) (long : source.limit < field.size)
    (h : source.pending = field.encode ++ tail) :
    ∃ after, field.kind.readOrDrop source =
        (.ok (.refused (.tooLong (Int32.ofNat field.size) (.ofNat source.limit)) field.size), after) ∧
      source.Passed field.encode 1 after := by
  have hcounted := isCounted_of_size (Nat.zero_lt_of_lt long)
  obtain ⟨_ | value, hencode, hsize⟩ := encode_of_isCounted hcounted
  · rw [hsize] at long
    exact absurd long (Nat.not_lt_zero _)
  · rw [hencode] at h ⊢
    rw [hsize] at small long ⊢
    obtain ⟨refusing, after, hread, hskipped, -, past⟩ := Source.bytes_of_long small long h
    refine ⟨after, ?_, past.pending, past.taken, past.limit⟩
    simp only [FieldKind.readOrDrop, read_of_error hcounted hread, hskipped]

/-- Getting past a field, in any of the ways. -/
theorem passes (skips : Bool) (small : field.size < 2 ^ 31)
    (h : source.pending = field.encode ++ tail) :
    ∃ after, field.kind.pass skips source = (.ok (field.passage source.limit skips), after) ∧
      source.Passed field.encode 1 after := by
  unfold FieldKind.pass passage
  by_cases hskips : (skips && field.kind.isCounted) = true
  · rw [if_pos hskips, if_pos hskips]
    obtain ⟨value, hencode, hsize⟩ := encode_of_isCounted (Bool.and_eq_true_iff.1 hskips).2
    rw [hencode] at h ⊢
    obtain ⟨after, hskipped, past⟩ := Source.reads_skipBytes (hsize ▸ small) source rfl
      ⟨tail, (encode_singleton _ ▸ h).symm⟩
    rw [encode_singleton] at past
    exact ⟨after, Decoder.bind_of_ok hskipped, past.passed⟩
  · rw [if_neg hskips, if_neg hskips]
    by_cases hlong : field.size ≤ source.limit
    · rw [if_pos hlong]
      obtain ⟨after, hread, past⟩ := FieldKind.reads_field (within_iff.2 ⟨small, hlong⟩) source rfl
        ⟨tail, (encode_singleton field ▸ h).symm⟩
      rw [encode_singleton] at past
      refine ⟨after, ?_, past.passed⟩
      rw [FieldKind.readOrDrop, hread]
    · rw [if_neg hlong]
      exact readOrDrop_of_long small (Nat.lt_of_not_le hlong) h

end Field

/-- Getting past fields one after another, each in any of the ways. -/
theorem passes_all {steps : List (Field × Bool)} {source : Source} {tail : Bytes}
    (small : ∀ step ∈ steps, step.1.size < 2 ^ 31)
    (h : source.pending = encode (steps.map Prod.fst) ++ tail) :
    ∃ after, FieldKind.passAll (steps.map fun step => (step.1.kind, step.2)) source =
        (.ok (steps.map fun step => step.1.passage source.limit step.2), after) ∧
      source.Passed (encode (steps.map Prod.fst)) steps.length after := by
  induction steps generalizing source with
  | nil => exact ⟨source, rfl, (Source.Past.refl source).passed⟩
  | cons step rest ih =>
    obtain ⟨hstep, hrest⟩ := List.forall_mem_cons.1 small
    rw [List.map_cons, encode_cons, List.append_assoc] at h
    obtain ⟨middle, hpass, passed⟩ := step.1.passes step.2 hstep h
    obtain ⟨after, hall, further⟩ := ih hrest (List.append_cancel_left (passed.pending.symm.trans h))
    refine ⟨after, ?_, ?_⟩
    · rw [passed.limit] at hall
      exact (Decoder.bind_of_ok hpass).trans (Decoder.bind_of_ok hall)
    · rw [List.map_cons, encode_cons, List.length_cons, Nat.add_comm]
      exact passed.trans further

/-! ## What was sent -/

/-- The bytes that a transport that works has taken when some fields have been sent and flushed. -/
def transmit (fields : List Field) : Except WireError Bytes :=
  match ({ source := { arrived := [] } } : Channel).send { fields } with
  | (.error error, _) => .error error
  | (.ok (), channel) => channel.sink.flush.1.map fun () => channel.sink.flush.2.sent

theorem transmit_eq {fields : List Field} (h : ∀ field ∈ fields, field.Sendable) :
    transmit fields = .ok (encode fields) := by
  obtain ⟨sink, hsent, hwritten, hworks⟩ :=
    @Channel.send_of_sendable { source := { arrived := [] } } rfl fields h
  simp only [transmit, hsent, Sink.flush_of_works hworks, hwritten]
  rfl

/-- Whatever follows the bytes of some fields, readers of their kinds find what was written, provided that
no byte string is too long for them: they take just these bytes and count each field. If some byte strings
and texts are skipped instead, and those that are too long refused and dropped, just these bytes are taken
all the same, and as many fields counted. -/
theorem fields_delimit_themselves {fields : List Field} (small : ∀ field ∈ fields, field.size < 2 ^ 31) :
    ∃ bytes, transmit fields = .ok bytes ∧
      ∀ (source : Source) (tail : Bytes), source.pending = bytes ++ tail →
        ((∀ field ∈ fields, field.size ≤ source.limit) →
          ∃ after, FieldKind.readAll (fields.map Field.kind) source = (.ok fields, after) ∧
            after.pending = tail ∧ after.taken = source.taken.map (· + fields.length)) ∧
        ∀ skips : List Bool, skips.length = fields.length →
          ∃ after, FieldKind.passAll ((fields.zip skips).map fun step => (step.1.kind, step.2)) source =
              (.ok ((fields.zip skips).map fun step => step.1.passage source.limit step.2), after) ∧
            after.pending = tail ∧ after.taken = source.taken.map (· + fields.length) := by
  have sendable : ∀ field ∈ fields, field.Sendable := fun field hfield =>
    Nat.le_of_lt_succ (small field hfield)
  refine ⟨encode fields, transmit_eq sendable, fun source tail h => ⟨fun within => ?_, fun skips same => ?_⟩⟩
  · have accepted : AllWithin source.limit fields := fun field hfield =>
      Field.within_iff.2 ⟨small field hfield, within field hfield⟩
    obtain ⟨after, hread, past⟩ := FieldKind.reads_fields accepted source rfl ⟨tail, h.symm⟩
    exact ⟨after, hread, past.pending_eq h, past.taken⟩
  · have hfields : (fields.zip skips).map Prod.fst = fields := List.map_fst_zip (Nat.le_of_eq same.symm)
    obtain ⟨after, hpassed, passed⟩ := @passes_all (fields.zip skips) source tail
      (fun step hstep => small step.1 (List.of_mem_zip hstep).1) (hfields.symm ▸ h)
    rw [hfields, List.length_zip, same, Nat.min_self] at passed
    exact ⟨after, hpassed, List.append_cancel_left (passed.pending.symm.trans h), passed.taken⟩

/-- A number, nothing, an empty byte string, a text of two bytes and a number. -/
def nulls : List Field := [.byte 7, .bytes none, .bytes (some []), .text (some "é"), .long (-1)]

/-- Nothing and an empty byte string are kept apart. Where only one byte is accepted, the text is refused
and dropped. -/
theorem fields_delimit_themselves_of_nulls :
    (∃ after, FieldKind.readAll [.byte, .bytes, .bytes, .text, .long]
        (Source.ofBytes (encode nulls ++ [9]) 2) = (.ok nulls, after) ∧
      after.pending = [9] ∧ after.taken = some 5) ∧
    ∃ after, FieldKind.passAll
        [(.byte, true), (.bytes, true), (.bytes, false), (.text, false), (.long, false)]
        (Source.ofBytes (encode nulls ++ [9]) 1) =
      (.ok [.found (.byte 7), .skipped, .found (.bytes (some [])), .refused (.tooLong 2 1) 2,
        .found (.long (-1))], after) ∧
      after.pending = [9] ∧ after.taken = some 5 := by
  have small : ∀ field ∈ nulls, field.size < 2 ^ 31 := by decide
  obtain ⟨bytes, hbytes, passes⟩ := fields_delimit_themselves small
  obtain rfl : encode nulls = bytes := Except.ok.inj ((transmit_eq (by decide)).symm.trans hbytes)
  have hwide := passes (Source.ofBytes (encode nulls ++ [9]) 2) [9] (List.append_nil _)
  have hnarrow := passes (Source.ofBytes (encode nulls ++ [9]) 1) [9] (List.append_nil _)
  exact ⟨hwide.1 (by decide), hnarrow.2 [true, true, false, false, false] rfl⟩

end RecordBase.Wire
