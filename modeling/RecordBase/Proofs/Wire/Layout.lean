import Mathlib.Data.List.Forall2
import RecordBase.Proofs.Wire.Source
import RecordBase.Wire.Request

/-!
# The layouts of requests

The operands of a request are fields of the kinds that its layout lists (`Opcode.Frames`). Whatever
these fields hold, reading a request takes them: if it stops in between, what it has counted and what
it owes tell where (`Decoder.Consumes`).

* `Request.consumes_decode`: this is so for every kind of request with such a layout.
-/

namespace RecordBase.Wire

/-! ## Layouts -/

/-- A field is an operand of a kind. A text is sent as a byte string, so any byte string can be in its
place. -/
def OperandKind.Frames : OperandKind → Field → Prop
  | .byte, .byte _ | .short, .short _ | .int, .int _ | .long, .long _ => True
  | .string, .bytes value | .bytes, .bytes value => (value.getD []).length < 2 ^ 31
  | _, _ => False

/-- Some fields are the operands of a kind of request. -/
def Opcode.Frames : Opcode → List Field → Prop
  | .countClusters, fields =>
    ∃ ids : List Int16, ids.length < 2 ^ 15 ∧
      fields = .short (Int16.ofNat ids.length) :: ids.map .short
  | opcode, fields => List.Forall₂ OperandKind.Frames (opcode.operands.map Operand.kind) fields

theorem Opcode.frames_iff {opcode : Opcode} (h : opcode ≠ .countClusters) (fields : List Field) :
    opcode.Frames fields ↔
      List.Forall₂ OperandKind.Frames (opcode.operands.map Operand.kind) fields := by
  cases opcode <;> first | rfl | exact absurd rfl h

/-! ## Readers that stop in between -/

theorem Source.skipOwed_of_nothing {source : Source} (h : source.owed = 0) :
    ∃ settled, skipOwed source = (.ok source.owed, settled) ∧ source.Past [] 0 settled := by
  have hpending : ({ source with owed := 0 } : Source).pending = [] ++ source.pending := rfl
  obtain ⟨settled, hdropped, past⟩ := dropBytes_of_pending hpending
  refine ⟨settled, ?_, { past with owed := past.owed.trans h.symm }⟩
  rw [skipOwed, h]
  rw [List.length_nil] at hdropped
  simp only [hdropped]

namespace Decoder

variable {α β : Type} {fields others : List Field} {decoder : Decoder α} {next : α → Decoder β}
  {source middle : Source} {value : α}

/-- A reader takes some fields of a source, or it stops for another reason than the end of the
connection. Dropping what it owes then leaves it behind the last field that it has counted. -/
def ConsumesFrom (decoder : Decoder α) (source : Source) (fields : List Field) : Prop :=
  (∃ value after, decoder source = (.ok value, after) ∧
    source.Past (encode fields) fields.length after) ∨
  ∃ error after count settled, decoder source = (.error error, after) ∧ error ≠ .closed ∧
    count ≤ fields.length ∧ Source.skipOwed after = (.ok after.owed, settled) ∧
    source.Past (encode (fields.take count)) count settled

/-- Wherever some fields come first, a reader takes them or stops between them. -/
def Consumes (decoder : Decoder α) (fields : List Field) : Prop :=
  ∀ source : Source, source.owed = 0 → encode fields <+: source.pending →
    decoder.ConsumesFrom source fields

theorem Consumes.pure (value : α) : (Pure.pure value : Decoder α).Consumes [] :=
  fun source _ _ => .inl ⟨value, source, rfl, .refl source⟩

theorem Consumes.fail {error : WireError} (h : error ≠ .closed) :
    (Decoder.fail error : Decoder α).Consumes [] := fun source howed _ =>
  have ⟨settled, hskipped, past⟩ := Source.skipOwed_of_nothing howed
  .inr ⟨error, source, 0, settled, rfl, h, Nat.le_refl 0, hskipped, past⟩

/-- After a reader that has found something, the next one reads on. -/
theorem ConsumesFrom.bind_of_ok (hfirst : decoder source = (.ok value, middle))
    (past : source.Past (encode fields) fields.length middle)
    (second : (next value).ConsumesFrom middle others) :
    (decoder >>= next).ConsumesFrom source (fields ++ others) := by
  rcases second with ⟨result, after, hsecond, further⟩ |
    ⟨error, after, count, settled, hsecond, hopen, hcount, hskipped, further⟩
  · refine .inl ⟨result, after, (Decoder.bind_of_ok hfirst).trans hsecond, ?_⟩
    rw [encode_append, List.length_append]
    exact past.trans further
  · refine .inr ⟨error, after, fields.length + count, settled,
      (Decoder.bind_of_ok hfirst).trans hsecond, hopen, ?_, hskipped, ?_⟩
    · rw [List.length_append]
      exact Nat.add_le_add_left hcount _
    · rw [List.take_length_add_append, encode_append]
      exact past.trans further

theorem Consumes.bind (first : decoder.Consumes fields)
    (second : ∀ value, (next value).Consumes others) :
    (decoder >>= next).Consumes (fields ++ others) := by
  intro source howed hfront
  obtain ⟨rest, hrest⟩ := hfront
  rw [encode_append, List.append_assoc] at hrest
  rcases first source howed ⟨_, hrest⟩ with ⟨value, middle, hfirst, past⟩ |
    ⟨error, after, count, settled, hfirst, hopen, hcount, hskipped, past⟩
  · exact .bind_of_ok hfirst past
      (second value middle (past.owed.trans howed) ⟨rest, (past.pending_eq hrest.symm).symm⟩)
  · refine .inr ⟨error, after, count, settled, bind_of_error hfirst, hopen, ?_, hskipped, ?_⟩
    · rw [List.length_append]
      exact Nat.le_add_right_of_le hcount
    · rwa [List.take_append_of_le_length hcount]

/-- What is read is looked at. -/
theorem Consumes.look (first : decoder.Consumes fields) (second : ∀ value, (next value).Consumes []) :
    (decoder >>= next).Consumes fields := by
  have h := first.bind second
  rwa [List.append_nil] at h

/-- A reader that finds something in some fields, whatever the limit, takes them. -/
theorem consumes_of_reads (h : ∀ limit, decoder.Reads limit fields value) :
    decoder.Consumes fields := fun source _ hfront =>
  have ⟨after, hread, past⟩ := h source.limit source rfl hfront
  .inl ⟨value, after, hread, past⟩

/-- A reader takes whatever operands there are of some kinds. -/
def Follows (decoder : Decoder α) (kinds : List OperandKind) : Prop :=
  ∀ fields, List.Forall₂ OperandKind.Frames kinds fields → decoder.Consumes fields

variable {kinds further : List OperandKind}

theorem Follows.pure (value : α) : (Pure.pure value : Decoder α).Follows [] := by
  rintro _ ⟨⟩
  exact .pure value

theorem Follows.bind (first : decoder.Follows kinds) (second : ∀ value, (next value).Follows further) :
    (decoder >>= next).Follows (kinds ++ further) := by
  intro fields framed
  have htaken := List.forall₂_take kinds.length framed
  have hleft := List.forall₂_drop kinds.length framed
  rw [List.take_left] at htaken
  rw [List.drop_left] at hleft
  rw [← List.take_append_drop kinds.length fields]
  exact (first _ htaken).bind fun value => second value _ hleft

theorem Follows.fail {error : WireError} (h : error ≠ .closed) :
    (Decoder.fail error : Decoder α).Follows [] := by
  rintro _ ⟨⟩
  exact .fail h

/-- What is read is looked at. -/
theorem Follows.look (first : decoder.Follows kinds) (second : ∀ value, (next value).Follows []) :
    (decoder >>= next).Follows kinds := by
  have h := first.bind second
  rwa [List.append_nil] at h

theorem follows_of_consumes {kind : OperandKind}
    (h : ∀ field, kind.Frames field → decoder.Consumes [field]) : decoder.Follows [kind] := by
  rintro _ (_ | @⟨_, field, _, _, framed, ⟨⟩⟩)
  exact h field framed

/-- An operand of one kind is read and then others. -/
theorem Follows.cons {kind : OperandKind} (first : decoder.Follows [kind])
    (second : ∀ value, (next value).Follows kinds) : (decoder >>= next).Follows (kind :: kinds) :=
  first.bind second

/-- Whatever a reader finds has a property. -/
def Yields (decoder : Decoder α) (property : α → Prop) : Prop :=
  ∀ source value after, decoder source = (.ok value, after) → property value

variable {property : β → Prop}

theorem Yields.pure {result : β} (h : property result) : (Pure.pure result : Decoder β).Yields property := by
  rintro source _ _ ⟨⟩
  exact h

theorem Yields.bind (h : ∀ value, (next value).Yields property) :
    (decoder >>= next).Yields property := by
  intro source result after hread
  rcases hfirst : decoder source with ⟨error | value, middle⟩
  · rw [bind_of_error hfirst] at hread
    cases hread
  · rw [Decoder.bind_of_ok hfirst] at hread
    exact h value middle result after hread

/-- Wherever a reader stops, dropping what it owes leaves it behind the last field that it has
counted. -/
theorem ConsumesFrom.settles (h : decoder.ConsumesFrom source fields) (howed : source.owed = 0) :
    ∃ count settled, count ≤ fields.length ∧
      Source.skipOwed (decoder source).2 = (.ok (decoder source).2.owed, settled) ∧
      source.Past (encode (fields.take count)) count settled := by
  rcases h with ⟨value, after, hread, past⟩ |
    ⟨error, after, count, settled, hread, -, hcount, hskipped, past⟩
  · obtain ⟨settled, hskipped, nothing⟩ := Source.skipOwed_of_nothing (past.owed.trans howed)
    refine ⟨fields.length, settled, Nat.le_refl _, by rw [hread]; exact hskipped, ?_⟩
    rw [List.take_length]
    have whole := past.trans nothing
    rwa [List.append_nil] at whole
  · exact ⟨count, settled, hcount, by rw [hread]; exact hskipped, past⟩

end Decoder

namespace Source

open Decoder (Consumes Follows)

variable {value : Option Bytes}

theorem consumes_byte (value : UInt8) : (word UInt8).Consumes [.byte value] :=
  Decoder.consumes_of_reads fun _ => reads_byte value

theorem consumes_short (value : Int16) : (word Int16).Consumes [.short value] :=
  Decoder.consumes_of_reads fun _ => reads_short value

theorem consumes_bytes (small : (value.getD []).length < 2 ^ 31) : bytes.Consumes [.bytes value] := by
  intro source howed hfront
  by_cases haccepted : (value.getD []).length ≤ source.limit
  · obtain ⟨after, hread, past⟩ := reads_bytes small haccepted source rfl hfront
    exact .inl ⟨value, after, hread, past⟩
  · cases value with
    | none => exact absurd (Nat.zero_le _) haccepted
    | some value =>
      obtain ⟨rest, hrest⟩ := hfront
      rw [encode_singleton] at hrest
      obtain ⟨error, after, settled, hread, hopen, hskipped, past⟩ :=
        bytes_of_refused small (Nat.lt_of_not_le haccepted) howed hrest.symm
      refine .inr ⟨error, after, 1, settled, hread, hopen, Nat.le_refl 1, hskipped, ?_⟩
      rwa [List.take_one, List.head?_cons, Option.toList_some, encode_singleton]

theorem consumes_text (small : (value.getD []).length < 2 ^ 31) : text.Consumes [.bytes value] :=
  (consumes_bytes small).look fun value => by
    cases value with
    | none => exact .pure none
    | some value =>
      cases htext : Bytes.toText? value with
      | none =>
        simp only [htext]
        exact .fail nofun
      | some text =>
        simp only [htext]
        exact .pure (some text)

theorem consumes_required {α : Type} {what : String} {decoder : Decoder (Option α)}
    {fields : List Field} (h : decoder.Consumes fields) : (required what decoder).Consumes fields :=
  h.look fun value => by
    cases value with
    | none => exact .fail nofun
    | some value => exact .pure value

/-! ### Operands -/

theorem follows_byte : (word UInt8).Follows [.byte] :=
  Decoder.follows_of_consumes fun
    | .byte value, _ => consumes_byte value

theorem follows_short : (word Int16).Follows [.short] :=
  Decoder.follows_of_consumes fun
    | .short value, _ => consumes_short value

theorem follows_int : (word Int32).Follows [.int] :=
  Decoder.follows_of_consumes fun
    | .int value, _ => Decoder.consumes_of_reads fun _ => reads_int value

theorem follows_long : (word Int64).Follows [.long] :=
  Decoder.follows_of_consumes fun
    | .long value, _ => Decoder.consumes_of_reads fun _ => reads_long value

theorem follows_recordType : recordType.Follows [.byte] :=
  follows_byte.look fun tag => by
    cases RecordType.ofTag? tag with
    | none => exact .fail nofun
    | some type => exact .pure type

theorem follows_text : text.Follows [.string] :=
  Decoder.follows_of_consumes fun
    | .bytes _, small => consumes_text small

theorem follows_bytes : bytes.Follows [.bytes] :=
  Decoder.follows_of_consumes fun
    | .bytes _, small => consumes_bytes small

theorem follows_identity : identity.Follows [.short, .long] :=
  follows_short.cons fun _ => follows_long.cons fun _ => .pure _

theorem follows_requiredText (what : String) : (requiredText what).Follows [.string] :=
  fun fields framed => consumes_required (follows_text fields framed)

theorem follows_requiredBytes (what : String) : (requiredBytes what).Follows [.bytes] :=
  fun fields framed => consumes_required (follows_bytes fields framed)

end Source

/-! ## Requests -/

namespace Request

open Source
open Decoder (Follows)

theorem toInt_ofNat_count {count : Nat} (h : count < 2 ^ 15) :
    (Int16.ofNat count).toInt = count :=
  Int16.toInt_ofNat_of_lt h

/-- The ids of clusters are read as they were written. -/
theorem reads_clusterIds {ids : List Int16} (h : ids.length < 2 ^ 15) {limit : Nat} :
    clusterIds.Reads limit (.short (Int16.ofNat ids.length) :: ids.map .short) ids := by
  have hnatural : ¬ Int16.ofNat ids.length < 0 := fun hlt => by
    have := Int16.lt_iff_toInt_lt.1 hlt
    rw [toInt_ofNat_count h] at this
    exact absurd this (by show ¬ (ids.length : Int) < 0; omega)
  refine Decoder.Reads.bind (reads_short _) ?_
  rw [if_neg hnatural, toInt_ofNat_count h, List.map_eq_flatMap]
  exact .repeated fun id _ => reads_short id

/-- The ids of clusters are all there is to a request for their counts. -/
theorem reads_decode_countClusters [Codec] {ids : List Int16} (h : ids.length < 2 ^ 15) {limit : Nat} :
    (decode .countClusters).Reads limit (.short (Int16.ofNat ids.length) :: ids.map .short)
      (.countClusters ids) :=
  (reads_clusterIds h).map rfl

theorem follows_commandOperand [Codec] : commandOperand.Follows [.bytes] :=
  (follows_requiredBytes _).look fun payload => by
    cases Codec.decodeCommand? payload with
    | none => exact .fail nofun
    | some request => exact .pure request

/-- Reading a request takes the operands of its layout, whatever they hold. -/
theorem consumes_decode [Codec] {opcode : Opcode} {fields : List Field} (framed : opcode.Frames fields) :
    (decode opcode).Consumes fields := by
  cases opcode with
  | countClusters =>
    obtain ⟨ids, hcount, rfl⟩ := framed
    exact Decoder.consumes_of_reads fun _ => reads_decode_countClusters hcount
  | commit =>
    obtain _ | ⟨_, _ | ⟨_, _ | ⟨hentries, _⟩⟩⟩ := framed
    exact hentries.elim
  | connect =>
    exact (Follows.cons (follows_requiredText _) fun _ =>
      .cons (follows_requiredText _) fun _ => .pure _) fields framed
  | openDatabase =>
    exact (Follows.cons (follows_requiredText _) fun _ => .cons (follows_requiredText _) fun _ =>
      .cons (follows_requiredText _) fun _ => .pure _) fields framed
  | createDatabase =>
    exact (Follows.cons (follows_requiredText _) fun _ =>
      .cons (follows_requiredText _) fun _ => .pure _) fields framed
  | closeDatabase | databaseExists | countKeys | listKeys => exact Follows.pure _ fields framed
  | addPhysicalCluster =>
    exact (Follows.cons (follows_requiredText _) fun _ => .cons follows_text fun _ =>
      .cons follows_int fun _ => .pure _) fields framed
  | addLogicalCluster =>
    exact (Follows.cons (follows_requiredText _) fun _ =>
      .cons follows_int fun _ => .pure _) fields framed
  | loadRecord => exact (follows_identity.look fun _ => .pure _) fields framed
  | createRecord =>
    exact (follows_short.cons fun _ => .cons (follows_requiredBytes _) fun _ =>
      .cons follows_recordType fun _ => .pure _) fields framed
  | updateRecord =>
    exact (follows_identity.bind fun _ => .cons (follows_requiredBytes _) fun _ =>
      .cons follows_int fun _ => .cons follows_recordType fun _ => .pure _) fields framed
  | deleteRecord =>
    exact (follows_identity.bind fun _ => .cons follows_int fun _ => .pure _) fields framed
  | countNamed | lookupKey | unbindKey =>
    exact ((follows_requiredText _).look fun _ => .pure _) fields framed
  | command =>
    exact (follows_byte.cons fun _ => .cons follows_commandOperand fun _ => .pure _) fields framed
  | bindKey =>
    exact (Follows.cons (follows_requiredText _) fun _ => .cons follows_recordType fun _ =>
      .cons (follows_requiredText _) fun _ => .pure _) fields framed

/-- What is read as a request of some kind is one of that kind. -/
theorem opcode_of_decode [Codec] (opcode : Opcode) : (decode opcode).Yields (·.opcode = opcode) := by
  cases opcode with
  | closeDatabase | databaseExists | countKeys | listKeys => exact .pure rfl
  | countClusters | loadRecord | countNamed | lookupKey | unbindKey =>
    exact .bind fun _ => .pure rfl
  | connect | createDatabase | addLogicalCluster | deleteRecord | command =>
    exact .bind fun _ => .bind fun _ => .pure rfl
  | openDatabase | addPhysicalCluster | createRecord | bindKey =>
    exact .bind fun _ => .bind fun _ => .bind fun _ => .pure rfl
  | updateRecord => exact .bind fun _ => .bind fun _ => .bind fun _ => .bind fun _ => .pure rfl
  | commit =>
    refine .bind fun reader => ?_
    rintro source _ _ ⟨⟩
    rfl

end Request

end RecordBase.Wire
