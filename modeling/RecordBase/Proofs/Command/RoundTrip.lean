import RecordBase.Cbor.Command
import RecordBase.Proofs.Cbor.RoundTrip

/-!
# Commands and values as they arrive

In the format of data items a command is read as what was written (`CommandRequest.decode?_encode`), and so
are the values that commands give: whole numbers, and lists of texts and of identities
(`CommandValue.decode?_encode`). So clients and servers may rely on it (`Cbor.lawful`).
-/

namespace RecordBase

open Cbor (Head Decoder)
open Cbor.Decoder (Takes)

/-- A text whose length fits in a head. -/
def FitsHead (text : String) : Prop := (Bytes.ofText text).length < 2 ^ 64

theorem takes_textItem {text : String} (h : FitsHead text) : Decoder.text.Takes (textItem text) text :=
  Decoder.takes_text h

/-! ## Commands -/

theorem takes_entryText {text : String} (h : FitsHead text) :
    CommandEntry.decode.Takes (textItem "text" ++ textItem text) (.text text) := by
  refine (Decoder.takes_key (by decide)).bind ?_
  rw [if_pos rfl]
  exact (takes_textItem h).map rfl

theorem takes_entryLimit (limit : Int32) :
    CommandEntry.decode.Takes (textItem "limit" ++ (Head.ofInt limit.toInt).encode)
      (.limit limit) := by
  refine (Decoder.takes_key (by decide)).bind ?_
  rw [if_neg (by decide), if_pos rfl]
  have hleast := limit.le_toInt
  have hgreatest := limit.toInt_lt
  refine (Decoder.takes_integerWithin (by omega) (by omega) (by omega)).map ?_
  rw [Int32.ofInt_toInt]

/-- A command is read as what was written. -/
theorem CommandRequest.decode?_encode {request : CommandRequest}
    (small : request.encode.length < 2 ^ 64) : decode? request.encode = some request := by
  have h : FitsHead request.text := by
    simp only [encode, textItem, List.length_append] at small
    rw [FitsHead]
    omega
  have hone : (Decoder.repeated CommandEntry.decode 1).Takes
      (textItem "limit" ++ (Head.ofInt request.limit.toInt).encode) [.limit request.limit] :=
    (takes_entryLimit request.limit).map rfl
  have hentries : (Decoder.items CommandEntry.decode (some 2)).Takes
      (textItem "text" ++ textItem request.text ++
        (textItem "limit" ++ (Head.ofInt request.limit.toInt).encode))
      [.text request.text, .limit request.limit] := (takes_entryText h).bind (hone.map rfl)
  have htakes : decoder.Takes request.encode request := by
    have hencode : request.encode = (Head.map (some 2)).encode ++
        (textItem "text" ++ textItem request.text ++
          (textItem "limit" ++ (Head.ofInt request.limit.toInt).encode)) := by
      simp only [encode, List.append_assoc]
    rw [hencode]
    exact (Decoder.takes_mapHead (by omega)).bind (hentries.map rfl)
  have hread := htakes []
  rw [List.append_nil] at hread
  rw [decode?, hread]
  rfl

/-! ## Values -/

namespace CommandValue

theorem takes_variant {name : String} (h : (Bytes.ofText name).length ≤ Decoder.keyLimit) :
    variant.Takes (variantStart name) (Bytes.ofText name) :=
  (Decoder.takes_mapHead (by omega)).bind (Decoder.takes_key h)

theorem takes_integer (depth : Nat) (value : Int64) :
    (decoder (depth + 2)).Takes (integer value).encode (.integer value) := by
  have hencode : (integer value).encode = variantStart "Integer" ++ (Head.ofInt value.toInt).encode := by
    rw [encode]
  rw [hencode]
  refine (@takes_variant "Integer" (by decide)).bind ?_
  rw [if_neg (by decide), if_neg (by decide), if_pos rfl]
  have hleast := value.le_toInt
  have hgreatest := value.toInt_lt
  refine (Decoder.takes_integerWithin (by omega) (by omega) (by omega)).map ?_
  rw [Int64.ofInt_toInt]

theorem takes_text (depth : Nat) {value : String} (h : FitsHead value) :
    (decoder (depth + 2)).Takes (text value).encode (.text value) := by
  have hencode : (text value).encode = variantStart "Text" ++ textItem value := by rw [encode]
  rw [hencode]
  refine (@takes_variant "Text" (by decide)).bind ?_
  rw [if_neg (by decide), if_neg (by decide), if_neg (by decide), if_neg (by decide), if_pos rfl]
  exact (takes_textItem h).map rfl

theorem takes_identity (depth : Nat) {value : String} (h : FitsHead value) :
    (decoder (depth + 2)).Takes (identity value).encode (.identity value) := by
  have hencode : (identity value).encode = variantStart "Rid" ++ textItem value := by rw [encode]
  rw [hencode]
  refine (@takes_variant "Rid" (by decide)).bind ?_
  rw [if_neg (by decide), if_neg (by decide), if_neg (by decide), if_neg (by decide),
    if_neg (by decide), if_neg (by decide), if_neg (by decide), if_pos rfl]
  exact (takes_textItem h).map rfl

theorem encodeAll_eq_flatMap (values : List CommandValue) : encodeAll values = values.flatMap encode := by
  induction values with
  | nil => rw [encodeAll, List.flatMap_nil]
  | cons value rest ih => rw [encodeAll, ih, List.flatMap_cons]

theorem takes_list {depth : Nat} {values : List CommandValue} (hcount : values.length < 2 ^ 64)
    (h : ∀ value ∈ values, (decoder depth).Takes value.encode value) :
    (decoder (depth + 2)).Takes (list values).encode (.list values) := by
  have hencode : (list values).encode = variantStart "List" ++
      ((Head.array (some values.length)).encode ++ values.flatMap encode) := by
    rw [encode, encodeAll_eq_flatMap, List.append_assoc]
  rw [hencode]
  refine (@takes_variant "List" (by decide)).bind ?_
  rw [if_neg (by decide), if_neg (by decide), if_neg (by decide), if_neg (by decide),
    if_neg (by decide), if_neg (by decide), if_pos rfl]
  have harray : (arrayDecoder (depth + 1) (decoder depth)).Takes
      ((Head.array (some values.length)).encode ++ values.flatMap encode) values :=
    (Decoder.takes_arrayHead hcount).bind (Decoder.takes_items h)
  exact harray.map rfl

theorem length_variantStart (name : String) : 0 < (variantStart name).length :=
  List.length_pos_iff.2 nofun

theorem length_encode_text (value : String) :
    (Bytes.ofText value).length < (text value).encode.length := by
  have hstart := length_variantStart "Text"
  rw [encode, textItem, List.length_append, List.length_append]
  omega

theorem length_encode_identity (value : String) :
    (Bytes.ofText value).length < (identity value).encode.length := by
  have hstart := length_variantStart "Rid"
  rw [encode, textItem, List.length_append, List.length_append]
  omega

/-- Neither the items of a list nor their texts are longer than all of it. -/
theorem length_encode_list {write : String → CommandValue}
    (h : ∀ value, (Bytes.ofText value).length < (write value).encode.length) (values : List String) :
    values.length ≤ (list (values.map write)).encode.length ∧
      ∀ value ∈ values, (Bytes.ofText value).length ≤ (list (values.map write)).encode.length := by
  have hitems : values.length ≤ ((values.map write).flatMap encode).length ∧
      ∀ value ∈ values, (Bytes.ofText value).length ≤ ((values.map write).flatMap encode).length := by
    induction values with
    | nil => exact ⟨Nat.le_refl 0, nofun⟩
    | cons value rest ih =>
      have hvalue := h value
      rw [List.map_cons, List.flatMap_cons, List.length_append, List.length_cons]
      refine ⟨by omega, fun other hother => ?_⟩
      rcases List.mem_cons.1 hother with rfl | hrest
      · omega
      · have := ih.2 other hrest
        omega
  rw [encode, encodeAll_eq_flatMap, List.length_append]
  exact ⟨by omega, fun value hvalue => by have := hitems.2 value hvalue; omega⟩

/-- A value that a command gives is read as what was written. -/
theorem decode?_encode {value : CommandValue} (given : value.Given)
    (small : value.encode.length < 2 ^ 64) : decode? value.encode = some value := by
  have htakes : (decoder nestingLimit).Takes value.encode value := by
    cases given with
    | integer value => exact takes_integer _ value
    | texts values =>
      obtain ⟨hcount, hsmall⟩ := length_encode_list length_encode_text values
      refine takes_list (by rw [List.length_map]; omega) fun item hitem => ?_
      obtain ⟨value, hvalue, rfl⟩ := List.mem_map.1 hitem
      exact takes_text _ (Nat.lt_of_le_of_lt (hsmall value hvalue) small)
    | identities values =>
      obtain ⟨hcount, hsmall⟩ := length_encode_list length_encode_identity values
      refine takes_list (by rw [List.length_map]; omega) fun item hitem => ?_
      obtain ⟨value, hvalue, rfl⟩ := List.mem_map.1 hitem
      exact takes_identity _ (Nat.lt_of_le_of_lt (hsmall value hvalue) small)
  have hread := htakes []
  rw [List.append_nil] at hread
  rw [decode?, hread]
  rfl

end CommandValue

theorem Cbor.lawful : Codec.Lawful where
  command _ small := CommandRequest.decode?_encode (Nat.lt_trans small (by decide))
  value _ given small := CommandValue.decode?_encode given (Nat.lt_trans small (by decide))

end RecordBase
