import RecordBase.Proofs.Wire.Extent
import RecordBase.Proofs.Wire.Sink

/-!
# What was read is what would be written

A reader restores its fields (`Decoder.Restores`) if the bytes that it takes are those of the fields of the
value that it finds, it counts as many fields, and these can all be sent. A number is told by its bytes,
a length by its four bytes alone, a missing byte string has a length of its own, and only the bytes of a
text read as one.

* `Source.restores_word`, `Source.restores_bytes`, `Source.restores_text`: a field;
* `Source.restores_entry`: an entry of a batch;
* `BatchReader.restores_start`: the number of a batch and that of its entries.
-/

namespace RecordBase.Wire

/-- A source after some fields have been taken off its front. -/
def Source.Took (source : Source) (fields : List Field) (after : Source) : Prop :=
  source.Past (encode fields) fields.length after

theorem Source.Took.trans {source middle after : Source} {fields others : List Field}
    (first : source.Took fields middle) (second : middle.Took others after) :
    source.Took (fields ++ others) after := by
  unfold Took
  rw [encode_append, List.length_append]
  exact Past.trans first second

/-- A source after some fields that can be sent have been taken off its front. -/
structure Source.Restored (source : Source) (fields : List Field) (after : Source) : Prop where
  took : source.Took fields after
  sendable : ∀ field ∈ fields, field.Sendable

theorem Source.Restored.trans {source middle after : Source} {fields others : List Field}
    (first : source.Restored fields middle) (second : middle.Restored others after) :
    source.Restored (fields ++ others) after where
  took := first.took.trans second.took
  sendable := List.forall_mem_append.2 ⟨first.sendable, second.sendable⟩

namespace Decoder

variable {α β : Type} {decoder : Decoder α} {source after : Source}

/-- The fields that the reader takes are those of the value that it finds. -/
def Restores (decoder : Decoder α) (write : α → List Field) : Prop :=
  ∀ {source value after}, decoder source = (.ok value, after) → source.Restored (write value) after

theorem ok_of_bind {next : α → Decoder β} {result : β}
    (h : (decoder >>= next) source = (.ok result, after)) :
    ∃ value middle, decoder source = (.ok value, middle) ∧ next value middle = (.ok result, after) := by
  change Decoder.bind decoder next source = _ at h
  unfold Decoder.bind at h
  split at h
  · rename_i value middle hread
    exact ⟨value, middle, hread, h⟩
  · cases h

end Decoder

namespace Source

open Decoder (Restores ok_of_bind)

variable {source after : Source}

theorem takeBytes_of_ok {count : Nat} {value : Bytes} (h : takeBytes count source = (.ok value, after)) :
    value.length = count ∧ source.Past value 0 after := by
  rcases takeBytes_cases count source with ⟨-, ended, hended, -⟩ | ⟨hthere, taken, htaken, past⟩
  · rw [hended] at h
    cases h
  · rw [htaken] at h
    cases h
    exact ⟨length_take_pending hthere, past⟩

theorem takeWord_of_ok {α : Type} [Word α] {value : α} (h : takeWord α source = (.ok value, after)) :
    source.Past (Word.toBigEndian value) 0 after := by
  obtain ⟨bytes, middle, htaken, h⟩ := ok_of_bind h
  cases h
  obtain ⟨hlength, past⟩ := takeBytes_of_ok htaken
  rwa [Word.toBigEndian_ofBigEndian hlength]

/-- A length that makes sense is that of the bytes it counts. -/
theorem ofNat_toInt_of_sensible {length : Int32} (something : length ≠ nothing)
    (sensible : ¬ length < nothing) : Int32.ofNat length.toInt.toNat = length := by
  have hne : length.toInt ≠ -1 := fun h => something (Int32.toInt_inj.1 h)
  have hnotBelow : ¬ length.toInt < -1 := fun h => sensible (Int32.lt_iff_toInt_lt.2 h)
  exact Int32.ofNat_toNatClampNeg length (Int32.le_iff_toInt_le.2 (by show 0 ≤ length.toInt; omega))

/-- The length that was taken stands before the byte strings of that length. A message can tell it. -/
theorem takeLength_of_ok {value : Option Bytes}
    (h : takeLength source = (.ok (value.map List.length), after)) :
    source.Past (mark value) 0 after ∧ (value.getD []).length ≤ greatest := by
  obtain ⟨length, middle, htaken, h⟩ := ok_of_bind h
  have past := takeWord_of_ok htaken
  by_cases hnothing : length = nothing
  · rw [if_pos hnothing] at h
    obtain ⟨hvalue, rfl⟩ := Prod.mk.inj h
    rw [Option.map_eq_none_iff.1 (Except.ok.inj hvalue).symm, mark, ← hnothing]
    exact ⟨past, Nat.zero_le _⟩
  · have h := (congrFun (if_neg hnothing) middle).symm.trans h
    by_cases hsenseless : length < nothing
    · cases (congrFun (if_pos hsenseless) middle).symm.trans h
    · have h := (congrFun (if_neg hsenseless) middle).symm.trans h
      obtain ⟨hvalue, rfl⟩ := Prod.mk.inj h
      obtain ⟨bytes, rfl, hlength⟩ := Option.map_eq_some_iff.1 (Except.ok.inj hvalue).symm
      refine ⟨?_, ?_⟩
      · rw [mark, hlength, ofNat_toInt_of_sensible hnothing hsenseless]
        exact past
      · have hsmall := length.toInt_lt
        rw [Option.getD_some, hlength, greatest]
        omega

theorem takeLength_of_takeAcceptedLength {length : Option Nat}
    (h : takeAcceptedLength source = (.ok length, after)) : takeLength source = (.ok length, after) := by
  obtain ⟨taken, middle, htaken, h⟩ := ok_of_bind h
  cases taken with
  | none =>
    cases h
    exact htaken
  | some taken =>
    by_cases hlong : middle.limit < taken
    · cases (if_pos hlong).symm.trans h
    · cases (if_neg hlong).symm.trans h
      exact htaken

/-! ## Fields -/

theorem restores_word {α : Type} [Word α] {field : α → Field}
    (h : ∀ value, (field value).encode = Word.toBigEndian value)
    (sendable : ∀ value, (field value).Sendable) :
    (word α).Restores fun value => [field value] := by
  intro source value after hread
  obtain ⟨taken, middle, htaken, hread⟩ := ok_of_bind hread
  cases hread
  have past := (takeWord_of_ok htaken).trans (.countField middle)
  rw [List.append_nil, ← h, ← encode_singleton] at past
  exact ⟨past, List.forall_mem_singleton.2 (sendable value)⟩

theorem restores_byte : (word UInt8).Restores fun value => [.byte value] :=
  restores_word Field.encode_byte fun _ => Nat.zero_le _

theorem restores_short : (word Int16).Restores fun value => [.short value] :=
  restores_word Field.encode_short fun _ => Nat.zero_le _

theorem restores_int : (word Int32).Restores fun value => [.int value] :=
  restores_word Field.encode_int fun _ => Nat.zero_le _

theorem restores_long : (word Int64).Restores fun value => [.long value] :=
  restores_word Field.encode_long fun _ => Nat.zero_le _

theorem restores_bytes : bytes.Restores fun value => [.bytes value] := by
  intro source value after h
  obtain ⟨length, middle, hlength, h⟩ := ok_of_bind h
  have hlength := takeLength_of_takeAcceptedLength hlength
  suffices source.Past (encode [.bytes value]) 1 after ∧ (value.getD []).length ≤ greatest from
    ⟨this.1, List.forall_mem_singleton.2 this.2⟩
  rw [encode_singleton, Field.encode_bytes]
  cases length with
  | none =>
    cases h
    obtain ⟨past, hsmall⟩ := @takeLength_of_ok _ _ none hlength
    exact ⟨past.trans (.countField middle), hsmall⟩
  | some length =>
    obtain ⟨content, further, hcontent, h⟩ := ok_of_bind h
    cases h
    obtain ⟨rfl, past⟩ := takeBytes_of_ok hcontent
    obtain ⟨first, hsmall⟩ := @takeLength_of_ok _ _ (some content) hlength
    have past := (first.trans past).trans (.countField further)
    rw [List.append_nil] at past
    exact ⟨past, hsmall⟩

theorem restores_text : text.Restores fun value => [.text value] := by
  intro source value after h
  obtain ⟨found, middle, hfound, h⟩ := ok_of_bind h
  have took := restores_bytes hfound
  cases found with
  | none =>
    cases h
    exact ⟨took.took, List.forall_mem_singleton.2 (Nat.zero_le _)⟩
  | some content =>
    cases htext : Bytes.toText? content with
    | none =>
      simp only [htext] at h
      cases h
    | some text =>
      simp only [htext] at h
      cases h
      rw [Bytes.toText?_eq_some_iff.1 htext] at took
      have hsmall := took.sendable _ List.mem_cons_self
      exact ⟨took.took, List.forall_mem_singleton.2 hsmall⟩

theorem restores_required {α : Type} {what : String} {decoder : Decoder (Option α)}
    {write : Option α → List Field} (h : decoder.Restores write) :
    (required what decoder).Restores fun value => write (some value) := by
  intro source value after hread
  obtain ⟨found, middle, hfound, hread⟩ := ok_of_bind hread
  cases found with
  | none => cases hread
  | some found =>
    cases hread
    exact h hfound

theorem restores_requiredBytes {what : String} :
    (requiredBytes what).Restores fun value => [.bytes (some value)] :=
  restores_required restores_bytes

/-! ## Entries -/

/-- An entry of a batch is restored. The content that it needs is there. -/
theorem restores_entry : entry.Restores entryFields := by
  intro source found after h
  obtain ⟨status, afterStatus, hstatus, h⟩ := ok_of_bind h
  have took := restores_byte hstatus
  by_cases hcreate : status = 1
  · rw [if_pos hcreate] at h
    obtain ⟨cluster, afterCluster, hcluster, h⟩ := ok_of_bind h
    obtain ⟨name, afterName, hname, h⟩ := ok_of_bind h
    obtain ⟨content, last, hcontent, h⟩ := ok_of_bind h
    cases h
    rw [hcreate] at took
    exact ((took.trans (restores_short hcluster)).trans (restores_text hname)).trans
      (restores_requiredBytes hcontent)
  rw [if_neg hcreate] at h
  by_cases hupdate : status = 2
  · rw [if_pos hupdate] at h
    obtain ⟨cluster, afterCluster, hcluster, h⟩ := ok_of_bind h
    obtain ⟨position, afterPosition, hposition, h⟩ := ok_of_bind h
    obtain ⟨version, afterVersion, hversion, h⟩ := ok_of_bind h
    obtain ⟨content, last, hcontent, h⟩ := ok_of_bind h
    cases h
    rw [hupdate] at took
    exact (((took.trans (restores_short hcluster)).trans (restores_long hposition)).trans
      (restores_int hversion)).trans (restores_requiredBytes hcontent)
  rw [if_neg hupdate] at h
  by_cases hdelete : status = 3
  · rw [if_pos hdelete] at h
    obtain ⟨cluster, afterCluster, hcluster, h⟩ := ok_of_bind h
    obtain ⟨position, afterPosition, hposition, h⟩ := ok_of_bind h
    obtain ⟨version, last, hversion, h⟩ := ok_of_bind h
    cases h
    rw [hdelete] at took
    exact ((took.trans (restores_short hcluster)).trans (restores_long hposition)).trans
      (restores_int hversion)
  · rw [if_neg hdelete] at h
    cases h

end Source

/-- The number of a batch and that of its entries are restored. Nothing has been read of the entries. -/
theorem BatchReader.restores_start {source opened : Source} {reader : BatchReader}
    (h : start source = (.ok reader, opened)) :
    reader.consumed = 0 ∧ reader.finished = false ∧ reader.announced < 2 ^ 31 ∧
      source.Took [.int reader.number, countField reader.announced] opened := by
  obtain ⟨number, middle, hnumber, h⟩ := Decoder.ok_of_bind h
  obtain ⟨count, last, hcount, h⟩ := Decoder.ok_of_bind h
  by_cases hnegative : count < 0
  · rw [if_pos hnegative] at h
    cases h
  · rw [if_neg hnegative] at h
    cases h
    have took := ((Source.restores_int hnumber).trans (Source.restores_int hcount)).took
    have hnatural : Int32.ofNat count.toInt.toNat = count :=
      Int32.ofNat_toNatClampNeg count (Int32.not_lt.1 hnegative)
    have hsmall : count.toInt.toNat < 2 ^ 31 := by
      have := count.toInt_lt
      omega
    rw [← hnatural] at took
    refine ⟨rfl, rfl, hsmall, ?_⟩
    rw [countField_of_le (Nat.le_of_lt_succ hsmall)]
    exact took

end RecordBase.Wire
