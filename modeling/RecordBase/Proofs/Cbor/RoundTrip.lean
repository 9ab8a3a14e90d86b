import RecordBase.Cbor.Decoder

/-!
# Reading what was written

A reader of data items finds a value in some bytes (`Decoder.Takes`) if it takes exactly these, whatever
follows them. Readers one after another take the bytes of one after those of the other.

* `Head.decode_wide`, `Decoder.takes_shortest`: a head is read as what was written.
* `Decoder.takes_text`, `Decoder.takes_key`, `Decoder.takes_integerWithin`: so are texts, keys and whole
  numbers.
* `Decoder.takes_items`: an array is read as its items.
-/

namespace RecordBase.Cbor

/-! ## Heads -/

namespace Head

theorem split?_append (first rest : Bytes) : split? first.length (first ++ rest) = some (first, rest) := by
  rw [split?, List.take_left, if_pos rfl, List.drop_left]

theorem toNat_firstByte {major minor : Nat} (hmajor : major < 8) (hminor : minor < 32) :
    (firstByte major minor).toNat = 32 * major + minor := by
  rw [firstByte, UInt8.toNat_ofNat']
  omega

/-- A head with a short argument is read as what was written. -/
theorem decode_narrow {major argument : Nat} (hmajor : major < 8) (h : argument < 24) (rest : Bytes) :
    decode (firstByte major argument :: rest) = some (ofArgument major argument argument, rest) := by
  have hfirst := toNat_firstByte hmajor (show argument < 32 by omega)
  have hquotient : (firstByte major argument).toNat / 32 = major := by omega
  have hremainder : (firstByte major argument).toNat % 32 = argument := by omega
  simp only [decode, hquotient, hremainder, if_pos h]

/-- A head with an argument that follows is read as what was written. -/
theorem decode_wide {major step argument : Nat} (hmajor : major < 8) (hstep : step < 4)
    (h : argument < 256 ^ 2 ^ step) (rest : Bytes) :
    decode (wide major step argument ++ rest) =
      some (ofArgument major (24 + step) argument, rest) := by
  have hfirst := toNat_firstByte hmajor (show 24 + step < 32 by omega)
  have hquotient : (firstByte major (24 + step)).toNat / 32 = major := by omega
  have hremainder : (firstByte major (24 + step)).toNat % 32 = 24 + step := by omega
  have hsplit := split?_append (Bytes.bigEndian (2 ^ step) argument) rest
  rw [Bytes.length_bigEndian] at hsplit
  have hnarrow : ¬ 24 + step < 24 := by omega
  have hwide : 24 + step < 28 := by omega
  simp only [wide, List.cons_append, decode, hquotient, hremainder, if_neg hnarrow, if_pos hwide,
    Nat.add_sub_cancel_left, hsplit, Option.map_some, Bytes.ofBigEndian_bigEndian h]

/-- A head with the shortest argument is read as what was written. -/
theorem decode_shortest {major argument : Nat} (hmajor : major < 8) (h : argument < 2 ^ 64) {head : Head}
    (hhead : ∀ minor, ofArgument major minor argument = head) (rest : Bytes) :
    decode (shortest major argument ++ rest) = some (head, rest) := by
  unfold shortest
  split
  · rename_i hnarrow
    rw [List.singleton_append, decode_narrow hmajor hnarrow, hhead]
  · split
    · rw [decode_wide hmajor (by omega) (by omega), hhead]
    · split
      · rw [decode_wide hmajor (by omega) (by omega), hhead]
      · split
        · rw [decode_wide hmajor (by omega) (by omega), hhead]
        · rw [decode_wide hmajor (by omega) (by omega), hhead]

end Head

/-! ## Readers -/

namespace Decoder

variable {α β : Type} {decoder : Decoder α} {next : α → Decoder β} {bytes others : Bytes} {value : α}
  {result : β}

/-- A reader finds a value in some bytes and takes nothing else. -/
def Takes (decoder : Decoder α) (bytes : Bytes) (value : α) : Prop :=
  ∀ rest, decoder (bytes ++ rest) = some (value, rest)

theorem Takes.pure (value : α) : (Pure.pure value : Decoder α).Takes [] value := fun _ => rfl

theorem Takes.bind (first : decoder.Takes bytes value) (second : (next value).Takes others result) :
    (decoder >>= next).Takes (bytes ++ others) result := by
  intro rest
  show (decoder (bytes ++ others ++ rest) >>= fun found => next found.1 found.2) = _
  rw [List.append_assoc, first]
  exact second rest

/-- A value that is found is changed. -/
theorem Takes.map (first : decoder.Takes bytes value) (second : next value = Pure.pure result) :
    (decoder >>= next).Takes bytes result := by
  have h := first.bind (second ▸ Takes.pure result : (next value).Takes [] result)
  rwa [List.append_nil] at h

/-- Items are taken one after another. -/
theorem Takes.repeated {item : Decoder α} {write : α → Bytes} {values : List α}
    (h : ∀ value ∈ values, item.Takes (write value) value) :
    (repeated item values.length).Takes (values.flatMap write) values := by
  induction values with
  | nil => exact .pure []
  | cons value values ih =>
    rw [List.flatMap_cons]
    exact (h value List.mem_cons_self).bind
      ((ih fun other hother => h other (List.mem_cons_of_mem _ hother)).map rfl)

theorem takes_take (bytes : Bytes) : (take bytes.length).Takes bytes bytes :=
  Head.split?_append bytes

/-! ### Heads -/

variable {head : Head}

theorem takes_headKeeping {keep : Nat → Bool} (h : anyHead.Takes bytes head)
    (untagged : ∀ number, head ≠ .tag number) : (headKeeping keep).Takes bytes head := by
  refine h.map ?_
  cases head <;> first | rfl | exact absurd rfl (untagged _)

theorem takes_shortest {major argument : Nat} (hmajor : major < 8) (h : argument < 2 ^ 64)
    (hhead : ∀ minor, Head.ofArgument major minor argument = head) :
    anyHead.Takes (Head.shortest major argument) head :=
  Head.decode_shortest hmajor h hhead

theorem takes_textHead {length : Nat} (h : length < 2 ^ 64) :
    Decoder.head.Takes (Head.text (some length)).encode (.text (some length)) :=
  takes_headKeeping (takes_shortest (by omega) h fun _ => rfl) nofun

theorem takes_arrayHead {count : Nat} (h : count < 2 ^ 64) :
    Decoder.head.Takes (Head.array (some count)).encode (.array (some count)) :=
  takes_headKeeping (takes_shortest (by omega) h fun _ => rfl) nofun

theorem takes_mapHead {count : Nat} (h : count < 2 ^ 64) :
    Decoder.head.Takes (Head.map (some count)).encode (.map (some count)) :=
  takes_headKeeping (takes_shortest (by omega) h fun _ => rfl) nofun

/-! ### Items -/

theorem textOf_ofText (text : String) : textOf (Bytes.ofText text) = Pure.pure text := by
  rw [textOf, Bytes.toText?_ofText]
  rfl

theorem takes_textBody (text : String) :
    (textBody (some (Bytes.ofText text).length)).Takes (Bytes.ofText text) text := by
  have hchunks : (chunks textLength? (some (Bytes.ofText text).length)).Takes (Bytes.ofText text)
      [Bytes.ofText text] := (takes_take _).map rfl
  refine hchunks.map ?_
  simp [textOf_ofText, String.join]

/-- A text is read as what was written. -/
theorem takes_text {text : String} (h : (Bytes.ofText text).length < 2 ^ 64) :
    Decoder.text.Takes
      ((Head.text (some (Bytes.ofText text).length)).encode ++ Bytes.ofText text) text :=
  (takes_textHead h).bind (takes_textBody text)

/-- A key is read as the bytes of what was written. -/
theorem takes_key {name : String} (h : (Bytes.ofText name).length ≤ keyLimit) :
    Decoder.key.Takes
      ((Head.text (some (Bytes.ofText name).length)).encode ++ Bytes.ofText name)
      (Bytes.ofText name) := by
  have hlimit : keyLimit < 2 ^ 64 := by decide
  refine (takes_textHead (by omega)).bind ?_
  have hbody : (keyBody (some (Bytes.ofText name).length)).Takes (Bytes.ofText name)
      (Bytes.ofText name) := by
    rw [keyBody, if_pos h]
    exact takes_take _
  refine hbody.map ?_
  rw [textOf_ofText]
  rfl

/-- A whole number is read as what was written. -/
theorem takes_integer {value : Int} (h : value.natAbs < 2 ^ 64) :
    Decoder.integer.Takes (Head.ofInt value).encode value := by
  cases value with
  | ofNat value =>
    have hhead : anyHead.Takes (Head.ofInt (.ofNat value)).encode (.positive value) :=
      takes_shortest (by omega) h fun _ => rfl
    exact (takes_headKeeping hhead nofun).map rfl
  | negSucc value =>
    have hvalue : value < 2 ^ 64 := by
      rw [Int.natAbs_negSucc] at h
      omega
    have hhead : anyHead.Takes (Head.ofInt (.negSucc value)).encode (.negative value) :=
      takes_shortest (by omega) hvalue fun _ => rfl
    refine (takes_headKeeping hhead nofun).map ?_
    have hint : -1 - (value : Int) = .negSucc value := by omega
    simp only [hint]

/-- A whole number between two bounds is read as what was written. -/
theorem takes_integerWithin {least greatest value : Int} (hleast : least ≤ value)
    (hgreatest : value ≤ greatest) (h : value.natAbs < 2 ^ 64) :
    (integerWithin least greatest).Takes (Head.ofInt value).encode value := by
  refine (takes_integer h).map ?_
  rw [if_pos ⟨hleast, hgreatest⟩]

/-- As many items as were written are read. -/
theorem takes_items {item : Decoder α} {write : α → Bytes} {values : List α}
    (h : ∀ value ∈ values, item.Takes (write value) value) :
    (items item (some values.length)).Takes (values.flatMap write) values :=
  .repeated h

end Decoder

end RecordBase.Cbor
