import RecordBase.Record.Identity

/-!
# The text of an identity

A record is cached under the text of its identity, so two identities must not share one. The text
reads back as the identity (`RecordId.parse?_text`), and therefore determines it
(`RecordId.text_injective`).
-/

namespace RecordBase

/-! ## Numerals -/

namespace Numeral

theorem digitsAfter?_append (value : Nat) (front back : List Char) :
    digitsAfter? value (front ++ back) =
      (digitsAfter? value front).bind fun read => digitsAfter? read back := by
  induction front generalizing value with
  | nil => rfl
  | cons c rest ih =>
    simp only [List.cons_append, digitsAfter?]
    cases digit? c with
    | none => rfl
    | some d => exact ih (10 * value + d)

theorem digit?_digitChar {n : Nat} (h : n < 10) : digit? n.digitChar = some n := by
  have hd : n.digitChar.isDigit = true := by simp [h]
  rw [digit?, if_pos hd, Nat.toNat_digitChar_of_lt_ten h]
  simp

theorem digitsAfter?_toDigits (n : Nat) : digitsAfter? 0 (Nat.toDigits 10 n) = some n := by
  induction n using Nat.strongRecOn with
  | ind n ih =>
    rw [Nat.toDigits_eq_if (by decide)]
    split
    · rename_i h
      simp [digitsAfter?, digit?_digitChar h]
    · rename_i h
      have hlast : digit? (n % 10).digitChar = some (n % 10) :=
        digit?_digitChar (Nat.mod_lt n (by decide))
      rw [digitsAfter?_append, ih (n / 10) (by omega)]
      simp only [Option.bind_some, digitsAfter?, hlast, Option.some.injEq]
      omega

theorem digits?_toDigits (n : Nat) : digits? (Nat.toDigits 10 n) = some n := by
  have hne : (Nat.toDigits 10 n).isEmpty = false := by
    cases h : Nat.toDigits 10 n with
    | nil => exact absurd (h ▸ Nat.length_toDigits_pos (b := 10) (n := n)) (by simp)
    | cons => rfl
  rw [digits?, hne]
  exact digitsAfter?_toDigits n

/-- The characters of a numeral. -/
def formatChars (value : Int) : List Char :=
  if 0 ≤ value then Nat.toDigits 10 value.toNat else '-' :: Nat.toDigits 10 (-value).toNat

theorem toList_format (value : Int) : (format value).toList = formatChars value := by
  rw [format, Int.toString_eq_repr, Int.repr_eq_if, formatChars]
  split <;> simp [Nat.repr, String.toList_append]

theorem isDigit_or_minus_of_mem_formatChars {value : Int} {c : Char} (h : c ∈ formatChars value) :
    c.isDigit = true ∨ c = '-' := by
  have hdigit : ∀ n, c ∈ Nat.toDigits 10 n → c.isDigit = true := fun n =>
    Nat.isDigit_of_mem_toDigits (by decide) (by decide)
  unfold formatChars at h
  split at h
  · exact .inl (hdigit _ h)
  · rcases List.mem_cons.1 h with h | h
    · exact .inr h
    · exact .inl (hdigit _ h)

theorem parseChars?_formatChars (value : Int) : parseChars? (formatChars value) = some value := by
  unfold formatChars
  split
  · rename_i h
    -- A numeral without a sign starts with a digit, so it is read by the last case.
    have hd := digits?_toDigits value.toNat
    have hmem : ∀ c ∈ Nat.toDigits 10 value.toNat, c.isDigit = true := fun c hc =>
      Nat.isDigit_of_mem_toDigits (by decide) (by decide) hc
    unfold parseChars?
    split
    · rename_i heq
      exact absurd (hmem '-' (by simp [heq])) (by decide)
    · rename_i heq
      exact absurd (hmem '+' (by simp [heq])) (by decide)
    · rw [hd]
      simp [Int.toNat_of_nonneg h]
  · have hn : ((-value).toNat : Int) = -value := Int.toNat_of_nonneg (by omega)
    rw [parseChars?, digits?_toDigits]
    simp [hn]

theorem parse?_format (value : Int) : parse? (format value) = some value := by
  rw [parse?, toList_format, parseChars?_formatChars]

theorem parseInt16?_format (value : Int16) : parseInt16? (format value.toInt) = some value := by
  have h₁ := value.le_toInt
  have h₂ := value.toInt_lt
  have hwithin : (decide (-2 ^ 15 ≤ value.toInt) && decide (value.toInt ≤ 2 ^ 15 - 1)) = true := by
    simp only [Bool.and_eq_true, decide_eq_true_eq]
    omega
  rw [parseInt16?, parseWithin?, parse?_format, Option.filter_some, if_pos hwithin]
  simp

theorem parseInt64?_format (value : Int64) : parseInt64? (format value.toInt) = some value := by
  have h₁ := value.le_toInt
  have h₂ := value.toInt_lt
  have hwithin : (decide (-2 ^ 63 ≤ value.toInt) && decide (value.toInt ≤ 2 ^ 63 - 1)) = true := by
    simp only [Bool.and_eq_true, decide_eq_true_eq]
    omega
  rw [parseInt64?, parseWithin?, parse?_format, Option.filter_some, if_pos hwithin]
  simp

end Numeral

/-! ## Blanks -/

namespace Text

theorem isBlank_of_isDigit_or_minus {c : Char} (h : c.isDigit = true ∨ c = '-') :
    isBlank c = false := by
  rcases h with h | rfl
  · have hr : 48 ≤ c.toNat ∧ c.toNat ≤ 57 := by
      simpa [Char.isDigit, UInt32.le_iff_toNat_le] using h
    rw [isBlank, Bool.eq_false_iff, ne_eq, inRanges_iff]
    simp only [blankRanges, List.mem_cons, List.not_mem_nil, or_false]
    rintro ⟨range, rfl | rfl | rfl | rfl | rfl | rfl | rfl | rfl | rfl | rfl, hc⟩ <;>
      simp only at hc <;> omega
  · decide

theorem trimStartChars_eq_self {chars : List Char} (h : ∀ c ∈ chars, isBlank c = false) :
    trimStartChars chars = chars := by
  cases chars with
  | nil => rfl
  | cons c rest => simp [trimStartChars, List.dropWhile, h c List.mem_cons_self]

theorem trim_eq_self {text : String} (h : ∀ c ∈ text.toList, isBlank c = false) :
    trim text = text := by
  have hr : ∀ c ∈ text.toList.reverse, isBlank c = false := fun c hc =>
    h c (List.mem_reverse.1 hc)
  rw [trim, trimChars, trimStartChars_eq_self h, trimStartChars_eq_self hr, List.reverse_reverse,
    String.ofList_toList]

theorem trim_format (value : Int) : trim (Numeral.format value) = Numeral.format value :=
  trim_eq_self fun _ hc => isBlank_of_isDigit_or_minus
    (Numeral.isDigit_or_minus_of_mem_formatChars (Numeral.toList_format value ▸ hc))

end Text

/-! ## Identities -/

namespace RecordId

theorem splitColon?_append {front : List Char} (h : ':' ∉ front) (back : List Char) :
    splitColon? (front ++ ':' :: back) = some (front, back) := by
  induction front with
  | nil => simp [splitColon?]
  | cons c rest ih =>
    simp only [List.mem_cons, not_or] at h
    rw [List.cons_append, splitColon?, if_neg (Ne.symm h.1), ih h.2, Option.map_some]

/-- The text of an identity reads back as the identity. -/
theorem parse?_text (id : RecordId) : parse? id.text = some id := by
  have hcolon : ':' ∉ (Numeral.format id.cluster.toInt).toList := fun h => by
    rw [Numeral.toList_format] at h
    exact absurd (Numeral.isDigit_or_minus_of_mem_formatChars h) (by decide)
  have htext : id.text.toList = '#' :: ((Numeral.format id.cluster.toInt).toList ++
      ':' :: (Numeral.format id.position.toInt).toList) := by
    simp [text, String.toList_append]
  simp only [parse?, htext, splitColon?_append hcolon, String.ofList_toList, Text.trim_format,
    Numeral.parseInt16?_format, Numeral.parseInt64?_format, Option.bind_eq_bind, Option.bind_some]

theorem text_injective {a b : RecordId} (h : a.text = b.text) : a = b := by
  have ha := parse?_text a
  rw [h, parse?_text b] at ha
  exact (Option.some.inj ha).symm

end RecordId

end RecordBase
