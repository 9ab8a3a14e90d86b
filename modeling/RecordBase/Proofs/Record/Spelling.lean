import RecordBase.Proofs.Record.Identity
import RecordBase.Proofs.Text.SmallLetters
import RecordBase.Record.Basic

/-!
# Texts that spell an identity

Many texts are read as the same identity: the number sign may be missing, a numeral may have blanks around
it, a plus in front and zeros before its digits. What is read as an identity is described here without the
reader.

* `Numeral.Spells`: a sign, or none, and the digits of a number; `Numeral.Stands` allows blanks around them.
  `Numeral.parseInt16?_trim_iff` and `Numeral.parseInt64?_trim_iff`: the readers of the two words take just
  the numerals of their values.
* `RecordId.Parts`: what stands on both sides of the first colon. `RecordId.parse?_eq_some_iff`: the two
  numerals there are those of the identity.
-/

namespace RecordBase

/-! ## Numerals -/

namespace Numeral

/-- Digits, one at least, and a sign or none in front of them: the numeral of a number. -/
inductive Spells : List Char → Int → Prop
  | unsigned {digits : List Char} (nonempty : digits ≠ []) (all : ∀ c ∈ digits, c.isDigit = true) :
      Spells digits (Nat.ofDigitChars 10 digits 0)
  | plus {digits : List Char} (nonempty : digits ≠ []) (all : ∀ c ∈ digits, c.isDigit = true) :
      Spells ('+' :: digits) (Nat.ofDigitChars 10 digits 0)
  | minus {digits : List Char} (nonempty : digits ≠ []) (all : ∀ c ∈ digits, c.isDigit = true) :
      Spells ('-' :: digits) (-(Nat.ofDigitChars 10 digits 0 : Nat))

theorem digit?_eq_some_iff {c : Char} {d : Nat} :
    digit? c = some d ↔ c.isDigit = true ∧ c.toNat - '0'.toNat = d := by
  unfold digit?
  split
  · rename_i h
    simp only [h, true_and, Option.some.injEq]
  · rename_i h
    simp only [h, false_and, reduceCtorEq]

theorem digitsAfter?_eq_some_iff {chars : List Char} {value number : Nat} :
    digitsAfter? value chars = some number ↔
      (∀ c ∈ chars, c.isDigit = true) ∧ Nat.ofDigitChars 10 chars value = number := by
  induction chars generalizing value with
  | nil => simp [digitsAfter?]
  | cons c rest ih =>
    simp only [digitsAfter?, Option.bind_eq_some_iff, digit?_eq_some_iff, ih, List.forall_mem_cons,
      Nat.ofDigitChars_cons]
    constructor
    · rintro ⟨_, ⟨hc, rfl⟩, hrest, hnumber⟩
      exact ⟨⟨hc, hrest⟩, hnumber⟩
    · rintro ⟨⟨hc, hrest⟩, hnumber⟩
      exact ⟨_, ⟨hc, rfl⟩, hrest, hnumber⟩

theorem digits?_eq_some_iff {chars : List Char} {number : Nat} :
    digits? chars = some number ↔
      chars ≠ [] ∧ (∀ c ∈ chars, c.isDigit = true) ∧ Nat.ofDigitChars 10 chars 0 = number := by
  unfold digits?
  split
  · rename_i hempty
    simp [List.isEmpty_iff.1 hempty]
  · rename_i hsome
    have hne : chars ≠ [] := fun h => hsome (List.isEmpty_iff.2 h)
    simp only [digitsAfter?_eq_some_iff, ne_eq, hne, not_false_eq_true, true_and]

/-- What is read as a number is its numeral. -/
theorem parseChars?_eq_some_iff {chars : List Char} {value : Int} :
    parseChars? chars = some value ↔ Spells chars value := by
  constructor
  · intro h
    unfold parseChars? at h
    split at h <;> obtain ⟨_, hread, rfl⟩ := Option.map_eq_some_iff.1 h <;>
      obtain ⟨number, hdigits, heq⟩ := Option.bind_eq_some_iff.1 hread <;> cases heq <;>
      obtain ⟨hne, hall, rfl⟩ := digits?_eq_some_iff.1 hdigits
    · exact .minus hne hall
    · exact .plus hne hall
    · exact .unsigned hne hall
  · rintro (⟨hne, hall⟩ | ⟨hne, hall⟩ | ⟨hne, hall⟩) <;>
      have hdigits := digits?_eq_some_iff.2 ⟨hne, hall, rfl⟩
    · -- Without a sign the first character is a digit, so it is neither of the signs.
      unfold parseChars?
      split
      · exact absurd (hall '-' List.mem_cons_self) (by decide)
      · exact absurd (hall '+' List.mem_cons_self) (by decide)
      · rw [hdigits]
        rfl
    · rw [parseChars?, hdigits]
      rfl
    · rw [parseChars?, hdigits]
      rfl

theorem Spells.ne_nil {chars : List Char} {value : Int} (h : Spells chars value) : chars ≠ [] := by
  cases h with
  | unsigned nonempty => exact nonempty
  | plus | minus => exact List.cons_ne_nil _ _

theorem Spells.digit_or_sign {chars : List Char} {value : Int} (h : Spells chars value) :
    ∀ c ∈ chars, c.isDigit = true ∨ c = '+' ∨ c = '-' := by
  cases h with
  | unsigned _ all => exact fun c hc => .inl (all c hc)
  | plus _ all => exact List.forall_mem_cons.2 ⟨.inr (.inl rfl), fun c hc => .inl (all c hc)⟩
  | minus _ all => exact List.forall_mem_cons.2 ⟨.inr (.inr rfl), fun c hc => .inl (all c hc)⟩

/-- A numeral with blanks around it, or none. -/
def Stands (chars : List Char) (value : Int) : Prop :=
  ∃ before numeral after, chars = before ++ numeral ++ after ∧ Spells numeral value ∧
    (∀ c ∈ before, Text.isBlank c = true) ∧ ∀ c ∈ after, Text.isBlank c = true

end Numeral

/-! ## Blanks around a numeral -/

namespace Text

theorem isBlank_of_digit_or_sign {c : Char} (h : c.isDigit = true ∨ c = '+' ∨ c = '-') :
    isBlank c = false := by
  obtain hdigit | rfl | rfl := h
  · exact isBlank_of_isDigit_or_minus (.inl hdigit)
  · decide
  · decide

/-- Blanks are dropped up to the first character that is none. -/
theorem trimStartChars_append {front rest : List Char} (blank : ∀ c ∈ front, isBlank c = true)
    (solid : ∀ c ∈ rest.head?, isBlank c = false) : trimStartChars (front ++ rest) = rest := by
  rw [trimStartChars, List.dropWhile_append_of_pos blank]
  cases rest with
  | nil => rfl
  | cons c rest => simp [solid c rfl]

/-- Trimming leaves what stands between blanks. -/
theorem trimChars_append {before chars after : List Char} (hbefore : ∀ c ∈ before, isBlank c = true)
    (solid : ∀ c ∈ chars, isBlank c = false) (nonempty : chars ≠ [])
    (hafter : ∀ c ∈ after, isBlank c = true) : trimChars (before ++ chars ++ after) = chars := by
  have hfront : trimStartChars (before ++ (chars ++ after)) = chars ++ after := by
    refine trimStartChars_append hbefore fun c hc => solid c ?_
    rw [List.head?_append_of_ne_nil _ nonempty] at hc
    exact List.mem_of_mem_head? hc
  have hback : trimStartChars (after.reverse ++ chars.reverse) = chars.reverse := by
    refine trimStartChars_append (fun c hc => hafter c (List.mem_reverse.1 hc)) fun c hc => solid c ?_
    exact List.mem_reverse.1 (List.mem_of_mem_head? hc)
  rw [trimChars, List.append_assoc, hfront, List.reverse_append, hback, List.reverse_reverse]

/-- What trimming takes away are blanks. -/
theorem append_trimChars (chars : List Char) : ∃ before after,
    chars = before ++ trimChars chars ++ after ∧ (∀ c ∈ before, isBlank c = true) ∧
      ∀ c ∈ after, isBlank c = true := by
  refine ⟨chars.takeWhile isBlank, (chars.dropWhile isBlank).rtakeWhile isBlank, ?_,
    fun _ => List.mem_takeWhile_imp, fun _ => List.mem_rtakeWhile_imp⟩
  rw [trimChars_eq, List.append_assoc, List.rdropWhile_append_rtakeWhile,
    List.takeWhile_append_dropWhile]

/-- The trimmed characters are a numeral just if a numeral stands in them. -/
theorem spells_trimChars_iff {chars : List Char} {value : Int} :
    Numeral.Spells (trimChars chars) value ↔ Numeral.Stands chars value := by
  constructor
  · intro h
    obtain ⟨before, after, hchars, hbefore, hafter⟩ := append_trimChars chars
    exact ⟨before, _, after, hchars, h, hbefore, hafter⟩
  · rintro ⟨before, numeral, after, rfl, h, hbefore, hafter⟩
    rwa [trimChars_append hbefore (fun c hc => isBlank_of_digit_or_sign (h.digit_or_sign c hc)) h.ne_nil
      hafter]

end Text

namespace Numeral

theorem Stands.unique {chars : List Char} {value other : Int} (h : Stands chars value)
    (h' : Stands chars other) : value = other := by
  rw [← Text.spells_trimChars_iff, ← parseChars?_eq_some_iff] at h h'
  exact Option.some.inj (h.symm.trans h')

/-- What is read as a number between two bounds is a numeral with blanks around it. -/
theorem parseWithin?_trim_iff {least greatest value : Int} {chars : List Char} :
    parseWithin? least greatest (Text.trim (String.ofList chars)) = some value ↔
      Stands chars value ∧ least ≤ value ∧ value ≤ greatest := by
  rw [parseWithin?, Option.filter_eq_some_iff, parse?, Text.trim, String.toList_ofList,
    String.toList_ofList, parseChars?_eq_some_iff, Text.spells_trimChars_iff]
  simp only [Bool.and_eq_true, decide_eq_true_eq]

/-- What is read as a 16-bit integer is its numeral. -/
theorem parseInt16?_trim_iff {chars : List Char} {value : Int16} :
    parseInt16? (Text.trim (String.ofList chars)) = some value ↔ Stands chars value.toInt := by
  have hleast := value.le_toInt
  have hgreatest := value.toInt_lt
  rw [parseInt16?, Option.map_eq_some_iff]
  constructor
  · rintro ⟨number, hnumber, rfl⟩
    obtain ⟨hstands, hlower, hupper⟩ := parseWithin?_trim_iff.1 hnumber
    rwa [Int16.toInt_ofInt_of_le hlower (by omega)]
  · intro hstands
    exact ⟨value.toInt, parseWithin?_trim_iff.2 ⟨hstands, hleast, by omega⟩, Int16.ofInt_toInt value⟩

/-- What is read as a 64-bit integer is its numeral. -/
theorem parseInt64?_trim_iff {chars : List Char} {value : Int64} :
    parseInt64? (Text.trim (String.ofList chars)) = some value ↔ Stands chars value.toInt := by
  have hleast := value.le_toInt
  have hgreatest := value.toInt_lt
  rw [parseInt64?, Option.map_eq_some_iff]
  constructor
  · rintro ⟨number, hnumber, rfl⟩
    obtain ⟨hstands, hlower, hupper⟩ := parseWithin?_trim_iff.1 hnumber
    rwa [Int64.toInt_ofInt_of_le hlower (by omega)]
  · intro hstands
    exact ⟨value.toInt, parseWithin?_trim_iff.2 ⟨hstands, hleast, by omega⟩, Int64.ofInt_toInt value⟩

end Numeral

/-! ## Identities -/

namespace RecordId

open Numeral (Stands)

/-- What stands before and behind the first colon of a text, without a number sign in front. -/
def Parts (text : String) (front back : List Char) : Prop :=
  ':' ∉ front ∧ (text.toList = '#' :: (front ++ ':' :: back) ∨
    text.toList = front ++ ':' :: back ∧ front.head? ≠ some '#')

theorem splitColon?_eq_some_iff {chars front back : List Char} :
    splitColon? chars = some (front, back) ↔ ':' ∉ front ∧ chars = front ++ ':' :: back := by
  constructor
  · intro h
    induction chars generalizing front with
    | nil => cases h
    | cons c rest ih =>
      unfold splitColon? at h
      split at h
      · rename_i hcolon
        cases h
        exact ⟨List.not_mem_nil, hcolon ▸ rfl⟩
      · rename_i hcolon
        obtain ⟨⟨front, _⟩, hrest, heq⟩ := Option.map_eq_some_iff.1 h
        cases heq
        obtain ⟨hfront, rfl⟩ := ih hrest
        refine ⟨fun hmem => ?_, rfl⟩
        rcases List.mem_cons.1 hmem with hc | hmem
        · exact hcolon hc.symm
        · exact hfront hmem
  · rintro ⟨hfront, rfl⟩
    exact splitColon?_append hfront back

/-- A text with a colon is read by its two parts. -/
theorem parse?_of_parts {text : String} {front back : List Char} (parts : Parts text front back) :
    parse? text = (Numeral.parseInt16? (Text.trim (String.ofList front))).bind fun cluster =>
      (Numeral.parseInt64? (Text.trim (String.ofList back))).bind fun position =>
        some ⟨cluster, position⟩ := by
  obtain ⟨hcolon, htext⟩ := parts
  unfold parse?
  split
  · rename_i rest hstart
    have hrest : rest = front ++ ':' :: back := by
      rcases htext with htext | ⟨htext, hmark⟩
      · exact (List.cons.inj (hstart.symm.trans htext)).2
      · rw [htext] at hstart
        cases front with
        | nil => exact absurd (List.cons.inj hstart).1 (by decide)
        | cons c front => exact absurd (congrArg some (List.cons.inj hstart).1) hmark
    simp only [hrest, splitColon?_append hcolon, Option.bind_eq_bind, Option.bind_some]
  · rename_i hmark
    have hwhole : text.toList = front ++ ':' :: back :=
      htext.elim (fun h => absurd h (hmark _)) And.left
    simp only [hwhole, splitColon?_append hcolon, Option.bind_eq_bind, Option.bind_some]

/-- A text that is read has a colon. -/
theorem parts_of_parse? {text : String} {id : RecordId} (h : parse? text = some id) :
    ∃ front back, Parts text front back := by
  unfold parse? at h
  split at h
  · rename_i rest htext
    obtain ⟨⟨front, back⟩, hsplit, -⟩ := Option.bind_eq_some_iff.1 h
    obtain ⟨hcolon, rfl⟩ := splitColon?_eq_some_iff.1 hsplit
    exact ⟨front, back, hcolon, .inl htext⟩
  · rename_i hmark
    obtain ⟨⟨front, back⟩, hsplit, -⟩ := Option.bind_eq_some_iff.1 h
    obtain ⟨hcolon, htext⟩ := splitColon?_eq_some_iff.1 hsplit
    refine ⟨front, back, hcolon, .inr ⟨htext, fun hfront => ?_⟩⟩
    obtain ⟨rest, rfl⟩ := List.head?_eq_some_iff.1 hfront
    exact hmark _ htext

/-- A text is read as an identity just if the numerals of its cluster and its position stand around its
first colon. -/
theorem parse?_eq_some_iff {text : String} {id : RecordId} :
    parse? text = some id ↔ ∃ front back, Parts text front back ∧
      Stands front id.cluster.toInt ∧ Stands back id.position.toInt := by
  constructor
  · intro h
    obtain ⟨front, back, parts⟩ := parts_of_parse? h
    rw [parse?_of_parts parts] at h
    obtain ⟨cluster, hcluster, h⟩ := Option.bind_eq_some_iff.1 h
    obtain ⟨position, hposition, h⟩ := Option.bind_eq_some_iff.1 h
    cases h
    exact ⟨front, back, parts, Numeral.parseInt16?_trim_iff.1 hcluster,
      Numeral.parseInt64?_trim_iff.1 hposition⟩
  · rintro ⟨front, back, parts, hcluster, hposition⟩
    rw [parse?_of_parts parts, Numeral.parseInt16?_trim_iff.2 hcluster,
      Numeral.parseInt64?_trim_iff.2 hposition]
    rfl

section Refused

variable {text : String} {front back : List Char} {value : Int}

/-- A cluster beyond the range of its word is not read. -/
theorem parse?_of_cluster_beyond (parts : Parts text front back) (stands : Stands front value)
    (beyond : value < -2 ^ 15 ∨ 2 ^ 15 ≤ value) : parse? text = none := by
  have hread : Numeral.parseInt16? (Text.trim (String.ofList front)) = none := by
    refine Option.eq_none_iff_forall_ne_some.2 fun cluster hcluster => ?_
    have heq := stands.unique (Numeral.parseInt16?_trim_iff.1 hcluster)
    have hleast := cluster.le_toInt
    have hgreatest := cluster.toInt_lt
    omega
  rw [parse?_of_parts parts, hread]
  rfl

/-- A position beyond the range of its word is not read. -/
theorem parse?_of_position_beyond (parts : Parts text front back) (stands : Stands back value)
    (beyond : value < -2 ^ 63 ∨ 2 ^ 63 ≤ value) : parse? text = none := by
  have hread : Numeral.parseInt64? (Text.trim (String.ofList back)) = none := by
    refine Option.eq_none_iff_forall_ne_some.2 fun position hposition => ?_
    have heq := stands.unique (Numeral.parseInt64?_trim_iff.1 hposition)
    have hleast := position.le_toInt
    have hgreatest := position.toInt_lt
    omega
  rw [parse?_of_parts parts, hread]
  cases Numeral.parseInt16? (Text.trim (String.ofList front)) <;> rfl

end Refused

/-- The text of an identity is read as the identity, so no other one has the same text, nor a record of
another one the same key. A text is read just if it spells an identity, and then the text of that is read
as the same; a number beyond the range of its word is not read. -/
theorem text_corresponds :
    (∀ id : RecordId, parse? id.text = some id) ∧
    (∀ id other : RecordId, id.text = other.text → id = other) ∧
    (∀ record other : Record, record.key = other.key → record.id = other.id) ∧
    (∀ (text : String) (id : RecordId), parse? text = some id ↔ ∃ front back, Parts text front back ∧
      Stands front id.cluster.toInt ∧ Stands back id.position.toInt) ∧
    (∀ (text : String) (id : RecordId), parse? text = some id → parse? id.text = parse? text) ∧
    ∀ (text : String) (front back : List Char), Parts text front back →
      (∀ value, Stands front value → value < -2 ^ 15 ∨ 2 ^ 15 ≤ value → parse? text = none) ∧
      ∀ value, Stands back value → value < -2 ^ 63 ∨ 2 ^ 63 ≤ value → parse? text = none := by
  refine ⟨parse?_text, fun id other => text_injective, fun record other => text_injective,
    fun text id => parse?_eq_some_iff, fun text id h => ?_, fun text front back parts =>
      ⟨fun value => parse?_of_cluster_beyond parts, fun value => parse?_of_position_beyond parts⟩⟩
  rw [h, parse?_text]

/-- Identities at the ends of both ranges have texts, other texts spell them as well, and one more on
either side is not read. -/
theorem text_corresponds_at_ends :
    parse? (RecordId.text ⟨-32768, 9223372036854775807⟩) = some ⟨-32768, 9223372036854775807⟩ ∧
      parse? " -0032768 :+9223372036854775807\n" = some ⟨-32768, 9223372036854775807⟩ ∧
      parse? "# 32768 : 0" = none ∧ parse? "0:-9223372036854775809" = none := by
  obtain ⟨read, -, -, spells, -, beyond⟩ := text_corresponds
  have all {chars : List Char} {p : Char → Bool} (h : chars.all p = true) : ∀ c ∈ chars, p c = true :=
    List.all_eq_true.1 h
  have cluster : Stands " 32768 ".toList 32768 :=
    ⟨[' '], "32768".toList, [' '], rfl, .unsigned (by decide) (all rfl), all rfl, all rfl⟩
  have position : Stands "-9223372036854775809".toList (-9223372036854775809) :=
    ⟨[], "-9223372036854775809".toList, [], rfl, .minus (by decide) (all rfl), all rfl, all rfl⟩
  refine ⟨read _, (spells _ _).2 ⟨" -0032768 ".toList, "+9223372036854775807\n".toList, ?_, ?_, ?_⟩,
    (beyond _ _ " 0".toList ⟨by decide, .inl rfl⟩).1 _ cluster (by decide),
    (beyond _ "0".toList _ ⟨by decide, .inr ⟨rfl, by decide⟩⟩).2 _ position (by decide)⟩
  · exact ⟨by decide, .inr ⟨rfl, by decide⟩⟩
  · exact ⟨[' '], "-0032768".toList, [' '], rfl, .minus (by decide) (all rfl), all rfl, all rfl⟩
  · exact ⟨[], "+9223372036854775807".toList, ['\n'], rfl, .plus (by decide) (all rfl), all rfl, all rfl⟩

end RecordId

end RecordBase
