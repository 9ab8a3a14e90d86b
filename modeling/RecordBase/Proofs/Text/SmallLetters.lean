import RecordBase.Text.Blank
import RecordBase.Text.Lowercase
import Mathlib.Data.List.DropRight

/-!
# Small letters and blanks

What lower-casing makes of a character, it leaves as it is (`isSmall_of_mem_lowercaseAfter`), and it
makes no blank of a letter and no letter of a blank. So the lower-case form of a text is its own
(`lowercase_lowercase`), and has blanks at its ends just when the text has (`trim_lowercase_iff`).

For the characters from U+0080 on this is a fact about the table of capitals (`lowers_of_mem`): the
small letters of a range lie in no range of capitals, and no blank lies in either.
-/

namespace RecordBase.Text

/-! ## The table of capitals -/

/-- Whether lower-casing leaves a character as it is, wherever it stands. -/
def isSmall (c : Char) : Bool := c.toNat != 0x3a3 && smallLetters c == [c]

/-- Whether no code point from `first` to `last` is that of a blank. -/
def freeOfBlanks (first last : Nat) : Bool :=
  blankRanges.all fun blanks => last < blanks.1 || blanks.2 < first

namespace CaseRange

/-- Code point of the first small letter. -/
def small (range : CaseRange) : Nat := (range.first + range.shift).toNat

/-- Code point of the last small letter. -/
def smallLast (range : CaseRange) : Nat := range.small + (range.last - range.first)

/-- Whether no small letter of a range is a capital of another one: they lie elsewhere, or in turn. -/
def apart (range other : CaseRange) : Bool :=
  range.smallLast.blt other.first || other.last.blt range.small ||
    (range.step == 2 || range.first == range.last) && other.step == 2 &&
      (range.small + other.first) % 2 == 1

/-- Whether the small letters of a range are characters past the capital Z, and no capitals, and neither
they nor the capitals are blanks. -/
def lowers (range : CaseRange) : Bool :=
  0x5a < range.small && (range.smallLast < 0xd800 || 0xdfff < range.small) &&
    range.smallLast < 0x110000 && (range.smallLast < 0x130 || 0x130 < range.small) &&
    freeOfBlanks range.first range.last && freeOfBlanks range.small range.smallLast &&
    smallLetterRanges.all (range.apart ·)

end CaseRange

theorem lowers_of_mem : ∀ range ∈ smallLetterRanges, range.lowers = true := by decide +kernel

/-- Characters below U+0080. -/
theorem toLower_ascii : ∀ code < 0x80, isSmall (Char.ofNat code).toLower = true ∧
    isBlank (Char.ofNat code).toLower = isBlank (Char.ofNat code) ∧
    (0x5a < code → isSmall (Char.ofNat code) = true) := by
  decide +kernel

variable {range other : CaseRange} {c d : Char} {code : Nat}

theorem not_inRanges_of_freeOfBlanks {first last : Nat} (free : freeOfBlanks first last = true)
    (hfirst : first ≤ code) (hlast : code ≤ last) : inRanges blankRanges code = false := by
  rw [Bool.eq_false_iff, ne_eq, inRanges_iff]
  rintro ⟨blanks, hmem, hcode⟩
  have := List.all_eq_true.1 free blanks hmem
  simp only [Bool.or_eq_true, decide_eq_true_eq] at this
  omega

/-- A character past the capital Z that no range of capitals holds, is small. -/
theorem isSmall_of_not_holds (hcode : 0x5a < c.toNat) (hdotted : c.toNat ≠ 0x130)
    (h : ∀ range ∈ smallLetterRanges, range.holds c.toNat = false) : isSmall c = true := by
  by_cases hascii : c.toNat < 0x80
  · have := (toLower_ascii c.toNat hascii).2.2 hcode
    rwa [Char.ofNat_toNat] at this
  · have hsigma : c.toNat ≠ 0x3a3 := by
      intro hc
      have capital : ∃ range ∈ smallLetterRanges, range.holds 0x3a3 = true := by decide +kernel
      obtain ⟨range, hmem, hholds⟩ := capital
      rw [← hc, h range hmem] at hholds
      cases hholds
    have hnone : smallLetterRanges.find? (·.holds c.toNat) = none := by
      simpa using h
    simp only [isSmall, smallLetters, if_neg hascii, if_neg hdotted, hnone, bne_iff_ne.2 hsigma,
      BEq.rfl, Bool.and_self]

namespace CaseRange

theorem holds_iff : range.holds code = true ↔
    range.first ≤ code ∧ code ≤ range.last ∧ (code - range.first) % range.step = 0 := by
  simp [holds, and_assoc]

theorem not_holds_of_apart (apart : range.apart other = true) (h : range.holds code = true) :
    other.holds (range.small + (code - range.first)) = false := by
  rw [holds_iff] at h
  simp only [CaseRange.apart, smallLast, Bool.or_eq_true, Bool.and_eq_true, beq_iff_eq,
    Nat.blt_eq] at apart
  rw [Bool.eq_false_iff, ne_eq, holds_iff]
  rintro ⟨hfirst, hlast, hstep⟩
  rcases apart with (hbelow | habove) | ⟨⟨htwo | hsingle, htwo'⟩, hodd⟩
  · omega
  · omega
  · rw [htwo] at h
    rw [htwo'] at hstep
    omega
  · rw [htwo'] at hstep
    omega

/-- The small letter of a capital is small, and neither is a blank. -/
theorem letter_of_lowers (lowers : range.lowers = true) (h : range.holds code = true) :
    isSmall (Char.ofNat (code + range.shift).toNat) = true ∧
      isBlank (Char.ofNat (code + range.shift).toNat) = false ∧
      inRanges blankRanges code = false := by
  simp only [CaseRange.lowers, Bool.and_eq_true, Bool.or_eq_true, decide_eq_true_eq,
    List.all_eq_true] at lowers
  obtain ⟨⟨⟨⟨⟨⟨hascii, hvalid⟩, hlimit⟩, hdotted⟩, hcapitals⟩, hsmall⟩, hapart⟩ := lowers
  obtain ⟨hfirst, hlast, -⟩ := holds_iff.1 h
  have hletter : (code + range.shift).toNat = range.small + (code - range.first) := by
    simp only [small] at hascii ⊢
    omega
  have hlast' : range.small + (code - range.first) ≤ range.smallLast := by
    simp only [smallLast]
    omega
  have hcode : (Char.ofNat (code + range.shift).toNat).toNat =
      range.small + (code - range.first) := by
    have hvalid' : (range.small + (code - range.first)).isValidChar := by
      simp only [Nat.isValidChar]
      omega
    rw [hletter, Char.ofNat, dif_pos hvalid']
    rfl
  refine ⟨isSmall_of_not_holds ?_ ?_ fun other hother => ?_, ?_, ?_⟩
  · omega
  · omega
  · rw [hcode]
    exact not_holds_of_apart (hapart other hother) h
  · rw [isBlank, hcode]
    exact not_inRanges_of_freeOfBlanks hsmall (Nat.le_add_right _ _) hlast'
  · exact not_inRanges_of_freeOfBlanks hcapitals hfirst hlast

end CaseRange

/-! ## What a character is lower-cased to -/

/-- What a character is lower-cased to: small letters, which are blanks just if it is one. -/
structure Lowered (c : Char) (letters : List Char) : Prop where
  ne_nil : letters ≠ []
  small : ∀ d ∈ letters, isSmall d = true
  blank : ∀ d ∈ letters, isBlank d = isBlank c

theorem Lowered.one (small : isSmall d = true) (blank : isBlank d = isBlank c) : Lowered c [d] where
  ne_nil := List.cons_ne_nil d []
  small e he := by rwa [List.mem_singleton.1 he]
  blank e he := by rwa [List.mem_singleton.1 he]

theorem lowered_smallLetters (c : Char) : Lowered c (smallLetters c) := by
  unfold smallLetters
  split
  case isTrue hascii =>
    obtain ⟨hsmall, hblank, -⟩ := toLower_ascii c.toNat hascii
    rw [Char.ofNat_toNat] at hsmall hblank
    exact .one hsmall hblank
  case isFalse hascii =>
    split
    case isTrue hdotted =>
      have hblank : isBlank c = false := by
        rw [isBlank, hdotted]
        decide
      refine ⟨List.cons_ne_nil _ _, ?_, ?_⟩
      · exact List.forall_mem_cons.2 ⟨by decide, List.forall_mem_singleton.2 (by decide +kernel)⟩
      · rw [hblank]
        exact List.forall_mem_cons.2 ⟨by decide, List.forall_mem_singleton.2 (by decide)⟩
    case isFalse hdotted =>
      split
      case h_1 range hfind =>
        have hholds := List.find?_some hfind
        obtain ⟨hsmall, hblank, hcapital⟩ :=
          CaseRange.letter_of_lowers (lowers_of_mem range (List.mem_of_find?_eq_some hfind)) hholds
        exact .one hsmall (hblank.trans hcapital.symm)
      case h_2 hfind =>
        refine .one (isSmall_of_not_holds (by omega) hdotted fun range hrange => ?_) rfl
        simpa using List.find?_eq_none.1 hfind range hrange

theorem lowered_sigma (hsigma : c.toNat = 0x3a3) (final : Bool) :
    Lowered c [Char.ofNat (if final then 0x3c2 else 0x3c3)] := by
  have hblank : isBlank c = false := by
    rw [isBlank, hsigma]
    decide
  cases final with
  | false => exact .one (by decide) (Eq.trans (by decide) hblank.symm)
  | true => exact .one (by decide) (Eq.trans (by decide) hblank.symm)

theorem lowercaseAfter_cons (before : List Char) (c : Char) (rest : List Char) :
    ∃ small, Lowered c small ∧
      lowercaseAfter before (c :: rest) = small ++ lowercaseAfter (c :: before) rest := by
  by_cases hsigma : c.toNat = 0x3a3
  · refine ⟨_, lowered_sigma hsigma (startsCased before && !startsCased rest), ?_⟩
    simp only [lowercaseAfter, if_pos hsigma]
  · refine ⟨_, lowered_smallLetters c, ?_⟩
    simp only [lowercaseAfter, if_neg hsigma]

/-! ## The lower-case form of a text -/

theorem isSmall_of_mem_lowercaseAfter {before chars : List Char}
    (h : c ∈ lowercaseAfter before chars) : isSmall c = true := by
  induction chars generalizing before with
  | nil => cases h
  | cons first rest ih =>
    obtain ⟨small, hlowered, heq⟩ := lowercaseAfter_cons before first rest
    rw [heq, List.mem_append] at h
    exact h.elim (hlowered.small c) ih

theorem lowercaseAfter_eq_self {before chars : List Char} (h : ∀ c ∈ chars, isSmall c = true) :
    lowercaseAfter before chars = chars := by
  induction chars generalizing before with
  | nil => rfl
  | cons first rest ih =>
    have hfirst := h first List.mem_cons_self
    simp only [isSmall, Bool.and_eq_true, bne_iff_ne, beq_iff_eq] at hfirst
    simp only [lowercaseAfter, if_neg hfirst.1, hfirst.2, List.cons_append, List.nil_append,
      ih fun c hc => h c (List.mem_cons_of_mem first hc)]

/-- The lower-case form of a text is its own. -/
theorem lowercase_lowercase (text : String) : lowercase (lowercase text) = lowercase text := by
  rw [lowercase, lowercase, String.toList_ofList,
    lowercaseAfter_eq_self fun _ => isSmall_of_mem_lowercaseAfter]

theorem lowercase_eq_empty {text : String} : lowercase text = "" ↔ text = "" := by
  have hempty (before chars : List Char) : lowercaseAfter before chars = [] ↔ chars = [] := by
    cases chars with
    | nil => exact Iff.rfl
    | cons first rest =>
      obtain ⟨small, hlowered, heq⟩ := lowercaseAfter_cons before first rest
      simp [heq, hlowered.ne_nil]
  rw [lowercase, ← String.toList_inj, String.toList_ofList, ← String.toList_inj]
  exact hempty [] text.toList

theorem head?_lowercaseAfter (before chars : List Char) :
    (lowercaseAfter before chars).head?.map isBlank = chars.head?.map isBlank := by
  cases chars with
  | nil => rfl
  | cons first rest =>
    obtain ⟨small, hlowered, heq⟩ := lowercaseAfter_cons before first rest
    obtain ⟨d, more, rfl⟩ := List.exists_cons_of_ne_nil hlowered.ne_nil
    rw [heq]
    exact congrArg some (hlowered.blank d List.mem_cons_self)

theorem getLast?_lowercaseAfter (before chars : List Char) :
    (lowercaseAfter before chars).getLast?.map isBlank = chars.getLast?.map isBlank := by
  induction chars generalizing before with
  | nil => rfl
  | cons first rest ih =>
    obtain ⟨small, hlowered, heq⟩ := lowercaseAfter_cons before first rest
    have hrest := ih (first :: before)
    rw [heq, List.getLast?_append]
    cases rest with
    | nil =>
      have hlast := List.getLast?_eq_some_getLast hlowered.ne_nil
      rw [lowercaseAfter, List.getLast?_nil, Option.none_or, hlast]
      exact congrArg some (hlowered.blank _ (List.getLast_mem hlowered.ne_nil))
    | cons next others =>
      rw [List.getLast?_cons_cons, ← hrest]
      rw [List.getLast?_cons, Option.map_some] at hrest
      obtain ⟨last, hlast, -⟩ := Option.map_eq_some_iff.1 hrest
      rw [hlast, Option.some_or]

/-! ## Blanks at the ends -/

theorem trimChars_eq (chars : List Char) :
    trimChars chars = (chars.dropWhile isBlank).rdropWhile isBlank := rfl

theorem trimChars_eq_self_iff_drop {chars : List Char} : trimChars chars = chars ↔
    chars.dropWhile isBlank = chars ∧ chars.rdropWhile isBlank = chars := by
  rw [trimChars_eq]
  constructor
  · intro h
    -- trimming at the end makes nothing longer, so nothing was lost at the front
    have hfront : chars.dropWhile isBlank = chars := by
      refine (List.dropWhile_suffix isBlank).eq_of_length_le ?_
      have := (List.rdropWhile_prefix isBlank (chars.dropWhile isBlank)).length_le
      rwa [h] at this
    rw [hfront] at h
    exact ⟨hfront, h⟩
  · rintro ⟨hfront, hback⟩
    rw [hfront, hback]

/-- Trimming leaves a text as it is just when no blank stands at an end of it. -/
theorem trimChars_eq_self_iff {chars : List Char} : trimChars chars = chars ↔
    chars.head?.map isBlank ≠ some true ∧ chars.getLast?.map isBlank ≠ some true := by
  rw [trimChars_eq_self_iff_drop]
  refine and_congr ?_ ?_
  · cases chars with
    | nil => simp
    | cons first rest => simp [List.dropWhile_eq_self_iff]
  · rcases List.eq_nil_or_concat chars with rfl | ⟨front, last, rfl⟩
    · simp
    · simp [List.rdropWhile_eq_self_iff]

theorem trim_eq_self_iff {text : String} : trim text = text ↔
    trimChars text.toList = text.toList := by
  rw [trim, ← String.toList_inj, String.toList_ofList]

/-- The lower-case form of a text is trimmed just when the text is. -/
theorem trim_lowercase_iff {text : String} : trim (lowercase text) = lowercase text ↔
    trim text = text := by
  simp only [trim_eq_self_iff, trimChars_eq_self_iff, lowercase, String.toList_ofList,
    head?_lowercaseAfter, getLast?_lowercaseAfter]

/-- A trimmed text is trimmed. -/
theorem trim_trim (text : String) : trim (trim text) = trim text := by
  rw [trim_eq_self_iff, trim, String.toList_ofList, trimChars_eq_self_iff_drop, trimChars_eq]
  have hfront := List.dropWhile_idempotent isBlank text.toList
  have hback := List.rdropWhile_prefix isBlank (text.toList.dropWhile isBlank)
  refine ⟨List.dropWhile_eq_self_iff.2 fun hlength => ?_, List.rdropWhile_idempotent _ _⟩
  rw [hback.getElem hlength]
  exact List.dropWhile_eq_self_iff.1 hfront (hlength.trans_le hback.length_le)

theorem ne_empty_of_trim {text : String} (h : trim text ≠ "") : text ≠ "" := by
  rintro rfl
  exact h rfl

end RecordBase.Text
