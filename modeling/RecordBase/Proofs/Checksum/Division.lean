import RecordBase.Proofs.Checksum.Remainder
import Mathlib.Algebra.CharP.Two
import Mathlib.Algebra.Field.ZMod
import Mathlib.Algebra.Polynomial.Div
import Mathlib.Tactic.LinearCombination

/-!
# The checksum is the remainder of a division

Bits stand for the coefficients of a polynomial over the field with two elements, the first one for that
of the greatest power (`polynomialOf`); so a message is the polynomial of its bits, each octet's least
significant bit first, and so is a remainder (`wordPolynomial`).

* `foldl_updateBit_octetBits`: the table takes an octet in as its bits would be, one after another;
* `wordPolynomial_updateBit`: taking a bit in multiplies by `X`, adds the bit and a multiple of the generator;
* `wordPolynomial_foldl`: so what bits leave, taken in one after another, is what a division leaves;
* `crc32_is_remainder`: the checksum is the bit-by-bit one, and the complement of a remainder.
-/

namespace RecordBase.Checksum

open Polynomial

/-! ## Bits of numbers -/

/-- The lowest bits of a number, the least significant first. -/
def bitsOf (width value : Nat) : List Bool := (List.range width).map value.testBit

theorem length_bitsOf (width value : Nat) : (bitsOf width value).length = width := by simp [bitsOf]

theorem bitsOf_succ_last (width value : Nat) :
    bitsOf (width + 1) value = bitsOf width value ++ [value.testBit width] := by
  simp [bitsOf, List.range_succ]

theorem bitsOf_succ_first (width value : Nat) :
    bitsOf (width + 1) value = value.testBit 0 :: bitsOf width (value / 2) := by
  simp [bitsOf, List.range_succ_eq_map, Nat.testBit_succ, Function.comp_def]

/-! ## Octets, bit by bit -/

theorem toNat_ofNat_bit (bit : Bool) : (UInt32.ofNat bit.toNat).toNat = bit.toNat := by
  cases bit <;> rfl

theorem updateBit_eq_shift (remainder : UInt32) (bit : Bool) :
    updateBit remainder bit = shift (remainder ^^^ UInt32.ofNat bit.toNat) := by
  cases bit <;> rfl

section Places

variable {width : Nat}

theorem toNat_ofNat_placed (h : width < 32) (bit : Bool) :
    (UInt32.ofNat (2 ^ width * bit.toNat)).toNat = 2 ^ width * bit.toNat := by
  have hpow : 2 ^ width * 2 ≤ 2 ^ 32 := Nat.pow_le_pow_right Nat.two_pos h
  have hbound : 2 ^ width * bit.toNat ≤ 2 ^ width * 1 := Nat.mul_le_mul_left _ (Bool.toNat_le bit)
  have hpos := Nat.two_pow_pos width
  rw [UInt32.toNat_ofNat']
  exact Nat.mod_eq_of_lt (by omega)

/-- Shifts bring a bit to the lowest place. -/
theorem shifts_placed (h : width < 32) (bit : Bool) :
    shifts width (UInt32.ofNat (2 ^ width * bit.toNat)) = UInt32.ofNat bit.toNat := by
  have hplaced := toNat_ofNat_placed h bit
  have hdvd : 2 ^ width ∣ (UInt32.ofNat (2 ^ width * bit.toNat)).toNat :=
    hplaced.symm ▸ Nat.dvd_mul_right ..
  rw [← UInt32.toNat_inj, toNat_shifts_of_dvd hdvd, hplaced,
    Nat.mul_div_cancel_left _ (Nat.two_pow_pos width), toNat_ofNat_bit]

/-- One bit more of a number. -/
theorem ofNat_mod_two_pow_succ (h : width < 32) (value : Nat) :
    UInt32.ofNat (value % 2 ^ (width + 1)) =
      UInt32.ofNat (value % 2 ^ width) ^^^ UInt32.ofNat (2 ^ width * (value.testBit width).toNat) := by
  have hpow : 2 ^ (width + 1) ≤ 2 ^ 32 := Nat.pow_le_pow_right Nat.two_pos h
  have hsucc := Nat.mod_lt value (Nat.two_pow_pos (width + 1))
  have hlow := Nat.mod_lt value (Nat.two_pow_pos width)
  have hmod : value % 2 ^ (width + 1) = value % 2 ^ width + 2 ^ width * (value.testBit width).toNat := by
    rw [Nat.mod_pow_succ, ← Nat.toNat_testBit]
  have hlowest : (UInt32.ofNat (value % 2 ^ width)).toNat = value % 2 ^ width := by
    rw [UInt32.toNat_ofNat']
    exact Nat.mod_eq_of_lt (by omega)
  rw [← UInt32.toNat_inj, UInt32.toNat_xor, hlowest, toNat_ofNat_placed h, xor_mul_two_pow hlow, ← hmod,
    UInt32.toNat_ofNat']
  exact Nat.mod_eq_of_lt (by omega)

/-- Bits are taken in as the number that they spell: each bit is shifted to the lowest place just when
its turn comes. -/
theorem foldl_updateBit_bitsOf (h : width ≤ 32) (value : Nat) (remainder : UInt32) :
    (bitsOf width value).foldl updateBit remainder =
      shifts width (remainder ^^^ UInt32.ofNat (value % 2 ^ width)) := by
  induction width with
  | zero => simp [bitsOf, shifts, Nat.mod_one]
  | succ width ih =>
    rw [bitsOf_succ_last, List.foldl_append, ih (Nat.le_of_succ_le h), List.foldl_cons, List.foldl_nil,
      updateBit_eq_shift, ofNat_mod_two_pow_succ h, ← UInt32.xor_assoc, shifts_add,
      shifts_xor width (_ ^^^ _), shifts_placed h]
    rfl

end Places

theorem foldl_updateBit_octetBits (remainder : UInt32) (octet : UInt8) :
    (octetBits octet).foldl updateBit remainder = update remainder octet := by
  have hoctet : octet.toNat % 2 ^ 8 = octet.toNat := Nat.mod_eq_of_lt octet.toNat_lt
  have hword : UInt32.ofNat octet.toNat = octet.toUInt32 := by
    rw [← UInt32.toNat_inj, UInt32.toNat_ofNat', UInt8.toNat_toUInt32]
    exact Nat.mod_eq_of_lt (Nat.lt_trans octet.toNat_lt (by decide))
  have hbits : (octetBits octet).foldl updateBit remainder = _ :=
    foldl_updateBit_bitsOf (by decide) octet.toNat remainder
  rw [hbits, hoctet, hword, update_eq_shifts]

/-! ## Polynomials -/

/-- Bits as the coefficients of a polynomial, the first one as that of the greatest power. -/
noncomputable def polynomialOf : List Bool → (ZMod 2)[X]
  | [] => 0
  | bit :: rest => C (bit.toNat : ZMod 2) * X ^ rest.length + polynomialOf rest

theorem polynomialOf_append (first second : List Bool) :
    polynomialOf (first ++ second) = X ^ second.length * polynomialOf first + polynomialOf second := by
  induction first with
  | nil => simp [polynomialOf]
  | cons bit rest ih =>
    rw [List.cons_append, polynomialOf, polynomialOf, ih, List.length_append]
    ring

theorem degree_polynomialOf_lt (bits : List Bool) : (polynomialOf bits).degree < bits.length := by
  induction bits with
  | nil => simp [polynomialOf]
  | cons bit rest ih =>
    rw [polynomialOf, List.length_cons]
    have hsucc : (rest.length : WithBot Nat) < (rest.length + 1 : Nat) := by
      exact_mod_cast Nat.lt_succ_self _
    exact lt_of_le_of_lt (degree_add_le _ _)
      (max_lt (lt_of_le_of_lt (degree_C_mul_X_pow_le _ _) hsucc) (lt_trans ih hsucc))

theorem cast_xor (a b : Bool) :
    ((a ^^ b).toNat : ZMod 2) = (a.toNat : ZMod 2) + (b.toNat : ZMod 2) := by
  cases a <;> cases b <;> decide

theorem polynomialOf_bitsOf_xor (width a b : Nat) :
    polynomialOf (bitsOf width (a ^^^ b)) =
      polynomialOf (bitsOf width a) + polynomialOf (bitsOf width b) := by
  induction width with
  | zero => simp [bitsOf, polynomialOf]
  | succ width ih =>
    simp only [bitsOf_succ_last, polynomialOf_append, ih, polynomialOf, Nat.testBit_xor, cast_xor,
      C_add, List.length_singleton, List.length_nil]
    ring

/-- The polynomial of a remainder: its least significant bit is the coefficient of `X ^ 31`. -/
noncomputable def wordPolynomial (word : UInt32) : (ZMod 2)[X] := polynomialOf (bitsOf 32 word.toNat)

theorem degree_wordPolynomial_lt (word : UInt32) : (wordPolynomial word).degree < 32 := by
  have h := degree_polynomialOf_lt (bitsOf 32 word.toNat)
  rwa [length_bitsOf] at h

theorem wordPolynomial_xor (a b : UInt32) :
    wordPolynomial (a ^^^ b) = wordPolynomial a + wordPolynomial b := by
  rw [wordPolynomial, UInt32.toNat_xor, polynomialOf_bitsOf_xor, wordPolynomial, wordPolynomial]

/-- The generator of CRC-32, with all its powers. -/
noncomputable def generator : (ZMod 2)[X] :=
  X ^ 32 + (X ^ 26 + X ^ 23 + X ^ 22 + X ^ 16 + X ^ 12 + X ^ 11 + X ^ 10 + X ^ 8 + X ^ 7 + X ^ 5 +
    X ^ 4 + X ^ 2 + X + 1)

theorem generator_eq : generator = X ^ 32 + wordPolynomial polynomial := by
  have hbits : bitsOf 32 polynomial.toNat =
      [false, false, false, false, false, true, false, false, true, true, false, false, false, false,
        false, true, false, false, false, true, true, true, false, true, true, false, true, true, false,
        true, true, true] := by decide
  rw [generator, wordPolynomial, hbits]
  simp only [polynomialOf, List.length_cons, List.length_nil, Bool.toNat_true, Bool.toNat_false,
    Nat.cast_one, Nat.cast_zero, C_1, C_0]
  ring

theorem monic_generator : generator.Monic :=
  generator_eq ▸ monic_X_pow_add (degree_wordPolynomial_lt polynomial)

theorem degree_generator : generator.degree = 32 := by
  have h : (wordPolynomial polynomial).degree < ((X : (ZMod 2)[X]) ^ 32).degree := by
    rw [degree_X_pow]
    exact degree_wordPolynomial_lt polynomial
  rw [generator_eq, degree_add_eq_left_of_degree_lt h, degree_X_pow]
  rfl

/-! ## Division -/

theorem polynomialOf_bitsOf_zero (width : Nat) : polynomialOf (bitsOf width 0) = 0 := by
  induction width with
  | zero => rfl
  | succ width ih => simp [bitsOf_succ_last, polynomialOf_append, ih, polynomialOf]

theorem wordPolynomial_bit (bit : Bool) :
    wordPolynomial (UInt32.ofNat bit.toNat) = C (bit.toNat : ZMod 2) * X ^ 31 := by
  have hhalf : bit.toNat / 2 = 0 := by cases bit <;> rfl
  have hbit : bit.toNat.testBit 0 = bit := by cases bit <;> rfl
  rw [wordPolynomial, toNat_ofNat_bit, bitsOf_succ_first, polynomialOf, hhalf, hbit,
    polynomialOf_bitsOf_zero, length_bitsOf, add_zero]

theorem wordPolynomial_carry (word : UInt32) :
    wordPolynomial (carry word) =
      C ((word.toNat.testBit 0).toNat : ZMod 2) * wordPolynomial polynomial := by
  have hzero : wordPolynomial 0 = 0 := polynomialOf_bitsOf_zero 32
  cases h : word.toNat.testBit 0 <;> simp [carry, h, hzero]

/-- The lowest 33 bits of a word are its 32 and a zero, or its least significant one and those of its half. -/
theorem X_mul_wordPolynomial (word : UInt32) :
    X * wordPolynomial word =
      C ((word.toNat.testBit 0).toNat : ZMod 2) * X ^ 32 + wordPolynomial (word >>> 1) := by
  have hlast : word.toNat.testBit 32 = false := Nat.testBit_lt_two_pow word.toNat_lt
  have hhalf : (word >>> 1).toNat = word.toNat / 2 := by
    rw [UInt32.toNat_shiftRight, UInt32.toNat_one, Nat.shiftRight_eq_div_pow]
  have hbits := congrArg polynomialOf (bitsOf_succ_first 32 word.toNat)
  rw [bitsOf_succ_last, polynomialOf_append, hlast] at hbits
  simpa [polynomialOf, wordPolynomial, hhalf, length_bitsOf] using hbits

theorem wordPolynomial_shift (word : UInt32) :
    wordPolynomial (shift word) =
      X * wordPolynomial word + C ((word.toNat.testBit 0).toNat : ZMod 2) * generator := by
  generalize hlow : C ((word.toNat.testBit 0).toNat : ZMod 2) = low
  have htwo : low * X ^ 32 + low * X ^ 32 = 0 := CharTwo.add_self_eq_zero _
  rw [shift_eq_carry, wordPolynomial_xor, wordPolynomial_carry, X_mul_wordPolynomial, generator_eq, hlow]
  linear_combination -htwo

/-- A bit more: the message's polynomial is multiplied by `X`, and so is the remainder of what came before. -/
theorem wordPolynomial_updateBit (remainder : UInt32) (bit : Bool) :
    ∃ factor, wordPolynomial (updateBit remainder bit) =
      X * wordPolynomial remainder + X ^ 32 * C (bit.toNat : ZMod 2) + generator * factor := by
  refine ⟨C (((remainder ^^^ UInt32.ofNat bit.toNat).toNat.testBit 0).toNat : ZMod 2), ?_⟩
  rw [updateBit_eq_shift, wordPolynomial_shift, wordPolynomial_xor, wordPolynomial_bit]
  ring

/-- Bits taken in one after another leave a polynomial that differs from the one to be divided by a
multiple of the generator. -/
theorem dvd_wordPolynomial_foldl (bits : List Bool) (remainder : UInt32) :
    generator ∣ wordPolynomial (bits.foldl updateBit remainder) -
      (X ^ 32 * polynomialOf bits + X ^ bits.length * wordPolynomial remainder) := by
  induction bits generalizing remainder with
  | nil => simp [polynomialOf]
  | cons bit rest ih =>
    obtain ⟨factor, hstep⟩ := wordPolynomial_updateBit remainder bit
    obtain ⟨quotient, hrest⟩ := ih (updateBit remainder bit)
    refine ⟨quotient + X ^ rest.length * factor, ?_⟩
    rw [List.foldl_cons, polynomialOf, List.length_cons]
    linear_combination hrest + X ^ rest.length * hstep

/-- What a division by the generator leaves is of a degree less than 32, as words are. -/
theorem wordPolynomial_foldl (bits : List Bool) (remainder : UInt32) :
    wordPolynomial (bits.foldl updateBit remainder) =
      (X ^ 32 * polynomialOf bits + X ^ bits.length * wordPolynomial remainder) %ₘ generator := by
  obtain ⟨quotient, hquotient⟩ := dvd_wordPolynomial_foldl bits remainder
  refine (div_modByMonic_unique (-quotient) _ monic_generator ⟨?_, ?_⟩).2.symm
  · linear_combination hquotient
  · rw [degree_generator]
    exact degree_wordPolynomial_lt _

theorem foldl_update_eq_foldl_updateBit (bytes : Bytes) (remainder : UInt32) :
    bytes.foldl update remainder = (bytes.flatMap octetBits).foldl updateBit remainder := by
  simp only [List.foldl_flatMap, foldl_updateBit_octetBits]

theorem length_flatMap_octetBits (bytes : Bytes) : (bytes.flatMap octetBits).length = 8 * bytes.length := by
  induction bytes with
  | nil => rfl
  | cons octet rest ih =>
    rw [List.flatMap_cons, List.length_append, ih, octetBits, List.length_map, List.length_range,
      List.length_cons]
    omega

/-- **The checksum is CRC-32.** The table gives what taking the bits in one by one gives. And the
complement of the checksum is what the division of the message's polynomial by the generator leaves,
after 32 zeros are put behind its bits and the first 32 of all these bits are complemented. -/
theorem crc32_is_remainder (bytes : Bytes) :
    crc32 bytes = crc32Bitwise bytes ∧
      wordPolynomial (~~~crc32 bytes) =
        (X ^ 32 * polynomialOf (bytes.flatMap octetBits) +
          X ^ (8 * bytes.length) * polynomialOf (List.replicate 32 true)) %ₘ generator := by
  have hbits := foldl_update_eq_foldl_updateBit bytes 0xffffffff
  have hones : wordPolynomial 0xffffffff = polynomialOf (List.replicate 32 true) :=
    congrArg polynomialOf (by decide)
  refine ⟨?_, ?_⟩
  · rw [crc32, hbits, crc32Bitwise]
  · rw [crc32, UInt32.not_not, hbits, wordPolynomial_foldl, length_flatMap_octetBits, hones]

/-- The check value of CRC-32, for the digits from 1 to 9. -/
example : crc32 [0x31, 0x32, 0x33, 0x34, 0x35, 0x36, 0x37, 0x38, 0x39] = 0xCBF43926 := by decide +kernel

end RecordBase.Checksum
