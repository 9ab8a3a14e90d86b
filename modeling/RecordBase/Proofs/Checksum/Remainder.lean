import RecordBase.Checksum.Crc32
import Mathlib.Data.Nat.Bitwise
import Mathlib.Tactic.Common

/-!
# Remainders tell small changes apart

A shift is linear (`shift_xor`) and loses nothing (`shift_eq_zero`): the polynomial has the highest
place, which the half of a remainder lacks. The table does eight shifts at a time (`update_eq_shifts`),
so taking up to four bytes in comes to shifts of the word that they spell (`foldl_update_eq_shifts`).

* `eq_of_foldl_window`: byte strings that differ, but only within four places next to one another, leave
  different remainders;
* `foldl_update_checksum`: bytes followed by their checksum always leave the same remainder.
-/

namespace RecordBase.Checksum

/-! ## Shifts -/

/-- What the place that a shift drops adds to the remainder. -/
def carry (remainder : UInt32) : UInt32 := if remainder.toNat.testBit 0 then polynomial else 0

theorem and_one_eq_one_iff (remainder : UInt32) :
    remainder &&& 1 = 1 ↔ remainder.toNat.testBit 0 = true := by
  rw [← UInt32.toNat_inj, UInt32.toNat_and, UInt32.toNat_one, Nat.and_one_is_mod, Nat.testBit_zero,
    decide_eq_true_iff]

theorem shift_eq_carry (remainder : UInt32) :
    shift remainder = (remainder >>> 1) ^^^ carry remainder := by
  simp only [shift, carry, and_one_eq_one_iff]
  split
  · rfl
  · rw [UInt32.xor_zero]

theorem carry_xor (a b : UInt32) : carry (a ^^^ b) = carry a ^^^ carry b := by
  simp only [carry, UInt32.toNat_xor, Nat.testBit_xor]
  cases a.toNat.testBit 0 <;> cases b.toNat.testBit 0 <;> simp

theorem shift_xor (a b : UInt32) : shift (a ^^^ b) = shift a ^^^ shift b := by
  simp only [shift_eq_carry, UInt32.shiftRight_xor, carry_xor]
  ac_rfl

theorem shifts_xor (count : Nat) (a b : UInt32) :
    shifts count (a ^^^ b) = shifts count a ^^^ shifts count b := by
  induction count generalizing a b with
  | zero => rfl
  | succ count ih => rw [shifts, shift_xor, ih, shifts, shifts]

theorem shifts_add (m n : Nat) (remainder : UInt32) :
    shifts (m + n) remainder = shifts n (shifts m remainder) := by
  induction m generalizing remainder with
  | zero => rw [Nat.zero_add, shifts]
  | succ m ih => rw [Nat.succ_add, shifts, ih, shifts]

/-- A shift adds the polynomial to the half of an odd remainder, and that half is less than it. -/
theorem shift_eq_zero {remainder : UInt32} (h : shift remainder = 0) : remainder = 0 := by
  rw [shift_eq_carry, UInt32.xor_eq_zero_iff] at h
  have hlt := remainder.toNat_lt
  have hhalf : remainder.toNat / 2 = (carry remainder).toNat := by
    rw [← h, UInt32.toNat_shiftRight, UInt32.toNat_one, Nat.shiftRight_eq_div_pow]
  rw [carry] at hhalf
  rw [← UInt32.toNat_inj, UInt32.toNat_zero]
  split at hhalf
  · simp only [polynomial, UInt32.reduceToNat] at hhalf
    omega
  · rename_i heven
    rw [Nat.testBit_zero, decide_eq_true_iff] at heven
    rw [UInt32.toNat_zero] at hhalf
    omega

theorem shifts_eq_zero {count : Nat} {remainder : UInt32} (h : shifts count remainder = 0) :
    remainder = 0 := by
  induction count generalizing remainder with
  | zero => exact h
  | succ count ih => exact shift_eq_zero (ih h)

theorem shifts_injective (count : Nat) {a b : UInt32} (h : shifts count a = shifts count b) : a = b := by
  rw [← UInt32.xor_eq_zero_iff, ← shifts_xor] at h
  exact UInt32.xor_eq_zero_iff.1 (shifts_eq_zero h)

theorem toNat_shift_of_even {remainder : UInt32} (even : remainder.toNat % 2 = 0) :
    (shift remainder).toNat = remainder.toNat / 2 := by
  have hcarry : carry remainder = 0 := by simp [carry, Nat.testBit_zero, even]
  rw [shift_eq_carry, hcarry, UInt32.xor_zero, UInt32.toNat_shiftRight, UInt32.toNat_one,
    Nat.shiftRight_eq_div_pow]

/-- Shifts that drop zeros only divide. -/
theorem toNat_shifts_of_dvd {count : Nat} {remainder : UInt32} (h : 2 ^ count ∣ remainder.toNat) :
    (shifts count remainder).toNat = remainder.toNat / 2 ^ count := by
  induction count generalizing remainder with
  | zero => rw [shifts, Nat.pow_zero, Nat.div_one]
  | succ count ih =>
    obtain ⟨quotient, hquotient⟩ := h
    rw [Nat.pow_succ', Nat.mul_assoc] at hquotient
    have hhalf : (shift remainder).toNat = 2 ^ count * quotient := by
      rw [toNat_shift_of_even (by rw [hquotient, Nat.mul_mod_right]), hquotient,
        Nat.mul_div_cancel_left _ Nat.two_pos]
    rw [shifts, ih (hhalf ▸ Nat.dvd_mul_right ..), hhalf, hquotient, Nat.pow_succ',
      Nat.mul_div_mul_left _ _ Nat.two_pos]

/-! ## Octets -/

theorem octetRemainders_getD {index : UInt32} (h : index.toNat < 256) :
    octetRemainders.getD index.toNat 0 = shifts 8 index := by
  rw [octetRemainders, Array.getD_eq_getD_getElem?, Array.getElem?_ofFn, dif_pos h, Option.getD_some,
    UInt32.ofNat_toNat]

/-- The table holds what eight shifts make of the lowest octet; of the others, shifts drop zeros only. -/
theorem update_eq_shifts (remainder : UInt32) (octet : UInt8) :
    update remainder octet = shifts 8 (remainder ^^^ octet.toUInt32) := by
  have hoctet := octet.toNat_lt
  generalize hmet : remainder ^^^ octet.toUInt32 = met
  have hlow : (met &&& 0xff).toNat = met.toNat % 2 ^ 8 := by
    rw [UInt32.toNat_and]
    exact Nat.and_two_pow_sub_one_eq_mod _ 8
  have hclear : 2 ^ 8 ∣ (met ^^^ (met &&& 0xff)).toNat := by
    rw [Nat.dvd_iff_mod_eq_zero, UInt32.toNat_xor, Nat.xor_mod_two_pow, hlow, Nat.mod_mod, Nat.xor_self]
  have hhigh : shifts 8 (met ^^^ (met &&& 0xff)) = remainder >>> 8 := by
    rw [← UInt32.toNat_inj, toNat_shifts_of_dvd hclear, UInt32.toNat_xor, Nat.xor_div_two_pow, hlow,
      ← hmet, UInt32.toNat_xor, Nat.xor_div_two_pow, UInt8.toNat_toUInt32, UInt32.toNat_shiftRight,
      Nat.shiftRight_eq_div_pow, Nat.div_eq_of_lt (Nat.mod_lt _ (by decide)), Nat.div_eq_of_lt hoctet,
      Nat.xor_zero, Nat.xor_zero]
    rfl
  have hsplit : met = (met ^^^ (met &&& 0xff)) ^^^ (met &&& 0xff) := by
    rw [UInt32.xor_assoc, UInt32.xor_self, UInt32.xor_zero]
  rw [update, hmet, octetRemainders_getD (by omega), ← hhigh, ← shifts_xor, ← hsplit]

theorem update_injective {a b : UInt32} {octet : UInt8} (h : update a octet = update b octet) :
    a = b := by
  rw [update_eq_shifts, update_eq_shifts] at h
  exact (UInt32.xor_left_inj _).1 (shifts_injective 8 h)

theorem foldl_update_injective {a b : UInt32} {bytes : Bytes}
    (h : bytes.foldl update a = bytes.foldl update b) : a = b := by
  induction bytes generalizing a b with
  | nil => exact h
  | cons octet rest ih => exact update_injective (ih h)

/-! ## Words -/

/-- The word that up to four bytes spell. -/
def wordOf (bytes : Bytes) : UInt32 := UInt32.ofNat (Bytes.ofLittleEndian bytes)

theorem toNat_wordOf {bytes : Bytes} (h : bytes.length ≤ 4) :
    (wordOf bytes).toNat = Bytes.ofLittleEndian bytes := by
  have hlt := Bytes.ofLittleEndian_lt bytes
  have hpow : 256 ^ bytes.length ≤ 256 ^ 4 := Nat.pow_le_pow_right (by decide) h
  rw [wordOf, UInt32.toNat_ofNat']
  exact Nat.mod_eq_of_lt (Nat.lt_of_lt_of_le hlt hpow)

theorem wordOf_injective {a b : Bytes} (hb : b.length ≤ 4) (same : a.length = b.length)
    (h : wordOf a = wordOf b) : a = b := by
  have hnat := congrArg UInt32.toNat h
  rw [toNat_wordOf (same ▸ hb), toNat_wordOf hb] at hnat
  rw [← Bytes.littleEndian_ofLittleEndian a, hnat, same, Bytes.littleEndian_ofLittleEndian]

theorem xor_mul_two_pow {count low : Nat} (h : low < 2 ^ count) (high : Nat) :
    low ^^^ 2 ^ count * high = low + 2 ^ count * high := by
  rw [← Nat.div_add_mod (low ^^^ 2 ^ count * high) (2 ^ count), Nat.xor_div_two_pow,
    Nat.xor_mod_two_pow, Nat.div_eq_of_lt h, Nat.mod_eq_of_lt h, Nat.mul_mod_right,
    Nat.mul_div_cancel_left _ (Nat.two_pow_pos count), Nat.zero_xor, Nat.xor_zero, Nat.add_comm]

/-- Eight shifts take the first byte of a word in and leave the word of the others to come. -/
theorem shifts_wordOf_cons (remainder : UInt32) (octet : UInt8) {rest : Bytes} (h : rest.length < 4) :
    shifts 8 (remainder ^^^ wordOf (octet :: rest)) = update remainder octet ^^^ wordOf rest := by
  have hall : (octet :: rest).length ≤ 4 := h
  have hrest := Bytes.ofLittleEndian_lt rest
  have hpow : 256 ^ rest.length ≤ 256 ^ 3 := Nat.pow_le_pow_right (by decide) (Nat.le_of_lt_succ h)
  generalize hhigh : UInt32.ofNat (2 ^ 8 * Bytes.ofLittleEndian rest) = high
  have hnat : high.toNat = 2 ^ 8 * Bytes.ofLittleEndian rest := by
    rw [← hhigh, UInt32.toNat_ofNat']
    omega
  have hword : wordOf (octet :: rest) = octet.toUInt32 ^^^ high := by
    rw [← UInt32.toNat_inj, toNat_wordOf hall, UInt32.toNat_xor, hnat, UInt8.toNat_toUInt32,
      xor_mul_two_pow octet.toNat_lt]
    rfl
  have hshifted : shifts 8 high = wordOf rest := by
    rw [← UInt32.toNat_inj, toNat_shifts_of_dvd (hnat ▸ Nat.dvd_mul_right ..), hnat,
      Nat.mul_div_cancel_left _ (by decide), toNat_wordOf (Nat.le_of_lt h)]
  rw [hword, ← UInt32.xor_assoc, shifts_xor, hshifted, ← update_eq_shifts]

theorem foldl_update_eq_shifts {bytes : Bytes} (h : bytes.length ≤ 4) (remainder : UInt32) :
    bytes.foldl update remainder = shifts (8 * bytes.length) (remainder ^^^ wordOf bytes) := by
  induction bytes generalizing remainder with
  | nil => exact UInt32.xor_zero.symm
  | cons octet rest ih =>
    have hrest : rest.length < 4 := h
    rw [List.foldl_cons, ih (Nat.le_of_lt hrest), List.length_cons, Nat.mul_add_one, Nat.add_comm,
      shifts_add, shifts_wordOf_cons remainder octet hrest]

/-! ## Windows -/

theorem eq_of_foldl_update_eq {old new : Bytes} (window : old.length ≤ 4)
    (same : new.length = old.length) {remainder : UInt32}
    (h : new.foldl update remainder = old.foldl update remainder) : new = old := by
  rw [foldl_update_eq_shifts window, foldl_update_eq_shifts (same ▸ window), same] at h
  exact wordOf_injective window same ((UInt32.xor_right_inj _).1 (shifts_injective _ h))

/-- Two byte strings that agree but for four places next to one another, and leave the same remainder,
are the same: what comes before the four is taken in alike, and what comes after keeps remainders
apart. -/
theorem eq_of_foldl_window {a b : Bytes} {start : Nat} (same : a.length = b.length)
    (alike : ∀ place, place < start ∨ start + 4 ≤ place → a[place]? = b[place]?) (remainder : UInt32)
    (h : a.foldl update remainder = b.foldl update remainder) : a = b := by
  have hsplit (bytes : Bytes) :
      bytes = bytes.take start ++ ((bytes.drop start).take 4 ++ bytes.drop (start + 4)) := by
    rw [← List.drop_drop, List.take_append_drop, List.take_append_drop]
  have hfront : a.take start = b.take start := by
    apply List.ext_getElem?
    intro place
    simp only [List.getElem?_take]
    split
    · rename_i hbefore
      exact alike place (.inl hbefore)
    · rfl
  have hback : a.drop (start + 4) = b.drop (start + 4) := by
    apply List.ext_getElem?
    intro place
    simp only [List.getElem?_drop]
    exact alike _ (.inr (Nat.le_add_right ..))
  have hwindow : (a.drop start).take 4 = (b.drop start).take 4 := by
    rw [hsplit a, hsplit b, hfront, hback] at h
    simp only [List.foldl_append] at h
    refine eq_of_foldl_update_eq (List.length_take_le ..) ?_ (foldl_update_injective h)
    rw [List.length_take, List.length_take, List.length_drop, List.length_drop, same]
  rw [hsplit a, hfront, hwindow, hback, ← hsplit b]

/-- The remainder that bytes and their checksum leave. -/
def residue : UInt32 := shifts 32 0xffffffff

theorem xor_complement (word : UInt32) : word ^^^ ~~~word = 0xffffffff := by
  rw [UInt32.xor_not, UInt32.xor_self]
  rfl

theorem foldl_update_checksum (bytes : Bytes) :
    (bytes ++ Word.toLittleEndian (crc32 bytes)).foldl update 0xffffffff = residue := by
  have hlength : (Word.toLittleEndian (crc32 bytes)).length = 4 := Word.length_toLittleEndian _
  have hword : wordOf (Word.toLittleEndian (crc32 bytes)) = crc32 bytes :=
    Word.ofLittleEndian_toLittleEndian _
  rw [List.foldl_append, foldl_update_eq_shifts (Nat.le_of_eq hlength), hlength, hword, crc32,
    xor_complement, residue]

end RecordBase.Checksum
