/-!
# Byte strings and the digits of words

A byte string is a list of octets. The bytes of a number are its digits to base 256, least
significant first (`littleEndian`) or last (`bigEndian`), and `Word` names the fixed-width
integers whose bit patterns are written that way.

Main statements: reading the digits of a number gives the number back when it fits
(`ofLittleEndian_littleEndian`), and writing the number of some digits gives the digits back
(`littleEndian_ofLittleEndian`), so a word and its bytes determine each other.
-/

-- A power of numbers is the built-in one also where Mathlib knows of others.
attribute [instance (2000), default_instance 20000] instPowNat

namespace RecordBase

/-- A string of octets. -/
abbrev Bytes := List UInt8

namespace Bytes

/-- The `width` lowest digits of `value` to base 256, least significant first. -/
def littleEndian : (width value : Nat) → Bytes
  | 0, _ => []
  | width + 1, value => UInt8.ofNat value :: littleEndian width (value / 256)

/-- The number whose digits to base 256 are given, least significant first. -/
def ofLittleEndian : Bytes → Nat
  | [] => 0
  | digit :: rest => digit.toNat + 256 * ofLittleEndian rest

/-- The `width` lowest digits of `value` to base 256, most significant first. -/
def bigEndian (width value : Nat) : Bytes := (littleEndian width value).reverse

/-- The number whose digits to base 256 are given, most significant first. -/
def ofBigEndian (digits : Bytes) : Nat := ofLittleEndian digits.reverse

@[simp] theorem length_littleEndian (width value : Nat) :
    (littleEndian width value).length = width := by
  induction width generalizing value with
  | zero => rfl
  | succ width ih => simp [littleEndian, ih]

@[simp] theorem length_bigEndian (width value : Nat) : (bigEndian width value).length = width := by
  simp [bigEndian]

theorem ofLittleEndian_lt (digits : Bytes) : ofLittleEndian digits < 256 ^ digits.length := by
  induction digits with
  | nil => simp [ofLittleEndian]
  | cons digit rest ih =>
    have := digit.toNat_lt
    simp only [ofLittleEndian, List.length_cons, Nat.pow_succ]
    omega

theorem ofLittleEndian_littleEndian {width value : Nat} (h : value < 256 ^ width) :
    ofLittleEndian (littleEndian width value) = value := by
  induction width generalizing value with
  | zero => simp only [Nat.pow_zero] at h; simp only [littleEndian, ofLittleEndian]; omega
  | succ width ih =>
    have hq : value / 256 < 256 ^ width := by
      rw [Nat.pow_succ] at h; omega
    simp only [littleEndian, ofLittleEndian, ih hq, UInt8.toNat_ofNat']
    omega

theorem littleEndian_ofLittleEndian (digits : Bytes) :
    littleEndian digits.length (ofLittleEndian digits) = digits := by
  induction digits with
  | nil => rfl
  | cons digit rest ih =>
    have hd := digit.toNat_lt
    have hq : (digit.toNat + 256 * ofLittleEndian rest) / 256 = ofLittleEndian rest := by omega
    have hr : UInt8.ofNat (digit.toNat + 256 * ofLittleEndian rest) = digit := by
      apply UInt8.toNat_inj.mp
      rw [UInt8.toNat_ofNat']
      omega
    simp only [List.length_cons, littleEndian, ofLittleEndian, hq, hr, ih]

theorem ofBigEndian_bigEndian {width value : Nat} (h : value < 256 ^ width) :
    ofBigEndian (bigEndian width value) = value := by
  simp [ofBigEndian, bigEndian, ofLittleEndian_littleEndian h]

theorem bigEndian_ofBigEndian (digits : Bytes) :
    bigEndian digits.length (ofBigEndian digits) = digits := by
  have := littleEndian_ofLittleEndian digits.reverse
  rw [List.length_reverse] at this
  simp [ofBigEndian, bigEndian, this]

end Bytes

/-! ## Words -/

/-- A fixed-width integer: its values and the bit patterns of `width` bytes correspond. -/
class Word (α : Type) where
  /-- Bytes a value occupies. -/
  width : Nat
  /-- The bit pattern of a value, as a number. -/
  bits : α → Nat
  /-- The value with a bit pattern. -/
  ofBits : Nat → α
  bits_lt (value : α) : bits value < 256 ^ width
  ofBits_bits (value : α) : ofBits (bits value) = value
  bits_ofBits {pattern : Nat} : pattern < 256 ^ width → bits (ofBits pattern) = pattern

instance : Word UInt8 where
  width := 1
  bits value := value.toNat
  ofBits := UInt8.ofNat
  bits_lt value := value.toNat_lt
  ofBits_bits value := by simp
  bits_ofBits h := by simp only [UInt8.toNat_ofNat']; omega

instance : Word UInt32 where
  width := 4
  bits value := value.toNat
  ofBits := UInt32.ofNat
  bits_lt value := value.toNat_lt
  ofBits_bits value := by simp
  bits_ofBits h := by simp only [UInt32.toNat_ofNat']; omega

instance : Word Int16 where
  width := 2
  bits value := value.toBitVec.toNat
  ofBits pattern := Int16.ofBitVec (BitVec.ofNat 16 pattern)
  bits_lt value := value.toBitVec.isLt
  ofBits_bits value := by simp
  bits_ofBits h := by simp only [Int16.toBitVec_ofBitVec, BitVec.toNat_ofNat]; omega

instance : Word Int32 where
  width := 4
  bits value := value.toBitVec.toNat
  ofBits pattern := Int32.ofBitVec (BitVec.ofNat 32 pattern)
  bits_lt value := value.toBitVec.isLt
  ofBits_bits value := by simp
  bits_ofBits h := by simp only [Int32.toBitVec_ofBitVec, BitVec.toNat_ofNat]; omega

instance : Word Int64 where
  width := 8
  bits value := value.toBitVec.toNat
  ofBits pattern := Int64.ofBitVec (BitVec.ofNat 64 pattern)
  bits_lt value := value.toBitVec.isLt
  ofBits_bits value := by simp
  bits_ofBits h := by simp only [Int64.toBitVec_ofBitVec, BitVec.toNat_ofNat]; omega

namespace Word

variable {α : Type} [Word α]

/-- The bytes of a word, least significant first. -/
def toLittleEndian (value : α) : Bytes := Bytes.littleEndian (width α) (bits value)

/-- The word whose bytes are given, least significant first. -/
def ofLittleEndian (bytes : Bytes) : α := ofBits (Bytes.ofLittleEndian bytes)

/-- The bytes of a word, most significant first. -/
def toBigEndian (value : α) : Bytes := Bytes.bigEndian (width α) (bits value)

/-- The word whose bytes are given, most significant first. -/
def ofBigEndian (bytes : Bytes) : α := ofBits (Bytes.ofBigEndian bytes)

@[simp] theorem length_toLittleEndian (value : α) : (toLittleEndian value).length = width α := by
  simp [toLittleEndian]

@[simp] theorem length_toBigEndian (value : α) : (toBigEndian value).length = width α := by
  simp [toBigEndian]

@[simp] theorem ofLittleEndian_toLittleEndian (value : α) :
    ofLittleEndian (toLittleEndian value) = value := by
  rw [ofLittleEndian, toLittleEndian, Bytes.ofLittleEndian_littleEndian (bits_lt value), ofBits_bits]

@[simp] theorem ofBigEndian_toBigEndian (value : α) : ofBigEndian (toBigEndian value) = value := by
  rw [ofBigEndian, toBigEndian, Bytes.ofBigEndian_bigEndian (bits_lt value), ofBits_bits]

theorem toLittleEndian_ofLittleEndian {bytes : Bytes} (h : bytes.length = width α) :
    toLittleEndian (ofLittleEndian bytes : α) = bytes := by
  have hlt := Bytes.ofLittleEndian_lt bytes
  rw [h] at hlt
  rw [toLittleEndian, ofLittleEndian, bits_ofBits hlt, ← h, Bytes.littleEndian_ofLittleEndian]

theorem toBigEndian_ofBigEndian {bytes : Bytes} (h : bytes.length = width α) :
    toBigEndian (ofBigEndian bytes : α) = bytes := by
  have hlt := Bytes.ofLittleEndian_lt bytes.reverse
  rw [List.length_reverse, h] at hlt
  rw [toBigEndian, ofBigEndian, Bytes.ofBigEndian, bits_ofBits hlt, ← h]
  exact Bytes.bigEndian_ofBigEndian bytes

end Word

end RecordBase
