/-!
# Binary floating-point formats

The bit patterns of the IEEE 754 formats of 16 and 32 bits, widened to the format of 64 bits, and
the narrow pattern of a wide number that widens back to exactly that number.
-/

namespace RecordBase.Cbor

/-- A binary format with a sign, an exponent and a fraction. -/
structure FloatFormat where
  exponentBits : Nat
  fractionBits : Nat
  deriving DecidableEq, Repr

namespace FloatFormat

/-- The format of 16 bits. -/
def half : FloatFormat := ⟨5, 10⟩

/-- The format of 32 bits. -/
def single : FloatFormat := ⟨8, 23⟩

/-- The format of 64 bits. -/
def double : FloatFormat := ⟨11, 52⟩

/-- What is added to an exponent before it is stored. -/
def bias (format : FloatFormat) : Nat := 2 ^ (format.exponentBits - 1) - 1

/-- The stored exponent of infinities and of what is no number. -/
def special (format : FloatFormat) : Nat := 2 ^ format.exponentBits - 1

/-- The stored exponent of a pattern. -/
def exponent (format : FloatFormat) (pattern : Nat) : Nat :=
  pattern / 2 ^ format.fractionBits % 2 ^ format.exponentBits

/-- The fraction of a pattern. -/
def fraction (format : FloatFormat) (pattern : Nat) : Nat := pattern % 2 ^ format.fractionBits

/-- The sign of a pattern, one for negative numbers. -/
def sign (format : FloatFormat) (pattern : Nat) : Nat :=
  pattern / 2 ^ (format.exponentBits + format.fractionBits) % 2

/-- The pattern with a sign, a stored exponent and a fraction. -/
def pattern (format : FloatFormat) (sign exponent fraction : Nat) : Nat :=
  sign * 2 ^ (format.exponentBits + format.fractionBits) + exponent * 2 ^ format.fractionBits +
    fraction

/-- The highest bit of a fraction, which marks what is no number as quiet. -/
def quiet (format : FloatFormat) : Nat := 2 ^ (format.fractionBits - 1)

/-- The bits by which a fraction is shorter than a wide one. -/
def gap (format : FloatFormat) : Nat := double.fractionBits - format.fractionBits

/-- The wide exponent and fraction of a narrow exponent and fraction. What is no number becomes
quiet, and a number below the normal ones becomes normal. -/
def widenParts (format : FloatFormat) (exponent fraction : Nat) : Nat × Nat :=
  let long := fraction * 2 ^ format.gap
  if exponent = format.special then
    (double.special, if fraction = 0 then 0 else long ||| double.quiet)
  else if exponent ≠ 0 then (exponent + double.bias - format.bias, long)
  else if fraction = 0 then (0, 0)
  else
    let top := fraction.log2
    (top + 1 + double.bias - format.bias - format.fractionBits,
      (fraction - 2 ^ top) * 2 ^ (double.fractionBits - top))

/-- The wide pattern of a narrow one. -/
def widen (format : FloatFormat) (narrow : Nat) : Nat :=
  let (exponent, fraction) :=
    format.widenParts (format.exponent narrow) (format.fraction narrow)
  double.pattern (format.sign narrow) exponent fraction

/-- The narrow exponent and fraction that a wide number would have, were its low bits zero. -/
def narrowParts (format : FloatFormat) (exponent fraction : Nat) : Nat × Nat :=
  if exponent = double.special then (format.special, fraction / 2 ^ format.gap)
  else if double.bias < exponent + format.bias then
    (exponent + format.bias - double.bias, fraction / 2 ^ format.gap)
  else
    (0, (2 ^ double.fractionBits + fraction) /
      2 ^ (format.gap + 1 + double.bias - format.bias - exponent))

/-- The narrow pattern that widens to a wide one, if there is one. -/
def narrow? (format : FloatFormat) (wide : Nat) : Option Nat :=
  let (exponent, fraction) := format.narrowParts (double.exponent wide) (double.fraction wide)
  let narrow := format.pattern (double.sign wide) exponent fraction
  if exponent ≤ format.special ∧ format.widen narrow = wide then some narrow else none

end FloatFormat

end RecordBase.Cbor
