/-!
# Decimal numerals

Whole numbers in decimal: an optional sign and at least one ASCII digit. The reader of a
fixed-width integer takes a numeral exactly when its value is one of that integer's. The digits to
base sixteen are here as well.
-/

namespace RecordBase.Numeral

/-- The value of a digit. -/
def digit? (c : Char) : Option Nat :=
  if c.isDigit then some (c.toNat - '0'.toNat) else none

/-- The value of a hexadecimal digit, in either case. -/
def hexDigit? (c : Char) : Option Nat :=
  if 'a' ≤ c ∧ c ≤ 'f' then some (c.toNat - 'a'.toNat + 10)
  else if 'A' ≤ c ∧ c ≤ 'F' then some (c.toNat - 'A'.toNat + 10)
  else digit? c

/-- Reads digits after those worth `value`; there may be none left. -/
def digitsAfter? (value : Nat) : List Char → Option Nat
  | [] => some value
  | c :: rest => (digit? c).bind fun d => digitsAfter? (10 * value + d) rest

/-- Reads one digit or more. -/
def digits? (chars : List Char) : Option Nat :=
  if chars.isEmpty then none else digitsAfter? 0 chars

/-- Reads a numeral with an optional sign. -/
def parseChars? : List Char → Option Int
  | '-' :: rest => (digits? rest).map fun value => -(value : Int)
  | '+' :: rest => (digits? rest).map fun value => (value : Int)
  | chars => (digits? chars).map fun value => (value : Int)

/-- The number a numeral stands for. -/
def parse? (text : String) : Option Int := parseChars? text.toList

/-- The number a numeral stands for, if it lies between two bounds. -/
def parseWithin? (least greatest : Int) (text : String) : Option Int :=
  (parse? text).filter fun value => least ≤ value && value ≤ greatest

/-- A 16-bit integer. -/
def parseInt16? (text : String) : Option Int16 :=
  (parseWithin? (-2 ^ 15) (2 ^ 15 - 1) text).map Int16.ofInt

/-- A 64-bit integer. -/
def parseInt64? (text : String) : Option Int64 :=
  (parseWithin? (-2 ^ 63) (2 ^ 63 - 1) text).map Int64.ofInt

/-- The numeral of a number. -/
def format (value : Int) : String := toString value

end RecordBase.Numeral
