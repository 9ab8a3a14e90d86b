import RecordBase.Bytes.Endian

/-!
# The checksum of log entries

CRC-32 with the reflected polynomial 0xEDB88320, all bits set at the start and inverted at the
end. `crc32` takes an octet at a time from a table of 256 words; `crc32Bitwise` shifts the
remainder bit by bit.
-/

namespace RecordBase.Checksum

/-- The polynomial, its bits reflected. -/
def polynomial : UInt32 := 0xEDB88320

/-- Shifts the remainder by one place. -/
def shift (remainder : UInt32) : UInt32 :=
  if remainder &&& 1 = 1 then (remainder >>> 1) ^^^ polynomial else remainder >>> 1

/-- Shifts the remainder by `count` places. -/
def shifts : (count : Nat) → UInt32 → UInt32
  | 0, remainder => remainder
  | count + 1, remainder => shifts count (shift remainder)

/-- The remainder of every octet. -/
def octetRemainders : Array UInt32 :=
  Array.ofFn fun octet : Fin 256 => shifts 8 (UInt32.ofNat octet)

/-- Takes an octet into the remainder through the table. -/
def update (remainder : UInt32) (octet : UInt8) : UInt32 :=
  (remainder >>> 8) ^^^ octetRemainders.getD ((remainder ^^^ octet.toUInt32) &&& 0xff).toNat 0

/-- The checksum of some bytes. -/
def crc32 (bytes : Bytes) : UInt32 := ~~~(bytes.foldl update 0xffffffff)

/-- The bits of an octet, the least significant first. -/
def octetBits (octet : UInt8) : List Bool :=
  (List.range 8).map fun place => octet.toNat.testBit place

/-- Takes one bit into the remainder. -/
def updateBit (remainder : UInt32) (bit : Bool) : UInt32 :=
  shift (remainder ^^^ (if bit then 1 else 0))

/-- The checksum of some bytes, their bits taken one by one. -/
def crc32Bitwise (bytes : Bytes) : UInt32 :=
  ~~~((bytes.flatMap octetBits).foldl updateBit 0xffffffff)

end RecordBase.Checksum
