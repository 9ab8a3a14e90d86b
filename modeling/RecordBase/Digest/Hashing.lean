import RecordBase.Access.Hashing
import RecordBase.Bytes.Hex
import RecordBase.Digest.Hmac
import RecordBase.Text.Quoted

/-!
# Digests of passwords

Passwords are digested by HMAC over SHA-256, and digests are written in hexadecimal.
-/

namespace RecordBase

/-- The wording of a fault in a hexadecimal text. -/
def Hex.Fault.message : Hex.Fault → String
  | oddLength => "Odd number of digits"
  | invalidDigit byte index =>
    "Invalid character " ++ Text.quoteChar (Char.ofNat byte.toNat) ++ " at position " ++
      toString index

/-- The digests of passwords. -/
instance Digest.hashing : Hashing where
  digest := Digest.hmac
  write := Hex.encode
  read text := (Hex.decode text).mapError Hex.Fault.message

end RecordBase
