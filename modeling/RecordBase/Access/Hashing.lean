import RecordBase.Bytes.Endian

/-!
# Digests

Passwords are digested, and digests written in settings, in ways that accounts take from elsewhere.
-/

namespace RecordBase

/-- A keyed digest, and how digests are written. -/
class Hashing where
  /-- The digest of a message under a key. -/
  digest : (key message : Bytes) → Bytes
  /-- The text of a digest. -/
  write : Bytes → String
  /-- The digest with a text, or what is wrong with the text. -/
  read : String → Except String Bytes

end RecordBase
