import RecordBase.Digest.Sha256

/-!
# Keyed digests

HMAC over SHA-256: the key, cut to a digest when it is longer than a block, is mixed with two
constants, and the message is digested between them.
-/

namespace RecordBase.Digest

/-- A key filled with zeros to a whole block. -/
def blockKey (key : Bytes) : Bytes :=
  let short := if blockSize < key.length then sha256 key else key
  short ++ List.replicate (blockSize - short.length) 0

/-- The digest of a message under a key. -/
def hmac (key message : Bytes) : Bytes :=
  let block := blockKey key
  sha256 (block.map (· ^^^ 0x5c) ++ sha256 (block.map (· ^^^ 0x36) ++ message))

end RecordBase.Digest
