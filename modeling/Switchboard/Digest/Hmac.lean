/-
# Keyed digests

HMAC over SHA-256: the message is hashed behind the key mixed with one pad, and the result behind
the key mixed with another.  A key longer than a block is replaced by its digest.
-/
import Switchboard.Digest.Sha256
import Switchboard.Digest.Hex

namespace Switchboard.Digest

/-- A key filled up with zeros to one block. -/
def blockKey (key : Bytes) : Bytes :=
  let short := if 64 < key.length then sha256 key else key
  short ++ List.replicate (64 - short.length) 0

/-- The authentication code of a message under a key. -/
def hmac (key message : Bytes) : Bytes :=
  let block := blockKey key
  sha256 (block.map (· ^^^ 0x5c) ++ sha256 (block.map (· ^^^ 0x36) ++ message))

end Switchboard.Digest
