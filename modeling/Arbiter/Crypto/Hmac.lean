import Arbiter.Crypto.Sha256

/-!
# Keyed digests

HMAC over SHA-256: a key longer than a block is digested first, then the key, filled up with zeros,
is mixed into an inner and an outer digest.
-/

namespace Arbiter.Hmac

def blockSize : Nat := 64

/-- The key as one block. -/
def blockKey (key : Bytes) : Bytes :=
  let k := if key.length > blockSize then Sha256.digest key else key
  k ++ List.replicate (blockSize - k.length) 0

def mask (key : Bytes) (b : UInt8) : Bytes := (blockKey key).map (· ^^^ b)

def sign (key message : Bytes) : Bytes :=
  Sha256.digest (mask key 0x5C ++ Sha256.digest (mask key 0x36 ++ message))

end Arbiter.Hmac
