import Pactra.Foundation.Sha256

/-!
# HMAC-SHA-256

The keyed hash of RFC 2104 over SHA-256, on lists of bytes.
-/

namespace Sha256

/-- The digest of a byte message, as bytes. -/
def digest (message : List Nat) : List Nat :=
  let words := wordsOf (pad message)
  let s := blocks (words.length / 16) words initial
  [s.a, s.b, s.c, s.d, s.e, s.f, s.g, s.h].flatMap (bytesOf 4)

/-- The number of bytes of a block. -/
def blockSize : Nat := 64

end Sha256

namespace Hmac

open Sha256 (digest blockSize)

/-- A key of one block: a longer key is hashed, a shorter one is filled with zeros. -/
def blockKey (key : List Nat) : List Nat :=
  let short := if blockSize < key.length then digest key else key
  short ++ List.replicate (blockSize - short.length) 0

/-- The key with every byte masked. -/
def masked (mask : Nat) (key : List Nat) : List Nat := (blockKey key).map (Nat.xor mask)

/-- The authentication code of a message in lowercase hexadecimal. -/
def hexdigest (key message : List Nat) : String :=
  Sha256.hexdigest (masked 0x5c key ++ digest (masked 0x36 key ++ message))

example : hexdigest [0x4a, 0x65, 0x66, 0x65] ("what do ya want for nothing?".toList.map Char.toNat) =
    "5bdcc146bf60754e6a042426089575c75a003f089d2739839dec58b964ec3843" := by
  decide +kernel

end Hmac
