import Mathlib.Tactic.Common

/-!
# SHA-256

The hash function of FIPS 180-4 over lists of bytes, on natural numbers reduced modulo `2 ^ 32`
so that closed applications reduce in the kernel. The digest is rendered in lowercase
hexadecimal.
-/

namespace Sha256

/-- The round constants. -/
def roundConstants : List Nat :=
  [0x428a2f98, 0x71374491, 0xb5c0fbcf, 0xe9b5dba5, 0x3956c25b, 0x59f111f1, 0x923f82a4, 0xab1c5ed5,
   0xd807aa98, 0x12835b01, 0x243185be, 0x550c7dc3, 0x72be5d74, 0x80deb1fe, 0x9bdc06a7, 0xc19bf174,
   0xe49b69c1, 0xefbe4786, 0x0fc19dc6, 0x240ca1cc, 0x2de92c6f, 0x4a7484aa, 0x5cb0a9dc, 0x76f988da,
   0x983e5152, 0xa831c66d, 0xb00327c8, 0xbf597fc7, 0xc6e00bf3, 0xd5a79147, 0x06ca6351, 0x14292967,
   0x27b70a85, 0x2e1b2138, 0x4d2c6dfc, 0x53380d13, 0x650a7354, 0x766a0abb, 0x81c2c92e, 0x92722c85,
   0xa2bfe8a1, 0xa81a664b, 0xc24b8b70, 0xc76c51a3, 0xd192e819, 0xd6990624, 0xf40e3585, 0x106aa070,
   0x19a4c116, 0x1e376c08, 0x2748774c, 0x34b0bcb5, 0x391c0cb3, 0x4ed8aa4a, 0x5b9cca4f, 0x682e6ff3,
   0x748f82ee, 0x78a5636f, 0x84c87814, 0x8cc70208, 0x90befffa, 0xa4506ceb, 0xbef9a3f7, 0xc67178f2]

/-- The eight chaining words. -/
structure Chain where
  a : Nat
  b : Nat
  c : Nat
  d : Nat
  e : Nat
  f : Nat
  g : Nat
  h : Nat

/-- The initial chaining value. -/
def initial : Chain :=
  ⟨0x6a09e667, 0xbb67ae85, 0x3c6ef372, 0xa54ff53a, 0x510e527f, 0x9b05688c, 0x1f83d9ab, 0x5be0cd19⟩

/-- Reduction to a 32-bit word. -/
def word (n : Nat) : Nat := Nat.mod n 4294967296

/-- Right rotation of a 32-bit word. -/
def rotr (k x : Nat) : Nat := Nat.lor (Nat.shiftRight x k) (word (Nat.shiftLeft x (Nat.sub 32 k)))

/-- Exclusive or of three words. -/
def xor3 (x y z : Nat) : Nat := Nat.xor (Nat.xor x y) z

/-- Pass a number on after it has been evaluated: matching on it makes the kernel reduce it to a
literal once, where a plain argument would be reduced again at every use. -/
def strict {α : Type} (n : Nat) (next : Nat → α) : α :=
  match n with
  | 0 => next 0
  | Nat.succ m => next (Nat.succ m)

/-- One round with round constant `k` and message word `w`. -/
def round (s : Chain) (k w : Nat) : Chain :=
  match s with
  | ⟨a, b, c, d, e, f, g, h⟩ =>
    let ch := Nat.xor (Nat.land e f) (Nat.land (Nat.sub 4294967295 e) g)
    let maj := xor3 (Nat.land a b) (Nat.land a c) (Nat.land b c)
    strict (h + xor3 (rotr 6 e) (rotr 11 e) (rotr 25 e) + ch + k + w) fun t1 =>
    strict (word (t1 + xor3 (rotr 2 a) (rotr 13 a) (rotr 22 a) + maj)) fun a' =>
    strict (word (d + t1)) fun e' =>
      ⟨a', a, b, c, e', e, f, g⟩

/-- The word at a position of a window. -/
def wordAt (window i : Nat) : Nat := word (Nat.shiftRight window (32 * i))

/-- The rounds of one block, one per remaining round constant. The next sixteen message words are the
32-bit digits of the window, the first of them the lowest, and the window moves by one word each
round. -/
def rounds : List Nat → Nat → Chain → Chain
  | [], _, s => s
  | k :: ks, window, s =>
    strict (wordAt window 1) fun w1 =>
    strict (wordAt window 14) fun w14 =>
    strict (word (wordAt window 0 + xor3 (rotr 7 w1) (rotr 18 w1) (Nat.shiftRight w1 3) +
        wordAt window 9 + xor3 (rotr 17 w14) (rotr 19 w14) (Nat.shiftRight w14 10))) fun w16 =>
    strict (Nat.lor (Nat.shiftRight window 32) (Nat.shiftLeft w16 480)) fun next =>
      rounds ks next (round s k (wordAt window 0))

/-- The window with the words of a block. -/
def windowOf (block : List Nat) : Nat :=
  block.foldr (fun w window => Nat.lor w (Nat.shiftLeft window 32)) 0

/-- Fold one block of sixteen words into the chaining value. -/
def compress (s : Chain) (block : List Nat) : Chain :=
  match s, strict (windowOf block) fun window => rounds roundConstants window s with
  | ⟨a, b, c, d, e, f, g, h⟩, ⟨a', b', c', d', e', f', g', h'⟩ =>
    ⟨word (a + a'), word (b + b'), word (c + c'), word (d + d'),
      word (e + e'), word (f + f'), word (g + g'), word (h + h')⟩

/-- Big-endian bytes of `n`, `k` of them. -/
def bytesOf : Nat → Nat → List Nat
  | 0, _ => []
  | k + 1, n => bytesOf k (n / 256) ++ [n % 256]

/-- The message followed by `0x80`, zeros, and its bit length in eight bytes. -/
def pad (message : List Nat) : List Nat :=
  message ++ 0x80 :: List.replicate ((119 - message.length % 64) % 64) 0
    ++ bytesOf 8 (8 * message.length)

/-- Group bytes into big-endian words. -/
def wordsOf : List Nat → List Nat
  | b0 :: b1 :: b2 :: b3 :: rest =>
    (b0 * 16777216 + b1 * 65536 + b2 * 256 + b3) :: wordsOf rest
  | _ => []

/-- Fold `n` blocks of sixteen words. -/
def blocks : Nat → List Nat → Chain → Chain
  | 0, _, s => s
  | n + 1, words, s => blocks n (words.drop 16) (compress s (words.take 16))

/-- One lowercase hexadecimal digit. -/
def hexDigit (n : Nat) : Char :=
  if n < 10 then Char.ofNat (48 + n) else Char.ofNat (87 + n)

/-- The `k` low hexadecimal digits of `n`, most significant first. -/
def hexDigits : Nat → Nat → List Char
  | 0, _ => []
  | k + 1, n => hexDigits k (n / 16) ++ [hexDigit (n % 16)]

/-- The digest of a byte message in lowercase hexadecimal. -/
def hexdigest (message : List Nat) : String :=
  let words := wordsOf (pad message)
  let s := blocks (words.length / 16) words initial
  String.ofList ([s.a, s.b, s.c, s.d, s.e, s.f, s.g, s.h].flatMap (hexDigits 8))

example : hexdigest [97, 98, 99] =
    "ba7816bf8f01cfea414140de5dae2223b00361a396177a9cb410ff61f20015ad" := by
  decide +kernel

lemma length_hexDigits (k n : Nat) : (hexDigits k n).length = k := by
  induction k generalizing n with
  | zero => rfl
  | succ k ih => rw [hexDigits, List.length_append, ih, List.length_singleton]

lemma mem_hexDigits {k n : Nat} {c : Char} (h : c ∈ hexDigits k n) : ∃ d < 16, c = hexDigit d := by
  induction k generalizing n with
  | zero => cases h
  | succ k ih =>
    rw [hexDigits, List.mem_append, List.mem_singleton] at h
    rcases h with h | h
    · exact ih h
    · exact ⟨n % 16, Nat.mod_lt n (by decide), h⟩

/-- A digest has 64 characters. -/
theorem length_hexdigest (message : List Nat) : (hexdigest message).length = 64 := by
  rw [hexdigest, String.length_ofList]
  simp [length_hexDigits]

/-- A digest is made of hexadecimal digits. -/
theorem mem_hexdigest {message : List Nat} {c : Char} (h : c ∈ (hexdigest message).toList) :
    ∃ d < 16, c = hexDigit d := by
  rw [hexdigest, String.toList_ofList] at h
  obtain ⟨word, -, hc⟩ := List.mem_flatMap.mp h
  exact mem_hexDigits hc

end Sha256
