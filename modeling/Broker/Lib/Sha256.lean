import Mathlib.Algebra.Group.Nat.Defs
import Mathlib.Data.List.Basic

/-!
# SHA-256 and HMAC

The hash of `hashlib.sha256` and the code of `hmac.new(key, msg, sha256)`, on
lists of bytes. Words are natural numbers below `2 ^ 32`, so that a digest of
a short message can be evaluated.
-/

namespace Sha256

/-- A byte string, as Python's `bytes`. -/
abbrev Bytes := List UInt8

/-- The round constants. -/
def roundConstants : List ℕ :=
  [0x428a2f98, 0x71374491, 0xb5c0fbcf, 0xe9b5dba5, 0x3956c25b, 0x59f111f1, 0x923f82a4, 0xab1c5ed5,
   0xd807aa98, 0x12835b01, 0x243185be, 0x550c7dc3, 0x72be5d74, 0x80deb1fe, 0x9bdc06a7, 0xc19bf174,
   0xe49b69c1, 0xefbe4786, 0x0fc19dc6, 0x240ca1cc, 0x2de92c6f, 0x4a7484aa, 0x5cb0a9dc, 0x76f988da,
   0x983e5152, 0xa831c66d, 0xb00327c8, 0xbf597fc7, 0xc6e00bf3, 0xd5a79147, 0x06ca6351, 0x14292967,
   0x27b70a85, 0x2e1b2138, 0x4d2c6dfc, 0x53380d13, 0x650a7354, 0x766a0abb, 0x81c2c92e, 0x92722c85,
   0xa2bfe8a1, 0xa81a664b, 0xc24b8b70, 0xc76c51a3, 0xd192e819, 0xd6990624, 0xf40e3585, 0x106aa070,
   0x19a4c116, 0x1e376c08, 0x2748774c, 0x34b0bcb5, 0x391c0cb3, 0x4ed8aa4a, 0x5b9cca4f, 0x682e6ff3,
   0x748f82ee, 0x78a5636f, 0x84c87814, 0x8cc70208, 0x90befffa, 0xa4506ceb, 0xbef9a3f7, 0xc67178f2]

/-- Rotation of a 32-bit word to the right. -/
def rotr (x n : ℕ) : ℕ := (x >>> n ||| x <<< (32 - n)) % 2 ^ 32

/-- The eight working words. -/
structure Words where
  a : ℕ
  b : ℕ
  c : ℕ
  d : ℕ
  e : ℕ
  f : ℕ
  g : ℕ
  h : ℕ

/-- The initial hash value. -/
def initial : Words :=
  ⟨0x6a09e667, 0xbb67ae85, 0x3c6ef372, 0xa54ff53a, 0x510e527f, 0x9b05688c, 0x1f83d9ab, 0x5be0cd19⟩

/-- One round, with its constant and its schedule word. -/
def round (s : Words) (kw : ℕ × ℕ) : Words :=
  let t₁ := s.h + (rotr s.e 6 ^^^ rotr s.e 11 ^^^ rotr s.e 25) +
    ((s.e &&& s.f) ^^^ ((2 ^ 32 - 1 - s.e) &&& s.g)) + kw.1 + kw.2
  let t₂ := (rotr s.a 2 ^^^ rotr s.a 13 ^^^ rotr s.a 22) +
    ((s.a &&& s.b) ^^^ (s.a &&& s.c) ^^^ (s.b &&& s.c))
  ⟨(t₁ + t₂) % 2 ^ 32, s.a, s.b, s.c, (s.d + t₁) % 2 ^ 32, s.e, s.f, s.g⟩

/-- The next `n` words of the message schedule, whose words so far are `ws`,
    the last one first. -/
def extend : ℕ → List ℕ → List ℕ
  | 0, ws => ws
  | n + 1, ws =>
    let w₂ := ws.getD 1 0
    let w₁₅ := ws.getD 14 0
    let s₁ := rotr w₂ 17 ^^^ rotr w₂ 19 ^^^ w₂ >>> 10
    let s₀ := rotr w₁₅ 7 ^^^ rotr w₁₅ 18 ^^^ w₁₅ >>> 3
    extend n ((s₁ + ws.getD 6 0 + s₀ + ws.getD 15 0) % 2 ^ 32 :: ws)

/-- The big-endian words of a block of bytes. -/
def words : List ℕ → List ℕ
  | b₀ :: b₁ :: b₂ :: b₃ :: bs => (b₀ <<< 24 + b₁ <<< 16 + b₂ <<< 8 + b₃) :: words bs
  | _ => []

/-- The compression of a block into the hash value. -/
def compress (s : Words) (block : List ℕ) : Words :=
  let t := (roundConstants.zip (extend 48 (words block).reverse).reverse).foldl round s
  ⟨(s.a + t.a) % 2 ^ 32, (s.b + t.b) % 2 ^ 32, (s.c + t.c) % 2 ^ 32, (s.d + t.d) % 2 ^ 32,
   (s.e + t.e) % 2 ^ 32, (s.f + t.f) % 2 ^ 32, (s.g + t.g) % 2 ^ 32, (s.h + t.h) % 2 ^ 32⟩

/-- The big-endian bytes of a number, `n` of them. -/
def bigEndian (n x : ℕ) : List ℕ := (List.range n).map fun i => x >>> (8 * (n - 1 - i)) % 256

/-- The message padded to whole blocks, ending in its length in bits. -/
def pad (msg : List ℕ) : List ℕ :=
  msg ++ 0x80 :: List.replicate ((119 - msg.length % 64) % 64) 0 ++ bigEndian 8 (8 * msg.length)

/-- The compression of the blocks of a padded message, `n` of them. -/
def blocks : ℕ → Words → List ℕ → Words
  | 0, s, _ => s
  | n + 1, s, msg => blocks n (compress s (msg.take 64)) (msg.drop 64)

/-- `hashlib.sha256(msg).digest()`. -/
def digest (msg : Bytes) : Bytes :=
  let padded := pad (msg.map UInt8.toNat)
  let s := blocks (padded.length / 64) initial padded
  ([s.a, s.b, s.c, s.d, s.e, s.f, s.g, s.h].flatMap (bigEndian 4)).map UInt8.ofNat

/-- The key of an HMAC, as a block: hashed when it is longer than one. -/
def hmacKey (key : Bytes) : Bytes :=
  let key := if key.length > 64 then digest key else key
  key ++ List.replicate (64 - key.length) 0

/-- `hmac.new(key, msg, hashlib.sha256).digest()`. -/
def hmac (key msg : Bytes) : Bytes :=
  digest ((hmacKey key).map (· ^^^ 0x5c) ++ digest ((hmacKey key).map (· ^^^ 0x36) ++ msg))

/-- The digest of `"abc"` begins with `ba7816bf`. -/
example : (digest [0x61, 0x62, 0x63]).take 4 = [0xba, 0x78, 0x16, 0xbf] := by decide +kernel

theorem length_digest (msg : Bytes) : (digest msg).length = 32 := by
  have hbytes : ∀ x, (bigEndian 4 x).length = 4 := fun x => by
    rw [bigEndian, List.length_map, List.length_range]
  rw [digest, List.length_map]
  simp only [List.flatMap_cons, List.flatMap_nil, List.length_append, List.length_nil, hbytes]

theorem digest_ne_nil (msg : Bytes) : digest msg ≠ [] := by
  intro h
  have hlength := length_digest msg
  rw [h] at hlength
  cases hlength

end Sha256
