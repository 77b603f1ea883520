import GatewaySession.Bytes

/-!
# SHA-256

The hash function of FIPS 180-4 and the keyed hash HMAC over it. A message is padded to a whole
number of 64-octet blocks; each block is expanded into 64 words that drive 64 rounds over a chaining
value of eight words.

## Main definitions

* `Sha256.Digest` — 32 octets, by type
* `Sha256.hash` — the digest of a message
* `Sha256.hmac` — the keyed digest; keys of any length are admitted
-/

namespace GatewaySession

namespace Sha256

/-- Octets of a block. -/
def blockLength : Nat := 64

/-- A digest. -/
abbrev Digest := Vector UInt8 32

/-- The chaining value. -/
structure Chain where
  a : UInt32
  b : UInt32
  c : UInt32
  d : UInt32
  e : UInt32
  f : UInt32
  g : UInt32
  h : UInt32

/-- The chaining value before the first block: fractions of the square roots of the first eight
primes. -/
def initial : Chain :=
  ⟨0x6a09e667, 0xbb67ae85, 0x3c6ef372, 0xa54ff53a,
    0x510e527f, 0x9b05688c, 0x1f83d9ab, 0x5be0cd19⟩

/-- The round constants: fractions of the cube roots of the first sixty-four primes. -/
def roundConstants : Array UInt32 := #[
  0x428a2f98, 0x71374491, 0xb5c0fbcf, 0xe9b5dba5, 0x3956c25b, 0x59f111f1, 0x923f82a4, 0xab1c5ed5,
  0xd807aa98, 0x12835b01, 0x243185be, 0x550c7dc3, 0x72be5d74, 0x80deb1fe, 0x9bdc06a7, 0xc19bf174,
  0xe49b69c1, 0xefbe4786, 0x0fc19dc6, 0x240ca1cc, 0x2de92c6f, 0x4a7484aa, 0x5cb0a9dc, 0x76f988da,
  0x983e5152, 0xa831c66d, 0xb00327c8, 0xbf597fc7, 0xc6e00bf3, 0xd5a79147, 0x06ca6351, 0x14292967,
  0x27b70a85, 0x2e1b2138, 0x4d2c6dfc, 0x53380d13, 0x650a7354, 0x766a0abb, 0x81c2c92e, 0x92722c85,
  0xa2bfe8a1, 0xa81a664b, 0xc24b8b70, 0xc76c51a3, 0xd192e819, 0xd6990624, 0xf40e3585, 0x106aa070,
  0x19a4c116, 0x1e376c08, 0x2748774c, 0x34b0bcb5, 0x391c0cb3, 0x4ed8aa4a, 0x5b9cca4f, 0x682e6ff3,
  0x748f82ee, 0x78a5636f, 0x84c87814, 0x8cc70208, 0x90befffa, 0xa4506ceb, 0xbef9a3f7, 0xc67178f2
]

/-- Rotation to the right by less than 32. -/
def rotate (x : UInt32) (n : UInt32) : UInt32 := (x >>> n) ||| (x <<< (32 - n))

/-! ### Words and blocks -/

/-- The message with its padding: a one bit, zeros up to eight octets before a block boundary, and
the length in bits. -/
def pad (message : Bytes) : Bytes :=
  let zeros := (119 - message.length % blockLength) % blockLength
  let bits := message.length * 8
  message ++ 0x80 :: List.replicate zeros 0 ++
    (List.range 8).map fun i => UInt8.ofNat (bits / Nat.pow 256 (7 - i))

/-- The big-endian word at a position. -/
def wordAt (octets : Array UInt8) (i : Nat) : UInt32 :=
  let octet (j : Nat) : UInt32 := (octets.getD (i + j) 0).toUInt32
  (octet 0 <<< 24) ||| (octet 1 <<< 16) ||| (octet 2 <<< 8) ||| octet 3

/-- The next word of the schedule. -/
def nextWord (w : Array UInt32) : UInt32 :=
  let n := w.size
  let x := w.getD (n - 15) 0
  let y := w.getD (n - 2) 0
  let s₀ := rotate x 7 ^^^ rotate x 18 ^^^ (x >>> 3)
  let s₁ := rotate y 17 ^^^ rotate y 19 ^^^ (y >>> 10)
  w.getD (n - 16) 0 + s₀ + w.getD (n - 7) 0 + s₁

/-- The 64 words of the block that begins at a position. -/
def schedule (octets : Array UInt8) (start : Nat) : Array UInt32 :=
  let first := (Array.range 16).map fun i => wordAt octets (start + 4 * i)
  (List.range 48).foldl (fun w _ => w.push (nextWord w)) first

/-! ### Rounds -/

/-- One round with its constant and its word. -/
def round (s : Chain) (k w : UInt32) : Chain :=
  let s₁ := rotate s.e 6 ^^^ rotate s.e 11 ^^^ rotate s.e 25
  let choice := (s.e &&& s.f) ^^^ (~~~s.e &&& s.g)
  let t₁ := s.h + s₁ + choice + k + w
  let s₀ := rotate s.a 2 ^^^ rotate s.a 13 ^^^ rotate s.a 22
  let majority := (s.a &&& s.b) ^^^ (s.a &&& s.c) ^^^ (s.b &&& s.c)
  ⟨t₁ + (s₀ + majority), s.a, s.b, s.c, s.d + t₁, s.e, s.f, s.g⟩

/-- The chaining value after a block. -/
def compress (s : Chain) (words : Array UInt32) : Chain :=
  let r := (List.range 64).foldl
    (fun r i => round r (roundConstants.getD i 0) (words.getD i 0)) s
  ⟨s.a + r.a, s.b + r.b, s.c + r.c, s.d + r.d, s.e + r.e, s.f + r.f, s.g + r.g, s.h + r.h⟩

/-- The chaining value as octets, most significant first. -/
def Chain.digest (s : Chain) : Digest :=
  let words := #[s.a, s.b, s.c, s.d, s.e, s.f, s.g, s.h]
  Vector.ofFn fun i =>
    (words.getD (i.val / 4) 0 >>> (UInt32.ofNat (24 - 8 * (i.val % 4)))).toUInt8

/-- The digest of a message. -/
def hash (message : Bytes) : Digest :=
  let octets := (pad message).toArray
  ((List.range (octets.size / blockLength)).foldl
    (fun s i => compress s (schedule octets (blockLength * i))) initial).digest

/-! ### Keyed hashing -/

/-- The key as a whole block: hashed first if it is longer, then filled with zeros. -/
def keyBlock (key : Bytes) : Bytes :=
  let key := if blockLength < key.length then (hash key).toList else key
  key ++ List.replicate (blockLength - key.length) 0

/-- The keyed digest of a message. -/
def hmac (key message : Bytes) : Digest :=
  let block := keyBlock key
  let inner := hash (block.map (· ^^^ 0x36) ++ message)
  hash (block.map (· ^^^ 0x5c) ++ inner.toList)

end Sha256

end GatewaySession
