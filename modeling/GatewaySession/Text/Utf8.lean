import GatewaySession.Bytes

/-!
# UTF-8

Encoding is per scalar. Decoding is one scan over the octets that never fails: it yields each
scalar value it can complete and one mark for each *maximal ill-formed part*, the longest prefix of
a well-formed sequence that the following octet cannot continue. Strict decoding accepts a scan
without marks, lenient decoding writes the replacement character for each mark, so the two agree on
every well-formed input by construction.

## Main definitions

* `Utf8.encode` — the octets of a text
* `Utf8.scan` — scalars and ill-formed parts, in order
* `Utf8.decode?`, `Utf8.decodeLossy` — the strict and the lenient reading
-/

namespace GatewaySession

namespace Utf8

/-! ### Encoding -/

/-- The octets of one scalar value: one below `0x80`, then two, three or four. -/
def encodeChar (c : Char) : Bytes :=
  let n := c.toNat
  if n < 0x80 then [UInt8.ofNat n]
  else if n < 0x800 then [UInt8.ofNat (0xC0 + n / 64), UInt8.ofNat (0x80 + n % 64)]
  else if n < 0x10000 then
    [UInt8.ofNat (0xE0 + n / 4096), UInt8.ofNat (0x80 + n / 64 % 64), UInt8.ofNat (0x80 + n % 64)]
  else
    [UInt8.ofNat (0xF0 + n / 262144), UInt8.ofNat (0x80 + n / 4096 % 64),
      UInt8.ofNat (0x80 + n / 64 % 64), UInt8.ofNat (0x80 + n % 64)]

/-- The octets of a sequence of characters. -/
def encodeChars (text : List Char) : Bytes := text.flatMap encodeChar

/-- The octets of a text. -/
def encode (text : String) : Bytes := encodeChars text.toList

/-! ### The scan -/

/-- A sequence that has begun: how many octets it still needs, the bits collected so far, and the
range the next octet must fall in. The range is narrower than `0x80`–`0xBF` only after the leads
that could start an overlong form, a surrogate or a value beyond `0x10FFFF`. -/
structure Partial where
  /-- Octets still missing, never zero. -/
  needed : Nat
  /-- The bits read so far. -/
  value : Nat
  /-- Least admissible next octet. -/
  low : Nat
  /-- Greatest admissible next octet. -/
  high : Nat

/-- What an octet can begin: a whole scalar, a longer sequence, or nothing. -/
inductive Lead
  | scalar (c : Char)
  | sequence (start : Partial)
  | illFormed

/-- Classifies an octet in first position. -/
def lead (b : UInt8) : Lead :=
  let n := b.toNat
  if n < 0x80 then .scalar (Char.ofNat n)
  else if n < 0xC2 then .illFormed
  else if n < 0xE0 then .sequence ⟨1, n - 0xC0, 0x80, 0xBF⟩
  else if n = 0xE0 then .sequence ⟨2, 0, 0xA0, 0xBF⟩
  else if n = 0xED then .sequence ⟨2, 0xD, 0x80, 0x9F⟩
  else if n < 0xF0 then .sequence ⟨2, n - 0xE0, 0x80, 0xBF⟩
  else if n = 0xF0 then .sequence ⟨3, 0, 0x90, 0xBF⟩
  else if n < 0xF4 then .sequence ⟨3, n - 0xF0, 0x80, 0xBF⟩
  else if n = 0xF4 then .sequence ⟨3, 4, 0x80, 0x8F⟩
  else .illFormed

/-- The scalars of an octet sequence, with `none` for each maximal ill-formed part. The first
argument is the sequence under way, if any. -/
def scan : Option Partial → Bytes → List (Option Char)
  | none, [] => []
  | some _, [] => [none]
  | none, b :: rest =>
    match lead b with
    | .scalar c => some c :: scan none rest
    | .sequence start => scan (some start) rest
    | .illFormed => none :: scan none rest
  | some p, b :: rest =>
    if p.low ≤ b.toNat ∧ b.toNat ≤ p.high then
      let value := p.value * 64 + (b.toNat - 0x80)
      if p.needed ≤ 1 then some (Char.ofNat value) :: scan none rest
      else scan (some ⟨p.needed - 1, value, 0x80, 0xBF⟩) rest
    else
      none ::
        match lead b with
        | .scalar c => some c :: scan none rest
        | .sequence start => scan (some start) rest
        | .illFormed => none :: scan none rest

/-- The characters of a well-formed octet sequence. -/
def decodeChars? (bytes : Bytes) : Option (List Char) := (scan none bytes).mapM id

/-- The text of a well-formed octet sequence. -/
def decode? (bytes : Bytes) : Option String := (decodeChars? bytes).map String.ofList

/-- The text of any octet sequence, with one replacement character for each ill-formed part. -/
def decodeLossy (bytes : Bytes) : String :=
  String.ofList ((scan none bytes).map (·.getD '\uFFFD'))

end Utf8

end GatewaySession
