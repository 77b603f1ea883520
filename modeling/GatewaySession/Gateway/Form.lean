import GatewaySession.Text.Utf8

/-!
# Form bodies

The encoding `application/x-www-form-urlencoded` of the URL standard. Names and values are UTF-8
octets, where a space is written `+`, letters, digits and `* - . _` stand for themselves and every
other octet is written as two hexadecimal digits after `%`. Reading skips empty pairs, leaves a `%`
that no two digits follow as it is, and replaces what is not UTF-8.

## Main definitions

* `Form.Params` — names and values in order
* `Form.encode`, `Form.decode` — writing and reading
-/

namespace GatewaySession

namespace Form

/-- Names and values in order; names may repeat. -/
abbrev Params := List (String × String)

/-! ### Writing -/

/-- Octets that stand for themselves. -/
def isPlain (b : UInt8) : Bool :=
  (0x30 ≤ b && b ≤ 0x39) || (0x41 ≤ b && b ≤ 0x5A) || (0x61 ≤ b && b ≤ 0x7A) ||
    b == 0x2A || b == 0x2D || b == 0x2E || b == 0x5F

/-- The uppercase digit of a value below sixteen. -/
def digit (n : Nat) : UInt8 := UInt8.ofNat (if n < 10 then 0x30 + n else 0x41 + (n - 10))

/-- The form of one octet. -/
def encodeOctet (b : UInt8) : Bytes :=
  if b == 0x20 then [0x2B]
  else if isPlain b then [b]
  else [0x25, digit (b.toNat / 16), digit (b.toNat % 16)]

/-- The form of a name or value. -/
def encodeText (text : String) : Bytes := (Utf8.encode text).flatMap encodeOctet

/-- The form of a pair. -/
def encodePair (pair : String × String) : Bytes :=
  encodeText pair.1 ++ 0x3D :: encodeText pair.2

/-- The body of a list of pairs. -/
def encode (params : Params) : Bytes := [0x26].intercalate (params.map encodePair)

/-! ### Reading -/

/-- The value of a hexadecimal digit of either case. -/
def digitValue? (b : UInt8) : Option Nat := hexValue? (Char.ofNat b.toNat)

/-- Resolves escapes and plus signs. -/
def decodeOctets : Bytes → Bytes
  | [] => []
  | 0x25 :: high :: low :: rest =>
    match digitValue? high, digitValue? low with
    | some h, some l => UInt8.ofNat (h * 16 + l) :: decodeOctets rest
    | _, _ => 0x25 :: decodeOctets (high :: low :: rest)
  | b :: rest => (if b == 0x2B then 0x20 else b) :: decodeOctets rest

/-- The text of a name or value. -/
def decodeText (octets : Bytes) : String := Utf8.decodeLossy (decodeOctets octets)

/-- The pair of a part between ampersands. A part without equals sign is a name. -/
def decodePair (part : Bytes) : String × String :=
  (decodeText (part.takeWhile (· != 0x3D)), decodeText ((part.dropWhile (· != 0x3D)).drop 1))

/-- The pairs of a body. -/
def decode (body : Bytes) : Params :=
  ((body.splitOn 0x26).filter fun part => !part.isEmpty).map decodePair

end Form

end GatewaySession
