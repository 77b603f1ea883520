/-!
# Byte strings

Keys, sealed records, message bodies and stored values are sequences of octets. They are plain
lists of `UInt8`, so that every codec below is a structural recursion, and this module adds the one
spelling every part of the library shares: lowercase hexadecimal.

## Main definitions

* `Bytes` — a sequence of octets
* `Bytes.toHex`, `Bytes.ofHex?` — lowercase hexadecimal, two digits per octet
-/

namespace GatewaySession

/-- A sequence of octets. -/
abbrev Bytes := List UInt8

/-- The lowercase digit of a value below sixteen; larger values have none and read as `0`. -/
def hexDigit (n : Nat) : Char :=
  "0123456789abcdef".toList.getD n '0'

/-- The value of a hexadecimal digit of either case. -/
def hexValue? (c : Char) : Option Nat :=
  if '0' ≤ c ∧ c ≤ '9' then some (c.toNat - '0'.toNat)
  else if 'a' ≤ c ∧ c ≤ 'f' then some (c.toNat - 'a'.toNat + 10)
  else if 'A' ≤ c ∧ c ≤ 'F' then some (c.toNat - 'A'.toNat + 10)
  else none

namespace Bytes

/-- Two lowercase digits for each octet, high half first. -/
def toHex (bytes : Bytes) : String :=
  String.ofList (bytes.flatMap fun b => [hexDigit (b.toNat / 16), hexDigit (b.toNat % 16)])

/-- Reads pairs of digits; an odd count or a foreign character has no value. -/
def ofHexDigits? : List Char → Option Bytes
  | [] => some []
  | high :: low :: rest => do
    let h ← hexValue? high
    let l ← hexValue? low
    let bytes ← ofHexDigits? rest
    return UInt8.ofNat (h * 16 + l) :: bytes
  | [_] => none

/-- The octets a hexadecimal text spells. -/
def ofHex? (text : String) : Option Bytes := ofHexDigits? text.toList

end Bytes

end GatewaySession
