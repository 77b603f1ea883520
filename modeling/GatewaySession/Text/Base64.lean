import GatewaySession.Bytes

/-!
# Base64

Two alphabets and two spellings of the end. Reading is strict: a text has a value only if it is the
text that writing that value gives. So the padding must be present exactly when the spelling asks
for it, and the bits that the last symbol has beyond the last octet must be zero.

## Main definitions

* `Base64.Alphabet` — the two symbols in which the alphabets differ
* `Base64.encode`, `Base64.decode?` — over an alphabet, padded or not
* `Base64.standard`, `Base64.urlSafe` — the two alphabets
-/

namespace GatewaySession

namespace Base64

/-! ### Symbols -/

/-- An alphabet: letters, digits, and a choice of the last two symbols. -/
structure Alphabet where
  /-- The symbol for 62. -/
  symbol62 : Char
  /-- The symbol for 63. -/
  symbol63 : Char

/-- The alphabet with `+` and `/`. -/
def standard : Alphabet := ⟨'+', '/'⟩

/-- The alphabet with `-` and `_`, safe inside a URL. -/
def urlSafe : Alphabet := ⟨'-', '_'⟩

namespace Alphabet

/-- The symbol of a value below 64. -/
def symbol (a : Alphabet) (n : Nat) : Char :=
  if n < 26 then Char.ofNat ('A'.toNat + n)
  else if n < 52 then Char.ofNat ('a'.toNat + (n - 26))
  else if n < 62 then Char.ofNat ('0'.toNat + (n - 52))
  else if n = 62 then a.symbol62
  else a.symbol63

/-- The value of a symbol. -/
def value? (a : Alphabet) (c : Char) : Option Nat :=
  if 'A' ≤ c ∧ c ≤ 'Z' then some (c.toNat - 'A'.toNat)
  else if 'a' ≤ c ∧ c ≤ 'z' then some (c.toNat - 'a'.toNat + 26)
  else if '0' ≤ c ∧ c ≤ '9' then some (c.toNat - '0'.toNat + 52)
  else if c = a.symbol62 then some 62
  else if c = a.symbol63 then some 63
  else none

end Alphabet

/-! ### Writing -/

/-- The padding of an incomplete group, when the spelling has any. -/
def padding (padded : Bool) (count : Nat) : List Char :=
  if padded then List.replicate count '=' else []

/-- Four symbols for three octets; the last group of one or two octets has two or three. -/
def encodeChars (a : Alphabet) (padded : Bool) : Bytes → List Char
  | [] => []
  | [x] => a.symbol (x.toNat / 4) :: a.symbol (x.toNat % 4 * 16) :: padding padded 2
  | [x, y] =>
    a.symbol (x.toNat / 4) :: a.symbol (x.toNat % 4 * 16 + y.toNat / 16) ::
      a.symbol (y.toNat % 16 * 4) :: padding padded 1
  | x :: y :: z :: rest =>
    a.symbol (x.toNat / 4) :: a.symbol (x.toNat % 4 * 16 + y.toNat / 16) ::
      a.symbol (y.toNat % 16 * 4 + z.toNat / 64) :: a.symbol (z.toNat % 64) ::
      encodeChars a padded rest

/-- The base64 text of a sequence of octets. -/
def encode (a : Alphabet) (padded : Bool) (bytes : Bytes) : String :=
  String.ofList (encodeChars a padded bytes)

/-! ### Reading -/

/-- The octet of a last group of two symbols, whose low four bits must be zero. -/
def decodeOne? (a : Alphabet) (c₀ c₁ : Char) : Option Bytes := do
  let v₀ ← a.value? c₀
  let v₁ ← a.value? c₁
  if v₁ % 16 = 0 then some [UInt8.ofNat (v₀ * 4 + v₁ / 16)] else none

/-- The octets of a last group of three symbols, whose low two bits must be zero. -/
def decodeTwo? (a : Alphabet) (c₀ c₁ c₂ : Char) : Option Bytes := do
  let v₀ ← a.value? c₀
  let v₁ ← a.value? c₁
  let v₂ ← a.value? c₂
  if v₂ % 4 = 0 then
    some [UInt8.ofNat (v₀ * 4 + v₁ / 16), UInt8.ofNat (v₁ % 16 * 16 + v₂ / 4)]
  else none

/-- The octets of a full group. -/
def decodeThree? (a : Alphabet) (c₀ c₁ c₂ c₃ : Char) : Option Bytes := do
  let v₀ ← a.value? c₀
  let v₁ ← a.value? c₁
  let v₂ ← a.value? c₂
  let v₃ ← a.value? c₃
  some [UInt8.ofNat (v₀ * 4 + v₁ / 16), UInt8.ofNat (v₁ % 16 * 16 + v₂ / 4),
    UInt8.ofNat (v₂ % 4 * 64 + v₃)]

/-- The octets of a text, group by group. -/
def decodeChars? (a : Alphabet) (padded : Bool) : List Char → Option Bytes
  | [] => some []
  | [_] => none
  | [c₀, c₁] => if padded then none else decodeOne? a c₀ c₁
  | [c₀, c₁, c₂] => if padded then none else decodeTwo? a c₀ c₁ c₂
  | c₀ :: c₁ :: c₂ :: c₃ :: rest =>
    if padded ∧ rest = [] ∧ c₃ = '=' then
      if c₂ = '=' then decodeOne? a c₀ c₁ else decodeTwo? a c₀ c₁ c₂
    else do
      let group ← decodeThree? a c₀ c₁ c₂ c₃
      let bytes ← decodeChars? a padded rest
      some (group ++ bytes)

/-- The octets a base64 text stands for. -/
def decode? (a : Alphabet) (padded : Bool) (text : String) : Option Bytes :=
  decodeChars? a padded text.toList

end Base64

end GatewaySession
