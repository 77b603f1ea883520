/-!
# Decimal integers in text

Integers as they stand in a header or in a claim that holds a text: digits with an optional sign,
nothing around them. Leading zeros are allowed and change nothing; a sign without digits is no
number.

## Main definitions

* `Decimal.digits?` — the number a non-empty run of digits spells
* `Decimal.readUInt64?`, `Decimal.readInt64?` — bounded integers; only the latter admits `-`
-/

namespace GatewaySession

namespace Decimal

/-- The value of a decimal digit. -/
def digit? (c : Char) : Option Nat :=
  if '0' ≤ c ∧ c ≤ '9' then some (c.toNat - '0'.toNat) else none

/-- Reads on from a number already read. -/
def digitsFrom? (value : Nat) : List Char → Option Nat
  | [] => some value
  | c :: rest => do
    let d ← digit? c
    digitsFrom? (value * 10 + d) rest

/-- The number that a non-empty run of digits spells. -/
def digits? : List Char → Option Nat
  | [] => none
  | c :: rest => digitsFrom? 0 (c :: rest)

/-- A natural number with an optional `+`. -/
def unsigned? : List Char → Option Nat
  | '+' :: rest => digits? rest
  | text => digits? text

/-- An integer with an optional sign. -/
def signed? : List Char → Option Int
  | '-' :: rest => (digits? rest).map fun n => -(n : Int)
  | text => (unsigned? text).map fun n => (n : Int)

/-- The integer as a 64-bit word with sign, if it is one. -/
def toInt64? (n : Int) : Option Int64 :=
  if Int64.minValue.toInt ≤ n ∧ n ≤ Int64.maxValue.toInt then some (Int64.ofInt n) else none

/-- The natural number as a 64-bit word, if it is one. -/
def toUInt64? (n : Nat) : Option UInt64 :=
  if n < UInt64.size then some (UInt64.ofNat n) else none

/-- Reads a 64-bit word without sign. -/
def readUInt64? (text : String) : Option UInt64 :=
  (unsigned? text.toList).bind toUInt64?

/-- Reads a 64-bit word with sign. -/
def readInt64? (text : String) : Option Int64 :=
  (signed? text.toList).bind toInt64?

/-- The decimal digits of a natural number. -/
def natDigits (n : Nat) : List Char := Nat.toDigits 10 n

/-- The decimal digits of an integer, with `-` in front of a negative one. -/
def intDigits (n : Int) : List Char :=
  match n with
  | .ofNat n => natDigits n
  | .negSucc n => '-' :: natDigits (n + 1)

/-- At least `width` decimal digits, with zeros in front. -/
def padded (width n : Nat) : List Char :=
  let digits := natDigits n
  List.replicate (width - digits.length) '0' ++ digits

end Decimal

end GatewaySession
