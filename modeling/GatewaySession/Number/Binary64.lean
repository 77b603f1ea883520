/-!
# Binary floating point, 64 bits

A finite double is a sign and a *magnitude code*, the lower 63 bits of its representation. Codes are
ordered like the values they stand for, so rounding can be done on rationals: the code of the
nearest double is one integer division away, subnormals and the carry into the next binade
included, and a code from `infinity` on means that the value is too large.

No operation here goes through machine floating point, so every result can be computed in a proof.

## Main definitions

* `Binary64.mantissa`, `Binary64.exponent` — the value of a code is `mantissa * 2 ^ exponent`
* `Binary64.round` — the code nearest to a quotient, a tie going to the even one
* `Binary64.mul`, `Binary64.div` — rounded product and quotient of codes
* `Binary64.truncate` — the integer part of a code's value
-/

namespace GatewaySession

namespace Binary64

/-- Distance between the codes of one binade. -/
def hiddenBit : Nat := 0x10000000000000

/-- The least code that stands for no finite value. -/
def infinity : Nat := 2047 * hiddenBit

/-- The position of the sign in the representation. -/
def signBit : Nat := 0x8000000000000000

/-- The integer significand of a code. -/
def mantissa (code : Nat) : Nat :=
  if code < hiddenBit then code else hiddenBit + code % hiddenBit

/-- The power of two that scales the significand. -/
def exponent (code : Nat) : Int :=
  if code < hiddenBit then -1074 else (code / hiddenBit : Nat) - 1075

/-- Nearest integer to `n / d`, a tie going to the even one. -/
def divNearest (n d : Nat) : Nat :=
  let q := n / d
  let r := n % d
  if 2 * r < d then q
  else if d < 2 * r then q + 1
  else if q % 2 = 0 then q else q + 1

/-- Numerator and denominator of `(n / d) * 2 ^ e`. -/
def scale (n d : Nat) (e : Int) : Nat × Nat :=
  if 0 ≤ e then (n * Nat.pow 2 e.toNat, d) else (n, d * Nat.pow 2 (-e).toNat)

/-- Greatest `e` with `2 ^ e ≤ n / d`, for positive `n` and `d`. -/
def binade (n d : Nat) : Int :=
  let guess : Int := (Nat.log2 n : Int) - (Nat.log2 d : Int)
  let (num, den) := scale n d (-guess)
  if num < den then guess - 1 else guess

/-- The code of the double nearest to `n / d`; `infinity` or more if that is out of range. -/
def round (n d : Nat) : Nat :=
  if n = 0 then 0
  else
    let e := max (binade n d - 52) (-1074)
    let (num, den) := scale n d (-e)
    divNearest num den + (e + 1074).toNat * hiddenBit

/-- Rounded product. -/
def mul (a b : Nat) : Nat :=
  let (n, d) := scale (mantissa a * mantissa b) 1 (exponent a + exponent b)
  round n d

/-- Rounded quotient, for a positive divisor. -/
def div (a b : Nat) : Nat :=
  let (n, d) := scale (mantissa a) (mantissa b) (exponent a - exponent b)
  round n d

/-- The integer part of the value of a code. -/
def truncate (code : Nat) : Nat :=
  let (n, d) := scale (mantissa code) 1 (exponent code)
  n / d

/-- The 64 bits of a sign and a code. -/
def bits (negative : Bool) (code : Nat) : UInt64 :=
  UInt64.ofNat (if negative then signBit + code else code)

/-- The sign of a representation. -/
def isNegative (b : UInt64) : Bool := signBit ≤ b.toNat

/-- The code of a representation. -/
def code (b : UInt64) : Nat := b.toNat % signBit

/-! ### Decimal scaling -/

/-- Largest power of ten with a double near it. -/
def maxPowerOfTen : Nat := 308

/-- Divides a code by `10 ^ n`, in steps of at most `10 ^ 308` each of which rounds. -/
def divPowerOfTen (code n : Nat) : Nat :=
  if n ≤ maxPowerOfTen then div code (round (Nat.pow 10 n) 1)
  else if code = 0 then 0
  else divPowerOfTen (div code (round (Nat.pow 10 maxPowerOfTen) 1)) (n - maxPowerOfTen)
termination_by n
decreasing_by simp [maxPowerOfTen] at *; omega

/-- The code of `significand * 10 ^ power`: the significand is rounded first and the scaling rounds
again, so the result can miss the nearest double by one. None if the value is out of range. -/
def ofDecimal? (significand : Nat) (power : Int) : Option Nat :=
  let start := round significand 1
  if power < 0 then some (divPowerOfTen start (-power).toNat)
  else if start = 0 then some 0
  else if (maxPowerOfTen : Int) < power then none
  else
    let scaled := mul start (round (Nat.pow 10 power.toNat) 1)
    if scaled < infinity then some scaled else none

end Binary64

end GatewaySession
