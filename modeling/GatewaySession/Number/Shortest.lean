import GatewaySession.Number.Binary64

/-!
# The shortest decimal of a double

The decimal text of a double has the fewest digits that still round to it, and of those the nearest
to its value, an even last digit deciding a tie. The reals that round to a code form an interval
whose ends belong to it when the significand is even. For each count of digits, the two grid points
around the value are tried in exact integer arithmetic: if any point of a grid lies in the interval,
one of these two does.

## Main definitions

* `Shortest.digits` — the digits and the power of ten of a positive code
* `Shortest.text` — the text, positional for moderate powers and scientific for the others
-/

namespace GatewaySession

namespace Shortest

open Binary64

/-- `n / d` compared with `10 ^ e`. -/
def atLeastPower (n d : Nat) (e : Int) : Bool :=
  if 0 ≤ e then d * Nat.pow 10 e.toNat ≤ n else d ≤ n * Nat.pow 10 (-e).toNat

/-- Greatest `e` between `-324` and `308` with `10 ^ e ≤ n / d`. -/
def decade (n d : Nat) : Int :=
  (((List.range 633).map fun i : Nat => (308 : Int) - i).find? (atLeastPower n d)).getD (-324)

/-- The interval that rounds to a code, as four times the significand and the distances to its two
ends in that unit. The lower end is nearer after a power of two, where the gap below is half. -/
def ends (code : Nat) : Nat × Nat × Nat :=
  let m := mantissa code
  let below := if m = hiddenBit ∧ hiddenBit < code then 1 else 2
  (4 * m, below, 2)

/-- Whether the decimal `d * 10 ^ k` rounds to the code. -/
def hits (code d : Nat) (k : Int) : Bool :=
  let (m4, below, above) := ends code
  -- `d * 10 ^ k` in units of a quarter of the last place
  let (num, den) := scale 1 1 (2 - exponent code)
  let (dn, dd) := if 0 ≤ k then (d * Nat.pow 10 k.toNat, 1) else (d, Nat.pow 10 (-k).toNat)
  let value := dn * num
  let unit := dd * den
  if mantissa code % 2 = 0 then
    (m4 - below) * unit ≤ value && value ≤ (m4 + above) * unit
  else
    (m4 - below) * unit < value && value < (m4 + above) * unit

/-- The candidate with `count` digits, if one of the two grid points around the value rounds to the
code. -/
def candidate? (code count : Nat) : Option (Nat × Int) :=
  let (n, d) := scale (mantissa code) 1 (exponent code)
  let k := decade n d - (count : Int) + 1
  let (num, den) := if 0 ≤ k then (n, d * Nat.pow 10 k.toNat) else (n * Nat.pow 10 (-k).toNat, d)
  let low := num / den
  let r := num % den
  match hits code low k, hits code (low + 1) k with
  | true, true =>
    if 2 * r < den ∨ (2 * r = den ∧ low % 2 = 0) then some (low, k) else some (low + 1, k)
  | true, false => some (low, k)
  | false, true => some (low + 1, k)
  | false, false => none

/-- Digits and power of ten of a positive code: seventeen digits are always enough. -/
def digits (code : Nat) : Nat × Int :=
  ((List.range 17).findSome? fun i => candidate? code (i + 1)).getD (0, 0)

/-- Zeros at the end of a number of digits move into the power of ten. -/
def stripZeros (fuel d : Nat) (k : Int) : Nat × Int :=
  match fuel with
  | 0 => (d, k)
  | fuel + 1 => if d ≠ 0 ∧ d % 10 = 0 then stripZeros fuel (d / 10) (k + 1) else (d, k)

/-- The text of digits and a power of ten. Values from `10 ^ -5` to below `10 ^ 16` are positional
and keep one place after the point; all others have an exponent with its sign. -/
def layout (d : Nat) (k : Int) : List Char :=
  let ds := Nat.toDigits 10 d
  let count : Int := ds.length
  let point := count + k
  if 0 ≤ k ∧ point ≤ 16 then ds ++ List.replicate k.toNat '0' ++ ['.', '0']
  else if 0 < point ∧ point ≤ 16 then ds.take point.toNat ++ '.' :: ds.drop point.toNat
  else if -5 < point ∧ point ≤ 0 then '0' :: '.' :: List.replicate (-point).toNat '0' ++ ds
  else
    let power := point - 1
    let powerText := (if power < 0 then '-' else '+') :: Nat.toDigits 10 power.natAbs
    match ds with
    | [single] => single :: 'e' :: powerText
    | first :: rest => first :: '.' :: rest ++ 'e' :: powerText
    | [] => []

/-- The decimal text of a finite double. -/
def text (b : UInt64) : List Char :=
  let c := code b
  let sign := if isNegative b then ['-'] else []
  if c = 0 then sign ++ ['0', '.', '0']
  else
    let (d, k) := digits c
    let (d, k) := stripZeros 17 d k
    sign ++ layout d k

end Shortest

end GatewaySession
