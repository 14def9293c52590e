import Conveyor.Decimal.Binary
/-!
# Shortest decimal digits

The digits that a positive finite double prints with are the fewest that read back to it: of
all decimals `d * 10^k` that round to the double, those with the fewest significant digits,
and of those the nearest to the double, a tie going to the even `d`.

A decimal reads back to the double exactly when it lies in the double's rounding interval,
the reals halfway to its neighbours; the ends belong to it when the significand is even. On
the grid of `n`-digit decimals only the two grid points around the double can be nearest, so
for `n = 1, 2, ...` the search tests those two, in exact arithmetic.
-/

namespace Conveyor.Decimal

/-- Significant digits and the power of ten of the last one: the value `digits * 10^exponent`. -/
structure Digits where
  digits : Nat
  exponent : Int
  deriving Repr, BEq

/-- `10^k` as a fraction `(numerator, denominator)` of natural numbers. -/
def pow10 (k : Int) : Nat × Nat := if k < 0 then (1, Nat.pow 10 (-k).toNat) else (Nat.pow 10 k.toNat, 1)

/-- The number of decimal digits of a positive natural number. -/
def digitCount (n : Nat) : Nat := (toString n).length

/-- Drops trailing zero digits into the exponent. -/
def Digits.trim (d : Digits) (fuel : Nat := 400) : Digits :=
  match fuel with
  | 0 => d
  | fuel + 1 =>
    if d.digits ≠ 0 && d.digits % 10 = 0 then
      Digits.trim ⟨d.digits / 10, d.exponent + 1⟩ fuel
    else d

/-- The rounding interval of `m * 2^e`, all times `2^(e-2)`: its centre `4m`, its lower end
`4m - 2` (or `4m - 1` just above a power of two, where the gap below is half), its upper end
`4m + 2`. -/
def interval (m : Nat) (e : Int) : Nat × Nat × Nat :=
  let lower := if m = Nat.pow 2 52 && e > -1074 then 4 * m - 1 else 4 * m - 2
  (lower, 4 * m, 4 * m + 2)

/-- The candidates on the grid `10^k` around `m * 2^e` that read back: tested exactly on the
common scale `2^(e-2) * 10^k`. Returns the nearest, a tie to the even digits. -/
def onGrid (m : Nat) (e : Int) (k : Int) : Option Nat :=
  let (lo, mid, hi) := interval m e
  let inclusive := m % 2 = 0
  -- value of x * 2^(e-2) against d * 10^k: both sides scaled to natural numbers
  let (bn, bd) := if e - 2 < 0 then (1, Nat.pow 2 (2 - e).toNat) else (Nat.pow 2 (e - 2).toNat, 1)
  let (tn, td) := pow10 k
  -- x * 2^(e-2) = x * bn / bd and d * 10^k = d * tn / td; compare x * bn * td with d * tn * bd
  let side (x : Nat) : Nat := x * bn * td
  let grid (d : Nat) : Nat := d * tn * bd
  let below := side mid / (tn * bd)
  let fits (d : Nat) : Bool :=
    let g := grid d
    if inclusive then side lo ≤ g && g ≤ side hi else side lo < g && g < side hi
  let dist (d : Nat) : Nat := if grid d ≤ side mid then side mid - grid d else grid d - side mid
  match fits below, fits (below + 1) with
  | true, true =>
    if dist below < dist (below + 1) then some below
    else if dist (below + 1) < dist below then some (below + 1)
    else if below % 2 = 0 then some below else some (below + 1)
  | true, false => some below
  | false, true => some (below + 1)
  | false, false => none

/-- The power of ten of the leading digit of `m * 2^e`: the `p` with `10^p ≤ m * 2^e < 10^(p+1)`. -/
def leadingPower (m : Nat) (e : Int) : Int :=
  let (vn, vd) := if e < 0 then (m, Nat.pow 2 (-e).toNat) else (m * Nat.pow 2 e.toNat, 1)
  let p0 : Int := (digitCount (vn / vd) : Int) - 1
  if vn / vd = 0 then
    -- below one: count the places until the first nonzero digit
    let rec up (j : Nat) (fuel : Nat) : Int :=
      match fuel with
      | 0 => -(j : Int)
      | fuel + 1 => if vn * Nat.pow 10 j ≥ vd then -(j : Int) else up (j + 1) fuel
    up 1 400
  else p0

/-- Tries grids with `n`, `n + 1`, ... significant digits, up to seventeen. -/
def searchFrom (m : Nat) (e : Int) (p : Int) (n : Nat) (fuel : Nat) : Digits :=
  match fuel with
  | 0 => ⟨m, e⟩
  | fuel + 1 =>
    let k := p - n + 1
    match onGrid m e k with
    | some d => Digits.trim ⟨d, k⟩
    | none => searchFrom m e p (n + 1) fuel

/-- **Shortest digits** of the positive value `m * 2^e` (with `m > 0`). -/
def shortest (m : Nat) (e : Int) : Digits :=
  searchFrom m e (leadingPower m e) 1 17

end Conveyor.Decimal
