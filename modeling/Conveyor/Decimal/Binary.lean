/-!
# Binary64 values

A double is NaN, an infinity, or a finite value `(-1)^s * m * 2^e`. This module reads a
`Float` into that form from its bits and builds the double nearest to a positive rational,
ties going to the even significand, so that reading decimal text is one exact computation.

Main definitions:
* `Binary.view` splits a double into its kind, sign, significand and exponent.
* `Binary.nearest` is the double nearest to `num / den`.
-/

namespace Conveyor.Binary

/-- What a double is, up to its sign. -/
inductive Kind where
  | nan
  | infinite
  /-- The value `mantissa * 2 ^ exponent`. -/
  | finite (mantissa : Nat) (exponent : Int)

/-- A double read from its bits: its sign bit and what it is. -/
structure View where
  negative : Bool
  kind : Kind

/-- The significand bits below the leading one. -/
def fractionBits : Nat := 52

/-- **Reading a double.** Subnormals have exponent `-1074` and no hidden bit; normal values
carry the hidden bit in `mantissa`, which then lies in `[2^52, 2^53)`. -/
def view (f : Float) : View :=
  let b : Nat := f.toBits.toNat
  let negative : Bool := b / Nat.pow 2 63 = 1
  let biased : Nat := b / Nat.pow 2 52 % 2048
  let fraction : Nat := b % Nat.pow 2 52
  if biased = 2047 then
    ⟨negative, if fraction = 0 then .infinite else .nan⟩
  else if biased = 0 then
    ⟨negative, .finite fraction (-1074)⟩
  else
    ⟨negative, .finite (fraction + Nat.pow 2 52) ((biased : Int) - 1075)⟩

/-- The double with the given sign bit, biased exponent and fraction bits. -/
def ofFields (negative : Bool) (biased fraction : Nat) : Float :=
  Float.ofBits ((if negative then Nat.pow 2 63 else 0) + biased * Nat.pow 2 52 + fraction).toUInt64

/-- Positive or negative infinity. -/
def infinity (negative : Bool) : Float := ofFields negative 2047 0

/-- Positive or negative zero. -/
def zero (negative : Bool) : Float := ofFields negative 0 0

/-- The quiet NaN. -/
def nan : Float := ofFields false 2047 (Nat.pow 2 51)

/-- `num * 2^(-t) / den` split into quotient and remainder over a common denominator, for an
integer exponent `t`. -/
def scaled (num den : Nat) (t : Int) : Nat × Nat × Nat :=
  let n := if t < 0 then num * Nat.pow 2 (-t).toNat else num
  let d := if t < 0 then den else den * Nat.pow 2 t.toNat
  (n / d, n % d, d)

/-- The exponent `t` with `2^52 ≤ num / (den * 2^t) < 2^53`, by the bit lengths and one
correction either way. -/
def normalExponent (num den : Nat) : Int :=
  let t0 : Int := (Nat.log2 num : Int) - (Nat.log2 den : Int) - 52
  let (q, _, _) := scaled num den t0
  if q < Nat.pow 2 52 then t0 - 1 else if Nat.pow 2 53 ≤ q then t0 + 1 else t0

/-- **The nearest double** to `num / den` with the given sign, for `num, den > 0`: the quotient
scaled to 53 bits (fewer below the normal range), rounded half to even; a value beyond the
largest double is infinite. -/
def nearest (negative : Bool) (num den : Nat) : Float :=
  if num = 0 || den = 0 then zero negative else
  let t := max (normalExponent num den) (-1074)
  let (q, r, d) := scaled num den t
  let up := 2 * r > d || (2 * r = d && q % 2 = 1)
  let q := if up then q + 1 else q
  let (q, t) := if q = Nat.pow 2 53 then (Nat.pow 2 52, t + 1) else (q, t)
  if t > 971 then infinity negative
  else if q < Nat.pow 2 52 then ofFields negative 0 q
  else ofFields negative (t + 1075).toNat (q - Nat.pow 2 52)

/-- The double nearest to an integer. -/
def ofInt (n : Int) : Float := if n = 0 then zero false else nearest (n < 0) n.natAbs 1

/-- A double cut toward zero to a 64-bit integer, the way the processor converts it: NaN, the
infinities and values outside the 64-bit range give the least 64-bit integer. -/
def toInt64 (f : Float) : Int :=
  let v := view f
  match v.kind with
  | .finite m e =>
    let mag : Nat := if e < 0 then m / Nat.pow 2 (-e).toNat else m * Nat.pow 2 e.toNat
    let n : Int := if v.negative then -(mag : Int) else mag
    if n < -(Int.pow 2 63 : Int) || n ≥ (Int.pow 2 63 : Int) then -(Int.pow 2 63 : Int) else n
  | _ => -(Int.pow 2 63 : Int)

/-- Whether a double is infinite. -/
def isInfinite (f : Float) : Bool :=
  match (view f).kind with
  | .infinite => true
  | _ => false

end Conveyor.Binary
