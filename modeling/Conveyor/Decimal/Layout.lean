import Conveyor.Decimal.Shortest
/-!
# Laying out decimal digits

One function writes every number format the engine prints; a `Layout` record holds the
decisions in which the formats differ. Digits whose leading power of ten lies in
`[lowest, highest)` are written positionally, the others as a mantissa with an exponent of at
least two digits and an explicit sign (`1e-07`, `1.5e+21`).

Main definitions:
* `Layout.json`: positional from `1e-6` up to below `1e21`.
* `Layout.general`: positional from `1e-4` up to below `1e6`, as a general number format.
* `Layout.positional`: always positional.
* `formatFloat` writes a double in a layout with its shortest digits.
-/

namespace Conveyor.Decimal

/-- Where positional notation ends. -/
structure Layout where
  /-- The least leading power written positionally. -/
  lowest : Int
  /-- The least leading power written with an exponent. -/
  highest : Int

/-- Numbers in JSON text: positional from `1e-6` up to below `1e21`. -/
def Layout.json : Layout := ⟨-6, 21⟩

/-- The general format: positional from `1e-4` up to below `1e6`. -/
def Layout.general : Layout := ⟨-4, 6⟩

/-- Always positional. -/
def Layout.positional : Layout := ⟨-100000, 100000⟩

/-- The power of ten of the leading digit. -/
def Digits.leading (d : Digits) : Int := (digitCount d.digits : Int) - 1 + d.exponent

/-- `n` zeros. -/
def zeros (n : Nat) : String := String.ofList (List.replicate n '0')

/-- The digits with the point placed after the leading one and an exponent. -/
def Digits.scientific (d : Digits) : String :=
  let s := toString d.digits
  let mant := match s.toList with
    | c :: rest@(_ :: _) => String.singleton c ++ "." ++ String.ofList rest
    | _ => s
  let x := d.leading
  let xs := toString x.natAbs
  mant ++ "e" ++ (if x < 0 then "-" else "+") ++ (if xs.length < 2 then "0" ++ xs else xs)

/-- The digits written positionally. -/
def Digits.fixed (d : Digits) : String :=
  let s := toString d.digits
  if d.exponent ≥ 0 then s ++ zeros d.exponent.toNat
  else
    let point : Int := (s.length : Int) + d.exponent
    if point > 0 then
      String.ofList (s.toList.take point.toNat) ++ "." ++ String.ofList (s.toList.drop point.toNat)
    else "0." ++ zeros (-point).toNat ++ s

/-- The digits in a layout, without sign. Zero is written positionally. -/
def Digits.render (layout : Layout) (d : Digits) : String :=
  if d.digits = 0 then "0"
  else if layout.lowest ≤ d.leading && d.leading < layout.highest then d.fixed
  else d.scientific

/-- The shortest digits of a double's magnitude, zero for zero; `none` for NaN and infinities. -/
def digitsOf (f : Float) : Option Digits :=
  match (Binary.view f).kind with
  | .finite 0 _ => some ⟨0, 0⟩
  | .finite m e => some (shortest m e)
  | _ => none

/-- **Writing a double** in a layout with its shortest digits: a minus sign for negative
values, negative zero included, and `NaN`, `+Inf`, `-Inf` for the values without digits. -/
def formatFloat (layout : Layout) (f : Float) : String :=
  let v := Binary.view f
  match v.kind with
  | .nan => "NaN"
  | .infinite => if v.negative then "-Inf" else "+Inf"
  | .finite 0 _ => if v.negative then "-0" else "0"
  | .finite m e => (if v.negative then "-" else "") ++ (shortest m e).render layout

end Conveyor.Decimal
