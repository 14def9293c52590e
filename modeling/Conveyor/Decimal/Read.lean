import Conveyor.Decimal.Binary
/-!
# Reading decimal and hexadecimal numbers

The text of a number, read to the nearest double:

* an optional sign, then decimal digits with an optional point and an optional exponent
  `e[+-]digits`; or `0x` and hex digits with an optional point and a mandatory binary
  exponent `p[+-]digits`;
* underscores may stand between digits, or after the `0x` prefix, and nowhere else;
* `inf`, `infinity` and `nan` in any case, the infinities with an optional sign;
* the whole text must be read; a value beyond the largest double is out of range and reads
  as an infinity, a value too small for the least one reads as zero.
-/

namespace Conveyor.Decimal

/-- Why a text is not a number. -/
inductive ReadFailure where
  /-- The text is no number. -/
  | malformed
  /-- The number lies beyond the largest double. -/
  | outOfRange
  deriving DecidableEq, Repr

/-- The words for each failure. -/
def ReadFailure.words : ReadFailure → String
  | .malformed => "invalid syntax"
  | .outOfRange => "value out of range"

/-- A decimal or hex digit's value in a base. -/
def digitIn (hex : Bool) (c : Char) : Option Nat :=
  if '0' ≤ c && c ≤ '9' then some (c.toNat - '0'.toNat)
  else if hex && 'a' ≤ c && c ≤ 'f' then some (c.toNat - 'a'.toNat + 10)
  else if hex && 'A' ≤ c && c ≤ 'F' then some (c.toNat - 'A'.toNat + 10)
  else none

/-- The lower case of an ASCII letter. -/
def lowerChar (c : Char) : Char := if 'A' ≤ c && c ≤ 'Z' then Char.ofNat (c.toNat + 32) else c

/-- The length of the common prefix of `s` and `word`, ignoring ASCII case. -/
def commonPrefix : List Char → List Char → Nat
  | c :: s, w :: ws => if lowerChar c = w then commonPrefix s ws + 1 else 0
  | _, _ => 0

/-- The special values: `inf` or `infinity` with an optional sign, and `nan`, in any case.
Returns the value and how many characters it took. -/
def special (s : List Char) : Option (Float × Nat) :=
  let signed (neg : Bool) (rest : List Char) (taken : Nat) : Option (Float × Nat) :=
    let n := commonPrefix rest "infinity".toList
    let n := if 3 < n && n < 8 then 3 else n
    if n = 3 || n = 8 then some (Binary.infinity neg, n + taken) else none
  match s with
  | '+' :: rest => signed false rest 1
  | '-' :: rest => signed true rest 1
  | c :: _ =>
    if lowerChar c = 'i' then signed false s 0
    else if lowerChar c = 'n' && commonPrefix s "nan".toList = 3 then some (Binary.nan, 3)
    else none
  | [] => none

/-- One step of the underscore rule: the last kind of character seen (`'0'` a digit or the
base prefix, `'_'` an underscore, `'!'` anything else), or `none` once the rule is broken. -/
def underscoreStep (hex : Bool) (saw : Option Char) (c : Char) : Option Char :=
  match saw with
  | none => none
  | some k =>
    if (digitIn hex c).isSome then some '0'
    else if c = '_' then (if k = '0' then some '_' else none)
    else if k = '_' then none
    else some '!'

/-- Whether the underscores in a number's text stand only between digits, or between a base
prefix and a digit. -/
def underscoresFit (s : List Char) : Bool :=
  let s := match s with
    | '+' :: r | '-' :: r => r
    | r => r
  let (hex, body, start) := match s with
    | '0' :: c :: r =>
      if lowerChar c = 'x' then (true, r, '0')
      else if lowerChar c = 'b' || lowerChar c = 'o' then (false, r, '0')
      else (false, s, '^')
    | _ => (false, s, '^')
  match body.foldl (underscoreStep hex) (some start) with
  | some k => k ≠ '_'
  | none => false

/-- What the scan of a number's text found. -/
structure Scan where
  negative : Bool := false
  hex : Bool := false
  mantissa : Nat := 0
  /-- Digits read after the point. -/
  fractionDigits : Nat := 0
  sawDigits : Bool := false
  sawPoint : Bool := false
  sawUnderscore : Bool := false
  exponent : Int := 0
  /-- Characters read. -/
  taken : Nat := 0

/-- Reads mantissa digits, underscores and one point. -/
def scanMantissa (hex : Bool) : List Char → Scan → Scan
  | [], sc => sc
  | c :: rest, sc =>
    if c = '_' then scanMantissa hex rest { sc with sawUnderscore := true, taken := sc.taken + 1 }
    else if c = '.' then
      if sc.sawPoint then sc
      else scanMantissa hex rest { sc with sawPoint := true, taken := sc.taken + 1 }
    else match digitIn hex c with
      | some d =>
        scanMantissa hex rest { sc with
          mantissa := sc.mantissa * (if hex then 16 else 10) + d
          fractionDigits := if sc.sawPoint then sc.fractionDigits + 1 else sc.fractionDigits
          sawDigits := true, taken := sc.taken + 1 }
      | none => sc

/-- Reads exponent digits and underscores; the value stops growing at ten thousand. -/
def scanExponent : List Char → Nat → Nat → Bool → Nat × Nat × Bool
  | c :: rest, e, taken, under =>
    if c = '_' then scanExponent rest e (taken + 1) true
    else match digitIn false c with
      | some d => scanExponent rest (if e < 10000 then e * 10 + d else e) (taken + 1) under
      | none => (e, taken, under)
  | [], e, taken, under => (e, taken, under)

/-- Scans the syntax of a finite number; `none` when it has no digits or lacks a required
exponent. -/
def scan (s : List Char) : Option Scan := do
  let (negative, afterSign, signTaken) := match s with
    | '+' :: r => (false, r, 1)
    | '-' :: r => (true, r, 1)
    | r => (false, r, 0)
  let (hex, body, prefixTaken) := match afterSign with
    | '0' :: x :: r@(_ :: _) => if lowerChar x = 'x' then (true, r, 2) else (false, afterSign, 0)
    | r => (false, r, 0)
  let sc := scanMantissa hex body { negative, hex, taken := signTaken + prefixTaken }
  if !sc.sawDigits then none
  let rest := s.drop sc.taken
  match rest with
  | c :: more =>
    if lowerChar c = (if hex then 'p' else 'e') then
      let (esign, digits, signLen) : Int × List Char × Nat := match more with
        | '+' :: r => (1, r, 1)
        | '-' :: r => (-1, r, 1)
        | r => (1, r, 0)
      match digits with
      | d :: _ =>
        if (digitIn false d).isNone then none
        else
          let (e, taken, under) := scanExponent digits 0 0 false
          some { sc with exponent := esign * e, taken := sc.taken + 1 + signLen + taken,
                         sawUnderscore := sc.sawUnderscore || under }
      | [] => none
    else if hex then none else some sc
  | [] => if hex then none else some sc

/-- The double a scan stands for, or `outOfRange` beyond the largest double. -/
def Scan.value (sc : Scan) : Except ReadFailure Float :=
  if sc.mantissa = 0 then .ok (Binary.zero sc.negative) else
  let result : Float :=
    if sc.hex then
      let p : Int := sc.exponent - 4 * sc.fractionDigits
      let bits : Int := (Nat.log2 sc.mantissa : Int) + p
      if bits > 1100 then Binary.infinity sc.negative
      else if bits < -1200 then Binary.zero sc.negative
      else if p < 0 then Binary.nearest sc.negative sc.mantissa (Nat.pow 2 (-p).toNat)
      else Binary.nearest sc.negative (sc.mantissa * Nat.pow 2 p.toNat) 1
    else
      let q : Int := sc.exponent - sc.fractionDigits
      let size : Int := ((toString sc.mantissa).length : Int) + q
      if size > 311 then Binary.infinity sc.negative
      else if size < -345 then Binary.zero sc.negative
      else if q < 0 then Binary.nearest sc.negative sc.mantissa (Nat.pow 10 (-q).toNat)
      else Binary.nearest sc.negative (sc.mantissa * Nat.pow 10 q.toNat) 1
  if Binary.isInfinite result then .error .outOfRange else .ok result

/-- **Reading a number's text** to the nearest double. -/
def readFloat (text : String) : Except ReadFailure Float :=
  let s := text.toList
  match special s with
  | some (v, n) => if n = s.length then .ok v else .error .malformed
  | none =>
    match scan s with
    | some sc =>
      if sc.taken ≠ s.length then .error .malformed
      else if sc.sawUnderscore && !underscoresFit s then .error .malformed
      else sc.value
    | none => .error .malformed

end Conveyor.Decimal
