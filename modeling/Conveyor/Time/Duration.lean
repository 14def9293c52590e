import Conveyor.Word
/-!
# Durations

A duration is a whole number of nanoseconds. Its text uses the largest units that fit:
below a microsecond `Nns`; below a millisecond `N.NNNµs`; below a second `N.NNNms`; otherwise
hours, minutes and seconds, as in `1h2m3.5s`, with the fraction of a second written without
trailing zeros. Zero is `0s`; a negative duration has a leading minus sign.

Durations are also read from text such as `1h30m`, `250ms` or `1.5s`: an optional sign, then
one or more numbers each followed by a unit (`ns`, `us`, `µs`, `μs`, `ms`, `s`, `m`, `h`).
-/

namespace Conveyor.Duration

/-- Nanoseconds in a microsecond, a millisecond, a second, a minute, an hour. -/
def microsecond : Int := 1000
def millisecond : Int := 1000000
def second : Int := 1000000000
def minute : Int := 60 * second
def hour : Int := 60 * minute

/-- The least and greatest 64-bit durations. -/
def least : Int := Word.least
def greatest : Int := Word.greatest

/-- A difference of instants as a duration: beyond the 64-bit range it stops at the nearer
end. -/
def clamp (d : Int) : Int := Word.clamp d

/-- A sum of durations in 64-bit arithmetic, which wraps around. -/
def wrap (d : Int) : Int := Word.wrap d

/-- A whole number of milliseconds as a duration, multiplied out in 64-bit arithmetic: a count
beyond about 9.2 trillion milliseconds wraps around. -/
def ofMillis (n : Int) : Int := wrap (n * millisecond)

/-- The digits of `frac` as a fraction of `10^places`, without trailing zeros, after a point;
empty when the fraction is zero. -/
def fraction (frac places : Nat) : String :=
  if frac = 0 then "" else
  let s := toString frac
  let s := String.ofList (List.replicate (places - s.length) '0') ++ s
  "." ++ String.ofList ((s.toList.reverse.dropWhile (· = '0')).reverse)

/-- The text of a non-negative number of nanoseconds. -/
def magnitudeText (u : Nat) : String :=
  if u = 0 then "0s"
  else if u < 1000 then toString u ++ "ns"
  else if u < 1000000 then toString (u / 1000) ++ fraction (u % 1000) 3 ++ "µs"
  else if u < 1000000000 then toString (u / 1000000) ++ fraction (u % 1000000) 6 ++ "ms"
  else
    let secs := u / 1000000000
    let frac := fraction (u % 1000000000) 9
    let s := toString (secs % 60) ++ frac ++ "s"
    let mins := secs / 60
    if mins = 0 then s
    else
      let s := toString (mins % 60) ++ "m" ++ s
      let hours := mins / 60
      if hours = 0 then s else toString hours ++ "h" ++ s

/-- **The text of a duration.** -/
def text (d : Int) : String :=
  if d < 0 then "-" ++ magnitudeText d.natAbs else magnitudeText d.natAbs

/-- The nanoseconds in one of each unit, by its name. -/
def unitValue : String → Option Nat
  | "ns" => some 1
  | "us" | "µs" | "μs" => some 1000
  | "ms" => some 1000000
  | "s" => some 1000000000
  | "m" => some 60000000000
  | "h" => some 3600000000000
  | _ => none

/-- Whether a character is an ASCII digit. -/
def isDigit (c : Char) : Bool := '0' ≤ c && c ≤ '9'

/-- The value of a digit run. -/
def digitsValue (ds : List Char) : Nat := ds.foldl (fun n c => n * 10 + (c.toNat - 48)) 0

/-- How a duration's text is shown in an error: printable ASCII stands for itself, a quote
or backslash gets a backslash, and every byte of any other character is written `\xhh`. -/
def quoteText (s : String) : String :=
  let hex (n : Nat) : Char := "0123456789abcdef".toList.getD n '0'
  let one (c : Char) : String :=
    if c.toNat ≥ 0x80 || c.toNat < 0x20 then
      String.join ((String.singleton c).toUTF8.toList.map fun b =>
        "\\x" ++ String.singleton (hex (b.toNat / 16)) ++ String.singleton (hex (b.toNat % 16)))
    else if c == '"' || c == '\\' then "\\" ++ String.singleton c
    else String.singleton c
  "\"" ++ String.join (s.toList.map one) ++ "\""

/-- The largest magnitude a duration's text may reach: `2^63` nanoseconds. -/
def limit : Nat := Nat.pow 2 63

/-- Reads the digits of a whole part; `none` once the value passes `2^63`. -/
def leadingWhole : List Char → Nat → Option (Nat × List Char)
  | c :: rest, x =>
    if isDigit c then
      if x > limit / 10 then none
      else
        let x := x * 10 + (c.toNat - 48)
        if x > limit then none else leadingWhole rest x
    else some (x, c :: rest)
  | [], x => some (x, [])

/-- Reads the digits of a fraction: its value, and the power of ten it is over. Digits that
would take the value past `2^63 - 1` are skipped. -/
def leadingFraction : List Char → Nat → Nat → Bool → Nat × Nat × List Char
  | c :: rest, x, scale, spilled =>
    if isDigit c then
      if spilled || x > (limit - 1) / 10 then leadingFraction rest x scale true
      else
        let y := x * 10 + (c.toNat - 48)
        if y > limit then leadingFraction rest x scale true
        else leadingFraction rest y (scale * 10) false
    else (x, scale, c :: rest)
  | [], x, scale, _ => (x, scale, [])

/-- The nanoseconds a fraction `f / scale` of a unit adds, as a double computes them and cut
toward zero. -/
def fractionPart (f unit scale : Nat) : Nat :=
  (Float.ofNat f * (Float.ofNat unit / Float.ofNat scale)).toUInt64.toNat

/-- Reads `number unit` terms and adds them up to `total`, each at most `2^63` nanoseconds. -/
def readTerms (orig : String) : List Char → Nat → Nat → Except String Nat
  | _, total, 0 => .ok total
  | [], total, _ + 1 => .ok total
  | s@(c :: _), total, fuel + 1 => do
    let invalid : Except String Nat := .error ("time: invalid duration " ++ quoteText orig)
    if !(c == '.' || isDigit c) then invalid else
    match leadingWhole s 0 with
    | none => invalid
    | some (v, rest) =>
      let pre := rest.length != s.length
      let (f, scale, rest, post) := match rest with
        | '.' :: r =>
          let (f, scale, r2) := leadingFraction r 0 1 false
          (f, scale, r2, r2.length != r.length)
        | r => (0, 1, r, false)
      if !pre && !post then invalid else
      let unitChars := rest.takeWhile fun c => !(isDigit c) && c ≠ '.'
      let after := rest.dropWhile fun c => !(isDigit c) && c ≠ '.'
      if unitChars.isEmpty then .error ("time: missing unit in duration " ++ quoteText orig) else
      let u := String.ofList unitChars
      match unitValue u with
      | none => .error ("time: unknown unit " ++ quoteText u ++ " in duration " ++ quoteText orig)
      | some unit =>
        if v > limit / unit then invalid else
        let v := v * unit
        let v := if f > 0 then v + fractionPart f unit scale else v
        if v > limit then invalid else
        let total := total + v
        if total > limit then invalid else readTerms orig after total fuel

/-- **Reading a duration's text**, or the error that says why it is not one. A value beyond
the 64-bit range is not one. -/
def read (text : String) : Except String Int :=
  let s := text.toList
  let (neg, body) := match s with
    | '-' :: r => (true, r)
    | '+' :: r => (false, r)
    | r => (false, r)
  if body = ['0'] then .ok 0 else
  if body.isEmpty then .error ("time: invalid duration " ++ quoteText text) else
  match readTerms text body 0 (body.length + 1) with
  | .error e => .error e
  | .ok d =>
    if neg then .ok (-(d : Int))
    else if d > limit - 1 then .error ("time: invalid duration " ++ quoteText text)
    else .ok d

/-- A duration's text read, or `none`. -/
def parse (text : String) : Option Int := (read text).toOption

end Conveyor.Duration
