import Conveyor.Decimal.Read
/-!
# Reading whole numbers

The text of a whole number in a base from 2 to 36, or in base 0, where the text chooses:
`0b` binary, `0o` octal, `0x` hexadecimal, a leading `0` octal, and decimal otherwise. In
base 0, underscores may stand between digits and after a prefix.

Digits are read from the left; the first character that is no digit of the base makes the
text malformed, and the first digit that takes the value past the largest of the requested
width makes it out of range, whichever comes first. A signed number takes an optional sign,
and its magnitude must fit the signed range of the width.
-/

namespace Conveyor.Decimal

/-- The value of a digit in bases up to 36: `0`-`9`, then the letters in either case. -/
def digitValue (c : Char) : Option Nat :=
  if '0' ≤ c && c ≤ '9' then some (c.toNat - '0'.toNat)
  else
    let l := lowerChar c
    if 'a' ≤ l && l ≤ 'z' then some (l.toNat - 'a'.toNat + 10) else none

/-- Folds the digits of a text into a value below `2^bits`, stopping at the first problem. -/
def foldDigits (base maxVal cutoff : Nat) (allowUnderscore : Bool) :
    List Char → Nat → Bool → Except ReadFailure (Nat × Bool)
  | [], n, under => .ok (n, under)
  | c :: rest, n, under =>
    if c = '_' && allowUnderscore then foldDigits base maxVal cutoff allowUnderscore rest n true
    else match digitValue c with
      | none => .error .malformed
      | some d =>
        if d ≥ base then .error .malformed
        else if n ≥ cutoff then .error .outOfRange
        else
          let n1 := n * base + d
          if n1 > maxVal then .error .outOfRange
          else foldDigits base maxVal cutoff allowUnderscore rest n1 under

/-- **Reading an unsigned whole number** of `bits` bits in `base` (0 lets the text choose). -/
def readNatural (text : String) (base bits : Nat) : Except ReadFailure Nat :=
  let s := text.toList
  if s.isEmpty then .error .malformed else
  let (b, digits) : Nat × List Char :=
    if base = 0 then
      match s with
      | '0' :: c :: r@(_ :: _) =>
        let l := lowerChar c
        if l = 'b' then (2, r) else if l = 'o' then (8, r) else if l = 'x' then (16, r)
        else (8, s.drop 1)
      | '0' :: r => (8, r)
      | _ => (10, s)
    else (base, s)
  let cutoff := (Nat.pow 2 64 - 1) / b + 1
  let maxVal := Nat.pow 2 bits - 1
  match foldDigits b maxVal cutoff (base = 0) digits 0 false with
  | .error e => .error e
  | .ok (n, under) =>
    if under && !underscoresFit s then .error .malformed else .ok n

/-- **Reading a signed whole number** of `bits` bits in `base` (0 lets the text choose). -/
def readInteger (text : String) (base bits : Nat) : Except ReadFailure Int :=
  let s := text.toList
  if s.isEmpty then .error .malformed else
  let (neg, body) := match s with
    | '+' :: r => (false, r)
    | '-' :: r => (true, r)
    | r => (false, r)
  let cutoff := Nat.pow 2 (bits - 1)
  let un : Except ReadFailure Nat :=
    match readNatural (String.ofList body) base bits with
    | .error .outOfRange => .ok (Nat.pow 2 bits - 1)
    | r => r
  match un with
  | .error e => .error e
  | .ok un =>
    if !neg && un ≥ cutoff then .error .outOfRange
    else if neg && un > cutoff then .error .outOfRange
    else .ok (if neg then -(un : Int) else un)

end Conveyor.Decimal
