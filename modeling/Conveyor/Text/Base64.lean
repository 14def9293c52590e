/-!
# Base64

The standard alphabet with `=` padding. Reading needs a length that is a multiple of four,
padding only at the end, and every other character of the alphabet. Strict reading (`decode`)
also refuses a padded group whose unused bits are not zero; reading lines (`decodeLines`)
ignores those bits, and line breaks anywhere.
-/

namespace Conveyor.Text.Base64

/-- The sixty-four digits in order. -/
def alphabet : Array Char :=
  "ABCDEFGHIJKLMNOPQRSTUVWXYZabcdefghijklmnopqrstuvwxyz0123456789+/".toList.toArray

/-- The value of a digit. -/
def digitValue (c : Char) : Option Nat :=
  if 'A' ≤ c && c ≤ 'Z' then some (c.toNat - 'A'.toNat)
  else if 'a' ≤ c && c ≤ 'z' then some (c.toNat - 'a'.toNat + 26)
  else if '0' ≤ c && c ≤ '9' then some (c.toNat - '0'.toNat + 52)
  else if c = '+' then some 62
  else if c = '/' then some 63
  else none

/-- The digit of a value below sixty-four. -/
def digit (n : Nat) : Char := alphabet.getD n 'A'

/-- Writes bytes three at a time as four digits. -/
def encodeList : List UInt8 → List Char
  | [] => []
  | [a] =>
    let n := a.toNat * 65536
    [digit (n / 262144), digit (n / 4096 % 64), '=', '=']
  | [a, b] =>
    let n := a.toNat * 65536 + b.toNat * 256
    [digit (n / 262144), digit (n / 4096 % 64), digit (n / 64 % 64), '=']
  | a :: b :: c :: rest =>
    let n := a.toNat * 65536 + b.toNat * 256 + c.toNat
    digit (n / 262144) :: digit (n / 4096 % 64) :: digit (n / 64 % 64) :: digit (n % 64) ::
      encodeList rest

/-- **Encoding.** -/
def encode (bs : ByteArray) : String := String.ofList (encodeList bs.toList)

/-- Reads groups of four digits; `strict` refuses unused bits that are not zero. -/
def decodeList (strict : Bool) : List Char → Option (List UInt8)
  | [] => some []
  | [a, b, '=', '='] => do
    let n := (← digitValue a) * 262144 + (← digitValue b) * 4096
    if !strict || n % 65536 = 0 then some [(n / 65536).toUInt8] else none
  | [a, b, c, '='] => do
    let n := (← digitValue a) * 262144 + (← digitValue b) * 4096 + (← digitValue c) * 64
    if !strict || n % 256 = 0 then some [(n / 65536).toUInt8, (n / 256 % 256).toUInt8] else none
  | a :: b :: c :: d :: rest => do
    let n := (← digitValue a) * 262144 + (← digitValue b) * 4096 + (← digitValue c) * 64 +
      (← digitValue d)
    let tail ← decodeList strict rest
    some ((n / 65536).toUInt8 :: (n / 256 % 256).toUInt8 :: (n % 256).toUInt8 :: tail)
  | _ => none

/-- **Decoding**, or `none` for text that is not strict base64. -/
def decode (s : String) : Option ByteArray :=
  (decodeList true s.toList).map fun bs => ⟨bs.toArray⟩

/-- **Decoding text broken into lines**: carriage returns and line feeds are dropped first, and
unused bits of a padded group are ignored. -/
def decodeLines (s : String) : Option ByteArray :=
  (decodeList false (s.toList.filter fun c => c != '\r' && c != '\n')).map fun bs => ⟨bs.toArray⟩

end Conveyor.Text.Base64
