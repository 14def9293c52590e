import Conveyor.Text.PrintTable
import Conveyor.Text.Utf8
/-!
# Quoted text

A byte string is quoted between double quotes so that the result is printable ASCII-safe
text that reads back to the same bytes: printable characters stand for themselves, a quote
and a backslash are escaped, the usual controls take their one-letter escapes, an ill-formed
byte is written `\xNN`, and any other character `\uNNNN` or `\UNNNNNNNN`, in lower-case hex.
-/

namespace Conveyor.Text

/-- Whether `n` lies in one of the closed ranges `table[lo, hi)`, which are sorted and apart;
found by halving. -/
def inRanges (table : Array (Nat × Nat)) (n lo hi : Nat) : Bool :=
  if lo < hi then
    let mid := (lo + hi) / 2
    match table[mid]? with
    | some (a, b) =>
      if n < a then inRanges table n lo mid
      else if b < n then inRanges table n (mid + 1) hi
      else true
    | none => false
  else false
termination_by hi - lo

/-- **Printable characters**: the graphic ones and the ASCII space. Below U+0100 these are
U+0020 to U+007E and U+00A1 to U+00FF without the soft hyphen U+00AD. -/
def isPrintable (c : Char) : Bool :=
  let n := c.toNat
  if n ≤ 0xFF then (0x20 ≤ n && n ≤ 0x7E) || (0xA1 ≤ n && n ≠ 0xAD)
  else inRanges graphicRanges n 0 graphicRanges.size

/-- The lower-case hex digit of a number below sixteen. -/
def hexDigit (n : Nat) : Char := "0123456789abcdef".toList.getD n '0'

/-- `n` in lower-case hex with exactly `width` digits (the low ones). -/
def hexFixed (n width : Nat) : String :=
  String.ofList ((List.range width).reverse.map fun i => hexDigit (n / Nat.pow 16 i % 16))

/-- The escape of one character that is not printable. -/
def escapeChar (c : Char) : String :=
  match c.toNat with
  | 7 => "\\a" | 8 => "\\b" | 12 => "\\f" | 10 => "\\n" | 13 => "\\r" | 9 => "\\t" | 11 => "\\v"
  | n =>
    if n < 0x20 || n = 0x7F then "\\x" ++ hexFixed n 2
    else if n < 0x10000 then "\\u" ++ hexFixed n 4
    else "\\U" ++ hexFixed n 8

/-- The quoted form of one character read from `width` bytes that began with `first`. -/
def quoteChar (c : Char) (width first : Nat) : String :=
  if c = Utf8.replacement && width = 1 then "\\x" ++ hexFixed first 2
  else if c = '"' then "\\\""
  else if c = '\\' then "\\\\"
  else if isPrintable c then c.toString
  else escapeChar c

/-- Quotes the characters of `bs` from byte `i` on. -/
def quoteFrom (bs : ByteArray) (i : Nat) (acc : String) : String :=
  if i < bs.size then
    let (c, extra) := Utf8.decodeAt bs i
    quoteFrom bs (i + extra + 1) (acc ++ quoteChar c (extra + 1) (Utf8.byteAt bs i))
  else acc
termination_by bs.size - i

/-- **Quoting a byte string** between double quotes. -/
def quoteBytes (bs : ByteArray) : String := quoteFrom bs 0 "\"" ++ "\""

/-- Quoting the UTF-8 bytes of a string. -/
def quote (s : String) : String := quoteBytes s.toUTF8

end Conveyor.Text
