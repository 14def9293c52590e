import Conveyor.Json.Value
import Conveyor.Text.Utf8
import Conveyor.Text.Quoted
/-!
# Writing JSON

Compact JSON text with no blanks. In strings a quote and a backslash are escaped, newline,
carriage return and tab take their one-letter escapes, other control characters and the
characters `<`, `>`, `&`, U+2028 and U+2029 are written `\u00XX` style, and a byte that is not
UTF-8 is written `�`; everything else is copied. Numbers are written with their text,
members and items in their order.
-/

namespace Conveyor.Json

/-- The bytes of an ASCII string. -/
def ascii (s : String) : ByteArray := s.toUTF8

/-- The escape of a character, when it needs one; `html` says whether `<`, `>` and `&` are
escaped too. -/
def escapeOf (html : Bool) (c : Char) : Option String :=
  match c.toNat with
  | 0x22 => some "\\\""
  | 0x5C => some "\\\\"
  | 0x0A => some "\\n"
  | 0x0D => some "\\r"
  | 0x09 => some "\\t"
  | 0x2028 | 0x2029 => some ("\\u" ++ Text.hexFixed c.toNat 4)
  | 0x3C | 0x3E | 0x26 => if html then some ("\\u" ++ Text.hexFixed c.toNat 4) else none
  | n => if n < 0x20 then some ("\\u" ++ Text.hexFixed n 4) else none

/-- Appends the escaped bytes of `s` from position `i` on. -/
def escapeFrom (html : Bool) (s : ByteArray) (i : Nat) (acc : ByteArray) : ByteArray :=
  if i < s.size then
    let (c, extra) := Utf8.decodeAt s i
    let acc :=
      if c = Utf8.replacement && extra = 0 then acc ++ ascii "\\ufffd"
      else match escapeOf html c with
        | some e => acc ++ ascii e
        | none => acc ++ s.extract i (i + extra + 1)
    escapeFrom html s (i + extra + 1) acc
  else acc
termination_by s.size - i

/-- Appends a quoted, escaped string. -/
def quoteInto (acc s : ByteArray) : ByteArray := (escapeFrom true s 0 (acc.push 0x22)).push 0x22

/-- A string as a JSON string literal, with `<`, `>` and `&` left as they are. -/
def plainLiteral (s : String) : String :=
  String.fromUTF8! ((escapeFrom false s.toUTF8 0 (ByteArray.empty.push 0x22)).push 0x22)

mutual

/-- Appends the text of a value. -/
def writeInto (acc : ByteArray) : Json → ByteArray
  | .null => acc ++ ascii "null"
  | .bool true => acc ++ ascii "true"
  | .bool false => acc ++ ascii "false"
  | .number lit => acc ++ ascii lit
  | .string s => quoteInto acc s
  | .array xs => (writeItems (acc.push 0x5B) true xs).push 0x5D
  | .object ms => (writeMembers (acc.push 0x7B) true ms).push 0x7D

/-- Appends array items, separated by commas. -/
def writeItems (acc : ByteArray) (first : Bool) : List Json → ByteArray
  | [] => acc
  | x :: xs => writeItems (writeInto (if first then acc else acc.push 0x2C) x) false xs

/-- Appends object members, separated by commas. -/
def writeMembers (acc : ByteArray) (first : Bool) : List (ByteArray × Json) → ByteArray
  | [] => acc
  | (k, v) :: ms =>
    writeMembers (writeInto ((quoteInto (if first then acc else acc.push 0x2C) k).push 0x3A) v)
      false ms

end

/-- **The text of a value**, as bytes. -/
def write (j : Json) : ByteArray := writeInto ByteArray.empty j

/-- A line break and the indent of a depth, two blanks a level. -/
def breakAt (acc : ByteArray) (depth : Nat) : ByteArray :=
  (List.replicate depth "  ").foldl (fun a s => a ++ ascii s) (acc.push 0x0A)

mutual

/-- Appends the indented text of a value at a depth: every item and member on a line of its
own, a blank after each colon, and empty arrays and objects kept on one line. -/
def indentInto (acc : ByteArray) (depth : Nat) : Json → ByteArray
  | .array [] => acc ++ ascii "[]"
  | .object [] => acc ++ ascii "\x7b\x7d"
  | .array xs => breakAt (indentItems (acc.push 0x5B) depth true xs) depth |>.push 0x5D
  | .object ms => breakAt (indentMembers (acc.push 0x7B) depth true ms) depth |>.push 0x7D
  | j => writeInto acc j

/-- Appends indented array items, one a line. -/
def indentItems (acc : ByteArray) (depth : Nat) (first : Bool) : List Json → ByteArray
  | [] => acc
  | x :: xs =>
    indentItems (indentInto (breakAt (if first then acc else acc.push 0x2C) (depth + 1)) (depth + 1) x)
      depth false xs

/-- Appends indented object members, one a line. -/
def indentMembers (acc : ByteArray) (depth : Nat) (first : Bool) : List (ByteArray × Json) → ByteArray
  | [] => acc
  | (k, v) :: ms =>
    let acc := quoteInto (breakAt (if first then acc else acc.push 0x2C) (depth + 1)) k
    indentMembers (indentInto (acc ++ ascii ": ") (depth + 1) v) depth false ms

end

/-- **The indented text of a value**, as bytes. -/
def writeIndented (j : Json) : ByteArray := indentInto ByteArray.empty 0 j

end Conveyor.Json
