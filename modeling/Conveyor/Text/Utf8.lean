/-!
# Reading UTF-8 with replacement

Payloads are raw bytes, and not every byte string is well-formed UTF-8. The reader here
decodes one scalar value at a time and turns every byte that starts no well-formed sequence
into U+FFFD, consuming exactly that one byte. Well-formed means the shortest encoding of a
scalar value: no overlong forms, no surrogates, nothing above U+10FFFF.

Main definitions:
* `Utf8.decodeAt` reads the character at a byte position and how many further bytes it takes.
* `Utf8.lossy` reads a whole byte string into a `String`.
* `Utf8.encode` writes one character.
-/

namespace Conveyor.Utf8

/-- The byte at position `i` as a number, or `256` past the end; `256` is no byte at all,
so it never passes a range test for a continuation byte. -/
def byteAt (bs : ByteArray) (i : Nat) : Nat :=
  if h : i < bs.size then bs[i].toNat else 256

/-- Whether `b` lies in the closed range `[lo, hi]`. -/
@[inline] def within (b lo hi : Nat) : Bool := lo ≤ b && b ≤ hi

/-- Continuation bytes are `0x80` to `0xBF`. -/
@[inline] def isCont (b : Nat) : Bool := within b 0x80 0xBF

/-- The replacement character U+FFFD. -/
def replacement : Char := '�'

/-- **One character.** The character that starts at byte `i` and the number of bytes after
the first that it takes. The second byte of a three- or four-byte sequence has a narrower range
after `E0`, `ED`, `F0` and `F4`; that is what rules out overlong forms, surrogates and values
above U+10FFFF. Anything else reads as `replacement` with no further bytes. -/
def decodeAt (bs : ByteArray) (i : Nat) : Char × Nat :=
  let b0 := byteAt bs i
  let b1 := byteAt bs (i + 1)
  let b2 := byteAt bs (i + 2)
  let b3 := byteAt bs (i + 3)
  if b0 < 0x80 then (Char.ofNat b0, 0)
  else if within b0 0xC2 0xDF then
    if isCont b1 then (Char.ofNat ((b0 - 0xC0) * 64 + (b1 - 0x80)), 1) else (replacement, 0)
  else if within b0 0xE0 0xEF then
    let lo := if b0 = 0xE0 then 0xA0 else 0x80
    let hi := if b0 = 0xED then 0x9F else 0xBF
    if within b1 lo hi && isCont b2 then
      (Char.ofNat ((b0 - 0xE0) * 4096 + (b1 - 0x80) * 64 + (b2 - 0x80)), 2)
    else (replacement, 0)
  else if within b0 0xF0 0xF4 then
    let lo := if b0 = 0xF0 then 0x90 else 0x80
    let hi := if b0 = 0xF4 then 0x8F else 0xBF
    if within b1 lo hi && isCont b2 && isCont b3 then
      (Char.ofNat ((b0 - 0xF0) * 262144 + (b1 - 0x80) * 4096 + (b2 - 0x80) * 64 + (b3 - 0x80)), 3)
    else (replacement, 0)
  else (replacement, 0)

/-- Reads the characters from byte `i` on, appending them to `acc`. -/
def lossyFrom (bs : ByteArray) (i : Nat) (acc : String) : String :=
  if i < bs.size then
    let (c, extra) := decodeAt bs i
    lossyFrom bs (i + extra + 1) (acc.push c)
  else acc
termination_by bs.size - i

/-- **Lossy reading.** The text of a byte string, each ill-formed byte replaced by U+FFFD. -/
def lossy (bs : ByteArray) : String := lossyFrom bs 0 ""

/-- Reads the characters from byte `i` on, each with the bytes it was read from. -/
def charsFrom (bs : ByteArray) (i : Nat) : List (Char × Nat) :=
  if i < bs.size then
    let (c, extra) := decodeAt bs i
    (c, extra + 1) :: charsFrom bs (i + extra + 1)
  else []
termination_by bs.size - i

/-- Every character of a byte string with its width in bytes; an ill-formed byte is
U+FFFD of width one. -/
def chars (bs : ByteArray) : List (Char × Nat) := charsFrom bs 0

/-- Whether a byte string is well-formed UTF-8. -/
def isValid (bs : ByteArray) : Bool := (String.fromUTF8? bs).isSome

/-- The UTF-8 bytes of one character. -/
def encode (c : Char) : ByteArray := (String.singleton c).toUTF8

/-- Appends the UTF-8 bytes of one character. -/
def push (bs : ByteArray) (c : Char) : ByteArray := bs ++ encode c

end Conveyor.Utf8
