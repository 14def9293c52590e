import Conveyor.Text.UpperTable
import Conveyor.Text.FoldTable
import Conveyor.Text.Utf8
/-!
# Case

Upper- and lower-casing map each character by the simple mappings of `upperRuns` and
`lowerRuns`. On bytes, an ill-formed byte becomes U+FFFD, because the bytes are read as text
first; a byte string of ASCII alone is mapped byte by byte, and the result is always a fresh,
present byte string, even for no bytes.

Two strings are equal without case (`equalFold`) when they have as many characters and each
pair folds alike by `foldRuns`: so `Kſ` matches `ks`, while a dotted `İ` matches no `i`.
-/

namespace Conveyor.Text

/-- The run among `runs[lo, hi)` whose range holds `n`, for sorted runs that do not overlap;
found by halving. -/
def findRun (runs : Array CaseRun) (n lo hi : Nat) : Option CaseRun :=
  if lo < hi then
    let mid := (lo + hi) / 2
    match runs[mid]? with
    | some r =>
      if n < r.lo then findRun runs n lo mid
      else if r.hi < n then findRun runs n (mid + 1) hi
      else some r
    | none => none
  else none
termination_by hi - lo

/-- A character mapped by a table of runs; a character in no run is kept. -/
def byRuns (runs : Array CaseRun) (c : Char) : Char :=
  let n := c.toNat
  match findRun runs n 0 runs.size with
  | some r => if (n - r.lo) % r.step = 0 then Char.ofNat (n + r.shift).toNat else c
  | none => c

/-- **Upper case of one character**, by the simple mapping. -/
def upperChar (c : Char) : Char := byRuns upperRuns c

/-- **Lower case of one character**, by the simple mapping. -/
def lowerChar (c : Char) : Char := byRuns lowerRuns c

/-- A string in lower case, character by character. -/
def lowerText (s : String) : String := s.map lowerChar

/-- The least member of a character's case-folding class. -/
def foldKey (c : Char) : Char := byRuns foldRuns c

/-- **Whether two strings are equal without case**: character by character, by case folding. -/
def equalFold (a b : String) : Bool := a.toList.map foldKey == b.toList.map foldKey

/-- Whether every byte is ASCII. -/
def isAscii (bs : ByteArray) : Bool := bs.data.all (· < 0x80)

/-- **Upper case of a byte string.** ASCII text is mapped byte by byte; anything else is read
as UTF-8 with replacement and written back character by character. -/
def upperBytes (bs : ByteArray) : ByteArray :=
  if isAscii bs then
    ⟨bs.data.map fun b => if 0x61 ≤ b && b ≤ 0x7A then b - 0x20 else b⟩
  else
    (Utf8.chars bs).foldl (fun acc (c, _) => Utf8.push acc (upperChar c)) ByteArray.empty

/-- The lower case of an ASCII letter; other characters are kept. -/
def lowerAscii (c : Char) : Char := if 'A' ≤ c && c ≤ 'Z' then Char.ofNat (c.toNat + 32) else c

/-- A string with its ASCII letters in lower case. -/
def lowerAsciiText (s : String) : String := s.map lowerAscii

/-- Whether two strings are equal when ASCII letters are compared without case. -/
def equalFoldAscii (a b : String) : Bool := lowerAsciiText a == lowerAsciiText b

/-- White space as text trimming sees it: the ASCII blanks, U+0085, U+00A0, and the spaces
and separators of the Unicode `White_Space` property. -/
def isSpace (c : Char) : Bool :=
  match c.toNat with
  | 0x09 | 0x0A | 0x0B | 0x0C | 0x0D | 0x20 | 0x85 | 0xA0 | 0x1680 => true
  | 0x2028 | 0x2029 | 0x202F | 0x205F | 0x3000 => true
  | n => 0x2000 ≤ n && n ≤ 0x200A

/-- A string without white space at either end. -/
def trimSpace (s : String) : String :=
  String.ofList (((s.toList.dropWhile isSpace).reverse.dropWhile isSpace).reverse)

end Conveyor.Text
