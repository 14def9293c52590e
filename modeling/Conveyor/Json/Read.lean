import Conveyor.Json.Value
import Conveyor.Decimal.Read
import Conveyor.Text.Utf8
import Conveyor.Text.Quoted
/-!
# Reading JSON

The words in which the payload readers report a fault (`ReadError`), the input they read, and
a reader of whole values (`Json.readWhole`). That reader's grammar is a little wider than the
standard's: a number is a leading digit or minus sign followed by any run of digits, points,
signs and exponent letters, accepted when that run reads as a double (so `01` and `1.` are
numbers, and `1e400` is out of range). Strings keep their bytes as written, except escapes, of
which a lone surrogate reads as U+FFFD. Arrays and objects nest at most `maxDepth` deep. A NUL
byte ends the input.

The readers of payloads, which follow a decoder's own rules more closely, are in
`Json.Decode` (a payload read at once) and `Json.Stream` (the first value of a stream).
-/
namespace Conveyor.Json

/-- How deep arrays and objects may nest. -/
def maxDepth : Nat := 10000

/-- Why a text is not the JSON that was asked for. -/
inductive ReadError where
  /-- The input holds no value at all. -/
  | exhausted
  /-- A required piece is missing, e.g. `"comma after object value"`. -/
  | expected (what : String)
  /-- A literal is misspelt at character `c`. -/
  | misspelt (c : Char) (literal : String)
  /-- No value starts with character `c`. -/
  | badStart (c : Char)
  /-- The input ends inside a piece. -/
  | cutShort (piece : String)
  /-- A number's text does not read as a double. -/
  | badNumber (literal : String) (why : Decimal.ReadFailure)
  /-- A key is not a string. -/
  | keyNotString (found : String)
  /-- Nesting goes deeper than `maxDepth`. -/
  | tooDeep (c : Char)
  /-- Something other than blanks follows the value. -/
  | trailing (c : Char)
  /-- A fault reported in its own words, such as a number that does not read. -/
  | described (message : String)

/-- The message of each fault. -/
def ReadError.message : ReadError → String
  | .exhausted => "EOF"
  | .expected what => "expected " ++ what
  | .misspelt c lit =>
    if c.toNat = 0 then "json: invalid character as " ++ lit
    else "json: invalid character " ++ c.toString ++ " as " ++ lit
  | .badStart c => "invalid character '" ++ c.toString ++ "' looking for beginning of value"
  | .cutShort piece => "json: " ++ piece ++ " unexpected end of JSON input"
  | .badNumber lit why => "strconv.ParseFloat: parsing " ++ Text.quote lit ++ ": " ++ why.words
  | .keyNotString found => "json: cannot unmarshal " ++ found ++ " into Go value of type string"
  | .tooDeep c => "invalid character \"" ++ c.toString ++ "\" exceeded max depth"
  | .trailing c => "invalid character '" ++ c.toString ++ "' after top-level value"
  | .described m => m

/-- The input: bytes up to the first NUL. -/
structure Input where
  bytes : ByteArray

/-- The byte at a position, or `0` past the end. -/
def Input.at (inp : Input) (i : Nat) : Nat := if h : i < inp.bytes.size then inp.bytes[i].toNat else 0

/-- A byte as the character of the same number, as faults quote it. -/
def Input.charAt (inp : Input) (i : Nat) : Char := Char.ofNat (inp.at i)

/-- The input cut at its first NUL byte. -/
def Input.ofBytes (bs : ByteArray) : Input :=
  match bs.data.findIdx? (· == 0) with
  | some n => ⟨bs.extract 0 n⟩
  | none => ⟨bs⟩

/-- The position of the first byte at or after `i` that is not a blank. -/
def skipBlanks (inp : Input) (i : Nat) : Nat :=
  if i < inp.bytes.size then
    match inp.at i with
    | 0x20 | 0x09 | 0x0A | 0x0D => skipBlanks inp (i + 1)
    | _ => i
  else i
termination_by inp.bytes.size - i

/-- Checks that the bytes from `i` spell `word`; the first wrong byte is reported. -/
def expectWord (inp : Input) (i : Nat) (word : List Nat) (literal : String) :
    Except ReadError Nat :=
  match word with
  | [] => .ok i
  | w :: ws => if inp.at i = w then expectWord inp (i + 1) ws literal
    else .error (.misspelt (inp.charAt i) literal)

/-- Whether a byte may continue a number's text. -/
def isNumberByte (b : Nat) : Bool :=
  (0x30 ≤ b && b ≤ 0x39) || b = 0x2E || b = 0x2B || b = 0x2D || b = 0x65 || b = 0x45

/-- The end of a number's text that starts at `i`. -/
def numberEnd (inp : Input) (i : Nat) : Nat :=
  if i < inp.bytes.size then
    if isNumberByte (inp.at i) then numberEnd inp (i + 1) else i
  else i
termination_by inp.bytes.size - i

/-- The value of a hex digit. -/
def hexValue (b : Nat) : Option Nat :=
  if 0x30 ≤ b && b ≤ 0x39 then some (b - 0x30)
  else if 0x61 ≤ b && b ≤ 0x66 then some (b - 0x61 + 10)
  else if 0x41 ≤ b && b ≤ 0x46 then some (b - 0x41 + 10)
  else none

/-- The four hex digits at `i`, as a number. -/
def hex4 (inp : Input) (i : Nat) : Option Nat := do
  let a ← hexValue (inp.at i)
  let b ← hexValue (inp.at (i + 1))
  let c ← hexValue (inp.at (i + 2))
  let d ← hexValue (inp.at (i + 3))
  some (((a * 16 + b) * 16 + c) * 16 + d)

/-- The character of a `\u` escape at `i` (just after the `u`) and where reading goes on: a
high surrogate followed by an escaped low surrogate is one character, any other surrogate
is U+FFFD. -/
def unicodeEscape (inp : Input) (i : Nat) : Except ReadError (Char × Nat) :=
  match hex4 inp i with
  | none => .error (.misspelt (inp.charAt i) "escaped unicode")
  | some n =>
    if 0xD800 ≤ n && n < 0xDC00 then
      if inp.at (i + 4) = 0x5C && inp.at (i + 5) = 0x75 then
        match hex4 inp (i + 6) with
        | some m =>
          if 0xDC00 ≤ m && m < 0xE000 then
            .ok (Char.ofNat (0x10000 + (n - 0xD800) * 1024 + (m - 0xDC00)), i + 10)
          else .ok (Utf8.replacement, i + 4)
        | none => .ok (Utf8.replacement, i + 4)
      else .ok (Utf8.replacement, i + 4)
    else if 0xDC00 ≤ n && n < 0xE000 then .ok (Utf8.replacement, i + 4)
    else .ok (Char.ofNat n, i + 4)

/-- Reads a string's bytes from `i` (just after the opening quote) up to the closing quote;
returns them and the position after the quote. -/
def stringFrom (inp : Input) (i : Nat) (acc : ByteArray) : Except ReadError (ByteArray × Nat) :=
  if h : i < inp.bytes.size then
    let b := inp.at i
    if b = 0x22 then .ok (acc, i + 1)
    else if b = 0x5C then
      match inp.at (i + 1) with
      | 0x22 => stringFrom inp (i + 2) (acc.push 0x22)
      | 0x5C => stringFrom inp (i + 2) (acc.push 0x5C)
      | 0x2F => stringFrom inp (i + 2) (acc.push 0x2F)
      | 0x62 => stringFrom inp (i + 2) (acc.push 0x08)
      | 0x66 => stringFrom inp (i + 2) (acc.push 0x0C)
      | 0x6E => stringFrom inp (i + 2) (acc.push 0x0A)
      | 0x72 => stringFrom inp (i + 2) (acc.push 0x0D)
      | 0x74 => stringFrom inp (i + 2) (acc.push 0x09)
      | 0x75 =>
        match unicodeEscape inp (i + 2) with
        | .ok (c, j) => if i < j then stringFrom inp j (Utf8.push acc c) else .error (.cutShort "string")
        | .error e => .error e
      | 0 => .error (.cutShort "string")
      | _ => .error (.misspelt (inp.charAt (i + 1)) "escaped string")
    else stringFrom inp (i + 1) (acc.push inp.bytes[i])
  else .error (.cutShort "string")
termination_by inp.bytes.size - i

/-- The kind of value a byte starts, in the words of a key fault. -/
def kindAt (b : Nat) : Option String :=
  if b = 0x5B then some "array" else if b = 0x7B then some "object"
  else if b = 0x2D || (0x30 ≤ b && b ≤ 0x39) then some "number" else none

/-- Reads an object key at `i` (blanks skipped): a string, or `null` for the empty key. -/
def keyAt (inp : Input) (i : Nat) : Except ReadError (ByteArray × Nat) :=
  let i := skipBlanks inp i
  let b := inp.at i
  if b = 0x22 then stringFrom inp (i + 1) ByteArray.empty
  else if b = 0x6E then do
    let j ← expectWord inp (i + 1) [0x75, 0x6C, 0x6C] "null"
    .ok (ByteArray.empty, j)
  else match kindAt b with
    | some k => .error (.keyNotString k)
    | none => .error (.badStart (inp.charAt i))

mutual

/-- Reads any value at `i` (blanks skipped) at nesting depth `depth`. The fuel bounds the
nesting, and every level reads at least one byte, so the input's length is enough. -/
def valueAt (check : Bool) (inp : Input) (fuel depth i : Nat) : Except ReadError (Json × Nat) :=
  match fuel with
  | 0 => .error (.cutShort "value")
  | fuel + 1 =>
    let i := skipBlanks inp i
    match inp.at i with
    | 0x7B => objectAt check inp fuel (depth + 1) i
    | 0x5B => arrayAt check inp fuel (depth + 1) i
    | 0x22 => do
      let (s, j) ← stringFrom inp (i + 1) ByteArray.empty
      .ok (.string s, j)
    | 0x74 => do
      let j ← expectWord inp (i + 1) [0x72, 0x75, 0x65] "true"
      .ok (.bool true, j)
    | 0x66 => do
      let j ← expectWord inp (i + 1) [0x61, 0x6C, 0x73, 0x65] "false"
      .ok (.bool false, j)
    | 0x6E => do
      let j ← expectWord inp (i + 1) [0x75, 0x6C, 0x6C] "null"
      .ok (.null, j)
    | b =>
      if b = 0x2D || (0x30 ≤ b && b ≤ 0x39) then
        let j := numberEnd inp (i + 1)
        let lit := String.fromUTF8! (inp.bytes.extract i j)
        if !check then .ok (.number lit, j) else
        match Decimal.readFloat lit with
        | .ok _ => .ok (.number lit, j)
        | .error why => .error (.badNumber lit why)
      else .error (.badStart (inp.charAt i))

/-- Reads an object whose `{` is at `i`. -/
def objectAt (check : Bool) (inp : Input) (fuel depth i : Nat) : Except ReadError (Json × Nat) :=
  if depth > maxDepth then .error (.tooDeep (inp.charAt i)) else
  let j := skipBlanks inp (i + 1)
  if inp.at j = 0x7D then .ok (.object [], j + 1)
  else membersFrom check inp fuel depth j []

/-- Reads object members from `i` until the closing brace. -/
def membersFrom (check : Bool) (inp : Input) (fuel depth i : Nat) (acc : List (ByteArray × Json)) :
    Except ReadError (Json × Nat) :=
  match fuel with
  | 0 => .error (.cutShort "object")
  | fuel + 1 => do
    let (k, j) ← keyAt inp i
    let j := skipBlanks inp j
    if inp.at j ≠ 0x3A then .error (.expected "colon after object key") else
    let (v, j) ← valueAt check inp fuel depth (j + 1)
    let j := skipBlanks inp j
    let acc := (k, v) :: acc
    if inp.at j = 0x7D then .ok (.object acc.reverse, j + 1)
    else if inp.at j = 0x2C then membersFrom check inp fuel depth (j + 1) acc
    else .error (.expected "comma after object value")

/-- Reads an array whose `[` is at `i`. -/
def arrayAt (check : Bool) (inp : Input) (fuel depth i : Nat) : Except ReadError (Json × Nat) :=
  if depth > maxDepth then .error (.tooDeep (inp.charAt i)) else
  let j := skipBlanks inp (i + 1)
  if inp.at j = 0x5D then .ok (.array [], j + 1)
  else itemsFrom check inp fuel depth j []

/-- Reads array items from `i` until the closing bracket. -/
def itemsFrom (check : Bool) (inp : Input) (fuel depth i : Nat) (acc : List Json) :
    Except ReadError (Json × Nat) :=
  match fuel with
  | 0 => .error (.cutShort "slice")
  | fuel + 1 => do
    let (v, j) ← valueAt check inp fuel depth i
    let j := skipBlanks inp j
    let acc := v :: acc
    if inp.at j = 0x5D then .ok (.array acc.reverse, j + 1)
    else if inp.at j = 0x2C then itemsFrom check inp fuel depth (j + 1) acc
    else .error (.cutShort "slice")

end

/-- Checks that only blanks follow position `i`. -/
def atEnd (inp : Input) (i : Nat) : Except ReadError Unit :=
  let j := skipBlanks inp i
  if j < inp.bytes.size then .error (.trailing (inp.charAt j)) else .ok ()

/-- **Reading a whole value**, and nothing after it but blanks. -/
def readWhole (bs : ByteArray) : Except ReadError Json := do
  let inp := Input.ofBytes bs
  if skipBlanks inp 0 ≥ inp.bytes.size then .error (.cutShort "value") else
  let (v, j) ← valueAt true inp (2 * inp.bytes.size + 2) 0 0
  atEnd inp j
  .ok v

end Conveyor.Json
