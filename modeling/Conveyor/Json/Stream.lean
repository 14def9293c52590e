import Conveyor.Json.Decode
/-!
# Decoding the first value of a stream

A stream decoder holds what it has read of its input and asks for more whenever it meets the
end of that. A payload is at hand in full after the first request, and the request that then
finds the input exhausted still reports success, once; only the requests after it fail. So the
decoder's first look past the end goes on as if more had come, and only its second look stops
it. `Reader` keeps whether that one successful request is still to come.

Where a look past the end happens decides what a truncated text means. Reading the letters of
`null`, a NUL byte where a letter should be is taken for the letter while the request still
succeeds, so `nul` reads as `null`, but `nu` does not. Reading `true` or `false`, the decoder
asks for more before the letters when fewer than the word's are left. A `\u` escape needs at
least one byte after its four digits, which are read with any byte that is not a hex digit as
zero, and a surrogate pair needs one byte after the second escape.

`Json.streamMap` reads a dynamic map as the first value of a stream: after blanks and at most one
separating comma or colon, an object or `null`, with numbers kept as written (a number must
still read as a double). What follows the value is left unread.
-/

namespace Conveyor.Json

/-- A stream decoder's place: the position it reads at, and whether the request that finds the
input exhausted, which still reports success, is yet to come. -/
structure Reader where
  pos : Nat
  spare : Bool

/-- Asks for more input: whether the request reports success, and the reader after it. -/
def Reader.more (r : Reader) : Bool × Reader := (r.spare, { r with spare := false })

/-- Moves the reader on by `n` bytes. -/
def Reader.skip (r : Reader) (n : Nat) : Reader := { r with pos := r.pos + n }

/-- Skips blanks; at the end of the input asks for more, in vain. The byte reached (NUL at the
end) and the reader there. -/
def Reader.blanks (inp : Input) (r : Reader) : Nat × Reader :=
  let r := { r with pos := skipBlanks inp r.pos }
  if inp.at r.pos = 0 then (0, r.more.2) else (inp.at r.pos, r)

/-- Whether the byte at the reader is `c`; at the end of the input asks for more first. -/
def Reader.isAt (inp : Input) (r : Reader) (c : Nat) : Bool × Reader :=
  if inp.at r.pos = 0 then (false, r.more.2) else (inp.at r.pos = c, r)

/-- Reads the letters `rest` of `null` after its `n` at the reader: a NUL byte where a letter
should be is taken for it if a request for more succeeds. -/
def nullIn (inp : Input) : List Nat → Reader → Except ReadError Reader
  | [], r => .ok r
  | w :: ws, r =>
    let c := inp.at r.pos
    if c = w then nullIn inp ws (r.skip 1)
    else if c = 0 && r.spare then nullIn inp ws (r.more.2.skip 1)
    else .error (.misspelt (Char.ofNat c) "null")

/-- Reads a word whose first letter is at the reader and whose other letters are `rest`: when
fewer bytes than the letters are left, more is asked for first. -/
def wordIn (inp : Input) (r : Reader) (rest : List Nat) (context : String) :
    Except ReadError Reader :=
  let (ok, r) := if inp.bytes.size ≤ r.pos + rest.length then r.more else (true, r)
  if !ok then .error (.misspelt (inp.charAt r.pos) context) else
  go rest (r.skip 1)
where
  go : List Nat → Reader → Except ReadError Reader
    | [], r => .ok r
    | w :: ws, r =>
      if inp.at r.pos = w then go ws (r.skip 1)
      else .error (.misspelt (inp.charAt r.pos) context)

/-- The code a `\u` escape's four digits from `i` stand for, any byte that is not a hex digit
read as zero. -/
def looseHex (inp : Input) (i : Nat) : Nat :=
  [i, i + 1, i + 2, i + 3].foldl (fun n k => n * 16 + (hexValue (inp.at k)).getD 0) 0

/-- The character of a `\u` escape whose `u` is at `u`, where reading goes on, and the reader:
a high surrogate followed by an escaped low surrogate is one character; any other surrogate
is U+FFFD. -/
def unicodeIn (inp : Input) (r : Reader) (u : Nat) : Char × Nat × Reader :=
  let code := looseHex inp (u + 1)
  if 0xD800 ≤ code && code < 0xE000 then
    let r := if inp.bytes.size ≤ u + 11 then r.more.2 else r
    if inp.bytes.size ≤ u + 11 || inp.at (u + 5) ≠ 0x5C || inp.at (u + 6) ≠ 0x75 then
      (Utf8.replacement, u + 5, r)
    else
      let low := looseHex inp (u + 7)
      if code < 0xDC00 && 0xDC00 ≤ low && low < 0xE000 then
        (Char.ofNat (0x10000 + (code - 0xD800) * 1024 + (low - 0xDC00)), u + 11, r)
      else (Utf8.replacement, u + 5, r)
  else (Char.ofNat code, u + 5, r)

/-- **A string's content** from the reader, just after the opening quote, with escapes decoded;
the reader after the closing quote. -/
def stringIn (inp : Input) (r : Reader) (acc : ByteArray) : Except ReadError (ByteArray × Reader) :=
  if h : r.pos < inp.bytes.size then
    let b := inp.at r.pos
    if b = 0x22 then .ok (acc, r.skip 1)
    else if b = 0 then .error (.cutShort "string")
    else if b = 0x5C then
      let e := inp.at (r.pos + 1)
      match simpleEscape e with
      | some x => stringIn inp (r.skip 2) (acc.push x)
      | none =>
        if e = 0x75 then
          let u := r.pos + 1
          if inp.bytes.size ≤ u + 5 then .error (.misspelt 'u' "escaped string")
          else
            let (c, next, r') := unicodeIn inp r u
            if r.pos < next then stringIn inp { r' with pos := next } (Utf8.push acc c)
            else .error (.cutShort "string")
        else if e = 0 then .error (.misspelt (Char.ofNat 0) "escaped string")
        else .error (.cutShort "string")
    else stringIn inp (r.skip 1) (acc.push inp.bytes[r.pos])
  else .error (.cutShort "string")
termination_by inp.bytes.size - r.pos
decreasing_by
  all_goals (try simp only [Reader.skip])
  all_goals omega

/-- A number at the reader, kept as written: its text must read as a double. -/
def numberIn (inp : Input) (r : Reader) : Except ReadError (Json × Reader) :=
  let j := numberEnd inp (r.pos + 1)
  let r' := { r with pos := j }
  let r' := if inp.at j = 0 then r'.more.2 else r'
  let lit := Utf8.lossy (inp.bytes.extract r.pos j)
  match Decimal.readFloat lit with
  | .ok _ => .ok (.number lit, r')
  | .error why => .error (.badNumber lit why)

/-- A key at the reader (blanks skipped): a string, none for `null`. -/
def keyIn (inp : Input) (r : Reader) : Except ReadError (Option ByteArray × Reader) :=
  let (c, r) := r.blanks inp
  if c = 0x5B then .error (.keyNotString "array")
  else if c = 0x7B then .error (.keyNotString "object")
  else if startsNumber c then .error (.keyNotString "number")
  else if c = 0x22 then do
    let (s, r) ← stringIn inp (r.skip 1) ByteArray.empty
    .ok (some s, r)
  else if c = 0x6E then do
    let r ← nullIn inp nullRest (r.skip 1)
    .ok (none, r)
  else .error (.badStart (Char.ofNat c))

mutual

/-- **A dynamic value** at the reader, nested `depth` deep. -/
def anyIn (inp : Input) (fuel depth : Nat) (r : Reader) : Except ReadError (Json × Reader) :=
  match fuel with
  | 0 => .error (.cutShort "value")
  | fuel + 1 =>
    if depth + 1 > maxDepth then .error (.tooDeep (inp.charAt r.pos)) else
    let (c, r) := r.blanks inp
    if c = 0x7B then do
      let (m, r) ← mapIn inp fuel (depth + 1) r
      .ok ((m.map Json.object).getD .null, r)
    else if c = 0x5B then sliceIn inp fuel (depth + 1) r
    else if startsNumber c then numberIn inp r
    else if c = 0x22 then do
      let (s, r) ← stringIn inp (r.skip 1) ByteArray.empty
      .ok (.string s, r)
    else if c = 0x74 then do
      let r ← wordIn inp r trueRest "bool(true)"
      .ok (.bool true, r)
    else if c = 0x66 then do
      let r ← wordIn inp r falseRest "bool(false)"
      .ok (.bool false, r)
    else if c = 0x6E then do
      let r ← nullIn inp nullRest (r.skip 1)
      .ok (.null, r)
    else .error (.badStart (Char.ofNat c))

/-- **A map** at the reader: an object's members, none for `null`. -/
def mapIn (inp : Input) (fuel depth : Nat) (r : Reader) :
    Except ReadError (Option (List (ByteArray × Json)) × Reader) :=
  match fuel with
  | 0 => .error (.cutShort "object")
  | fuel + 1 =>
    if depth + 1 > maxDepth then .error (.tooDeep (inp.charAt r.pos)) else
    let (c, r) := r.blanks inp
    if c = 0x6E then do
      let r ← nullIn inp nullRest (r.skip 1)
      .ok (none, r)
    else if c = 0x7B then
      let (c, r) := (r.skip 1).blanks inp
      if c = 0x7D then .ok (some [], r.skip 1)
      else do
        let (ms, r) ← membersIn inp fuel (depth + 1) r []
        .ok (some ms, r)
    else .error (.expected "\x7b character for map value")

/-- The members of a map from the reader to its closing brace. -/
def membersIn (inp : Input) (fuel depth : Nat) (r : Reader) (acc : List (ByteArray × Json)) :
    Except ReadError (List (ByteArray × Json) × Reader) :=
  match fuel with
  | 0 => .error (.cutShort "object")
  | fuel + 1 => do
    let (k, r) ← keyIn inp r
    let (_, r) := r.blanks inp
    let (colon, r) := r.isAt inp 0x3A
    if !colon then .error (.expected "colon after object key") else
    let (v, r) ← anyIn inp fuel depth (r.skip 1)
    let acc := (k.getD ByteArray.empty, v) :: acc
    let (_, r) := r.blanks inp
    let (close, r) := r.isAt inp 0x7D
    if close then .ok (acc.reverse, r.skip 1) else
    let (comma, r) := r.isAt inp 0x2C
    if !comma then .error (.expected "comma after object value")
    else membersIn inp fuel depth (r.skip 1) acc

/-- **An array** whose `[` is at the reader. -/
def sliceIn (inp : Input) (fuel depth : Nat) (r : Reader) : Except ReadError (Json × Reader) :=
  match fuel with
  | 0 => .error (.cutShort "slice")
  | fuel + 1 =>
    if depth + 1 > maxDepth then .error (.tooDeep (inp.charAt r.pos)) else
    let (c, r) := (r.skip 1).blanks inp
    if c = 0x5D then .ok (.array [], r.skip 1)
    else itemsIn inp fuel (depth + 1) r []

/-- The items of an array from the reader to its closing bracket. -/
def itemsIn (inp : Input) (fuel depth : Nat) (r : Reader) (acc : List Json) :
    Except ReadError (Json × Reader) :=
  match fuel with
  | 0 => .error (.cutShort "slice")
  | fuel + 1 => do
    let (v, r) ← anyIn inp fuel depth r
    let (c, r) := r.blanks inp
    let acc := v :: acc
    if c = 0x5D then .ok (.array acc.reverse, r.skip 1)
    else if c = 0x2C then itemsIn inp fuel depth (r.skip 1) acc
    else .error (.cutShort "slice")

end

/-- **Decoding the first value of a stream into a dynamic map**: an object's members, none for
`null`. Input of blanks only is `exhausted`. -/
def streamMap (bs : ByteArray) : Except ReadError (Option (List (ByteArray × Json))) :=
  let inp : Input := ⟨bs⟩
  let pos := skipBlanks inp 0
  if inp.at pos = 0 then .error .exhausted else
  let pos := if inp.at pos = 0x2C || inp.at pos = 0x3A then pos + 1 else pos
  (mapIn inp (2 * bs.size + 4) 0 { pos, spare := true }).map (·.1)

end Conveyor.Json
