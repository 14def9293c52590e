import Conveyor.Json.Read
import Conveyor.Text.Case
/-!
# Decoding a payload at once

A payload decoded at once is read as if one NUL byte followed it, and a NUL byte met anywhere
stops a piece as the end of the input does. What is accepted depends on the type the payload
is read into:

* a dynamic map (`Json.decodeMap`): an object, or `null` for no map. Keys are strings, or
  `null` for the empty key. Values are read strictly: a literal must be spelt out in full, a
  number must be followed by a blank, a separator or the end and must read as a double, and a
  string's `\u` escape needs four hex digits and at least one byte after them.
* a record of raw fields (`Json.decodeFields`): an object, or `null` for no fields. A key names
  a field when, compared letter by letter without regard to ASCII case, it spells the field's
  name; a member's value is then taken as raw text, and any other member's value is only
  skipped. Skipping is lenient: brackets of the value's own kind are counted, not matched, and a
  string ends at the first quote that no backslash takes. A field keeps the raw text of its last
  member.
* a double (`Json.decodeFloat`) or a string (`Json.decodeString`): one number or one string, or
  `null` for neither.

After the value only blanks may follow, up to the end or a NUL byte.

The record reader matches keys one letter at a time against the fields whose names still agree,
taking an escape's letters as the escape decodes (`\"` a quote, `\u` its code point, any other
escape nothing); the field it picks is the first one in name order that agrees, and it names
that field only if the key's raw text is at least as long as the field's name.
-/

namespace Conveyor.Json

/-- Whether a byte starts a number. -/
def startsNumber (b : Nat) : Bool := b = 0x2D || (0x30 ≤ b && b ≤ 0x39)

/-- Whether a byte may follow a number: a blank, a separator, a closing bracket or NUL. -/
def endsNumber (b : Nat) : Bool :=
  b = 0 || b = 0x20 || b = 0x09 || b = 0x0D || b = 0x0A || b = 0x2C || b = 0x3A || b = 0x7D ||
    b = 0x5D

/-- Checks a literal whose first letter is at `i` and whose other letters are `rest`: the input
with its closing NUL must be long enough to hold it, and then each letter must be there. The
position after it. -/
def literalAt (inp : Input) (i : Nat) (rest : List Nat) (name : String) : Except ReadError Nat :=
  if inp.bytes.size + 1 ≤ i + rest.length then .error (.cutShort name)
  else expectWord inp (i + 1) rest name

/-- The letters of `null` after its `n`. -/
def nullRest : List Nat := [0x75, 0x6C, 0x6C]

/-- The letters of `true` after its `t`. -/
def trueRest : List Nat := [0x72, 0x75, 0x65]

/-- The letters of `false` after its `f`. -/
def falseRest : List Nat := [0x61, 0x6C, 0x73, 0x65]

/-- The byte a one-letter escape stands for. -/
def simpleEscape : Nat → Option UInt8
  | 0x22 => some 0x22
  | 0x5C => some 0x5C
  | 0x2F => some 0x2F
  | 0x62 => some 0x08
  | 0x66 => some 0x0C
  | 0x6E => some 0x0A
  | 0x72 => some 0x0D
  | 0x74 => some 0x09
  | _ => none

/-- The first of the four bytes from `i` that is not a hex digit. -/
def hexProblem (inp : Input) (i : Nat) : Option Nat :=
  ([i, i + 1, i + 2, i + 3].find? fun k => (hexValue (inp.at k)).isNone).map inp.at

/-- **A string's content** from `i`, just after its opening quote, and the position after its
closing quote. Escapes are checked and decoded; a lone surrogate reads as U+FFFD; other bytes
are kept as they are. -/
def stringAt (inp : Input) (i : Nat) (acc : ByteArray) : Except ReadError (ByteArray × Nat) :=
  if h : i < inp.bytes.size then
    let b := inp.at i
    if b = 0x22 then .ok (acc, i + 1)
    else if b = 0 then .error (.cutShort "string")
    else if b = 0x5C then
      let e := inp.at (i + 1)
      match simpleEscape e with
      | some x => stringAt inp (i + 2) (acc.push x)
      | none =>
        if e = 0x75 then
          if inp.bytes.size + 1 ≤ i + 6 then .error (.cutShort "escaped string")
          else match hexProblem inp (i + 2) with
            | some c => .error (.described ("json: invalid character " ++ (Char.ofNat c).toString ++
                " in \\u hexadecimal character escape"))
            | none =>
              match unicodeEscape inp (i + 2) with
              | .ok (c, j) => if i < j then stringAt inp j (Utf8.push acc c) else .error (.cutShort "string")
              | .error e => .error e
        else .error (.cutShort "escaped string")
    else stringAt inp (i + 1) (acc.push inp.bytes[i])
  else .error (.cutShort "string")
termination_by inp.bytes.size - i

/-- **A string or `null`** at `i` (blanks skipped), as a string target reads it: the content,
none for `null`, and the position after it. Another kind of value is refused by name. -/
def stringValueAt (inp : Input) (i : Nat) : Except ReadError (Option ByteArray × Nat) :=
  let i := skipBlanks inp i
  let b := inp.at i
  if b = 0x5B then .error (.keyNotString "array")
  else if b = 0x7B then .error (.keyNotString "object")
  else if startsNumber b then .error (.keyNotString "number")
  else if b = 0x22 then do
    let (s, j) ← stringAt inp (i + 1) ByteArray.empty
    .ok (some s, j)
  else if b = 0x6E then do
    let j ← literalAt inp i nullRest "null"
    .ok (none, j)
  else .error (.badStart (inp.charAt i))

/-- A number at `i`, as a double target reads it: its text, which must be followed by a byte
that may end a number and must read as a double. -/
def numberAt (inp : Input) (i : Nat) : Except ReadError (String × Float × Nat) :=
  let j := numberEnd inp (i + 1)
  if !endsNumber (inp.at j) then .error (.cutShort "float") else
  let lit := Utf8.lossy (inp.bytes.extract i j)
  match Decimal.readFloat lit with
  | .ok f => .ok (lit, f, j)
  | .error why => .error (.badNumber lit why)

/-- Checks that only blanks follow position `i`, up to the end or a NUL byte. -/
def finished (inp : Input) (i : Nat) : Except ReadError Unit :=
  let j := skipBlanks inp i
  if inp.at j = 0 then .ok () else .error (.trailing (inp.charAt j))

/-! ### Dynamic maps -/

mutual

/-- **A dynamic value** at `i`, nested `depth` deep: an object, an array, a number, a string or
a literal. -/
def anyAt (inp : Input) (fuel depth i : Nat) : Except ReadError (Json × Nat) :=
  match fuel with
  | 0 => .error (.cutShort "value")
  | fuel + 1 =>
    if depth + 1 > maxDepth then .error (.tooDeep (inp.charAt i)) else
    let j := skipBlanks inp i
    let b := inp.at j
    if b = 0x7B then do
      let (m, k) ← mapAt inp fuel (depth + 1) j
      .ok ((m.map Json.object).getD .null, k)
    else if b = 0x5B then sliceAt inp fuel (depth + 1) j
    else if startsNumber b then do
      let (lit, _, k) ← numberAt inp j
      .ok (.number lit, k)
    else if b = 0x22 then do
      let (s, k) ← stringAt inp (j + 1) ByteArray.empty
      .ok (.string s, k)
    else if b = 0x74 then do
      let k ← literalAt inp j trueRest "true"
      .ok (.bool true, k)
    else if b = 0x66 then do
      let k ← literalAt inp j falseRest "false"
      .ok (.bool false, k)
    else if b = 0x6E then do
      let k ← literalAt inp j nullRest "null"
      .ok (.null, k)
    else .error (.badStart (inp.charAt j))

/-- **A map** at `i`: an object's members, none for `null`. -/
def mapAt (inp : Input) (fuel depth i : Nat) :
    Except ReadError (Option (List (ByteArray × Json)) × Nat) :=
  match fuel with
  | 0 => .error (.cutShort "object")
  | fuel + 1 =>
    if depth + 1 > maxDepth then .error (.tooDeep (inp.charAt i)) else
    let i := skipBlanks inp i
    if inp.bytes.size + 1 < 2 then .error (.expected "\x7b\x7d for map") else
    let b := inp.at i
    if b = 0x6E then do
      let j ← literalAt inp i nullRest "null"
      .ok (none, j)
    else if b = 0x7B then
      let j := skipBlanks inp (i + 1)
      if inp.at j = 0x7D then .ok (some [], j + 1)
      else do
        let (ms, k) ← membersAt inp fuel (depth + 1) j []
        .ok (some ms, k)
    else .error (.expected "\x7b character for map value")

/-- The members of a map from `i` to its closing brace; a `null` key is the empty key. -/
def membersAt (inp : Input) (fuel depth i : Nat) (acc : List (ByteArray × Json)) :
    Except ReadError (List (ByteArray × Json) × Nat) :=
  match fuel with
  | 0 => .error (.cutShort "object")
  | fuel + 1 => do
    let (k, j) ← stringValueAt inp i
    let j := skipBlanks inp j
    if inp.at j ≠ 0x3A then .error (.expected "colon after object key") else
    let (v, j) ← anyAt inp fuel depth (j + 1)
    let j := skipBlanks inp j
    let acc := (k.getD ByteArray.empty, v) :: acc
    if inp.at j = 0x7D then .ok (acc.reverse, j + 1)
    else if inp.at j = 0x2C then membersAt inp fuel depth (j + 1) acc
    else .error (.expected "comma after object value")

/-- **An array** whose `[` is at `i`. -/
def sliceAt (inp : Input) (fuel depth i : Nat) : Except ReadError (Json × Nat) :=
  match fuel with
  | 0 => .error (.cutShort "slice")
  | fuel + 1 =>
    if depth + 1 > maxDepth then .error (.tooDeep (inp.charAt i)) else
    let j := skipBlanks inp (i + 1)
    if inp.at j = 0x5D then .ok (.array [], j + 1)
    else itemsAt inp fuel (depth + 1) j []

/-- The items of an array from `i` to its closing bracket. -/
def itemsAt (inp : Input) (fuel depth i : Nat) (acc : List Json) : Except ReadError (Json × Nat) :=
  match fuel with
  | 0 => .error (.cutShort "slice")
  | fuel + 1 => do
    let (v, j) ← anyAt inp fuel depth i
    let j := skipBlanks inp j
    let acc := v :: acc
    if inp.at j = 0x5D then .ok (.array acc.reverse, j + 1)
    else if inp.at j = 0x2C then itemsAt inp fuel depth (j + 1) acc
    else .error (.misspelt (inp.charAt j) "slice")

end

/-- **Decoding a payload into a dynamic map**: an object's members (numbers with their text,
strings decoded), none for `null`. -/
def decodeMap (bs : ByteArray) : Except ReadError (Option (List (ByteArray × Json))) := do
  let inp : Input := ⟨bs⟩
  let (m, j) ← mapAt inp (2 * bs.size + 4) 0 0
  finished inp j
  .ok m

/-! ### Skipping values -/

/-- Skips a string's content from `i`, just after its opening quote: a backslash takes the next
byte with it, whatever it is. The position after the closing quote. -/
def skipString (inp : Input) (i : Nat) : Except ReadError Nat :=
  if i < inp.bytes.size then
    let b := inp.at i
    if b = 0x22 then .ok (i + 1)
    else if b = 0 then .error (.cutShort "string of object")
    else if b = 0x5C then
      if inp.at (i + 1) = 0 then .error (.cutShort "string of object") else skipString inp (i + 2)
    else skipString inp (i + 1)
  else .error (.cutShort "string of object")
termination_by inp.bytes.size - i

/-- Skips the rest of an array or object from `i`, after its opening bracket, with `count` of its
own kind of bracket open: only those are counted, and the value ends when none is left open.
Brackets of both kinds change the nesting `depth`, which may not pass `maxDepth`. -/
def skipNested (inp : Input) (opening closing : Nat) (what : String) (i count : Nat) (depth : Int) :
    Except ReadError Nat :=
  if i < inp.bytes.size then
    let b := inp.at i
    if b = 0 then .error (.cutShort what)
    else if b = opening then
      if depth + 1 > maxDepth then .error (.tooDeep (inp.charAt i))
      else skipNested inp opening closing what (i + 1) (count + 1) (depth + 1)
    else if b = closing then
      if count ≤ 1 then .ok (i + 1)
      else skipNested inp opening closing what (i + 1) (count - 1) (depth - 1)
    else if b = 0x7B || b = 0x5B then
      if depth + 1 > maxDepth then .error (.tooDeep (inp.charAt i))
      else skipNested inp opening closing what (i + 1) count (depth + 1)
    else if b = 0x7D || b = 0x5D then skipNested inp opening closing what (i + 1) count (depth - 1)
    else if b = 0x22 then
      match skipString inp (i + 1) with
      | .ok j => if i < j then skipNested inp opening closing what j count depth else .ok j
      | .error e => .error e
    else skipNested inp opening closing what (i + 1) count depth
  else .error (.cutShort what)
termination_by inp.bytes.size - i

/-- **Skips a value** at `i` (blanks skipped), nested `depth` deep; the position after it. -/
def skipValue (inp : Input) (i : Nat) (depth : Int) : Except ReadError Nat :=
  let i := skipBlanks inp i
  let b := inp.at i
  if b = 0x7B then skipNested inp 0x7B 0x7D "object of object" (i + 1) 1 (depth + 1)
  else if b = 0x5B then skipNested inp 0x5B 0x5D "array of object" (i + 1) 1 (depth + 1)
  else if b = 0x22 then skipString inp (i + 1)
  else if startsNumber b then .ok (numberEnd inp (i + 1))
  else if b = 0x74 then literalAt inp i trueRest "true"
  else if b = 0x66 then literalAt inp i falseRest "false"
  else if b = 0x6E then literalAt inp i nullRest "null"
  else .error (.cutShort "null")

/-! ### Records of raw fields -/

/-- A byte in ASCII lower case. -/
def lowerByte (b : Nat) : Nat := if 0x41 ≤ b && b ≤ 0x5A then b + 32 else b

/-- The fields, of those still agreeing, whose name has `c` (in lower case) at place `k`. -/
def keepFields (names : Array (List Nat)) (agreeing : List Nat) (k c : Nat) : List Nat :=
  agreeing.filter fun f => ((names.getD f []).drop k).head? == some (lowerByte c)

/-- Letters of an escape applied to the agreeing fields, from place `k`: none when no field
agrees any more. -/
def keepAll (names : Array (List Nat)) : List Nat → Nat → List Nat → Option (List Nat × Nat)
  | agreeing, k, [] => some (agreeing, k)
  | agreeing, k, c :: cs =>
    match keepFields names agreeing k c with
    | [] => none
    | kept => keepAll names kept (k + 1) cs

/-- The letters an escape in a key stands for, its letter at `p`, and the position it leaves the
reading at: `\"` a quote, `\u` the bytes of its code point (read with non-hex digits as zero), any
other escape nothing. A `\u` too near the end leaves the reading at the start of the input. -/
def keyEscape (inp : Input) (p : Nat) : List Nat × Nat :=
  let c := inp.at p
  if c = 0x22 then ([0x22], p + 1)
  else if c = 0x75 then
    if inp.bytes.size + 1 ≤ p + 5 then ([], 0)
    else
      let code := [p + 1, p + 2, p + 3, p + 4].foldl
        (fun n k => n * 16 + (hexValue (inp.at k)).getD 0) 0
      if 0xD800 ≤ code && code < 0xE000 then ((Utf8.encode Utf8.replacement).toList.map (·.toNat), p + 8)
      else ((Utf8.encode (Char.ofNat code)).toList.map (·.toNat), p + 4)
  else ([], p + 1)

/-- Skips the rest of a key that names no field, from `p`: a backslash takes the next byte with
it. The position after the closing quote. -/
def skipKeyFrom (inp : Input) (p : Nat) : Except ReadError Nat :=
  if p < inp.bytes.size then
    let b := inp.at p
    if b = 0x22 then .ok (p + 1)
    else if b = 0 then .error (.cutShort "string")
    else if b = 0x5C then
      if inp.at (p + 1) = 0 then .error (.cutShort "string") else skipKeyFrom inp (p + 2)
    else skipKeyFrom inp (p + 1)
  else .error (.cutShort "string")
termination_by inp.bytes.size - p

/-- Reads a key's letters from `i`: `start` is where its text began, `k` the place of the next
letter, and `agreeing` the fields whose names agree so far. The field it names, if any, and
the position after its closing quote. -/
def keyLetters (names : Array (List Nat)) (inp : Input) :
    Nat → Nat → Nat → Nat → List Nat → Except ReadError (Option Nat × Nat)
  | 0, _, _, _, _ => .error (.cutShort "string")
  | fuel + 1, start, i, k, agreeing =>
    let c := inp.at i
    if c = 0x22 then
      match agreeing.head? with
      | some f =>
        if (i : Int) - start < ((names.getD f []).length : Int) then .ok (none, i + 1)
        else .ok (some f, i + 1)
      | none => .ok (none, i + 1)
    else if c = 0 then .error (.cutShort "string")
    else if c = 0x5C then
      let (letters, next) := keyEscape inp (i + 1)
      match keepAll names agreeing k letters with
      | none => (skipKeyFrom inp (i + 2)).map (none, ·)
      | some (agreeing, k) => keyLetters names inp fuel start (next + 1) k agreeing
    else
      match keepFields names agreeing k c with
      | [] => (skipKeyFrom inp (i + 1)).map (none, ·)
      | agreeing => keyLetters names inp fuel start (i + 1) (k + 1) agreeing

/-- **A record key** at `i` (blanks skipped): the field it names, if any, and the position after
it. An empty key names no field. -/
def fieldKeyAt (names : Array (List Nat)) (inp : Input) (i : Nat) :
    Except ReadError (Option Nat × Nat) :=
  let i := skipBlanks inp i
  if inp.at i ≠ 0x22 then .error (.badStart (inp.charAt i)) else
  let c := inp.at (i + 1)
  if c = 0x22 then .ok (none, i + 2)
  else if c = 0 then .error (.cutShort "string")
  else keyLetters names inp (4 * inp.bytes.size + 4) (i + 1) (i + 1) 0 (List.range names.size)

/-- The members of a record from `i` to its closing brace: for each member that names a field,
the field and the raw text of its value, the last member first. -/
def fieldMembersAt (names : Array (List Nat)) (inp : Input) :
    Nat → Nat → List (Nat × ByteArray) → Except ReadError (List (Nat × ByteArray) × Nat)
  | 0, _, _ => .error (.cutShort "object")
  | fuel + 1, i, acc => do
    let (f, j) ← fieldKeyAt names inp i
    let j := skipBlanks inp j
    if inp.at j ≠ 0x3A then .error (.expected "colon after object key") else
    let j := j + 1
    if inp.bytes.size + 1 ≤ j then .error (.expected "object value after colon") else
    let (acc, k) ← match f with
      | some f => do
        let s := skipBlanks inp j
        let e ← skipValue inp s 1
        pure ((f, inp.bytes.extract s e) :: acc, e)
      | none => do
        let e ← skipValue inp j 1
        pure (acc, e)
    let k := skipBlanks inp k
    if inp.at k = 0x7D then .ok (acc, k + 1)
    else if inp.at k = 0x2C then fieldMembersAt names inp fuel (k + 1) acc
    else .error (.expected "comma after object value")

/-- Lexicographic order on byte lists: whether `a` comes no later than `b`. -/
def lexLe : List Nat → List Nat → Bool
  | [], _ => true
  | _ :: _, [] => false
  | x :: xs, y :: ys => x < y || (x == y && lexLe xs ys)

/-- The names of fields as the record reader compares them: in ASCII lower case, sorted. -/
def fieldNames (fields : List String) : Array (List Nat) :=
  ((fields.map fun f => (Text.lowerAsciiText f).toUTF8.toList.map (·.toNat)).eraseDups.mergeSort
    lexLe).toArray

/-- **Decoding a payload into a record of raw fields**: for each field that some member names,
the raw text of the last such member's value. An object whose first byte after the brace
(blanks skipped) is the closing brace is read as one byte shorter than it is. -/
def decodeFields (fields : List String) (bs : ByteArray) :
    Except ReadError (List (String × ByteArray)) := do
  let names := fieldNames fields
  let inp : Input := ⟨bs⟩
  let i := skipBlanks inp 0
  let b := inp.at i
  let (found, j) ←
    if b = 0x6E then do
      let j ← literalAt inp i nullRest "null"
      pure ([], j)
    else if b = 0x7B then
      if inp.at (skipBlanks inp (i + 1)) = 0x7D then pure ([], i + 2)
      else fieldMembersAt names inp (2 * bs.size + 4) (i + 1) []
    else .error (.badStart (inp.charAt i))
  finished inp j
  .ok (fields.filterMap fun f =>
    let key := (Text.lowerAsciiText f).toUTF8.toList.map (·.toNat)
    match names.toList.idxOf? key with
    | some n => (found.lookup n).map (f, ·)
    | none => none)

/-! ### Single values -/

/-- **Decoding a payload into a double**: a number, or none for `null`. -/
def decodeFloat (bs : ByteArray) : Except ReadError (Option Float) := do
  let inp : Input := ⟨bs⟩
  let i := skipBlanks inp 0
  let b := inp.at i
  let (v, j) ←
    if startsNumber b then do
      let (_, f, j) ← numberAt inp i
      pure (some f, j)
    else if b = 0x6E then do
      let j ← literalAt inp i nullRest "null"
      pure (none, j)
    else .error (.cutShort "float")
  finished inp j
  .ok v

/-- **Decoding a payload into a string**: its content, or none for `null`. -/
def decodeString (bs : ByteArray) : Except ReadError (Option ByteArray) := do
  let inp : Input := ⟨bs⟩
  let (v, j) ← stringValueAt inp 0
  finished inp j
  .ok v

end Conveyor.Json
