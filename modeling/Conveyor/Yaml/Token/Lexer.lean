import Conveyor.Yaml.Token
import Conveyor.Text.Utf8
/-!
# Cutting YAML text into tokens

The lexer reads the text one token at a time, on demand. Block structure is found from
indentation: when a line starts further right than the current indentation, a block
collection starts, and when it starts further left, the open blocks end. A plain or quoted
scalar may turn out to be a mapping key only when a `:` follows it; the lexer therefore
remembers, per flow level, the place where a key may have started (a *pending key*) and,
when the `:` arrives, splices the key token (and the start of a block mapping) into its queue
of tokens before the scalar.

A pending key lives on one line and within 1024 characters; in block context a key at the
current indentation is *required*, and losing it is an error. The queue always holds three
tokens beyond the one handed out, unless the first is a pending key still waiting for its
`:`; so a problem up to two tokens ahead is found before the token is handed out.

All loops are bounded by the number of characters left in the text.
-/

namespace Conveyor.Yaml

/-- A place where a mapping key may have started. -/
structure PendingKey where
  possible : Bool := false
  required : Bool := false
  tokenNumber : Nat := 0
  mark : Mark := {}
  deriving Inhabited

/-- The lexer's state: the text, the position, the queue of tokens not yet handed out, and
the block and flow structure seen so far. -/
structure Lexer where
  input : Array Char
  mark : Mark := {}
  /-- The tokens not yet handed out. -/
  queue : Array Token := #[]
  /-- How many tokens were handed out. -/
  taken : Nat := 0
  available : Bool := false
  started : Bool := false
  /-- Whether the stream's end was handed out. -/
  ended : Bool := false
  indent : Int := -1
  indents : List Int := []
  keyAllowed : Bool := false
  /-- The pending keys, one per flow level; the last is the innermost. -/
  keys : Array PendingKey := #[]
  flowLevel : Nat := 0

/-- Line breaks: carriage return, line feed, next line, line and paragraph separators. -/
def isBreakChar (c : Char) : Bool :=
  c == '\r' || c == '\n' || c == '\x85' || c == '\u2028' || c == '\u2029'

/-- Blanks: space and tab. -/
def isBlankChar (c : Char) : Bool := c == ' ' || c == '\t'

/-- The end of the text reads as a NUL character. -/
def isEndChar (c : Char) : Bool := c == '\x00'

/-- A blank, a break or the end. -/
def isBlankzChar (c : Char) : Bool := isBlankChar c || isBreakChar c || isEndChar c

/-- A break or the end. -/
def isBreakzChar (c : Char) : Bool := isBreakChar c || isEndChar c

/-- Letters, digits, underscore and hyphen. -/
def isWordChar (c : Char) : Bool :=
  ('0' ≤ c && c ≤ '9') || ('A' ≤ c && c ≤ 'Z') || ('a' ≤ c && c ≤ 'z') || c == '_' || c == '-'

/-- Hexadecimal digits. -/
def isHexChar (c : Char) : Bool :=
  ('0' ≤ c && c ≤ '9') || ('A' ≤ c && c ≤ 'F') || ('a' ≤ c && c ≤ 'f')

/-- The value of a hexadecimal digit. -/
def hexValue (c : Char) : Nat :=
  if '0' ≤ c && c ≤ '9' then c.toNat - '0'.toNat
  else if 'A' ≤ c && c ≤ 'F' then c.toNat - 'A'.toNat + 10
  else c.toNat - 'a'.toNat + 10

/-- Characters that may stand in a tag. -/
def isTagChar (c : Char) : Bool :=
  isWordChar c || ";/?:@&=+$,.!~*'()[]%".contains c

namespace Lexer

/-- A lexer at the start of a text. -/
def create (text : String) : Lexer := { input := text.toList.toArray }

/-- The character `k` places ahead; NUL past the end. -/
def peekAt (s : Lexer) (k : Nat) : Char := s.input.getD (s.mark.index + k) '\x00'

/-- How many characters are left. -/
def left (s : Lexer) : Nat := s.input.size - s.mark.index

/-- Moves one character on, on the same line. -/
def skip (s : Lexer) : Lexer :=
  { s with mark := { s.mark with index := s.mark.index + 1, column := s.mark.column + 1 } }

/-- Moves over a line break, if one is here (a carriage return and line feed count once). -/
def skipLine (s : Lexer) : Lexer :=
  if s.peekAt 0 == '\r' && s.peekAt 1 == '\n' then
    { s with mark := { index := s.mark.index + 2, line := s.mark.line + 1, column := 0 } }
  else if isBreakChar (s.peekAt 0) then
    { s with mark := { index := s.mark.index + 1, line := s.mark.line + 1, column := 0 } }
  else s

/-- Copies the character here to `acc` and moves on. -/
def read (s : Lexer) (acc : String) : String × Lexer := (acc.push (s.peekAt 0), s.skip)

/-- Copies the line break here to `acc` and moves over it: carriage returns, line feeds and
next-line characters all become a line feed. -/
def readLine (s : Lexer) (acc : String) : String × Lexer :=
  let c := s.peekAt 0
  if c == '\r' && s.peekAt 1 == '\n' then (acc.push '\n', s.skipLine)
  else if c == '\r' || c == '\n' || c == '\x85' then (acc.push '\n', s.skipLine)
  else if c == '\u2028' || c == '\u2029' then (acc.push c, s.skipLine)
  else (acc, s)

/-- Skips characters while `p` holds. -/
def skipWhile (p : Char → Bool) (s : Lexer) : Lexer := go s.left s
where
  go : Nat → Lexer → Lexer
    | 0, s => s
    | n + 1, s => if p (s.peekAt 0) then go n s.skip else s

/-- Copies characters to `acc` while `p` holds. -/
def readWhile (p : Char → Bool) (s : Lexer) (acc : String) : String × Lexer := go s.left s acc
where
  go : Nat → Lexer → String → String × Lexer
    | 0, s, acc => (acc, s)
    | n + 1, s, acc => if p (s.peekAt 0) then let (acc, s) := s.read acc; go n s acc else (acc, s)

/-- A problem of the lexer, here. -/
def fail {α : Type} (s : Lexer) (context : String) (contextMark : Mark) (problem : String) :
    Except Problem α :=
  .error { stage := .scanner, problem, problemMark := s.mark, context, contextMark }

/-- Whether a document marker (`---` or `...` followed by a blank) starts here. -/
def atDocumentMarker (s : Lexer) : Bool :=
  s.mark.column == 0 &&
    ((s.peekAt 0 == '-' && s.peekAt 1 == '-' && s.peekAt 2 == '-') ||
      (s.peekAt 0 == '.' && s.peekAt 1 == '.' && s.peekAt 2 == '.')) &&
    isBlankzChar (s.peekAt 3)

/-! ### The token queue and the pending keys -/

/-- Puts a token at the end of the queue. -/
def append (s : Lexer) (kind : TokenKind) (start stop : Mark) : Lexer :=
  { s with queue := s.queue.push ⟨kind, start, stop⟩ }

/-- Puts a token into the queue before the one at `pos`. -/
def insertAt (s : Lexer) (pos : Nat) (t : Token) : Lexer :=
  { s with queue := (s.queue.toList.take pos ++ t :: s.queue.toList.drop pos).toArray }

/-- The innermost pending key. -/
def topKey (s : Lexer) : PendingKey := s.keys.back?.getD {}

/-- Replaces the innermost pending key. -/
def setTop (s : Lexer) (k : PendingKey) : Lexer := { s with keys := s.keys.pop.push k }

/-- Forgets the innermost pending key; losing a required key is an error. -/
def removeKey (s : Lexer) : Except Problem Lexer :=
  let k := s.topKey
  if k.possible then
    if k.required then s.fail "while scanning a simple key" k.mark "could not find expected ':'"
    else .ok (s.setTop { k with possible := false })
  else .ok s

/-- Remembers that a key may start here, if one may. -/
def saveKey (s : Lexer) : Except Problem Lexer := do
  if s.keyAllowed then
    let required := s.flowLevel == 0 && s.indent == (s.mark.column : Int)
    let k : PendingKey :=
      { possible := true, required, tokenNumber := s.taken + s.queue.size, mark := s.mark }
    let s ← s.removeKey
    return s.setTop k
  else return s

/-- Whether a pending key can still be a key here: it must be on this line and less than
1024 characters back. A required key that can no longer be one is an error. -/
def checkKey (s : Lexer) (k : PendingKey) : Except Problem (Bool × PendingKey) :=
  if !k.possible then .ok (false, k)
  else if k.mark.line < s.mark.line || k.mark.index + 1024 < s.mark.index then
    if k.required then s.fail "while scanning a simple key" k.mark "could not find expected ':'"
    else .ok (false, { k with possible := false })
  else .ok (true, k)

/-- Enters a flow collection. -/
def increaseFlow (s : Lexer) : Except Problem Lexer :=
  let s := { s with keys := s.keys.push { mark := s.mark }, flowLevel := s.flowLevel + 1 }
  if s.flowLevel > 10000 then
    s.fail "while increasing flow level" s.topKey.mark "exceeded max depth of 10000"
  else .ok s

/-- Leaves a flow collection. -/
def decreaseFlow (s : Lexer) : Lexer :=
  if s.flowLevel > 0 then { s with flowLevel := s.flowLevel - 1, keys := s.keys.pop } else s

/-- Opens a block collection at `column`, if it is further right than the current
indentation; its start token goes at the end of the queue or before token `number`. -/
def rollIndent (s : Lexer) (column : Int) (number : Option Nat) (kind : TokenKind) (m : Mark) :
    Lexer :=
  if s.flowLevel > 0 then s
  else if s.indent < column then
    let s := { s with indents := s.indent :: s.indents, indent := column }
    match number with
    | none => s.append kind m m
    | some n => s.insertAt (n - s.taken) ⟨kind, m, m⟩
  else s

/-- Closes the block collections further right than `column`, each with a block end. -/
def unrollIndent (s : Lexer) (column : Int) (m : Mark) : Lexer :=
  if s.flowLevel > 0 then s else go s s.indents
where
  go (s : Lexer) : List Int → Lexer
    | [] => { s with indents := [] }
    | i :: rest =>
      if s.indent > column then go { s.append .blockEnd m m with indent := i } rest
      else { s with indents := i :: rest }

/-- The place a block end is reported at: one character before `m`. -/
def blockEndMark (m : Mark) : Mark := { m with index := m.index - 1 }

/-! ### Scalars -/

/-- What a scalar being read has collected: its text so far, the first line break of the
current run of breaks, the breaks after it, and the blanks not yet copied. -/
structure Folding where
  text : String := ""
  leadingBreak : String := ""
  trailingBreaks : String := ""
  whitespaces : String := ""
  leadingBlanks : Bool := false

/-- Joins the pending blanks or breaks before more text: a single line feed folds into a
space, more of them stay as the further breaks, and other breaks are kept. -/
def Folding.join (f : Folding) : Folding :=
  if f.leadingBlanks then
    let text :=
      if f.leadingBreak.front == '\n' then
        if f.trailingBreaks.isEmpty then f.text.push ' ' else f.text ++ f.trailingBreaks
      else f.text ++ f.leadingBreak ++ f.trailingBreaks
    { f with text, leadingBreak := "", trailingBreaks := "", leadingBlanks := false }
  else if !f.whitespaces.isEmpty then
    { f with text := f.text ++ f.whitespaces, whitespaces := "" }
  else f

/-- Reads the non-blank characters of a plain scalar. -/
def plainWord (s : Lexer) (f : Folding) (stop : Mark) : Lexer × Folding × Mark :=
  go s.left s f stop
where
  go : Nat → Lexer → Folding → Mark → Lexer × Folding × Mark
    | 0, s, f, stop => (s, f, stop)
    | n + 1, s, f, stop =>
      let c := s.peekAt 0
      if isBlankzChar c then (s, f, stop)
      else if (c == ':' && isBlankzChar (s.peekAt 1)) ||
          (s.flowLevel > 0 && (c == ',' || c == '?' || c == '[' || c == ']' || c == '{' || c == '}')) then
        (s, f, stop)
      else
        let f := f.join
        let (text, s) := s.read f.text
        go n s { f with text } s.mark

/-- Reads the blanks and breaks after a word of a plain scalar. -/
def plainBlanks (s : Lexer) (f : Folding) (indent : Int) (start : Mark) :
    Except Problem (Lexer × Folding) :=
  go s.left s f
where
  go : Nat → Lexer → Folding → Except Problem (Lexer × Folding)
    | 0, s, f => .ok (s, f)
    | n + 1, s, f =>
      let c := s.peekAt 0
      if isBlankChar c then
        if f.leadingBlanks && (s.mark.column : Int) < indent && c == '\t' then
          s.fail "while scanning a plain scalar" start "found a tab character that violates indentation"
        else if !f.leadingBlanks then
          let (whitespaces, s) := s.read f.whitespaces
          go n s { f with whitespaces }
        else go n s.skip f
      else if isBreakChar c then
        if !f.leadingBlanks then
          let (leadingBreak, s) := s.readLine ""
          go n s { f with whitespaces := "", leadingBreak, leadingBlanks := true }
        else
          let (trailingBreaks, s) := s.readLine f.trailingBreaks
          go n s { f with trailingBreaks }
      else .ok (s, f)

/-- **Reads a plain scalar.** It ends before `: `, before ` #`, at a document marker, in
flow context at a flow indicator, and in block context at a line indented no further than
the current block. -/
def scanPlain (s : Lexer) : Except Problem Lexer := do
  let indent := s.indent + 1
  let start := s.mark
  let (s, f, stop) ← go s.left s {} s.mark indent start
  let s := s.append (.scalar f.text .plain) start stop
  return if f.leadingBlanks then { s with keyAllowed := true } else s
where
  go : Nat → Lexer → Folding → Mark → Int → Mark → Except Problem (Lexer × Folding × Mark)
    | 0, s, f, stop, _, _ => .ok (s, f, stop)
    | n + 1, s, f, stop, indent, start => do
      if s.atDocumentMarker || s.peekAt 0 == '#' then return (s, f, stop)
      let (s, f, stop) := s.plainWord f stop
      let c := s.peekAt 0
      if !(isBlankChar c || isBreakChar c) then return (s, f, stop)
      let (s, f) ← s.plainBlanks f indent start
      if s.flowLevel == 0 && (s.mark.column : Int) < indent then return (s, f, stop)
      go n s f stop indent start

/-- The character an escape letter of a double-quoted scalar stands for, or the number of
hexadecimal digits that follow it. -/
def escapeOf (c : Char) : Option (Char ⊕ Nat) :=
  match c with
  | '0' => some (.inl '\x00')
  | 'a' => some (.inl '\x07')
  | 'b' => some (.inl '\x08')
  | 't' => some (.inl '\t')
  | '\t' => some (.inl '\t')
  | 'n' => some (.inl '\n')
  | 'v' => some (.inl '\x0b')
  | 'f' => some (.inl '\x0c')
  | 'r' => some (.inl '\r')
  | 'e' => some (.inl '\x1b')
  | ' ' => some (.inl ' ')
  | '"' => some (.inl '"')
  | '\'' => some (.inl '\'')
  | '\\' => some (.inl '\\')
  | 'N' => some (.inl '\x85')
  | '_' => some (.inl '\xa0')
  | 'L' => some (.inl '\u2028')
  | 'P' => some (.inl '\u2029')
  | 'x' => some (.inr 2)
  | 'u' => some (.inr 4)
  | 'U' => some (.inr 8)
  | _ => none

/-- The value of `count` hexadecimal digits from `k` places ahead, if they are digits. -/
def hexAt (s : Lexer) (k : Nat) : Nat → Option Nat
  | 0 => some 0
  | count + 1 =>
    let c := s.peekAt k
    if isHexChar c then (hexAt s (k + 1) count).map fun v => hexValue c * Nat.pow 16 count + v
    else none

/-- Reads the non-blank characters of a quoted scalar, up to a blank or the closing quote;
the flag tells whether an escaped line break ended the run. -/
def quotedWord (s : Lexer) (single : Bool) (start : Mark) (text : String) :
    Except Problem (Lexer × String × Bool) :=
  go s.left s text
where
  go : Nat → Lexer → String → Except Problem (Lexer × String × Bool)
    | 0, s, text => .ok (s, text, false)
    | n + 1, s, text => do
      let c := s.peekAt 0
      if isBlankzChar c then return (s, text, false)
      if single && c == '\'' && s.peekAt 1 == '\'' then go n s.skip.skip (text.push '\'')
      else if single && c == '\'' then return (s, text, false)
      else if !single && c == '"' then return (s, text, false)
      else if !single && c == '\\' && isBreakChar (s.peekAt 1) then
        return (s.skip.skipLine, text, true)
      else if !single && c == '\\' then
        match escapeOf (s.peekAt 1) with
        | some (.inl e) => go n s.skip.skip (text.push e)
        | some (.inr count) =>
          let s := s.skip.skip
          match s.hexAt 0 count with
          | none => s.fail "while parsing a quoted scalar" start "did not find expected hexdecimal number"
          | some v =>
            if (0xD800 ≤ v && v ≤ 0xDFFF) || v > 0x10FFFF then
              s.fail "while parsing a quoted scalar" start "found invalid Unicode character escape code"
            else go n (Nat.repeat Lexer.skip count s) (text.push (Char.ofNat v))
        | none => s.fail "while parsing a quoted scalar" start "found unknown escape character"
      else
        let (text, s) := s.read text
        go n s text

/-- Reads the blanks and breaks inside a quoted scalar. -/
def quotedBlanks (s : Lexer) (f : Folding) : Lexer × Folding := go s.left s f
where
  go : Nat → Lexer → Folding → Lexer × Folding
    | 0, s, f => (s, f)
    | n + 1, s, f =>
      let c := s.peekAt 0
      if isBlankChar c then
        if !f.leadingBlanks then
          let (whitespaces, s) := s.read f.whitespaces
          go n s { f with whitespaces }
        else go n s.skip f
      else if isBreakChar c then
        if !f.leadingBlanks then
          let (leadingBreak, s) := s.readLine ""
          go n s { f with whitespaces := "", leadingBreak, leadingBlanks := true }
        else
          let (trailingBreaks, s) := s.readLine f.trailingBreaks
          go n s { f with trailingBreaks }
      else (s, f)

/-- Joins the blanks or breaks inside a quoted scalar. -/
def Folding.joinQuoted (f : Folding) : Folding :=
  if f.leadingBlanks then
    let text :=
      if !f.leadingBreak.isEmpty && f.leadingBreak.front == '\n' then
        if f.trailingBreaks.isEmpty then f.text.push ' ' else f.text ++ f.trailingBreaks
      else f.text ++ f.leadingBreak ++ f.trailingBreaks
    { f with text, leadingBreak := "", trailingBreaks := "", leadingBlanks := false }
  else { f with text := f.text ++ f.whitespaces, whitespaces := "" }

/-- **Reads a single- or double-quoted scalar.** Line breaks fold as in plain scalars; a
document marker or the end of the text inside the quotes is an error. -/
def scanQuoted (s : Lexer) (single : Bool) : Except Problem Lexer := do
  let start := s.mark
  let (s, text) ← go s.left s.skip "" single start
  let s := s.skip
  return s.append (.scalar text (if single then .singleQuoted else .doubleQuoted)) start s.mark
where
  go : Nat → Lexer → String → Bool → Mark → Except Problem (Lexer × String)
    | 0, s, text, _, _ => .ok (s, text)
    | n + 1, s, text, single, start => do
      if s.atDocumentMarker then
        s.fail "while scanning a quoted scalar" start "found unexpected document indicator"
      else if isEndChar (s.peekAt 0) then
        s.fail "while scanning a quoted scalar" start "found unexpected end of stream"
      else
        let (s, text, escapedBreak) ← s.quotedWord single start text
        let c := s.peekAt 0
        if (single && c == '\'') || (!single && c == '"') then return (s, text)
        let (s, f) := s.quotedBlanks { text, leadingBlanks := escapedBreak }
        go n s f.joinQuoted.text single start

/-- Skips the indentation and empty lines before the content of a block scalar, collecting
the line breaks; with no indentation given, it becomes that of the first non-empty line (at
least one more than the enclosing block's, and at least one). -/
def blockBreaks (s : Lexer) (indent : Nat) (breaks : String) (start : Mark) :
    Except Problem (Lexer × Nat × String × Mark) := do
  let (s, breaks, stop, most) ← go s.left s breaks s.mark 0
  if indent == 0 then
    let i := max (max most (s.indent + 1)) 1
    return (s, i.toNat, breaks, stop)
  return (s, indent, breaks, stop)
where
  go : Nat → Lexer → String → Mark → Int → Except Problem (Lexer × String × Mark × Int)
    | 0, s, breaks, stop, most => .ok (s, breaks, stop, most)
    | n + 1, s, breaks, stop, most => do
      let s := spaces s.left s indent
      let most := max most s.mark.column
      if (indent == 0 || s.mark.column < indent) && s.peekAt 0 == '\t' then
        s.fail "while scanning a block scalar" start
          "found a tab character where an indentation space is expected"
      else if !isBreakChar (s.peekAt 0) then return (s, breaks, stop, most)
      else
        let (breaks, s) := s.readLine breaks
        go n s breaks s.mark most
  spaces : Nat → Lexer → Nat → Lexer
    | 0, s, _ => s
    | n + 1, s, indent =>
      if (indent == 0 || s.mark.column < indent) && s.peekAt 0 == ' ' then spaces n s.skip indent
      else s

/-- The header of a block scalar: its chomping (`-1` strip, `0` clip, `1` keep) and its
indentation indicator. -/
def blockHeader (s : Lexer) (start : Mark) : Except Problem (Lexer × Int × Nat) := do
  let c := s.peekAt 0
  if c == '+' || c == '-' then
    let chomping : Int := if c == '+' then 1 else -1
    let s := s.skip
    let d := s.peekAt 0
    if d.isDigit then
      if d == '0' then
        s.fail "while scanning a block scalar" start "found an indentation indicator equal to 0"
      else return (s.skip, chomping, d.toNat - '0'.toNat)
    else return (s, chomping, 0)
  else if c.isDigit then
    if c == '0' then
      s.fail "while scanning a block scalar" start "found an indentation indicator equal to 0"
    else
      let s := s.skip
      let d := s.peekAt 0
      if d == '+' || d == '-' then return (s.skip, if d == '+' then 1 else -1, c.toNat - '0'.toNat)
      else return (s, 0, c.toNat - '0'.toNat)
  else return (s, 0, 0)

/-- **Reads a literal (`|`) or folded (`>`) block scalar.** In a folded scalar a single line
break between two lines that do not start with a blank becomes a space. The final line
breaks are kept as the chomping says. -/
def scanBlock (s : Lexer) (literal : Bool) : Except Problem Lexer := do
  let start := s.mark
  let (s, chomping, increment) ← s.skip.blockHeader start
  let s := s.skipWhile isBlankChar
  let s := if s.peekAt 0 == '#' then s.skipWhile (fun c => !isBreakzChar c) else s
  if !isBreakzChar (s.peekAt 0) then
    s.fail "while scanning a block scalar" start "did not find expected comment or line break"
  else
    let s := s.skipLine
    let indent : Nat :=
      if increment > 0 then
        if s.indent ≥ 0 then (s.indent + increment).toNat else increment
      else 0
    let (s, indent, trailing, stop) ← s.blockBreaks indent "" start
    let (s, text, leading, trailing, stop) ← go s.left s indent "" "" trailing false stop start
    let text := if chomping != -1 then text ++ leading else text
    let text := if chomping == 1 then text ++ trailing else text
    return s.append (.scalar text (if literal then .literal else .folded)) start stop
where
  go : Nat → Lexer → Nat → String → String → String → Bool → Mark → Mark →
      Except Problem (Lexer × String × String × String × Mark)
    | 0, s, _, text, leading, trailing, _, stop, _ => .ok (s, text, leading, trailing, stop)
    | n + 1, s, indent, text, leading, trailing, leadingBlank, stop, start => do
      if !(s.mark.column == indent && !isEndChar (s.peekAt 0)) then
        return (s, text, leading, trailing, stop)
      let trailingBlank := isBlankChar (s.peekAt 0)
      let text :=
        if !literal && !leadingBlank && !trailingBlank && !leading.isEmpty && leading.front == '\n' then
          if trailing.isEmpty then text.push ' ' else text
        else text ++ leading
      let text := text ++ trailing
      let leadingBlank := isBlankChar (s.peekAt 0)
      let (text, s) := s.readWhile (fun c => !isBreakzChar c) text
      let (leading, s) := s.readLine ""
      let (s, indent, trailing, stop) ← s.blockBreaks indent "" start
      go n s indent text leading trailing leadingBlank stop start

/-! ### Anchors, aliases, tags and directives -/

/-- **Reads an anchor (`&name`) or an alias (`*name`).** -/
def scanAnchor (s : Lexer) (isAlias : Bool) : Except Problem Lexer :=
  let start := s.mark
  let (name, s) := s.skip.readWhile isWordChar ""
  let c := s.peekAt 0
  if name.isEmpty || !(isBlankzChar c || "?:,]\x7d%@`".contains c) then
    s.fail (if isAlias then "while scanning an alias" else "while scanning an anchor") start
      "did not find expected alphabetic or numeric character"
  else
    .ok (s.append (if isAlias then .alias name else .anchor name) start s.mark)

/-- Reads a tag handle: `!`, `!!` or `!word!`; a `!` followed by a word and no closing `!`
is returned as read. -/
def tagHandle (s : Lexer) (directive : Bool) (start : Mark) : Except Problem (String × Lexer) := do
  let context := if directive then "while scanning a %TAG directive" else "while scanning a tag"
  if s.peekAt 0 != '!' then s.fail context start "did not find expected '!'"
  else
    let (h, s) := s.read ""
    let (h, s) := s.readWhile isWordChar h
    if s.peekAt 0 == '!' then return s.read h
    else if directive && h != "!" then s.fail context start "did not find expected '!'"
    else return (h, s)

/-- The width of a UTF-8 sequence from its leading byte; 0 for a byte that cannot lead one. -/
def utf8Width (b : Nat) : Nat :=
  if b < 0x80 then 1
  else if b / 32 = 6 then 2
  else if b / 16 = 14 then 3
  else if b / 8 = 30 then 4
  else 0

/-- Reads one escaped octet, `%` and two hex digits. -/
def escapedOctet (s : Lexer) (context : String) (start : Mark) : Except Problem (Nat × Lexer) :=
  if s.peekAt 0 == '%' && isHexChar (s.peekAt 1) && isHexChar (s.peekAt 2) then
    .ok (hexValue (s.peekAt 1) * 16 + hexValue (s.peekAt 2), s.skip.skip.skip)
  else s.fail context start "did not find URI escaped octet"

/-- Reads `n` escaped octets that continue a UTF-8 sequence. -/
def trailingOctets (context : String) (start : Mark) :
    Nat → Lexer → ByteArray → Except Problem (ByteArray × Lexer)
  | 0, s, bytes => .ok (bytes, s)
  | n + 1, s, bytes => do
    let (b, next) ← s.escapedOctet context start
    if b / 64 != 2 then s.fail context start "found an incorrect trailing UTF-8 octet"
    else trailingOctets context start n next (bytes.push b.toUInt8)

/-- **Reads a URI-escaped character**: the escaped octets of one UTF-8 sequence, the first
telling how many follow, and only checked for their leading bits. -/
def uriEscape (s : Lexer) (context : String) (start : Mark) : Except Problem (String × Lexer) := do
  let (lead, next) ← s.escapedOctet context start
  let w := utf8Width lead
  if w = 0 then s.fail context start "found an incorrect leading UTF-8 octet" else
  let (bytes, s) ← trailingOctets context start (w - 1) next (ByteArray.empty.push lead.toUInt8)
  return (Utf8.lossy bytes, s)

/-- Reads the rest of a tag, after `head` without its first character: tag characters, and
URI escapes decoded. Nothing at all, with no head either, is a problem. -/
def tagSuffix (s : Lexer) (directive : Bool) (head : String) (start : Mark) :
    Except Problem (String × Lexer) := do
  let context := if directive then "while parsing a %TAG directive" else "while parsing a tag"
  let acc := if head.length > 1 then String.ofList (head.toList.drop 1) else ""
  let (acc, s, seen) ← go context s.left s acc (!head.isEmpty)
  if !seen then s.fail context start "did not find expected tag URI" else return (acc, s)
where
  go (context : String) : Nat → Lexer → String → Bool → Except Problem (String × Lexer × Bool)
    | 0, s, acc, seen => .ok (acc, s, seen)
    | n + 1, s, acc, seen =>
      let c := s.peekAt 0
      if c == '%' then do
        let (more, s) ← s.uriEscape context start
        go context n s (acc ++ more) true
      else if isTagChar c then
        let (acc, s) := s.read acc
        go context n s acc true
      else .ok (acc, s, seen)

/-- **Reads a tag**: verbatim `!<uri>`, `!handle!suffix`, or `!suffix`. -/
def scanTag (s : Lexer) : Except Problem Lexer := do
  let start := s.mark
  let (handle, suffix, s) ←
    if s.peekAt 1 == '<' then do
      let (suffix, s) ← s.skip.skip.tagSuffix false "" start
      if s.peekAt 0 != '>' then s.fail "while scanning a tag" start "did not find the expected '>'"
      else pure ("", suffix, s.skip)
    else do
      let (handle, s) ← s.tagHandle false start
      if handle.length > 1 && handle.front == '!' && handle.back == '!' then
        let (suffix, s) ← s.tagSuffix false "" start
        pure (handle, suffix, s)
      else
        let (suffix, s) ← s.tagSuffix false handle start
        if suffix.isEmpty then pure ("", "!", s) else pure ("!", suffix, s)
  let c := s.peekAt 0
  if !isBlankzChar c && !(s.flowLevel > 0 && c == ',') then
    s.fail "while scanning a tag" start "did not find expected whitespace or line break"
  else return s.append (.tag handle suffix) start s.mark

/-- Reads the digits of a version number. -/
def versionNumber (s : Lexer) (start : Mark) : Except Problem (Nat × Lexer) :=
  let (digits, s) := s.readWhile Char.isDigit ""
  if digits.length > 9 then
    s.fail "while scanning a %YAML directive" start "found extremely long version number"
  else if digits.isEmpty then
    s.fail "while scanning a %YAML directive" start "did not find expected version number"
  else .ok (digits.toNat!, s)

/-- **Reads a directive**: `%YAML major.minor` or `%TAG handle prefix`. -/
def scanDirective (s : Lexer) : Except Problem Lexer := do
  let start := s.mark
  let (name, s) := s.skip.readWhile isWordChar ""
  if name.isEmpty then
    s.fail "while scanning a directive" start "could not find expected directive name"
  else if !isBlankzChar (s.peekAt 0) then
    s.fail "while scanning a directive" start "found unexpected non-alphabetical character"
  else
    let (kind, s) ←
      if name == "YAML" then do
        let s := s.skipWhile isBlankChar
        let (major, s) ← s.versionNumber start
        if s.peekAt 0 != '.' then
          s.fail "while scanning a %YAML directive" start "did not find expected digit or '.' character"
        else
          let (minor, s) ← s.skip.versionNumber start
          pure (TokenKind.versionDirective major minor, s)
      else if name == "TAG" then do
        let s := s.skipWhile isBlankChar
        let (handle, s) ← s.tagHandle true start
        if !isBlankChar (s.peekAt 0) then
          s.fail "while scanning a %TAG directive" start "did not find expected whitespace"
        else
          let s := s.skipWhile isBlankChar
          let (pfx, s) ← s.tagSuffix true "" start
          if !isBlankzChar (s.peekAt 0) then
            s.fail "while scanning a %TAG directive" start "did not find expected whitespace or line break"
          else pure (TokenKind.tagDirective handle pfx, s)
      else s.fail "while scanning a directive" start "found unknown directive name"
    let stop := s.mark
    let s := s.skipWhile isBlankChar
    let s := if s.peekAt 0 == '#' then s.skipWhile (fun c => !isBreakzChar c) else s
    if !isBreakzChar (s.peekAt 0) then
      s.fail "while scanning a directive" start "did not find expected comment or line break"
    else return s.skipLine.append kind start stop

/-! ### Fetching tokens -/

/-- Skips blanks, comments and line breaks up to the next token; in block context a new line
allows a key again. Tabs are skipped only in flow context or where no key may start. -/
def toNextToken (s : Lexer) : Lexer := go (s.left + 1) s
where
  go : Nat → Lexer → Lexer
    | 0, s => s
    | n + 1, s =>
      let s := if s.mark.column == 0 && s.peekAt 0 == '\uFEFF' then s.skip else s
      let s := s.skipWhile fun c => c == ' ' || ((s.flowLevel > 0 || !s.keyAllowed) && c == '\t')
      let s := if s.peekAt 0 == '#' then s.skipWhile (fun c => !isBreakzChar c) else s
      if isBreakChar (s.peekAt 0) then
        let s := s.skipLine
        go n (if s.flowLevel == 0 then { s with keyAllowed := true } else s)
      else s

/-- A one-character token. -/
def single (s : Lexer) (kind : TokenKind) : Lexer :=
  let start := s.mark
  let s := s.skip
  s.append kind start s.mark

/-- The stream's end: closes every block, on a fresh line. -/
def fetchStreamEnd (s : Lexer) : Except Problem Lexer := do
  let s := if s.mark.column != 0 then
      { s with mark := { s.mark with column := 0, line := s.mark.line + 1 } }
    else s
  let s := s.unrollIndent (-1) (blockEndMark s.mark)
  let s ← s.removeKey
  let s := { s with keyAllowed := false }
  return s.append .streamEnd s.mark s.mark

/-- A document marker: closes every block. -/
def fetchDocumentMarker (s : Lexer) (kind : TokenKind) : Except Problem Lexer := do
  let s := s.unrollIndent (-1) (blockEndMark s.mark)
  let s ← s.removeKey
  let s := { s with keyAllowed := false }
  let start := s.mark
  let s := s.skip.skip.skip
  return s.append kind start s.mark

/-- The `:` of a mapping: turns the pending key, if any, into a key token. -/
def fetchValue (s : Lexer) : Except Problem Lexer := do
  let (valid, k) ← s.checkKey s.topKey
  let s := s.setTop k
  let s ←
    if valid then
      let s := s.insertAt (k.tokenNumber - s.taken) ⟨.key, k.mark, k.mark⟩
      let s := s.rollIndent k.mark.column (some k.tokenNumber) .blockMappingStart k.mark
      pure { s.setTop { k with possible := false } with keyAllowed := false }
    else if s.flowLevel == 0 then
      if !s.keyAllowed then
        s.fail "" s.mark "mapping values are not allowed in this context"
      else pure { s.rollIndent s.mark.column none .blockMappingStart s.mark with keyAllowed := true }
    else pure { s with keyAllowed := false }
  return s.single .value

/-- **Fetches the next token** into the queue. -/
def fetchNext (s : Lexer) : Except Problem Lexer := do
  if !s.started then
    let s := { s with indent := -1, keyAllowed := true, started := true, keys := s.keys.push {} }
    return s.append .streamStart s.mark s.mark
  let scanMark := s.mark
  let s := s.toNextToken
  let s := s.unrollIndent s.mark.column (blockEndMark scanMark)
  let c := s.peekAt 0
  let next := s.peekAt 1
  if isEndChar c then s.fetchStreamEnd
  else if s.mark.column == 0 && c == '%' then do
    let s := s.unrollIndent (-1) (blockEndMark s.mark)
    let s ← s.removeKey
    { s with keyAllowed := false }.scanDirective
  else if s.mark.column == 0 && c == '-' && next == '-' && s.peekAt 2 == '-' && isBlankzChar (s.peekAt 3) then
    s.fetchDocumentMarker .documentStart
  else if s.mark.column == 0 && c == '.' && next == '.' && s.peekAt 2 == '.' && isBlankzChar (s.peekAt 3) then
    s.fetchDocumentMarker .documentEnd
  else if c == '[' || c == '{' then do
    let s ← s.saveKey
    let s ← s.increaseFlow
    return { s with keyAllowed := true }.single
      (if c == '[' then .flowSequenceStart else .flowMappingStart)
  else if c == ']' || c == '}' then do
    let s ← s.removeKey
    let s := s.decreaseFlow
    return { s with keyAllowed := false }.single
      (if c == ']' then .flowSequenceEnd else .flowMappingEnd)
  else if c == ',' then do
    let s ← s.removeKey
    return { s with keyAllowed := true }.single .flowEntry
  else if c == '-' && isBlankzChar next then do
    let s ←
      if s.flowLevel == 0 then
        if !s.keyAllowed then
          s.fail "" s.mark "block sequence entries are not allowed in this context"
        else pure (s.rollIndent s.mark.column none .blockSequenceStart s.mark)
      else pure s
    let s ← s.removeKey
    return { s with keyAllowed := true }.single .blockEntry
  else if c == '?' && (s.flowLevel > 0 || isBlankzChar next) then do
    let s ←
      if s.flowLevel == 0 then
        if !s.keyAllowed then
          s.fail "" s.mark "mapping keys are not allowed in this context"
        else pure (s.rollIndent s.mark.column none .blockMappingStart s.mark)
      else pure s
    let s ← s.removeKey
    return { s with keyAllowed := s.flowLevel == 0 }.single .key
  else if c == ':' && (s.flowLevel > 0 || isBlankzChar next) then s.fetchValue
  else if c == '*' || c == '&' then do
    let s ← s.saveKey
    { s with keyAllowed := false }.scanAnchor (c == '*')
  else if c == '!' then do
    let s ← s.saveKey
    { s with keyAllowed := false }.scanTag
  else if (c == '|' || c == '>') && s.flowLevel == 0 then do
    let s ← s.removeKey
    { s with keyAllowed := true }.scanBlock (c == '|')
  else if c == '\'' || c == '"' then do
    let s ← s.saveKey
    { s with keyAllowed := false }.scanQuoted (c == '\'')
  else if !(isBlankzChar c || "-?:,[]\x7b\x7d#&*!|>'\"%@`".contains c) ||
      (c == '-' && !isBlankChar next) ||
      (s.flowLevel == 0 && (c == '?' || c == ':') && !isBlankzChar next) then do
    let s ← s.saveKey
    { s with keyAllowed := false }.scanPlain
  else
    s.fail "while scanning for the next token" s.mark "found character that cannot start any token"

/-- Fetches tokens until the queue holds three, and the first is not a pending key that may
still become a key. -/
def fetchMore (s : Lexer) : Except Problem Lexer := go (s.left + 8) s
where
  go : Nat → Lexer → Except Problem Lexer
    | 0, s => .ok s
    | n + 1, s => do
      let mut s := s
      if 2 < s.queue.size then
        match s.keys.findIdx? (fun k => k.possible && k.tokenNumber == s.taken) with
        | none => return s
        | some i =>
          let (valid, k) ← s.checkKey (s.keys.getD i {})
          s := { s with keys := s.keys.set! i k }
          if !valid then return s
      go n (← s.fetchNext)

/-- **The next token**, without handing it out. -/
def peek (s : Lexer) : Except Problem (Token × Lexer) := do
  let s ← if s.available then pure s else s.fetchMore
  match s.queue[0]? with
  | some t => return (t, { s with available := true })
  | none => return (⟨.streamEnd, s.mark, s.mark⟩, { s with available := true })

/-- Hands out the first token. -/
def next (s : Lexer) : Lexer :=
  let ended := match s.queue[0]? with
    | some ⟨.streamEnd, _, _⟩ => true
    | _ => false
  { s with available := false, taken := s.taken + 1, ended, queue := s.queue.extract 1 s.queue.size }

end Lexer

end Conveyor.Yaml
