import Conveyor.Yaml.Token.Lexer
/-!
# YAML events

The event reader turns tokens into a stream of events: the stream's and each document's
start and end, scalars, aliases, and the start and end of each sequence and mapping. It is a
state machine whose state says what may come next; a stack keeps the states to return to
after a nested node, and a second stack the marks where the open collections started, for
the messages of problems inside them.

An empty node, such as the value of `key:` with nothing after it, is an empty plain scalar.
An anchor or a tag with no node after it stands for one as well.
-/

namespace Conveyor.Yaml

/-- The kinds of events. -/
inductive EventKind where
  | streamStart
  | streamEnd
  | documentStart (implicit : Bool)
  | documentEnd (implicit : Bool)
  | alias (name : String)
  | scalar (anchor tag value : String) (plainImplicit quotedImplicit : Bool) (style : ScalarStyle)
  | sequenceStart (anchor tag : String) (implicit flow : Bool)
  | sequenceEnd
  | mappingStart (anchor tag : String) (implicit flow : Bool)
  | mappingEnd
  /-- What the reader gives after the stream's end. -/
  | nothing
  deriving Inhabited, Repr

/-- An event with where it starts and ends. -/
structure Event where
  kind : EventKind
  start : Mark
  stop : Mark
  deriving Inhabited, Repr

/-- What the event reader expects next. -/
inductive Expect where
  | streamStart
  | implicitDocumentStart
  | documentStart
  | documentContent
  | documentEnd
  | blockNode
  | blockNodeOrIndentlessSequence
  | flowNode
  | blockSequenceFirstEntry
  | blockSequenceEntry
  | indentlessSequenceEntry
  | blockMappingFirstKey
  | blockMappingKey
  | blockMappingValue
  | flowSequenceFirstEntry
  | flowSequenceEntry
  | flowSequenceEntryMappingKey
  | flowSequenceEntryMappingValue
  | flowSequenceEntryMappingEnd
  | flowMappingFirstKey
  | flowMappingKey
  | flowMappingValue
  | flowMappingEmptyValue
  | finished
  deriving DecidableEq, Inhabited, Repr

/-- The event reader: the lexer, what comes next, the states and marks to return to, and the
tag handles of the current document. -/
structure EventReader where
  lexer : Lexer
  expect : Expect := .streamStart
  states : List Expect := []
  marks : List Mark := []
  handles : List (String × String) := []

/-- The tag handles every document knows. -/
def defaultHandles : List (String × String) := [("!", "!"), ("!!", "tag:yaml.org,2002:")]

namespace EventReader

/-- A reader at the start of a text. -/
def create (text : String) : EventReader := { lexer := Lexer.create text }

/-- The next token. -/
def peek (r : EventReader) : Except Problem (Token × EventReader) := do
  let (t, lexer) ← r.lexer.peek
  return (t, { r with lexer })

/-- Hands out the next token. -/
def skip (r : EventReader) : EventReader := { r with lexer := r.lexer.next }

/-- Returns to the state on top of the stack. -/
def pop (r : EventReader) : EventReader :=
  match r.states with
  | s :: rest => { r with expect := s, states := rest }
  | [] => { r with expect := .finished }

/-- Pushes a state to return to. -/
def push (r : EventReader) (s : Expect) : EventReader := { r with states := s :: r.states }

/-- Takes the mark of the innermost open collection. -/
def popMark (r : EventReader) : Mark × EventReader :=
  match r.marks with
  | m :: rest => (m, { r with marks := rest })
  | [] => ({}, r)

/-- A problem of the event reader. -/
def fail {α : Type} (problem : String) (problemMark : Mark) : Except Problem α :=
  .error { stage := .parser, problem, problemMark }

/-- A problem of the event reader inside a construct that started at `contextMark`. -/
def failIn {α : Type} (context : String) (contextMark : Mark) (problem : String)
    (problemMark : Mark) : Except Problem α :=
  .error { stage := .parser, problem, problemMark, context, contextMark }

/-- An empty plain scalar at `m`. -/
def empty (m : Mark) : Event := ⟨.scalar "" "" "" true false .plain, m, m⟩

/-- Reads the directives before a document; the handles are the declared ones and then the
defaults. -/
def directives (r : EventReader) : Except Problem EventReader :=
  go (r.lexer.left + 8) r false []
where
  go : Nat → EventReader → Bool → List (String × String) → Except Problem EventReader
    | 0, r, _, handles => .ok { r with handles := handles ++ defaultHandles }
    | n + 1, r, seenVersion, handles => do
      let (t, r) ← r.peek
      match t.kind with
      | .versionDirective major minor =>
        if seenVersion then fail "found duplicate %YAML directive" t.start
        else if major != 1 || (minor != 1 && minor != 2) then
          fail "found incompatible YAML document" t.start
        else go n r.skip true handles
      | .tagDirective handle pfx =>
        if handles.any (·.1 == handle) then fail "found duplicate %TAG directive" t.start
        else go n r.skip seenVersion (handles ++ [(handle, pfx)])
      | _ => .ok { r with handles := handles ++ defaultHandles }

/-- **Reads a node's first event**: an alias, a scalar, or the start of a collection, after
an optional anchor and tag. -/
def node (r : EventReader) (block indentless : Bool) : Except Problem (Event × EventReader) := do
  let (t, r) ← r.peek
  if let .alias name := t.kind then
    return (⟨.alias name, t.start, t.stop⟩, r.skip.pop)
  let (anchor, tagged, tagMark, start, stop, t, r) ←
    match t.kind with
    | .anchor a => do
      let (t2, r) ← r.skip.peek
      match t2.kind with
      | .tag h s => do
        let (t3, r) ← r.skip.peek
        pure (a, some (h, s), t2.start, t.start, t2.stop, t3, r)
      | _ => pure (a, none, t.start, t.start, t.stop, t2, r)
    | .tag h s => do
      let (t2, r) ← r.skip.peek
      match t2.kind with
      | .anchor a => do
        let (t3, r) ← r.skip.peek
        pure (a, some (h, s), t.start, t.start, t2.stop, t3, r)
      | _ => pure (("" : String), some (h, s), t.start, t.start, t.stop, t2, r)
    | _ => pure ("", none, t.start, t.start, t.start, t, r)
  let tag ←
    match tagged with
    | none => pure ""
    | some (h, s) =>
      if h.isEmpty then pure s
      else match r.handles.find? (·.1 == h) with
        | some (_, pfx) => pure (pfx ++ s)
        | none => failIn "while parsing a node" start "found undefined tag handle" tagMark
  let implicit := tag.isEmpty
  match t.kind with
  | .blockEntry =>
    if indentless then
      return (⟨.sequenceStart anchor tag implicit false, start, t.stop⟩,
        { r with expect := .indentlessSequenceEntry })
    else nodeRest r block anchor tag start stop t
  | .scalar value style =>
    let plainImplicit := (tag.isEmpty && style == .plain) || tag == "!"
    let quotedImplicit := !plainImplicit && tag.isEmpty
    return (⟨.scalar anchor tag value plainImplicit quotedImplicit style, start, t.stop⟩, r.skip.pop)
  | .flowSequenceStart =>
    return (⟨.sequenceStart anchor tag implicit true, start, t.stop⟩,
      { r with expect := .flowSequenceFirstEntry })
  | .flowMappingStart =>
    return (⟨.mappingStart anchor tag implicit true, start, t.stop⟩,
      { r with expect := .flowMappingFirstKey })
  | .blockSequenceStart =>
    if block then
      return (⟨.sequenceStart anchor tag implicit false, start, t.stop⟩,
        { r with expect := .blockSequenceFirstEntry })
    else nodeRest r block anchor tag start stop t
  | .blockMappingStart =>
    if block then
      return (⟨.mappingStart anchor tag implicit false, start, t.stop⟩,
        { r with expect := .blockMappingFirstKey })
    else nodeRest r block anchor tag start stop t
  | _ => nodeRest r block anchor tag start stop t
where
  /-- A node with an anchor or a tag and no content is an empty scalar; with neither, there
  is no node here. -/
  nodeRest (r : EventReader) (block : Bool) (anchor tag : String) (start stop : Mark) (t : Token) :
      Except Problem (Event × EventReader) :=
    if !anchor.isEmpty || !tag.isEmpty then
      .ok (⟨.scalar anchor tag "" tag.isEmpty false .plain, start, stop⟩, r.pop)
    else
      failIn (if block then "while parsing a block node" else "while parsing a flow node") start
        "did not find expected node content" t.start

/-- Whether a token kind ends a block entry. -/
def endsBlockEntry : TokenKind → Bool
  | .blockEntry | .blockEnd => true
  | _ => false

/-- Whether a token kind ends an entry of a sequence without indentation. -/
def endsIndentlessEntry : TokenKind → Bool
  | .blockEntry | .key | .value | .blockEnd => true
  | _ => false

/-- Whether a token kind ends a block key or value. -/
def endsBlockKey : TokenKind → Bool
  | .key | .value | .blockEnd => true
  | _ => false

/-- **The next event.** After the stream's end every event is `nothing`. -/
def next (r : EventReader) : Except Problem (Event × EventReader) := do
  if r.lexer.ended || r.expect == .finished then
    return (⟨.nothing, {}, {}⟩, r)
  match r.expect with
  | .streamStart =>
    let (t, r) ← r.peek
    match t.kind with
    | .streamStart =>
      return (⟨.streamStart, t.start, t.stop⟩, { r.skip with expect := .implicitDocumentStart })
    | _ => fail "did not find expected <stream-start>" t.start
  | .implicitDocumentStart => documentStart r true
  | .documentStart => documentStart r false
  | .documentContent =>
    let (t, r) ← r.peek
    match t.kind with
    | .versionDirective _ _ | .tagDirective _ _ | .documentStart | .documentEnd | .streamEnd =>
      return (empty t.start, r.pop)
    | _ => r.node true false
  | .documentEnd =>
    let (t, r) ← r.peek
    match t.kind with
    | .documentEnd =>
      return (⟨.documentEnd false, t.start, t.stop⟩,
        { r.skip with handles := [], expect := .documentStart })
    | _ => return (⟨.documentEnd true, t.start, t.start⟩, { r with handles := [], expect := .documentStart })
  | .blockNode => r.node true false
  | .blockNodeOrIndentlessSequence => r.node true true
  | .flowNode => r.node false false
  | .blockSequenceFirstEntry =>
    let (t, r) ← r.peek
    blockSequenceEntry { r.skip with marks := t.start :: r.marks }
  | .blockSequenceEntry => blockSequenceEntry r
  | .indentlessSequenceEntry =>
    let (t, r) ← r.peek
    match t.kind with
    | .blockEntry =>
      let m := t.stop
      let (t, r) ← r.skip.peek
      if endsIndentlessEntry t.kind then
        return (empty m, { r with expect := .indentlessSequenceEntry })
      else (r.push .indentlessSequenceEntry).node true false
    | _ => return (⟨.sequenceEnd, t.start, t.start⟩, r.pop)
  | .blockMappingFirstKey =>
    let (t, r) ← r.peek
    blockMappingKey { r.skip with marks := t.start :: r.marks }
  | .blockMappingKey => blockMappingKey r
  | .blockMappingValue =>
    let (t, r) ← r.peek
    match t.kind with
    | .value =>
      let m := t.stop
      let (t, r) ← r.skip.peek
      if endsBlockKey t.kind then
        return (empty m, { r with expect := .blockMappingKey })
      else (r.push .blockMappingKey).node true true
    | _ => return (empty t.start, { r with expect := .blockMappingKey })
  | .flowSequenceFirstEntry =>
    let (t, r) ← r.peek
    flowSequenceEntry { r.skip with marks := t.start :: r.marks } true
  | .flowSequenceEntry => flowSequenceEntry r false
  | .flowSequenceEntryMappingKey =>
    let (t, r) ← r.peek
    match t.kind with
    | .value | .flowEntry | .flowSequenceEnd =>
      return (empty t.stop, { r.skip with expect := .flowSequenceEntryMappingValue })
    | _ => (r.push .flowSequenceEntryMappingValue).node false false
  | .flowSequenceEntryMappingValue =>
    let (t, r) ← r.peek
    match t.kind with
    | .value =>
      let (t, r) ← r.skip.peek
      match t.kind with
      | .flowEntry | .flowSequenceEnd =>
        return (empty t.start, { r with expect := .flowSequenceEntryMappingEnd })
      | _ => (r.push .flowSequenceEntryMappingEnd).node false false
    | _ => return (empty t.start, { r with expect := .flowSequenceEntryMappingEnd })
  | .flowSequenceEntryMappingEnd =>
    let (t, r) ← r.peek
    return (⟨.mappingEnd, t.start, t.start⟩, { r with expect := .flowSequenceEntry })
  | .flowMappingFirstKey =>
    let (t, r) ← r.peek
    flowMappingKey { r.skip with marks := t.start :: r.marks } true
  | .flowMappingKey => flowMappingKey r false
  | .flowMappingValue => flowMappingValue r false
  | .flowMappingEmptyValue => flowMappingValue r true
  | .finished => return (⟨.nothing, {}, {}⟩, r)
where
  documentStart (r : EventReader) (implicit : Bool) : Except Problem (Event × EventReader) := do
    let (t, r) ← r.peek
    let (t, r) ← if implicit then pure (t, r) else skipDocumentEnds (r.lexer.left + 8) t r
    match t.kind with
    | .versionDirective _ _ | .tagDirective _ _ | .documentStart | .streamEnd =>
      match t.kind with
      | .streamEnd =>
        return (⟨.streamEnd, t.start, t.stop⟩, { r.skip with expect := .finished })
      | _ =>
        let start := t.start
        let r ← r.directives
        let (t, r) ← r.peek
        match t.kind with
        | .documentStart =>
          return (⟨.documentStart false, start, t.stop⟩,
            { (r.push .documentEnd).skip with expect := .documentContent })
        | _ => fail "did not find expected <document start>" t.start
    | _ =>
      if implicit then
        let r ← r.directives
        return (⟨.documentStart true, t.start, t.start⟩, { r.push .documentEnd with expect := .blockNode })
      else
        let start := t.start
        let r ← r.directives
        let (t, r) ← r.peek
        match t.kind with
        | .documentStart =>
          return (⟨.documentStart false, start, t.stop⟩,
            { (r.push .documentEnd).skip with expect := .documentContent })
        | _ => fail "did not find expected <document start>" t.start
  skipDocumentEnds : Nat → Token → EventReader → Except Problem (Token × EventReader)
    | 0, t, r => .ok (t, r)
    | n + 1, t, r =>
      match t.kind with
      | .documentEnd => do
        let (t, r) ← r.skip.peek
        skipDocumentEnds n t r
      | _ => .ok (t, r)
  blockSequenceEntry (r : EventReader) : Except Problem (Event × EventReader) := do
    let (t, r) ← r.peek
    match t.kind with
    | .blockEntry =>
      let m := t.stop
      let (t, r) ← r.skip.peek
      if endsBlockEntry t.kind then
        return (empty m, { r with expect := .blockSequenceEntry })
      else (r.push .blockSequenceEntry).node true false
    | .blockEnd =>
      let (_, r) := r.popMark
      return (⟨.sequenceEnd, t.start, t.stop⟩, r.pop.skip)
    | _ =>
      let (m, _) := r.popMark
      failIn "while parsing a block collection" m "did not find expected '-' indicator" t.start
  blockMappingKey (r : EventReader) : Except Problem (Event × EventReader) := do
    let (t, r) ← r.peek
    match t.kind with
    | .key =>
      let m := t.stop
      let (t, r) ← r.skip.peek
      if endsBlockKey t.kind then
        return (empty m, { r with expect := .blockMappingValue })
      else (r.push .blockMappingValue).node true true
    | .blockEnd =>
      let (_, r) := r.popMark
      return (⟨.mappingEnd, t.start, t.stop⟩, r.pop.skip)
    | _ =>
      let (m, _) := r.popMark
      failIn "while parsing a block mapping" m "did not find expected key" t.start
  flowSequenceEntry (r : EventReader) (first : Bool) : Except Problem (Event × EventReader) := do
    let (t, r) ← r.peek
    match t.kind with
    | .flowSequenceEnd =>
      let (_, r) := r.popMark
      return (⟨.sequenceEnd, t.start, t.stop⟩, r.pop.skip)
    | _ =>
      let (t, r) ←
        if first then pure (t, r)
        else match t.kind with
          | .flowEntry => r.skip.peek
          | _ =>
            let (m, _) := r.popMark
            failIn "while parsing a flow sequence" m "did not find expected ',' or ']'" t.start
      match t.kind with
      | .key =>
        return (⟨.mappingStart "" "" true true, t.start, t.stop⟩,
          { r.skip with expect := .flowSequenceEntryMappingKey })
      | .flowSequenceEnd =>
        let (_, r) := r.popMark
        return (⟨.sequenceEnd, t.start, t.stop⟩, r.pop.skip)
      | _ => (r.push .flowSequenceEntry).node false false
  flowMappingKey (r : EventReader) (first : Bool) : Except Problem (Event × EventReader) := do
    let (t, r) ← r.peek
    match t.kind with
    | .flowMappingEnd =>
      let (_, r) := r.popMark
      return (⟨.mappingEnd, t.start, t.stop⟩, r.pop.skip)
    | _ =>
      let (t, r) ←
        if first then pure (t, r)
        else match t.kind with
          | .flowEntry => r.skip.peek
          | _ =>
            let (m, _) := r.popMark
            failIn "while parsing a flow mapping" m "did not find expected ',' or '\x7d'" t.start
      match t.kind with
      | .key =>
        let (t, r) ← r.skip.peek
        match t.kind with
        | .value | .flowEntry | .flowMappingEnd =>
          return (empty t.start, { r with expect := .flowMappingValue })
        | _ => (r.push .flowMappingValue).node false false
      | .flowMappingEnd =>
        let (_, r) := r.popMark
        return (⟨.mappingEnd, t.start, t.stop⟩, r.pop.skip)
      | _ => (r.push .flowMappingEmptyValue).node false false
  flowMappingValue (r : EventReader) (isEmpty : Bool) : Except Problem (Event × EventReader) := do
    let (t, r) ← r.peek
    if isEmpty then return (empty t.start, { r with expect := .flowMappingKey })
    match t.kind with
    | .value =>
      let (t, r) ← r.skip.peek
      match t.kind with
      | .flowEntry | .flowMappingEnd =>
        return (empty t.start, { r with expect := .flowMappingKey })
      | _ => (r.push .flowMappingKey).node false false
    | _ => return (empty t.start, { r with expect := .flowMappingKey })

end EventReader

end Conveyor.Yaml
