import Conveyor.Yaml.Event
import Conveyor.Yaml.Scalar
/-!
# YAML node trees

The node tree of a document: scalars with their text, tag and style, sequences, mappings as
lists of key and value pairs, and aliases, each with the line and column (from one) where
it starts. An alias carries a copy of the node its anchor names, or nothing when it names a
collection that is still open around it.

Only the first document of a text is read, and reading stops right after it; an empty text
reads as a single line break, and a text without a document has no tree.

A scalar's tag is the tag written on it, else `!!str` when it is quoted or a block scalar,
else the type its text resolves to. A collection's tag is the tag written on it, else
`!!seq` or `!!map`.
-/

namespace Conveyor.Yaml

/-- A node of a document. -/
inductive Node where
  | scalar (line column : Nat) (tag value : String) (style : ScalarStyle)
  | sequence (line column : Nat) (tag : String) (items : List Node)
  | mapping (line column : Nat) (tag : String) (entries : List (Node × Node))
  | alias (line column : Nat) (name : String) (target : Option Node)
  deriving Inhabited

namespace Node

/-- The line a node starts on, from one. -/
def line : Node → Nat
  | .scalar l _ _ _ _ | .sequence l _ _ _ | .mapping l _ _ _ | .alias l _ _ _ => l

/-- The tag of a node; an alias has none. -/
def tag : Node → String
  | .scalar _ _ t _ _ | .sequence _ _ t _ | .mapping _ _ t _ => t
  | .alias _ _ _ _ => ""

/-- The text of a node: a scalar's value, an alias's name, and empty for collections. -/
def value : Node → String
  | .scalar _ _ _ v _ => v
  | .alias _ _ n _ => n
  | _ => ""

/-- The kind of a node, as a number: scalar, sequence, mapping, alias. -/
def kindIndex : Node → Nat
  | .scalar .. => 0
  | .sequence .. => 1
  | .mapping .. => 2
  | .alias .. => 3

end Node

/-- A collection being read, with what it has so far. -/
inductive Frame where
  | sequence (line column : Nat) (tag anchor : String) (items : Array Node)
  | mapping (line column : Nat) (tag anchor : String) (entries : Array (Node × Node))
      (key : Option Node)

/-- The composer's state: the events, the anchors seen (none while the collection they name
is still open), and the open collections, innermost first. -/
structure Composer where
  events : EventReader
  anchors : List (String × Option Node) := []
  frames : List Frame := []

/-- A problem of the composer, with no position. -/
def composeProblem (problem : String) : Problem := { stage := .composer, problem }

/-- The tag of a collection. -/
def collectionTag (written default : String) : String :=
  if written != "" && written != "!" then shortTag written else default

/-- The tag of a scalar. -/
def scalarTag (written value : String) (style : ScalarStyle) : String :=
  if written != "" && written != "!" then shortTag written
  else if style != .plain then "!!str"
  else if value == "<<" then "!!merge"
  else (typeByText "" value).1

namespace Composer

/-- Names a node by an anchor. -/
def remember (c : Composer) (anchor : String) (n : Option Node) : Composer :=
  if anchor.isEmpty then c else { c with anchors := (anchor, n) :: c.anchors }

/-- Closes the anchor of a collection that is complete now, unless an inner node took the
name meanwhile. -/
def settle (c : Composer) (anchor : String) (n : Node) : Composer :=
  if anchor.isEmpty then c else
  match c.anchors.lookup anchor with
  | some none => { c with anchors := (anchor, some n) :: c.anchors }
  | _ => c

/-- Puts a complete node into the innermost open collection; at the top it is the result. -/
def place (c : Composer) (n : Node) : Composer × Option Node :=
  match c.frames with
  | [] => (c, some n)
  | .sequence l col t a items :: rest =>
    ({ c with frames := .sequence l col t a (items.push n) :: rest }, none)
  | .mapping l col t a entries none :: rest =>
    ({ c with frames := .mapping l col t a entries (some n) :: rest }, none)
  | .mapping l col t a entries (some k) :: rest =>
    ({ c with frames := .mapping l col t a (entries.push (k, n)) none :: rest }, none)

/-- Takes one event into the tree; the result is the document's node once it is complete. -/
def step (c : Composer) (e : Event) : Except Problem (Composer × Option Node) := do
  let line := e.start.line + 1
  let column := e.start.column + 1
  match e.kind with
  | .scalar anchor tag value _ _ style =>
    let n := Node.scalar line column (scalarTag tag value style) value style
    return (c.remember anchor (some n)).place n
  | .alias name =>
    match c.anchors.lookup name with
    | none => .error (composeProblem ("unknown anchor '" ++ name ++ "' referenced"))
    | some target => return c.place (.alias line column name target)
  | .sequenceStart anchor tag _ _ =>
    let c := c.remember anchor none
    return ({ c with frames := .sequence line column (collectionTag tag "!!seq") anchor #[] :: c.frames }, none)
  | .mappingStart anchor tag _ _ =>
    let c := c.remember anchor none
    return ({ c with frames := .mapping line column (collectionTag tag "!!map") anchor #[] none :: c.frames }, none)
  | .sequenceEnd | .mappingEnd =>
    match c.frames with
    | .sequence l col t a items :: rest =>
      let n := Node.sequence l col t items.toList
      return ({ c with frames := rest }.settle a n).place n
    | .mapping l col t a entries _ :: rest =>
      let n := Node.mapping l col t entries.toList
      return ({ c with frames := rest }.settle a n).place n
    | [] => return (c, none)
  | _ => return (c, none)

/-- Reads events until the document's node is complete. -/
def content (c : Composer) : Nat → Except Problem (Node × Composer)
  | 0 => .error (composeProblem "attempted to go past the end of stream; corrupted value?")
  | fuel + 1 => do
    let (e, events) ← c.events.next
    let c := { c with events }
    match e.kind with
    | .streamEnd | .nothing =>
      .error (composeProblem "attempted to go past the end of stream; corrupted value?")
    | _ =>
      let (c, done) ← c.step e
      match done with
      | some n => return (n, c)
      | none => content c fuel

end Composer

/-- Characters a YAML text may hold: tab, line feed, carriage return, the printable ASCII
characters, next line, and the rest of Unicode from U+00A0 but U+FFFE and U+FFFF. -/
def isTextChar (c : Char) : Bool :=
  let n := c.toNat
  n == 0x09 || n == 0x0A || n == 0x0D || (0x20 ≤ n && n ≤ 0x7E) || n == 0x85 ||
    (0xA0 ≤ n && n ≤ 0xFFFD) || n ≥ 0x10000

/-- **The node tree of a text's first document**, or none when it has no document. -/
def Node.ofText (text : String) : Except Problem (Option Node) := do
  let text := if text.isEmpty then "\n" else text
  if !text.all isTextChar then
    throw { stage := .reader, problem := "control characters are not allowed" }
  let events := EventReader.create text
  let fuel := 4 * text.length + 16
  let (_, events) ← events.next
  let (e, events) ← events.next
  match e.kind with
  | .documentStart _ =>
    let (n, c) ← Composer.content { events } fuel
    let (_, _) ← c.events.next
    return some n
  | _ => return none

end Conveyor.Yaml
