import Conveyor.Yaml.Node
import Conveyor.Time.Duration
import Conveyor.Text.Quoted
import Conveyor.Text.Base64
import Conveyor.Text.Utf8
/-!
# Reading a document into a shape

A shape says what a document must hold: strings, booleans, whole numbers of a width,
doubles, durations, anything, lists, maps with string keys, and records with named fields.
Reading a node into a shape updates a current value, and keeps reading past nodes that do
not fit: each one leaves its place as it was and adds a message

    line N: cannot unmarshal TAG `TEXT` into TYPE

(the text cut to seven bytes and `...` when longer than ten, and left out for collections).
A scalar tagged `!!binary` is base64 that is decoded first: strings, booleans, durations and
anything take the decoded text, and text that is not base64 stops reading.
A mapping with two equal keys is not read at all, with a message per repeated key. Keys of
a record that name no field are passed over. A null leaves a value as it was, except that
it clears anything, lists and maps. Lists are read afresh; a list item that does not fit is
left out. Maps keep the entries they had. A duration is read only from its text.

A mapping may merge others under the key `<<`: its value is a mapping, an alias of one, or a
list of them. The mapping's own keys are read first; the merged mappings are then read into
the same value in order, and a key that the mapping or an earlier merged mapping gave already
keeps its value.

Problems that stop reading altogether, such as an alias inside the node it names, a merge
of something that is not a mapping, or a list or mapping as the key of a map of anything
(shown in the syntax of a value, `Datum.goText`), are errors of their own.
-/

namespace Conveyor.Yaml

/-- What a document must hold. -/
inductive Shape where
  | text
  | bool
  /-- A whole number of `bits` bits, with the name of its type. -/
  | int (name : String) (bits : Nat)
  | float (name : String)
  | duration
  | any
  | list (name : String) (item : Shape)
  | dict (name : String) (item : Shape)
  | record (name : String) (fields : List (String × Shape))
  deriving Inhabited

namespace Shape

/-- The name of a shape's type, as messages show it. -/
def name : Shape → String
  | .text => "string"
  | .bool => "bool"
  | .int n _ => n
  | .float n => n
  | .duration => "time.Duration"
  | .any => "interface \x7b\x7d"
  | .list n _ => n
  | .dict n _ => n
  | .record n _ => n

/-- The empty value of a shape: a record has every field empty. -/
def zero : Shape → Datum
  | .text => .str ""
  | .bool => .bool false
  | .int _ _ => .int 0
  | .float _ => .float 0
  | .duration => .int 0
  | .any => .null
  | .list _ _ => .null
  | .dict _ _ => .null
  | .record _ fields => .map (fields.attach.map fun ⟨(k, s), _⟩ => (k, s.zero))
decreasing_by
  have h := List.sizeOf_lt_of_mem ‹_ ∈ _›
  simp only [Prod.mk.sizeOf_spec] at h
  simp only [Shape.record.sizeOf_spec]
  omega

end Shape

/-- Reading into a shape: the messages so far, or an error that stops it. -/
abbrev Reading := StateT (Array String) (Except String)

/-- The first `n` bytes of a text; a character cut in two leaves a replacement character
per byte of it. -/
def clipBytes (s : String) (n : Nat) : String :=
  let bytes := s.toUTF8.extract 0 n
  match String.fromUTF8? bytes with
  | some t => t
  | none =>
    let whole := (s.toList.foldl (fun (acc : List Char × Nat) c =>
      let w := (String.singleton c).utf8ByteSize
      if acc.2 + w ≤ n then (acc.1 ++ [c], acc.2 + w) else acc) ([], 0))
    String.ofList whole.1 ++ String.ofList (List.replicate (n - whole.2) '�')

/-- Records that a node does not fit a shape. -/
def misfit (n : Node) (tag : String) (shape : Shape) : Reading Unit :=
  let tag := if n.tag != "" then n.tag else tag
  let shown :=
    if tag == "!!seq" || tag == "!!map" then ""
    else if n.value.utf8ByteSize > 10 then " `" ++ clipBytes n.value 7 ++ "...`"
    else " `" ++ n.value ++ "`"
  modify (·.push ("line " ++ toString n.line ++ ": cannot unmarshal " ++ tag ++ shown ++
    " into " ++ shape.name))

/-- Whether a whole number fits `bits` bits, signed. -/
def fitsBits (bits : Nat) (v : Int) : Bool :=
  -(Int.pow 2 (bits - 1) : Int) ≤ v && v < (Int.pow 2 (bits - 1) : Int)

/-- The old spellings of booleans that a boolean accepts from a string. -/
def oldBool? : String → Option Bool
  | "y" | "Y" | "yes" | "Yes" | "YES" | "on" | "On" | "ON" => some true
  | "n" | "N" | "no" | "No" | "NO" | "off" | "Off" | "OFF" => some false
  | _ => none

/-- The value a resolved scalar gives a shape, if it fits. -/
def scalarFit (shape : Shape) (tag value : String) (resolved : Datum) : Option Datum :=
  match shape, resolved with
  | .text, .str s => some (.str (if tag == "!!binary" then s else value))
  | .text, _ => some (.str value)
  | .any, _ => some resolved
  | .int _ bits, .int v => if fitsBits bits v then some (.int v) else none
  | .int _ bits, .float f =>
    if f ≤ 9223372036854775808.0 then
      let v := Binary.toInt64 f
      if fitsBits bits v then some (.int v) else none
    else none
  | .duration, .str s =>
    match Duration.read s with
    | .ok d => some (.int d)
    | .error _ => none
  | .bool, .bool b => some (.bool b)
  | .bool, .str s => (oldBool? s).map .bool
  | .float _, .int v => some (.float (Binary.ofInt v))
  | .float _, .uint v => some (.float (Binary.nearest false v 1))
  | .float _, .float f => some (.float f)
  | _, _ => none

/-- Whether a node is a merge key. -/
def Node.isMerge : Node → Bool
  | .scalar _ _ tag "<<" _ => tag == "!!merge" || tag == ""
  | _ => false

/-- The type a node's text resolves to, as its tag, when it is a scalar. -/
def Node.shortTagOf : Node → String
  | .alias _ _ _ (some t) => t.tag
  | n => n.tag

/-- The message for a key written twice. -/
def repeatedKey (first again : Node) : String :=
  "line " ++ toString again.line ++ ": mapping key " ++ Text.quote again.value ++
    " already defined at line " ++ toString first.line

/-- The messages for the repeated keys of a mapping. -/
def repeatedKeys : List (Node × Node) → List String
  | [] => []
  | (k, _) :: rest =>
    (rest.filter fun (k2, _) => k2.kindIndex == k.kindIndex && k2.value == k.value).map
      (fun (k2, _) => repeatedKey k k2) ++ repeatedKeys rest

/-- Two keys that a map tells apart: scalars of one kind and one value are the same key. -/
def sameKey : Datum → Datum → Bool
  | .str a, .str b => a == b
  | .int a, .int b => a == b
  | .uint a, .uint b => a == b
  | .float a, .float b => a == b
  | .bool a, .bool b => a == b
  | .time a, .time b => a == b
  | .null, .null => true
  | _, _ => false

/-- Takes a key while merging: false when an earlier key took it already. Outside a merge
(`none`) every key is free. -/
def takeKey (taken : Option (List Datum)) (k : Datum) : Bool × Option (List Datum) :=
  match taken with
  | none => (true, none)
  | some ks => if ks.any (sameKey k) then (false, some ks) else (true, some (ks ++ [k]))

/-- The refusal of a merge whose value is not a mapping or a list of mappings. -/
def wantMap : String := "yaml: map merge requires map or sequence of maps as the value"

/-- Whether a node may be merged: a mapping, or an alias that does not name another kind of
node. -/
def Node.mergeable : Node → Bool
  | .mapping .. => true
  | .alias _ _ _ none => true
  | .alias _ _ _ (some (.mapping ..)) => true
  | _ => false

/-- The shape a merged mapping is read into: a record or a map as it is; a map of anything
as a map of strings to anything. -/
def Shape.merged : Shape → Shape
  | .any => .dict "map[string]interface \x7b\x7d" .any
  | s => s

mutual

/-- **Reads a node into a shape**, starting from the current value; whether it fit, the value
afterwards, and the keys taken so far when the node is read as part of a merge. -/
def readNodeWith : Nat → Node → Shape → Datum → Option (List Datum) →
    Reading (Bool × Datum × Option (List Datum))
  | 0, _, _, cur, taken => return (false, cur, taken)
  | fuel + 1, n, shape, cur, taken =>
    match n with
    | .alias _ _ name target =>
      match target with
      | none => throw ("yaml: anchor '" ++ name ++ "' value contains itself")
      | some t => readNodeWith fuel t shape cur taken
    | .scalar _ _ tag value _ => do
      let (rtag, resolved) ←
        if tag == "!!str" then pure ("!!str", Datum.str value)
        else match resolve tag value with
          | .ok ("!!binary", d) =>
            match Text.Base64.decodeLines d.text with
            | some bs => pure ("!!binary", Datum.str (Utf8.lossy bs))
            | none => throw "yaml: !!binary value contains invalid base64 data"
          | .ok r => pure r
          | .error e => throw e
      if resolved.isNull then
        match shape with
        | .any | .list _ _ | .dict _ _ => return (true, .null, taken)
        | _ => return (false, cur, taken)
      match scalarFit shape rtag value resolved with
      | some d => return (true, d, taken)
      | none =>
        misfit n rtag shape
        return (false, cur, taken)
    | .sequence _ _ _ items => do
      match shape with
      | .list _ _ | .any =>
        let item := match shape with
          | .list _ i => i
          | _ => .any
        let mut kept : Array Datum := #[]
        for child in items do
          let (ok, v, _) ← readNodeWith fuel child item item.zero none
          if ok then kept := kept.push v
        return (true, .list kept.toList, taken)
      | _ =>
        misfit n "!!seq" shape
        return (false, cur, taken)
    | .mapping _ _ _ entries => do
      let repeated := repeatedKeys entries
      if !repeated.isEmpty then
        modify (· ++ repeated.toArray)
        return (false, cur, taken)
      let mergeNode := ((entries.filter (·.1.isMerge)).getLast?).map (·.2)
      let mut taken := taken
      let mut result : Datum := cur
      match shape with
      | .record _ fields =>
        let mut values : List (String × Datum) := match cur with
          | .map es => es
          | _ => match shape.zero with
            | .map es => es
            | _ => []
        for (k, v) in entries do
          if k.isMerge then continue
          let (ok, key, _) ← readNodeWith fuel k .text (.str "") none
          if !ok then continue
          let keyText := match key with
            | .str s => s
            | d => d.text
          let (free, t) := takeKey taken (.str keyText)
          taken := t
          if !free then continue
          match fields.lookup keyText with
          | some fshape =>
            let now := (values.lookup keyText).getD fshape.zero
            let (_, val, _) ← readNodeWith fuel v fshape now none
            values := Datum.setEntry values keyText val
          | none => pure ()
        result := .map values
      | .dict _ _ | .any =>
        let item := match shape with
          | .dict _ i => i
          | _ => .any
        let stringKeys := match shape with
          | .dict _ _ => true
          | _ => entries.all fun (k, _) => k.shortTagOf == "!!str" || k.shortTagOf == "!!merge"
        let fresh := match shape, cur with
          | .dict _ _, .map _ => false
          | _, _ => true
        let mut out : List (String × Datum) := match shape, cur with
          | .dict _ _, .map es => es
          | _, _ => []
        for (k, v) in entries do
          if k.isMerge then continue
          let (ok, key, _) ← readNodeWith fuel k (if stringKeys then .text else .any)
            (if stringKeys then .str "" else .null) none
          if !ok then continue
          let (free, t) := takeKey taken key
          taken := t
          if !free then continue
          let keyText ← match key with
            | .str s => pure s
            | .list _ | .map _ => throw ("yaml: invalid map key: " ++ key.goText)
            | d => pure d.text
          let (good, val, _) ← readNodeWith fuel v item item.zero none
          if good || (v.shortTagOf == "!!null" && (fresh || (out.lookup keyText).isNone)) then
            out := Datum.setEntry out keyText val
        result := .map out
      | _ =>
        misfit n "!!map" shape
        return (false, cur, taken)
      match mergeNode with
      | none => return (true, result, taken)
      | some m =>
        let start ← match taken with
          | some ks => pure ks
          | none => parentKeys fuel entries
        let (merged, after) ← mergeInto fuel m shape.merged result start
        return (true, merged, taken.map fun _ => after)

/-- The keys of a mapping, each read as anything, that a merge into it may not replace. -/
def parentKeys : Nat → List (Node × Node) → Reading (List Datum)
  | 0, _ => return []
  | fuel + 1, entries => entries.filterMapM fun (k, _) => do
    let (ok, key, _) ← readNodeWith fuel k .any .null none
    return if ok then some key else none

/-- **Merges** a mapping, or each of a list of mappings in turn, into a value: a key that is
taken already keeps its value. -/
def mergeInto : Nat → Node → Shape → Datum → List Datum → Reading (Datum × List Datum)
  | 0, _, _, cur, taken => return (cur, taken)
  | fuel + 1, m, shape, cur, taken =>
    match m with
    | .sequence _ _ _ items =>
      items.foldlM (fun (acc : Datum × List Datum) item => do
        if !item.mergeable then throw wantMap
        let (_, d, t) ← readNodeWith fuel item shape acc.1 (some acc.2)
        return (d, t.getD acc.2)) (cur, taken)
    | _ => do
      if !m.mergeable then throw wantMap
      let (_, d, t) ← readNodeWith fuel m shape cur (some taken)
      return (d, t.getD taken)

end

/-- **Reads a node into a shape**, starting from the current value; whether it fit, and the
value afterwards. -/
def readNode (fuel : Nat) (n : Node) (shape : Shape) (cur : Datum) : Reading (Bool × Datum) := do
  let (ok, d, _) ← readNodeWith fuel n shape cur none
  return (ok, d)

/-- **Reading a text into a shape**: the value, starting from `start`, and the messages of the
nodes that did not fit; or the error that stopped reading. -/
def readText (text : String) (shape : Shape) (start : Datum) :
    Except String (Datum × List String) :=
  match Node.ofText text with
  | .error p => .error p.message
  | .ok none => .ok (start, [])
  | .ok (some n) =>
    match (readNode (8 * text.length + 64) n shape start).run #[] with
    | .error e => .error e
    | .ok ((_, d), msgs) => .ok (d, msgs.toList)

/-- The error for the nodes that did not fit. -/
def misfitsMessage (msgs : List String) : String :=
  "yaml: unmarshal errors:\n  " ++ "\n  ".intercalate msgs

end Conveyor.Yaml
