import Conveyor.Settings.Layers
/-!
# Reading settings into a shape, loosely

Settings are read into a shape field by field, converting between kinds where a sensible
reading exists:

* a whole number from a whole number (cut to the field's width, wrapping), a double (cut
  toward zero), a boolean (`1` or `0`) or a string (empty is `0`; a base prefix is allowed);
* a double from a number, a boolean or a string;
* a boolean from a number (not zero), or a string (`1`, `t`, `true`, `0`, `f`, `false` in
  their usual cases; empty is false);
* a string from a string, a boolean (`1` or `0`) or a number (a double in positional form);
* a duration from its text;
* a list from a list, item by item, and anything else as a list of that one thing (an empty
  mapping is an empty list);
* a record from a mapping: each field takes the key of its name, or else one that equals it
  without case (`Text.equalFold`); other keys are passed over. A timestamp is a record with
  no fields to read.

A null sets nothing. A value that cannot be read leaves its field as it was and gives the
message `'name' ...`, where `name` is the field's path (`topic_admin.ensure`,
`brokers[0]`); reading goes on with the next field.
-/

namespace Conveyor.Settings

open Conveyor.Yaml

/-- The name of a plain value's type, as messages show it. -/
def typeName : Datum → String
  | .null => "<nil>"
  | .bool _ => "bool"
  | .int _ => "int"
  | .uint _ => "uint64"
  | .float _ => "float64"
  | .str _ => "string"
  | .list _ => "[]interface \x7b\x7d"
  | .map _ => "map[string]interface \x7b\x7d"
  | .time _ => "time.Time"

/-- The kind of a plain value, as messages show it. -/
def kindName : Datum → String
  | .list _ => "slice"
  | .map _ => "map"
  | .time _ => "struct"
  | d => typeName d

/-- A whole number cut to `bits` bits, wrapping. -/
def wrapBits (bits : Nat) (v : Int) : Int :=
  (v + Int.pow 2 (bits - 1)) % Int.pow 2 bits - Int.pow 2 (bits - 1)

/-- The message for a value of a kind that cannot be read into a shape. -/
def unconvertible (name : String) (shape : Shape) (d : Datum) : String :=
  "'" ++ name ++ "' expected type '" ++ shape.name ++ "', got unconvertible type '" ++ typeName d ++ "'"

/-- The message for a string that cannot be read. -/
def unreadable (name : String) (shape : Shape) (reader text : String) (failure : Decimal.ReadFailure) :
    String :=
  "'" ++ name ++ "' cannot parse value as '" ++ shape.name ++ "': strconv." ++ reader ++
    ": parsing " ++ Text.quote text ++ ": " ++ failure.words

/-- The truth values a string may spell. -/
def truthOf? : String → Option Bool
  | "1" | "t" | "T" | "TRUE" | "true" | "True" => some true
  | "0" | "f" | "F" | "FALSE" | "false" | "False" => some false
  | _ => none

/-- Reads a plain value into a scalar shape. -/
def scalarLoose (name : String) (shape : Shape) (input : Datum) : Except String Datum :=
  match shape with
  | .int _ _ | .duration =>
    let bits := match shape with
      | .int _ b => b
      | _ => 64
    match input with
    | .int v => .ok (.int (wrapBits bits v))
    | .uint v => .ok (.int (wrapBits bits v))
    | .float f => .ok (.int (wrapBits bits (Binary.toInt64 f)))
    | .bool b => .ok (.int (if b then 1 else 0))
    | .str s =>
      let s := if s.isEmpty then "0" else s
      match Decimal.readInteger s 0 bits with
      | .ok i => .ok (.int i)
      | .error e => .error (unreadable name shape "ParseInt" s e)
    | d => .error (unconvertible name shape d)
  | .float _ =>
    match input with
    | .int v => .ok (.float (Binary.ofInt v))
    | .uint v => .ok (.float (Binary.nearest false v 1))
    | .float f => .ok (.float f)
    | .bool b => .ok (.float (if b then 1 else 0))
    | .str s =>
      let s := if s.isEmpty then "0" else s
      match Decimal.readFloat s with
      | .ok f => .ok (.float f)
      | .error e => .error (unreadable name shape "ParseFloat" s e)
    | d => .error (unconvertible name shape d)
  | .bool =>
    match input with
    | .bool b => .ok (.bool b)
    | .int v => .ok (.bool (v != 0))
    | .uint v => .ok (.bool (v != 0))
    | .float f => .ok (.bool (f != 0))
    | .str s =>
      match truthOf? s with
      | some b => .ok (.bool b)
      | none =>
        if s.isEmpty then .ok (.bool false)
        else .error (unreadable name shape "ParseBool" s .malformed)
    | d => .error (unconvertible name shape d)
  | .text =>
    match input with
    | .str s => .ok (.str s)
    | .bool b => .ok (.str (if b then "1" else "0"))
    | .int v => .ok (.str (toString v))
    | .uint v => .ok (.str (toString v))
    | .float f => .ok (.str (Decimal.formatFloat Decimal.Layout.positional f))
    | d => .error (unconvertible name shape d)
  | .any => .ok input
  | _ => .error (unconvertible name shape input)

/-- The key of a mapping that a field reads: its own name, else one equal to it without
case. -/
def fieldKey? (entries : List (String × Datum)) (field : String) : Option Datum :=
  match entries.lookup field with
  | some d => some d
  | none => (entries.find? fun (k, _) => Text.equalFold k field).map (·.2)

/-- The path of a field under a parent. -/
def fieldPath (parent field : String) : String :=
  if parent.isEmpty then field else parent ++ "." ++ field

/-- **Reads a plain value into a shape, loosely**, starting from the current value; the value
afterwards and the messages. -/
def readLoose : Nat → String → Datum → Shape → Datum → Datum × List String
  | 0, _, _, _, cur => (cur, [])
  | fuel + 1, name, input, shape, cur =>
    match input with
    | .null => (cur, [])
    | _ =>
    let input : Except String Datum :=
      match shape, input with
      | .duration, .str s =>
        match Duration.read s with
        | .ok d => .ok (.int d)
        | .error e => .error ("'" ++ name ++ "' " ++ e)
      | _, _ => .ok input
    match input with
    | .error e => (cur, [e])
    | .ok input =>
    match shape with
    | .record _ fields =>
      match input with
      | .map entries =>
        let start := match cur with
          | .map es => es
          | _ => match shape.zero with
            | .map es => es
            | _ => []
        let (values, msgs) := fields.foldl (fun (acc : List (String × Datum) × List String) (field, fshape) =>
          match fieldKey? entries field with
          | none => acc
          | some raw =>
            let now := (acc.1.lookup field).getD fshape.zero
            let (v, m) := readLoose fuel (fieldPath name field) raw fshape now
            (Datum.setEntry acc.1 field v, acc.2 ++ m)) (start, [])
        (.map values, msgs)
      | .time _ => (cur, [])
      | d => (cur, ["'" ++ name ++ "' expected a map or struct, got '" ++ kindName d ++ "'"])
    | .list _ item =>
      let items : Option (List Datum) := match input with
        | .list xs => some xs
        | .map [] => none
        | d => some [d]
      match items with
      | none => (.list [], [])
      | some xs =>
        let old : List Datum := match cur with
          | .list ys => ys.take xs.length
          | _ => []
        let (out, msgs) := xs.zipIdx.foldl (fun (acc : List Datum × List String) (x, i) =>
          let now := acc.1.getD i item.zero
          let (v, m) := readLoose fuel (name ++ "[" ++ toString i ++ "]") x item now
          let filled := if acc.1.length ≤ i then acc.1 ++ [v] else acc.1.set i v
          (filled, acc.2 ++ m)) (old, [])
        (.list out, msgs)
    | _ =>
      match scalarLoose name shape input with
      | .ok d => (d, [])
      | .error e => (cur, [e])

/-- The error for messages of loose reading. -/
def looseMessage (msgs : List String) : String :=
  "decoding failed due to the following error(s):\n\n" ++ "\n".intercalate msgs

end Conveyor.Settings
