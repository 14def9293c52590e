import Conveyor.Decimal.Layout
import Conveyor.Yaml.Timestamp
import Conveyor.Text.Quoted
/-!
# Plain data

The values a YAML document holds when no type is asked for: null, booleans, whole numbers
(signed 64-bit, or unsigned beyond that range), doubles, strings, timestamps, lists, and maps
from strings to values in the order their keys were first written.

Each value has a *general text*: a whole number in decimal, a double in its shortest digits
(in exponent form below `1e-4` and from `1e21` on), `true`/`false`, `<nil>` for null, a
timestamp as `Timestamp.text` shows it, a list as `[a b]` and a map as `map[k:v]` with its keys
sorted. It also has a *syntax text*, the way a value is written in source:
`[]interface {}{"a", 1.5, interface {}(nil)}`, `map[string]interface {}{"k":true}`, strings
quoted, unsigned numbers in hex.
-/

namespace Conveyor.Yaml

/-- A plain data value. -/
inductive Datum where
  | null
  | bool (b : Bool)
  /-- A whole number in the signed 64-bit range. -/
  | int (n : Int)
  /-- A whole number beyond the signed 64-bit range, below `2^64`. -/
  | uint (n : Nat)
  | float (f : Float)
  | str (s : String)
  | time (t : Timestamp)
  | list (items : List Datum)
  | map (entries : List (String × Datum))
  deriving Inhabited

namespace Datum

/-- The value of a key in a map, if there is one. -/
def get? (d : Datum) (key : String) : Option Datum :=
  match d with
  | .map entries => entries.lookup key
  | _ => none

/-- Sets a key of a map, in place if it is there, else at the end. -/
def setEntry (entries : List (String × Datum)) (key : String) (v : Datum) :
    List (String × Datum) :=
  if entries.any (·.1 == key) then entries.map fun (k, old) => if k == key then (k, v) else (k, old)
  else entries ++ [(key, v)]

/-- A whole-number field of a map; zero when absent or of another kind. -/
def intAt (d : Datum) (key : String) : Int :=
  match d.get? key with
  | some (.int n) => n
  | _ => 0

/-- A double field of a map; zero when absent or of another kind. -/
def floatAt (d : Datum) (key : String) : Float :=
  match d.get? key with
  | some (.float f) => f
  | _ => 0

/-- A string field of a map; empty when absent or of another kind. -/
def strAt (d : Datum) (key : String) : String :=
  match d.get? key with
  | some (.str s) => s
  | _ => ""

/-- A boolean field of a map; false when absent or of another kind. -/
def boolAt (d : Datum) (key : String) : Bool :=
  match d.get? key with
  | some (.bool b) => b
  | _ => false

/-- A field of a map; null when absent. -/
def field (d : Datum) (key : String) : Datum := (d.get? key).getD .null

/-- The items of a list field, or none when it is not a list. -/
def listAt (d : Datum) (key : String) : Option (List Datum) :=
  match d.get? key with
  | some (.list xs) => some xs
  | _ => none

/-- A list of strings, or none when it is not a list. -/
def strsAt (d : Datum) (key : String) : Option (List String) :=
  (d.listAt key).map fun xs => xs.map fun
    | .str s => s
    | _ => ""

/-- Whether a value is null. -/
def isNull : Datum → Bool
  | .null => true
  | _ => false

/-- Sorts strings in byte order. -/
def sortKeys (ks : List (String × String)) : List (String × String) :=
  ks.mergeSort fun a b => decide (a.1.toUTF8.toList ≤ b.1.toUTF8.toList)

/-- **The general text of a value.** -/
def text : Datum → String
  | .null => "<nil>"
  | .bool b => if b then "true" else "false"
  | .int n => toString n
  | .uint n => toString n
  | .float f => Decimal.formatFloat Decimal.Layout.general f
  | .str s => s
  | .time t => t.text
  | .list items => "[" ++ " ".intercalate (items.attach.map fun ⟨d, _⟩ => d.text) ++ "]"
  | .map entries =>
    let shown := entries.attach.map fun ⟨(k, d), _⟩ => (k, d.text)
    "map[" ++ " ".intercalate ((sortKeys shown).map fun (k, v) => k ++ ":" ++ v) ++ "]"
decreasing_by
  all_goals
    have h := List.sizeOf_lt_of_mem ‹_ ∈ _›
    (try simp only [Prod.mk.sizeOf_spec] at h)
    (try simp only [Datum.list.sizeOf_spec, Datum.map.sizeOf_spec])
    omega

/-- A number in lower-case hex. -/
def hexText (n : Nat) : String := String.ofList (Nat.toDigits 16 n)

/-- **The syntax text of a value**, as it stands inside a list or map of anything. -/
def goText : Datum → String
  | .null => "interface \x7b\x7d(nil)"
  | .bool b => if b then "true" else "false"
  | .int n => toString n
  | .uint n => "0x" ++ hexText n
  | .float f => Decimal.formatFloat Decimal.Layout.general f
  | .str s => Text.quote s
  | .time t => t.goText
  | .list items =>
    "[]interface \x7b\x7d\x7b" ++ ", ".intercalate (items.attach.map fun ⟨d, _⟩ => d.goText) ++ "\x7d"
  | .map entries =>
    let shown := entries.attach.map fun ⟨(k, d), _⟩ => (k, d.goText)
    "map[string]interface \x7b\x7d\x7b" ++
      ", ".intercalate ((sortKeys shown).map fun (k, v) => Text.quote k ++ ":" ++ v) ++ "\x7d"
decreasing_by
  all_goals
    have h := List.sizeOf_lt_of_mem ‹_ ∈ _›
    (try simp only [Prod.mk.sizeOf_spec] at h)
    (try simp only [Datum.list.sizeOf_spec, Datum.map.sizeOf_spec])
    omega

end Datum

end Conveyor.Yaml
