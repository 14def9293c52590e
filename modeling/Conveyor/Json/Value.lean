/-!
# JSON values

A JSON value as the engine reads and writes payloads. Numbers keep the text they were written
with, since some readers keep a number's own spelling and others read it as a double. Strings
are byte strings: text read from a payload may hold bytes that are not UTF-8, and they must
survive until the value is written again. Object members keep their order.
-/

namespace Conveyor

/-- A JSON value. -/
inductive Json where
  | null
  | bool (b : Bool)
  /-- A number with the text it was written with. -/
  | number (literal : String)
  /-- A string, as bytes. -/
  | string (bytes : ByteArray)
  | array (items : List Json)
  /-- An object's members in order; a key may repeat. -/
  | object (members : List (ByteArray × Json))

namespace Json

instance : Inhabited Json := ⟨.null⟩

/-- Byte strings compared by their bytes. -/
def sameBytes (a b : ByteArray) : Bool := a.data == b.data

/-- Byte strings in the order of their bytes. -/
def bytesLt (a b : ByteArray) : Bool := decide (a.toList < b.toList)

/-- A string value from text. -/
def text (s : String) : Json := .string s.toUTF8

/-- An integer value. -/
def int (n : Int) : Json := .number (toString n)

/-- A natural-number value. -/
def nat (n : Nat) : Json := .number (toString n)

/-- An object from text keys. -/
def obj (members : List (String × Json)) : Json :=
  .object (members.map fun (k, v) => (k.toUTF8, v))

/-- An optional value, `null` when absent. -/
def opt {α : Type} (f : α → Json) : Option α → Json
  | some a => f a
  | none => .null

/-- A list of values. -/
def list {α : Type} (f : α → Json) (xs : List α) : Json := .array (xs.map f)

/-- The last member named `key`, the one that a reader into a map keeps. -/
def get? (j : Json) (key : String) : Option Json :=
  match j with
  | .object ms =>
    let k := key.toUTF8
    ms.foldl (fun acc (k', v) => if sameBytes k k' then some v else acc) none
  | _ => none

/-- Whether an object has a member named `key`. -/
def has (j : Json) (key : String) : Bool := (j.get? key).isSome

/-- The members of an object with text keys. -/
def members (j : Json) : List (String × Json) :=
  match j with
  | .object ms => ms.map fun (k, v) => (String.fromUTF8! k, v)
  | _ => []

/-- The items of an array, none for anything else. -/
def items (j : Json) : List Json :=
  match j with
  | .array xs => xs
  | _ => []

/-- The text of a string value. -/
def str? (j : Json) : Option String :=
  match j with
  | .string b => String.fromUTF8? b
  | _ => none

/-- The integer a number's text denotes, when it is written as one. -/
def int? (j : Json) : Option Int :=
  match j with
  | .number lit => lit.toInt?
  | _ => none

/-- A truth value. -/
def bool? (j : Json) : Option Bool :=
  match j with
  | .bool b => some b
  | _ => none

/-- Whether a value is `null`. -/
def isNull (j : Json) : Bool :=
  match j with
  | .null => true
  | _ => false

end Json

end Conveyor
