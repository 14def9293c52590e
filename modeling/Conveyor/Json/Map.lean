import Conveyor.Json.Value
import Conveyor.Json.Write
import Conveyor.Decimal.Layout
import Conveyor.Decimal.Read
/-!
# JSON values as a map holds them

A reader that decodes JSON into dynamic maps and doubles loses what a map cannot keep: the
order of an object's members, all but the last of repeated keys, and a number's own spelling.
Writing such a value again sorts the members by their keys as written, quotes and escapes
included (so `"a!"` comes before `"a"`, since `!` is below the closing quote), and writes each
number as the double it read as. `asMapValue` gives the value that such a round trip writes.
-/

namespace Conveyor.Json

/-- A key as it is written: quoted and escaped. -/
def writtenKey (k : ByteArray) : ByteArray := quoteInto ByteArray.empty k

/-- Object members as a map holds them: the last of repeated keys kept, sorted by their keys
as written. -/
def asMap (ms : List (ByteArray × Json)) : List (ByteArray × Json) :=
  let kept := ms.foldl (fun acc (k, v) => (acc.filter fun (k', _) => !sameBytes k k') ++ [(k, v)]) []
  kept.mergeSort fun a b => !bytesLt (writtenKey b.1) (writtenKey a.1)

mutual

/-- A JSON value as a map holds it: objects as `asMap`, numbers read as doubles and written
again, at every depth. -/
def asMapValue : Json → Json
  | .number lit => match Decimal.readFloat lit with
    | .ok f => .number (Decimal.formatFloat Decimal.Layout.json f)
    | .error _ => .number lit
  | .array xs => .array (asMapItems xs)
  | .object ms => .object (asMap (asMapMembers ms))
  | j => j

/-- `asMapValue` on each item. -/
def asMapItems : List Json → List Json
  | [] => []
  | x :: xs => asMapValue x :: asMapItems xs

/-- `asMapValue` on each member's value. -/
def asMapMembers : List (ByteArray × Json) → List (ByteArray × Json)
  | [] => []
  | (k, v) :: ms => (k, asMapValue v) :: asMapMembers ms

end

end Conveyor.Json
