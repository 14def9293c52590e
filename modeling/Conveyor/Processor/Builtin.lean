import Conveyor.Record
import Conveyor.Fault
import Conveyor.Log
import Conveyor.Json.Stream
import Conveyor.Json.Write
import Conveyor.Json.Map
import Conveyor.Decimal.Layout
import Conveyor.Decimal.Read
import Conveyor.Text.Case
/-!
# Built-in processors

A processor turns a record into the payload delivered downstream, or fails. The built-in ones:

* `passthrough` forwards the value.
* `uppercase` decodes the value at once into a map (`Json.decodeMap`), marks it with
  `"_transformed":"uppercase"` and writes it again, as a map writes: keys sorted, the last of
  repeated keys kept, numbers read as doubles; a value that is not a JSON object is upper-cased
  as text instead.
* `userdata` reads the value as the first one of a stream (`Json.streamMap`) and reshapes an
  object's `id`, `name` and `email` into `{"userId","displayName","contactInfo":{"email"}}`;
  anything but an object is refused for good.
* `faultdemo` fails for a while on values containing `error`, for good on values containing
  `invalid`, and forwards the rest.
* `txfilter` routes a transaction by its amount to one of three topics.
* `notification` forwards events of priority above five and filters the rest.

The last two read the value as a record with one raw field (`Json.decodeFields`), which skips
other members leniently, and read the field's number from its raw text.
-/

namespace Conveyor

/-- The built-in processors. -/
inductive Builtin where
  | passthrough | uppercase | userdata | faultdemo | txfilter | notification
  deriving DecidableEq, Repr

/-- What one processing call did: the record's route afterwards, the payload or the failure,
and the records it logged. -/
structure Processed where
  route : String
  output : Except Fault (Option ByteArray)
  logs : List Log.Entry := []

namespace Builtin

/-- The name of each processor. -/
def name : Builtin → String
  | .passthrough => "passthrough" | .uppercase => "uppercase" | .userdata => "userdata"
  | .faultdemo => "faultdemo" | .txfilter => "txfilter" | .notification => "notification"

/-- All built-in processors, sorted by name. -/
def all : List Builtin := [.faultdemo, .notification, .passthrough, .txfilter, .uppercase, .userdata]

/-- The names, sorted. -/
def names : List String := all.map name

/-- **Looking up a processor by name**; the failure lists the names there are. -/
def ofName (s : String) : Except Fault Builtin :=
  match all.find? (·.name == s) with
  | some b => .ok b
  | none => .error (.text ("transform: unknown builtin " ++ Text.quote s ++ " (have [" ++
      " ".intercalate names ++ "])"))

/-- Topics of the three transaction tiers. -/
def highTopic : String := "high-amount-transactions"
def mediumTopic : String := "medium-amount-transactions"
def lowTopic : String := "low-amount-transactions"

/-- The mark added to objects. -/
def transformedKey : ByteArray := "_transformed".toUTF8

/-- `uppercase` on a value. -/
def uppercaseValue (v : Option ByteArray) : Option ByteArray :=
  let bs := v.getD ByteArray.empty
  match Json.decodeMap bs with
  | .ok (some ms) =>
    some (Json.write (Json.asMapValue (.object (ms ++ [(transformedKey, Json.text "uppercase")]))))
  | _ => some (Text.upperBytes bs)

/-- A field's text: a string as it is, a number in its own spelling, a truth value in words,
anything else empty. -/
def asText : Option Json → ByteArray
  | some (.string s) => s
  | some (.number lit) => lit.toUTF8
  | some (.bool true) => "true".toUTF8
  | some (.bool false) => "false".toUTF8
  | _ => ByteArray.empty

/-- `userdata` on a record. -/
def userdataOf (r : Record) : Except Fault (Option ByteArray) :=
  match Json.streamMap r.bytes with
  | .error e => .error (.permanent (some (.wrap ("userdata: decode " ++ r.label ++ ": ") (.text e.message))))
  | .ok none => .error (.permanent (some (.text ("userdata: " ++ r.label ++ " is not a JSON object"))))
  | .ok (some ms) =>
    let obj := Json.object ms
    .ok (some (Json.write (.object [
      ("userId".toUTF8, .string (asText (obj.get? "id"))),
      ("displayName".toUTF8, .string (asText (obj.get? "name"))),
      ("contactInfo".toUTF8, .object [("email".toUTF8, .string (asText (obj.get? "email")))])])))

/-- Whether `needle` occurs in `hay`. -/
def containsBytes (hay : ByteArray) (needle : String) : Bool :=
  let n := needle.toUTF8.toList
  let rec go (xs : List UInt8) : Bool :=
    match xs with
    | [] => n.isEmpty
    | _ :: rest => n.isPrefixOf xs || go rest
  go hay.toList

/-- A raw field's number: a JSON number read as a double, or a string whose text reads as one;
`null`, an empty field and anything unreadable count as zero. -/
def asFloat : Option ByteArray → Float
  | none => 0
  | some raw =>
    if raw.size = 0 then 0 else
    match Json.decodeFloat raw with
    | .ok v => v.getD 0
    | .error _ =>
      match Json.decodeString raw with
      | .ok (some s) => match String.fromUTF8? s with
        | some t => (Decimal.readFloat t).toOption.getD 0
        | none => 0
      | _ => 0

/-- The raw text of one field of a payload read as a record, if a member names it. -/
def rawField (r : Record) (field : String) : Except Json.ReadError (Option ByteArray) :=
  (Json.decodeFields [field] r.bytes).map (·.lookup field)

/-- The transaction tier of an amount. -/
def tier (amount : Float) : String :=
  if amount >= 1000000.0 then highTopic else if amount >= 100000.0 then mediumTopic else lowTopic

/-- **Running a built-in processor** on a record. -/
def run (b : Builtin) (r : Record) : Processed :=
  match b with
  | .passthrough => ⟨r.route, .ok r.value, []⟩
  | .uppercase => ⟨r.route, .ok (uppercaseValue r.value), []⟩
  | .userdata => ⟨r.route, userdataOf r, []⟩
  | .faultdemo =>
    if containsBytes r.bytes "error" then
      ⟨r.route, .error (.transient (some (.text ("faultdemo: failed to process " ++ r.label)))), []⟩
    else if containsBytes r.bytes "invalid" then
      ⟨r.route, .error (.permanent (some (.text ("faultdemo: invalid message " ++ r.label)))), []⟩
    else ⟨r.route, .ok r.value, []⟩
  | .txfilter =>
    let amount := match rawField r "amount" with
      | .ok raw => asFloat raw
      | .error _ => 0
    ⟨tier amount, .ok r.value, []⟩
  | .notification =>
    match rawField r "priority" with
    | .error e =>
      ⟨r.route, .error (.sentinel .filtered),
        [⟨.warn, "notification: unreadable event", [("msg", .str r.label), ("err", .str e.message)]⟩]⟩
    | .ok p =>
      if Binary.toInt64 (asFloat p) ≤ 5 then ⟨r.route, .error (.sentinel .filtered), []⟩
      else ⟨r.route, .ok r.value,
        [⟨.info, "important event", [("msg", .str r.label), ("priority", .str (Utf8.lossy (p.getD ByteArray.empty)))]⟩]⟩

end Builtin

end Conveyor
