import Conveyor.Json.Map
import Conveyor.Processor.Remote
/-!
# The control plane

The engine answers two questions over gRPC: a snapshot of its state, and whether it is
serving.

A snapshot is a map of fields that the engine hands over; it travels as a protobuf `Struct`,
so the client gets it back as a map holds it (`Json.asMapValue`): keys sorted, the last of
repeated keys kept, and every number as a double. A number beyond the largest double, or a
field of a type that a `Struct` cannot hold, fails the snapshot with `Internal`; so does a
failing snapshot function, with its own text, and with no pipeline running the answer is
`Unavailable`.

The health service reports `NOT_SERVING` until the engine says otherwise. A client is made
for a target that reads as gRPC reads targets (`Remote.targetProblem`).
-/

namespace Conveyor.Control

/-- The service of the control plane. -/
def serviceName : String := "kafkabasic.control.v1.Control"

/-- The method of a snapshot request. -/
def snapshotMethod : String := "/" ++ serviceName ++ "/Snapshot"

/-- A snapshot as the engine hands it over: fields of JSON values, and perhaps one field
holding a value of a type that no encoding carries, named by that type. -/
structure Snapshot where
  fields : List (ByteArray × Json)
  foreign : Option (String × String) := none

/-- The fault of protobuf, in its own words. -/
def protoFault (why : String) : String := "proto: " ++ why

mutual

/-- **A value as a `Struct` carries it**: numbers read as doubles; a number beyond the
largest double is refused. -/
def carry : Json → Except String Json
  | .number lit => match Decimal.readFloat lit with
    | .ok f => .ok (.number (Decimal.formatFloat Decimal.Layout.json f))
    | .error e => .error (protoFault ("invalid number: strconv.ParseFloat: parsing " ++
        Text.quote lit ++ ": " ++ e.words))
  | .array xs => .array <$> carryItems xs
  | .object ms => (.object ∘ Json.asMap) <$> carryMembers ms
  | j => .ok j

/-- `carry` on each item, in order. -/
def carryItems : List Json → Except String (List Json)
  | [] => .ok []
  | x :: xs => do return (← carry x) :: (← carryItems xs)

/-- `carry` on each member's value, in order, skipping a member that a later one of the
same key replaces. -/
def carryMembers : List (ByteArray × Json) → Except String (List (ByteArray × Json))
  | [] => .ok []
  | (k, v) :: ms =>
    if ms.any (fun m => Json.sameBytes m.1 k) then carryMembers ms
    else do return (k, ← carry v) :: (← carryMembers ms)

end

/-- **Encoding a snapshot** as a `Struct`, as the client reads it back. -/
def Snapshot.encode (s : Snapshot) : Except String Json := do
  let fields := match s.foreign with
    | some (k, _) => s.fields.filter fun (k', _) => !Json.sameBytes k' k.toUTF8
    | none => s.fields
  let carried ← carryMembers fields
  match s.foreign with
  | some (_, type) => .error (protoFault ("invalid type: " ++ type))
  | none => .ok (.object (Json.asMap carried))

/-- **The answer to a snapshot request**, given what the snapshot function gave (`none` when
no pipeline runs). -/
def snapshotReply : Option (Except String Snapshot) → Except Fault Json
  | none => .error (.status .unavailable "no pipeline running")
  | some (.error why) => .error (.status .internal why)
  | some (.ok s) => match s.encode with
    | .ok j => .ok j
    | .error why => .error (.status .internal ("encode snapshot: " ++ why))

/-- The serving status the health service reports. -/
structure Health where
  serving : Bool := false

/-- **Asking whether the engine serves**; a request whose context ended fails with the
context's fault. -/
def Health.check (h : Health) (cancelled : Bool) : Except Fault Bool :=
  if cancelled then .error (.status .canceled "context canceled") else .ok h.serving

/-- **Making a client** for a target. -/
def dial (target : String) : Option Fault := (Remote.targetProblem target).map .text

end Conveyor.Control
