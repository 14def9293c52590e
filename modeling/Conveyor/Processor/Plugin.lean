import Conveyor.Record
import Conveyor.Fault
import Conveyor.Decimal.Integer
import Conveyor.Text.Utf8
/-!
# The plugin protocol

A processor can run in another process and be called over gRPC. One call carries the record's
value as the request and its position as metadata:

* `x-kafka-topic`, `x-kafka-partition`, `x-kafka-offset` and `x-attempt` as text;
* `x-kafka-key-bin`, the key's bytes, only when the record has a key.

The serving side rebuilds a record from the first value of each key: a missing key, or a
number that does not read (in base ten, within 32 bits for the partition and 64 bits
otherwise), leaves the field at zero; the key is set whenever its metadata is present, even
empty. Headers and the route do not travel.

It answers with the output, and in the reply's header `x-route-topic` when the processor
picked a route, or `x-filtered: true` when it filtered the record. A failure travels as a
status: a status keeps its code (with the whole text when wrapped), a passed deadline is
`DeadlineExceeded`, a failure not to be retried is `InvalidArgument`, and anything else is
`Unavailable`.

An empty value is not sent at all, so it arrives as no value. Before a call leaves, its
metadata is checked: keys are `[0-9a-z-_.]`, and a value of a key that does not end in `-bin`
is printable ASCII; a call that breaks this fails with `Internal` and is never sent.
-/

namespace Conveyor.Plugin

/-- The service a plugin serves. -/
def serviceName : String := "kafkabasic.transform.v1.TransformService"

/-- The method of one call. -/
def transformMethod : String := "/" ++ serviceName ++ "/Transform"

/-- The method of a health check. -/
def healthMethod : String := "/grpc.health.v1.Health/Check"

/-- Metadata keys. -/
def topicKey : String := "x-kafka-topic"
def partitionKey : String := "x-kafka-partition"
def offsetKey : String := "x-kafka-offset"
def keyKey : String := "x-kafka-key-bin"
def attemptKey : String := "x-attempt"
def routeKey : String := "x-route-topic"
def filteredKey : String := "x-filtered"

/-- Metadata: keys, each with its values in order. -/
abbrev Metadata := List (String × ByteArray)

/-- The values of a key. -/
def Metadata.values (md : Metadata) (key : String) : List ByteArray :=
  (md.filter (·.1 == key)).map (·.2)

/-- One call: its metadata and its value. -/
structure Call where
  metadata : Metadata
  value : Option ByteArray

/-- What comes back from a call. -/
inductive Reply where
  /-- The call failed with a status. -/
  | failed (code : StatusCode) (message : String)
  /-- The call was answered, with the reply's header. -/
  | answered (value : Option ByteArray) (header : Metadata)

/-- Bytes as they arrive: empty bytes are not sent, and arrive as none. -/
def carried (v : Option ByteArray) : Option ByteArray := v.filter (·.size > 0)

/-- A key's problem, if it has one. -/
def keyProblem (key : String) (vals : List ByteArray) : Option String :=
  if key.isEmpty then some "there is an empty key in the header"
  else if !key.all (fun c => ('a' ≤ c && c ≤ 'z') || c.isDigit || c == '.' || c == '-' || c == '_') then
    some ("header key " ++ Text.quote key ++ " contains illegal characters not in [0-9a-z-_.]")
  else if key.endsWith "-bin" then none
  else if vals.any (fun v => v.data.any fun b => b < 0x20 || b > 0x7E) then
    some ("header key " ++ Text.quote key ++ " contains value with non-printable ASCII characters")
  else none

/-- **Checking metadata** before a call leaves: the first problem, keys in order. -/
def metadataProblem (md : Metadata) : Option String :=
  let keys := (md.map (·.1)).eraseDups.mergeSort fun a b => decide (a ≤ b)
  keys.findSome? fun k => keyProblem k (md.values k)

/-- **The call for a record.** -/
def callOf (m : Record) : Call :=
  let md : Metadata :=
    [(topicKey, m.topic.toUTF8), (partitionKey, (toString m.partition).toUTF8),
     (offsetKey, (toString m.offset).toUTF8), (attemptKey, (toString m.attempts).toUTF8)]
  { metadata := md ++ (m.key.map fun k => [(keyKey, k)]).getD [], value := carried m.value }

/-- A number read from a key's first value, in base ten within `bits` bits. -/
def numberAt (md : Metadata) (key : String) (bits : Nat) : Option Int :=
  (md.values key).head?.bind fun v => (Decimal.readInteger (Utf8.lossy v) 10 bits).toOption

/-- **The record a call stands for**, as the serving side rebuilds it. -/
def recordOf (c : Call) : Record :=
  let md := c.metadata
  { topic := ((md.values topicKey).head?.map Utf8.lossy).getD "",
    partition := (numberAt md partitionKey 32).getD 0, offset := (numberAt md offsetKey 64).getD 0,
    attempts := (numberAt md attemptKey 64).getD 0, key := (md.values keyKey).head?,
    value := c.value }

/-- **The status of a failure**: its code and message. -/
def statusOf (f : Fault) : StatusCode × String :=
  match f with
  | .status code d => (code, d)
  | _ =>
    match f.status? with
    | some code => (code, f.message)
    | none =>
      if f.isa .deadlineExceeded then (.deadlineExceeded, f.message)
      else if f.isPermanent then (.invalidArgument, f.message)
      else (.unavailable, f.message)

/-- **The reply** to a call whose processor picked `route` and produced `out`. -/
def replyOf (route : String) (out : Except Fault (Option ByteArray)) : Reply :=
  match out with
  | .error f =>
    if f.isa .filtered then .answered none [(filteredKey, "true".toUTF8)]
    else
      let (code, message) := statusOf f
      .failed code message
  | .ok v => .answered (carried v) (if route.isEmpty then [] else [(routeKey, route.toUTF8)])

/-- **The outcome of a call** for the caller: the route (the record's own unless the reply
names one) and the output or failure. -/
def outcomeOf (m : Record) : Reply → String × Except Fault (Option ByteArray)
  | .failed code message => (m.route, .error (.status code message))
  | .answered v header =>
    if !(header.values filteredKey).isEmpty then (m.route, .error (.sentinel .filtered))
    else (((header.values routeKey).head?.map Utf8.lossy).getD m.route, .ok v)

/-- **A call** through a transport: checked first, sent only when its metadata passes. -/
def invoke {n : Type → Type} [Monad n] (send : Call → n Reply) (c : Call) : n Reply :=
  match metadataProblem c.metadata with
  | some why => pure (.failed .internal why)
  | none => send c

/-- **Processing a record remotely** through a transport: its call, then the outcome of the
reply. -/
def process {n : Type → Type} [Monad n] (send : Call → n Reply) (m : Record) :
    n (String × Except Fault (Option ByteArray)) := do
  return outcomeOf m (← invoke send (callOf m))

/-- **The serving side** of a call, for a processor that answers, for a record, the route it
picked and what it produced: the record is rebuilt from the call, processed, and replied to. -/
def serve (respond : Record → String × Except Fault (Option ByteArray)) (c : Call) : Reply :=
  let (route, out) := respond (recordOf c)
  replyOf route out

/-- The fault of a health check that was answered with a status name. -/
def healthFault (status : String) : Option Fault :=
  if status == "SERVING" then none else some (.text ("transform: plugin is " ++ status))

end Conveyor.Plugin
