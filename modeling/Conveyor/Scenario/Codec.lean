import Conveyor.Json.Value
import Conveyor.Text.Base64
import Conveyor.Text.Utf8
import Conveyor.Fault
import Conveyor.Record
import Conveyor.Decimal.Layout
import Conveyor.Decimal.Read
import Conveyor.Json.Write
/-!
# Scenario encodings

A scenario is a JSON description of calls on one part of the engine, run against scripted
collaborators; its answer is a JSON account of what happened. This module holds the encodings
that all scenarios share:

* byte strings: a JSON string for UTF-8 bytes, `{"base64": ...}` for any bytes, `null` for
  no bytes at all;
* faults, described by their kind and parts, and answered with their text, the fixed
  failures and kinds they hold, and the two retry verdicts;
* records, described by their fields and answered with their label too.

A field that a description leaves out takes the zero of its type.
-/

namespace Conveyor.Scenario

open Conveyor.Json

/-- A text field, or `dflt` when absent or not text. -/
def str (j : Json) (key : String) (dflt : String := "") : String :=
  ((j.get? key).bind Json.str?).getD dflt

/-- An integer field, or `dflt`. Fractional numbers are cut toward zero. -/
def int (j : Json) (key : String) (dflt : Int := 0) : Int :=
  match j.get? key with
  | some (.number lit) => match lit.toInt? with
    | some n => n
    | none => match Decimal.readFloat lit with
      | .ok f => if f.isNaN then dflt else (if f < 0 then -((-f).floor.toUInt64.toNat : Int) else f.floor.toUInt64.toNat)
      | .error _ => dflt
  | _ => dflt

/-- A natural-number field, or `dflt`. -/
def nat (j : Json) (key : String) (dflt : Nat := 0) : Nat := (int j key dflt).toNat

/-- A truth field, or `dflt`. -/
def flag (j : Json) (key : String) (dflt : Bool := false) : Bool :=
  ((j.get? key).bind Json.bool?).getD dflt

/-- A field that is present and not `null`. -/
def given (j : Json) (key : String) : Option Json :=
  match j.get? key with
  | some .null => none
  | other => other

/-- A number field read as a double, or `dflt`. -/
def float (j : Json) (key : String) (dflt : Float := 0) : Float :=
  match j.get? key with
  | some (.number lit) => match Decimal.readFloat lit with
    | .ok f => f
    | .error _ => dflt
  | _ => dflt

/-- Milliseconds in a field, as nanoseconds. -/
def millis (j : Json) (key : String) : Int := int j key * 1000000

/-- The environment of a scenario. -/
def envOf (j : Json) : List (String × String) :=
  ((j.get? "env").map Json.members).getD [] |>.filterMap fun (k, v) => v.str?.map (k, ·)

/-- A list field. -/
def list (j : Json) (key : String) : List Json := ((j.get? key).map Json.items).getD []

/-- A list of text. -/
def strs (j : Json) (key : String) : List String := (list j key).filterMap Json.str?

/-- **Bytes in a description**: a string's UTF-8, decoded base64, or none. -/
def bytesOf : Json → Option ByteArray
  | .string s => some s
  | j => match j.get? "base64" with
    | some b => b.str?.bind Text.Base64.decode
    | none => none

/-- A bytes field; absent is none. -/
def bytes (j : Json) (key : String) : Option ByteArray := (j.get? key).bind bytesOf

/-- **Bytes in an answer**: `null` for none, a string for UTF-8, base64 otherwise. -/
def bytesJson : Option ByteArray → Json
  | none => .null
  | some bs => if Utf8.isValid bs then .string bs else Json.obj [("base64", Json.text (Text.Base64.encode bs))]

/-- A double in an answer, in its shortest digits. -/
def floatJson (f : Float) : Json := .number (Decimal.formatFloat Decimal.Layout.json f)

/-- The cause of a described fault: its `inner` description when given, else a plain fault
with its `msg`, else none. -/
def causeOf (build : Json → Option Fault) (j : Json) : Option Fault :=
  match given j "inner" with
  | some inner => build inner
  | none => if (str j "msg").isEmpty then none else some (.text (str j "msg"))

/-- The broker failure of a name. -/
def brokerOf : String → Option BrokerFault
  | "ErrMessageSizeTooLarge" => some .messageTooLarge
  | "ErrInvalidMessage" => some .invalidMessage
  | "ErrInvalidTopic" => some .invalidTopic
  | "ErrTopicAuthorizationFailed" => some .topicAuthorizationFailed
  | "ErrNotLeaderForPartition" => some .notLeaderForPartition
  | "ErrRequestTimedOut" => some .requestTimedOut
  | "ErrOutOfBrokers" => some .outOfBrokers
  | "ErrUnknownTopicOrPartition" => some .unknownTopicOrPartition
  | "ErrTopicAlreadyExists" => some .topicAlreadyExists
  | _ => none

/-- Builds the fault a description stands for, fuel bounding its nesting. -/
def faultWith (fuel : Nat) (j : Json) : Option Fault :=
  match fuel with
  | 0 => none
  | fuel + 1 =>
    let build := faultWith fuel
    let msg := str j "msg"
    match str j "kind" "plain" with
    | "nil" => none
    | "permanent" => match given j "inner" with
      | some inner => (build inner).map (.permanent ∘ some)
      | none => some (.permanent (if msg.isEmpty then none else some (.text msg)))
    | "retriable" => match given j "inner" with
      | some inner => (build inner).map (.transient ∘ some)
      | none => some (.transient (if msg.isEmpty then none else some (.text msg)))
    | "marked" => some (.verdict msg (str j "code" == "true"))
    | "deadline" => some (.sentinel .deadlineExceeded)
    | "canceled" => some (.sentinel .canceled)
    | "net_timeout" => some (.network msg true)
    | "net" => some (.network msg false)
    | "grpc" => match StatusCode.ofName? (str j "code") with
      | some .ok => none
      | some c => some (.status c msg)
      | none => some (.status .unknown msg)
    | "filtered" => some (.sentinel .filtered)
    | "abandoned" => some (.sentinel .abandoned)
    | "sink_permanent" => (causeOf build j).map .undeliverable
    | "delivery" => some (.delivery (str j "name") (causeOf build j))
    | "open" => some (.circuitOpen (str j "name") (millis j "remaining_ms"))
    | "order_violation" =>
      some (.outOfOrder (str j "topic") (int j "partition") (int j "offset") msg)
    | "sarama" => (brokerOf (str j "name")).map .broker
    | "wrap" => match causeOf build j with
      | some c => some (.wrap (msg ++ ": ") c)
      | none => some (.text (msg ++ ": %!w(<nil>)"))
    | "join" => Fault.join ((list j "list").map build)
    | _ => some (.text msg)

/-- **The fault a description stands for**, none for no fault. -/
def faultOf (j : Json) : Option Fault := faultWith (Utf8.lossy (Json.write j)).length j

/-- A fault in a list; `null` is no fault. -/
def faultItem : Json → Option Fault
  | .null => none
  | j => faultOf j

/-- A fault field; absent or `null` is no fault. -/
def fault (j : Json) (key : String) : Option Fault := (given j key).bind faultOf

/-- The names of the fixed failures and kinds a fault holds, sorted. -/
def tags (f : Fault) : List String :=
  let sentinels : List (String × Sentinel) :=
    [("abandoned", .abandoned), ("breaker_open", .breakerOpen), ("context_canceled", .canceled),
     ("context_deadline", .deadlineExceeded), ("dead_letter_failed", .deadLetterFailed),
     ("filtered", .filtered), ("limiter_closed", .limiterClosed),
     ("order_violation", .orderViolation), ("retry_deadline", .deadlinePassed),
     ("retry_exhausted", .exhausted), ("retry_interrupted", .interrupted)]
  let kinds : List (String × FaultKind) :=
    [("type:permanent", .permanent), ("type:retriable", .transient),
     ("type:sink_permanent", .undeliverable), ("type:delivery", .delivery),
     ("type:open", .circuitOpen), ("type:order_violation", .outOfOrder)]
  let names := (sentinels.filter fun (_, s) => f.isa s).map (·.1) ++
    (kinds.filter fun (_, k) => f.holds k).map (·.1)
  names.mergeSort fun a b => decide (a ≤ b)

/-- **A fault in an answer**: `null` for none. -/
def faultJson : Option Fault → Json
  | none => .null
  | some f =>
    Json.obj ([("message", Json.text f.message), ("is", Json.list Json.text (tags f)),
      ("classify", .bool f.classify), ("retry_retriable", .bool f.retriable)] ++
      match f.status? with
      | some c => [("grpc_code", Json.text c.name)]
      | none => [])

/-- Headers in a description: an object of bytes, or `null` for none. -/
def headersOf (j : Json) : Option Headers :=
  match j with
  | .object _ => some (Headers.ofList (j.members.map fun (k, v) => (k, bytesOf v)))
  | _ => none

/-- **A record from its description.** -/
def recordOf (j : Json) : Record where
  topic := str j "topic" "t"
  partition := int j "partition"
  offset := int j "offset"
  key := bytes j "key"
  value := bytes j "value"
  headers := (j.get? "headers").bind headersOf
  attempts := int j "attempts"
  route := str j "route"

/-- Headers in an answer. -/
def headersJson : Option Headers → Json
  | none => .null
  | some hs => Json.obj (hs.map fun (k, v) => (k, bytesJson v))

/-- **A record in an answer.** -/
def recordJson (r : Record) : Json :=
  Json.obj [("topic", Json.text r.topic), ("partition", Json.int r.partition),
    ("offset", Json.int r.offset), ("key", bytesJson r.key), ("value", bytesJson r.value),
    ("headers", headersJson r.headers), ("attempts", Json.int r.attempts),
    ("route", Json.text r.route), ("string", Json.text r.label)]

/-- An answer that reports a malformed description. -/
def badInput (why : String) : Json := Json.obj [("error", Json.text "bad_input"), ("message", Json.text why)]

end Conveyor.Scenario
