import Conveyor.Scenario.Pipeline
import Conveyor.Processor.Plugin
/-!
# Plugin scenarios

A plugin scenario serves a built-in processor, or a script, as a plugin in the same process,
and calls it as a remote processor would: with records, with raw calls that carry exactly the
metadata given, and with health checks. The serving side records the record it rebuilt from
each call, and, when asked, the method of every call that reached it.

A script plays one action per call, the last one repeating; no actions echo the value.
-/

namespace Conveyor.Scenario

open Conveyor.Json Pipeline

/-- What serves the calls: a built-in processor, or a script. -/
inductive PluginProcessor where
  | builtin (b : Builtin)
  | scripted (script : List StepAction)

/-- The serving side: its processor, the calls it had, the record of the last one, and the
methods it saw. -/
structure PluginWorld where
  processor : PluginProcessor
  record : Bool
  calls : Nat := 0
  seen : Option Record := none
  intercepted : List String := []

/-- Notes a method that reached the server, when methods are recorded. -/
def intercept (method : String) : StateM PluginWorld Unit :=
  modify fun w => if w.record then { w with intercepted := w.intercepted ++ [method] } else w

/-- What the serving side's processor answers for a record at its `k`-th call. -/
def PluginProcessor.respond (p : PluginProcessor) (k : Nat) (m : Record) :
    String × Except Fault (Option ByteArray) :=
  match p with
  | .builtin b =>
    let p := b.run m
    (p.route, p.output)
  | .scripted script =>
    let a : StepAction := if script.isEmpty then { echo := true } else nthOrLast script k
    match a.play m with
    | (route, .output v) => (route, .ok v)
    | (route, .failure f) => (route, .error f)
    | (route, .panicked what) => (route, .error (.text what))

/-- **Serving a call**: rebuild the record, run the processor, reply. -/
def serveCall (c : Plugin.Call) : StateM PluginWorld Plugin.Reply := do
  intercept Plugin.transformMethod
  let w ← get
  set { w with calls := w.calls + 1, seen := some (Plugin.recordOf c) }
  return Plugin.serve (w.processor.respond w.calls) c

/-- The record last served, in an answer. -/
def seenJson (seen : Option Record) : Json := (seen.map recordJson).getD .null

/-- One call with a record. -/
def pluginCall (j : Json) : StateM PluginWorld Json := do
  modify fun w => { w with seen := none }
  let m := recordOf j
  let (route, out) ← Plugin.process serveCall m
  let err := match out with
    | .error f => some f
    | .ok _ => none
  return Json.obj [("output", match out with
      | .ok v => bytesJson v
      | .error _ => .null),
    ("route", Json.text route), ("err", faultJson err),
    ("filtered", .bool ((err.map (·.isa .filtered)).getD false)), ("seen", seenJson (← get).seen)]

/-- Values of a key in a reply's header, in an answer. -/
def headerValuesJson (header : Plugin.Metadata) (key : String) : Json :=
  match header.values key with
  | [] => .null
  | vs => Json.list (fun v => Json.text (Utf8.lossy v)) vs

/-- One raw call with its metadata. -/
def pluginRawCall (j : Json) : StateM PluginWorld Json := do
  modify fun w => { w with seen := none }
  let md : Plugin.Metadata := ((j.get? "metadata").map Json.members).getD [] |>.filterMap fun (k, v) =>
    v.str?.map fun s => (Text.lowerText k, s.toUTF8)
  let reply ← Plugin.invoke serveCall { metadata := md, value := Plugin.carried (bytes j "value") }
  let seen := seenJson (← get).seen
  return match reply with
    | .failed code message =>
      Json.obj [("output", .null), ("err", faultJson (some (.status code message))), ("seen", seen),
        ("route_header", .null), ("filtered_header", .null)]
    | .answered v header =>
      Json.obj [("output", bytesJson v), ("err", .null), ("seen", seen),
        ("route_header", headerValuesJson header Plugin.routeKey),
        ("filtered_header", headerValuesJson header Plugin.filteredKey)]

/-- A plugin scenario. -/
def pluginScenario (j : Json) : Json :=
  if j.has "bad_target" then
    Json.obj [("err", faultJson (match Remote.dial (str j "bad_target") 0 with
      | .error f => some f
      | .ok _ => none))]
  else if flag j "zero_close" then Json.obj [("close_err", .null)]
  else
    let processor : Except Fault PluginProcessor :=
      match given j "builtin" with
      | some b => (Builtin.ofName ((b.str?).getD "")).map .builtin
      | none => .ok (.scripted ((list j "script").map stepActionOf))
    match processor with
    | .error f => Json.obj [("error", Json.text "unknown_builtin"), ("message", Json.text f.message)]
    | .ok processor =>
      let go : StateM PluginWorld (List (String × Json)) := do
        let health ←
          if flag j "health_cancelled" then
            pure [("health_err", faultJson (some (.status .canceled "context canceled")))]
          else if flag j "check_health" then do
            intercept Plugin.healthMethod
            pure [("health_err", faultJson (Plugin.healthFault (str j "health" "SERVING")))]
          else pure []
        let results ← (list j "calls").mapM pluginCall
        let raw ← if j.has "raw_calls" then do
            pure [("raw_results", Json.array (← (list j "raw_calls").mapM pluginRawCall))]
          else pure []
        let w ← get
        let intercepted := if w.record then [("intercepted", Json.list Json.text w.intercepted)] else []
        return health ++ [("results", .array results)] ++ raw ++ intercepted
      Json.obj (go.run { processor, record := flag j "interceptor" }).1

end Conveyor.Scenario
