import Conveyor.Scenario.Codec
import Conveyor.Processor.Builtin
/-!
# Scenarios on processors, records and faults

* `builtin`: one processing call of a built-in processor.
* `builtin_names`: the names of the built-in processors.
* `with_value`: a record's copy with a new value.
* `dlq_topic`: the dead-letter topic of a topic.
* `classify`: the retry verdicts of a fault.
-/

namespace Conveyor.Scenario

/-- One call of a built-in processor: its payload or fault and the record's route after. -/
def builtinCall (j : Json) : Json :=
  match Builtin.ofName (str j "name") with
  | .error f => Json.obj [("error", Json.text "unknown_builtin"), ("message", Json.text f.message)]
  | .ok b =>
    let r := recordOf ((j.get? "msg").getD .null)
    let p := b.run r
    let (out, err) := match p.output with
      | .ok v => (v, none)
      | .error f => (none, some f)
    Json.obj [("output", bytesJson out), ("route", Json.text p.route), ("err", faultJson err)]

/-- The built-in processor names. -/
def builtinNames : Json := Json.obj [("names", Json.list Json.text Builtin.names)]

/-- A record and its copy with a new value. -/
def withValue (j : Json) : Json :=
  let r := recordOf ((j.get? "msg").getD .null)
  Json.obj [("copy", recordJson (r.withValue (bytes j "value"))), ("original", recordJson r)]

/-- The fault verdicts. -/
def classifyFault (j : Json) : Json :=
  let f := fault j "err"
  Json.obj [("err", faultJson f), ("is_permanent", .bool ((f.map Fault.isPermanent).getD false))]

end Conveyor.Scenario
