import Conveyor.Scenario.Pipeline
import Conveyor.Scenario.Control
import Conveyor.Telemetry.Server
/-!
# Metrics server scenarios

A metrics server scenario serves counters and a health function (or none), requests the
given paths in order, and shuts the server down. A `/metrics` body is answered as its sorted
sample lines; other bodies as their text. A scenario may close the listener before serving,
which fails serving at once.
-/

namespace Conveyor.Scenario

open Conveyor.Json

/-- The counters a scenario registers, the last of repeated names kept. -/
def countersOf (j : Json) : List Telemetry.Counter :=
  let ms := Json.asMap (match j.get? "counters" with
    | some (.object ms) => ms
    | _ => [])
  ms.map fun (k, v) =>
    { name := Utf8.lossy k, help := "a counter",
      value := match v with
        | .number lit => (Decimal.readFloat lit).toOption.getD 0
        | _ => 0 }

/-- The health function a scenario describes. -/
def healthReportOf (j : Json) : Option Telemetry.HealthReport :=
  (given j "health").map fun h =>
    { up := flag h "up", body := (h.get? "body").getD .null,
      foreign := if flag h "unencodable" then some foreignType else none }

/-- The sample lines of an exposition, sorted. -/
def sampleLines (text : String) : List String :=
  ((text.splitOn "\n").filter fun l => !l.isEmpty && !l.startsWith "#").mergeSort fun a b => decide (a ≤ b)

/-- A metrics server scenario. -/
def metricsServerScenario (j : Json) : Json :=
  let logOpts := (given j "logs").map logOptionsOf
  let logsJson (es : List Log.Entry) := match logOpts with
    | some o => [("logs", Json.list Json.text (o.lines es))]
    | none => []
  let started := [Telemetry.listening "bufconn"]
  if flag j "close_listener" then
    Json.obj ([("serve_err", faultJson (some (.text "closed")))] ++ logsJson started)
  else
    let metrics := Telemetry.exposition (countersOf j)
    let health := healthReportOf j
    let (results, logged) := (list j "paths").foldl (fun (acc : List Json × List Log.Entry) p =>
        let path := (p.str?).getD ""
        let (r, es) := Telemetry.serve metrics health path
        let body := if r.contentType == Telemetry.expositionType then
            Json.list Json.text (sampleLines (Utf8.lossy r.body))
          else .string r.body
        (acc.1 ++ [Json.obj [("status", Json.nat r.status), ("content_type", Json.text r.contentType),
          ("body", body)]], acc.2 ++ es)) ([], [])
    Json.obj ([("addr", Json.text "bufconn"), ("results", .array results), ("shutdown_err", .null),
      ("serve_err", .null)] ++ logsJson (started ++ logged))

end Conveyor.Scenario
