import Conveyor.Scenario.Compile
import Conveyor.Scenario.Control
import Conveyor.Cli.Command
/-!
# Command-line and start-up scenarios

A command-line scenario runs the command with its arguments in a directory that holds the
given files, the ports appended when asked. The answer is the exit code, the lines of standard
output (sorted when asked) and whether standard error stayed empty.

A start-up scenario starts the engine on two ports (either of which may be taken already) with
its pipeline file among the given files, and runs it. The answer is the start's fault, with the
port numbers named `$GRPC_PORT` and `$METRICS_PORT`; otherwise the run's fault, the status and
the console lines. When asked, it also answers what a client sees of the engine at rest: the
snapshot, whether it serves, the health body, the engine's metrics (the duration buckets and
sums left out), a path that is not found, and the command's `--status`.
-/

namespace Conveyor.Scenario

open Conveyor.Json Conveyor.Config

/-- The control plane's port in start-up scenarios. -/
def controlPort : Int := 50051

/-- The metrics port in start-up scenarios. -/
def metricsPort : Int := 50052

/-- The files of a scenario by their paths under the directory. -/
def filesOf (j : Json) : List (String × String) :=
  ((j.get? "files").map Json.members).getD [] |>.filterMap fun (k, v) => v.str?.map (k, ·)

/-- What reading a path gives in the directory of the files, relative paths read from it. -/
def workRead (files : List (String × String)) (path : String) : FileRead :=
  if path.isEmpty then .missing
  else filesRead files (if path.startsWith "/" then path else joinPath settingsDir path)

/-- The answer for a command's outcome. -/
def outcomeJson (o : Cli.Outcome) (sortLines : Bool) : Json :=
  let lines := if sortLines then o.stdout.mergeSort fun a b => decide (a ≤ b) else o.stdout
  Json.obj [("exit_code", Json.nat o.exitCode), ("stdout", Json.list Json.text lines),
    ("stderr_empty", .bool o.stderr.isEmpty)]

/-- A command-line scenario. -/
def cliScenario (j : Json) : Json :=
  let m : Cli.Machine := { read := workRead (filesOf j), env := envOf j, clock := clockStart }
  let ports := if flag j "ports" then
      ["--grpc-port", toString controlPort, "--metrics-port", toString metricsPort] else []
  let args := ((list j "args").filterMap Json.str?) ++ ports
  outcomeJson (Cli.invoke m args) (flag j "sort_lines")

/-- A fault in an answer with the ports' numbers named. -/
def portFaultJson (f : Fault) : Json :=
  let masked := (f.message.replace (":" ++ toString controlPort) ":$GRPC_PORT").replace
    (":" ++ toString metricsPort) ":$METRICS_PORT"
  match faultJson (some f) with
  | .object ms => .object (ms.map fun (k, v) => if Json.sameBytes k "message".toUTF8 then (k, Json.text masked) else (k, v))
  | other => other

/-- Whether an exposed line belongs to the engine and is not a duration bucket or sum. -/
def queriedLine (l : String) : Bool :=
  l.startsWith "kafkabasic_" && !l.startsWith "kafkabasic_message_duration_seconds_bucket" &&
    !l.startsWith "kafkabasic_message_duration_seconds_sum"

/-- What a client sees of the engine at rest. -/
def queryJson (j : Json) (m : Cli.Machine) (v : Engine.View) : Json :=
  let (snapshot, _) : Json × Option Fault := match v.snapshot with
    | .ok s => (s, none)
    | .error f => (.null, some f)
  let served (path : String) := (Telemetry.serve v.exposition (some v.health) path).1
  let missing := served "/missing"
  let cli := if flag j "cli_status" then
      [("cli_status", outcomeJson (Cli.invoke { m with engines := [(controlPort, v)] }
        ["--status", "--grpc-port", toString controlPort]) false)]
    else []
  Json.obj ([("snapshot", snapshot), ("serving", .bool true), ("serving_err", .null),
    ("/healthz", Json.asMapValue v.health.body),
    ("/metrics", Json.list Json.text ((Utf8.lossy (served "/metrics").body).splitOn "\n" |>.filter queriedLine)),
    ("/missing", Json.obj [("status", Json.nat missing.status), ("content_type", Json.text missing.contentType),
      ("body", .string missing.body)])] ++ cli)

/-- A start-up scenario. -/
def bootstrapScenario (j : Json) : Json :=
  let inUse := (if flag j "busy_grpc_port" then [controlPort] else []) ++
    (if flag j "busy_port" then [metricsPort] else [])
  let files := filesOf j
  let m : Cli.Machine := { read := filesRead files, env := envOf j, clock := clockStart, inUse }
  let cfg : Engine.Config :=
    { grpcPort := controlPort, metricsPort := metricsPort,
      pipelineYml := joinPath settingsDir (str j "pipeline" "pipeline.yml"),
      healthIntervalNs := millis j "health_interval_ms" }
  match Engine.bootstrap { read := m.read, env := m.env } inUse cfg with
  | .error f => Json.obj [("bootstrap_err", portFaultJson f), ("stdout", .array [])]
  | .ok c =>
    let r := Engine.serve c clockStart ("[::]:" ++ toString metricsPort)
    let lines := if flag j "sort_lines" then r.stdout.mergeSort fun a b => decide (a ≤ b) else r.stdout
    let query := if flag j "query" then [("query", queryJson j m r.rest)] else []
    Json.obj ([("run_err", faultJson r.fault), ("status", r.status.json), ("stdout", Json.list Json.text lines)] ++
      query)

end Conveyor.Scenario
