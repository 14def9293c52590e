import Conveyor.Engine.Local
import Conveyor.Engine.Run
import Conveyor.Control.Plane
import Conveyor.Telemetry.Server
/-!
# Starting and running the engine

Starting the engine compiles its pipeline file, then opens the control plane's port and then
the metrics port; the first failure stops the start, wrapped as `pipeline: `, `transport: ` or
`telemetry: `. A port is refused when it is no port number, or when something else listens
on it already (port zero takes any free port).

A started engine serves the metrics server, probes the source (an in-memory log is always
healthy) and runs the pipeline in this process until the log is drained, or, for a log that
does not stop when drained, until it comes to rest and is shut down. The run's fault joins the
runner's fault and the close fault.

A client sees the engine at rest: its status, its snapshot over the control plane, its health
over HTTP and its metrics.
-/

namespace Conveyor.Engine

open Pipeline

/-- How the engine is started. -/
structure Config where
  grpcPort : Int := 7070
  metricsPort : Int := 9100
  pipelineYml : String := "configs/pipeline.yml"
  healthIntervalNs : Int := 10 * Duration.second

/-- **Listening on a port** of every address, given the ports in use: the fault, if any. -/
def listenFault (inUse : List Int) (port : Int) : Option Fault :=
  if port < 0 || port > 65535 then some (.text ("listen tcp: address " ++ toString port ++ ": invalid port"))
  else if port != 0 && inUse.contains port then
    some (.text ("listen tcp :" ++ toString port ++ ": bind: address already in use"))
  else none

/-- **Starting the engine**: compile, then the control plane's port, then the metrics port. -/
def bootstrap (inputs : Inputs) (inUse : List Int) (cfg : Config) : Except Fault Compiled :=
  match compile inputs cfg.pipelineYml with
  | .error f => .error (.wrap "pipeline: " f)
  | .ok c =>
    match listenFault inUse cfg.grpcPort with
    | some f => .error (.wrap "transport: " f)
    | none =>
      let inUse := if cfg.grpcPort == 0 then inUse else cfg.grpcPort :: inUse
      match listenFault inUse cfg.metricsPort with
      | some f => .error (.wrap "telemetry: " f)
      | none => .ok c

/-- The engine as a client sees it: its status, the runner and the metrics. -/
structure View where
  status : Status
  runner : Runner
  metrics : Telemetry.Metrics

/-- The view of an engine whose source's last probe gave `probe`. -/
def View.of (probe : Option (Option Fault)) (r : Runner) (mx : Telemetry.Metrics) : View :=
  { status := Status.of probe r.snapshot r.dispatcher.coordinator.snapshot, runner := r, metrics := mx }

/-- **The snapshot** the control plane hands over: the status as a map. -/
def View.snapshot (v : View) : Except Fault Json :=
  let fields := match v.status.json with
    | .object ms => ms
    | _ => []
  Control.snapshotReply (some (.ok { fields }))

/-- What the health route reports: up when healthy, with the status as its body. -/
def View.health (v : View) : Telemetry.HealthReport := { up := v.status.healthy, body := v.status.json }

/-- The metrics in the exposition format. -/
def View.exposition (v : View) : String :=
  String.join ((Telemetry.exposedLines v.metrics v.runner.snapshot
    v.runner.dispatcher.coordinator.snapshot).map (· ++ "\n"))

/-- How a run of the engine went: its fault, the status afterwards, the lines written to the
console, the log, and the engine at rest. -/
structure Report where
  fault : Option Fault
  status : Status
  stdout : List String
  logs : List Log.Entry
  rest : View

/-- **Running a started engine**, its clock at `clock`, the metrics server at `metricsAddr`. -/
def serve (c : Compiled) (clock : Int) (metricsAddr : String) : Report :=
  let e := runLocal c (Local.start c clock)
  let o := run false [none] e.fault e.closeFault e.process.logs
  let (restRunner, restMetrics) := e.process.rest.getD (e.runner, e.process.metrics)
  { fault := o.fault, status := (View.of o.health.last e.runner e.process.metrics).status,
    stdout := e.process.outputLines, logs := Telemetry.listening metricsAddr :: o.logs,
    rest := View.of (some none) restRunner restMetrics }

end Conveyor.Engine
