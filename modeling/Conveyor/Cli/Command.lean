import Conveyor.Cli.Flags
import Conveyor.Engine.Bootstrap
/-!
# The engine's command line

`engine [-p pipeline.yml] [--grpc-port N] [--metrics-port N] [--health-interval D] [--status]`

The command parses its flags first: a refused argument is printed on standard output, with the
usage on standard error, and the command exits with `2`; asking for help prints the usage and
exits with `0`. The logger then takes its level and format from the environment.

With `--status` the command asks the engine on the control plane's port for its snapshot and
prints it as indented JSON; when no engine answers, it reports the failure and exits with `1`.
Otherwise it starts the engine and runs it: a failed start or a failed run is logged and exits
with `1`. What the console sinks write goes to standard output, and the log to standard error.
-/

namespace Conveyor.Cli

open Pipeline

/-- The program's name in the usage. -/
def program : String := "engine"

/-- The default pipeline file. -/
def defaultPipeline : String := "configs/pipeline.yml"

/-- The command's flags. -/
def flags : List Flag :=
  [{ name := "pipeline", shorthand := some 'p', kind := .text, usage := "pipeline definition",
     defaultText := defaultPipeline },
   { name := "grpc-port", kind := .integer, usage := "control plane port", defaultText := "7070" },
   { name := "metrics-port", kind := .integer, usage := "/metrics and /healthz port", defaultText := "9100" },
   { name := "health-interval", kind := .duration, usage := "broker health probe interval",
     defaultText := "10s" },
   { name := "status", kind := .truth, usage := "print the status of a running engine and exit",
     defaultText := "false" }]

/-- What the command was asked to do. -/
structure Options where
  engine : Engine.Config := {}
  status : Bool := false

/-- The options that parsed values set; a flag given twice keeps its last value. -/
def Options.ofValues (vs : List (String × FlagValue)) : Options :=
  let text (n : String) (d : String) := match valueOf vs n with
    | some (.text s) => s
    | _ => d
  let integer (n : String) (d : Int) := match valueOf vs n with
    | some (.integer i) => i
    | _ => d
  { engine := { pipelineYml := text "pipeline" defaultPipeline, grpcPort := integer "grpc-port" 7070,
                metricsPort := integer "metrics-port" 9100,
                healthIntervalNs := match valueOf vs "health-interval" with
                  | some (.duration d) => d
                  | _ => 10 * Duration.second },
    status := match valueOf vs "status" with
      | some (.truth b) => b
      | _ => false }

/-- The pipeline file the arguments name, or the default one. -/
def pipelinePath (args : List String) : String :=
  match parse flags args with
  | .ok (vs, _) => (Options.ofValues vs).engine.pipelineYml
  | .error _ => defaultPipeline

/-- What the command sees of the machine it runs on. -/
structure Machine where
  read : String → Config.FileRead
  env : List (String × String)
  /-- The instant the engine's clock starts at. -/
  clock : Int
  /-- The ports something listens on already. -/
  inUse : List Int := []
  /-- The engines that answer on control plane ports, with what they show. -/
  engines : List (Int × Engine.View) := []

/-- How the command ended: its exit code and the lines it wrote to each stream. -/
structure Outcome where
  exitCode : Nat
  stdout : List String
  stderr : List String

/-- The fault of asking a port where no engine answers. -/
def refused (port : Int) : Fault :=
  .status .unavailable ("connection error: desc = \"transport: Error while dialing: dial tcp 127.0.0.1:" ++
    toString port ++ ": connect: connection refused\"")

/-- **Printing the status** of the engine on a port. -/
def printStatus (m : Machine) (port : Int) : Outcome :=
  let snapshot := match m.engines.lookup port with
    | some v => v.snapshot
    | none => .error (refused port)
  match snapshot with
  | .ok j => { exitCode := 0, stdout := (Utf8.lossy (Json.writeIndented j)).splitOn "\n", stderr := [] }
  | .error f => { exitCode := 1, stdout := [], stderr := ["status: " ++ f.message] }

/-- **Starting and running the engine.** -/
def runEngine (m : Machine) (log : Log.Options) (cfg : Engine.Config) : Outcome :=
  match Engine.bootstrap { read := m.read, env := m.env } m.inUse cfg with
  | .error f =>
    { exitCode := 1, stdout := [], stderr := log.lines [⟨.error, "bootstrap", [("err", .str f.message)]⟩] }
  | .ok c =>
    let r := Engine.serve c m.clock ("[::]:" ++ toString cfg.metricsPort)
    let failed := match r.fault with
      | some f => [⟨.error, "engine", [("err", .str f.message)]⟩]
      | none => []
    { exitCode := if r.fault.isSome then 1 else 0, stdout := r.stdout, stderr := log.lines (r.logs ++ failed) }

/-- **The command** with its arguments. -/
def invoke (m : Machine) (args : List String) : Outcome :=
  match parse flags args with
  | .error .help => { exitCode := 0, stdout := [], stderr := usage program flags }
  | .error (.failed why) => { exitCode := 2, stdout := [why], stderr := why :: usage program flags }
  | .ok (vs, _) =>
    let o := Options.ofValues vs
    if o.status then printStatus m o.engine.grpcPort
    else runEngine m (Log.Options.ofEnv m.env) o.engine

end Conveyor.Cli
