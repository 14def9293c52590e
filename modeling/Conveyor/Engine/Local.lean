import Conveyor.Pipeline.Compile
import Conveyor.Telemetry.Metrics
/-!
# Running a compiled pipeline in one process

A compiled pipeline runs over its in-memory log on a clock that only waiting moves. Its stages
run their built-in processors (a remote processor, which nothing answers here, fails every
call as unreachable), its console sinks write lines that the run collects, and its metrics
count every message's outcome.

A log that stops when drained ends the run once every partition is consumed. Otherwise the run
comes to rest with every partition consumed and waiting for more; the state at rest is kept,
and then shutdown begins and every partition stops.

* `Local.services` are the process's answers to the runner.
* `runLocal` is the run: its fault, the runner and the process afterwards, and the runner and
  metrics at rest.
-/

namespace Conveyor.Engine

open Pipeline

/-- One message's end as the run observed it: the record, its outcome, its fault and the
nanoseconds it took. -/
structure Observation where
  record : Record
  outcome : Option Pipeline.Outcome
  fault : Option Fault
  elapsedNs : Int

/-- The process a pipeline runs in. -/
structure Local where
  clock : Int
  cancelled : Bool := false
  /-- The values that jitter draws, in turn; none means always one half. -/
  draws : List Float := []
  drawn : Nat := 0
  stages : Array StageDriver := #[]
  sinks : List (String × Console) := []
  deadLetter : Console := { config := {} }
  suffix : String := ""
  ids : Nat := 0
  observed : List Observation := []
  metrics : Telemetry.Metrics := {}
  logs : List Log.Entry := []
  /-- What the console sinks wrote, in order. -/
  written : List String := []
  /-- The runner and the metrics when the run came to rest. -/
  rest : Option (Runner × Telemetry.Metrics) := none

namespace Local

/-- The process for a compiled pipeline, its clock at `clock`. -/
def start (c : Compiled) (clock : Int) (draws : List Float := []) : Local :=
  { clock, draws, stages := c.stages.toArray, sinks := c.sinks, deadLetter := c.deadLetter,
    suffix := c.suffix }

/-- The lines the console sinks wrote; text after the last line break is a line of its own. -/
def outputLines (w : Local) : List String :=
  match (String.join w.written).splitOn "\n" |>.reverse with
  | "" :: rest => rest.reverse
  | all => all.reverse

/-- The fault of a begun shutdown. -/
def shutdownFault (w : Local) : Option Fault :=
  if w.cancelled then some (.sentinel .canceled) else none

/-- A dead-letter id made from a counter. -/
def idText (n : Nat) : String :=
  let hex := String.ofList (Nat.toDigits 16 n)
  "00000000-0000-4000-8000-" ++ String.ofList (List.replicate (12 - hex.length) '0') ++ hex

/-- One call of a stage's processor. -/
def callStage (i : Nat) (r : Record) : StateM Local (String × Produced) := do
  let w ← get
  match w.stages[i]? with
  | none => return (r.route, .output r.value)
  | some (.builtin b) =>
    let p := b.run r
    set { w with logs := w.logs ++ p.logs }
    return (p.route, match p.output with
      | .ok v => .output v
      | .error f => .failure f)
  | some (.remote rm) => return (r.route, .failure rm.unreachable)

/-- Collects a console line, or answers its fault. -/
def collect (res : Except Fault String) : StateM Local (Option Fault) :=
  match res with
  | .ok text => do modify fun w => { w with written := w.written ++ [text] }; return none
  | .error f => return some f

/-- An envelope written by the console sink at a position. -/
def deliverAt (e : Envelope) (j : Nat) : StateM Local (String × Option Fault) := do
  let w ← get
  match w.sinks[j]? with
  | none => return ("", none)
  | some (name, c) =>
    let (res, c) := c.deliver e w.shutdownFault
    set { w with sinks := w.sinks.set j (name, c) }
    return (name, ← collect res)

/-- **The process's answers to the runner.** -/
def services : Services (StateM Local) where
  now := do return (← get).clock
  shutdown := do return (← get).shutdownFault
  sleep d := do
    let w ← get
    if w.cancelled then return some (.sentinel .canceled)
    set { w with clock := w.clock + d }
    return none
  draw := do
    let w ← get
    set { w with drawn := w.drawn + 1 }
    return if w.draws.isEmpty then 0.5 else w.draws.getD (w.drawn % w.draws.length) 0.5
  log e := modify fun w => { w with logs := w.logs ++ [e] }
  process := callStage
  deliver e := do
    let results ← (List.range (← get).sinks.length).mapM (deliverAt e)
    return Sink.joinFailures results
  writeDeadLetter d := do
    let w ← get
    match d.envelope w.suffix with
    | .error f => return some f
    | .ok e =>
      let (res, c) := w.deadLetter.deliver e w.shutdownFault
      set { w with deadLetter := c }
      collect res
  newId := do
    let w ← get
    set { w with ids := w.ids + 1 }
    return idText (w.ids + 1)
  observe r o err elapsed := modify fun w =>
    { w with observed := w.observed ++ [⟨r, o, err, elapsed⟩],
             metrics := w.metrics.observe r o err elapsed }

end Local

/-- The monad of a local run: the runner, the log and the process. -/
abbrev LocalRun := StateT Runner (StateT MemoryLog (StateM Local))

/-- The turns a process gives each retry run before it takes the handling for stuck. A run
guarded by its stage's breaker alone, on a clock that every wait moves on, ends within twice
its retries and two turns more. -/
def turnsPerRun : Nat := 1000000000

/-- The fault of handling with a retry run still going after the turns a process gives it. -/
def unfinished : Fault := .text "handling did not finish"

/-- What a handler answers for handling that ended with a fault, or did not end. -/
def handlerFault (handled : Option (Option Fault × Record)) : Option Fault :=
  (handled.map (·.1)).getD (some unfinished)

/-- Consumes every partition of the log in turn; a log that is not drained comes to rest, its
state is kept, and then shutdown begins and every partition stops. -/
def consumeLocal (drain : Bool) : LocalRun (Option Fault) := do
  let svc : Services (StateT MemoryLog (StateM Local)) := Local.services.lift
  let claims := MemoryLog.claims (runnerClaims svc fun _ _ => pure none)
  let shutdown : LocalRun (Option Fault) := svc.shutdown
  let handler (r : Record) : LocalRun (Option Fault) := do
    return handlerFault (← handle svc turnsPerRun r)
  let parts := (← getThe MemoryLog).partitions
  let runs ← (List.range parts).mapM (MemoryLog.consume claims shutdown handler drain)
  if drain then return PartitionRun.firstFault runs
  let r ← get
  (modify fun w => { w with rest := some (r, w.metrics), cancelled := true } : StateM Local Unit)
  let runs ← runs.mapM (MemoryLog.stop claims (.sentinel .canceled))
  return PartitionRun.firstFault runs

/-- How a local run ended. -/
structure LocalEnd where
  fault : Option Fault
  runner : Runner
  log : MemoryLog
  process : Local

/-- The fault of closing after a local run: the in-memory log and the console sinks close
cleanly. -/
def LocalEnd.closeFault (_ : LocalEnd) : Option Fault := none

/-- **A local run** of a compiled pipeline in a process. -/
def runLocal (c : Compiled) (w : Local) : LocalEnd :=
  let svc : Services (StateT MemoryLog (StateM Local)) := Local.services.lift
  let go : LocalRun (Option Fault) := Pipeline.run svc true (consumeLocal c.source.stopWhenDrained)
  let (((fault, runner), log), process) := ((go.run c.runner).run c.source.log).run w
  { fault, runner, log, process }

end Conveyor.Engine
