import Conveyor.Scenario.Retry
import Conveyor.Scenario.Offsets
import Conveyor.Pipeline.Runner
import Conveyor.Processor.Builtin
import Conveyor.Source.Memory
import Conveyor.Telemetry.Metrics
import Conveyor.Engine.Status
import Conveyor.Engine.Local
/-!
# Pipeline scenarios

A runner with stages, sinks and a dead-letter writer, driven on a simulated clock that starts
at the instant `1700000000 s` and moves only when a script or a wait moves it.

A stage runs a built-in processor or a script. Each call of a scripted stage plays the
stage's next action (the last one repeats; no actions means echoing the value): it records
the call, moves the clock and begins shutdown when asked, may choose a route, and then
panics, filters the message, fails, echoes the value, prefixes it, or outputs a given value,
the first of these that applies. Sinks play their own scripts the same way (no actions means
success) and record every envelope they are given; the dead-letter writer writes envelopes
through a scripted sink named `dlq`.

In `handle` mode each message is handled in turn; in `run` mode the messages go into an
in-memory log that the runner consumes partition by partition.

Dead-letter ids are UUIDs, and every UUID in an answer's log lines and dead-letter headers
reads `<uuid>`.
-/

namespace Conveyor.Scenario

open Pipeline

/-- The instant the simulated clock starts at. -/
def clockStart : Int := 1700000000 * Duration.second

/-- One scripted processor call. -/
structure StepAction where
  err : Option Fault := none
  out : Option ByteArray := none
  echo : Bool := false
  lead : Option ByteArray := none
  filter : Bool := false
  panic : Option String := none
  route : String := ""
  advanceNs : Int := 0
  cancel : Bool := false

instance : Inhabited StepAction := ⟨{}⟩

/-- A processor action from its description; an empty prefix is none. -/
def stepActionOf (j : Json) : StepAction :=
  { err := fault j "err", out := bytes j "out", echo := flag j "echo",
    lead := (bytes j "prefix").filter (·.size > 0), filter := flag j "filter",
    panic := (given j "panic").map fun p => (p.str?).getD (String.fromUTF8! (Json.write p)),
    route := str j "route", advanceNs := millis j "advance_ms", cancel := flag j "cancel" }

/-- **Playing an action** on a record: the route (the record's own unless the action picks
one) and what the processor produced: a panic, a filtered record, a failure, the value echoed,
the value behind a prefix, or the given output, the first of these that applies. -/
def StepAction.play (a : StepAction) (r : Record) : String × Produced :=
  let route := if a.route.isEmpty then r.route else a.route
  let produced : Produced :=
    match a.panic with
    | some what => .panicked what
    | none =>
      if a.filter then .failure (.sentinel .filtered) else
      match a.err with
      | some f => .failure f
      | none =>
        if a.echo then .output r.value else
        match a.lead with
        | some p => .output (some (p ++ r.bytes))
        | none => .output a.out
  (route, produced)

/-- One scripted sink call. -/
structure SinkAction where
  err : Option Fault := none
  advanceNs : Int := 0
  cancel : Bool := false

instance : Inhabited SinkAction := ⟨{}⟩

/-- A sink action from its description. -/
def sinkActionOf (j : Json) : SinkAction :=
  { err := fault j "err", advanceNs := millis j "advance_ms", cancel := flag j "cancel" }

/-- A scripted sink and the calls it has had. -/
structure ScriptedSink where
  name : String
  script : List SinkAction := []
  calls : Nat := 0
  closeErr : Option Fault := none

/-- A scripted sink from its description. -/
def scriptedSinkOf (j : Json) : ScriptedSink :=
  { name := str j "name", script := (list j "script").map sinkActionOf,
    closeErr := match str j "close_err" with
      | "" => none
      | msg => some (.text msg) }

/-- The next action of a scripted sink. -/
def ScriptedSink.play (s : ScriptedSink) : SinkAction × ScriptedSink :=
  (if s.script.isEmpty then {} else nthOrLast s.script s.calls, { s with calls := s.calls + 1 })

/-- The processor of a stage. -/
inductive StageProcessor where
  | builtin (b : Builtin)
  | scripted (name : String) (script : List StepAction)

/-- The simulated world of a pipeline. -/
structure PipelineWorld where
  clock : Int := clockStart
  cancelled : Bool := false
  sleepCalls : Nat := 0
  cancelAtSleep : Nat := 0
  draws : List Float := []
  drawn : Nat := 0
  processors : Array StageProcessor := #[]
  stageCalls : Array Nat := #[]
  sinks : List ScriptedSink := []
  deadLetterSink : ScriptedSink := { name := "dlq" }
  suffix : String := ""
  ids : Nat := 0
  calls : List Json := []
  deliveries : List Json := []
  deadLetters : List Json := []
  observed : List (Record × Json) := []
  metrics : Telemetry.Metrics := {}
  logs : List Log.Entry := []

/-- Moves the clock and begins shutdown, as an action asks. -/
def act (advance : Int) (cancel : Bool) : StateM PipelineWorld Unit :=
  modify fun w => { w with clock := w.clock + advance, cancelled := w.cancelled || cancel }

/-- The fault of a begun shutdown. -/
def PipelineWorld.shutdownFault (w : PipelineWorld) : Option Fault :=
  if w.cancelled then some (.sentinel .canceled) else none

/-- Whether a text is a UUID: five groups of 8, 4, 4, 4 and 12 hex digits. -/
def isUuid (s : String) : Bool :=
  let groups := s.splitOn "-"
  groups.map String.length == [8, 4, 4, 4, 12] &&
    groups.all fun g => g.all fun c => c.isDigit || ('a' ≤ c && c ≤ 'f') || ('A' ≤ c && c ≤ 'F')

/-- Replaces every UUID in a text by `<uuid>`. -/
def maskIds (s : String) : String :=
  let rec go (cs : List Char) (fuel : Nat) : List Char :=
    match fuel with
    | 0 => cs
    | fuel + 1 =>
      match cs with
      | [] => []
      | c :: rest =>
        if isUuid (String.ofList (cs.take 36)) then "<uuid>".toList ++ go (cs.drop 36) fuel
        else c :: go rest fuel
  String.ofList (go s.toList s.length)

/-- Headers with a UUID under `dlq_id` shown as `<uuid>`. -/
def maskedHeaders (hs : Option Headers) : Option Headers :=
  hs.map fun hs => hs.map fun (k, v) =>
    if k == "dlq_id" && (v.map fun b => isUuid (Utf8.lossy b)).getD false then (k, some "<uuid>".toUTF8)
    else (k, v)

/-- A delivered envelope in an answer. -/
def deliveryJson (sink : String) (e : Envelope) (err : Option Fault) : Json :=
  Json.obj [("sink", Json.text sink), ("topic", Json.text e.topic), ("routed", .bool e.routed),
    ("partition", Json.int e.partition), ("key", bytesJson e.key), ("value", bytesJson e.value),
    ("headers", headersJson (maskedHeaders e.headers)),
    ("source", Json.text ((e.source.map Record.label).getD "")), ("err", faultJson err)]

/-- A UUID made from a counter. -/
def idText (n : Nat) : String :=
  let hex := String.ofList (Nat.toDigits 16 n)
  "00000000-0000-4000-8000-" ++ String.ofList (List.replicate (12 - hex.length) '0') ++ hex

/-- One call of the processor of a stage. -/
def callProcessor (i : Nat) (r : Record) : StateM PipelineWorld (String × Produced) := do
  let w ← get
  match w.processors[i]? with
  | none => return (r.route, .output r.value)
  | some (.builtin b) =>
    let p := b.run r
    set { w with logs := w.logs ++ p.logs }
    return (p.route, match p.output with
      | .ok v => .output v
      | .error f => .failure f)
  | some (.scripted name script) =>
    let k := w.stageCalls.getD i 0
    let a : StepAction := if script.isEmpty then { echo := true } else nthOrLast script k
    let call := Json.obj [("stage", Json.text name), ("attempt", Json.int r.attempts),
      ("value", bytesJson r.value), ("offset", Json.int r.offset)]
    set { w with stageCalls := w.stageCalls.modify i (· + 1), calls := w.calls ++ [call] }
    act a.advanceNs a.cancel
    return a.play r

/-- One envelope given to the sink at a position. -/
def deliverOne (e : Envelope) (j : Nat) : StateM PipelineWorld (String × Option Fault) := do
  let w ← get
  match w.sinks[j]? with
  | none => return ("", none)
  | some s =>
    let (a, s) := s.play
    set { w with sinks := w.sinks.set j s, deliveries := w.deliveries ++ [deliveryJson s.name e a.err] }
    act a.advanceNs a.cancel
    return (s.name, a.err)

/-- An envelope given to every sink in order. -/
def deliverAll (e : Envelope) : StateM PipelineWorld (Option Fault) := do
  let results ← (List.range (← get).sinks.length).mapM (deliverOne e)
  return Sink.joinFailures results

/-- A dead letter written through the dead-letter sink. -/
def writeLetter (d : DeadLetter) : StateM PipelineWorld (Option Fault) := do
  let w ← get
  match d.envelope w.suffix with
  | .error f => return some f
  | .ok e =>
    let (a, s) := w.deadLetterSink.play
    set { w with deadLetterSink := s, deadLetters := w.deadLetters ++ [deliveryJson s.name e a.err] }
    act a.advanceNs a.cancel
    return a.err

/-- An observed end of a message in an answer. -/
def observationJson (o : Engine.Observation) : Json :=
  Json.obj [("msg", Json.text o.record.label), ("outcome", Json.text (Outcome.name o.outcome)),
    ("err", faultJson o.fault), ("elapsed_ns", Json.int o.elapsedNs)]

/-- The world's answers to the runner. -/
def pipelineServices : Services (StateM PipelineWorld) where
  now := do return (← get).clock
  shutdown := do return (← get).shutdownFault
  sleep d := do
    let w ← get
    if w.cancelled then return some (.sentinel .canceled)
    let n := w.sleepCalls + 1
    if n = w.cancelAtSleep then
      set { w with sleepCalls := n, cancelled := true }
      return some (.sentinel .canceled)
    set { w with sleepCalls := n, clock := w.clock + d }
    return none
  draw := do
    let w ← get
    set { w with drawn := w.drawn + 1 }
    return if w.draws.isEmpty then 0.5 else w.draws.getD (w.drawn % w.draws.length) 0.5
  log e := modify fun w => { w with logs := w.logs ++ [e] }
  process := callProcessor
  deliver := deliverAll
  writeDeadLetter := writeLetter
  newId := do
    let w ← get
    set { w with ids := w.ids + 1 }
    return idText (w.ids + 1)
  observe r o err elapsed := modify fun w =>
    let seen := observationJson ⟨r, o, err, elapsed⟩
    { w with observed := w.observed ++ [(r, seen)], metrics := w.metrics.observe r o err elapsed }

/-- The classifier a stage names. -/
def stageClassifier : String → Fault → Bool
  | "always" => fun _ => true
  | "never" => fun _ => false
  | _ => Fault.classify

/-- **Adds the described stages**: the runner, each stage's error, and the processors of the
stages added. An unknown built-in is not added. -/
def addStages (r : Runner) : List Json → Runner × List (Option Fault) × List StageProcessor
  | [] => (r, [], [])
  | spec :: specs =>
    let name := str spec "name"
    let proc : Except Fault StageProcessor := match given spec "builtin" with
      | some b => (Builtin.ofName ((b.str?).getD "")).map .builtin
      | none => .ok (.scripted name ((list spec "script").map stepActionOf))
    let added : Except Fault (Runner × StageProcessor) := match proc with
      | .error f => .error f
      | .ok p => (r.addStage name ((given spec "retry").map retryConfigOf)
          (stageClassifier (str spec "classifier" "default"))).map fun r => (r, p)
    match added with
    | .error f =>
      let (r, errs, ps) := addStages r specs
      (r, some f :: errs, ps)
    | .ok (r, p) =>
      let (r, errs, ps) := addStages r specs
      (r, none :: errs, p :: ps)

/-- A stage's snapshot in an answer; the breaker's time is read on the scenario's clock. -/
def stageStatusJson (s : StageStatus) : Json :=
  let b := { s.breaker with openedAt := s.breaker.openedAt.map (· - clockStart) }
  Json.obj [("name", Json.text s.name), ("breaker", breakerJson b),
    ("messages", Json.nat s.stats.messages), ("succeeded", Json.nat s.stats.succeeded),
    ("failed", Json.nat s.stats.failed), ("abandoned", Json.nat s.stats.abandoned),
    ("attempts", Json.nat s.stats.attempts), ("attempt_failures", Json.nat s.stats.attemptFailures),
    ("retries", Json.nat s.stats.retries), ("rejections", Json.nat s.stats.rejections),
    ("backoff_ns", Json.int s.stats.backoff)]

/-- The logger's options of a description. -/
def logOptionsOf (j : Json) : Log.Options :=
  { level := Log.Level.ofText (str j "level"), json := flag j "json" }

/-- The set-up shared by the modes: the runner, the world, and the stages' errors. -/
def pipelineSetup (j : Json) : Runner × PipelineWorld × List (Option Fault) :=
  let pol := (j.get? "policy").getD .null
  let policy : Policy :=
    { retry := retryConfigOf ((pol.get? "retry").getD .null),
      breaker := breakerConfigOf ((pol.get? "breaker").getD .null),
      workers := int pol "worker_parallelism", partitionCapacity := int pol "partition_capacity" }
  let (runner, errs, procs) := addStages (Runner.create policy) (list j "stages")
  let sinks : List ScriptedSink :=
    if j.has "sinks" then (list j "sinks").map scriptedSinkOf else [{ name := "out" }]
  let runner :=
    { runner with
      sink := if flag j "no_sink" then none else some (",".intercalate (sinks.map (·.name)))
      deadLetter := !flag j "no_dlq" }
  let dlq := (j.get? "dlq").getD .null
  let world : PipelineWorld :=
    { cancelAtSleep := nat j "cancel_after_sleeps", draws := drawsOf j,
      processors := procs.toArray, stageCalls := Array.replicate procs.length 0, sinks,
      deadLetterSink := { name := "dlq", script := (list dlq "script").map sinkActionOf },
      suffix := str dlq "suffix" }
  (runner, world, errs)

/-- **Closing the runner**: the source's close fault, then the sinks' behind their names,
joined. -/
def closeFault (r : Runner) (w : PipelineWorld) (source : Option Fault := none) : Option Fault :=
  Fault.join [source,
    if r.sink.isNone then none else Sink.joinFailures (w.sinks.map fun s => (s.name, s.closeErr))]

/-- The fields every mode answers after its own: coordinator steps, snapshot, health,
status, metrics, close fault and logs. -/
def pipelineTail (j : Json) (r : Runner) (w : PipelineWorld) (health : Option Fault := none)
    (sourceClose : Option Fault := none) : List (String × Json) × Runner :=
  let (coordSteps, r) : List (String × Json) × Runner :=
    if j.has "coord_ops" then
      let ow : OffsetWorld := { dispatcher := r.dispatcher }
      let (steps, ow) := (coordinatorSteps (list j "coord_ops")).run ow
      ([("coord_steps", .array steps)], { r with dispatcher := ow.dispatcher })
    else ([], r)
  let snap := r.snapshot
  let parts := r.dispatcher.coordinator.snapshot
  let status := if flag j "status" then [("status", (Engine.Status.of none snap parts).json)] else []
  let metrics := if flag j "metrics" then
      [("metrics", Json.list Json.text (Telemetry.scrape w.metrics snap parts))] else []
  let logs := match given j "logs" with
    | some l => [("logs", Json.list (fun s => Json.text (maskIds s)) ((logOptionsOf l).lines w.logs))]
    | none => []
  (coordSteps ++ [("snapshot", Json.list stageStatusJson snap), ("health_err", faultJson health)] ++ status ++
    metrics ++ [("close_err", faultJson (closeFault r w sourceClose))] ++ logs, r)

/-- Handles the messages in turn, answering each. -/
def handleAll (cancelBefore : Option Int) :
    List (Nat × Record) → StateT Runner (StateM PipelineWorld) (List Json)
  | [] => return []
  | (i, m) :: rest => do
    if cancelBefore == some (i : Int) then
      (modify fun w => { w with cancelled := true } : StateM PipelineWorld Unit)
    (modify fun w => { w with calls := [], deliveries := [], deadLetters := [] } : StateM PipelineWorld Unit)
    let (err, orig) := (← handle pipelineServices Engine.turnsPerRun m).getD
      (some Engine.unfinished, m)
    let w ← (get : StateM PipelineWorld PipelineWorld)
    let res := Json.obj [("err", faultJson err), ("calls", .array w.calls),
      ("deliveries", .array w.deliveries), ("dead_letters", .array w.deadLetters),
      ("attempts_after", Json.int orig.attempts), ("route_after", Json.text orig.route)]
    return res :: (← handleAll cancelBefore rest)

/-- A pipeline scenario in `handle` mode. -/
def handleScenario (j : Json) : Json :=
  let (runner, world, errs) := pipelineSetup j
  let msgs := (list j "messages").map recordOf
  let cancelBefore := (given j "cancel_before_message").bind Json.int?
  let indexed := msgs.zipIdx.map fun (m, i) => (i, m)
  let ((results, runner), world) := ((handleAll cancelBefore indexed).run runner).run world
  let (tail, _) := pipelineTail j runner world
  Json.obj ([("add_errors", Json.list faultJson errs), ("results", .array results),
    ("observed", .array (world.observed.map (·.2)))] ++ tail)

/-- The run-mode world: the runner, the in-memory log and the simulated world. -/
abbrev RunM := StateT Runner (StateT MemoryLog (StateM PipelineWorld))

/-- Consumes every partition of the log with the runner; without draining, appends the later
records once the first ones are done, consumes them, then shuts down. -/
def consumeLog (drain : Bool) (later : List Json) : RunM (Option Fault) := do
  let svc : Services (StateT MemoryLog (StateM PipelineWorld)) := pipelineServices.lift
  let claims := MemoryLog.claims (runnerClaims svc fun _ _ => pure none)
  let shutdown : RunM (Option Fault) := svc.shutdown
  let handler (r : Record) : RunM (Option Fault) := do
    return Engine.handlerFault (← handle svc Engine.turnsPerRun r)
  let parts := (← getThe MemoryLog).partitions
  let runs ← (List.range parts).mapM (MemoryLog.consume claims shutdown handler drain)
  if drain then return PartitionRun.firstFault runs
  for r in later do
    modifyThe MemoryLog fun l => l.append (int r "partition").toNat (bytes r "key") (bytes r "value")
      ((r.get? "headers").bind headersOf)
  let runs ← (runs.zipIdx).mapM fun (run, p) => MemoryLog.resume claims shutdown handler p run
  (modify fun w => { w with cancelled := true } : StateM PipelineWorld Unit)
  let runs ← runs.mapM (MemoryLog.stop claims (.sentinel .canceled))
  return PartitionRun.firstFault runs

/-- A pipeline scenario in `run` mode. -/
def runScenario (j : Json) : Json :=
  let (runner, world, errs) := pipelineSetup j
  let msgs := (list j "messages").map recordOf
  let topic := (msgs.head?.map (·.topic)).getD "t"
  let log0 := msgs.foldl (fun l m => l.append m.partition.toNat m.key m.value m.headers)
    (MemoryLog.create topic (int j "partitions"))
  let world := if j.has "cancel_before_message" then { world with cancelled := true } else world
  let svc : Services (StateT MemoryLog (StateM PipelineWorld)) := pipelineServices.lift
  let go : RunM (Option Fault) :=
    Pipeline.run svc (!flag j "no_source") (consumeLog (flag j "drain" true) (list j "append_later"))
  let (((err, runner), log), world) := ((go.run runner).run log0).run world
  let observed := world.observed.mergeSort fun a b =>
    decide (a.1.partition < b.1.partition ∨ (a.1.partition = b.1.partition ∧ a.1.offset ≤ b.1.offset))
  let (tail, _) := pipelineTail j runner world
  Json.obj ([("add_errors", Json.list faultJson errs), ("run_err", faultJson err),
    ("observed", .array (observed.map (·.2))), ("committed", Json.list Json.int log.committed.toList),
    ("deliveries", Json.nat world.deliveries.length), ("dead_letters", Json.nat world.deadLetters.length)] ++ tail)

end Conveyor.Scenario
