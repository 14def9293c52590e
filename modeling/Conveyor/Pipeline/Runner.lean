import Conveyor.Pipeline.Stats
import Conveyor.DeadLetter
import Conveyor.Breaker
import Conveyor.Source.Dispatch
import Conveyor.Text.Quoted
/-!
# The stage runner

The runner takes each message through the processing stages in the order they were added,
then routes it to exactly one terminal outcome: delivered to the sink, written as a dead
letter, or filtered by a stage on purpose.

Each stage runs its processor under the retry engine, guarded by the stage's own circuit
breaker. The first stage works on the message itself (so the message keeps that stage's
attempt count and chosen route); every later stage works on a copy carrying the previous
stage's output. A stage that fails for good sends the message to the dead-letter writer with
its fault and every attempt made so far; a stage that filters the message ends it with
nothing written. A processor that panics fails its attempt for good.

A message that passed every stage goes to the sink, under the route a processor chose, again
under the retry engine and the breaker named `sink`; if delivery fails for good, the message
is dead-lettered with a delivery fault. Dead-letter writes run under the breaker named
`dead-letter`. Shutdown during any of this abandons the message: its fault joins
`abandoned` with the engine's. A dead-letter write that fails for good is a fault that must
stop the partition, since the message's offset can never be committed.

Every message that reaches an outcome, or is abandoned in a stage, is reported to the
observers with the time it took.

The retry engine sets no bound on its turns, so handling is run for a number of turns of each
engine run (`fuel`): handling whose engine runs all end within it has its outcome, and
handling with an engine run still going after it has none yet.

The runner is a value: its stages, breakers, counters, coordinator and worker limiter. The
world around it (clock, sleeper, processors, sink, dead-letter writer, observers, log) is a
record of services over any monad.
-/

namespace Conveyor.Pipeline

/-- What one call of a processor came to. -/
inductive Produced where
  | output (value : Option ByteArray)
  | failure (f : Fault)
  /-- The processor panicked with a value of this text. -/
  | panicked (what : String)

/-- What one attempt of a stage came to. -/
inductive StepResult where
  | output (value : Option ByteArray)
  /-- The processor dropped the message on purpose. -/
  | filtered
  | failed (f : Fault)

/-- The resilience policy shared by all stages. -/
structure Policy where
  retry : Retry.Config
  breaker : BreakerConfig
  /-- Messages processed at once, over all partitions. -/
  workers : Int
  /-- Unresolved offsets per partition. -/
  partitionCapacity : Int

/-- How a message ended. -/
inductive Outcome where
  | delivered
  | deadLettered
  | filtered
  deriving DecidableEq

/-- The name of an outcome; a message with no outcome is `unknown`. -/
def Outcome.name : Option Outcome → String
  | some .delivered => "delivered"
  | some .deadLettered => "dead_lettered"
  | some .filtered => "filtered"
  | none => "unknown"

/-- The stage names the router keeps for its own breakers and counters. -/
def sinkStage : String := "sink"
def deadLetterStage : String := "dead-letter"

/-- A processing stage: its name, retry policy, classifier and counters. -/
structure Stage where
  name : String
  retry : Retry.Config
  classify : Fault → Bool
  stats : StageStats := {}

/-- What the stages made of a message: the output and route on success, or the stage that
failed or filtered it and its fault, with every attempt made so far. -/
structure Terminal where
  output : Option ByteArray := none
  route : String := ""
  filtered : Bool := false
  err : Option Fault := none
  stage : String := ""
  trials : List DeadLetter.Trial := []

/-- A stage's view: its name, its breaker and its counters. -/
structure StageStatus where
  name : String
  breaker : Breaker
  stats : StageStats

/-- The runner. -/
structure Runner where
  policy : Policy
  breakers : BreakerRegistry
  dispatcher : Dispatcher
  stages : List Stage := []
  /-- The sink's name, once a sink is set. -/
  sink : Option String := none
  deadLetter : Bool := false
  /-- The sink's and the dead-letter writer's counters, once the router exists. -/
  router : Option (StageStats × StageStats) := none

/-- What the runner needs from the world. -/
structure Services (m : Type → Type) where
  now : m Int
  shutdown : m (Option Fault)
  sleep : Int → m (Option Fault)
  draw : m Float
  log : Log.Entry → m Unit
  /-- Calls the processor of a stage on a record; answers the record's route afterwards
  and what the call produced. -/
  process : Nat → Record → m (String × Produced)
  deliver : Envelope → m (Option Fault)
  writeDeadLetter : DeadLetter → m (Option Fault)
  /-- A fresh dead-letter id. -/
  newId : m String
  /-- Hears a message's outcome, its fault and the nanoseconds it took. -/
  observe : Record → Option Outcome → Option Fault → Int → m Unit

/-- The services seen from a monad that `m` lifts into. -/
def Services.lift {m n : Type → Type} [MonadLiftT m n] (s : Services m) : Services n where
  now := monadLift s.now
  shutdown := monadLift s.shutdown
  sleep d := monadLift (s.sleep d)
  draw := monadLift s.draw
  log e := monadLift (s.log e)
  process i r := monadLift (s.process i r)
  deliver e := monadLift (s.deliver e)
  writeDeadLetter d := monadLift (s.writeDeadLetter d)
  newId := monadLift s.newId
  observe r o f t := monadLift (s.observe r o f t)

namespace Runner

/-- A runner with no stages, sink or dead-letter writer. -/
def create (p : Policy) : Runner :=
  { policy := p, breakers := { config := p.breaker },
    dispatcher := ⟨{ capacity := p.partitionCapacity }, Limiter.create p.workers⟩ }

/-- **Adding a stage** at the end. The name must be new, not empty, and not one of the
router's. -/
def addStage (r : Runner) (name : String) (retry : Option Retry.Config) (classify : Fault → Bool) :
    Except Fault Runner :=
  if name.isEmpty || name == sinkStage || name == deadLetterStage then
    .error (.text ("runner: invalid stage name " ++ Text.quote name))
  else if r.stages.any (·.name == name) then
    .error (.text ("runner: duplicate stage " ++ Text.quote name))
  else
    let (_, breakers) := r.breakers.get name
    .ok { r with breakers, stages := r.stages ++ [{ name, retry := retry.getD r.policy.retry, classify }] }

/-- Changes the counters of the stage at a position. -/
def updateStage (r : Runner) (i : Nat) (f : StageStats → StageStats) : Runner :=
  { r with stages := r.stages.modify i fun s => { s with stats := f s.stats } }

/-- Changes the sink's counters. -/
def updateSink (r : Runner) (f : StageStats → StageStats) : Runner :=
  { r with router := r.router.map fun (s, d) => (f s, d) }

/-- Changes the dead-letter writer's counters. -/
def updateDeadLetter (r : Runner) (f : StageStats → StageStats) : Runner :=
  { r with router := r.router.map fun (s, d) => (s, f d) }

/-- The breaker of a name as it stands. -/
def breaker (r : Runner) (name : String) : Breaker := (r.breakers.get name).1

/-- **The snapshot**: every stage in order, then the sink and the dead-letter writer once the
router exists. -/
def snapshot (r : Runner) : List StageStatus :=
  r.stages.map (fun s => ⟨s.name, r.breaker s.name, s.stats⟩) ++
    match r.router with
    | some (s, d) => [⟨sinkStage, r.breaker sinkStage, s⟩, ⟨deadLetterStage, r.breaker deadLetterStage, d⟩]
    | none => []

end Runner

/-- The log record of a breaker's change of state. -/
def transitionEntry (name : String) (before after : CircuitState) : Log.Entry :=
  let attrs := [("stage", .str name), ("from", .str before.name), ("to", .str after.name)]
  if after == .opened then ⟨.warn, "circuit breaker opened", attrs⟩
  else ⟨.info, "circuit breaker state change", attrs⟩

/-- The attempts of a report as dead-letter history entries of a stage. -/
def history (stage : String) (rep : Retry.Report) : List DeadLetter.Trial :=
  rep.attempts.map fun a =>
    { stage, number := a.number, err := (a.err.map Fault.message).getD "", start := some a.start,
      elapsed := a.elapsed }

/-- The fault of a message abandoned at shutdown. -/
def abandonedBy (err : Option Fault) : Option Fault := Fault.join [some (.sentinel .abandoned), err]

section Services

variable {m : Type → Type} [Monad m] (svc : Services m)

/-- Applies a step to the breaker of a name at the current time, logging a change of state. -/
def withBreaker {α : Type} (name : String) (f : Int → Breaker → α × Breaker) : StateT Runner m α := do
  let now ← svc.now
  let r ← get
  let (b, breakers) := r.breakers.get name
  let (a, b') := f now b
  set { r with breakers := breakers.put b' }
  if b.state != b'.state then svc.log (transitionEntry name b.state b'.state)
  return a

/-- The breaker of a name as the retry engine's guard. -/
def breakerGuard (name : String) : Retry.Guard (StateT Runner m) where
  permit := withBreaker svc name fun now b => b.permit now
  succeeded t := withBreaker svc name fun _ b => ((), b.succeeded t)
  failed t := withBreaker svc name fun now b => ((), b.failed t now)
  released t := withBreaker svc name fun _ b => ((), b.released t)
  cooldown := withBreaker svc name fun now b => (b.cooldown now, b)
  reject := withBreaker svc name fun now b => (some (b.reject now), b)

/-- The retry engine's world, with its events counted by `count`. -/
def engineEnv (count : Retry.Event → Runner → Runner) : Retry.Env (StateT Runner m) where
  now := svc.now
  shutdown := svc.shutdown
  sleep d := svc.sleep d
  draw := svc.draw
  observe e := modify (count e)

/-- **One attempt of a stage**: the processor's call on the record with its attempt number,
read as a step result; a panic is a permanent failure and is logged. -/
def attemptStage (i : Nat) (name : String) (k : Nat) :
    StateT (Record × StepResult) (StateT Runner m) (Option Fault) := do
  let (cur, _) ← get
  let cur := { cur with attempts := k }
  let (route, produced) ← (svc.process i cur : m _)
  let cur := { cur with route }
  let res : StepResult ← match produced with
    | .output v => pure (.output v)
    | .failure f => pure (if f.isa .filtered then .filtered else .failed f)
    | .panicked what => do
      (svc.log ⟨.error, "processor panic",
        [("stage", .str name), ("msg", .str cur.label), ("panic", .str what)]⟩ : m Unit)
      pure (.failed (.permanent (some (.text ("stage " ++ name ++ " panicked: " ++ what)))))
  set (cur, res)
  return match res with
    | .failed f => some f
    | _ => none

/-- **Running a stage** on a record, for at most `fuel` turns of its engine: its report, the
record afterwards, and the last attempt's result. -/
def runStage (fuel i : Nat) (s : Stage) (r : Record) :
    StateT Runner m (Option (Retry.Report × Record × StepResult)) := do
  modify (·.updateStage i StageStats.entered)
  let env := engineEnv svc fun e run => run.updateStage i (·.record e)
  let (rep?, (r', last)) ← (Retry.run fuel s.retry env.lift (breakerGuard svc s.name).lift
    s.classify (fun k _ => attemptStage svc i s.name k)).run (r, .output none)
  let some rep := rep? | return none
  modify (·.updateStage i (·.finish rep))
  return some (rep, r', last)

/-- **An engine run counted at one stage's counters**, for at most `fuel` turns: the message is
counted in, each event the engine reports is counted as it comes, and the run's ending is counted
from its report. `upd` changes those counters; the router's sink and dead-letter writer run this
way, under the breaker `name`. -/
def countedRun (fuel : Nat) (upd : (StageStats → StageStats) → Runner → Runner)
    (policy : Retry.Config) (name : String) (attempt : Nat → Option Int → StateT Runner m (Option Fault)) :
    StateT Runner m (Option Retry.Report) := do
  modify (upd StageStats.entered)
  let some rep ← Retry.run fuel policy (engineEnv svc fun e run => upd (·.record e) run)
    (breakerGuard svc name) Fault.classify attempt | return none
  modify (upd (·.finish rep))
  return some rep

/-- **The stages in turn**, from position `i`: the fault of an abandoned message or what the
stages made of it, with the message as the first stage left it. -/
def runStages (fuel i : Nat) : List Stage → Record → Record → List DeadLetter.Trial →
    StateT Runner m (Option (Option Fault × Terminal × Record))
  | [], cur, orig, trials =>
    return some (none, { output := cur.value, route := cur.route, trials }, orig)
  | s :: rest, cur, orig, trials => do
    let some (rep, cur', last) ← runStage svc fuel i s cur | return none
    let orig := if i = 0 then cur' else orig
    let trials := trials ++ history s.name rep
    if rep.interrupted then return some (abandonedBy rep.err, { trials }, orig)
    if !rep.succeeded then return some (none, { err := rep.err, stage := s.name, trials }, orig)
    match last with
    | .filtered => return some (none, { filtered := true, stage := s.name, trials }, orig)
    | .failed f => return some (none, { err := some f, stage := s.name, trials }, orig)
    | .output v => runStages fuel (i + 1) rest (cur'.withValue v) orig trials

/-- **Routing** a message with what the stages made of it: its outcome and fault. -/
def route (fuel : Nat) (msg : Record) (t : Terminal) :
    StateT Runner m (Option (Option Outcome × Option Fault)) := do
  if t.err.isNone && t.filtered then
    svc.log ⟨.debug, "message filtered", msg.logPosition ++ [("stage", .str t.stage)]⟩
    return some (some .filtered, none)
  let r ← get
  let policy := r.policy.retry
  let t ← if t.err.isNone then do
      let env := (Envelope.ofRecord msg t.output).routeTo t.route
      let some rep ← countedRun svc fuel (fun f run => run.updateSink f) policy sinkStage
        (fun _ _ => svc.deliver env) | return none
      if rep.succeeded then return some (some .delivered, none)
      if rep.interrupted then return some (none, abandonedBy rep.err)
      pure { err := some (.delivery (r.sink.getD "") rep.err), stage := sinkStage,
             trials := t.trials ++ history sinkStage rep : Terminal }
    else pure t
  let id ← svc.newId
  let failedAt ← svc.now
  let letter : DeadLetter :=
    { id, message := some msg, stage := t.stage, err := t.err, trials := t.trials, failedAt := some failedAt }
  let some rep ← countedRun svc fuel (fun f run => run.updateDeadLetter f) policy deadLetterStage
    (fun _ _ => svc.writeDeadLetter letter) | return none
  if rep.succeeded then
    svc.log ⟨.warn, "message dead-lettered", msg.logPosition ++
      [("stage", .str t.stage), ("attempts", .int t.trials.length), ("dlq_id", .str id),
       ("err", .str ((t.err.map Fault.message).getD "<nil>"))]⟩
    return some (some .deadLettered, none)
  if rep.interrupted then return some (none, abandonedBy rep.err)
  return some (none, rep.err.map (Fault.deadLetter msg.label))

/-- Makes the router on first use; a runner without a sink or a dead-letter writer cannot. -/
def prepare : StateT Runner m (Option Fault) := do
  let r ← get
  if r.router.isSome then return none
  if r.sink.isNone then return some (.text "runner: no sink configured")
  if !r.deadLetter then return some (.text "runner: no dead-letter writer configured")
  let (_, breakers) := r.breakers.get sinkStage
  let (_, breakers) := breakers.get deadLetterStage
  set { r with breakers, router := some ({}, {}) }
  return none

/-- **Handling a message**, for at most `fuel` turns of each engine run: the stages, then
routing, then the observers. Answers the fault (none once the message was delivered,
dead-lettered or filtered) and the message as the first stage left it. -/
def handle (fuel : Nat) (msg : Record) : StateT Runner m (Option (Option Fault × Record)) := do
  if let some f ← (prepare : StateT Runner m (Option Fault)) then return some (some f, msg)
  let start ← svc.now
  let some (abandoned, t, orig) ← runStages svc fuel 0 (← get).stages msg msg [] | return none
  if let some f := abandoned then
    svc.observe orig none (some f) (Word.clamp ((← svc.now) - start))
    return some (some f, orig)
  let t := if t.err.isNone then t else { t with output := none, route := "" }
  let some (outcome, err) ← route svc fuel orig t | return none
  svc.observe orig outcome err (Word.clamp ((← svc.now) - start))
  return some (err, orig)

/-- Dispatching from the runner's own coordinator and limiter; commits go to the source. -/
def runnerClaims (commit : Nat → Int → StateT Runner m (Option Fault)) : Claims (StateT Runner m) where
  current := do return (← get).dispatcher
  store d := modify fun r => { r with dispatcher := d }
  commit := commit
  log e := svc.log e

/-- **Running over a source** that consumes with the runner: a runner needs a source, a sink
and a dead-letter writer. A source that stops because shutdown began is no failure. -/
def run (hasSource : Bool) (consume : StateT Runner m (Option Fault)) : StateT Runner m (Option Fault) := do
  if !hasSource then return some (.text "runner: no source configured")
  if let some f ← (prepare : StateT Runner m (Option Fault)) then return some f
  let err ← consume
  let down ← svc.shutdown
  if down.isSome && (err.map (·.isa .canceled)).getD false then return none
  return err

end Services

end Conveyor.Pipeline
