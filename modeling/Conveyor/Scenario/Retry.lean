import Conveyor.Scenario.Breaker
import Conveyor.Retry.Engine
import Conveyor.Engine.Local
/-!
# Retry scenarios

The retry engine runs a scripted attempt on a simulated clock. Attempt `k` plays the `k`-th
action of the script (the last one repeats; no script means success): it may move the clock,
begin shutdown, and fail. Sleeping moves the clock at once. An optional breaker named `guard`
admits the attempts, after some operations of its own.

With `real_clock`, the engine instead waits on a clock that a timer interrupts: shutdown
begins when the timer fires, and a wait that would outlast it ends there.
-/

namespace Conveyor.Scenario

/-- One scripted attempt. -/
structure AttemptAction where
  err : Option Fault := none
  advanceNs : Int := 0
  cancel : Bool := false

/-- An attempt action from its description. -/
def attemptActionOf (j : Json) : AttemptAction :=
  { err := fault j "err", advanceNs := millis j "advance_ms", cancel := flag j "cancel" }

/-- The simulated world of a retry run. -/
structure RetryWorld where
  clock : Int := 0
  cancelled : Bool := false
  /-- Sleep calls counted so far, and the one that begins shutdown (`0` for none). -/
  sleepCalls : Nat := 0
  cancelAtSleep : Nat := 0
  /-- The time at which a timer begins shutdown, if any. -/
  cancelAt : Option Int := none
  realClock : Bool := false
  draws : List Float := []
  drawn : Nat := 0
  guard : Option Breaker := none
  transitions : List String := []
  sleeps : List Int := []
  calls : List (Nat × Int × Option Int) := []
  events : List Retry.Event := []
  script : List AttemptAction := []

/-- Whether shutdown has begun, the timer included. -/
def RetryWorld.isShutdown (w : RetryWorld) : Bool :=
  w.cancelled || (match w.cancelAt with
    | some t => w.clock ≥ t
    | none => false)

/-- The `i`-th element of a list, or its last one beyond its end. -/
def nthOrLast {α : Type} [Inhabited α] (xs : List α) (i : Nat) : α :=
  xs.getD i (xs.getLastD default)

instance : Inhabited AttemptAction := ⟨{}⟩

/-- The world's answers to the engine. -/
def retryEnv : Retry.Env (StateM RetryWorld) where
  now := do return (← get).clock
  shutdown := do return if (← get).isShutdown then some (.sentinel .canceled) else none
  sleep d := do
    let w ← get
    if w.realClock then
      if d ≤ 0 then return if w.isShutdown then some (.sentinel .canceled) else none
      if w.isShutdown then return some (.sentinel .canceled)
      match w.cancelAt with
      | some t =>
        if w.clock + d ≥ t then
          set { w with clock := t, cancelled := true }
          return some (.sentinel .canceled)
        set { w with clock := w.clock + d }
        return none
      | none =>
        set { w with clock := w.clock + d }
        return none
    else
      if w.cancelled then return some (.sentinel .canceled)
      let n := w.sleepCalls + 1
      if n = w.cancelAtSleep then
        set { w with sleepCalls := n, cancelled := true }
        return some (.sentinel .canceled)
      set { w with sleepCalls := n, clock := w.clock + d, sleeps := w.sleeps ++ [d] }
      return none
  draw := do
    let w ← get
    set { w with drawn := w.drawn + 1 }
    return if w.draws.isEmpty then 0.5 else w.draws.getD (w.drawn % w.draws.length) 0.5
  observe e := modify fun w => { w with events := w.events ++ [e] }

/-- Applies a change to the guard, recording a change of its state. -/
def withGuard (f : Breaker → Int → Breaker) : StateM RetryWorld Unit :=
  modify fun w => match w.guard with
    | some b =>
      let b' := f b w.clock
      { w with guard := some b',
               transitions := w.transitions ++ (changeOf b b').map changeText }
    | none => w

/-- The breaker as the engine's guard. -/
def retryGuard : Retry.Guard (StateM RetryWorld) where
  permit := do
    let w ← get
    match w.guard with
    | some b =>
      let ((t, ok), b') := b.permit w.clock
      set { w with guard := some b',
                   transitions := w.transitions ++ (changeOf b b').map changeText }
      return (t, ok)
    | none => return (0, true)
  succeeded t := withGuard fun b _ => b.succeeded t
  failed t := withGuard fun b now => b.failed t now
  released t := withGuard fun b _ => b.released t
  cooldown := do
    let w ← get
    return (w.guard.map (·.cooldown w.clock)).getD 0
  reject := do
    let w ← get
    return w.guard.map (·.reject w.clock)

/-- Plays attempt `k` of the script. -/
def playAttempt (k : Nat) (deadline : Option Int) : StateM RetryWorld (Option Fault) := do
  let w ← get
  let a := if w.script.isEmpty then {} else nthOrLast w.script (k - 1)
  if w.realClock then
    set { w with cancelled := w.cancelled || a.cancel }
    return a.err
  set { w with calls := w.calls ++ [(k, w.clock, deadline)], clock := w.clock + a.advanceNs,
               cancelled := w.cancelled || a.cancel }
  return a.err

/-- A retry policy from its description. -/
def retryConfigOf (j : Json) : Retry.Config :=
  { maxRetries := int j "max_retries", baseNs := millis j "base_backoff_ms",
    maxNs := millis j "max_backoff_ms", jitter := float j "jitter", deadlineNs := millis j "deadline_ms" }

/-- A policy in an answer. -/
def retryConfigJson (c : Retry.Config) : Json :=
  Json.obj [("max_retries", Json.int c.maxRetries), ("base_backoff_ns", Json.int c.baseNs),
    ("max_backoff_ns", Json.int c.maxNs), ("jitter", floatJson c.jitter), ("deadline_ns", Json.int c.deadlineNs)]

/-- An engine event in an answer. -/
def retryEventJson : Retry.Event → Json
  | .attempted n err => Json.obj [("event", Json.text "attempted"), ("attempt", Json.nat n), ("failed", .bool err.isSome)]
  | .backedOff d => Json.obj [("event", Json.text "backed_off"), ("ns", Json.int d)]
  | .rejected d => Json.obj [("event", Json.text "rejected"), ("ns", Json.int d)]

/-- The jitter draws of a description. -/
def drawsOf (j : Json) : List Float :=
  (list j "rand").filterMap fun x => match x with
    | .number lit => match Decimal.readFloat lit with
      | .ok f => some f
      | .error _ => none
    | _ => none

/-- The classifier a description names. -/
def classifierOf (name : String) : Fault → Bool :=
  if name == "transform" then Fault.classify else Fault.retriable

/-- Runs the guard's own operations before the engine. -/
def preGuard : List Json → StateM RetryWorld Unit
  | [] => pure ()
  | op :: ops => do
    let w ← get
    match w.guard with
    | some b =>
      let (_, b', now) := breakerStep b w.clock op
      set { w with guard := some b', clock := now,
                   transitions := w.transitions ++ (changeOf b b').map changeText }
    | none => pure ()
    preGuard ops

/-- A retry scenario. -/
def retryScenario (j : Json) : Json :=
  let cfg := retryConfigOf ((j.get? "config").getD .null)
  let real := given j "real_clock"
  let guardSpec := given j "breaker"
  let w0 : RetryWorld :=
    { cancelled := flag j "cancel_at_start", cancelAtSleep := nat j "cancel_after_sleeps",
      realClock := real.isSome,
      cancelAt := real.bind fun r => if int r "cancel_after_ms" > 0 then some (millis r "cancel_after_ms") else none,
      draws := drawsOf j,
      guard := guardSpec.map fun g => Breaker.create "guard" (breakerConfigOf ((g.get? "config").getD .null)),
      script := (list j "script").map attemptActionOf }
  let run : StateM RetryWorld (Option Retry.Report) := do
    preGuard ((guardSpec.map (list · "pre")).getD [])
    Retry.run Engine.turnsPerRun cfg retryEnv retryGuard (classifierOf (str j "classifier" "default"))
      playAttempt
  let (rep?, w) := run.run w0
  let rep := rep?.getD { err := some Engine.unfinished }
  let events := if w.events.isEmpty then .null else Json.list retryEventJson w.events
  let observers := (j.get? "observers").bind Json.int?
  let common := [("rejections", Json.nat rep.rejections), ("waited_ns", Json.int rep.waited),
    ("err", faultJson rep.err), ("succeeded", .bool rep.succeeded), ("interrupted", .bool rep.interrupted)]
  if real.isSome then
    Json.obj (("attempt_errs", Json.list (fun (a : Retry.Attempt) => faultJson a.err) rep.attempts) ::
      common ++ [("events", events)])
  else
    let eventFields : List (String × Json) := match observers with
      | some 0 => [("events", .null), ("observer_events", .array [])]
      | some n => [("events", events), ("observer_events", .array (List.replicate n.toNat events))]
      | none => [("events", events)]
    let guardFields : List (String × Json) := match w.guard with
      | some b => [("breaker", breakerJson b), ("transitions", Json.list Json.text w.transitions)]
      | none => []
    Json.obj ([("attempts", Json.list (fun (a : Retry.Attempt) => Json.obj [("number", Json.nat a.number),
        ("err", faultJson a.err), ("start_ns", instantJson (some a.start)), ("elapsed_ns", Json.int a.elapsed)]) rep.attempts)] ++
      common ++
      [("sleeps_ns", Json.list Json.int w.sleeps),
       ("calls", Json.list (fun (k, t, d) => Json.obj [("attempt", Json.nat k), ("at_ns", instantJson (some t)),
          ("deadline_ns", instantJson d)]) w.calls),
       ("config", retryConfigJson cfg.normalize)] ++ eventFields ++ guardFields)

end Conveyor.Scenario
