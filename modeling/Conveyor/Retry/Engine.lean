import Conveyor.Retry.Policy
import Conveyor.Fault
import Conveyor.Time.Duration
/-!
# The retry engine

The engine runs an attempt until it succeeds or a terminal outcome is reached. Before each
attempt it checks, in order: that shutdown has not begun, that the deadline has not passed,
and that the guard admits the call. A refused call is waited out (for the guard's cool-down,
or the policy's poll interval) and does not count as an attempt. After a failed attempt the
classifier decides: a fault that is not to be retried ends the run at once; otherwise the
engine stops when the retries are used up, or when the next wait would pass the deadline,
and waits.

The engine is written over any monad that supplies the clock, the sleeper, the random draws,
the guard and the observers, so one engine serves every caller.

Terminal faults:
* shutdown: `interrupted` joined with the shutdown's fault and the last failure;
* deadline: `deadlinePassed` joined with the refusal, if any, and the last failure;
* retries used up: `exhausted` joined with the last failure;
* a failure not to be retried: that failure itself.
-/

namespace Conveyor.Retry

/-- One attempt: its number from one, its failure, when it started and how long it took.
Durations are 64-bit: an elapsed time stops at the ends of the range, and the total waited
wraps around. -/
structure Attempt where
  number : Nat
  err : Option Fault
  start : Int
  elapsed : Int

/-- The outcome of a run. -/
structure Report where
  attempts : List Attempt := []
  rejections : Nat := 0
  waited : Int := 0
  err : Option Fault := none

/-- Whether the run succeeded. -/
def Report.succeeded (r : Report) : Bool := r.err.isNone

/-- Whether shutdown stopped the run before a terminal outcome. -/
def Report.interrupted (r : Report) : Bool := (r.err.map (·.isa .interrupted)).getD false

/-- What the engine reports to an observer. -/
inductive Event where
  | attempted (number : Nat) (err : Option Fault)
  | backedOff (waitNs : Int)
  | rejected (waitNs : Int)

/-- A guard that admits or refuses calls, usually a circuit breaker. -/
structure Guard (m : Type → Type) where
  permit : m (Nat × Bool)
  succeeded : Nat → m Unit
  failed : Nat → m Unit
  released : Nat → m Unit
  cooldown : m Int
  reject : m (Option Fault)

/-- The guard that admits everything. -/
def Guard.open {m : Type → Type} [Monad m] : Guard m where
  permit := pure (0, true)
  succeeded _ := pure ()
  failed _ := pure ()
  released _ := pure ()
  cooldown := pure 0
  reject := pure none

/-- What the engine needs from the world. -/
structure Env (m : Type → Type) where
  /-- The current time. -/
  now : m Int
  /-- The shutdown's fault once shutdown has begun. -/
  shutdown : m (Option Fault)
  /-- Waits; a fault when shutdown interrupted the wait. -/
  sleep : Int → m (Option Fault)
  /-- A random number in `[0, 1)`. -/
  draw : m Float
  /-- Hears every event. -/
  observe : Event → m Unit

/-- The environment seen from a monad that `m` lifts into. -/
def Env.lift {m n : Type → Type} [MonadLiftT m n] (e : Env m) : Env n where
  now := monadLift e.now
  shutdown := monadLift e.shutdown
  sleep d := monadLift (e.sleep d)
  draw := monadLift e.draw
  observe ev := monadLift (e.observe ev)

/-- The guard seen from a monad that `m` lifts into. -/
def Guard.lift {m n : Type → Type} [MonadLiftT m n] (g : Guard m) : Guard n where
  permit := monadLift g.permit
  succeeded t := monadLift (g.succeeded t)
  failed t := monadLift (g.failed t)
  released t := monadLift (g.released t)
  cooldown := monadLift g.cooldown
  reject := monadLift g.reject

/-- Whether `now + wait` stays within the deadline. -/
def fits (deadline : Option Int) (now wait : Int) : Bool :=
  match deadline with
  | none => true
  | some d => now + wait ≤ d

/-- Where a turn leaves a run: ended with its report, or handed over to the next turn with the
attempts made so far, the last failure and the report so far. -/
inductive Step where
  | done (rep : Report)
  | next (made : Nat) (last : Option Fault) (rep : Report)

/-- **One turn** of the engine after `made` attempts, the last of which failed with `last`:
the checks before an attempt, then a refusal waited out or an attempt and what follows it. -/
def turn {m : Type → Type} [Monad m] (c : Config) (env : Env m) (g : Guard m)
    (classify : Fault → Bool) (attempt : Nat → Option Int → m (Option Fault))
    (deadline : Option Int) (made : Nat) (last : Option Fault) (rep : Report) : m Step := do
  if let some e ← env.shutdown then
    return .done { rep with err := Fault.join [some (.sentinel .interrupted), some e, last] }
  let t ← env.now
  if let some d := deadline then
    if t ≥ d then return .done { rep with err := Fault.join [some (.sentinel .deadlinePassed), last] }
  let (ticket, ok) ← g.permit
  if !ok then
    let rej ← g.reject
    let rep := { rep with rejections := rep.rejections + 1 }
    let cd ← g.cooldown
    let wait := if cd ≤ 0 then c.poll else cd
    env.observe (.rejected wait)
    let t ← env.now
    if !fits deadline t wait then
      return .done { rep with err := Fault.join [some (.sentinel .deadlinePassed), rej, last] }
    if (← env.sleep wait).isSome then
      return .done { rep with err := Fault.join [some (.sentinel .interrupted), rej, last] }
    return .next made last { rep with waited := Duration.wrap (rep.waited + wait) }
  else
    let made := made + 1
    let start ← env.now
    let err ← attempt made deadline
    let stop ← env.now
    let rep := { rep with attempts := rep.attempts ++ [Attempt.mk made err start (Duration.clamp (stop - start))] }
    env.observe (.attempted made err)
    match err with
    | none =>
      g.succeeded ticket
      return .done { rep with err := none }
    | some f =>
      if !classify f then
        g.released ticket
        return .done { rep with err := some f }
      g.failed ticket
      if (made : Int) > c.maxRetries then
        return .done { rep with err := Fault.join [some (.sentinel .exhausted), some f] }
      let r ← if c.jitters then env.draw else pure 0
      let wait := c.delay made r
      let t ← env.now
      if !fits deadline t wait then
        return .done { rep with err := Fault.join [some (.sentinel .deadlinePassed), some f] }
      env.observe (.backedOff wait)
      if (← env.sleep wait).isSome then
        return .done { rep with err := Fault.join [some (.sentinel .interrupted), some f] }
      return .next made (some f) { rep with waited := Duration.wrap (rep.waited + wait) }

/-- **The engine's loop**, for at most `fuel` more turns: the report of a run that ends within
them, and `none` for a run still going after them. The engine itself sets no bound on its
turns: a guard that keeps refusing, with no deadline, keeps it waiting. -/
def loop {m : Type → Type} [Monad m] (c : Config) (env : Env m) (g : Guard m)
    (classify : Fault → Bool) (attempt : Nat → Option Int → m (Option Fault))
    (deadline : Option Int) : Nat → Nat → Option Fault → Report → m (Option Report)
  | 0, _, _, _ => pure none
  | fuel + 1, made, last, rep => do
    match ← turn c env g classify attempt deadline made last rep with
    | .done rep => pure (some rep)
    | .next made last rep => loop c env g classify attempt deadline fuel made last rep

/-- **Running an attempt under a policy**, for at most `fuel` turns. The attempt gets its
number and the deadline. -/
def run {m : Type → Type} [Monad m] (fuel : Nat) (c : Config) (env : Env m) (g : Guard m)
    (classify : Fault → Bool) (attempt : Nat → Option Int → m (Option Fault)) :
    m (Option Report) := do
  let c := c.normalize
  let deadline ← if c.deadlineNs > 0 then (do return some ((← env.now) + c.deadlineNs)) else pure none
  loop c env g classify attempt deadline fuel 0 none {}

end Conveyor.Retry
