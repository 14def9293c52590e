import Conveyor.Fault
import Conveyor.Time.Duration
/-!
# Circuit breakers

A breaker guards calls to a dependency. It starts closed and lets every call through; a run
of `failureThreshold` consecutive failures opens it. While open it refuses calls until
`cooldownNs` has passed since it opened; then it lets at most `maxProbes` trial calls through
in the half-open state. A successful trial closes it again, a failed one opens it again.

Every change of state starts a new *generation*. Admitting a call hands out the current
generation as a ticket, and an outcome reported with an older ticket is ignored: a slow call
admitted while closed cannot decide a later trial.

Time is passed in by the caller, as nanoseconds on the engine's clock.

Main definitions: `Breaker.permit`, `Breaker.succeeded`, `Breaker.failed`, `Breaker.released`,
`Breaker.cooldown`.
-/

namespace Conveyor

/-- Where a breaker stands. -/
inductive CircuitState where
  | closed
  | opened
  | halfOpen
  deriving DecidableEq, Repr

/-- The name of a state. -/
def CircuitState.name : CircuitState → String
  | .closed => "CLOSED" | .opened => "OPEN" | .halfOpen => "HALF_OPEN"

/-- The name of a state given by its number: `0`, `1`, `2` for closed, open and half-open,
and `State(n)` for any other number. -/
def CircuitState.nameOfCode (n : Int) : String :=
  match n with
  | 0 => "CLOSED" | 1 => "OPEN" | 2 => "HALF_OPEN"
  | _ => "State(" ++ toString n ++ ")"

/-- The number of a state. -/
def CircuitState.code : CircuitState → Int
  | .closed => 0 | .opened => 1 | .halfOpen => 2

/-- How a breaker trips and recovers. -/
structure BreakerConfig where
  failureThreshold : Nat := 5
  cooldownNs : Int := 30 * Duration.second
  maxProbes : Nat := 1

/-- A configuration from raw values, each value that is not positive replaced by its default:
five failures, thirty seconds, one probe. -/
def BreakerConfig.ofRaw (threshold cooldownNs probes : Int) : BreakerConfig where
  failureThreshold := if threshold ≤ 0 then 5 else threshold.toNat
  cooldownNs := if cooldownNs ≤ 0 then 30 * Duration.second else cooldownNs
  maxProbes := if probes ≤ 0 then 1 else probes.toNat

/-- A circuit breaker. -/
structure Breaker where
  name : String
  config : BreakerConfig
  state : CircuitState := .closed
  failures : Nat := 0
  successes : Nat := 0
  /-- When the breaker last opened; `none` if it never did. -/
  openedAt : Option Int := none
  /-- Trial calls admitted in the half-open state and not yet reported. -/
  probes : Nat := 0
  generation : Nat := 0

namespace Breaker

/-- A closed breaker. -/
def create (name : String) (config : BreakerConfig) : Breaker := { name, config }

/-- Nanoseconds since the breaker opened. -/
def elapsed (b : Breaker) (now : Int) : Int :=
  match b.openedAt with
  | some t => now - t
  | none => Int.pow 2 63 - 1

/-- **Admitting a call**: the ticket and whether the call may go ahead. An open breaker whose
cool-down has passed turns half-open and admits this call as its first trial. -/
def permit (b : Breaker) (now : Int) : (Nat × Bool) × Breaker :=
  match b.state with
  | .closed => ((b.generation, true), b)
  | .opened =>
    if b.elapsed now ≥ b.config.cooldownNs then
      let b := { b with state := .halfOpen, generation := b.generation + 1, probes := 1, successes := 0 }
      ((b.generation, true), b)
    else ((b.generation, false), b)
  | .halfOpen =>
    if b.probes < b.config.maxProbes then ((b.generation, true), { b with probes := b.probes + 1 })
    else ((b.generation, false), b)

/-- Opens the breaker now. -/
def trip (b : Breaker) (now : Int) : Breaker :=
  { b with state := .opened, generation := b.generation + 1, openedAt := some now,
           successes := 0, probes := 0 }

/-- **Reporting a success** for a ticket: counts it while closed, closes a half-open breaker. -/
def succeeded (b : Breaker) (ticket : Nat) : Breaker :=
  if ticket ≠ b.generation then b else
  match b.state with
  | .closed => { b with failures := 0, successes := b.successes + 1 }
  | .halfOpen =>
    { b with state := .closed, generation := b.generation + 1, failures := 0, successes := 1, probes := 0 }
  | .opened => b

/-- **Reporting a failure** for a ticket: counts it while closed and opens the breaker at the
threshold; reopens a half-open breaker. -/
def failed (b : Breaker) (ticket : Nat) (now : Int) : Breaker :=
  if ticket ≠ b.generation then b else
  match b.state with
  | .closed =>
    let b := { b with failures := b.failures + 1, successes := 0 }
    if b.failures ≥ b.config.failureThreshold then b.trip now else b
  | .halfOpen => ({ b with failures := b.failures + 1 }).trip now
  | .opened => b

/-- **Giving back a trial** without judging the dependency. -/
def released (b : Breaker) (ticket : Nat) : Breaker :=
  if ticket = b.generation && b.state == .halfOpen && b.probes > 0 then { b with probes := b.probes - 1 }
  else b

/-- **How long the breaker keeps refusing**: the cool-down left while open, else zero. -/
def cooldown (b : Breaker) (now : Int) : Int :=
  if b.state == .opened then max 0 (b.config.cooldownNs - b.elapsed now) else 0

/-- The failure given to a refused caller. -/
def reject (b : Breaker) (now : Int) : Fault := .circuitOpen b.name (b.cooldown now)

/-- Whether a trial call is under way. -/
def probeInFlight (b : Breaker) : Bool := b.state == .halfOpen && b.probes > 0

end Breaker

/-- Breakers by name, each made closed on first use with one configuration. -/
structure BreakerRegistry where
  config : BreakerConfig
  breakers : List Breaker := []

namespace BreakerRegistry

/-- The breaker of a name, made if there is none yet. -/
def get (r : BreakerRegistry) (name : String) : Breaker × BreakerRegistry :=
  match r.breakers.find? (·.name == name) with
  | some b => (b, r)
  | none =>
    let b := Breaker.create name r.config
    (b, { r with breakers := r.breakers ++ [b] })

/-- Stores a breaker under its name. -/
def put (r : BreakerRegistry) (b : Breaker) : BreakerRegistry :=
  if r.breakers.any (·.name == b.name) then
    { r with breakers := r.breakers.map fun x => if x.name == b.name then b else x }
  else { r with breakers := r.breakers ++ [b] }

/-- All breakers, sorted by name. -/
def sorted (r : BreakerRegistry) : List Breaker :=
  r.breakers.mergeSort fun a b => decide (a.name ≤ b.name)

end BreakerRegistry

end Conveyor
