import Conveyor.Scenario.Codec
import Conveyor.Breaker
/-!
# Breaker scenarios

A breaker, or a registry of breakers, driven by a list of operations on a clock that only
moves when told to. Each step answers the operation's result; a single breaker's steps also
answer its snapshot after the step and the changes of state during it.
-/

namespace Conveyor.Scenario

/-- A breaker's configuration from its description. -/
def breakerConfigOf (j : Json) : BreakerConfig :=
  BreakerConfig.ofRaw (int j "failure_threshold") (millis j "open_cooldown_ms") (int j "half_open_max_probes")

/-- A time on the clock in an answer: `null` for no time. -/
def instantJson : Option Int → Json
  | some t => Json.int (Duration.clamp t)
  | none => .null

/-- A breaker's snapshot. -/
def breakerJson (b : Breaker) : Json :=
  Json.obj [("name", Json.text b.name), ("state", Json.text b.state.name),
    ("consecutive_failures", Json.nat b.failures), ("consecutive_successes", Json.nat b.successes),
    ("opened_at_ns", instantJson b.openedAt), ("probe_in_flight", .bool b.probeInFlight)]

/-- **One operation on a breaker** at time `now`: its result, the breaker after it, and the
clock after it. -/
def breakerStep (b : Breaker) (now : Int) (op : Json) : Json × Breaker × Int :=
  let ticket := nat op "ticket"
  match str op "do" with
  | "admit" =>
    let ((t, ok), b) := b.permit now
    (Json.obj [("ticket", Json.nat t), ("ok", .bool ok)], b, now)
  | "allow" =>
    let ((_, ok), b) := b.permit now
    (.bool ok, b, now)
  | "succeeded" => (.null, b.succeeded ticket, now)
  | "failed" => (.null, b.failed ticket now, now)
  | "released" => (.null, b.released ticket, now)
  | "record_success" => (.null, b.succeeded b.generation, now)
  | "record_failure" => (.null, b.failed b.generation now, now)
  | "advance" => (.null, b, now + millis op "ms")
  | "cooldown" => (Json.int (b.cooldown now), b, now)
  | "reject" => (faultJson (some (b.reject now)), b, now)
  | "state" => (Json.text b.state.name, b, now)
  | "state_text" => (Json.obj [("text", Json.text b.state.name), ("err", .null)], b, now)
  | "name" => (Json.text b.name, b, now)
  | _ => (.null, b, now)

/-- The change of state between two breakers, if any. -/
def changeOf (before after : Breaker) : List (CircuitState × CircuitState) :=
  if before.state == after.state then [] else [(before.state, after.state)]

/-- A change of state as `FROM->TO`. -/
def changeText (c : CircuitState × CircuitState) : String := c.1.name ++ "->" ++ c.2.name

/-- Runs breaker steps, answering each with its result, snapshot and changes. -/
def breakerSteps (b : Breaker) (now : Int) : List Json → List Json
  | [] => []
  | op :: ops =>
    let (res, b', now') := breakerStep b now op
    Json.obj [("result", res), ("snapshot", breakerJson b'),
      ("transitions", Json.list (fun (x, y) => Json.text (b.name ++ ":" ++ x.name ++ "->" ++ y.name))
        (changeOf b b'))] :: breakerSteps b' now' ops

/-- A breaker scenario. -/
def breakerScenario (j : Json) : Json :=
  let b := Breaker.create (str j "name") (breakerConfigOf ((j.get? "config").getD .null))
  Json.obj [("steps", .array (breakerSteps b 0 (list j "ops")))]

/-- Runs registry steps. -/
def registrySteps (r : BreakerRegistry) (now : Int) : List Json → List Json
  | [] => []
  | op :: ops =>
    if str op "do" == "snapshots" then
      .array (r.sorted.map breakerJson) :: registrySteps r now ops
    else
      let (b, r) := r.get (str op "name")
      let (res, b, now) := breakerStep b now op
      res :: registrySteps (r.put b) now ops

/-- A breaker-registry scenario. -/
def registryScenario (j : Json) : Json :=
  let r : BreakerRegistry := { config := breakerConfigOf ((j.get? "config").getD .null) }
  Json.obj [("steps", .array (registrySteps r 0 (list j "ops")))]

end Conveyor.Scenario
