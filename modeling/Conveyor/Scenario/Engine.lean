import Conveyor.Scenario.Pipeline
import Conveyor.Engine.Run
/-!
# Engine scenarios

An engine scenario runs the engine over a scripted runner: the runner answers probes with
the scripted faults, shows the given stages, fails with the scripted fault and closes with
another. The answer is the status before the run, the run's fault, the status after it and,
when asked, the logs.
-/

namespace Conveyor.Scenario

open Conveyor.Json

/-- A stage view of a description; the breaker's state is given by its number. -/
def stageViewOf (j : Json) : Engine.StageView :=
  { name := str j "name", breaker := CircuitState.nameOfCode (int j "state"),
    consecutiveFailures := nat j "consecutive_failures", messages := nat j "messages",
    succeeded := nat j "succeeded", failed := nat j "failed", abandoned := nat j "abandoned",
    attempts := nat j "attempts", retries := nat j "retries", rejections := nat j "rejections",
    backoffNs := int j "backoff_ms" * 1000000 }

/-- An engine scenario. -/
def engineRunScenario (j : Json) : Json :=
  let stages := (list j "stages").map stageViewOf
  let o := Engine.run (flag j "cancelled") ((list j "health").map faultItem) (fault j "run_err")
    (fault j "close_err")
  let status (h : Engine.Health) := (Engine.Status.ofViews h.last stages []).json
  let logs := match given j "logs" with
    | some l => [("logs", Json.list Json.text ((logOptionsOf l).lines o.logs))]
    | none => []
  Json.obj ([("err", faultJson o.fault), ("status_before", status {}), ("status", status o.health)] ++ logs)

end Conveyor.Scenario
