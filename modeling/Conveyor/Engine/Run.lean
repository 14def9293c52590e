import Conveyor.Engine.Status
import Conveyor.Log
/-!
# The engine's run

An engine runs a runner beside a health loop. The loop probes the source's health, first at
once and then on every tick, and remembers the last probe's fault; it logs only a change
between healthy and unhealthy (and the first probe, which is always a change). A probe that
ends after the run's context ended is not recorded.

When the runner stops, the engine logs it (with its fault, if it failed), stops the loop, and
closes the runner: the run's fault joins the runner's fault and the close fault.

The runner modelled here stops once the loop has recorded every probe it was scripted to
answer; a run whose context was cancelled before it began records no probe, and its runner
stops with the context's fault.

* `Health.record` is one probe: the new knowledge and the change it logs.
* `run` is the whole run: the health known afterwards, the logs in order and the fault.
-/

namespace Conveyor.Engine

/-- What the engine knows of the source's health. -/
structure Health where
  /-- The last probe's fault; `none` before the first probe. -/
  last : Option (Option Fault) := none

/-- The entry that logs a probe which changed the health. -/
def changeEntry : Option Fault → Log.Entry
  | some f => ⟨.warn, "source unhealthy", [("err", .str f.message)]⟩
  | none => ⟨.info, "source healthy", []⟩

/-- Whether a probe changes what is known: the first probe always does, a later one when it
turns healthy into unhealthy or back. -/
def Health.changes (h : Health) (r : Option Fault) : Bool :=
  match h.last with
  | none => true
  | some k => k.isNone != r.isNone

/-- **Recording a probe**: the probe becomes the last one, and a change is logged. -/
def Health.record (h : Health) (r : Option Fault) : Health × List Log.Entry :=
  ({ last := some r }, if h.changes r then [changeEntry r] else [])

/-- Records probes in order, collecting what they log. -/
def Health.recordAll (h : Health) : List (Option Fault) → Health × List Log.Entry
  | [] => (h, [])
  | r :: rest =>
    let (h, logged) := h.record r
    let (h, more) := h.recordAll rest
    (h, logged ++ more)

/-- The entry that logs the runner's stop. -/
def stoppedEntry : Option Fault → Log.Entry
  | some f => ⟨.error, "pipeline stopped", [("err", .str f.message)]⟩
  | none => ⟨.info, "pipeline stopped", []⟩

/-- How a run ended: the health known afterwards, what it logged, and its fault. -/
structure RunEnd where
  health : Health
  logs : List Log.Entry
  fault : Option Fault

/-- **A run of the engine** over a runner scripted with `probes` (an empty script answers
healthy), which logs `runnerLogs`, fails with `runFault` and closes with `closeFault`. A
cancelled run records nothing and its runner stops with the context's fault. -/
def run (cancelled : Bool) (probes : List (Option Fault)) (runFault closeFault : Option Fault)
    (runnerLogs : List Log.Entry := []) : RunEnd :=
  let (health, logged) :=
    if cancelled then (({} : Health), [])
    else ({} : Health).recordAll (if probes.isEmpty then [none] else probes)
  let stopped := if cancelled then some (Fault.sentinel .canceled) else runFault
  { health, logs := logged ++ runnerLogs ++ [stoppedEntry stopped],
    fault := Fault.join [stopped, closeFault] }

end Conveyor.Engine
