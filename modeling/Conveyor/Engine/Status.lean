import Conveyor.Pipeline.Runner
import Conveyor.Json.Value
import Conveyor.Decimal.Layout
import Conveyor.Decimal.Binary
/-!
# Engine status

The aggregate health view of an engine: whether it is healthy, the source's health (`UNKNOWN`
before the first probe, `UP`, or `DOWN: ` and the fault), every stage of the runner's
snapshot (its breaker's state by name, and its counters), and every open partition. The
engine is healthy when the last probe succeeded and no partition halted.
-/

namespace Conveyor.Engine

open Pipeline

/-- A stage as the status shows it: its breaker's state by name, and its counters. -/
structure StageView where
  name : String
  breaker : String
  consecutiveFailures : Nat := 0
  messages : Nat := 0
  succeeded : Nat := 0
  failed : Nat := 0
  abandoned : Nat := 0
  attempts : Nat := 0
  retries : Nat := 0
  rejections : Nat := 0
  backoffNs : Int := 0

/-- The view of a stage of a runner's snapshot. -/
def StageView.of (s : StageStatus) : StageView :=
  { name := s.name, breaker := s.breaker.state.name, consecutiveFailures := s.breaker.failures,
    messages := s.stats.messages, succeeded := s.stats.succeeded, failed := s.stats.failed,
    abandoned := s.stats.abandoned, attempts := s.stats.attempts, retries := s.stats.retries,
    rejections := s.stats.rejections, backoffNs := s.stats.backoff }

/-- The status of an engine. -/
structure Status where
  healthy : Bool
  source : String
  stages : List StageView
  partitions : List PartitionStatus

/-- **The status** from the last probe's result (`none` before any probe), the stages and the
open partitions. -/
def Status.ofViews (probe : Option (Option Fault)) (stages : List StageView)
    (partitions : List PartitionStatus) : Status :=
  let source := match probe with
    | none => "UNKNOWN"
    | some none => "UP"
    | some (some f) => "DOWN: " ++ f.message
  let up := match probe with
    | some none => true
    | _ => false
  let healthy := up && !partitions.any (·.halted)
  { healthy, source, stages, partitions }

/-- The status over a runner's snapshot. -/
def Status.of (probe : Option (Option Fault)) (stages : List StageStatus)
    (partitions : List PartitionStatus) : Status :=
  Status.ofViews probe (stages.map StageView.of) partitions

/-- A float in JSON. -/
def floatJson (f : Float) : Json := .number (Decimal.formatFloat Decimal.Layout.json f)

/-- Nanoseconds as seconds. -/
def seconds (ns : Int) : Float :=
  Binary.ofInt (ns.tdiv 1000000000) + Binary.ofInt (ns.tmod 1000000000) / 1e9

/-- A stage of the status in JSON. -/
def stageJson (s : StageView) : Json :=
  Json.obj [("name", Json.text s.name), ("breaker", Json.text s.breaker),
    ("consecutive_failures", Json.nat s.consecutiveFailures), ("messages", Json.nat s.messages),
    ("succeeded", Json.nat s.succeeded), ("failed", Json.nat s.failed),
    ("abandoned", Json.nat s.abandoned), ("attempts", Json.nat s.attempts),
    ("retries", Json.nat s.retries), ("rejections", Json.nat s.rejections),
    ("backoff_seconds", floatJson (seconds s.backoffNs))]

/-- A partition of the status in JSON; the fault's text is left out when empty. -/
def partitionJson (p : PartitionStatus) : Json :=
  Json.obj ([("topic", Json.text p.topic), ("partition", Json.int p.partition),
    ("committed", Json.int p.committed), ("pending", Json.nat p.pending), ("lag", Json.int p.lag),
    ("halted", .bool p.halted)] ++ (if p.err.isEmpty then [] else [("error", Json.text p.err)]))

/-- **The status in JSON.** -/
def Status.json (s : Status) : Json :=
  Json.obj [("healthy", .bool s.healthy), ("source", Json.text s.source),
    ("stages", Json.list stageJson s.stages), ("partitions", Json.list partitionJson s.partitions)]

end Conveyor.Engine
