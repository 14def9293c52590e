import Conveyor.Pipeline.Runner
import Conveyor.Decimal.Layout
import Conveyor.Decimal.Binary
/-!
# Metrics

The metrics of a running pipeline, as sample lines.

Terminal outcomes are counted by topic, partition and outcome, and their durations go into a
histogram by outcome with fixed buckets in seconds. The outcome of a message with no fault is
its outcome's name; a message with a fault is `abandoned` when shutdown stopped it, else
`fatal`.

The stage and partition series are read from the runner's snapshot and the coordinator on
every scrape: each stage's breaker state (0 closed, 1 open, 2 half-open), messages by result,
attempts by result, retries, refused calls and time spent backing off; each partition's
committed offset, lag, pending offsets and whether it halted.

A sample line is `name{label="value",...} value` with the labels sorted by name and their
values quoted; a histogram gives `_bucket[le=B]` lines for each bound, `_count` and `_sum`.
Values are written with the fewest digits that read back, in scientific notation below
`1e-4` and from `1e6` on. The lines of a scrape are sorted.
-/

namespace Conveyor.Telemetry

open Pipeline

/-- The series' common prefix. -/
def namespacePrefix : String := "kafkabasic_"

/-- The upper bounds of the duration buckets, in seconds. -/
def latencyBounds : List Float := [0.001, 0.005, 0.01, 0.05, 0.1, 0.5, 1, 5, 30, 120]

/-- A histogram: the number of observations at most each bound, their count and sum. -/
structure Histogram where
  buckets : List Nat := latencyBounds.map fun _ => 0
  count : Nat := 0
  sum : Float := 0

/-- Adds an observation. -/
def Histogram.add (h : Histogram) (v : Float) : Histogram :=
  { buckets := (latencyBounds.zip h.buckets).map fun (b, n) => if v ≤ b then n + 1 else n,
    count := h.count + 1, sum := h.sum + v }

/-- The outcome counters and the duration histograms. -/
structure Metrics where
  outcomes : List ((String × Int × String) × Nat) := []
  latency : List (String × Histogram) := []

/-- **The outcome label** of a message. -/
def outcomeLabel (o : Option Outcome) (err : Option Fault) : String :=
  match err with
  | none => Outcome.name o
  | some f => if f.isa .abandoned then "abandoned" else "fatal"

/-- Nanoseconds as seconds: whole seconds plus the fraction. -/
def seconds (ns : Int) : Float :=
  Binary.ofInt (ns.tdiv 1000000000) + Binary.ofInt (ns.tmod 1000000000) / 1e9

/-- Adds one to the count under a key, appending the key when new. -/
def bump {κ : Type} [BEq κ] (xs : List (κ × Nat)) (k : κ) : List (κ × Nat) :=
  if xs.any (·.1 == k) then xs.map fun (k', n) => if k' == k then (k', n + 1) else (k', n)
  else xs ++ [(k, 1)]

/-- **Observing an outcome**: counts it and records its duration. -/
def Metrics.observe (mx : Metrics) (r : Record) (o : Option Outcome) (err : Option Fault)
    (elapsed : Int) : Metrics :=
  let label := outcomeLabel o err
  let v := seconds elapsed
  let latency := if mx.latency.any (·.1 == label) then
      mx.latency.map fun (l, h) => if l == label then (l, h.add v) else (l, h)
    else mx.latency ++ [(label, ({} : Histogram).add v)]
  { outcomes := bump mx.outcomes (r.topic, r.partition, label), latency }

/-- A value in a sample line. -/
def valueText (f : Float) : String := Decimal.formatFloat Decimal.Layout.general f

/-- The label part of a sample: sorted by name, values quoted; empty without labels. -/
def labelsText (labels : List (String × String)) : String :=
  if labels.isEmpty then "" else
  let sorted := labels.mergeSort fun a b => decide (a.1 ≤ b.1)
  "\x7b" ++ ",".intercalate (sorted.map fun (k, v) => k ++ "=" ++ Text.quote v) ++ "\x7d"

/-- One sample line. -/
def sample (name : String) (labels : List (String × String)) (v : Float) : String :=
  namespacePrefix ++ name ++ labelsText labels ++ " " ++ valueText v

/-- A count as a sample value. -/
def countValue (n : Nat) : Float := Binary.ofInt n

/-- The lines of a histogram. -/
def histogramLines (name : String) (labels : List (String × String)) (h : Histogram) : List String :=
  let head := namespacePrefix ++ name ++ labelsText labels
  (latencyBounds.zip h.buckets).map (fun (b, n) => head ++ "_bucket[le=" ++ valueText b ++ "] " ++ toString n) ++
    [head ++ "_count " ++ toString h.count, head ++ "_sum " ++ valueText h.sum]

/-- The lines of the outcome counters and histograms. -/
def Metrics.lines (mx : Metrics) : List String :=
  mx.outcomes.map (fun ((t, p, l), n) =>
      sample "messages_total" [("topic", t), ("partition", toString p), ("outcome", l)] (countValue n)) ++
    (mx.latency.map fun (l, h) => histogramLines "message_duration_seconds" [("outcome", l)] h).flatten

/-- The lines of one stage. -/
def stageLines (s : StageStatus) : List String :=
  let st := s.stats
  let stage := ("stage", s.name)
  [sample "breaker_state" [stage] (Binary.ofInt s.breaker.state.code),
   sample "stage_messages_total" [stage, ("result", "succeeded")] (countValue st.succeeded),
   sample "stage_messages_total" [stage, ("result", "failed")] (countValue st.failed),
   sample "stage_messages_total" [stage, ("result", "abandoned")] (countValue st.abandoned),
   sample "stage_attempts_total" [stage, ("result", "ok")] (countValue (st.attempts - st.attemptFailures)),
   sample "stage_attempts_total" [stage, ("result", "error")] (countValue st.attemptFailures),
   sample "stage_retries_total" [stage] (countValue st.retries),
   sample "stage_breaker_rejections_total" [stage] (countValue st.rejections),
   sample "stage_backoff_seconds_total" [stage] (seconds st.backoff)]

/-- The lines of one partition. -/
def partitionLines (p : PartitionStatus) : List String :=
  let labels := [("topic", p.topic), ("partition", toString p.partition)]
  [sample "partition_committed_offset" labels (Binary.ofInt p.committed),
   sample "partition_lag" labels (Binary.ofInt p.lag),
   sample "partition_pending" labels (countValue p.pending),
   sample "partition_halted" labels (if p.halted then 1 else 0)]

/-- **A scrape**: the outcome series, then the stage and partition series, sorted. -/
def scrape (mx : Metrics) (stages : List StageStatus) (partitions : List PartitionStatus) : List String :=
  (mx.lines ++ (stages.map stageLines).flatten ++ (partitions.map partitionLines).flatten).mergeSort
    fun a b => decide (a ≤ b)

/-- A label value as the exposition format writes it: backslash, quote and line break
escaped. -/
def exposedValue (v : String) : String :=
  "\"" ++ String.join (v.toList.map fun c =>
    if c == '\\' then "\\\\" else if c == '"' then "\\\"" else if c == '\n' then "\\n" else String.singleton c) ++ "\""

/-- The label part of an exposed sample: the labels sorted by name, then the extra ones. -/
def exposedLabels (labels extra : List (String × String)) : String :=
  let all := labels.mergeSort (fun a b => decide (a.1 ≤ b.1)) ++ extra
  if all.isEmpty then "" else
  "\x7b" ++ ",".intercalate (all.map fun (k, v) => k ++ "=" ++ exposedValue v) ++ "\x7d"

/-- One exposed sample line. -/
def exposedSample (name : String) (labels : List (String × String)) (v : Float) : String :=
  namespacePrefix ++ name ++ exposedLabels labels [] ++ " " ++ valueText v

/-- The exposed lines of a histogram: a cumulative bucket per bound and one for every
observation (`+Inf`), each labelled `le` after the others, then the sum and the count. -/
def histogramExposed (name : String) (labels : List (String × String)) (h : Histogram) : List String :=
  let full := namespacePrefix ++ name
  (latencyBounds.zip h.buckets).map (fun (b, n) =>
      full ++ "_bucket" ++ exposedLabels labels [("le", valueText b)] ++ " " ++ toString n) ++
    [full ++ "_bucket" ++ exposedLabels labels [("le", "+Inf")] ++ " " ++ toString h.count,
     full ++ "_sum" ++ exposedLabels labels [] ++ " " ++ valueText h.sum,
     full ++ "_count" ++ exposedLabels labels [] ++ " " ++ toString h.count]

/-- **The exposition's sample lines** of the engine's series, sorted: the outcome counters
and duration histograms, then the stage and partition series. -/
def exposedLines (mx : Metrics) (stages : List StageStatus) (partitions : List PartitionStatus) :
    List String :=
  let outcomes := mx.outcomes.map fun ((t, p, l), n) =>
    exposedSample "messages_total" [("topic", t), ("partition", toString p), ("outcome", l)] (countValue n)
  let latency := (mx.latency.map fun (l, h) => histogramExposed "message_duration_seconds" [("outcome", l)] h).flatten
  (outcomes ++ latency ++ (stages.map stageLines).flatten ++ (partitions.map partitionLines).flatten).mergeSort
    fun a b => decide (a ≤ b)

end Conveyor.Telemetry
