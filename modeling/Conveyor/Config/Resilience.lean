import Conveyor.Settings.Weak
import Conveyor.Config.File
import Conveyor.Retry.Policy
import Conveyor.Fault
/-!
# Resilience settings

How messages are retried, how circuit breakers trip, and how many workers run: retries after
the first attempt, the backoff from a base up to a ceiling with a jitter fraction, the failures
that open a circuit and how long it stays open, the probes let through when half open, the
deadline for each message, and the worker count.

They come from defaults, then a YAML file (a missing file is no error), then environment
variables named `KAFKABASIC_RESILIENCE__...`. A file may say `schema_version: v1`; another
version is refused before the environment is read. Valid settings have no negative retry
count or backoff, a ceiling no lower than the base, a jitter within `[0, 1]`, and positive
threshold, cool-down, probes, deadline and worker count; every broken rule is reported, one
per line, in that order.
-/

namespace Conveyor.Config

open Conveyor.Yaml Conveyor.Settings

/-- The resilience settings; durations are in nanoseconds. -/
structure Resilience where
  maxRetries : Int := 3
  baseBackoff : Int := Duration.second
  maxBackoff : Int := 10 * Duration.second
  jitter : Float := 0.2
  failureThreshold : Int := 5
  openCooldown : Int := 30 * Duration.second
  halfOpenMaxProbes : Int := 1
  processingDeadline : Int := Duration.minute
  workerParallelism : Int := 20

namespace Resilience

/-- The settings with every field zero. -/
def zero : Resilience :=
  { maxRetries := 0, baseBackoff := 0, maxBackoff := 0, jitter := 0, failureThreshold := 0,
    openCooldown := 0, halfOpenMaxProbes := 0, processingDeadline := 0, workerParallelism := 0 }

/-- Whether every field is zero. -/
def isZero (r : Resilience) : Bool :=
  r.maxRetries == 0 && r.baseBackoff == 0 && r.maxBackoff == 0 && r.jitter == 0 &&
    r.failureThreshold == 0 && r.openCooldown == 0 && r.halfOpenMaxProbes == 0 &&
    r.processingDeadline == 0 && r.workerParallelism == 0

/-- The prefix of the environment variables. -/
def envPrefix : String := "KAFKABASIC_RESILIENCE__"

/-- The schema version files may declare. -/
def schema : String := "v1"

/-- The shape the settings are read into. -/
def shape : Shape :=
  .record "config.Resilience"
    [("max_retries", .int "int" 64), ("base_backoff", .duration), ("max_backoff", .duration),
     ("jitter", .float "float64"), ("failure_threshold", .int "int" 64),
     ("open_cooldown", .duration), ("half_open_max_probes", .int "int" 64),
     ("processing_deadline", .duration), ("worker_parallelism", .int "int" 64)]

/-- The settings as plain data, keyed as in files. -/
def toDatum (r : Resilience) : Datum :=
  .map [("max_retries", .int r.maxRetries), ("base_backoff", .int r.baseBackoff),
    ("max_backoff", .int r.maxBackoff), ("jitter", .float r.jitter),
    ("failure_threshold", .int r.failureThreshold), ("open_cooldown", .int r.openCooldown),
    ("half_open_max_probes", .int r.halfOpenMaxProbes),
    ("processing_deadline", .int r.processingDeadline),
    ("worker_parallelism", .int r.workerParallelism)]

/-- The settings from plain data keyed as in files. -/
def ofDatum (d : Datum) : Resilience where
  maxRetries := d.intAt "max_retries"
  baseBackoff := d.intAt "base_backoff"
  maxBackoff := d.intAt "max_backoff"
  jitter := d.floatAt "jitter"
  failureThreshold := d.intAt "failure_threshold"
  openCooldown := d.intAt "open_cooldown"
  halfOpenMaxProbes := d.intAt "half_open_max_probes"
  processingDeadline := d.intAt "processing_deadline"
  workerParallelism := d.intAt "worker_parallelism"

/-- **The broken rules**, in order. -/
def problems (r : Resilience) : List String :=
  (if r.maxRetries < 0 then ["max_retries must be >= 0, got " ++ toString r.maxRetries] else []) ++
  (if r.baseBackoff < 0 || r.maxBackoff < 0 then ["backoff durations must be >= 0"] else []) ++
  (if r.maxBackoff < r.baseBackoff then
    ["max_backoff " ++ Duration.text r.maxBackoff ++ " below base_backoff " ++ Duration.text r.baseBackoff]
   else []) ++
  (if r.jitter < 0 || r.jitter > 1 then
    ["jitter must be within [0,1], got " ++ Decimal.formatFloat Decimal.Layout.general r.jitter]
   else []) ++
  (if r.failureThreshold ≤ 0 then ["failure_threshold must be > 0, got " ++ toString r.failureThreshold] else []) ++
  (if r.openCooldown ≤ 0 then ["open_cooldown must be > 0, got " ++ Duration.text r.openCooldown] else []) ++
  (if r.halfOpenMaxProbes ≤ 0 then ["half_open_max_probes must be > 0, got " ++ toString r.halfOpenMaxProbes] else []) ++
  (if r.processingDeadline ≤ 0 then ["processing_deadline must be > 0, got " ++ Duration.text r.processingDeadline] else []) ++
  (if r.workerParallelism ≤ 0 then ["worker_parallelism must be > 0, got " ++ toString r.workerParallelism] else [])

/-- **Validating settings**: every broken rule, joined. -/
def validate (r : Resilience) : Option Fault :=
  match r.problems with
  | [] => none
  | ps => some (.joined (ps.map Fault.text))

/-- The retry policy the settings give. -/
def retry (r : Resilience) : Retry.Config :=
  { maxRetries := r.maxRetries, baseNs := r.baseBackoff, maxNs := r.maxBackoff, jitter := r.jitter,
    deadlineNs := r.processingDeadline }

/-- **Loading the settings** from a file at `path` (none to skip it), read as `file` gives,
and the environment. A refused file or version gives zero settings; settings that cannot
be read are returned as far as they were read. -/
def load (path : String) (file : FileRead) (env : List (String × String)) : Resilience × Option Fault :=
  let layer : Except String Tree :=
    if path.isEmpty then .ok []
    else match file with
      | .text t => yamlLayer t
      | .missing => .ok []
      | .directory => .error ((FileRead.directory.error path).getD "")
  match layer with
  | .error e => (zero, some (.text e))
  | .ok tree =>
    let sv := tree.text "schema_version"
    if sv != "" && sv != schema then
      (zero, some (.text ("resilience schema_version " ++ Text.quote sv ++ " not supported (want v1)")))
    else
      let tree := merge 64 (envLayer envPrefix env) tree
      let (d, msgs) := readLoose 64 "" (.map tree) shape ({} : Resilience).toDatum
      let r := ofDatum d
      if msgs.isEmpty then (r, r.validate) else (r, some (.text (looseMessage msgs)))

end Resilience

end Conveyor.Config
