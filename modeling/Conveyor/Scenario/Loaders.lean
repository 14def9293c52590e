import Conveyor.Scenario.Retry
import Conveyor.Config.Resilience
import Conveyor.Config.Kafka
import Conveyor.Config.Memory
import Conveyor.Config.Pipeline
import Conveyor.Source.Memory
/-!
# Settings scenarios

A settings scenario gives a file's text (or `null` for no file), the environment, and
optionally the path the loader is handed, relative to a directory written `$DIR`; the file
itself is `$DIR/<name>.yml`. The answer is the loaded settings and the error.

Two more scenarios check resilience settings given in milliseconds, and seed an in-memory
log from settings given as JSON.
-/

namespace Conveyor.Scenario

open Conveyor.Json Conveyor.Config

/-- The directory settings files are written to, as answers show it. -/
def settingsDir : String := "$DIR"

/-- The path a loader is handed: the file's own, the empty path, or one under the directory. -/
def loaderPath (j : Json) (file : String) : String :=
  match j.get? "path" with
  | some (.string p) =>
    let p := String.fromUTF8! p
    if p.isEmpty then "" else joinPath settingsDir p
  | _ => settingsDir ++ "/" ++ file

/-- What reading a path gives: the scenario's text at the file's own path, a directory at
the directory, and nothing elsewhere. -/
def fileAt (j : Json) (file path : String) : FileRead :=
  if path.isEmpty then .missing
  else if cleanPath path == settingsDir ++ "/" ++ file then
    match (given j "yaml").bind Json.str? with
    | some text => .text text
    | none => .missing
  else if cleanPath path == settingsDir then .directory
  else .missing

/-- A list of strings in an answer, `null` for none. -/
def strsJson : Option (List String) → Json
  | none => .null
  | some xs => Json.list Json.text xs

/-! ### Resilience -/

/-- Resilience settings in an answer. -/
def resilienceJson (r : Resilience) : Json :=
  Json.obj [("max_retries", Json.int r.maxRetries), ("base_backoff_ns", Json.int r.baseBackoff),
    ("max_backoff_ns", Json.int r.maxBackoff), ("jitter", floatJson r.jitter),
    ("failure_threshold", Json.int r.failureThreshold), ("open_cooldown_ns", Json.int r.openCooldown),
    ("half_open_max_probes", Json.int r.halfOpenMaxProbes),
    ("processing_deadline_ns", Json.int r.processingDeadline),
    ("worker_parallelism", Json.int r.workerParallelism)]

/-- A breaker's settings, as resilience settings give them, in an answer. -/
def breakerPartJson (r : Resilience) : Json :=
  Json.obj [("failure_threshold", Json.int r.failureThreshold), ("open_cooldown_ns", Json.int r.openCooldown),
    ("half_open_max_probes", Json.int r.halfOpenMaxProbes)]

/-- **Loading resilience settings.** -/
def loadResilienceScenario (j : Json) : Json :=
  let path := loaderPath j "resilience.yml"
  let (r, err) := Resilience.load path (fileAt j "resilience.yml" path) (envOf j)
  if err.isSome && r.isZero then Json.obj [("err", faultJson err)]
  else
    Json.obj [("err", faultJson err), ("config", resilienceJson r), ("retry", retryConfigJson r.retry),
      ("breaker", breakerPartJson r)]

/-- **Validating resilience settings** given in milliseconds. -/
def resilienceValidateScenario (j : Json) : Json :=
  let r : Resilience :=
    { maxRetries := int j "max_retries", baseBackoff := millis j "base_backoff_ms",
      maxBackoff := millis j "max_backoff_ms", jitter := float j "jitter",
      failureThreshold := int j "failure_threshold", openCooldown := millis j "open_cooldown_ms",
      halfOpenMaxProbes := int j "half_open_max_probes",
      processingDeadline := millis j "processing_deadline_ms",
      workerParallelism := int j "worker_parallelism" }
  Json.obj [("err", faultJson r.validate), ("default", resilienceJson {}),
    ("retry_effective", retryConfigJson r.retry.normalize)]

/-! ### Kafka -/

/-- Kafka source settings in an answer. -/
def kafkaSettingsJson (c : KafkaSettings) : Json :=
  Json.obj [("brokers", strsJson c.brokers), ("topics", strsJson c.topics),
    ("group_id", Json.text c.groupId), ("client_id", Json.text c.clientId),
    ("start_from", Json.text c.startFrom), ("version", Json.text c.version),
    ("tls_enabled", .bool c.tlsEnabled), ("sasl_user", Json.text c.saslUser),
    ("sasl_pass", Json.text c.saslPass), ("health_timeout_ns", Json.int c.healthTimeout),
    ("backpressure_capacity", Json.int c.capacity), ("commit_interval_ns", Json.int c.commitInterval),
    ("topic_admin", Json.obj [("ensure", .bool c.topicAdmin.ensure),
      ("partitions", Json.int c.topicAdmin.partitions),
      ("replication_factor", Json.int c.topicAdmin.replicationFactor),
      ("dead_letter_suffix", Json.text c.topicAdmin.deadLetterSuffix)])]

/-- **Loading Kafka source settings.** -/
def loadKafkaScenario (j : Json) : Json :=
  let path := loaderPath j "kafka.yml"
  let (c, err) := KafkaSettings.load path (fileAt j "kafka.yml" path) (envOf j)
  Json.obj [("err", faultJson err), ("config", kafkaSettingsJson c)]

/-! ### The in-memory log -/

/-- A seeded record in an answer. -/
def seedRecordJson (r : SeedRecord) : Json :=
  Json.obj [("partition", Json.int r.partition), ("key", Json.text r.key), ("value", Json.text r.value),
    ("headers", match r.headers with
      | none => .null
      | some hs => Json.obj (hs.map fun (k, v) => (k, Json.text v)))]

/-- In-memory log settings in an answer. -/
def memorySettingsJson (c : MemorySettings) : Json :=
  Json.obj [("topic", Json.text c.topic), ("partitions", Json.int c.partitions),
    ("records", Json.list seedRecordJson (c.records.getD [])),
    ("stop_when_drained", .bool c.stopWhenDrained), ("partition_capacity", Json.int c.partitionCapacity)]

/-- **Loading in-memory log settings.** -/
def loadMemoryScenario (j : Json) : Json :=
  let path := loaderPath j "memory.yml"
  let (c, err) := MemorySettings.load path (fileAt j "memory.yml" path)
  Json.obj [("err", faultJson err), ("config", memorySettingsJson c)]

/-- The settings of a seeding description. -/
def seedSettingsOf (j : Json) : MemorySettings :=
  { topic := str j "topic", partitions := int j "partitions",
    records := some ((list j "records").map fun r =>
      { partition := int r "partition", key := str r "key", value := str r "value",
        headers := (given r "headers").map fun h => h.members.filterMap fun (k, v) => v.str?.map (k, ·) }),
    stopWhenDrained := flag j "stop_when_drained" }

/-- A log's partitions in an answer. -/
def memoryLogJson (log : MemoryLog) : Json :=
  Json.obj [("topic", Json.text log.topic),
    ("partitions", Json.list (fun p => Json.obj [("high_water", Json.int (log.highWater p)),
      ("committed", Json.int (log.committedAt p))]) (List.range log.partitions))]

/-- **Configuring the in-memory source.** -/
def memoryConfigureScenario (j : Json) : Json :=
  if flag j "run_unconfigured" then
    Json.obj [("run_err", faultJson (some (.text "memory: driver not configured")))]
  else if flag j "wrong_type" then
    Json.obj [("err", faultJson (some (.text "memory: expected Config, got *memory.Config")))]
  else
    let (log, err) := MemoryLog.seed (seedSettingsOf ((j.get? "config").getD .null))
    Json.obj [("err", faultJson err), ("log", memoryLogJson log)]

/-! ### Pipeline files -/

/-- Kafka sink settings in an answer, with the file's field names. -/
def kafkaSinkJson (k : KafkaSinkSpec) : Json :=
  Json.obj [("Brokers", strsJson k.brokers), ("Topic", Json.text k.topic),
    ("RequiredAcks", Json.int k.requiredAcks), ("Version", Json.text k.version),
    ("ClientID", Json.text k.clientId), ("PreservePartition", .bool k.preservePartition),
    ("TimeoutMS", Json.int k.timeoutMs)]

/-- A processing stage in an answer. -/
def stageSpecJson (s : StageSpec) : Json :=
  Json.obj [("Name", Json.text s.name), ("Type", Json.text s.kind), ("Builtin", Json.text s.builtin),
    ("Address", Json.text s.address), ("TimeoutMS", Json.int s.timeoutMs),
    ("RetryPolicy", Json.obj [("Attempts", Json.int s.attempts), ("BackoffMS", Json.int s.backoffMs)])]

/-- A pipeline file in an answer. -/
def pipelineSpecJson (p : PipelineSpec) : Json :=
  Json.obj [("SchemaVersion", Json.text p.schemaVersion),
    ("Source", Json.obj [("Kind", Json.text p.sourceKind), ("Driver", Json.text p.sourceDriver),
      ("Config", Json.text p.sourceConfig)]),
    ("Resilience", Json.text p.resilience),
    ("Transformers", match p.stages with
      | none => .null
      | some ss => Json.list stageSpecJson ss),
    ("Sinks", strsJson p.sinks),
    ("SinkConfigs", Json.obj [("Kafka", kafkaSinkJson p.kafkaSink)]),
    ("DeadLetter", Json.obj [("Sink", Json.text p.deadLetter.sink),
      ("TopicSuffix", Json.text p.deadLetter.topicSuffix), ("Kafka", kafkaSinkJson p.deadLetter.kafka)]),
    ("Debug", Json.obj [("PerRecordDelayMS", Json.int p.debug.perRecordDelayMs),
      ("PrintCounter", .bool p.debug.printCounter), ("PrintValue", .bool p.debug.printValue),
      ("ValueMaxBytes", Json.int p.debug.valueMaxBytes)])]

/-- **Loading a pipeline file.** -/
def loadPipelineScenario (j : Json) : Json :=
  let path := loaderPath j "pipeline.yml"
  let (p, err) := Pipeline.load path (fileAt j "pipeline.yml" path)
  Json.obj [("err", faultJson err), ("file", pipelineSpecJson p.spec),
    ("source_config", Json.text p.sourcePath), ("resilience_config", Json.text p.resiliencePath)]

end Conveyor.Scenario
