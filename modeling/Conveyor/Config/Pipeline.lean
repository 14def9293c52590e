import Conveyor.Yaml.Shape
import Conveyor.Config.File
import Conveyor.Fault
/-!
# Pipeline files

A pipeline file names the source (its kind, driver and settings file), the resilience
settings file, the processing stages in order, the sinks, the settings of the Kafka sink,
the dead-letter sink, and debug options of the console sink. Its keys are exactly the field
names.

A file without `schema_version` is `v1`, and no other version is taken. At least one sink
and a dead-letter sink are required, and a Kafka sink needs a topic. The source's and the
resilience settings' paths are taken relative to the pipeline file.
-/

namespace Conveyor.Config

open Conveyor.Yaml

/-- A processing stage: a built-in processor, or a remote one at an address. -/
structure StageSpec where
  name : String := ""
  kind : String := ""
  builtin : String := ""
  address : String := ""
  timeoutMs : Int := 0
  attempts : Int := 0
  backoffMs : Int := 0

/-- The settings of a Kafka sink. -/
structure KafkaSinkSpec where
  brokers : Option (List String) := none
  topic : String := ""
  requiredAcks : Int := 0
  version : String := ""
  clientId : String := ""
  preservePartition : Bool := false
  timeoutMs : Int := 0

/-- Where dead letters go. -/
structure DeadLetterSpec where
  sink : String := ""
  topicSuffix : String := ""
  kafka : KafkaSinkSpec := {}

/-- Options of the console sink. -/
structure DebugSpec where
  perRecordDelayMs : Int := 0
  printCounter : Bool := false
  printValue : Bool := false
  valueMaxBytes : Int := 0

/-- A pipeline file. -/
structure PipelineSpec where
  schemaVersion : String := ""
  sourceKind : String := ""
  sourceDriver : String := ""
  sourceConfig : String := ""
  resilience : String := ""
  stages : Option (List StageSpec) := none
  sinks : Option (List String) := none
  kafkaSink : KafkaSinkSpec := {}
  deadLetter : DeadLetterSpec := {}
  debug : DebugSpec := {}

/-- A pipeline file with the settings paths it names, taken relative to it. -/
structure Pipeline where
  spec : PipelineSpec := {}
  sourcePath : String := ""
  resiliencePath : String := ""

namespace PipelineSpec

/-- The shape of the Kafka sink's settings. -/
def kafkaShape : Shape :=
  .record "spec.KafkaSink"
    [("brokers", .list "[]string" .text), ("topic", .text), ("required_acks", .int "int16" 16),
     ("version", .text), ("client_id", .text), ("preserve_partition", .bool),
     ("timeout_ms", .int "int" 64)]

/-- The shape of a processing stage. -/
def stageShape : Shape :=
  .record "spec.TransformerSpec"
    [("name", .text), ("type", .text), ("builtin", .text), ("address", .text),
     ("timeout_ms", .int "int" 64),
     ("retry_policy", .record "spec.RetryPolicy" [("attempts", .int "int" 64), ("backoff_ms", .int "int" 64)])]

/-- The shape of the source section. -/
def sourceShape : Shape :=
  .record "struct \x7b Kind string \"yaml:\\\"kind\\\"\"; Driver string \"yaml:\\\"driver\\\"\"; Config string \"yaml:\\\"config\\\"\" \x7d"
    [("kind", .text), ("driver", .text), ("config", .text)]

/-- The shape a pipeline file is read into. -/
def shape : Shape :=
  .record "spec.File"
    [("schema_version", .text), ("source", sourceShape), ("resilience", .text),
     ("transformers", .list "[]spec.TransformerSpec" stageShape), ("sinks", .list "[]string" .text),
     ("sink_configs", .record "spec.SinkConfigs" [("kafka", kafkaShape)]),
     ("dead_letter", .record "spec.DeadLetter" [("sink", .text), ("topic_suffix", .text), ("kafka", kafkaShape)]),
     ("debug", .record "spec.debugSection"
       [("per_record_delay_ms", .int "int" 64), ("print_counter", .bool), ("print_value", .bool),
        ("value_max_bytes", .int "int" 64)])]

/-- Kafka sink settings from plain data. -/
def kafkaOf (d : Datum) : KafkaSinkSpec :=
  { brokers := d.strsAt "brokers", topic := d.strAt "topic", requiredAcks := d.intAt "required_acks",
    version := d.strAt "version", clientId := d.strAt "client_id",
    preservePartition := d.boolAt "preserve_partition", timeoutMs := d.intAt "timeout_ms" }

/-- A processing stage from plain data. -/
def stageOf (d : Datum) : StageSpec :=
  let policy := d.field "retry_policy"
  { name := d.strAt "name", kind := d.strAt "type", builtin := d.strAt "builtin",
    address := d.strAt "address", timeoutMs := d.intAt "timeout_ms",
    attempts := policy.intAt "attempts", backoffMs := policy.intAt "backoff_ms" }

/-- A pipeline file from plain data. -/
def ofDatum (d : Datum) : PipelineSpec :=
  let source := d.field "source"
  let dead := d.field "dead_letter"
  let debug := d.field "debug"
  { schemaVersion := d.strAt "schema_version", sourceKind := source.strAt "kind",
    sourceDriver := source.strAt "driver", sourceConfig := source.strAt "config",
    resilience := d.strAt "resilience", stages := (d.listAt "transformers").map (·.map stageOf),
    sinks := d.strsAt "sinks", kafkaSink := kafkaOf ((d.field "sink_configs").field "kafka"),
    deadLetter := { sink := dead.strAt "sink", topicSuffix := dead.strAt "topic_suffix",
                    kafka := kafkaOf (dead.field "kafka") },
    debug := { perRecordDelayMs := debug.intAt "per_record_delay_ms",
               printCounter := debug.boolAt "print_counter", printValue := debug.boolAt "print_value",
               valueMaxBytes := debug.intAt "value_max_bytes" } }

end PipelineSpec

/-- **Loading a pipeline file** at `path`. -/
def Pipeline.load (path : String) (file : FileRead) : Pipeline × Option Fault :=
  match file with
  | .missing | .directory => ({}, (file.error path).map Fault.text)
  | .text t =>
    match readText t PipelineSpec.shape PipelineSpec.shape.zero with
    | .error e => ({}, some (.text (path ++ ": " ++ e)))
    | .ok (d, msgs) =>
      let spec := PipelineSpec.ofDatum d
      if !msgs.isEmpty then ({ spec }, some (.text (path ++ ": " ++ misfitsMessage msgs)))
      else
        let spec := if spec.schemaVersion.isEmpty then { spec with schemaVersion := "v1" } else spec
        let sinks := spec.sinks.getD []
        if spec.schemaVersion != "v1" then
          ({ spec }, some (.text ("pipeline schema_version " ++ Text.quote spec.schemaVersion ++
            " not supported (want \"v1\")")))
        else if sinks.isEmpty then ({ spec }, some (.text (path ++ ": at least one sink is required")))
        else if spec.deadLetter.sink.isEmpty then
          ({ spec }, some (.text (path ++ ": dead_letter.sink is required")))
        else if sinks.contains "kafka" && spec.kafkaSink.topic.isEmpty then
          ({ spec }, some (.text (path ++ ": sink_configs.kafka.topic is required for the kafka sink")))
        else
          ({ spec, sourcePath := relativeTo path spec.sourceConfig,
             resiliencePath := relativeTo path spec.resilience }, none)

end Conveyor.Config
