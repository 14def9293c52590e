import Conveyor.Settings.Weak
import Conveyor.Config.File
import Conveyor.Fault
/-!
# Kafka source settings

Where a Kafka source connects and how it consumes: brokers, topics, consumer group, client
name, where a new group starts (`oldest` or `newest`), protocol version, TLS and SASL, the
health-check timeout, the in-flight capacity per partition, the commit interval, and whether
and how missing topics are created.

They come from a YAML file (a missing file is no error), then environment variables named
`KAFKABASIC_KAFKA__...`; a file's `schema_version` other than `v1` is refused before the
environment is read. Settings read without error get defaults where unset: capacity 1, a
five-second commit interval and health timeout, `newest`, version `2.8.0`, three partitions
and one replica for created topics, and the dead-letter suffix `.DLQ`. Brokers, topics and a
group are required and the start must be `oldest` or `newest`; each broken rule is reported.
-/

namespace Conveyor.Config

open Conveyor.Yaml Conveyor.Settings

/-- How missing topics are created. -/
structure TopicAdmin where
  ensure : Bool := false
  partitions : Int := 0
  replicationFactor : Int := 0
  deadLetterSuffix : String := ""

/-- The settings of a Kafka source; durations in nanoseconds. A list that was never given
is none. -/
structure KafkaSettings where
  brokers : Option (List String) := none
  topics : Option (List String) := none
  groupId : String := ""
  clientId : String := ""
  startFrom : String := ""
  version : String := ""
  tlsEnabled : Bool := false
  saslUser : String := ""
  saslPass : String := ""
  healthTimeout : Int := 0
  capacity : Int := 0
  commitInterval : Int := 0
  topicAdmin : TopicAdmin := {}

namespace KafkaSettings

/-- The prefix of the environment variables. -/
def envPrefix : String := "KAFKABASIC_KAFKA__"

/-- The shape the settings are read into. -/
def shape : Shape :=
  .record "kafka.Config"
    [("brokers", .list "[]string" .text), ("topics", .list "[]string" .text),
     ("group_id", .text), ("client_id", .text), ("start_from", .text), ("version", .text),
     ("tls_enabled", .bool), ("sasl_user", .text), ("sasl_pass", .text),
     ("health_timeout", .duration),
     ("backpressure", .record "kafka.BackPressureCfg" [("capacity", .int "int" 64)]),
     ("checkpoint", .record "kafka.CheckpointCfg" [("commit_interval", .duration)]),
     ("topic_admin", .record "kafka.TopicsCfg"
       [("ensure", .bool), ("partitions", .int "int32" 32), ("replication_factor", .int "int16" 16),
        ("dead_letter_suffix", .text)])]

/-- The settings from plain data keyed as in files. -/
def ofDatum (d : Datum) : KafkaSettings :=
  let admin := d.field "topic_admin"
  { brokers := d.strsAt "brokers", topics := d.strsAt "topics", groupId := d.strAt "group_id",
    clientId := d.strAt "client_id", startFrom := d.strAt "start_from", version := d.strAt "version",
    tlsEnabled := d.boolAt "tls_enabled", saslUser := d.strAt "sasl_user",
    saslPass := d.strAt "sasl_pass", healthTimeout := d.intAt "health_timeout",
    capacity := (d.field "backpressure").intAt "capacity",
    commitInterval := (d.field "checkpoint").intAt "commit_interval",
    topicAdmin :=
      { ensure := admin.boolAt "ensure", partitions := admin.intAt "partitions",
        replicationFactor := admin.intAt "replication_factor",
        deadLetterSuffix := admin.strAt "dead_letter_suffix" } }

/-- **The defaults** for what was left unset. -/
def withDefaults (c : KafkaSettings) : KafkaSettings :=
  { c with
    capacity := if c.capacity ≤ 0 then 1 else c.capacity
    commitInterval := if c.commitInterval == 0 then 5 * Duration.second else c.commitInterval
    startFrom := if c.startFrom.isEmpty then "newest" else c.startFrom
    version := if c.version.isEmpty then "2.8.0" else c.version
    healthTimeout := if c.healthTimeout == 0 then 5 * Duration.second else c.healthTimeout
    topicAdmin :=
      { c.topicAdmin with
        partitions := if c.topicAdmin.partitions ≤ 0 then 3 else c.topicAdmin.partitions
        replicationFactor := if c.topicAdmin.replicationFactor ≤ 0 then 1 else c.topicAdmin.replicationFactor
        deadLetterSuffix :=
          if c.topicAdmin.deadLetterSuffix.isEmpty then ".DLQ" else c.topicAdmin.deadLetterSuffix } }

/-- **The broken rules**, in order. -/
def problems (c : KafkaSettings) : List String :=
  (if (c.brokers.getD []).isEmpty then ["kafka: brokers is required"] else []) ++
  (if (c.topics.getD []).isEmpty then ["kafka: topics is required"] else []) ++
  (if c.groupId.isEmpty then ["kafka: group_id is required"] else []) ++
  (if c.startFrom != "oldest" && c.startFrom != "newest" then
    ["kafka: start_from " ++ Text.quote c.startFrom ++ " (want oldest|newest)"] else [])

/-- Validating settings: every broken rule, joined. -/
def validate (c : KafkaSettings) : Option Fault :=
  match c.problems with
  | [] => none
  | ps => some (.joined (ps.map Fault.text))

/-- **Loading the settings** from a file at `path` (none to skip it), read as `file` gives,
and the environment. -/
def load (path : String) (file : FileRead) (env : List (String × String)) :
    KafkaSettings × Option Fault :=
  let layer : Except String Tree :=
    if path.isEmpty then .ok []
    else match file with
      | .text t => yamlLayer t
      | .missing => .ok []
      | .directory => .error ((FileRead.directory.error path).getD "")
  match layer with
  | .error e => ({}, some (.text e))
  | .ok tree =>
    let sv := tree.text "schema_version"
    if sv != "" && sv != "v1" then
      ({}, some (.text ("kafka schema_version " ++ Text.quote sv ++ " not supported (want v1)")))
    else
      let tree := merge 64 (envLayer envPrefix env) tree
      let (d, msgs) := readLoose 64 "" (.map tree) shape shape.zero
      let c := ofDatum d
      if msgs.isEmpty then
        let c := c.withDefaults
        (c, c.validate)
      else (c, some (.text (looseMessage msgs)))

end KafkaSettings

end Conveyor.Config
