import Conveyor.Yaml.Shape
import Conveyor.Config.File
import Conveyor.Fault
import Conveyor.Source.Memory
/-!
# In-memory log settings

The settings that seed an in-memory log: its topic, its partition count, the records to put
in it, whether a run stops once the log is drained, and how many offsets per partition may
be in flight. They are read from a YAML file whose keys are exactly the field names; a topic
is required, and a capacity that is not positive is one.
-/

namespace Conveyor.Config

open Conveyor.Yaml

/-- A record to seed. -/
structure SeedRecord where
  partition : Int := 0
  key : String := ""
  value : String := ""
  headers : Option (List (String × String)) := none

/-- The settings of an in-memory log. -/
structure MemorySettings where
  topic : String := ""
  partitions : Int := 0
  records : Option (List SeedRecord) := none
  stopWhenDrained : Bool := false
  partitionCapacity : Int := 0

namespace MemorySettings

/-- The shape of a seeded record. -/
def recordShape : Shape :=
  .record "memory.Record"
    [("partition", .int "int32" 32), ("key", .text), ("value", .text),
     ("headers", .dict "map[string]string" .text)]

/-- The shape the settings are read into. -/
def shape : Shape :=
  .record "memory.Config"
    [("topic", .text), ("partitions", .int "int" 64), ("records", .list "[]memory.Record" recordShape),
     ("stop_when_drained", .bool), ("partition_capacity", .int "int" 64)]

/-- A seeded record from plain data. -/
def recordOf (d : Datum) : SeedRecord :=
  { partition := d.intAt "partition", key := d.strAt "key", value := d.strAt "value",
    headers := match d.get? "headers" with
      | some (.map es) => some (es.map fun (k, v) => (k, match v with
          | .str s => s
          | _ => ""))
      | _ => none }

/-- The settings from plain data keyed as in files. -/
def ofDatum (d : Datum) : MemorySettings :=
  { topic := d.strAt "topic", partitions := d.intAt "partitions",
    records := (d.listAt "records").map (·.map recordOf),
    stopWhenDrained := d.boolAt "stop_when_drained", partitionCapacity := d.intAt "partition_capacity" }

/-- **Loading the settings** from the file at `path`. -/
def load (path : String) (file : FileRead) : MemorySettings × Option Fault :=
  match file with
  | .missing | .directory => ({}, (file.error path).map Fault.text)
  | .text t =>
    match readText t shape shape.zero with
    | .error e => ({}, some (.text (path ++ ": " ++ e)))
    | .ok (d, msgs) =>
      let c := ofDatum d
      if !msgs.isEmpty then (c, some (.text (path ++ ": " ++ misfitsMessage msgs)))
      else if c.topic.isEmpty then (c, some (.text (path ++ ": topic is required")))
      else ({ c with partitionCapacity := if c.partitionCapacity ≤ 0 then 1 else c.partitionCapacity }, none)

end MemorySettings

end Conveyor.Config

namespace Conveyor

open Config

/-- **Seeding a log** from settings: a log with the topic and partitions, then each record
in order, until one names a partition the log does not have. -/
def MemoryLog.seed (c : MemorySettings) : MemoryLog × Option Fault :=
  let log := MemoryLog.create c.topic c.partitions
  let step := fun (acc : MemoryLog × Option Fault) (r : SeedRecord) =>
    match acc with
    | (log, some f) => (log, some f)
    | (log, none) =>
      if r.partition ≥ log.partitions || r.partition < 0 then
        (log, some (.text ("memory: record for partition " ++ toString r.partition ++ ", topic has " ++
          toString log.partitions)))
      else
        let key := if r.key.isEmpty then none else some r.key.toUTF8
        let headers := match r.headers with
          | some hs@(_ :: _) => some (Headers.ofList (hs.map fun (k, v) => (k, some v.toUTF8)))
          | _ => none
        (log.append r.partition.toNat key (some r.value.toUTF8) headers, none)
  (c.records.getD []).foldl step (log, none)

end Conveyor
