import Conveyor.Pipeline.Runner
import Conveyor.Processor.Builtin
import Conveyor.Processor.Remote
import Conveyor.Config.Pipeline
import Conveyor.Config.Resilience
import Conveyor.Config.Kafka
import Conveyor.Config.Memory
import Conveyor.Sink.Console
import Conveyor.Sink.Kafka
/-!
# Compiling a pipeline file

Compiling reads a pipeline file and the files it names, and builds a runner with its source,
its stages, its sinks and its dead-letter writer. The steps, each stopping at its first
failure:

1. the pipeline file is loaded;
2. the resilience settings are loaded (a failure reads `resilience: ` and the cause);
3. the source is built: its settings are loaded, its driver (by default `sarama` for a Kafka
   source, `memory` for an in-memory one) is looked up, and the driver is configured with the
   settings (a failure reads `source <driver>: ` and the cause);
4. the runner takes the retry and breaker settings, the worker count, and the source's
   partition capacity;
5. each stage is made (a built-in processor by its `builtin` name or its own name, or a
   remote one at its address) and added; a stage's own retry policy replaces the retry count
   and the base wait, raising the ceiling to the base when it is lower;
6. each sink is made, and the runner delivers to all of them under their names joined by
   commas;
7. the dead-letter sink is made (a failure reads `dead_letter: ` and the cause); dead letters
   go to the source topic with the suffix, `.DLQ` by default.

No Kafka broker is reachable from here, so a Kafka source or sink fails at its connection
once its settings pass their checks.
-/

namespace Conveyor.Pipeline

open Config

/-- The processor of a compiled stage. -/
inductive StageDriver where
  | builtin (b : Builtin)
  | remote (r : Remote)

/-- The source of a compiled pipeline: the in-memory log it consumes, and whether a run stops
once the log as it stood at the start is drained. -/
structure LogSource where
  log : MemoryLog
  stopWhenDrained : Bool

/-- A compiled pipeline. -/
structure Compiled where
  runner : Runner
  source : LogSource
  /-- The processors of the runner's stages, in the same order. -/
  stages : List StageDriver
  /-- The sinks under their names. -/
  sinks : List (String × Console)
  deadLetter : Console
  /-- The suffix of dead-letter topics. -/
  suffix : String

/-- What compiling reads: the files by path, the environment, and what the Kafka brokers answer
a client that passed its checks (none of them answers from here). -/
structure Inputs where
  read : String → FileRead
  env : List (String × String)
  dial : Kafka.ClientOptions → Fault := Kafka.unreachable

/-- The source drivers there are, sorted. -/
def sourceDrivers : List String := ["memory", "sarama"]

/-- The sinks there are. -/
def sinkDrivers : List String := ["kafka", "stdout"]

/-- The suffix dead-letter topics take when the file names none. -/
def defaultSuffix : String := ".DLQ"

/-- The refusal of a driver name. -/
def unsupportedDriver (name : String) : Fault :=
  .text ("source: unsupported driver " ++ Text.quote name ++ " (have [" ++ " ".intercalate sourceDrivers ++ "])")

/-- **Configuring a source driver** with Kafka settings: the Kafka driver connects, and the
in-memory driver refuses them. -/
def configureKafka (dial : Kafka.ClientOptions → Fault) (driver : String) (c : KafkaSettings) :
    Except Fault LogSource :=
  if !sourceDrivers.contains driver then .error (unsupportedDriver driver)
  else
    let cause : Fault :=
      if driver == "memory" then .text "memory: expected Config, got kafka.Config"
      else Kafka.configureConsumer dial c.version c.clientId c.saslUser c.saslPass (c.brokers.getD [])
    .error (.wrap ("source " ++ driver ++ ": ") cause)

/-- **Configuring a source driver** with in-memory log settings: the in-memory driver seeds
its log, and the Kafka driver refuses them. -/
def configureMemory (driver : String) (c : MemorySettings) : Except Fault LogSource :=
  if !sourceDrivers.contains driver then .error (unsupportedDriver driver)
  else if driver == "memory" then
    match MemoryLog.seed c with
    | (_, some f) => .error (.wrap "source memory: " f)
    | (log, none) => .ok { log, stopWhenDrained := c.stopWhenDrained }
  else .error (.wrap ("source " ++ driver ++ ": ") (.text "kafka: expected Config, got memory.Config"))

/-- **Building the source** and its partition capacity. -/
def buildSource (inputs : Inputs) (p : Pipeline) (suffix : String) : Except Fault (LogSource × Int) :=
  let driverOr (d : String) := if p.spec.sourceDriver.isEmpty then d else p.spec.sourceDriver
  match p.spec.sourceKind with
  | "kafka" =>
    match KafkaSettings.load p.sourcePath (inputs.read p.sourcePath) inputs.env with
    | (_, some f) => .error f
    | (c, none) =>
      let c := { c with topicAdmin := { c.topicAdmin with deadLetterSuffix := suffix } }
      (configureKafka inputs.dial (driverOr "sarama") c).map (·, c.capacity)
  | "memory" =>
    match MemorySettings.load p.sourcePath (inputs.read p.sourcePath) with
    | (_, some f) => .error f
    | (c, none) => (configureMemory (driverOr "memory") c).map (·, c.partitionCapacity)
  | kind => .error (.text ("unsupported source " ++ Text.quote kind))

/-- The retry policy of a stage: the settings' own, or with the stage's count and base wait. -/
def stageRetry (res : Resilience) (s : StageSpec) : Option Retry.Config :=
  if s.attempts > 0 || s.backoffMs > 0 then
    let rc := res.retry
    let rc := if s.attempts > 0 then { rc with maxRetries := s.attempts } else rc
    let rc := if s.backoffMs > 0 then
        let base := Duration.ofMillis s.backoffMs
        { rc with baseNs := base, maxNs := if rc.maxNs < base then base else rc.maxNs }
      else rc
    some rc
  else none

/-- **Making a stage's processor** from its description. -/
def stageDriver (s : StageSpec) : Except Fault StageDriver :=
  let made : Except Fault StageDriver :=
    match s.kind with
    | "builtin" | "" => (Builtin.ofName (if s.builtin.isEmpty then s.name else s.builtin)).map .builtin
    | "grpc" => (Remote.dial s.address (Duration.ofMillis s.timeoutMs)).map .remote
    | kind => .error (.text ("unsupported transformer type " ++ Text.quote kind))
  match made with
  | .error f => .error (.wrap ("transform " ++ s.name ++ ": ") f)
  | .ok d => .ok d

/-- **Adding the stages** in order, with their processors. -/
def addStages (res : Resilience) : Runner → List StageSpec → Except Fault (Runner × List StageDriver)
  | r, [] => .ok (r, [])
  | r, s :: rest => do
    let d ← stageDriver s
    let r ← r.addStage s.name (stageRetry res s) Fault.classify
    let (r, ds) ← addStages res r rest
    return (r, d :: ds)

/-- **Making a sink** by name, with the Kafka settings it would use. A Kafka sink whose
settings pass their checks connects to brokers that answer `dial`, and fails with their answer. -/
def makeSink (dial : Kafka.ClientOptions → Fault) (p : PipelineSpec) (name : String)
    (k : KafkaSinkSpec) : Except Fault Console :=
  if !sinkDrivers.contains name then .error (.text ("unknown sink " ++ Text.quote name))
  else if name == "stdout" then
    .ok { config := { delayMs := p.debug.perRecordDelayMs, printCounter := p.debug.printCounter,
                      printValue := p.debug.printValue, valueMaxBytes := p.debug.valueMaxBytes } }
  else match KafkaSink.producerSettings k with
    | .error f => .error f
    | .ok ps => .error (ps.clientOptions.connect dial)

/-- **The Kafka settings of the dead-letter sink**: the file's own, with no topic of the sink's
own, so that each dead letter goes to its envelope's topic, and with partitions preserved. -/
def deadLetterKafka (d : DeadLetterSpec) : KafkaSinkSpec :=
  { d.kafka with topic := "", preservePartition := true }

/-- Makes every sink in order, under its name. -/
def makeSinks (dial : Kafka.ClientOptions → Fault) (p : PipelineSpec) :
    List String → Except Fault (List (String × Console))
  | [] => .ok []
  | name :: rest => do
    let s ← makeSink dial p name p.kafkaSink
    return (name, s) :: (← makeSinks dial p rest)

/-- The paths compiling reads: the pipeline file and, once it reads, the resilience file and
the source's file that it names. -/
def reads (inputs : Inputs) (path : String) : List String :=
  match Pipeline.load path (inputs.read path) with
  | (p, none) => [path, p.resiliencePath, p.sourcePath].filter (!·.isEmpty)
  | _ => [path]

/-- **Compiling the pipeline file** at a path. -/
def compile (inputs : Inputs) (path : String) : Except Fault Compiled := do
  let p ← match Pipeline.load path (inputs.read path) with
    | (_, some f) => .error f
    | (p, none) => .ok p
  let res ← match Resilience.load p.resiliencePath (inputs.read p.resiliencePath) inputs.env with
    | (_, some f) => .error (.wrap "resilience: " f)
    | (res, none) => .ok res
  let suffix := if p.spec.deadLetter.topicSuffix.isEmpty then defaultSuffix else p.spec.deadLetter.topicSuffix
  let (source, capacity) ← buildSource inputs p suffix
  let runner := Runner.create
    { retry := res.retry,
      breaker := BreakerConfig.ofRaw res.failureThreshold res.openCooldown res.halfOpenMaxProbes,
      workers := res.workerParallelism, partitionCapacity := capacity }
  let (runner, stages) ← addStages res runner (p.spec.stages.getD [])
  let names := p.spec.sinks.getD []
  let sinks ← makeSinks inputs.dial p.spec names
  let deadLetter ← match makeSink inputs.dial p.spec p.spec.deadLetter.sink
      (deadLetterKafka p.spec.deadLetter) with
    | .error f => .error (.wrap "dead_letter: " f)
    | .ok s => .ok s
  return { runner := { runner with sink := some (",".intercalate names), deadLetter := true },
           source, stages, sinks, deadLetter, suffix }

end Conveyor.Pipeline
