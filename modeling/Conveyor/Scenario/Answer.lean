import Conveyor.Scenario.Basic
import Conveyor.Scenario.Breaker
import Conveyor.Scenario.Retry
import Conveyor.Scenario.Offsets
import Conveyor.Scenario.Pipeline
import Conveyor.Scenario.Sinks
import Conveyor.Scenario.Loaders
import Conveyor.Scenario.Compile
import Conveyor.Scenario.Kafka
import Conveyor.Scenario.Plugin
import Conveyor.Scenario.Engine
import Conveyor.Scenario.Control
import Conveyor.Scenario.Telemetry
import Conveyor.Scenario.Cli
import Conveyor.DeadLetter
/-!
# Answering scenarios

A scenario names its kind in `op`; the answer is that kind's account, or a report of a
malformed description.
-/

namespace Conveyor.Scenario

/-- **The answer to a scenario.** -/
def answer (j : Json) : Json :=
  match str j "op" with
  | "builtin" => builtinCall j
  | "builtin_names" => builtinNames
  | "with_value" => withValue j
  | "dlq_topic" => Json.obj [("topic", Json.text (DeadLetter.topicOf (str j "topic") (str j "suffix")))]
  | "classify" => classifyFault j
  | "breaker" => breakerScenario j
  | "breaker_registry" => registryScenario j
  | "retry" => retryScenario j
  | "ledger" => ledgerScenario j
  | "coordinator" => coordinatorScenario j
  | "limiter" => limiterScenario j
  | "dispatch" => dispatchScenario j
  | "pipeline" =>
    match str j "mode" "handle" with
    | "run" => runScenario j
    | "kafka" => kafkaRunScenario j
    | _ => handleScenario j
  | "multi_sink" => multiSinkScenario j
  | "stdout_sink" => stdoutSinkScenario j
  | "dlq_envelope" => deadLetterScenario j
  | "logging" => loggingScenario j
  | "load_resilience" => loadResilienceScenario j
  | "resilience_validate" => resilienceValidateScenario j
  | "load_kafka" => loadKafkaScenario j
  | "load_memory" => loadMemoryScenario j
  | "load_pipeline" => loadPipelineScenario j
  | "memory_configure" => memoryConfigureScenario j
  | "compile" => compileScenario j
  | "kafka_sink" => kafkaSinkScenario j
  | "kafka_source_configure" => kafkaSourceConfigureScenario j
  | "kafka_drivers" => kafkaDriversScenario
  | "kafka_admin" => kafkaAdminScenario j
  | "plugin" => pluginScenario j
  | "engine_run" => engineRunScenario j
  | "control" => controlScenario j
  | "metrics_server" => metricsServerScenario j
  | "bootstrap" => bootstrapScenario j
  | "cli" => cliScenario j
  | op => badInput ("unknown op " ++ Text.quote op)

/-- The answer to one line of text: a scenario, or a report that it is not JSON. -/
def answerLine (line : ByteArray) : ByteArray :=
  match Json.readWhole line with
  | .ok j => Json.write (answer j)
  | .error e => Json.write (badInput e.message)

end Conveyor.Scenario
