import Conveyor.Scenario.Pipeline
import Conveyor.Sink.Console
import Conveyor.Text.Truth
/-!
# Sink, dead-letter and logger scenarios

* `multi_sink`: envelopes given to a group of scripted sinks;
* `stdout_sink`: envelopes written by the console sink;
* `dlq_envelope`: the envelope of a described dead letter, written and closed;
* `logging`: the levels a configured logger writes, and its format.
-/

namespace Conveyor.Scenario

/-- An envelope from its description. -/
def envelopeOf (j : Json) : Envelope :=
  { topic := str j "topic", routed := flag j "routed", partition := int j "partition",
    key := bytes j "key", value := bytes j "value", headers := (j.get? "headers").bind headersOf,
    source := (given j "source").map recordOf }

/-- A scenario of a group of sinks. -/
def multiSinkScenario (j : Json) : Json :=
  let sinks := (list j "sinks").map scriptedSinkOf
  let step (e : Envelope) : StateM PipelineWorld Json := do
    modify fun w => { w with deliveries := [] }
    let err ← deliverAll e
    return Json.obj [("err", faultJson err), ("calls", .array (← get).deliveries)]
  let results := (((list j "envelopes").mapM (step ∘ envelopeOf)).run { sinks }).1
  Json.obj [("len", Json.nat sinks.length), ("results", .array results), ("configure_err", .null),
    ("close_err", faultJson (Sink.joinFailures (sinks.map fun s => (s.name, s.closeErr))))]

/-- The refusal of a configuration of the wrong kind. -/
def consoleWrongType : String :=
  "stdout-sink: expected Config, got struct \x7b DelayMS int \"json:\\\"delay_ms\\\"\"; " ++
  "PrintCounter bool \"json:\\\"print_counter\\\"\"; PrintValue bool \"json:\\\"print_value\\\"\"; " ++
  "ValueMaxBytes int \"json:\\\"value_max_bytes\\\"\" \x7d"

/-- A console sink scenario. -/
def stdoutSinkScenario (j : Json) : Json :=
  if flag j "wrong_type" then Json.obj [("configure_err", faultJson (some (.text consoleWrongType)))] else
  let c := (j.get? "config").getD .null
  let console : Console :=
    { config := { delayMs := int c "delay_ms", printCounter := flag c "print_counter",
                  printValue := flag c "print_value", valueMaxBytes := int c "value_max_bytes" } }
  let rec go (s : Console) : List Json → List Json
    | [] => []
    | e :: es =>
      let shutdown := if flag e "cancelled" then some (.sentinel .canceled) else none
      let (out, s) := s.deliver (envelopeOf e) shutdown
      let res := match out with
        | .ok line => Json.obj [("err", .null), ("line", Json.text line)]
        | .error f => Json.obj [("err", faultJson (some f)), ("line", Json.text "")]
      res :: go s es
  Json.obj [("configure_err", .null), ("results", .array (go console (list j "envelopes"))),
    ("close_err", .null)]

/-- An instant given as nanoseconds after the clock's start; `null` is the zero time. -/
def instantOf (j : Json) (key : String) : Option Int :=
  (given j key).bind Json.int? |>.map (clockStart + ·)

/-- A dead letter's envelope in an answer. -/
def envelopeJson (e : Envelope) : Json :=
  Json.obj [("topic", Json.text e.topic), ("routed", .bool e.routed), ("partition", Json.int e.partition),
    ("key", bytesJson e.key), ("value", bytesJson e.value), ("headers", headersJson e.headers),
    ("source", Json.text ((e.source.map Record.label).getD ""))]

/-- A dead-letter envelope scenario. -/
def deadLetterScenario (j : Json) : Json :=
  let r := (j.get? "record").getD .null
  let letter : DeadLetter :=
    { id := str r "id" "00000000-0000-0000-0000-000000000000",
      message := (given r "message").map recordOf, stage := str r "stage", err := fault r "err",
      trials := (list r "attempts").map fun a =>
        { stage := str a "stage", number := int a "number", err := str a "err",
          start := instantOf a "at_ns", elapsed := int a "elapsed_ns" },
      failedAt := instantOf r "failed_at_ns" }
  match letter.envelope (str j "suffix") with
  | .error f => Json.obj [("error", Json.text "envelope"), ("message", Json.text f.message)]
  | .ok e => Json.obj [("envelope", envelopeJson e), ("write_err", .null), ("written", Json.nat 1),
      ("close_err", .null), ("closed", Json.nat 1)]

/-- A logger scenario: from explicit options, or from the environment. -/
def loggingScenario (j : Json) : Json :=
  let opts : Log.Options :=
    if flag j "from_env" then
      Log.Options.ofEnv (envOf j)
    else logOptionsOf j
  Json.obj [("enabled", Json.obj ([Log.Level.debug, .info, .warn, .error].map fun l =>
      (Text.lowerAsciiText l.name, .bool (opts.enabled l)))),
    ("handler", Json.text (if opts.json then "*slog.JSONHandler" else "*slog.TextHandler"))]

end Conveyor.Scenario
