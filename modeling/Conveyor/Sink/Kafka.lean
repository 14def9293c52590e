import Conveyor.Sink.Envelope
import Conveyor.Kafka.Client
import Conveyor.Config.Pipeline
import Conveyor.Time.Duration
/-!
# The Kafka sink

The Kafka sink hands each envelope to a producer as one record:

* the topic is the sink's own, unless it has none or a processor chose the envelope's topic;
* the key, value and headers are the envelope's (no headers when it has none);
* with `preserve_partition` the record goes to the envelope's partition, and an envelope that
  lets the sink pick is refused for good; otherwise the producer picks (partition `0` here).

A delivery fails at once when shutdown has begun, and when the sink was never connected. A
producer's fault is passed on, marked as final when it is (or holds) one of the broker's
verdicts no retry mends: a message too large, a corrupt message, an invalid topic, or a topic
the client may not use.

The producer is made with the brokers, the version (2.1.0 when none is given), the client id
(`sarama` when none is given), the acknowledgement level, and the timeout (ten seconds when
the one given is not positive).
-/

namespace Conveyor.KafkaSink

open Config

/-- What the producer is made with. -/
structure ProducerSettings where
  brokers : Option (List String)
  version : Kafka.Version
  clientId : String
  requiredAcks : Int
  timeoutNs : Int
  /-- Whether each record names its partition. -/
  manualPartition : Bool

/-- A record handed to the producer. -/
structure ProducerRecord where
  topic : String
  partition : Int
  key : Option ByteArray
  value : Option ByteArray
  headers : Option Headers

/-- The producer's timeout when none is given. -/
def standardTimeout : Int := 10 * Duration.second

/-- **The producer's settings** for the sink's; a version that does not read is refused. -/
def producerSettings (c : KafkaSinkSpec) : Except Fault ProducerSettings := do
  let version ← if c.version.isEmpty then pure Kafka.Version.standard else Kafka.Version.parse c.version
  return { brokers := c.brokers, version, clientId := Kafka.clientIdOr c.clientId,
           requiredAcks := c.requiredAcks,
           timeoutNs := if c.timeoutMs > 0 then Duration.ofMillis c.timeoutMs else standardTimeout,
           manualPartition := c.preservePartition }

/-- The options a real producer's client checks. -/
def ProducerSettings.clientOptions (p : ProducerSettings) : Kafka.ClientOptions :=
  { version := p.version, clientId := p.clientId, requiredAcks := p.requiredAcks,
    brokers := p.brokers.getD [] }

/-- **The record of an envelope**, or the final refusal of an envelope without a partition
when partitions are preserved. -/
def record (c : KafkaSinkSpec) (e : Envelope) : Except Fault ProducerRecord :=
  let topic := if c.topic.isEmpty || e.routed then e.topic else c.topic
  let headers := match e.headers with
    | some hs@(_ :: _) => some hs
    | _ => none
  if c.preservePartition then
    if e.partition < 0 then
      .error (.undeliverable (.text ("kafka-sink: " ++ topic ++ " needs an explicit partition")))
    else .ok { topic, partition := e.partition, key := e.key, value := e.value, headers }
  else .ok { topic, partition := 0, key := e.key, value := e.value, headers }

/-- The broker's verdicts no retry mends. -/
def finalBrokerFault : BrokerFault → Bool
  | .messageTooLarge | .invalidMessage | .invalidTopic | .topicAuthorizationFailed => true
  | _ => false

/-- Whether a fault is, or holds, a verdict no retry mends. -/
def isFinal (f : Fault) : Bool :=
  f.nodes.any fun n => match n with
    | .broker b => finalBrokerFault b
    | _ => false

/-- A producer's fault, marked final when no retry mends it. -/
def sendFault (f : Fault) : Fault := if isFinal f then .undeliverable f else f

/-- The fault of a sink that was never connected. -/
def notConfigured : Fault := .text "kafka-sink: not configured"

/-- **Delivering an envelope** through a producer, when there is one. -/
def deliver {m : Type → Type} [Monad m] (c : KafkaSinkSpec) (connected : Bool) (shutdown : Option Fault)
    (send : ProducerRecord → m (Option Fault)) (e : Envelope) : m (Option Fault) := do
  if let some f := shutdown then return some f
  if !connected then return some notConfigured
  match record c e with
  | .error f => return some f
  | .ok r => return (← send r).map sendFault

end Conveyor.KafkaSink
