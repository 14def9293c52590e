import Conveyor.Scenario.Pipeline
import Conveyor.Scenario.Sinks
import Conveyor.Scenario.Loaders
import Conveyor.Sink.Kafka
import Conveyor.Source.Kafka
import Conveyor.Pipeline.Compile
/-!
# Kafka scenarios

No broker is reachable here, so Kafka is met through stand-ins:

* `kafka_sink`: the Kafka sink over a recording producer whose sends fail as described, or
  over a real producer, which never gets past its checks;
* `kafka_source_configure`: configuring the Kafka source, which never gets past its checks;
* `kafka_drivers`: the source drivers there are;
* `kafka_admin`: ensuring topics, or checking health, against a described admin;
* the `kafka` mode of pipeline scenarios: a run of the Kafka source over a consumer group
  that plays described sessions. A session starts, consumes its claims in turn (the claims
  after one that is held are skipped), ends, and then reports the group's closing or its
  fault. With no session left, the group reports that it is closed.
-/

namespace Conveyor.Scenario

open Conveyor.Json Conveyor.Config Pipeline

/-! ### The sink -/

/-- Kafka sink settings from a description. -/
def kafkaSinkSpecOf (j : Json) : KafkaSinkSpec :=
  { brokers := (given j "brokers").map fun b => b.items.filterMap Json.str?, topic := str j "topic",
    requiredAcks := int j "required_acks", version := str j "version", clientId := str j "client_id",
    preservePartition := flag j "preserve_partition", timeoutMs := int j "timeout_ms" }

/-- The producer's settings in an answer. -/
def producerSettingsJson (p : KafkaSink.ProducerSettings) : Json :=
  Json.obj [("brokers", strsJson p.brokers), ("version", Json.text p.version.text),
    ("client_id", Json.text p.clientId), ("required_acks", Json.int p.requiredAcks),
    ("timeout_ns", Json.int p.timeoutNs), ("return_successes", .bool true), ("return_errors", .bool true)]

/-- A produced record in an answer. -/
def producerRecordJson (r : KafkaSink.ProducerRecord) : Json :=
  Json.obj [("topic", Json.text r.topic), ("partition", Json.int r.partition), ("key", bytesJson r.key),
    ("value", bytesJson r.value),
    ("headers", match r.headers with
      | none => .null
      | some hs => .array (hs.map fun (k, v) => .array [Json.text k, bytesJson v]))]

/-- The fault of a shutdown an envelope's description asks for. -/
def cancelledOf (e : Json) : Option Fault := if flag e "cancelled" then some (.sentinel .canceled) else none

/-- Delivers the described envelopes through the sink, recording what reached the producer. -/
def kafkaSinkResults (c : KafkaSinkSpec) (connected : Bool) (envs : List Json) : List Json :=
  envs.map fun e =>
    let send (r : KafkaSink.ProducerRecord) : StateM (Option KafkaSink.ProducerRecord) (Option Fault) := do
      set (some r)
      return fault e "send_err"
    let (err, sent) := (KafkaSink.deliver c connected (cancelledOf e) send (envelopeOf e)).run none
    Json.obj [("err", faultJson err), ("sent", match sent with
      | some r => producerRecordJson r
      | none => .null)]

/-- A Kafka sink scenario. -/
def kafkaSinkScenario (j : Json) : Json :=
  let envs := list j "envelopes"
  let c := kafkaSinkSpecOf ((j.get? "config").getD .null)
  if flag j "real_producer" then
    let err := match KafkaSink.producerSettings c with
      | .error f => f
      | .ok ps => ps.clientOptions.connect Kafka.unreachable
    let results := envs.map fun e =>
      let err := Id.run (KafkaSink.deliver c false (cancelledOf e) (fun _ => pure none) (envelopeOf e))
      Json.obj [("err", faultJson err)]
    Json.obj [("configure_err", faultJson (some err)), ("results", .array results), ("close_err", .null)]
  else if !j.has "config" then
    Json.obj [("results", .array (kafkaSinkResults c false envs)), ("close_err", .null),
      ("producer_closed", Json.nat 0)]
  else if flag j "wrong_type" then
    Json.obj [("configure_err", faultJson (some (.text "kafka-sink: want Config, got *kafka.Config"))),
      ("producer_config", .null), ("results", .array (kafkaSinkResults c false envs)), ("close_err", .null),
      ("producer_closed", Json.nat 0)]
  else
    let (configureErr, settings) : Option Fault × Option KafkaSink.ProducerSettings :=
      match KafkaSink.producerSettings c with
      | .error f => (some f, none)
      | .ok ps => (fault j "producer_err", some ps)
    let connected := configureErr.isNone
    let closes := if flag j "close_twice" then [("close_err2", Json.null)] else []
    Json.obj ([("configure_err", faultJson configureErr),
      ("producer_config", (settings.map producerSettingsJson).getD .null),
      ("results", .array (kafkaSinkResults c connected envs)), ("close_err", .null)] ++ closes ++
      [("producer_closed", Json.nat (if connected then 1 else 0))])

/-! ### The source's settings and drivers -/

/-- A Kafka source configuration scenario. -/
def kafkaSourceConfigureScenario (j : Json) : Json :=
  let c := (j.get? "config").getD .null
  let err : Fault :=
    if flag j "wrong_type" then .text "kafka: expected Config, got *kafka.Config"
    else Kafka.configureConsumer Kafka.unreachable (str c "version") (str c "client_id") (str c "sasl_user")
      (str c "sasl_pass") []
  Json.obj [("configure_err", faultJson (some err)), ("run_err", faultJson (some KafkaSource.notConfigured)),
    ("health_err", faultJson (some KafkaSource.notConfigured)), ("close_err", .null)]

/-- The source drivers there are. -/
def kafkaDriversScenario : Json := Json.obj [("drivers", Json.list Json.text sourceDrivers)]

/-! ### The admin -/

/-- A described admin: the topics there are, the listing's fault and delay, and the faults of
creating topics. -/
structure AdminWorld where
  existing : List (String × Int) := []
  listErr : Option Fault := none
  listNs : Int := 0
  createErrs : List (String × Fault) := []
  created : List Kafka.TopicRequest := []

/-- A described admin from its description. -/
def adminWorldOf (j : Json) : AdminWorld :=
  { existing := ((j.get? "existing").map Json.members).getD [] |>.filterMap fun (k, v) => v.int?.map (k, ·),
    listErr := fault j "list_err", listNs := millis j "delay_ms",
    createErrs := ((j.get? "create_err").map Json.members).getD [] |>.filterMap fun (k, v) => (faultOf v).map (k, ·) }

/-- The admin a described admin plays, in any state that holds one. -/
def adminOps {n : Type → Type} [Monad n] [MonadStateOf AdminWorld n] : Kafka.Admin n where
  listTopics := do
    let a ← getThe AdminWorld
    return match a.listErr with
      | some f => .error f
      | none => .ok a.existing
  createTopic req := do
    modifyThe AdminWorld fun a => { a with created := a.created ++ [req] }
    return (← getThe AdminWorld).createErrs.lookup req.topic

/-- A topic creation in an answer. -/
def topicRequestJson (r : Kafka.TopicRequest) : Json :=
  Json.obj [("topic", Json.text r.topic), ("partitions", Json.int r.partitions),
    ("replication_factor", Json.int r.replicationFactor), ("validate_only", .bool r.validateOnly)]

/-- Topic settings from a description. -/
def topicAdminOf (j : Json) : TopicAdmin :=
  { ensure := flag j "ensure", partitions := int j "partitions", replicationFactor := int j "replication_factor",
    deadLetterSuffix := str j "dead_letter_suffix" }

/-- An admin scenario: ensuring topics, or checking health. -/
def kafkaAdminScenario (j : Json) : Json :=
  let admin := adminWorldOf ((j.get? "admin").getD .null)
  if flag j "health" then
    Json.obj [("err", faultJson (Kafka.checkHealth (flag j "cancelled") (millis j "timeout_ms") admin.listNs admin.listErr))]
  else
    let go : StateM AdminWorld (Option Fault) :=
      Kafka.ensureTopics adminOps (fun _ => pure ()) (strs j "topics") (topicAdminOf ((j.get? "config").getD .null))
    let (err, admin) := go.run admin
    Json.obj [("err", faultJson err), ("created", Json.list topicRequestJson admin.created)]

/-! ### Runs over a consumer group -/

/-- A described session: its claims, its fault, and whether the group closes at its end. -/
structure SessionSpec where
  claims : List KafkaSource.Claim
  err : Option Fault
  closed : Bool

/-- What a played session left: the topics asked for, the marks, the commits, whether it was
held, and how many claims it consumed. -/
structure SessionLog where
  topics : List String
  marked : List (String × Int × Int) := []
  commits : Nat := 0
  held : Bool := false
  consumed : Nat := 0

/-- The simulated group and admin. -/
structure GroupWorld where
  sessions : List SessionSpec
  played : Array SessionLog := #[]
  closed : Nat := 0
  admin : AdminWorld := {}

instance : MonadStateOf AdminWorld (StateT GroupWorld (StateM PipelineWorld)) where
  get := do return (← get).admin
  set a := modify fun g => { g with admin := a }
  modifyGet f := modifyGet fun g => let (x, a) := f g.admin; (x, { g with admin := a })

/-- A claim's message from its description. -/
def groupMessageOf (topic : String) (partition : Int) (j : Json) : Record :=
  let pairs := (list j "headers").filterMap fun h => match h.items with
    | [k, v] => k.str?.map fun k => (k, bytesOf v)
    | _ => none
  { topic, partition, offset := int j "offset", key := bytes j "key", value := bytes j "value",
    headers := if pairs.isEmpty then none else some (Headers.ofList pairs) }

/-- A claim from its description. -/
def groupClaimOf (j : Json) : KafkaSource.Claim :=
  let topic := str j "topic"
  let partition := int j "partition"
  { topic, partition, initialOffset := int j "initial", highWater := int j "high_water",
    messages := (list j "messages").map (groupMessageOf topic partition) }

/-- A session from its description. -/
def sessionSpecOf (j : Json) : SessionSpec :=
  { claims := (list j "claims").map groupClaimOf, err := fault j "err", closed := flag j "closed" }

/-- The partitions of claims by topic, topics sorted. -/
def assignmentOf (claims : List KafkaSource.Claim) : List (String × List Int) :=
  let topics := (claims.map (·.topic)).eraseDups.mergeSort fun a b => decide (a ≤ b)
  topics.map fun t => (t, (claims.filter (·.topic == t)).map (·.partition))

/-- The run's world: the runner, the group and admin, and the simulated world. -/
abbrev GroupM := StateT Runner (StateT GroupWorld (StateM PipelineWorld))

/-- Changes the log of the session being played. -/
def changeSession (f : SessionLog → SessionLog) : GroupM Unit :=
  modifyThe GroupWorld fun g => { g with played := g.played.modify (g.played.size - 1) f }

/-- Consumes claims in turn until one is held. -/
def playClaims (handler : KafkaSource.Handler GroupM) (sess : KafkaSource.Session GroupM) :
    List KafkaSource.Claim → GroupM Unit
  | [] => pure ()
  | claim :: rest => do
    changeSession fun s => { s with consumed := s.consumed + 1 }
    match ← handler.consumeClaim sess claim with
    | .held => changeSession fun s => { s with held := true }
    | .finished => playClaims handler sess rest

/-- The group that plays the described sessions. -/
def describedGroup (errors : List Fault) : KafkaSource.Group GroupM where
  errors := errors
  consume topics handler := do
    let g ← getThe GroupWorld
    match g.sessions with
    | [] => return some KafkaSource.groupClosed
    | spec :: rest =>
      set { g with sessions := rest, played := g.played.push { topics } }
      let sess : KafkaSource.Session GroupM :=
        { memberId := "member-1", assignment := assignmentOf spec.claims,
          markOffset := fun t p o => changeSession fun s => { s with marked := s.marked ++ [(t, p, o)] },
          commit := changeSession fun s => { s with commits := s.commits + 1 } }
      handler.setup sess
      playClaims handler sess spec.claims
      handler.cleanup sess
      return if spec.closed then some KafkaSource.groupClosed else spec.err

/-- A played session in an answer. -/
def sessionLogJson (s : SessionLog) : Json :=
  Json.obj [("topics", Json.list Json.text s.topics),
    ("marked", .array (s.marked.map fun (t, p, o) => .array [Json.text t, Json.int p, Json.int o])),
    ("commits", Json.nat s.commits), ("setup_err", .null), ("cleanup_err", .null),
    ("claim_errs", .array (List.replicate s.consumed .null)), ("held", .bool s.held)]

/-- A pipeline scenario in `kafka` mode. -/
def kafkaRunScenario (j : Json) : Json :=
  let (runner, world, errs) := pipelineSetup j
  let k := (j.get? "kafka").getD .null
  let unconfigured := flag k "unconfigured"
  let noAdmin := flag k "no_admin"
  let sessions := (list k "sessions").map sessionSpecOf
  let groupWorld : GroupWorld := { sessions, admin := adminWorldOf ((k.get? "admin").getD .null) }
  let world := if j.has "cancel_before_message" then { world with cancelled := true } else world
  let svc : Services (StateT GroupWorld (StateM PipelineWorld)) := pipelineServices.lift
  let claims := runnerClaims svc fun _ _ => pure none
  let handler (r : Record) : GroupM (Option Fault) := do
    return Engine.handlerFault (← handle svc Engine.turnsPerRun r)
  let group := if unconfigured then none else some (describedGroup ((strs k "group_errors").map Fault.text))
  let admin := if noAdmin || unconfigured then none else some adminOps
  let consume : GroupM (Option Fault) :=
    KafkaSource.run (strs k "topics") (topicAdminOf ((k.get? "topic_admin").getD .null)) admin group claims
      svc.shutdown handler (sessions.length + 1)
  let go : GroupM (Option Fault) := Pipeline.run svc true consume
  let (((err, runner), g), world) := ((go.run runner).run groupWorld).run world
  let health : Option Fault :=
    if unconfigured || noAdmin then some KafkaSource.notConfigured
    else Kafka.checkHealth false (millis k "health_timeout_ms") g.admin.listNs g.admin.listErr
  let sourceClose := if unconfigured then none else fault k "close_err"
  let observed := world.observed.mergeSort fun a b =>
    decide (a.1.partition < b.1.partition ∨ (a.1.partition = b.1.partition ∧ a.1.offset ≤ b.1.offset))
  let (tail, _) := pipelineTail j runner world health sourceClose
  let groupParts := if unconfigured then [] else
    [("sessions", Json.list sessionLogJson g.played.toList), ("group_closed", Json.nat 1)]
  let adminParts := if unconfigured || noAdmin then [] else
    [("topics_created", Json.list topicRequestJson g.admin.created), ("admin_closed", Json.nat 0)]
  Json.obj ([("add_errors", Json.list faultJson errs), ("run_err", faultJson err),
    ("observed", .array (observed.map (·.2))), ("calls", .array world.calls),
    ("deliveries", .array world.deliveries), ("dead_letters", .array world.deadLetters)] ++
    groupParts ++ adminParts ++ tail)

end Conveyor.Scenario
