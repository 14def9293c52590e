import Conveyor.Config.Kafka
import Conveyor.Log
/-!
# Topics and the cluster's health

Before consuming, the Kafka source can make sure its topics exist. It lists the cluster's
topics once, then for each source topic in order:

* a missing source topic is created with the configured partitions and replication;
* its dead-letter topic (the topic's name and the suffix) is created, when missing, with as
  many partitions as the source topic has, so that a failed record keeps its partition; an
  existing dead-letter topic with fewer partitions is only warned about.

A topic that already exists by the time it is created counts as created. Each creation is
logged, and the first failure stops the work.

The health check lists the topics and reports a listing that fails; a listing that outlasts
the timeout (when one is set), or a context that was already cancelled, fails the check with
the context's fault.
-/

namespace Conveyor.Kafka

open Config

/-- A topic to create. -/
structure TopicRequest where
  topic : String
  partitions : Int
  replicationFactor : Int
  validateOnly : Bool := false

/-- What the cluster's admin offers: the topics with their partition counts, and creating a
topic. -/
structure Admin (n : Type → Type) where
  listTopics : n (Except Fault (List (String × Int)))
  createTopic : TopicRequest → n (Option Fault)

section Topics

variable {n : Type → Type} [Monad n]

/-- Whether a fault is, or holds, the broker's word that a topic exists. -/
def alreadyExists (f : Fault) : Bool :=
  f.nodes.any fun n => match n with
    | .broker .topicAlreadyExists => true
    | _ => false

/-- **Creating a topic**; one that already exists counts as created. -/
def createTopic (admin : Admin n) (log : Log.Entry → n Unit) (name : String)
    (partitions replicationFactor : Int) : n (Option Fault) := do
  let err ← admin.createTopic { topic := name, partitions, replicationFactor }
  match err with
  | some f =>
    if !alreadyExists f then return some (.wrap ("kafka: create topic " ++ name ++ ": ") f)
  | none => pure ()
  log ⟨.info, "kafka topic ensured",
    [("topic", .str name), ("partitions", .int partitions), ("replication_factor", .int replicationFactor)]⟩
  return none

/-- Ensures each topic and its dead-letter topic, against the topics listed at the start. -/
def ensureEach (admin : Admin n) (log : Log.Entry → n Unit) (cfg : TopicAdmin)
    (existing : List (String × Int)) : List String → n (Option Fault)
  | [] => return none
  | t :: rest => do
    let (partitions, err) ← match existing.lookup t with
      | some p => pure (p, none)
      | none => do pure (cfg.partitions, ← createTopic admin log t cfg.partitions cfg.replicationFactor)
    if let some f := err then return some f
    let dlq := t ++ cfg.deadLetterSuffix
    match existing.lookup dlq with
    | none =>
      if let some f ← createTopic admin log dlq partitions cfg.replicationFactor then return some f
    | some d =>
      if d < partitions then
        log ⟨.warn, "dead-letter topic has fewer partitions than its source",
          [("topic", .str t), ("dead_letter_topic", .str dlq), ("partitions", .int partitions),
           ("dead_letter_partitions", .int d)]⟩
    ensureEach admin log cfg existing rest

/-- **Ensuring the topics** a source reads and their dead-letter topics. -/
def ensureTopics (admin : Admin n) (log : Log.Entry → n Unit) (topics : List String) (cfg : TopicAdmin) :
    n (Option Fault) := do
  match ← admin.listTopics with
  | .error f => return some (.wrap "kafka: list topics: " f)
  | .ok existing => ensureEach admin log cfg existing topics

end Topics

/-- **The health check**, given how the listing went and how long it took: an already
cancelled context, then a timeout shorter than the listing, fail the check first. -/
def checkHealth (cancelled : Bool) (timeoutNs listNs : Int) (listed : Option Fault) : Option Fault :=
  if cancelled then some (.wrap "kafka: health check: " (.sentinel .canceled))
  else if timeoutNs > 0 && listNs > timeoutNs then
    some (.wrap "kafka: health check: " (.sentinel .deadlineExceeded))
  else listed.map (.wrap "kafka: list topics: ")

end Conveyor.Kafka
