import Conveyor.Proofs.Pipeline.Chaining
import Conveyor.Pipeline.Compile
/-!
# What the Kafka sink does with a processed message

Routing hands the downstream sinks one envelope for a message the stages processed: the
message's record with the last value and the route the last processor picked, and partition
`-1`, which lets the sink pick one, and only once every stage produced a value
(`Chained.deliveries`). Loading a pipeline with a Kafka sink
requires the sink's topic (`Pipeline.load_kafka_topic`), so the Kafka sink sends such an
envelope to the route when there is one and to its own topic otherwise
(`KafkaSink.downstreamTopic`).

Whether it sends it at all is the sink's `preserve_partition`: off, the envelope passes the
sink's checks and the producer gets one record with the message's key and the processed value,
the producer picking the partition; on, the sink asks every record for its own partition, and
refuses every such envelope for good before the producer sees it
(`KafkaSink.record_downstream_preserved`). Nothing in loading or compiling a pipeline rules the
second setting out.

Main statement: `downstream_kafka_delivery`.
-/

namespace Conveyor

open Config

namespace KafkaSink

/-- The topic a downstream record goes to: the route a processor set, else the sink's own. -/
def downstreamTopic (c : KafkaSinkSpec) (route : String) : String :=
  if route.isEmpty then c.topic else route

/-- With partitions preserved, a downstream envelope is refused for good. -/
theorem record_downstream_preserved (c : KafkaSinkSpec) (hp : c.preservePartition = true)
    (htopic : c.topic ≠ "") (o : Record) (v : Option ByteArray) (route : String) :
    record c ((Envelope.ofRecord o v).routeTo route) =
      .error (.undeliverable (.text ("kafka-sink: " ++ downstreamTopic c route ++
        " needs an explicit partition"))) := by
  have hne : c.topic.isEmpty = false := String.isEmpty_eq_false_iff.mpr htopic
  unfold record Envelope.routeTo Envelope.ofRecord downstreamTopic
  by_cases hr : route.isEmpty <;> simp [hr, hne, hp, Envelope.anyPartition]

/-- Otherwise it becomes a record for the route, or for the sink's topic when there is none. -/
theorem record_downstream_unpreserved (c : KafkaSinkSpec) (hp : c.preservePartition = false)
    (htopic : c.topic ≠ "") (o : Record) (v : Option ByteArray) (route : String) :
    ∃ hs, record c ((Envelope.ofRecord o v).routeTo route) =
      .ok { topic := downstreamTopic c route, partition := 0, key := o.key, value := v,
            headers := hs } := by
  have hne : c.topic.isEmpty = false := String.isEmpty_eq_false_iff.mpr htopic
  unfold record Envelope.routeTo Envelope.ofRecord downstreamTopic
  by_cases hr : route.isEmpty <;> simp [hr, hne, hp]

end KafkaSink

/-- A pipeline that loads with a Kafka sink names the sink's topic. -/
theorem Config.Pipeline.load_kafka_topic {path : String} {file : FileRead} {p : Pipeline}
    (h : Pipeline.load path file = (p, none)) (hk : "kafka" ∈ p.spec.sinks.getD []) :
    p.spec.kafkaSink.topic ≠ "" := by
  unfold Pipeline.load at h
  split at h
  next => simp [FileRead.error] at h
  next => simp [FileRead.error] at h
  next t =>
    split at h
    · cases h
    · dsimp only at h
      split at h
      · cases h
      generalize (if (PipelineSpec.ofDatum _).schemaVersion.isEmpty = true then _ else _) = S at h
      -- past the schema version, the sinks and the dead-letter sink, the Kafka topic is checked
      split at h
      · cases h
      split at h
      · cases h
      split at h
      · cases h
      split at h
      · cases h
      rename_i hkafka
      rw [Prod.mk.injEq] at h
      obtain ⟨rfl, -⟩ := h
      dsimp only at hk ⊢
      intro htop
      apply hkafka
      simp [htop, hk]

namespace Pipeline

open Recording

/-- **What a loaded pipeline's Kafka sink does with a processed message.** Handling any message
with any runner, in any world and for any number of turns of its engines, delivers only records
of the message, once every stage produced a value, with the value and the route that the last
stage's last attempt left.
Through the Kafka sink of any pipeline that loads with `kafka` among its sinks, such a record
reaches the producer exactly when partitions are not preserved: then as one record for the
route, or the sink's topic when there is none, with the message's key and the value, the
producer picking the partition; with partitions preserved it is refused for good and the
producer is not called. -/
theorem downstream_kafka_delivery (fuel : Nat) (script : Script) (r : Runner) (msg : Record) :
    (let calls := (((handle Tape.services fuel msg).run r).run { script, calls := [] }).2.calls
      ∀ e a, Call.deliver e a ∈ calls → ∃ o v route, o.SameMessage msg ∧
        Finished 0 r.stages.length msg (calls.filterMap Call.processing?) v route ∧
        e = (Envelope.ofRecord o v).routeTo route) ∧
    ∀ (path : String) (file : FileRead) (p : Pipeline), Pipeline.load path file = (p, none) →
      "kafka" ∈ p.spec.sinks.getD [] → ∀ (o : Record) (v : Option ByteArray) (route : String),
        (p.spec.kafkaSink.preservePartition = false →
          ∃ rec : KafkaSink.ProducerRecord,
            rec.topic = KafkaSink.downstreamTopic p.spec.kafkaSink route ∧
            rec.partition = 0 ∧ rec.key = o.key ∧ rec.value = v ∧
            ∀ {n : Type → Type} [Monad n] (send : KafkaSink.ProducerRecord → n (Option Fault)),
              KafkaSink.deliver p.spec.kafkaSink true none send
                  ((Envelope.ofRecord o v).routeTo route) =
                send rec >>= fun f => pure (f.map KafkaSink.sendFault)) ∧
        (p.spec.kafkaSink.preservePartition = true →
          ∀ {n : Type → Type} [Monad n] (send : KafkaSink.ProducerRecord → n (Option Fault)),
            KafkaSink.deliver p.spec.kafkaSink true none send
                ((Envelope.ofRecord o v).routeTo route) =
              pure (some (.undeliverable (.text ("kafka-sink: " ++
                KafkaSink.downstreamTopic p.spec.kafkaSink route ++
                " needs an explicit partition"))))) := by
  refine ⟨fun e a hmem => ?_, fun path file p hload hk o v route => ?_⟩
  · -- routing hands the sink a record of the message, with the stages' last value and route
    obtain ⟨new, hc, hch⟩ := triple_handle_chained fuel msg r.stages []
      ((r, { script, calls := [] }) : Runner × Tape) ⟨rfl, rfl⟩
    have hcalls :
        (((handle Tape.services fuel msg).run r).run { script, calls := [] }).2.calls = new := hc
    rw [hcalls] at hmem ⊢
    exact hch.deliveries e a hmem
  have htopic := Config.Pipeline.load_kafka_topic hload hk
  refine ⟨fun hp => ?_, fun hp n _ send => ?_⟩
  · obtain ⟨hs, hrec⟩ := KafkaSink.record_downstream_unpreserved _ hp htopic o v route
    refine ⟨⟨KafkaSink.downstreamTopic p.spec.kafkaSink route, 0, o.key, v, hs⟩, rfl, rfl, rfl, rfl,
      fun send => ?_⟩
    simp [KafkaSink.deliver, hrec]
  · simp [KafkaSink.deliver, KafkaSink.record_downstream_preserved _ hp htopic]

/-- A Kafka sink with topic `out` and partitions preserved refuses the downstream record of an
`orders` message, for good, without calling the producer. -/
theorem preserved_partition_refuses_downstream :
    KafkaSink.deliver { topic := "out", preservePartition := true } true none
        (fun _ => (pure none : Id (Option Fault)))
        ((Envelope.ofRecord { topic := "orders", partition := 0, offset := 0 }
          (some "x".toUTF8)).routeTo "") =
      pure (some (.undeliverable (.text "kafka-sink: out needs an explicit partition"))) := by
  rfl

end Pipeline

end Conveyor
