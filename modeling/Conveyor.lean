import Conveyor.Scenario.Answer
import Conveyor.Main
import Conveyor.Proofs.Ledger.History
import Conveyor.Proofs.Ledger.Invariant
import Conveyor.Proofs.Ledger.Resolution
import Conveyor.Proofs.Ledger.CommitOrder
import Conveyor.Proofs.Dispatch.Pool
import Conveyor.Proofs.Dispatch.View
import Conveyor.Proofs.Dispatch.Invariant
import Conveyor.Proofs.Dispatch.Progress
import Conveyor.Proofs.Dispatch.Workers
import Conveyor.Proofs.Fault.Matching
import Conveyor.Proofs.Fault.Classes
import Conveyor.Proofs.Config.Validated
import Conveyor.Proofs.Kafka.Topics
import Conveyor.Proofs.Pipeline.Tape
import Conveyor.Proofs.Pipeline.Engine
import Conveyor.Proofs.Pipeline.Handling
import Conveyor.Proofs.Breaker.Invariant
import Conveyor.Proofs.Breaker.Probes
import Conveyor.Proofs.Dispatch.Feed
import Conveyor.Proofs.Source.KafkaMarks
import Conveyor.Proofs.Source.MemoryRestart
import Conveyor.Proofs.Source.MemoryLoop
import Conveyor.Proofs.Plugin.Status
import Conveyor.Proofs.Decimal.ReadBack
import Conveyor.Proofs.Text.Lossy
import Conveyor.Proofs.Plugin.RoundTrip
import Conveyor.Proofs.DeadLetter.Placement
import Conveyor.Proofs.Pipeline.Keeps
import Conveyor.Proofs.Pipeline.Letters
import Conveyor.Proofs.Pipeline.Counters
import Conveyor.Proofs.Pipeline.Chaining
import Conveyor.Proofs.Retry.Protocol
import Conveyor.Proofs.Word
import Conveyor.Proofs.Ledger.Failure
import Conveyor.Proofs.Ledger.Lag
import Conveyor.Proofs.Ledger.Representation
import Conveyor.Proofs.Retry.Deadline
import Conveyor.Proofs.Retry.Reasons
import Conveyor.Proofs.Retry.Exclusive
import Conveyor.Proofs.Sink.Downstream
