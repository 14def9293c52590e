import Conveyor.Source.Dispatch
/-!
# The in-memory log

An in-process partitioned log and its consumer. Each partition is a sequence of records whose
offsets count from zero; the committed offset of each partition lives in the log (`-1` before
any commit), and a commit never moves it back.

Consuming a partition claims it at its committed offset and dispatches its records in offset
order, telling the ledger the partition's high-water mark before each one. A consumer that
stops when drained stops at the high-water mark it saw when it started; otherwise it waits
for more records until shutdown. A partition whose ledger halted stops quietly, with a log
record; any other refusal stops the partition with that fault. A stopped partition's claim is
closed.
-/

namespace Conveyor

/-- A partitioned log with committed offsets. -/
structure MemoryLog where
  topic : String
  parts : Array (Array Record)
  committed : Array Int

namespace MemoryLog

/-- An empty log; a partition count that is not positive is one. -/
def create (topic : String) (partitions : Int) : MemoryLog :=
  let n := if partitions ≤ 0 then 1 else partitions.toNat
  { topic, parts := Array.replicate n #[], committed := Array.replicate n (-1) }

/-- The number of partitions. -/
def partitions (l : MemoryLog) : Nat := l.parts.size

/-- The records of a partition. -/
def records (l : MemoryLog) (p : Nat) : Array Record := l.parts.getD p #[]

/-- The next offset of a partition. -/
def highWater (l : MemoryLog) (p : Nat) : Int := (l.records p).size

/-- **Appending** a record to a partition; it gets the next offset. -/
def append (l : MemoryLog) (p : Nat) (key value : Option ByteArray) (headers : Option Headers) :
    MemoryLog :=
  let r : Record := { topic := l.topic, partition := p, offset := l.highWater p, key, value, headers }
  { l with parts := l.parts.modify p (·.push r) }

/-- The committed offset of a partition. -/
def committedAt (l : MemoryLog) (p : Nat) : Int := l.committed.getD p (-1)

/-- **Committing** an offset of a partition; the committed offset only grows. -/
def commit (l : MemoryLog) (p : Nat) (offset : Int) : MemoryLog :=
  { l with committed := l.committed.modify p fun c => max c offset }

end MemoryLog

/-- Where a partition's consumer stands. -/
inductive PartitionRun where
  /-- Waiting for the record at `next`, with the claim's ledger number. -/
  | waiting (ledger : Nat) (next : Int)
  /-- Stopped, with the fault it stopped on, if any. -/
  | stopped (err : Option Fault)

section Consumer

variable {n : Type → Type} [Monad n] [MonadStateOf MemoryLog n]

/-- Dispatching that commits into the log, the dispatcher staying where `c` keeps it. -/
def MemoryLog.claims (c : Claims n) : Claims n where
  current := c.current
  store d := c.store d
  commit id offset := do
    if let some l ← c.ledger? id then
      modifyThe MemoryLog (·.commit l.partition.toNat offset)
    return none
  log e := c.log e

/-- **Dispatches records** of a partition in order, until one is refused. -/
def MemoryLog.dispatchAll (c : Claims n) (shutdown : n (Option Fault))
    (handle : Record → n (Option Fault)) (p : Nat) (id : Nat) :
    List Record → Int → n PartitionRun
  | [], next => return .waiting id next
  | r :: rest, next => do
    let hw := (← getThe MemoryLog).highWater p
    (MemoryLog.claims c).updateLedger id (·.observeHighWater hw)
    let s ← shutdown
    match ← (MemoryLog.claims c).dispatch handle id r s with
    | .done none => MemoryLog.dispatchAll c shutdown handle p id rest (next + 1)
    | .done (some f) =>
      match (← c.ledger? id).bind (·.halt) with
      | some h =>
        c.log ⟨.error, "memory partition halted",
          [("topic", .str (← getThe MemoryLog).topic), ("partition", .int p), ("err", .str h.message)]⟩
        return .stopped none
      | none => return .stopped (some f)
    | .blocked => return .stopped (some (s.getD (.sentinel .canceled)))

/-- Closes a claim. -/
def MemoryLog.release (c : Claims n) (id : Nat) : n Unit := do
  let d ← c.current
  c.store { d with coordinator := d.coordinator.close id }

/-- **Consumes the records a partition has from `next` on**; when drained, stops at the end
and closes the claim. -/
def MemoryLog.consumeFrom (c : Claims n) (shutdown : n (Option Fault))
    (handle : Record → n (Option Fault)) (drain : Bool) (p id : Nat) (next : Int) : n PartitionRun := do
  let l ← getThe MemoryLog
  let available := (l.records p).toList.drop next.toNat
  let run ← MemoryLog.dispatchAll c shutdown handle p id available next
  match run with
  | .waiting _ _ =>
    if drain then
      MemoryLog.release c id
      return .stopped none
    return run
  | .stopped _ =>
    MemoryLog.release c id
    return run

/-- **Starts consuming a partition**: claims it at its committed offset and consumes what is
there. -/
def MemoryLog.consume (c : Claims n) (shutdown : n (Option Fault))
    (handle : Record → n (Option Fault)) (drain : Bool) (p : Nat) : n PartitionRun := do
  let l ← getThe MemoryLog
  let committed := l.committedAt p
  let d ← c.current
  let (id, coordinator) := d.coordinator.openPartition l.topic p committed
  c.store { d with coordinator }
  MemoryLog.consumeFrom c shutdown handle drain p id (committed + 1)

/-- **Resumes a waiting partition** after records were appended. -/
def MemoryLog.resume (c : Claims n) (shutdown : n (Option Fault))
    (handle : Record → n (Option Fault)) (p : Nat) : PartitionRun → n PartitionRun
  | .waiting id next => MemoryLog.consumeFrom c shutdown handle false p id next
  | run => return run

/-- **Stops a waiting partition** at shutdown: its claim closes and it stops with the
shutdown's fault. -/
def MemoryLog.stop (c : Claims n) (f : Fault) : PartitionRun → n PartitionRun
  | .waiting id _ => do
    MemoryLog.release c id
    return .stopped (some f)
  | run => return run

end Consumer

/-- The first fault the partitions stopped on. -/
def PartitionRun.firstFault (runs : List PartitionRun) : Option Fault :=
  runs.findSome? fun
    | .stopped f => f
    | .waiting _ _ => none

end Conveyor
