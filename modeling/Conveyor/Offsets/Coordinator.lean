import Conveyor.Offsets.Ledger
/-!
# Ledger coordinator

The coordinator hands out one ledger per partition and reports them all. Opening a partition
again replaces its ledger; closing removes a partition's ledger only if it is still the one
given. Ledgers are known by the number they were opened with, so a replaced ledger can still
be used by whoever holds it.
-/

namespace Conveyor

/-- The ledgers of all partitions. -/
structure Coordinator where
  capacity : Int
  /-- Every ledger opened, by number. -/
  ledgers : Array Ledger := #[]
  /-- The current ledger of each partition: topic, partition and ledger number. -/
  current : List (String × Int × Nat) := []

namespace Coordinator

/-- **Opening a partition**: a new ledger, now the partition's current one, and its number. -/
def openPartition (c : Coordinator) (topic : String) (partition committed : Int) : Nat × Coordinator :=
  let id := c.ledgers.size
  (id, { c with ledgers := c.ledgers.push (Ledger.create topic partition committed c.capacity),
                current := (c.current.filter fun (t, p, _) => !(t == topic && p == partition)) ++
                  [(topic, partition, id)] })

/-- The ledger with a number. -/
def get? (c : Coordinator) (id : Nat) : Option Ledger := c.ledgers[id]?

/-- Changes the ledger with a number. -/
def update (c : Coordinator) (id : Nat) (f : Ledger → Ledger) : Coordinator :=
  { c with ledgers := c.ledgers.modify id f }

/-- **Closing** a ledger: its partition forgets it if it is still the current one. -/
def close (c : Coordinator) (id : Nat) : Coordinator :=
  { c with current := c.current.filter fun (_, _, i) => i != id }

/-- The number of a partition's current ledger. -/
def lookup (c : Coordinator) (topic : String) (partition : Int) : Option Nat :=
  (c.current.find? fun (t, p, _) => t == topic && p == partition).map (·.2.2)

/-- **The statuses** of the current ledgers, by topic and then partition. -/
def snapshot (c : Coordinator) : List PartitionStatus :=
  let all := c.current.filterMap fun (_, _, id) => (c.get? id).map Ledger.status
  all.mergeSort fun a b => a.topic < b.topic || (a.topic == b.topic && a.partition ≤ b.partition)

end Coordinator

end Conveyor
