import Conveyor.Fault
import Conveyor.Word
/-!
# Offset ledgers

A ledger keeps the commit position of one partition while its messages are processed out of
order. Offsets are *tracked* in increasing order as they are handed out and *resolved* as
their processing ends; the committed offset moves to the last offset of the longest resolved
prefix of the tracked ones, so nothing is committed before everything below it is done.

A ledger that meets an offset out of order, or whose commit fails, *halts*: it keeps the
first fault and refuses all later work with it. At most `capacity` offsets are pending at
once. Beside the pending list the ledger keeps an index from each pending offset to its
entry, and resolving looks the offset up there.

Resolving is two steps, so that the commit itself can be done by the caller: `Ledger.mark`
marks the offset and names the offset to commit, if any; `Ledger.settle` records the commit's
outcome.
-/

namespace Conveyor

/-- The commit position of one partition. -/
structure Ledger where
  topic : String
  partition : Int
  capacity : Nat
  /-- Tracked offsets not yet committed, in increasing order, each with whether it is resolved. -/
  pending : List (Int × Bool) := []
  /-- The pending entries by offset, newest first; resolving looks an offset up here. -/
  index : List (Int × (Int × Bool)) := []
  /-- The last committed offset; `-1` before the first commit. -/
  committed : Int
  lastTracked : Int
  /-- The next offset the broker will write; `-1` while unknown. -/
  highWater : Int := -1
  commits : Nat := 0
  /-- The fault that halted the ledger. -/
  halt : Option Fault := none

/-- What tracking an offset came to. -/
inductive TrackOutcome where
  | tracked
  | refused (f : Fault)
  /-- No room: the caller must wait for a resolution. -/
  | full

/-- A ledger's state as reported. -/
structure PartitionStatus where
  topic : String
  partition : Int
  committed : Int
  lastTracked : Int
  pending : Nat
  highWater : Int
  lag : Int
  commits : Nat
  halted : Bool
  err : String

namespace Ledger

/-- A ledger that starts after the committed offset; a capacity that is not positive is one. -/
def create (topic : String) (partition committed capacity : Int) : Ledger :=
  { topic, partition, committed, lastTracked := committed,
    capacity := if capacity ≤ 0 then 1 else capacity.toNat }

/-- Keeps the first fault. -/
def halted (l : Ledger) (f : Fault) : Ledger :=
  match l.halt with
  | some _ => l
  | none => { l with halt := some f }

/-- The fault that a ledger's current halt reports. -/
def haltFault (l : Ledger) (f : Fault) : Fault := (l.halted f).halt.getD f

/-- An out-of-order fault on this ledger's partition. -/
def violation (l : Ledger) (offset : Int) (reason : String) : Fault :=
  .outOfOrder l.topic l.partition offset reason

/-- **Tracking an offset.** A halted ledger refuses with its fault, then a begun shutdown
refuses with its fault, then a full ledger asks to wait; an offset not above the last tracked
one halts the ledger. -/
def track (l : Ledger) (offset : Int) (shutdown : Option Fault) : TrackOutcome × Ledger :=
  match l.halt, shutdown with
  | some f, _ => (.refused f, l)
  | none, some f => (.refused f, l)
  | none, none =>
    if l.pending.length ≥ l.capacity then (.full, l)
    else if offset ≤ l.lastTracked then
      let f := l.violation offset ("tracked after " ++ toString l.lastTracked)
      (.refused f, l.halted f)
    else
      (.tracked, { l with pending := l.pending ++ [(offset, false)],
                          index := (offset, (offset, false)) :: l.index, lastTracked := offset })

/-- The length of the resolved prefix of the pending offsets. -/
def resolvedPrefix (l : Ledger) : Nat := (l.pending.takeWhile (·.2)).length

/-- An entry with `offset` marked resolved; an entry of another offset is left as it is. -/
def resolveEntry (offset : Int) (e : Int × Bool) : Int × Bool :=
  if e.1 == offset then (e.1, true) else e

/-- The pending offsets with `offset` marked resolved, in the list and in the index alike. -/
def markResolved (l : Ledger) (offset : Int) : Ledger :=
  { l with pending := l.pending.map (resolveEntry offset),
           index := l.index.map fun q => (q.1, resolveEntry offset q.2) }

/-- The last offset of the resolved prefix: the offset a commit would name. -/
def commitCandidate? (l : Ledger) : Option Int := (l.pending.take l.resolvedPrefix).getLast?.map (·.1)

/-- **Marking an offset resolved**: the offset to commit when the resolved prefix now ends
above the committed offset, `none` when nothing can be committed yet. An offset never
tracked, or resolved twice, halts the ledger. -/
def mark (l : Ledger) (offset : Int) : Ledger × Except Fault (Option Int) :=
  match l.halt with
  | some f => (l, .error f)
  | none =>
    match l.index.lookup offset with
    | none =>
      let f := l.violation offset "resolved but never tracked"
      (l.halted f, .error f)
    | some (_, true) =>
      let f := l.violation offset "resolved twice"
      (l.halted f, .error f)
    | some (_, false) =>
      let l := l.markResolved offset
      match l.commitCandidate? with
      | none => (l, .ok none)
      | some next =>
        if next ≤ l.committed then
          let f := l.violation next ("commit would move back from " ++ toString l.committed)
          (l.halted f, .error f)
        else (l, .ok (some next))

/-- **Recording a commit's outcome** for offset `next`: on success the resolved prefix up to
`next` leaves the ledger and `next` is committed; a failed commit halts the ledger. -/
def settle (l : Ledger) (next : Int) (outcome : Option Fault) : Ledger × Option Fault :=
  match outcome with
  | some e =>
    let f : Fault := .wrap ("commit " ++ l.topic ++ "[" ++ toString l.partition ++ "]@" ++ toString next ++ ": ") e
    (l.halted f, some (l.haltFault f))
  | none =>
    -- the entries up to `next` leave the list, and their offsets the index
    let done := l.pending.filter (·.1 ≤ next)
    ({ l with pending := l.pending.filter (·.1 > next),
              index := l.index.filter fun e => !(done.any (·.1 == e.1)),
              committed := next, commits := l.commits + 1 }, none)

/-- Halts the ledger with a fault; no fault leaves it as it is. -/
def haltWith (l : Ledger) : Option Fault → Ledger
  | some f => l.halted f
  | none => l

/-- Records a larger high-water mark. -/
def observeHighWater (l : Ledger) (hw : Int) : Ledger :=
  if hw > l.highWater then { l with highWater := hw } else l

/-- **The status**: the head is the larger of the next offset to track and the high-water
mark, and the lag counts the offsets between the commit position and the head, in 64-bit
arithmetic. -/
def status (l : Ledger) : PartitionStatus :=
  let head := max (Word.wrap (l.lastTracked + 1)) l.highWater
  { topic := l.topic, partition := l.partition, committed := l.committed,
    lastTracked := l.lastTracked, pending := l.pending.length, highWater := l.highWater,
    lag := Word.wrap (head - Word.wrap (l.committed + 1)), commits := l.commits,
    halted := l.halt.isSome, err := (l.halt.map Fault.message).getD "" }

end Ledger

end Conveyor
