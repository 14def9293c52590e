import Conveyor.Offsets.Coordinator
import Conveyor.Source.Limiter
import Conveyor.Record
import Conveyor.Log
/-!
# Dispatching messages

A source hands each message of a partition to the dispatcher through the partition's claim,
a ledger of the coordinator. Dispatching tracks the offset, takes a worker token, runs the
handler, gives the token back and finishes the message:

* success resolves the offset, committing what became contiguous (a failure to do so is
  logged, and the ledger is halted by it);
* an abandoned message is only logged: its offset stays pending and is never committed;
* any other failure halts the partition with the message's label before the fault.

The dispatcher is written over any monad that holds it and performs commits, so that each
source decides where its commits go.
-/

namespace Conveyor

/-- The coordinator and the worker limiter. -/
structure Dispatcher where
  coordinator : Coordinator
  limiter : Limiter

/-- What dispatching needs from the world. -/
structure Claims (m : Type → Type) where
  /-- The dispatcher as it stands. -/
  current : m Dispatcher
  /-- Stores the dispatcher. -/
  store : Dispatcher → m Unit
  /-- Commits an offset for a ledger. -/
  commit : Nat → Int → m (Option Fault)
  /-- Writes a log record. -/
  log : Log.Entry → m Unit

/-- What dispatching a message came to. -/
inductive DispatchOutcome where
  /-- The handler ran, or the message was refused with a fault. -/
  | done (err : Option Fault)
  /-- The ledger or the limiter is full: the source must wait. -/
  | blocked

/-- The position of a record in log records. -/
def Record.logPosition (r : Record) : List (String × Log.Value) :=
  [("topic", .str r.topic), ("partition", .int r.partition), ("offset", .int r.offset)]

namespace Claims

variable {m : Type → Type} [Monad m]

/-- Changes the ledger with a number. -/
def updateLedger (c : Claims m) (id : Nat) (f : Ledger → Ledger) : m Unit := do
  let d ← c.current
  c.store { d with coordinator := d.coordinator.update id f }

/-- The ledger with a number. -/
def ledger? (c : Claims m) (id : Nat) : m (Option Ledger) := do
  return (← c.current).coordinator.get? id

/-- **Resolving an offset**, with the commit it allows: the committed offset afterwards and
the fault, if resolving failed. -/
def resolve (c : Claims m) (id : Nat) (offset : Int) : m (Int × Option Fault) := do
  match ← c.ledger? id with
  | none => return (-1, none)
  | some l =>
    let (l, marked) := l.mark offset
    c.updateLedger id fun _ => l
    match marked with
    | .error f => return (l.committed, some f)
    | .ok none => return (l.committed, none)
    | .ok (some next) =>
      let outcome ← c.commit id next
      let (l, err) := l.settle next outcome
      c.updateLedger id fun _ => l
      return (l.committed, err)

/-- **Finishing a message** with its handler's outcome. -/
def finish (c : Claims m) (id : Nat) (r : Record) : Option Fault → m Unit
  | none => do
    let (_, err) ← c.resolve id r.offset
    if let some f := err then
      c.log ⟨.error, "partition halted", r.logPosition ++ [("err", .str f.message)]⟩
  | some f => do
    if f.isa .abandoned then
      c.log ⟨.debug, "message abandoned", r.logPosition⟩
    else
      c.updateLedger id fun l => l.halted (.wrap (r.label ++ ": ") f)
      c.log ⟨.error, "partition halted", r.logPosition ++ [("err", .str f.message)]⟩

/-- **Tracking a message's offset**, the first part of dispatching: `none` once the offset is
tracked, otherwise what dispatching came to. -/
def track (c : Claims m) (id : Nat) (r : Record) (shutdown : Option Fault) :
    m (Option DispatchOutcome) := do
  match ← c.ledger? id with
  | none => return some (.done none)
  | some l =>
    let (trackOutcome, l) := l.track r.offset shutdown
    c.updateLedger id fun _ => l
    match trackOutcome with
    | .refused f => return some (.done (some f))
    | .full => return some .blocked
    | .tracked => return none

/-- **Taking a worker token** for a tracked message: `none` once taken, otherwise what
dispatching came to. -/
def acquire (c : Claims m) (shutdown : Option Fault) : m (Option DispatchOutcome) := do
  let d ← c.current
  let (takeOutcome, lim) := d.limiter.take shutdown
  c.store { d with limiter := lim }
  match takeOutcome with
  | .refused f => return some (.done (some f))
  | .empty => return some .blocked
  | .taken => return none

/-- **Completing a message** whose handler answered `result`: the token goes back and the
message finishes. -/
def complete (c : Claims m) (id : Nat) (r : Record) (result : Option Fault) : m Unit := do
  let d ← c.current
  c.store { d with limiter := d.limiter.give 1 }
  c.finish id r result

/-- **Dispatching a message** through a claim: track, take a token, handle, give the token
back, finish. -/
def dispatch (c : Claims m) (handle : Record → m (Option Fault)) (id : Nat) (r : Record)
    (shutdown : Option Fault) : m DispatchOutcome := do
  if let some outcome ← c.track id r shutdown then return outcome
  if let some outcome ← c.acquire shutdown then return outcome
  c.complete id r (← handle r)
  return .done none

end Claims

end Conveyor
