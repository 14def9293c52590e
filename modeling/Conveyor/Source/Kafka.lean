import Conveyor.Source.Dispatch
import Conveyor.Kafka.Admin
/-!
# The Kafka source

The Kafka source consumes as a member of a consumer group. The group hands the member
sessions; each session assigns partitions (claims), and for every claim the source:

* claims the partition at the offset before the claim's initial one (`-1` when the group has
  no committed offset yet);
* marks in the session the offset after each committed one;
* dispatches the claim's messages in order, telling the ledger the claim's high-water mark
  before each, and stops when the session's context ends or a message is refused;
* when the refusal comes from a halted ledger, logs it and holds the claim until the session
  ends, so that nothing past the failure is committed before the next rebalance;
* closes the claim and commits the session's marks.

A session's start and end are logged; its end commits once more.

A run first ensures the topics when asked, logs what the group reported as errors, and then
consumes session after session until the group closes (the run then ends with its context's
fault, if any), a session fails (the run fails with it), or the context ends.
-/

namespace Conveyor.KafkaSource

/-- A claimed partition of a session, with the messages the broker hands out for it. -/
structure Claim where
  topic : String
  partition : Int
  initialOffset : Int
  highWater : Int
  messages : List Record

/-- What a session offers the member. -/
structure Session (n : Type → Type) where
  memberId : String
  /-- The claimed partitions by topic. -/
  assignment : List (String × List Int)
  markOffset : String → Int → Int → n Unit
  commit : n Unit

/-- How consuming a claim ended. -/
inductive ClaimEnd where
  | finished
  /-- The partition halted, and the claim is held until the session ends. -/
  | held
  deriving DecidableEq, Repr

/-- The last committed offset before a claim's initial one; `-1` for none. -/
def committedBefore (initial : Int) : Int := if initial < 0 then -1 else initial - 1

/-- The offset a session marks for a committed one: the next to read, as a 64-bit word. -/
def markOf (offset : Int) : Int := Word.wrap (offset + 1)

section Member

variable {n : Type → Type} [Monad n]

/-- Dispatching whose commits are marked in the session. -/
def sessionClaims (c : Claims n) (sess : Session n) : Claims n where
  current := c.current
  store d := c.store d
  commit id offset := do
    if let some l ← c.ledger? id then sess.markOffset l.topic l.partition (markOf offset)
    return none
  log e := c.log e

/-- **The start of a session**: logs the assignment. -/
def setup (log : Log.Entry → n Unit) (sess : Session n) : n Unit :=
  log ⟨.info, "kafka partitions assigned", [("member", .str sess.memberId), ("claims", .assignment sess.assignment)]⟩

/-- **The end of a session**: commits and logs. -/
def cleanup (log : Log.Entry → n Unit) (sess : Session n) : n Unit := do
  sess.commit
  log ⟨.info, "kafka partitions released", [("member", .str sess.memberId)]⟩

/-- Dispatches a claim's messages in order. -/
def dispatchAll (c : Claims n) (shutdown : n (Option Fault)) (handle : Record → n (Option Fault))
    (claim : Claim) (id : Nat) : List Record → n ClaimEnd
  | [] => return .finished
  | m :: rest => do
    let s ← shutdown
    if s.isSome then return .finished
    c.updateLedger id (·.observeHighWater claim.highWater)
    match ← c.dispatch handle id m s with
    | .done none => dispatchAll c shutdown handle claim id rest
    | .done (some _) =>
      match (← c.ledger? id).bind (·.halt) with
      | some h =>
        c.log ⟨.error, "kafka partition halted until rebalance",
          [("topic", .str claim.topic), ("partition", .int claim.partition), ("err", .str h.message)]⟩
        return .held
      | none => return .finished
    | .blocked => return .finished

/-- **Consuming a claim**: claim the partition, dispatch, then close the claim and commit. -/
def consumeClaim (c : Claims n) (shutdown : n (Option Fault)) (handle : Record → n (Option Fault))
    (sess : Session n) (claim : Claim) : n ClaimEnd := do
  let c := sessionClaims c sess
  let d ← c.current
  let (id, coordinator) := d.coordinator.openPartition claim.topic claim.partition
    (committedBefore claim.initialOffset)
  c.store { d with coordinator }
  let ending ← dispatchAll c shutdown handle claim id claim.messages
  let d ← c.current
  c.store { d with coordinator := d.coordinator.close id }
  sess.commit
  return ending

end Member

/-- What the member does with a session: start it, consume a claim, end it. -/
structure Handler (n : Type → Type) where
  setup : Session n → n Unit
  consumeClaim : Session n → Claim → n ClaimEnd
  cleanup : Session n → n Unit

/-- A consumer group: the errors it reported, and consuming one session of topics with a
handler, which ends with the session's fault or the group's closing. -/
structure Group (n : Type → Type) where
  errors : List Fault
  consume : List String → Handler n → n (Option Fault)

/-- The fault of a group that was closed. -/
def groupClosed : Fault := .broker .groupClosed

/-- The fault of a source that was never configured. -/
def notConfigured : Fault := .text "kafka: driver not configured"

section Run

variable {n : Type → Type} [Monad n]

/-- Whether a fault is the group's closing. -/
def isGroupClosed (f : Fault) : Bool :=
  f.nodes.any fun n => match n with
    | .broker .groupClosed => true
    | _ => false

/-- Consumes sessions, at most `fuel` of them, until the group closes, a session fails, or
the context ends. -/
def consumeSessions (group : Group n) (handler : Handler n) (shutdown : n (Option Fault))
    (topics : List String) : Nat → n (Option Fault)
  | 0 => shutdown
  | fuel + 1 => do
    match ← group.consume topics handler with
    | some f => if isGroupClosed f then shutdown else return some f
    | none =>
      if let some f ← shutdown then return some f
      consumeSessions group handler shutdown topics fuel

/-- **A run of the Kafka source** over a group (none when the source was never configured)
and an admin, for at most `fuel` sessions. -/
def run (topics : List String) (topicAdmin : Config.TopicAdmin) (admin : Option (Kafka.Admin n))
    (group : Option (Group n)) (c : Claims n) (shutdown : n (Option Fault))
    (handle : Record → n (Option Fault)) (fuel : Nat) : n (Option Fault) := do
  let some group := group | return some notConfigured
  if topicAdmin.ensure then
    match admin with
    | none => return some notConfigured
    | some admin =>
      if let some f ← Kafka.ensureTopics admin c.log topics topicAdmin then return some f
  for e in group.errors do
    c.log ⟨.warn, "kafka consumer group error", [("err", .str e.message)]⟩
  let handler : Handler n :=
    { setup := setup c.log, consumeClaim := consumeClaim c shutdown handle, cleanup := cleanup c.log }
  consumeSessions group handler shutdown topics fuel

end Run

end Conveyor.KafkaSource
