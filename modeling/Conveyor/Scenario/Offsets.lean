import Conveyor.Scenario.Codec
import Conveyor.Source.Dispatch
/-!
# Offset scenarios

Ledgers, the coordinator, the worker limiter and the dispatcher, driven by operations. A
call that would wait forever is given a shutdown that has already begun instead: tracking
into a full ledger that is not halted, and taking a token from an empty limiter that is not
closed. Commits succeed except at the offsets listed as failing, which are refused with
`commit refused at <offset>`.
-/

namespace Conveyor.Scenario

/-- The world of an offset scenario. -/
structure OffsetWorld where
  dispatcher : Dispatcher
  failing : List Int := []
  /-- Whether commits are recorded at all. -/
  recording : Bool := true
  /-- Commits made during the current step: offset and ledger number. -/
  commits : List (Int × Nat) := []
  /-- Messages handled during the current step. -/
  handled : List String := []
  /-- How the handler answers, by partition and offset. -/
  outcomes : List (String × Int × Int × Option Fault) := []

/-- The world's side of dispatching. -/
def offsetClaims : Claims (StateM OffsetWorld) where
  current := do return (← get).dispatcher
  store d := modify fun w => { w with dispatcher := d }
  commit id offset := do
    let w ← get
    if !w.recording then return none
    set { w with commits := w.commits ++ [(offset, id)] }
    if w.failing.contains offset then return some (.text ("commit refused at " ++ toString offset))
    return none
  log _ := pure ()

/-- A ledger status in an answer. -/
def statusJson (s : PartitionStatus) : Json :=
  Json.obj [("topic", Json.text s.topic), ("partition", Json.int s.partition),
    ("committed", Json.int s.committed), ("last_tracked", Json.int s.lastTracked),
    ("pending", Json.nat s.pending), ("high_water", Json.int s.highWater), ("lag", Json.int s.lag),
    ("commits", Json.nat s.commits), ("halted", .bool s.halted), ("err", Json.text s.err)]

/-- The shutdown a call is given: begun when asked, or when the call would wait forever. -/
def givenShutdown (cancelled wouldWait : Bool) : Option Fault :=
  if cancelled || wouldWait then some (.sentinel .canceled) else none

/-- Whether tracking into a ledger would wait forever. -/
def ledgerFull (l : Ledger) : Bool := l.halt.isNone && l.pending.length ≥ l.capacity

/-- **One ledger operation** on the ledger with a number. -/
def ledgerOp (id : Nat) (op : Json) : StateM OffsetWorld Json := do
  let some l ← offsetClaims.ledger? id | return .null
  match str op "do" with
  | "track" =>
    let (outcome, l) := l.track (int op "offset") (givenShutdown (flag op "cancelled") (ledgerFull l))
    offsetClaims.updateLedger id fun _ => l
    let err := match outcome with
      | .refused f => some f
      | _ => none
    return Json.obj [("err", faultJson err)]
  | "resolve" =>
    let (committed, err) ← offsetClaims.resolve id (int op "offset")
    return Json.obj [("committed", Json.int committed), ("err", faultJson err)]
  | "halt" =>
    let msg := str op "msg"
    offsetClaims.updateLedger id fun l => l.haltWith (if msg.isEmpty then none else some (.text msg))
    return .null
  | "high_water" =>
    offsetClaims.updateLedger id fun l => l.observeHighWater (int op "offset")
    return .null
  | "err" => return faultJson l.halt
  | _ => return .null

/-- Commits of a step in an answer, with or without the ledger number. -/
def commitsJson (withLedger : Bool) (cs : List (Int × Nat)) : Json :=
  Json.list (fun (o, id) => Json.obj ([("offset", Json.int o)] ++
    if withLedger then [("ledger", Json.text (toString id))] else [])) cs

/-- Starts a step: no commits and no handled messages yet. -/
def freshStep : StateM OffsetWorld Unit := modify fun w => { w with commits := [], handled := [] }

/-- A ledger scenario. -/
def ledgerScenario (j : Json) : Json :=
  let (id, coord) := ({ capacity := int j "capacity" } : Coordinator).openPartition (str j "topic")
    (int j "partition") (int j "committed")
  let w : OffsetWorld :=
    { dispatcher := ⟨coord, Limiter.create 1⟩
      failing := (list j "commit_fail").filterMap Json.int?
      recording := !flag j "no_commit_func" }
  let steps : StateM OffsetWorld (List Json) := (list j "ops").mapM fun op => do
    freshStep
    let res ← ledgerOp id op
    let w ← get
    let st := ((w.dispatcher.coordinator.get? id).map (statusJson ∘ Ledger.status)).getD .null
    return Json.obj [("result", res), ("commits", commitsJson false w.commits), ("status", st)]
  Json.obj [("steps", .array (steps.run w).1)]

/-- The snapshot of the coordinator in an answer. -/
def snapshotJson (c : Coordinator) : Json := Json.list statusJson c.snapshot

/-- One coordinator operation. -/
def coordinatorOp (op : Json) : StateM OffsetWorld Json := do
  let w ← get
  let c := w.dispatcher.coordinator
  match str op "do" with
  | "open" =>
    let (id, c) := c.openPartition (str op "topic") (int op "partition") (int op "committed")
    set { w with dispatcher := { w.dispatcher with coordinator := c } }
    return Json.nat id
  | "close" =>
    set { w with dispatcher := { w.dispatcher with coordinator := c.close (nat op "id") } }
    return .null
  | "lookup" =>
    let found := c.lookup (str op "topic") (int op "partition")
    return Json.obj [("found", .bool found.isSome), ("id", Json.opt Json.nat found)]
  | "snapshot" => return .null
  | _ => ledgerOp (nat op "id") op

/-- Coordinator operations, each answered with its result, its commits and the snapshot. -/
def coordinatorSteps (ops : List Json) : StateM OffsetWorld (List Json) :=
  ops.mapM fun op => do
    freshStep
    let res ← coordinatorOp op
    let w ← get
    return Json.obj [("result", res), ("commits", commitsJson true w.commits),
      ("snapshot", snapshotJson w.dispatcher.coordinator)]

/-- A coordinator scenario. -/
def coordinatorScenario (j : Json) : Json :=
  let w : OffsetWorld :=
    { dispatcher := ⟨{ capacity := int j "capacity" }, Limiter.create 1⟩
      failing := (list j "commit_fail").filterMap Json.int? }
  Json.obj [("steps", .array ((coordinatorSteps (list j "ops")).run w).1)]

/-- A limiter scenario. -/
def limiterScenario (j : Json) : Json :=
  let step (l : Limiter) (op : Json) : Json × Limiter :=
    match str op "do" with
    | "acquire" =>
      let (outcome, l) := l.take (givenShutdown (flag op "cancelled") (!l.closed && l.inUse ≥ l.capacity))
      let err := match outcome with
        | .refused f => some f
        | _ => none
      (faultJson err, l)
    | "release" => (.null, l.give (int op "n"))
    | "close" => (.null, l.close)
    | _ => (.null, l)
  let rec go (l : Limiter) : List Json → List Json
    | [] => []
    | op :: ops =>
      let (res, l) := step l op
      Json.obj [("result", res), ("in_use", Json.int l.inUse), ("capacity", Json.int l.capacity)] :: go l ops
  Json.obj [("steps", .array (go (Limiter.create (int j "capacity")) (list j "ops")))]

/-- How the dispatch handler answers a message. -/
def handlerOutcome (spec : Json) : Option Fault :=
  match str spec "result" "ok" with
  | "abandon" => some (.wrap "stopping: " (.sentinel .abandoned))
  | "fatal" => some ((fault spec "err").getD (.text "handler failed"))
  | _ => none

/-- The dispatch handler: records the message and answers as described. -/
def scriptedHandler (r : Record) : StateM OffsetWorld (Option Fault) := do
  let w ← get
  set { w with handled := w.handled ++ [r.label] }
  return match w.outcomes.find? fun (t, p, o, _) => t == r.topic && p == r.partition && o == r.offset with
    | some (_, _, _, f) => f
    | none => none

/-- One dispatcher operation. -/
def dispatchOp (op : Json) : StateM OffsetWorld Json := do
  let w ← get
  let d := w.dispatcher
  match str op "do" with
  | "claim" =>
    let (id, c) := d.coordinator.openPartition (str op "topic") (int op "partition") (int op "committed")
    set { w with dispatcher := { d with coordinator := c } }
    return Json.nat id
  | "dispatch" =>
    let id := nat op "id"
    let some l := d.coordinator.get? id | return .null
    let r : Record := { topic := l.topic, partition := l.partition, offset := int op "offset" }
    let outcome ← offsetClaims.dispatch scriptedHandler id r
      (givenShutdown (flag op "cancelled") (ledgerFull l))
    let err := match outcome with
      | .done e => e
      | .blocked => some (.sentinel .canceled)
    let claimErr := ((← get).dispatcher.coordinator.get? id).bind (·.halt)
    return Json.obj [("err", faultJson err), ("claim_err", faultJson claimErr)]
  | "close" =>
    set { w with dispatcher := { d with coordinator := d.coordinator.close (nat op "id") } }
    return .null
  | "close_limiter" =>
    set { w with dispatcher := { d with limiter := d.limiter.close } }
    return .null
  | _ => return .null

/-- A dispatcher scenario. -/
def dispatchScenario (j : Json) : Json :=
  let w : OffsetWorld :=
    { dispatcher := ⟨{ capacity := int j "capacity" }, Limiter.create (int j "workers")⟩
      failing := (list j "commit_fail").filterMap Json.int?
      outcomes := (list j "results").map fun r =>
        (str r "topic" "t", int r "partition", int r "offset", handlerOutcome r) }
  let steps : StateM OffsetWorld (List Json) := (list j "ops").mapM fun op => do
    freshStep
    let res ← dispatchOp op
    let w ← get
    return Json.obj [("result", res), ("handled", Json.list Json.text w.handled),
      ("commits", commitsJson true w.commits), ("snapshot", snapshotJson w.dispatcher.coordinator),
      ("in_use", Json.int w.dispatcher.limiter.inUse)]
  Json.obj [("steps", .array (steps.run w).1)]

end Conveyor.Scenario
