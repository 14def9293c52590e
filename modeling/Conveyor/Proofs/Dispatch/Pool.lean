import Conveyor.Source.Dispatch
import Conveyor.Proofs.Ledger.History
/-!
# Dispatching while handlers run

A source dispatches the messages of a partition one after another, but every message's
handler runs on its own and may finish at any time, in any order with the others. A `Pool` is
that execution: the dispatcher, the message each claim's source has tracked and is taking a
worker token for, the messages whose handlers are running, and what has been seen so far
(`Pool.Seen`).

A schedule is any list of `Pool.Step`s: a source tracks its next message, or takes a token
for the message it tracked; a running handler finishes with any result while the commit
function answers anything; claims are opened and closed; the limiter is closed. A step the
program could not take at that point (a source already inside a dispatch, a handler that is
not running) changes nothing, and so does one that has to wait (a full ledger, an empty
limiter): the program makes it again later.

Each step runs the dispatcher's own parts, `Claims.track`, `Claims.acquire` and
`Claims.complete`, in the world `Pool.claims`, which records every commit. The lemmas at the
end say what these parts do to a pool, so that later proofs never unfold them.
-/

namespace Conveyor

/-- What the sources, the handlers and the commit functions are seen to do. -/
inductive Pool.Seen where
  /-- A dispatch of the record through the claim returned, with its fault if any. -/
  | dispatched (id : Nat) (r : Record) (err : Option Fault)
  /-- The record's offset was tracked in the claim's ledger. -/
  | tracked (id : Nat) (r : Record)
  /-- The record's handler returned. -/
  | finished (id : Nat) (r : Record) (result : Option Fault)
  /-- The claim's commit function was called with the offset and answered `answer`. -/
  | commit (id : Nat) (offset : Int) (answer : Option Fault)

/-- The claim an event is about. -/
def Pool.Seen.claim : Pool.Seen → Nat
  | .dispatched id .. | .tracked id .. | .finished id .. | .commit id .. => id

/-- **Dispatching with handlers at work.** -/
structure Pool where
  dispatcher : Dispatcher
  /-- The record a claim's source has tracked and takes a worker token for. -/
  waiting : List (Nat × Record) := []
  /-- The records whose handlers are running, with their claims. -/
  running : List (Nat × Record) := []
  seen : List Pool.Seen := []

/-- Two changes of one ledger are one change. -/
@[simp] theorem Coordinator.update_update (c : Coordinator) (id : Nat) (f g : Ledger → Ledger) :
    (c.update id f).update id g = c.update id (g ∘ f) := by
  simp only [Coordinator.update, Coordinator.mk.injEq, and_true, true_and]
  apply Array.ext_getElem?
  intro i
  simp only [Array.getElem?_modify]
  split <;> simp [Option.map_map]

namespace Pool

/-- Dispatching in a pool: commits are recorded and answered with `answer`; log records are
dropped. -/
def claims (answer : Option Fault) : Claims (StateM Pool) where
  current := do return (← get).dispatcher
  store d := modify fun w => { w with dispatcher := d }
  commit id offset := do
    modify fun w => { w with seen := w.seen ++ [.commit id offset answer] }
    return answer
  log _ := pure ()

/-- One step of a schedule. -/
inductive Step where
  /-- The source of a claim calls dispatch for a record, which tracks its offset. -/
  | track (id : Nat) (r : Record) (shutdown : Option Fault)
  /-- The source of a claim takes a worker token for the record it tracked. -/
  | acquire (id : Nat) (shutdown : Option Fault)
  /-- The `i`-th running handler returns `result`; the commit function answers `answer`. -/
  | finish (i : Nat) (result answer : Option Fault)
  | openClaim (topic : String) (partition committed : Int)
  | closeClaim (id : Nat)
  | closeLimiter

/-- The record a claim's source has tracked and takes a token for. -/
def waitingOf (w : Pool) (id : Nat) : Option Record := (w.waiting.find? (·.1 == id)).map (·.2)

/-- The ledger of a claim. -/
def ledger? (w : Pool) (id : Nat) : Option Ledger := w.dispatcher.coordinator.get? id

/-- **One step** of a schedule. -/
def step (w : Pool) : Step → Pool
  | .track id r s =>
    if (w.waitingOf id).isSome then w else
    match ((claims none).track id r s).run w with
    | (none, w') => { w' with waiting := w'.waiting ++ [(id, r)], seen := w'.seen ++ [.tracked id r] }
    | (some (.done err), w') => { w' with seen := w'.seen ++ [.dispatched id r err] }
    | (some .blocked, _) => w
  | .acquire id s =>
    match w.waitingOf id with
    | none => w
    | some r =>
      match ((claims none).acquire s).run w with
      | (none, w') =>
        { w' with waiting := w'.waiting.filter (·.1 != id), running := w'.running ++ [(id, r)],
                  seen := w'.seen ++ [.dispatched id r none] }
      | (some (.done err), w') =>
        { w' with waiting := w'.waiting.filter (·.1 != id), seen := w'.seen ++ [.dispatched id r err] }
      | (some .blocked, _) => w
  | .finish i result answer =>
    match w.running[i]? with
    | none => w
    | some (id, r) =>
      let w' := { w with running := w.running.eraseIdx i, seen := w.seen ++ [.finished id r result] }
      (((claims answer).complete id r result).run w').2
  | .openClaim topic partition committed =>
    { w with dispatcher := { w.dispatcher with
        coordinator := (w.dispatcher.coordinator.openPartition topic partition committed).2 } }
  | .closeClaim id =>
    { w with dispatcher := { w.dispatcher with coordinator := w.dispatcher.coordinator.close id } }
  | .closeLimiter =>
    { w with dispatcher := { w.dispatcher with limiter := w.dispatcher.limiter.close } }

/-- **A schedule** run from a pool. -/
def run (w : Pool) (steps : List Step) : Pool := steps.foldl step w

/-- A pool over a dispatcher, with a new claim opened at committed offset `c0`, and the
claim's number. -/
def start (d : Dispatcher) (topic : String) (partition c0 : Int) : Nat × Pool :=
  let (id, coordinator) := d.coordinator.openPartition topic partition c0
  (id, { dispatcher := { d with coordinator } })

@[simp] theorem run_nil (w : Pool) : w.run [] = w := rfl

theorem run_append (w : Pool) (pre post : List Step) :
    w.run (pre ++ post) = (w.run pre).run post := List.foldl_append

theorem run_cons (w : Pool) (s : Step) (steps : List Step) :
    w.run (s :: steps) = (w.step s).run steps := rfl

/-! ### What the dispatcher's parts do to a pool -/

/-- The pool with the ledger of claim `id` changed by `f`. -/
def updateLedger (w : Pool) (id : Nat) (f : Ledger → Ledger) : Pool :=
  { w with dispatcher := { w.dispatcher with coordinator := w.dispatcher.coordinator.update id f } }

/-- The pool with another limiter. -/
def setLimiter (w : Pool) (lim : Limiter) : Pool :=
  { w with dispatcher := { w.dispatcher with limiter := lim } }

@[simp] theorem updateLedger_waiting (w : Pool) (id : Nat) (f : Ledger → Ledger) :
    (w.updateLedger id f).waiting = w.waiting := rfl

@[simp] theorem updateLedger_running (w : Pool) (id : Nat) (f : Ledger → Ledger) :
    (w.updateLedger id f).running = w.running := rfl

@[simp] theorem updateLedger_seen (w : Pool) (id : Nat) (f : Ledger → Ledger) :
    (w.updateLedger id f).seen = w.seen := rfl

@[simp] theorem setLimiter_waiting (w : Pool) (lim : Limiter) :
    (w.setLimiter lim).waiting = w.waiting := rfl

@[simp] theorem setLimiter_running (w : Pool) (lim : Limiter) :
    (w.setLimiter lim).running = w.running := rfl

@[simp] theorem setLimiter_seen (w : Pool) (lim : Limiter) : (w.setLimiter lim).seen = w.seen := rfl

@[simp] theorem ledger?_setLimiter (w : Pool) (lim : Limiter) (id : Nat) :
    (w.setLimiter lim).ledger? id = w.ledger? id := rfl

@[simp] theorem ledger?_mk (d : Dispatcher) (waiting running : List (Nat × Record))
    (seen : List Seen) (id : Nat) :
    ({ dispatcher := d, waiting, running, seen } : Pool).ledger? id = d.coordinator.get? id := rfl

@[simp] theorem get?_dispatcher (w : Pool) (id : Nat) :
    w.dispatcher.coordinator.get? id = w.ledger? id := rfl

@[simp] theorem ledger?_updateLedger (w : Pool) (j id : Nat) (f : Ledger → Ledger) :
    (w.updateLedger j f).ledger? id = if j = id then (w.ledger? id).map f else w.ledger? id := by
  simp [updateLedger, ledger?, Coordinator.update, Coordinator.get?, Array.getElem?_modify]

theorem run_ledger? (a : Option Fault) (w : Pool) (id : Nat) :
    ((claims a).ledger? id).run w = (w.ledger? id, w) := rfl

theorem run_updateLedger (a : Option Fault) (w : Pool) (id : Nat) (f : Ledger → Ledger) :
    ((claims a).updateLedger id f).run w = ((), w.updateLedger id f) := rfl

/-- **Tracking** through a claim runs the ledger's tracking and stores the ledger. -/
theorem run_track (a : Option Fault) (w : Pool) (id : Nat) (r : Record) (s : Option Fault)
    {l : Ledger} (hl : w.ledger? id = some l) :
    ((claims a).track id r s).run w =
      ((match (l.track r.offset s).1 with
        | .refused f => some (.done (some f))
        | .full => some .blocked
        | .tracked => none), w.updateLedger id fun _ => (l.track r.offset s).2) := by
  rcases ht : l.track r.offset s with ⟨o, l'⟩
  cases o <;> simp [Claims.track, Claims.ledger?, Claims.updateLedger, claims, hl, ht, updateLedger]
    <;> rfl

/-- Tracking through a claim with no ledger refuses nothing and changes nothing. -/
theorem run_track_of_none (a : Option Fault) (w : Pool) (id : Nat) (r : Record) (s : Option Fault)
    (hl : w.ledger? id = none) :
    ((claims a).track id r s).run w = (some (.done none), w) := by
  simp [Claims.track, Claims.ledger?, claims, hl]
  rfl

/-- **Taking a token** runs the limiter's taking and stores the limiter. -/
theorem run_acquire (a : Option Fault) (w : Pool) (s : Option Fault) :
    ((claims a).acquire s).run w =
      ((match (w.dispatcher.limiter.take s).1 with
        | .refused f => some (.done (some f))
        | .empty => some .blocked
        | .taken => none), w.setLimiter (w.dispatcher.limiter.take s).2) := by
  rcases ht : w.dispatcher.limiter.take s with ⟨o, lim⟩
  cases o <;> simp [Claims.acquire, claims, ht, setLimiter] <;> rfl

/-- **Resolving** through a claim does what resolving does to its ledger, and records each
commit with the commit function's answer. -/
theorem run_resolve (a : Option Fault) (w : Pool) (id : Nat) (o : Int) {l : Ledger}
    (hl : w.ledger? id = some l) :
    (((claims a).resolve id o).run w).2 =
      { w.updateLedger id (fun _ => (l.resolve o a).1) with
        seen := w.seen ++ (Ledger.commitOffsets (l.resolve o a).2).map (.commit id · a) } := by
  rcases hm : l.mark o with ⟨l', _ | _ | next⟩ <;>
    simp [Claims.resolve, Claims.ledger?, Claims.updateLedger, claims, hl, hm, Ledger.resolve,
      updateLedger, Function.comp_def] <;> rfl

/-- A message whose handler succeeded is resolved. -/
theorem run_finish_none (a : Option Fault) (w : Pool) (id : Nat) (r : Record) :
    (((claims a).finish id r none).run w).2 = (((claims a).resolve id r.offset).run w).2 := by
  simp only [Claims.finish, StateT.run_bind]
  -- the log record written on a failure leaves the pool as it is
  rcases ((claims a).resolve id r.offset).run w with ⟨⟨_, _ | f⟩, w'⟩ <;> rfl

/-- An abandoned message changes nothing; any other failure halts the claim's ledger with the
message's label. -/
theorem run_finish_some (a : Option Fault) (w : Pool) (id : Nat) (r : Record) (f : Fault) :
    (((claims a).finish id r (some f)).run w).2 =
      if f.isa .abandoned then w else w.updateLedger id (·.halted (.wrap (r.label ++ ": ") f)) := by
  by_cases hf : f.isa .abandoned <;> simp [Claims.finish, Claims.updateLedger, claims, hf, updateLedger]
    <;> rfl

/-- Completing a message gives its token back and finishes it. -/
theorem run_complete (a : Option Fault) (w : Pool) (id : Nat) (r : Record) (res : Option Fault) :
    (((claims a).complete id r res).run w).2 =
      (((claims a).finish id r res).run (w.setLimiter (w.dispatcher.limiter.give 1))).2 := rfl

/-- Resolving through a claim with no ledger changes nothing. -/
theorem run_resolve_of_none (a : Option Fault) (w : Pool) (id : Nat) (o : Int)
    (hl : w.ledger? id = none) : (((claims a).resolve id o).run w).2 = w := by
  simp [Claims.resolve, Claims.ledger?, claims, hl]
  rfl

/-! ### What each step does -/

/-- The records of claim `id` among claimed records, in order. -/
def ofClaim (id : Nat) (xs : List (Nat × Record)) : List Record :=
  xs.filterMap fun p => if p.1 = id then some p.2 else none

@[simp] theorem ofClaim_nil (id : Nat) : ofClaim id [] = [] := rfl

@[simp] theorem ofClaim_append (id : Nat) (xs ys : List (Nat × Record)) :
    ofClaim id (xs ++ ys) = ofClaim id xs ++ ofClaim id ys := List.filterMap_append

@[simp] theorem ofClaim_cons (id j : Nat) (r : Record) (xs : List (Nat × Record)) :
    ofClaim id ((j, r) :: xs) = (if j = id then [r] else []) ++ ofClaim id xs := by
  by_cases h : j = id <;> simp [ofClaim, h]

/-- Removing the records of claim `j` removes those of claim `id` only when `j = id`. -/
@[simp] theorem ofClaim_filter (id j : Nat) (xs : List (Nat × Record)) :
    ofClaim id (xs.filter (·.1 != j)) = if j = id then [] else ofClaim id xs := by
  induction xs with
  | nil => simp
  | cons p xs ih =>
    obtain ⟨k, r⟩ := p
    by_cases hk : k = j <;> by_cases hj : j = id <;> simp_all

/-- The record a source waits with is its claim's first waiting record. -/
theorem waitingOf_eq (w : Pool) (id : Nat) : w.waitingOf id = (ofClaim id w.waiting).head? := by
  unfold waitingOf
  induction w.waiting with
  | nil => rfl
  | cons p xs ih =>
    obtain ⟨k, r⟩ := p
    by_cases hk : k = id <;> simp [hk, ih]

/-- A source still inside a dispatch starts no other. -/
theorem step_track_of_waiting {w : Pool} {id : Nat} (h : (w.waitingOf id).isSome) (r : Record)
    (s : Option Fault) : w.step (.track id r s) = w := by
  simp [step, h]

/-- **Tracking** a record of a claim with a ledger. -/
theorem step_track {w : Pool} {id : Nat} {l : Ledger} (hw : w.waitingOf id = none)
    (hl : w.ledger? id = some l) (r : Record) (s : Option Fault) :
    w.step (.track id r s) =
      match l.track r.offset s with
      | (.tracked, l') => { w.updateLedger id (fun _ => l') with
          waiting := w.waiting ++ [(id, r)], seen := w.seen ++ [.tracked id r] }
      | (.refused f, l') => { w.updateLedger id (fun _ => l') with
          seen := w.seen ++ [.dispatched id r (some f)] }
      | (.full, _) => w := by
  simp only [step, hw, Option.isSome_none, Bool.false_eq_true, ite_false, run_track none w id r s hl]
  rcases l.track r.offset s with ⟨_ | f | _, l'⟩ <;> rfl

/-- Tracking through a claim with no ledger dispatches nothing. -/
theorem step_track_of_none {w : Pool} {id : Nat} (hw : w.waitingOf id = none)
    (hl : w.ledger? id = none) (r : Record) (s : Option Fault) :
    w.step (.track id r s) = { w with seen := w.seen ++ [.dispatched id r none] } := by
  simp [step, hw, run_track_of_none none w id r s hl]

theorem step_acquire_of_none {w : Pool} {id : Nat} (hw : w.waitingOf id = none) (s : Option Fault) :
    w.step (.acquire id s) = w := by
  simp [step, hw]

/-- **Taking a token** for the record a source waits with. -/
theorem step_acquire {w : Pool} {id : Nat} {r : Record} (hw : w.waitingOf id = some r)
    (s : Option Fault) :
    w.step (.acquire id s) =
      match w.dispatcher.limiter.take s with
      | (.taken, lim) => { w.setLimiter lim with
          waiting := w.waiting.filter (·.1 != id), running := w.running ++ [(id, r)],
          seen := w.seen ++ [.dispatched id r none] }
      | (.refused f, lim) => { w.setLimiter lim with
          waiting := w.waiting.filter (·.1 != id), seen := w.seen ++ [.dispatched id r (some f)] }
      | (.empty, _) => w := by
  simp only [step, hw, run_acquire]
  rcases w.dispatcher.limiter.take s with ⟨_ | f | _, lim⟩ <;> rfl

theorem step_finish_of_none {w : Pool} {i : Nat} (hi : w.running[i]? = none)
    (res a : Option Fault) : w.step (.finish i res a) = w := by
  simp [step, hi]

/-- The pool once the `i`-th running handler, of record `r` of claim `id`, has returned `res`:
the handler has left and its token is back. -/
def handlerReturned (w : Pool) (i id : Nat) (r : Record) (res : Option Fault) : Pool :=
  ({ w with running := w.running.eraseIdx i, seen := w.seen ++ [.finished id r res] } : Pool).setLimiter
    (w.dispatcher.limiter.give 1)

@[simp] theorem handlerReturned_ledger? (w : Pool) (i id : Nat) (r : Record) (res : Option Fault)
    (j : Nat) : (w.handlerReturned i id r res).ledger? j = w.ledger? j := rfl

@[simp] theorem handlerReturned_waiting (w : Pool) (i id : Nat) (r : Record) (res : Option Fault) :
    (w.handlerReturned i id r res).waiting = w.waiting := rfl

@[simp] theorem handlerReturned_running (w : Pool) (i id : Nat) (r : Record) (res : Option Fault) :
    (w.handlerReturned i id r res).running = w.running.eraseIdx i := rfl

@[simp] theorem handlerReturned_seen (w : Pool) (i id : Nat) (r : Record) (res : Option Fault) :
    (w.handlerReturned i id r res).seen = w.seen ++ [.finished id r res] := rfl

/-- **A handler returns**, and its message finishes. -/
theorem step_finish {w : Pool} {i id : Nat} {r : Record} (hi : w.running[i]? = some (id, r))
    (res a : Option Fault) :
    w.step (.finish i res a) = (((claims a).finish id r res).run (w.handlerReturned i id r res)).2 := by
  simp [step, hi, run_complete, handlerReturned]

end Pool

end Conveyor
