import Conveyor.Proofs.Dispatch.Pool
import Conveyor.Proofs.Ledger.History
/-!
# A claim's view of a pool

What one claim sees of a pool is its ledger, its records in flight (tracked, and waiting for a
token or being handled: `Pool.inflight`), and its events. Its events make a history of its
ledger (`Pool.ledgerHistory`): the offsets it tracked, the offsets whose handlers succeeded, and
its commits.

A step made for another claim leaves all of this alone but for events of the other claim
(`Pool.Untouched`, `untouched_step`), so the invariant of a claim has only its own steps to
consider.
-/

namespace Conveyor.Pool

/-! ### The ledger's history -/

/-- What the ledger of claim `id` shows of an event. -/
def Seen.onLedger (id : Nat) : Seen → List Ledger.Event
  | .tracked j r => if j = id then [.tracked r.offset] else []
  | .finished j r none => if j = id then [.resolved r.offset] else []
  | .commit j x _ => if j = id then [.commit x] else []
  | _ => []

/-- The history of the ledger of claim `id`: the offsets it tracked, the offsets whose handlers
succeeded, and its commits. -/
def ledgerHistory (id : Nat) (seen : List Seen) : List Ledger.Event :=
  seen.flatMap (Seen.onLedger id)

@[simp] theorem ledgerHistory_nil (id : Nat) : ledgerHistory id [] = [] := rfl

@[simp] theorem ledgerHistory_append (id : Nat) (xs ys : List Seen) :
    ledgerHistory id (xs ++ ys) = ledgerHistory id xs ++ ledgerHistory id ys :=
  List.flatMap_append

@[simp] theorem ledgerHistory_tracked (id : Nat) (r : Record) :
    ledgerHistory id [.tracked id r] = [.tracked r.offset] := by
  simp [ledgerHistory, Seen.onLedger]

@[simp] theorem ledgerHistory_finished_none (id : Nat) (r : Record) :
    ledgerHistory id [.finished id r none] = [.resolved r.offset] := by
  simp [ledgerHistory, Seen.onLedger]

@[simp] theorem ledgerHistory_finished_some (id j : Nat) (r : Record) (f : Fault) :
    ledgerHistory id [.finished j r (some f)] = [] := rfl

@[simp] theorem ledgerHistory_dispatched (id j : Nat) (r : Record) (e : Option Fault) :
    ledgerHistory id [.dispatched j r e] = [] := rfl

/-- The commits of a claim, with any answers, are the commits of its ledger. -/
@[simp] theorem ledgerHistory_commits (id : Nat) (a : Option Fault) (xs : List Int) :
    ledgerHistory id (xs.map (.commit id · a)) = xs.map .commit := by
  induction xs with
  | nil => rfl
  | cons x xs ih =>
    simp only [List.map_cons]
    rw [← List.singleton_append, ledgerHistory_append, ih]
    simp [ledgerHistory, Seen.onLedger]

/-- Events of other claims show nothing to the ledger of `id`. -/
theorem ledgerHistory_of_ne {id : Nat} {new : List Seen} (h : ∀ e ∈ new, e.claim ≠ id) :
    ledgerHistory id new = [] := by
  simp only [ledgerHistory, List.flatMap_eq_nil_iff]
  intro e he
  have hne := h e he
  cases e with
  | finished j r res => cases res <;> simp_all [Seen.onLedger, Seen.claim]
  | _ => simp_all [Seen.onLedger, Seen.claim]

theorem tracked_mem_ledgerHistory {id : Nat} {seen : List Seen} {o : Int} :
    .tracked o ∈ ledgerHistory id seen ↔ ∃ r, .tracked id r ∈ seen ∧ r.offset = o := by
  simp only [ledgerHistory, List.mem_flatMap]
  constructor
  · rintro ⟨e, he, ho⟩
    cases e with
    | tracked j r =>
      by_cases hj : j = id
      · subst hj
        have ho' : o = r.offset := by simpa [Seen.onLedger] using ho
        exact ⟨r, he, ho'.symm⟩
      · simp [Seen.onLedger, hj] at ho
    | finished j r res => cases res <;> by_cases hj : j = id <;> simp [Seen.onLedger, hj] at ho
    | commit j x a => by_cases hj : j = id <;> simp [Seen.onLedger, hj] at ho
    | dispatched => simp [Seen.onLedger] at ho
  · rintro ⟨r, hr, rfl⟩
    exact ⟨.tracked id r, hr, by simp [Seen.onLedger]⟩

theorem resolved_mem_ledgerHistory {id : Nat} {seen : List Seen} {o : Int} :
    .resolved o ∈ ledgerHistory id seen ↔ ∃ r, .finished id r none ∈ seen ∧ r.offset = o := by
  simp only [ledgerHistory, List.mem_flatMap]
  constructor
  · rintro ⟨e, he, ho⟩
    cases e with
    | finished j r res =>
      cases res with
      | none =>
        by_cases hj : j = id
        · subst hj
          have ho' : o = r.offset := by simpa [Seen.onLedger] using ho
          exact ⟨r, he, ho'.symm⟩
        · simp [Seen.onLedger, hj] at ho
      | some f => simp [Seen.onLedger] at ho
    | tracked j r => by_cases hj : j = id <;> simp [Seen.onLedger, hj] at ho
    | commit j x a => by_cases hj : j = id <;> simp [Seen.onLedger, hj] at ho
    | dispatched => simp [Seen.onLedger] at ho
  · rintro ⟨r, hr, rfl⟩
    exact ⟨.finished id r none, hr, by simp [Seen.onLedger]⟩

theorem mem_commitOffsets_ledgerHistory {id : Nat} {seen : List Seen} {x : Int} :
    x ∈ Ledger.commitOffsets (ledgerHistory id seen) ↔ ∃ a, .commit id x a ∈ seen := by
  rw [Ledger.mem_commitOffsets]
  simp only [ledgerHistory, List.mem_flatMap]
  constructor
  · rintro ⟨e, he, hx⟩
    cases e with
    | commit j y a =>
      by_cases hj : j = id
      · subst hj
        have hy : x = y := by simpa [Seen.onLedger] using hx
        exact ⟨a, hy ▸ he⟩
      · simp [Seen.onLedger, hj] at hx
    | tracked j r => by_cases hj : j = id <;> simp [Seen.onLedger, hj] at hx
    | finished j r res => cases res <;> by_cases hj : j = id <;> simp [Seen.onLedger, hj] at hx
    | dispatched => simp [Seen.onLedger] at hx
  · rintro ⟨a, ha⟩
    exact ⟨.commit id x a, ha, by simp [Seen.onLedger]⟩

/-! ### Records in flight -/

/-- The records of claim `id` in flight: tracked, and waiting for a token or being handled. -/
def inflight (w : Pool) (id : Nat) : List Record := ofClaim id w.waiting ++ ofClaim id w.running

/-- Taking the `i`-th entry out of a list of claimed records takes its record out of its claim's
records and leaves the other claims' records as they were. -/
theorem ofClaim_eraseIdx {xs : List (Nat × Record)} {i j : Nat} {r : Record}
    (hi : xs[i]? = some (j, r)) (id : Nat) :
    ∃ A B, ofClaim id xs = A ++ (if j = id then [r] else []) ++ B ∧
      ofClaim id (xs.eraseIdx i) = A ++ B := by
  obtain ⟨hlt, hget⟩ := List.getElem?_eq_some_iff.mp hi
  have hsplit : xs = xs.take i ++ (j, r) :: xs.drop (i + 1) := by
    rw [← hget, List.getElem_cons_drop, List.take_append_drop]
  refine ⟨ofClaim id (xs.take i), ofClaim id (xs.drop (i + 1)), ?_, ?_⟩
  · conv => lhs; rw [hsplit]
    simp
  · rw [List.eraseIdx_eq_take_drop_succ, ofClaim_append]

/-! ### Steps of other claims -/

/-- A change of the pool that leaves claim `id` alone: its ledger and its records in flight stay
as they are, and every new event is another claim's. -/
structure Untouched (id : Nat) (w w' : Pool) : Prop where
  ledger : w'.ledger? id = w.ledger? id
  waiting : ofClaim id w'.waiting = ofClaim id w.waiting
  running : ofClaim id w'.running = ofClaim id w.running
  seen : ∃ new, w'.seen = w.seen ++ new ∧ ∀ e ∈ new, e.claim ≠ id

theorem Untouched.refl (id : Nat) (w : Pool) : Untouched id w w :=
  ⟨rfl, rfl, rfl, ⟨[], by simp, by simp⟩⟩

theorem Untouched.inflight {id : Nat} {w w' : Pool} (hu : Untouched id w w') :
    w'.inflight id = w.inflight id := by
  simp [Pool.inflight, hu.waiting, hu.running]

theorem Untouched.ledgerHistory {id : Nat} {w w' : Pool} (hu : Untouched id w w') :
    ledgerHistory id w'.seen = ledgerHistory id w.seen := by
  obtain ⟨new, hseen, hnew⟩ := hu.seen
  rw [hseen, ledgerHistory_append, ledgerHistory_of_ne hnew, List.append_nil]

/-- The events of claim `id` are the ones it had. -/
theorem Untouched.mem_seen {id : Nat} {w w' : Pool} (hu : Untouched id w w') {e : Seen}
    (he : e.claim = id) : e ∈ w'.seen ↔ e ∈ w.seen := by
  obtain ⟨new, hseen, hnew⟩ := hu.seen
  rw [hseen, List.mem_append]
  exact ⟨fun h => h.resolve_right fun hn => hnew e hn he, .inl⟩

/-- The claim a step is made for, if any. -/
def Step.claim? (w : Pool) : Step → Option Nat
  | .track j .. | .acquire j .. => some j
  | .finish i .. => (w.running[i]?).map (·.1)
  | _ => none

/-- Opening a partition adds a ledger and keeps the others. -/
theorem ledger?_openPartition {w : Pool} {id : Nat} (hl : (w.ledger? id).isSome)
    (topic : String) (partition committed : Int) :
    (w.dispatcher.coordinator.openPartition topic partition committed).2.get? id = w.ledger? id := by
  have hlt : id < w.dispatcher.coordinator.ledgers.size := by
    simpa [ledger?, Coordinator.get?] using hl
  simp [Coordinator.openPartition, Coordinator.get?, ledger?, Array.getElem?_push,
    Nat.ne_of_lt hlt]

/-- Tracking for another claim. -/
theorem untouched_track {w : Pool} {id j : Nat} (hj : j ≠ id) (r : Record) (s : Option Fault) :
    Untouched id w (w.step (.track j r s)) := by
  by_cases hw : (w.waitingOf j).isSome
  · rw [step_track_of_waiting hw]
    exact .refl id w
  · have hw' : w.waitingOf j = none := by simpa using hw
    rcases hl : w.ledger? j with _ | l
    · rw [step_track_of_none hw' hl]
      exact ⟨rfl, rfl, rfl, ⟨_, rfl, by simp [Seen.claim, hj]⟩⟩
    · rw [step_track hw' hl]
      rcases Ledger.track_cases l r.offset s with ⟨-, -, ht⟩ | ⟨f, ht | ht⟩ | ht <;> rw [ht]
      · exact ⟨by simp [hj], by simp [hj], rfl, ⟨_, rfl, by simp [Seen.claim, hj]⟩⟩
      · exact ⟨by simp [hj], rfl, rfl, ⟨_, rfl, by simp [Seen.claim, hj]⟩⟩
      · exact ⟨by simp [hj], rfl, rfl, ⟨_, rfl, by simp [Seen.claim, hj]⟩⟩
      · exact .refl id w

/-- Taking a token for another claim. -/
theorem untouched_acquire {w : Pool} {id j : Nat} (hj : j ≠ id) (s : Option Fault) :
    Untouched id w (w.step (.acquire j s)) := by
  rcases hw : w.waitingOf j with _ | r
  · rw [step_acquire_of_none hw]
    exact .refl id w
  · rw [step_acquire hw]
    rcases w.dispatcher.limiter.take s with ⟨_ | f | _, lim⟩
    · exact ⟨rfl, by simp [hj], by simp [hj], ⟨_, rfl, by simp [Seen.claim, hj]⟩⟩
    · exact ⟨rfl, by simp [hj], rfl, ⟨_, rfl, by simp [Seen.claim, hj]⟩⟩
    · exact .refl id w

/-- A handler of another claim returns. -/
theorem untouched_finish {w : Pool} {id i j : Nat} {r : Record} (hi : w.running[i]? = some (j, r))
    (hj : j ≠ id) (res a : Option Fault) : Untouched id w (w.step (.finish i res a)) := by
  obtain ⟨A, B, hrun, herase⟩ := ofClaim_eraseIdx hi id
  simp only [hj, ite_false, List.append_nil] at hrun
  -- the handler leaves the running records of `id` as they are
  have hreturned : Untouched id w (w.handlerReturned i j r res) :=
    ⟨rfl, rfl, by simp [herase, hrun], ⟨_, rfl, by simp [Seen.claim, hj]⟩⟩
  rw [step_finish hi]
  cases res with
  | none =>
    rw [run_finish_none]
    rcases hl : (w.handlerReturned i j r none).ledger? j with _ | l
    · rw [run_resolve_of_none a _ j r.offset hl]
      exact hreturned
    · rw [run_resolve a _ j r.offset hl]
      obtain ⟨new, hseen, hnew⟩ := hreturned.seen
      refine ⟨by simp [hj], hreturned.waiting, hreturned.running,
        ⟨new ++ (Ledger.commitOffsets (l.resolve r.offset a).2).map (.commit j · a), ?_, ?_⟩⟩
      · show (w.handlerReturned i j r none).seen ++ _ = _
        rw [hseen, List.append_assoc]
      · intro e he
        rcases List.mem_append.mp he with he | he
        · exact hnew e he
        · obtain ⟨x, -, rfl⟩ := List.mem_map.mp he
          simp [Seen.claim, hj]
  | some f =>
    rw [run_finish_some]
    split
    · exact hreturned
    · exact ⟨by simp [hj], hreturned.waiting, hreturned.running, hreturned.seen⟩

/-- **A step made for no claim or for another claim leaves claim `id` alone.** -/
theorem untouched_step {w : Pool} {id : Nat} (hl : (w.ledger? id).isSome) {s : Step}
    (hs : s.claim? w ≠ some id) : Untouched id w (w.step s) := by
  cases s with
  | track j r s' => exact untouched_track (by simpa [Step.claim?] using hs) r s'
  | acquire j s' => exact untouched_acquire (by simpa [Step.claim?] using hs) s'
  | finish i res a =>
    rcases hi : w.running[i]? with _ | ⟨j, r⟩
    · rw [step_finish_of_none hi]
      exact .refl id w
    · exact untouched_finish hi (by simpa [Step.claim?, hi] using hs) res a
  | openClaim topic partition committed =>
    exact ⟨ledger?_openPartition hl topic partition committed, rfl, rfl, ⟨[], by simp [step], by simp⟩⟩
  | closeClaim j => exact ⟨rfl, rfl, rfl, ⟨[], by simp [step], by simp⟩⟩
  | closeLimiter => exact ⟨rfl, rfl, rfl, ⟨[], by simp [step], by simp⟩⟩

end Conveyor.Pool
