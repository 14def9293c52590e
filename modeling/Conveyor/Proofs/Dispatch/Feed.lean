import Conveyor.Proofs.Dispatch.Progress
/-!
# Sources feeding their claims

A source hands the messages of its stream to the dispatcher one after another. Before each it
tells the claim's ledger the broker's high-water mark; it dispatches the message, waiting while
the ledger is full, and takes a worker token for it, waiting while none is free; then it goes
on with the next message while the handler runs. A refused dispatch stops it, and so does its
context ending between two messages.

A `Pool.Fed` is a pool with the sources of some claims (`Pool.Source`: what a source still
holds). Its steps are the sources' moves and every other step of the pool: handlers returning
in any order with any results, claims opened and closed, the limiter closed, and claims without
a source dispatching anything. Every step moves the pool by pool steps and high-water marks
told to ledgers (`Pool.Moves`), so the invariant of a claim holds along every fed run
(`ClaimSound.moves`), and a halted claim commits no more (`Moves.of_halted`).

What a source adds (`Pool.Fed.Feeds`): the records its claim tracked are, in order, the first
messages of its stream, and while it feeds, they and what it still holds make up the stream.
With the claim's invariant this ties every commit to the stream (`Fed.commit_handled`): a
commit names the offset of a message of the stream, and when the stream's offsets increase,
every message of the stream up to that offset had its handler succeed before the commit.
-/

namespace Conveyor.Pool

/-! ### Fed pools -/

/-- What the source of a claim still holds. -/
inductive Source where
  /-- The messages it has not dispatched yet, in the stream's order. -/
  | feeding (rest : List Record)
  /-- It returned: a dispatch was refused or its context ended. -/
  | stopped

/-- **A pool fed by sources**, by the number of the claim each feeds. -/
structure Fed where
  pool : Pool
  sources : Nat → Option Source

namespace Fed

/-- A move of a source, or another step of the pool. -/
inductive Step where
  /-- The source of claim `id` tells the ledger the high-water mark and dispatches its next
  message. -/
  | next (id : Nat) (highWater : Int) (shutdown : Option Fault)
  /-- The source takes a worker token for the message it dispatched. -/
  | take (id : Nat) (shutdown : Option Fault)
  /-- The source's context ends between two messages. -/
  | quit (id : Nat)
  /-- A step of the pool; a fed claim's own dispatch steps are its source's to make. -/
  | pool (s : Pool.Step)

/-- A pool with the source of one claim, which holds the stream `msgs`. -/
def begin (w : Pool) (id : Nat) (msgs : List Record) : Fed :=
  { pool := w, sources := fun j => if j = id then some (.feeding msgs) else none }

/-- Whether a pool step is a fed claim's own dispatch. -/
def owns (f : Fed) : Pool.Step → Bool
  | .track id .. | .acquire id .. => (f.sources id).isSome
  | _ => false

/-- The pool `w`, with the source of claim `id` holding `src`. -/
def moveTo (f : Fed) (w : Pool) (id : Nat) (src : Source) : Fed :=
  { pool := w, sources := Function.update f.sources id (some src) }

/-- **One step.** -/
def step (f : Fed) : Step → Fed
  | .next id hw s =>
    match f.sources id, f.pool.waitingOf id, f.pool.ledger? id with
    | some (.feeding (r :: rest)), none, some l =>
      let w := f.pool.updateLedger id (·.observeHighWater hw)
      match ((l.observeHighWater hw).track r.offset s).1 with
      | .tracked => f.moveTo (w.step (.track id r s)) id (.feeding rest)
      | .refused _ => f.moveTo (w.step (.track id r s)) id .stopped
      | .full => { f with pool := w }
    | _, _, _ => f
  | .take id s =>
    match f.sources id, f.pool.waitingOf id with
    | some (.feeding _), some _ =>
      match (f.pool.dispatcher.limiter.take s).1 with
      | .refused _ => f.moveTo (f.pool.step (.acquire id s)) id .stopped
      | _ => { f with pool := f.pool.step (.acquire id s) }
    | _, _ => f
  | .quit id =>
    match f.sources id, f.pool.waitingOf id with
    | some (.feeding _), none => f.moveTo f.pool id .stopped
    | _, _ => f
  | .pool s => if f.owns s then f else { f with pool := f.pool.step s }

/-- **A fed run.** -/
def run (f : Fed) (steps : List Step) : Fed := steps.foldl step f

theorem run_append (f : Fed) (pre post : List Step) :
    f.run (pre ++ post) = (f.run pre).run post := List.foldl_append

@[simp] theorem moveTo_pool (f : Fed) (w : Pool) (id : Nat) (src : Source) :
    (f.moveTo w id src).pool = w := rfl

@[simp] theorem moveTo_sources_self (f : Fed) (w : Pool) (id : Nat) (src : Source) :
    (f.moveTo w id src).sources id = some src := by
  simp [moveTo]

theorem moveTo_sources_of_ne (f : Fed) (w : Pool) {id j : Nat} (hj : j ≠ id) (src : Source) :
    (f.moveTo w j src).sources id = f.sources id := by
  simp [moveTo, Function.update_of_ne (Ne.symm hj)]

end Fed

/-! ### How a fed run moves the pool -/

/-- The pool moves by its own steps and by high-water marks told to ledgers. -/
inductive Moves : Pool → Pool → Prop
  | refl (w : Pool) : Moves w w
  | step (w : Pool) (s : Step) : Moves w (w.step s)
  | observe (w : Pool) (id : Nat) (hw : Int) : Moves w (w.updateLedger id (·.observeHighWater hw))
  | trans {w w' w'' : Pool} : Moves w w' → Moves w' w'' → Moves w w''

/-- Every fed step moves the pool by a pool step, a high-water mark, or both. -/
theorem Fed.moves_step (f : Fed) (s : Fed.Step) : Moves f.pool (f.step s).pool := by
  cases s with
  | next id hw s =>
    dsimp only [Fed.step]
    split
    · split <;> simp only [Fed.moveTo_pool]
      · exact .trans (.observe _ _ _) (.step _ _)
      · exact .trans (.observe _ _ _) (.step _ _)
      · exact .observe _ _ _
    · exact .refl _
  | take id s =>
    dsimp only [Fed.step]
    split
    · split <;> simp only [Fed.moveTo_pool]
      · exact .step _ _
      · exact .step _ _
    · exact .refl _
  | quit id =>
    dsimp only [Fed.step]
    split <;> exact .refl _
  | pool s =>
    dsimp only [Fed.step]
    split
    · exact .refl _
    · exact .step _ _

theorem Fed.moves_run (f : Fed) (steps : List Fed.Step) : Moves f.pool (f.run steps).pool := by
  induction steps generalizing f with
  | nil => exact .refl _
  | cons s rest ih => exact .trans (f.moves_step s) (ih (f.step s))

section Moves

variable {id : Nat} {c0 : Int} {w w' : Pool} {l : Ledger}

/-- A high-water mark told to the claim's ledger keeps the invariant. -/
theorem ClaimSound.observe (hc : ClaimSound id c0 w l) (hw : Int) :
    ClaimSound id c0 (w.updateLedger id (·.observeHighWater hw)) (l.observeHighWater hw) where
  records := hc.records.append_other (by simpa using hc.records.waiting_le) (by simp [inflight])
    [] (by simp) (by simp)
  ledger := by simp [hc.ledger]
  sound := by simpa using hc.sound.observeHighWater hw
  front hh p hp := hc.front (by simpa using hh) p (by simpa using hp)
  inflight_unresolved r hr := by
    simpa using hc.inflight_unresolved r (by simpa [inflight] using hr)
  abandoned_unresolved r f hr hf := by
    simpa using hc.abandoned_unresolved r f (by simpa using hr) hf
  unresolved_cause o ho := by simpa [inflight] using hc.unresolved_cause o (by simpa using ho)
  halt_cause hh := by simpa using hc.halt_cause (by simpa using hh)

/-- **Every move keeps the invariant**, with the ledger the claim then has. -/
theorem ClaimSound.moves (hc : ClaimSound id c0 w l) (hm : Moves w w') :
    ∃ l', ClaimSound id c0 w' l' := by
  induction hm generalizing l with
  | refl => exact ⟨l, hc⟩
  | step w s => exact hc.step s
  | observe w j hw =>
    by_cases hj : j = id
    · subst hj
      exact ⟨_, hc.observe hw⟩
    · -- a mark told to another ledger leaves this claim alone
      exact ⟨l, hc.untouched ⟨by simp [hj], rfl, rfl, ⟨[], by simp, by simp⟩⟩⟩
  | trans _ _ ih ih' =>
    obtain ⟨l', hc'⟩ := ih hc
    exact ih' hc'

/-- **A halted claim commits no more**: through any moves its ledger stays halted with the same
fault, and no commit of the claim follows. -/
theorem Moves.of_halted {e : Fault} (hm : Moves w w') (hl : w.ledger? id = some l)
    (hh : l.halt = some e) :
    (∃ l', w'.ledger? id = some l' ∧ l'.halt = some e) ∧
      ∃ later, w'.seen = w.seen ++ later ∧ ∀ x a, .commit id x a ∉ later := by
  induction hm generalizing l with
  | refl => exact ⟨⟨l, hl, hh⟩, [], by simp, by simp⟩
  | step w s =>
    obtain ⟨hl', hseen⟩ := step_of_halted hl hh s
    exact ⟨⟨l, hl', hh⟩, hseen⟩
  | observe w j hw =>
    refine ⟨?_, [], by simp, by simp⟩
    by_cases hj : j = id
    · exact ⟨l.observeHighWater hw, by simp [hj, hl], by simp [hh]⟩
    · exact ⟨l, by simp [hj, hl], hh⟩
  | trans _ _ ih ih' =>
    obtain ⟨⟨l', hl', hh'⟩, later, hseen, hlater⟩ := ih hl hh
    obtain ⟨hhalt, later', hseen', hlater'⟩ := ih' hl' hh'
    refine ⟨hhalt, later ++ later', by rw [hseen', hseen, List.append_assoc], ?_⟩
    intro x a hx
    rcases List.mem_append.mp hx with hx | hx
    · exact hlater x a hx
    · exact hlater' x a hx

end Moves

/-! ### What a claim tracked and committed -/

/-- The records claim `id` tracked, in order. -/
def trackedOf (id : Nat) (seen : List Seen) : List Record :=
  seen.filterMap fun
    | .tracked j r => if j = id then some r else none
    | _ => none

/-- The offsets claim `id` committed, in order. -/
def commitsOf (id : Nat) (seen : List Seen) : List Int :=
  seen.filterMap fun
    | .commit j x _ => if j = id then some x else none
    | _ => none

@[simp] theorem trackedOf_nil (id : Nat) : trackedOf id [] = [] := rfl

@[simp] theorem trackedOf_append (id : Nat) (xs ys : List Seen) :
    trackedOf id (xs ++ ys) = trackedOf id xs ++ trackedOf id ys := List.filterMap_append

@[simp] theorem trackedOf_cons_tracked (id j : Nat) (r : Record) (seen : List Seen) :
    trackedOf id (.tracked j r :: seen) = (if j = id then [r] else []) ++ trackedOf id seen := by
  by_cases h : j = id <;> simp [trackedOf, h]

@[simp] theorem trackedOf_cons_dispatched (id j : Nat) (r : Record) (e : Option Fault)
    (seen : List Seen) : trackedOf id (.dispatched j r e :: seen) = trackedOf id seen := rfl

@[simp] theorem trackedOf_cons_finished (id j : Nat) (r : Record) (res : Option Fault)
    (seen : List Seen) : trackedOf id (.finished j r res :: seen) = trackedOf id seen := rfl

@[simp] theorem trackedOf_cons_commit (id j : Nat) (x : Int) (a : Option Fault)
    (seen : List Seen) : trackedOf id (.commit j x a :: seen) = trackedOf id seen := rfl

@[simp] theorem trackedOf_commits (id j : Nat) (a : Option Fault) (xs : List Int) :
    trackedOf id (xs.map (.commit j · a)) = [] := by
  induction xs with
  | nil => rfl
  | cons x xs ih => simpa using ih

theorem mem_trackedOf {id : Nat} {seen : List Seen} {r : Record} :
    r ∈ trackedOf id seen ↔ .tracked id r ∈ seen := by
  simp only [trackedOf, List.mem_filterMap]
  constructor
  · rintro ⟨e, he, hr⟩
    cases e with
    | tracked j r' =>
      by_cases hj : j = id
      · subst hj
        simp only [ite_true, Option.some.injEq] at hr
        exact hr ▸ he
      · simp [hj] at hr
    | _ => simp at hr
  · intro h
    exact ⟨_, h, by simp⟩

/-- Events of other claims track nothing of claim `id`. -/
theorem trackedOf_of_ne {id : Nat} {new : List Seen} (h : ∀ e ∈ new, e.claim ≠ id) :
    trackedOf id new = [] := by
  rw [List.eq_nil_iff_forall_not_mem]
  intro r hr
  exact h _ (mem_trackedOf.mp hr) rfl

@[simp] theorem commitsOf_append (id : Nat) (xs ys : List Seen) :
    commitsOf id (xs ++ ys) = commitsOf id xs ++ commitsOf id ys := List.filterMap_append

/-- The offsets a claim committed are the commits of its ledger's history. -/
theorem commitsOf_eq (id : Nat) (seen : List Seen) :
    commitsOf id seen = Ledger.commitOffsets (ledgerHistory id seen) := by
  induction seen with
  | nil => rfl
  | cons e seen ih =>
    have hone : commitsOf id [e] = Ledger.commitOffsets (ledgerHistory id [e]) := by
      cases e with
      | commit j x a => by_cases hj : j = id <;> simp [commitsOf, ledgerHistory, Seen.onLedger, hj]
      | finished j r res =>
        cases res <;> by_cases hj : j = id <;> simp [commitsOf, ledgerHistory, Seen.onLedger, hj]
      | tracked j r => by_cases hj : j = id <;> simp [commitsOf, ledgerHistory, Seen.onLedger, hj]
      | dispatched => rfl
    rw [← List.singleton_append, commitsOf_append, ledgerHistory_append,
      Ledger.commitOffsets_append, hone, ih]

theorem mem_commitsOf {id : Nat} {seen : List Seen} {x : Int} :
    x ∈ commitsOf id seen ↔ ∃ a, .commit id x a ∈ seen := by
  rw [commitsOf_eq, mem_commitOffsets_ledgerHistory]

/-- A tracking step shows the record tracked, the refusal, or nothing while the ledger is
full. -/
theorem seen_track {w : Pool} {id : Nat} {l : Ledger} (hw : w.waitingOf id = none)
    (hl : w.ledger? id = some l) (r : Record) (s : Option Fault) :
    (w.step (.track id r s)).seen = w.seen ++
      match (l.track r.offset s).1 with
      | .tracked => [.tracked id r]
      | .refused f => [.dispatched id r (some f)]
      | .full => [] := by
  rw [step_track hw hl]
  rcases l.track r.offset s with ⟨_ | f | _, l'⟩ <;> simp

/-- Only a claim's own tracking step tracks a record of it. -/
theorem trackedOf_step {w : Pool} {id : Nat} {s : Step} (hs : ∀ r sh, s ≠ .track id r sh) :
    trackedOf id (w.step s).seen = trackedOf id w.seen := by
  cases s with
  | track j r sh =>
    have hj : j ≠ id := fun h => hs r sh (h ▸ rfl)
    obtain ⟨new, hseen, hnew⟩ := (untouched_track hj r sh (w := w)).seen
    rw [hseen, trackedOf_append, trackedOf_of_ne hnew, List.append_nil]
  | acquire j sh =>
    rcases hw : w.waitingOf j with _ | r
    · rw [step_acquire_of_none hw]
    · rw [step_acquire hw]
      rcases w.dispatcher.limiter.take sh with ⟨_ | f | _, lim⟩ <;> simp
  | finish i res a =>
    rcases hi : w.running[i]? with _ | ⟨j, r⟩
    · rw [step_finish_of_none hi]
    · rw [step_finish hi]
      cases res with
      | none =>
        rw [run_finish_none]
        rcases hl : (w.handlerReturned i j r none).ledger? j with _ | l
        · rw [run_resolve_of_none _ _ _ _ hl]
          simp
        · rw [run_resolve _ _ _ _ hl]
          simp
      | some f =>
        rw [run_finish_some]
        split <;> simp
  | openClaim | closeClaim | closeLimiter => rfl

/-! ### What a source keeps -/

namespace Fed

variable {id : Nat} {msgs : List Record} {f : Fed}

/-- **What a source keeps** of its stream `msgs`: the records its claim tracked are, in order,
the first messages of the stream, and while it feeds, what it still holds is the rest. -/
structure Feeds (id : Nat) (msgs : List Record) (f : Fed) : Prop where
  fed : (f.sources id).isSome
  first : ∃ rest, trackedOf id f.pool.seen ++ rest = msgs
  rest : ∀ rest, f.sources id = some (.feeding rest) → trackedOf id f.pool.seen ++ rest = msgs

theorem feeds_begin (w : Pool) (id : Nat) (msgs : List Record) (hw : trackedOf id w.seen = []) :
    Feeds id msgs (begin w id msgs) where
  fed := by simp [begin]
  first := ⟨msgs, by simp [begin, hw]⟩
  rest rest h := by simp_all [begin]

/-- A step that tracks nothing of the claim keeps what its source keeps, when the source holds
what it held or stops. -/
theorem Feeds.untracked (hf : Feeds id msgs f) {f' : Fed}
    (hseen : trackedOf id f'.pool.seen = trackedOf id f.pool.seen)
    (hsrc : f'.sources id = f.sources id ∨ f'.sources id = some .stopped) :
    Feeds id msgs f' where
  fed := by rcases hsrc with h | h <;> simp [h, hf.fed]
  first := hseen ▸ hf.first
  rest rest h := by
    rcases hsrc with hs | hs
    · rw [hseen]
      exact hf.rest rest (hs ▸ h)
    · simp [hs] at h

/-- The source of the claim dispatches its next message `r`: tracked, the rest is what it
holds; refused, it stops; on a full ledger nothing is tracked. -/
theorem Feeds.next_self (hf : Feeds id msgs f) {r : Record} {rest : List Record} {l : Ledger}
    (hsrc : f.sources id = some (.feeding (r :: rest))) (hwait : f.pool.waitingOf id = none)
    (hl : f.pool.ledger? id = some l) (hw : Int) (s : Option Fault) :
    Feeds id msgs (f.step (.next id hw s)) := by
  have hwait' : (f.pool.updateLedger id (·.observeHighWater hw)).waitingOf id = none := by
    simpa [waitingOf] using hwait
  have hl' : (f.pool.updateLedger id (·.observeHighWater hw)).ledger? id =
      some (l.observeHighWater hw) := by
    simp [hl]
  have hseen := seen_track hwait' hl' r s
  simp only [step, hsrc, hwait, hl]
  rcases ho : ((l.observeHighWater hw).track r.offset s).1 with _ | e | _ <;>
    simp only [ho] at hseen ⊢
  · -- the record joins what the claim tracked, and the source holds the rest
    have htracked : trackedOf id ((f.pool.updateLedger id (·.observeHighWater hw)).step
        (.track id r s)).seen = trackedOf id f.pool.seen ++ [r] := by
      simp [hseen]
    have hmsgs := hf.rest (r :: rest) hsrc
    refine ⟨by simp, ⟨rest, ?_⟩, fun rest' h => ?_⟩
    · rw [moveTo_pool, htracked, List.append_assoc]
      exact hmsgs
    · simp only [moveTo_sources_self, Option.some.injEq, Source.feeding.injEq] at h
      subst h
      rw [moveTo_pool, htracked, List.append_assoc]
      exact hmsgs
  · exact hf.untracked (by simp [hseen]) (.inr (by simp))
  · exact hf.untracked (by simp) (.inl rfl)

/-- The source of another claim moves. -/
theorem Feeds.next_other (hf : Feeds id msgs f) {j : Nat} (hj : j ≠ id) (hw : Int)
    (s : Option Fault) : Feeds id msgs (f.step (.next j hw s)) := by
  have htrack : ∀ r, trackedOf id ((f.pool.updateLedger j (·.observeHighWater hw)).step
      (.track j r s)).seen = trackedOf id f.pool.seen := fun r => by
    rw [trackedOf_step (fun r' sh h => hj (Step.track.inj h).1)]
    simp
  dsimp only [step]
  split
  · split
    · exact hf.untracked (htrack _) (.inl (moveTo_sources_of_ne _ _ hj _))
    · exact hf.untracked (htrack _) (.inl (moveTo_sources_of_ne _ _ hj _))
    · exact hf.untracked (by simp) (.inl rfl)
  · exact hf.untracked rfl (.inl rfl)

/-- **Every step keeps what a source keeps.** -/
theorem Feeds.step (hf : Feeds id msgs f) (s : Step) : Feeds id msgs (f.step s) := by
  cases s with
  | next j hw sh =>
    by_cases hj : j = id
    · subst hj
      -- the source dispatches only when it holds a message, waits with none, and has a ledger
      by_cases hready : ∃ r rest l, f.sources j = some (.feeding (r :: rest)) ∧
          f.pool.waitingOf j = none ∧ f.pool.ledger? j = some l
      · obtain ⟨r, rest, l, hsrc, hwait, hl⟩ := hready
        exact hf.next_self hsrc hwait hl hw sh
      · have hsame : f.step (.next j hw sh) = f := by
          simp only [step]
          split
          · rename_i r rest l hsrc hwait hl
            exact absurd ⟨r, rest, l, hsrc, hwait, hl⟩ hready
          · rfl
        rw [hsame]
        exact hf
    · exact hf.next_other hj hw sh
  | take j sh =>
    have hseen : trackedOf id (f.pool.step (.acquire j sh)).seen = trackedOf id f.pool.seen :=
      trackedOf_step (by simp)
    dsimp only [Fed.step]
    split
    · split
      · by_cases hj : j = id
        · subst hj
          exact hf.untracked hseen (.inr (by simp))
        · exact hf.untracked hseen (.inl (moveTo_sources_of_ne _ _ hj _))
      · exact hf.untracked hseen (.inl rfl)
    · exact hf.untracked rfl (.inl rfl)
  | quit j =>
    dsimp only [Fed.step]
    split
    · by_cases hj : j = id
      · subst hj
        exact hf.untracked rfl (.inr (by simp))
      · exact hf.untracked rfl (.inl (moveTo_sources_of_ne _ _ hj _))
    · exact hf.untracked rfl (.inl rfl)
  | pool s =>
    dsimp only [Fed.step]
    split
    · exact hf.untracked rfl (.inl rfl)
    · next hown =>
      -- the claim's own tracking steps belong to its source
      refine hf.untracked (trackedOf_step fun r sh hs => hown ?_) (.inl rfl)
      simp [hs, owns, hf.fed]

theorem Feeds.run (hf : Feeds id msgs f) (steps : List Step) : Feeds id msgs (f.run steps) := by
  induction steps generalizing f with
  | nil => exact hf
  | cons s rest ih => exact ih (hf.step s)

end Fed

/-- **A claim fed from its opening**: after any fed run, the claim's invariant holds and its
source keeps its stream. -/
theorem Fed.start_run (d : Dispatcher) (topic : String) (partition c0 : Int) (msgs : List Record)
    (steps : List Fed.Step) :
    let start := start d topic partition c0
    ∃ l, ClaimSound start.1 c0 ((Fed.begin start.2 start.1 msgs).run steps).pool l ∧
      Fed.Feeds start.1 msgs ((Fed.begin start.2 start.1 msgs).run steps) := by
  intro start
  obtain ⟨l, hc⟩ := (claimSound_start d topic partition c0).moves
    ((Fed.begin start.2 start.1 msgs).moves_run steps)
  exact ⟨l, hc, (Fed.feeds_begin _ _ _ rfl).run steps⟩

/-! ### Commits follow the stream -/

section Commits

variable {id : Nat} {c0 : Int} {w : Pool} {l : Ledger}

/-- **A commit names a record that succeeded**: the claim tracked a record at the committed
offset, and its handler succeeded. -/
theorem ClaimSound.commit_tracked (hc : ClaimSound id c0 w l) {x : Int} {a : Option Fault}
    (hx : .commit id x a ∈ w.seen) :
    ∃ r, .tracked id r ∈ w.seen ∧ .finished id r none ∈ w.seen ∧ r.offset = x := by
  have hres := hc.sound.commits_resolved x (mem_commitOffsets_ledgerHistory.mpr ⟨a, hx⟩)
  obtain ⟨r, hr, hoff⟩ := resolved_mem_ledgerHistory.mp hres
  exact ⟨r, hc.records.finished_tracked r none hr, hr, hoff⟩

variable {msgs : List Record} {f : Fed}

/-- A commit of a fed claim names the offset of a message of its stream, which its claim
tracked and whose handler succeeded. -/
theorem Fed.commit_mem (hc : ClaimSound id c0 f.pool l) (hf : Fed.Feeds id msgs f) {x : Int}
    {a : Option Fault} (hx : .commit id x a ∈ f.pool.seen) :
    ∃ m ∈ msgs, .tracked id m ∈ f.pool.seen ∧ .finished id m none ∈ f.pool.seen ∧
      m.offset = x := by
  obtain ⟨r, hr, hfin, hoff⟩ := hc.commit_tracked hx
  obtain ⟨rest, hmsgs⟩ := hf.first
  exact ⟨r, hmsgs ▸ List.mem_append_left _ (mem_trackedOf.mpr hr), hr, hfin, hoff⟩

/-- **Commits follow the stream.** When the stream's offsets increase, every message of the
stream at or below a commit of its claim had its handler succeed before the commit. -/
theorem Fed.commit_handled (hc : ClaimSound id c0 f.pool l) (hf : Fed.Feeds id msgs f)
    (hsorted : (msgs.map (·.offset)).Pairwise (· < ·)) {pre post : List Seen} {x : Int}
    {a : Option Fault} (hsplit : f.pool.seen = pre ++ .commit id x a :: post) {m : Record}
    (hm : m ∈ msgs) (hle : m.offset ≤ x) : .finished id m none ∈ pre := by
  suffices htracked : .tracked id m ∈ f.pool.seen from hc.commit_after_handlers hsplit htracked hle
  -- the commit names a tracked message, and the messages not tracked lie above those tracked
  obtain ⟨r, hr, -, rfl⟩ := hc.commit_tracked (x := x) (a := a) (by simp [hsplit])
  obtain ⟨rest, hmsgs⟩ := hf.first
  rw [← hmsgs] at hm hsorted
  rcases List.mem_append.mp hm with hm | hm
  · exact mem_trackedOf.mp hm
  · rw [List.map_append, List.pairwise_append] at hsorted
    have hlt := hsorted.2.2 r.offset (List.mem_map_of_mem (mem_trackedOf.mpr hr)) m.offset
      (List.mem_map_of_mem hm)
    omega

end Commits

end Conveyor.Pool
