import Conveyor.Source.Kafka
import Conveyor.Proofs.Dispatch.Inline
import Conveyor.Proofs.Word
/-!
# The offsets the Kafka source marks

The broker keeps, for each partition of a group, the next offset to read; a ledger keeps the
last offset handled. The Kafka source converts twice: a claim starts its ledger at the offset
before the claim's initial one (`committedBefore`), and every commit of the ledger marks the
offset after it in the session (`markOf`, a 64-bit sum).

A claim's source feeds the claim's messages to the dispatcher (`Claim.feed`), and the run goes
on in any order the world picks: handlers return with any results, other claims come and go
(`Pool.Fed`). Whatever the run, `marks_follow_handlers` says that:

* the commits of the claim name offsets of its messages, increasing strictly, and below the
  greatest offset their marks are the offsets after them, increasing strictly too;
* every message at or below a commit had its handler succeed before the commit;
* once the claim's ledger halted, nothing more of it is committed, so nothing is marked;
* a later claim whose initial offset is such a mark starts its ledger at the committed offset.

The proof reads all of it off the claim's invariant and what its source keeps
(`Fed.commit_handled`, `Moves.of_halted`); what is left is the arithmetic of the two
conversions. The source's own loop, which dispatches one message after another, is one such run
(`dispatchAll_fed`), so its commits are marked the same way (`dispatchAll_marks`). At the top of
the range the conversion breaks: the mark of the greatest offset wraps to the least word, which
a later claim reads as no commit at all (`markOf_greatest`).
-/

namespace Conveyor

namespace KafkaSource

/-- A claim always starts its ledger at `-1` or above. -/
theorem committedBefore_ge (initial : Int) : -1 ≤ committedBefore initial := by
  unfold committedBefore
  split <;> omega

/-- Below the greatest offset, the mark of an offset is the offset after it. -/
theorem markOf_of_lt {x : Int} (h0 : -1 ≤ x) (h : x < Word.greatest) : markOf x = x + 1 := by
  unfold markOf
  apply Word.wrap_of_le
  · rw [Word.least_eq]
    omega
  · omega

/-- **The conversions agree** below the greatest offset: a claim whose initial offset is the
mark of a committed offset starts its ledger at that offset. -/
theorem committedBefore_markOf {x : Int} (h0 : -1 ≤ x) (h : x < Word.greatest) :
    committedBefore (markOf x) = x := by
  rw [markOf_of_lt h0 h, committedBefore, if_neg (by omega)]
  omega

/-- At the greatest offset the mark wraps to the least word, and a claim starting there reads
it as no commit at all. -/
theorem markOf_greatest :
    markOf Word.greatest = Word.least ∧ committedBefore (markOf Word.greatest) = -1 := by
  decide

/-- In a fed run of a claim started at `-1` or above, whose messages lie below the greatest
offset, every commit is marked as the offset after it, and the marks increase strictly. -/
theorem commits_marked {id : Nat} {c0 : Int} {f : Pool.Fed} {l : Ledger} {msgs : List Record}
    (hc : Pool.ClaimSound id c0 f.pool l) (hf : Pool.Fed.Feeds id msgs f) (hc0 : -1 ≤ c0)
    (hword : ∀ m ∈ msgs, m.offset < Word.greatest) :
    (∀ x ∈ Pool.commitsOf id f.pool.seen, markOf x = x + 1) ∧
      ((Pool.commitsOf id f.pool.seen).map markOf).Pairwise (· < ·) := by
  -- a commit names a message's offset, above the claim's start and below the greatest offset
  have hmark : ∀ x ∈ Pool.commitsOf id f.pool.seen, markOf x = x + 1 := by
    intro x hx
    obtain ⟨a, hx⟩ := Pool.mem_commitsOf.mp hx
    obtain ⟨m, hm, -, -, rfl⟩ := Pool.Fed.commit_mem hc hf hx
    have habove := hc.sound.commits_above m.offset
      (Pool.mem_commitOffsets_ledgerHistory.mpr ⟨a, hx⟩)
    exact markOf_of_lt (by omega) (hword m hm)
  refine ⟨hmark, ?_⟩
  -- the commits increase strictly, and so do the offsets after them
  have hcommits := hc.sound.commits_sorted
  rw [← Pool.commitsOf_eq] at hcommits
  rw [List.pairwise_map]
  refine hcommits.imp_of_mem fun hx hy hlt => ?_
  rw [hmark _ hx, hmark _ hy]
  omega

/-- A claim's source over a dispatcher: the partition claimed at the offset before the claim's
initial one, and the claim's messages to feed; with the claim's number. -/
def Claim.feed (claim : Claim) (d : Dispatcher) : Nat × Pool.Fed :=
  let start := Pool.start d claim.topic claim.partition (committedBefore claim.initialOffset)
  (start.1, Pool.Fed.begin start.2 start.1 claim.messages)

/-- **The offsets a claim marks.** For any dispatcher, any claim whose messages' offsets
increase and lie below the greatest offset, and any fed run from the claim's start:

* the marks of the claim's commits, `markOf x` for each committed `x`, increase strictly;
* each commit `x` is marked as `x + 1`, and every message of the claim at or below `x` had its
  handler succeed before the commit;
* once the claim's ledger is halted, no commit of the claim follows, so nothing is marked;
* for every committed offset `x ≥ -1` below the greatest, a later claim whose initial offset is
  the mark of `x` starts its ledger at `x`. -/
theorem marks_follow_handlers (claim : Claim) (d : Dispatcher)
    (hsorted : (claim.messages.map (·.offset)).Pairwise (· < ·))
    (hword : ∀ m ∈ claim.messages, m.offset < Word.greatest) (steps : List Pool.Fed.Step) :
    let id := (claim.feed d).1
    let f := (claim.feed d).2.run steps
    ((Pool.commitsOf id f.pool.seen).map markOf).Pairwise (· < ·) ∧
    (∀ pre x a post, f.pool.seen = pre ++ .commit id x a :: post →
      markOf x = x + 1 ∧ ∀ m ∈ claim.messages, m.offset ≤ x → .finished id m none ∈ pre) ∧
    (∀ pre post, steps = pre ++ post → ∀ l, ((claim.feed d).2.run pre).pool.ledger? id = some l →
      l.halt.isSome → ∃ later, f.pool.seen = ((claim.feed d).2.run pre).pool.seen ++ later ∧
        ∀ x a, .commit id x a ∉ later) ∧
    ∀ x, -1 ≤ x → x < Word.greatest → committedBefore (markOf x) = x := by
  intro id f
  -- the claim's invariant and what its source keeps hold at the end of the run
  obtain ⟨l, hc, hf⟩ := Pool.Fed.start_run d claim.topic claim.partition
    (committedBefore claim.initialOffset) claim.messages steps
  change Pool.ClaimSound id _ f.pool l at hc
  change Pool.Fed.Feeds id claim.messages f at hf
  obtain ⟨hmark, hmarks⟩ := commits_marked hc hf (committedBefore_ge claim.initialOffset) hword
  refine ⟨hmarks, fun pre x a post hsplit =>
    ⟨hmark x (Pool.mem_commitsOf.mpr ⟨a, by simp [hsplit]⟩),
    fun m hm hle => Pool.Fed.commit_handled hc hf hsorted hsplit hm hle⟩, ?_,
    fun x h0 h1 => committedBefore_markOf h0 h1⟩
  intro pre post hsteps l hl hh
  obtain ⟨e, he⟩ := Option.isSome_iff_exists.mp hh
  have hmoves : Pool.Moves ((claim.feed d).2.run pre).pool f.pool := by
    show Pool.Moves _ ((claim.feed d).2.run steps).pool
    rw [hsteps, Pool.Fed.run_append]
    exact Pool.Fed.moves_run _ post
  exact (hmoves.of_halted hl he).2

/-- A claim with no commit before it and messages at offsets `0` and `1`, dispatched, handled
and committed one after the other. -/
theorem marks_of_two_messages :
    let claim : Claim :=
      { topic := "orders", partition := 0, initialOffset := -1, highWater := 2,
        messages := [{ topic := "orders", partition := 0, offset := 0 },
          { topic := "orders", partition := 0, offset := 1 }] }
    let d : Dispatcher := { coordinator := { capacity := 4 }, limiter := Limiter.create 1 }
    let steps : List Pool.Fed.Step := [.next 0 2 none, .take 0 none, .pool (.finish 0 none none),
      .next 0 2 none, .take 0 none, .pool (.finish 0 none none)]
    let id := (claim.feed d).1
    let f := (claim.feed d).2.run steps
    (claim.messages.map (·.offset)).Pairwise (· < ·) ∧
    (∀ m ∈ claim.messages, m.offset < Word.greatest) ∧
    ((Pool.commitsOf id f.pool.seen).map markOf).Pairwise (· < ·) ∧
    (∀ pre x a post, f.pool.seen = pre ++ .commit id x a :: post →
      markOf x = x + 1 ∧ ∀ m ∈ claim.messages, m.offset ≤ x → .finished id m none ∈ pre) ∧
    (∀ pre post, steps = pre ++ post → ∀ l, ((claim.feed d).2.run pre).pool.ledger? id = some l →
      l.halt.isSome → ∃ later, f.pool.seen = ((claim.feed d).2.run pre).pool.seen ++ later ∧
        ∀ x a, .commit id x a ∉ later) ∧
    ∀ x, -1 ≤ x → x < Word.greatest → committedBefore (markOf x) = x :=
  ⟨by decide, by decide, marks_follow_handlers _ _ (by decide) (by decide) _⟩

/-! ### The source's own loop

The program dispatches a claim's messages one after another (`dispatchAll`), each to its end
before the next. Run in a pool, whose commit function records each commit where the session
would mark the offset after it, the loop is one schedule of the fed run (`dispatchAll_fed`), and
so it commits what a fed run commits. -/

/-- One turn of the loop in a pool: unless the context has ended, the ledger is told the
high-water mark and the message is dispatched at once; the loop goes on only when that ended
well. -/
theorem run_dispatchAll_cons (a s : Option Fault) (res : Record → Option Fault) (claim : Claim)
    (id : Nat) (m : Record) (rest : List Record) (S : Pool) :
    ((dispatchAll (Pool.claims a) (pure s) (fun r => pure (res r)) claim id (m :: rest)).run S).2 =
      if s.isSome then S else
      let out := ((Pool.claims a).dispatch (fun r => pure (res r)) id m s).run
        (S.updateLedger id (·.observeHighWater claim.highWater))
      match out.1 with
      | .done none =>
        ((dispatchAll (Pool.claims a) (pure s) (fun r => pure (res r)) claim id rest).run out.2).2
      | _ => out.2 := by
  -- the world's monad is `Id` underneath, whose binding is application
  have hbind : ∀ {α β : Type} (x : Id α) (f : α → Id β), x >>= f = f x := fun _ _ => rfl
  have hpure : ∀ {α : Type} (x : α), (pure x : Id α) = x := fun _ => rfl
  cases s with
  | some f => rfl
  | none =>
    simp only [dispatchAll, StateT.run_bind, StateT.run_pure, hpure, hbind, Option.isSome_none,
      Bool.false_eq_true, if_false, Pool.run_updateLedger]
    rcases ((Pool.claims a).dispatch (fun r => pure (res r)) id m none).run
      (S.updateLedger id (·.observeHighWater claim.highWater)) with ⟨⟨_ | f⟩ | _, w⟩
    · rfl
    · -- a refused message ends the loop; reading the ledger and logging change nothing
      simp only [StateT.run_bind, Pool.run_ledger?, hbind]
      split <;> rfl
    · rfl

/-- **The loop is a fed schedule.** Run in a pool that agrees with a fed run's pool, where the
claim's source is to dispatch `msgs` and waits with nothing, the loop does what some schedule of
the fed run does: the two pools agree after it, and every handler that finished in that schedule
answered as the loop's handler does. The induction is on the messages, each turn one
`Pool.dispatch_fed`. -/
theorem dispatchAll_fed (a s : Option Fault) (res : Record → Option Fault) (claim : Claim)
    {id : Nat} {c0 : Int} (msgs : List Record) {S : Pool} {F : Pool.Fed} {l : Ledger}
    (hag : Pool.Agrees S F.pool) (hsrc : F.sources id = some (.feeding msgs))
    (hwait : F.pool.waitingOf id = none) (hc : Pool.ClaimSound id c0 F.pool l) :
    ∃ sch : List Pool.Fed.Step,
      Pool.Agrees ((dispatchAll (Pool.claims a) (pure s) (fun r => pure (res r)) claim id msgs).run
        S).2 (F.run sch).pool ∧
      ∃ new, (F.run sch).pool.seen = F.pool.seen ++ new ∧
        ∀ m x, .finished id m x ∈ new → x = res m := by
  induction msgs generalizing S F l with
  | nil => exact ⟨[], hag, [], by simp [Pool.Fed.run], by simp⟩
  | cons m rest ih =>
    rw [run_dispatchAll_cons]
    split
    · exact ⟨[], hag, [], by simp [Pool.Fed.run], by simp⟩
    obtain ⟨sch, hag', hdone, new, hseen, hfin⟩ :=
      Pool.dispatch_fed a res hag hsrc hwait hc.ledger claim.highWater s
    dsimp only
    split
    · -- the message was handled: the loop goes on with the rest, from where the schedule left
      next hout =>
      obtain ⟨hsrc', hwait'⟩ := hdone hout
      obtain ⟨l', hc'⟩ := hc.moves (F.moves_run sch)
      obtain ⟨sch', hag'', new', hseen', hfin'⟩ := ih hag' hsrc' hwait' hc'
      refine ⟨sch ++ sch', ?_, new ++ new', ?_, ?_⟩
      · rw [Pool.Fed.run_append]
        exact hag''
      · rw [Pool.Fed.run_append, hseen', hseen, List.append_assoc]
      · intro m x hm
        rcases List.mem_append.mp hm with hm | hm
        exacts [hfin m x hm, hfin' m x hm]
    · exact ⟨sch, hag', new, hseen, hfin⟩

/-- **The offsets the loop commits.** The source dispatches a claim's messages one after another
in a pool, each handler answering at once with `res`, while the pool's commit function records
each commit. When the messages' offsets increase and lie below the greatest offset, the marks of
the loop's commits increase strictly, each commit `x` is marked as `x + 1`, and every message at or
below it was handled with success. -/
theorem dispatchAll_marks (claim : Claim) (d : Dispatcher) (a s : Option Fault)
    (res : Record → Option Fault) (hsorted : (claim.messages.map (·.offset)).Pairwise (· < ·))
    (hword : ∀ m ∈ claim.messages, m.offset < Word.greatest) :
    let id := (claim.feed d).1
    let w := ((dispatchAll (Pool.claims a) (pure s) (fun r => pure (res r)) claim id
      claim.messages).run (Pool.start d claim.topic claim.partition
        (committedBefore claim.initialOffset)).2).2
    ((Pool.commitsOf id w.seen).map markOf).Pairwise (· < ·) ∧
    ∀ x ∈ Pool.commitsOf id w.seen,
      markOf x = x + 1 ∧ ∀ m ∈ claim.messages, m.offset ≤ x → res m = none := by
  intro id w
  -- the loop is a schedule of the claim's fed run, from the same pool
  obtain ⟨sch, hag, new, hseen, hfin⟩ :=
    @dispatchAll_fed a s res claim id _ claim.messages _ (claim.feed d).2 _ ⟨rfl, rfl⟩
      (by simp [id, Claim.feed, Pool.Fed.begin]) rfl
      (Pool.claimSound_start d claim.topic claim.partition (committedBefore claim.initialOffset))
  obtain ⟨l, hc, hf⟩ := Pool.Fed.start_run d claim.topic claim.partition
    (committedBefore claim.initialOffset) claim.messages sch
  change Pool.ClaimSound id _ ((claim.feed d).2.run sch).pool l at hc
  change Pool.Fed.Feeds id claim.messages ((claim.feed d).2.run sch) at hf
  obtain ⟨hmark, hmarks⟩ := commits_marked hc hf (committedBefore_ge claim.initialOffset) hword
  change Pool.Agrees w _ at hag
  rw [hag.commitsOf]
  refine ⟨hmarks, fun x hx => ⟨hmark x hx, fun m hm hle => ?_⟩⟩
  -- a message at or below a commit finished with success before it, in the loop's schedule
  obtain ⟨b, hx⟩ := Pool.mem_commitsOf.mp hx
  obtain ⟨pre, post, hsplit⟩ := List.append_of_mem hx
  have hpre := Pool.Fed.commit_handled hc hf hsorted hsplit hm hle
  have hnew : .finished id m none ∈ new := by
    have hmem : .finished id m none ∈ ((claim.feed d).2.run sch).pool.seen := by
      rw [hsplit]
      exact List.mem_append_left _ hpre
    have hstart : (claim.feed d).2.pool.seen = [] := rfl
    rwa [hseen, hstart, List.nil_append] at hmem
  exact (hfin m none hnew).symm

-- a claim with messages at offsets `0` and `1`, both handled with success by the loop
example :
    let claim : Claim :=
      { topic := "orders", partition := 0, initialOffset := -1, highWater := 2,
        messages := [{ topic := "orders", partition := 0, offset := 0 },
          { topic := "orders", partition := 0, offset := 1 }] }
    let d : Dispatcher := { coordinator := { capacity := 4 }, limiter := Limiter.create 1 }
    let id := (claim.feed d).1
    let w := ((dispatchAll (Pool.claims none) (pure none) (fun _ => pure none) claim id
      claim.messages).run (Pool.start d claim.topic claim.partition
        (committedBefore claim.initialOffset)).2).2
    (claim.messages.map (·.offset)).Pairwise (· < ·) ∧
    (∀ m ∈ claim.messages, m.offset < Word.greatest) ∧
    ((Pool.commitsOf id w.seen).map markOf).Pairwise (· < ·) ∧
    ∀ x ∈ Pool.commitsOf id w.seen,
      markOf x = x + 1 ∧ ∀ m ∈ claim.messages, m.offset ≤ x → (none : Option Fault) = none :=
  ⟨by decide, by decide, dispatchAll_marks _ _ _ _ (fun _ => none) (by decide) (by decide)⟩

end KafkaSource

end Conveyor
