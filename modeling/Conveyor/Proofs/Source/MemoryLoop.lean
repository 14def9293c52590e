import Conveyor.Proofs.Source.MemoryRestart
import Conveyor.Proofs.Dispatch.Inline
/-!
# The memory source's own loop

The memory source consumes a partition by claiming it at its committed offset and dispatching
the records after it one after another, each to its end before the next (`MemoryLog.consume`,
`MemoryLog.dispatchAll`). Its claims commit into the log (`MemoryLog.claims`): a commit raises the
committed offset of the partition the claim's ledger is on, where a pool's claims record it.

Run over a pool (`poolClaims`), the loop is one schedule of the partition's fed run
(`MemoryLog.feed`), so `restart_resumes` speaks of it:

* `dispatch_beside`: one dispatch beside the log does what the pool's own dispatch does, with
  the commits the pool records made to the log instead;
* `dispatchAll_fed`: the loop stays beside some schedule of a fed run (`Beside`), one
  `Pool.dispatch_fed` for each message;
* `consume_fed`: consuming leaves the log as that schedule's commits leave it, so
  (`consume_commits_handled`) every offset the log's committed offset passes over is that of
  a record whose handler succeeded.
-/

namespace Conveyor

namespace Ledger

/-! ### A ledger stays on its partition -/

@[simp] theorem partition_halted (l : Ledger) (f : Fault) :
    (l.halted f).partition = l.partition := by
  unfold halted
  split <;> rfl

@[simp] theorem partition_track (l : Ledger) (o : Int) (s : Option Fault) :
    (l.track o s).2.partition = l.partition := by
  unfold track
  split
  · rfl
  · rfl
  · split
    · rfl
    · split <;> simp

@[simp] theorem partition_mark (l : Ledger) (o : Int) : (l.mark o).1.partition = l.partition := by
  unfold mark
  split
  · rfl
  · split
    · simp
    · simp
    · dsimp only
      split
      · rfl
      · split <;> simp [markResolved]

@[simp] theorem partition_settle (l : Ledger) (next : Int) (a : Option Fault) :
    (l.settle next a).1.partition = l.partition := by
  unfold settle
  split <;> simp

@[simp] theorem partition_observeHighWater (l : Ledger) (hw : Int) :
    (l.observeHighWater hw).partition = l.partition := by
  unfold observeHighWater
  split <;> rfl

@[simp] theorem partition_resolve (l : Ledger) (o : Int) (a : Option Fault) :
    (l.resolve o a).1.partition = l.partition := by
  have hmark := l.partition_mark o
  unfold resolve
  split <;> simp_all

end Ledger

namespace Pool

/-- A pool's dispatching with a memory log beside it: the dispatcher is the pool's, commits
answer at once and log records are dropped. -/
def besideLog : Claims (StateT MemoryLog (StateM Pool)) where
  current := do return (← getThe Pool).dispatcher
  store d := modifyThe Pool fun w => { w with dispatcher := d }
  commit _ _ := pure none
  log _ := pure ()

/-- A claim's commits, each recorded with one answer, are read back in order. -/
@[simp] theorem commitsOf_commits (id : Nat) (a : Option Fault) (xs : List Int) :
    commitsOf id (xs.map (.commit id · a)) = xs := by
  induction xs with
  | nil => rfl
  | cons x xs ih =>
    rw [List.map_cons, ← List.singleton_append, commitsOf_append, ih]
    simp [commitsOf]

end Pool

namespace MemoryLog

/-- **The memory source's claims over a pool**: the dispatcher is the pool's, and every commit
goes to the log. -/
def poolClaims : Claims (StateT MemoryLog (StateM Pool)) := MemoryLog.claims Pool.besideLog

/-- Committing into the log twice over is committing into it once: the source wraps the claims
it is given, which commit into the log already. -/
theorem claims_claims {n : Type → Type} [Monad n] [MonadStateOf MemoryLog n] (c : Claims n) :
    MemoryLog.claims (MemoryLog.claims c) = MemoryLog.claims c := rfl

theorem claims_poolClaims : MemoryLog.claims poolClaims = poolClaims :=
  claims_claims Pool.besideLog

theorem commitAll_append (log : MemoryLog) (p : Nat) (xs ys : List Int) :
    log.commitAll p (xs ++ ys) = (log.commitAll p xs).commitAll p ys := List.foldl_append

section Runs

variable {α β : Type} (L : MemoryLog) (S : Pool)

/-! ### Running beside a pool -/

theorem run_bind (x : StateT MemoryLog (StateM Pool) α)
    (f : α → StateT MemoryLog (StateM Pool) β) :
    ((x >>= f).run L).run S =
      ((f ((x.run L).run S).1.1).run ((x.run L).run S).1.2).run ((x.run L).run S).2 := rfl

theorem run_pure (a : α) :
    ((pure a : StateT MemoryLog (StateM Pool) α).run L).run S = ((a, L), S) := rfl

theorem run_current : (poolClaims.current.run L).run S = ((S.dispatcher, L), S) := rfl

theorem run_store (d : Dispatcher) :
    ((poolClaims.store d).run L).run S = (((), L), { S with dispatcher := d }) := rfl

theorem run_ledger? (id : Nat) : ((poolClaims.ledger? id).run L).run S = ((S.ledger? id, L), S) :=
  rfl

theorem run_updateLedger (id : Nat) (f : Ledger → Ledger) :
    ((poolClaims.updateLedger id f).run L).run S = (((), L), S.updateLedger id f) := rfl

/-- A commit goes to the partition of the claim's ledger. -/
theorem run_commit (id : Nat) (o : Int) {l : Ledger} (hl : S.ledger? id = some l) :
    ((poolClaims.commit id o).run L).run S = ((none, L.commit l.partition.toNat o), S) := by
  simp only [poolClaims, MemoryLog.claims, run_bind]
  -- the commit reads the ledger through the pool's own parts
  have hledger : ((Pool.besideLog.ledger? id).run L).run S = ((S.ledger? id, L), S) := rfl
  rw [hledger, hl]
  rfl

/-- **Tracking** beside a log is tracking in the pool; the log stays. -/
theorem run_track (id : Nat) (r : Record) (s : Option Fault) {l : Ledger}
    (hl : S.ledger? id = some l) :
    ((poolClaims.track id r s).run L).run S =
      (((match (l.track r.offset s).1 with
        | .refused f => some (.done (some f))
        | .full => some .blocked
        | .tracked => none), L), S.updateLedger id fun _ => (l.track r.offset s).2) := by
  rcases ht : l.track r.offset s with ⟨o, l'⟩
  cases o <;> simp only [Claims.track, run_bind, run_ledger?, hl, ht, run_updateLedger] <;> rfl

/-- **Taking a token** beside a log is taking it in the pool; the log stays. -/
theorem run_acquire (s : Option Fault) :
    ((poolClaims.acquire s).run L).run S =
      (((match (S.dispatcher.limiter.take s).1 with
        | .refused f => some (.done (some f))
        | .empty => some .blocked
        | .taken => none), L), S.setLimiter (S.dispatcher.limiter.take s).2) := by
  rcases ht : S.dispatcher.limiter.take s with ⟨o, lim⟩
  cases o <;> simp only [Claims.acquire, run_bind, run_current, run_store, ht] <;> rfl

/-- **Resolving** beside a log does to the ledger what resolving does, and makes each commit it
allows to the partition of the claim's ledger. -/
theorem run_resolve (id : Nat) (o : Int) {l : Ledger} (hl : S.ledger? id = some l) :
    let u := ((poolClaims.resolve id o).run L).run S
    (u.1.2, u.2) = (L.commitAll l.partition.toNat (Ledger.commitOffsets (l.resolve o none).2),
      S.updateLedger id fun _ => (l.resolve o none).1) := by
  rcases hm : l.mark o with ⟨l', marked⟩
  have hpart : l'.partition = l.partition := by rw [← l.partition_mark o, hm]
  rcases marked with _ | _ | next
  · simp only [Claims.resolve, run_bind, run_ledger?, hl, hm, run_updateLedger, run_pure,
      Ledger.resolve]
    rfl
  · simp only [Claims.resolve, run_bind, run_ledger?, hl, hm, run_updateLedger, run_pure,
      Ledger.resolve]
    rfl
  · -- the commit reads the marked ledger, still on the claim's partition
    have hl' : (S.updateLedger id fun _ => l').ledger? id = some l' := by simp [hl]
    simp only [Claims.resolve, run_bind, run_ledger?, hl, hm, run_updateLedger, run_pure,
      run_commit _ _ id next hl', hpart, Ledger.resolve]
    simp [Pool.updateLedger, Function.comp_def, commitAll]

/-- A message whose handler succeeded is resolved. -/
theorem run_finish_none (id : Nat) (r : Record) :
    let u := ((poolClaims.finish id r none).run L).run S
    let w := ((poolClaims.resolve id r.offset).run L).run S
    (u.1.2, u.2) = (w.1.2, w.2) := by
  simp only [Claims.finish, run_bind]
  -- the log record written on a failure leaves the log and the pool as they are
  rcases ((poolClaims.resolve id r.offset).run L).run S with ⟨⟨⟨_, _ | f⟩, L'⟩, w⟩ <;>
    rfl

/-- An abandoned message changes nothing; any other failure halts the claim's ledger. -/
theorem run_finish_some (id : Nat) (r : Record) (f : Fault) :
    let u := ((poolClaims.finish id r (some f)).run L).run S
    (u.1.2, u.2) =
      (L, if f.isa .abandoned then S
        else S.updateLedger id (·.halted (.wrap (r.label ++ ": ") f))) := by
  by_cases hf : f.isa .abandoned
  · simp only [Claims.finish, hf, if_true]
    rfl
  · simp only [Claims.finish, hf, if_false, Bool.false_eq_true]
    rfl

theorem run_complete (id : Nat) (r : Record) (res : Option Fault) :
    ((poolClaims.complete id r res).run L).run S =
      ((poolClaims.finish id r res).run L).run (S.setLimiter (S.dispatcher.limiter.give 1)) := rfl

/-- **Dispatching beside a log**, with the handler answering `res`: tracking decides, then the
token, and with both the handler runs and the message completes; the log changes only there. -/
theorem run_dispatch (res : Record → Option Fault) (id : Nat) (r : Record) (s : Option Fault)
    {l : Ledger} (hl : S.ledger? id = some l) :
    ((poolClaims.dispatch (fun r => pure (res r)) id r s).run L).run S =
      match l.track r.offset s with
      | (.tracked, l') =>
        match (S.updateLedger id fun _ => l').dispatcher.limiter.take s with
        | (.taken, lim) =>
          let u := ((poolClaims.complete id r (res r)).run L).run
            ((S.updateLedger id fun _ => l').setLimiter lim)
          ((.done none, u.1.2), u.2)
        | (.refused f, lim) => ((.done (some f), L), (S.updateLedger id fun _ => l').setLimiter lim)
        | (.empty, lim) => ((.blocked, L), (S.updateLedger id fun _ => l').setLimiter lim)
      | (.refused f, l') => ((.done (some f), L), S.updateLedger id fun _ => l')
      | (.full, l') => ((.blocked, L), S.updateLedger id fun _ => l') := by
  have htrack := run_track L S id r s hl
  rcases ht : l.track r.offset s with ⟨_ | f | _, l'⟩ <;>
    simp only [Claims.dispatch, run_bind, htrack, ht]
  · have hacq := run_acquire L (S.updateLedger id fun _ => l') s
    rcases hk : (S.updateLedger id fun _ => l').dispatcher.limiter.take s with
      ⟨_ | f | _, lim⟩ <;>
      simp only [hacq, hk, run_bind] <;> rfl
  all_goals rfl

theorem run_getLog : ((getThe MemoryLog : StateT MemoryLog (StateM Pool) MemoryLog).run L).run S =
    ((L, L), S) := rfl

/-- One turn of the loop beside a log: the ledger is told the high-water mark and the message
is dispatched; the loop goes on only when that ended well, and a stop changes nothing more. -/
theorem run_dispatchAll_cons (s : Option Fault) (res : Record → Option Fault) (p id : Nat)
    (m : Record) (rest : List Record) (next : Int) :
    let out := ((dispatchAll poolClaims (pure s) (fun r => pure (res r)) p id (m :: rest) next).run
      L).run S
    let u := ((poolClaims.dispatch (fun r => pure (res r)) id m s).run L).run
      (S.updateLedger id (·.observeHighWater (L.highWater p)))
    (out.1.2, out.2) =
      match u.1.1 with
      | .done none =>
        let w := ((dispatchAll poolClaims (pure s) (fun r => pure (res r)) p id rest (next + 1)).run
          u.1.2).run u.2
        (w.1.2, w.2)
      | _ => (u.1.2, u.2) := by
  simp only [dispatchAll, claims_poolClaims, run_bind, run_getLog, run_updateLedger, run_pure]
  rcases ((poolClaims.dispatch (fun r => pure (res r)) id m s).run L).run
    (S.updateLedger id (·.observeHighWater (L.highWater p))) with
    ⟨⟨⟨_ | f⟩ | _, L'⟩, S'⟩
  · rfl
  · -- a refused message ends the loop; reading the ledger and logging change nothing
    simp only [run_bind, run_ledger?]
    split <;> rfl
  · rfl

/-- Consuming leaves the log as the loop over the records after the committed offset leaves it:
the claim opened before, and the claim closed after, touch only the dispatcher. -/
theorem run_consume (s : Option Fault) (res : Record → Option Fault) (drain : Bool) (p : Nat) :
    let start := Pool.start S.dispatcher L.topic p (L.committedAt p)
    (((consume poolClaims (pure s) (fun r => pure (res r)) drain p).run L).run S).1.2 =
      (((dispatchAll poolClaims (pure s) (fun r => pure (res r)) p start.1
        (L.after p (L.committedAt p)) (L.committedAt p + 1)).run L).run
          { S with dispatcher := start.2.dispatcher }).1.2 := by
  simp only [consume, consumeFrom, run_bind, run_getLog, run_current, run_store, Pool.start, after]
  -- closing the claim, when the loop stopped or drained, leaves the log alone
  split
  · split <;> rfl
  · rfl

end Runs

section Beside

variable (L : MemoryLog) {Sm S : Pool}

/-- **Completing a message beside a log** and in a pool with one dispatcher: the dispatchers stay
one, the claim's ledger stays on its partition, and the commits the pool records are those made
to the log, on that partition. -/
theorem complete_beside (hd : Sm.dispatcher = S.dispatcher) (res : Option Fault) (id : Nat)
    (r : Record) {l : Ledger} (hl : S.ledger? id = some l) :
    let u := ((poolClaims.complete id r res).run L).run Sm
    let v := (((Pool.claims none).complete id r res).run S).2
    u.2.dispatcher = v.dispatcher ∧
      (∀ l', v.ledger? id = some l' → l'.partition = l.partition) ∧
      ∃ xs : List Int, v.seen = S.seen ++ xs.map (.commit id · none) ∧
        u.1.2 = L.commitAll l.partition.toNat xs := by
  intro u v
  -- completing is finishing once the token is back, in both worlds
  rw [show u = _ from run_complete L Sm id r res, show v = _ from Pool.run_complete none S id r res]
  have hsm : Sm.ledger? id = some l := by rw [Pool.ledger?, hd]; exact hl
  have hlm := (Pool.ledger?_setLimiter Sm (Sm.dispatcher.limiter.give 1) id).trans hsm
  have hls := (Pool.ledger?_setLimiter S (S.dispatcher.limiter.give 1) id).trans hl
  cases res with
  | none =>
    have hu := (run_finish_none L (Sm.setLimiter (Sm.dispatcher.limiter.give 1)) id r).trans
      (run_resolve L _ id r.offset hlm)
    have hv := Pool.run_finish_none none (S.setLimiter (S.dispatcher.limiter.give 1)) id r
    rw [Pool.run_resolve none _ id r.offset hls] at hv
    simp only [Prod.mk.injEq] at hu
    refine ⟨?_, fun l' hl' => ?_, _, ?_, hu.1⟩
    · rw [hu.2, hv]
      simp [Pool.updateLedger, Pool.setLimiter, hd]
    · rw [hv] at hl'
      simp [hls] at hl'
      rw [← hl', Ledger.partition_resolve]
    · rw [hv]
      rfl
  | some f =>
    have hu := run_finish_some L (Sm.setLimiter (Sm.dispatcher.limiter.give 1)) id r f
    have hv := Pool.run_finish_some none (S.setLimiter (S.dispatcher.limiter.give 1)) id r f
    simp only [Prod.mk.injEq] at hu
    refine ⟨?_, fun l' hl' => ?_, [], ?_, hu.1⟩
    · rw [hu.2, hv]
      split <;> simp [Pool.updateLedger, Pool.setLimiter, hd]
    · rw [hv] at hl'
      split at hl'
      · rw [hls] at hl'
        cases hl'
        rfl
      · simp [hls] at hl'
        rw [← hl', Ledger.partition_halted]
    · rw [hv]
      split <;> simp

/-- **Dispatching a message beside a log** does what dispatching it in a pool with the same
dispatcher does: one outcome, one dispatcher, the claim's ledger kept on its partition, and the
commits the pool records made to the log instead, on that partition. -/
theorem dispatch_beside (hd : Sm.dispatcher = S.dispatcher) (res : Record → Option Fault)
    (id : Nat) (r : Record) (s : Option Fault) {l : Ledger} (hl : S.ledger? id = some l) :
    let u := ((poolClaims.dispatch (fun r => pure (res r)) id r s).run L).run Sm
    let v := ((Pool.claims none).dispatch (fun r => pure (res r)) id r s).run S
    u.1.1 = v.1 ∧ u.2.dispatcher = v.2.dispatcher ∧
      (∀ l', v.2.ledger? id = some l' → l'.partition = l.partition) ∧
      ∃ xs : List Int, v.2.seen = S.seen ++ xs.map (.commit id · none) ∧
        u.1.2 = L.commitAll l.partition.toNat xs := by
  intro u v
  have hsm : Sm.ledger? id = some l := by rw [Pool.ledger?, hd]; exact hl
  have hu := run_dispatch L Sm res id r s hsm
  have hv := Pool.run_dispatch none res S id r s hl
  change u = _ at hu
  change v = _ at hv
  rcases ht : l.track r.offset s with ⟨o, l'⟩
  -- tracking leaves the ledger on its partition, whatever it answers
  have hp : ∀ l'', (S.updateLedger id fun _ => l').ledger? id = some l'' →
      l''.partition = l.partition := by
    intro l'' h
    simp only [Pool.ledger?_updateLedger, hl, if_true, Option.map_some, Option.some.injEq] at h
    rw [← h, ← l.partition_track r.offset s, ht]
  have hdl : (Sm.updateLedger id fun _ => l').dispatcher =
      (S.updateLedger id fun _ => l').dispatcher := by
    simp [Pool.updateLedger, hd]
  rw [ht] at hu hv
  rcases o with _ | f | _ <;> dsimp only at hu hv
  · rw [hdl] at hu
    rcases hk : (S.updateLedger id fun _ => l').dispatcher.limiter.take s with
      ⟨_ | f | _, lim⟩ <;>
      rw [hk] at hu hv <;> dsimp only at hu hv <;> rw [hu, hv]
    · -- with the token the handler runs, and its message completes in both worlds
      have hd' : ((Sm.updateLedger id fun _ => l').setLimiter lim).dispatcher =
          ((S.updateLedger id fun _ => l').setLimiter lim).dispatcher := by
        simp [Pool.setLimiter, hdl]
      have hl' : ((S.updateLedger id fun _ => l').setLimiter lim).ledger? id = some l' := by
        simp [hl]
      have hpl : l'.partition = l.partition := hp l' (by simp [hl])
      obtain ⟨hdisp, hpart, xs, hseen, hlog⟩ := complete_beside L hd' (res r) id r hl'
      exact ⟨rfl, hdisp, fun l'' h => (hpart l'' h).trans hpl, xs, by simpa using hseen,
        by rw [hlog, hpl]⟩
    · exact ⟨rfl, by simp [Pool.setLimiter, hdl], hp, [], by simp, rfl⟩
    · exact ⟨rfl, by simp [Pool.setLimiter, hdl], hp, [], by simp, rfl⟩
  · rw [hu, hv]
    exact ⟨rfl, hdl, hp, [], by simp, rfl⟩
  · rw [hu, hv]
    exact ⟨rfl, hdl, hp, [], by simp, rfl⟩

end Beside

/-! ### The loop beside a fed run -/

/-- **A memory run beside a fed run's pool**: the memory run's pool has the fed pool's
dispatcher, its log is `log0` with the claim's commits in the fed pool made to partition `p`,
and the claim's ledger is on that partition. -/
structure Beside (log0 : MemoryLog) (p id : Nat) (L : MemoryLog) (S P : Pool) : Prop where
  dispatcher : S.dispatcher = P.dispatcher
  commits : L = log0.commitAll p (Pool.commitsOf id P.seen)
  partition : ∀ l, P.ledger? id = some l → l.partition = p

section Fed

variable {log0 L : MemoryLog} {p id : Nat} {Sm : Pool} {F : Pool.Fed}

/-- **One message of the loop is a fed schedule.** Beside a fed run whose claim's source is to
dispatch `r` next and waits with nothing, dispatching `r` beside the log, after telling the
ledger the high-water mark, stays beside the fed run after at most three of its steps
(`Pool.dispatch_fed`); when it ended well the source has moved on, and every handler that
finished in those steps answered as `res` does. -/
theorem Beside.dispatch_fed (hb : Beside log0 p id L Sm F.pool) (res : Record → Option Fault)
    {r : Record} {rest : List Record} {l : Ledger}
    (hsrc : F.sources id = some (.feeding (r :: rest))) (hwait : F.pool.waitingOf id = none)
    (hl : F.pool.ledger? id = some l) (hw : Int)
    (s : Option Fault) :
    let u := ((poolClaims.dispatch (fun r => pure (res r)) id r s).run L).run
      (Sm.updateLedger id (·.observeHighWater hw))
    ∃ sch : List Pool.Fed.Step, Beside log0 p id u.1.2 u.2 (F.run sch).pool ∧
      (u.1.1 = .done none →
        (F.run sch).sources id = some (.feeding rest) ∧ (F.run sch).pool.waitingOf id = none) ∧
      ∃ new, (F.run sch).pool.seen = F.pool.seen ++ new ∧
        ∀ m x, .finished id m x ∈ new → x = res m := by
  intro u
  -- the pool's own dispatch from the fed pool is a schedule of the fed run
  obtain ⟨sch, hag, hdone, new, hseen, hfin⟩ :=
    Pool.dispatch_fed none res (⟨rfl, rfl⟩ : Pool.Agrees F.pool F.pool) hsrc hwait hl hw s
  -- and the dispatch beside the log does what the pool's does
  have hl1 : (F.pool.updateLedger id (·.observeHighWater hw)).ledger? id =
      some (l.observeHighWater hw) := by
    simp [hl]
  have hd1 : (Sm.updateLedger id (·.observeHighWater hw)).dispatcher =
      (F.pool.updateLedger id (·.observeHighWater hw)).dispatcher := by
    simp [Pool.updateLedger, hb.dispatcher]
  obtain ⟨hout, hdisp, hpart, xs, hxs, hlog⟩ := dispatch_beside L hd1 res id r s hl1
  have hpl : (l.observeHighWater hw).partition = p := by
    rw [Ledger.partition_observeHighWater]
    exact hb.partition l hl
  refine ⟨sch, ⟨hdisp.trans hag.dispatcher, ?_, fun l' h => ?_⟩, fun h => hdone (hout ▸ h),
    new, hseen, hfin⟩
  · rw [hlog, hpl, Int.toNat_natCast, hb.commits, ← commitAll_append, ← hag.commitsOf, hxs]
    simp
  · rw [← hag.ledger?] at h
    exact (hpart l' h).trans hpl

/-- **The loop is a fed schedule.** Beside a fed run whose claim's source is to dispatch `msgs`
and waits with nothing, the memory source's loop over `msgs` stays beside some schedule of the
fed run, every handler that finished in it answering as the loop's handler does. The
induction is on the messages, each turn one `Beside.dispatch_fed`. -/
theorem dispatchAll_fed (s : Option Fault) (res : Record → Option Fault) {c0 : Int}
    (msgs : List Record) (next : Int) {l : Ledger} (hb : Beside log0 p id L Sm F.pool)
    (hsrc : F.sources id = some (.feeding msgs)) (hwait : F.pool.waitingOf id = none)
    (hc : Pool.ClaimSound id c0 F.pool l) :
    let out :=
      ((dispatchAll poolClaims (pure s) (fun r => pure (res r)) p id msgs next).run L).run Sm
    ∃ sch : List Pool.Fed.Step, Beside log0 p id out.1.2 out.2 (F.run sch).pool ∧
      ∃ new, (F.run sch).pool.seen = F.pool.seen ++ new ∧
        ∀ m x, .finished id m x ∈ new → x = res m := by
  induction msgs generalizing next L Sm F l with
  | nil => exact ⟨[], hb, [], by simp [Pool.Fed.run], by simp⟩
  | cons m rest ih =>
    dsimp only
    have hout := run_dispatchAll_cons L Sm s res p id m rest next
    dsimp only at hout
    obtain ⟨sch, hb', hdone, new, hseen, hfin⟩ :=
      hb.dispatch_fed res hsrc hwait hc.ledger (L.highWater p) s
    split at hout
    · -- the message was handled: the loop goes on with the rest, from where the schedule left
      next hu =>
      obtain ⟨hsrc', hwait'⟩ := hdone hu
      obtain ⟨l', hc'⟩ := hc.moves (F.moves_run sch)
      obtain ⟨sch', hb'', new', hseen', hfin'⟩ := ih (next + 1) hb' hsrc' hwait' hc'
      obtain ⟨hlog, hpool⟩ := Prod.mk.inj hout
      refine ⟨sch ++ sch', ?_, new ++ new', ?_, ?_⟩
      · rw [hlog, hpool, Pool.Fed.run_append]
        exact hb''
      · rw [Pool.Fed.run_append, hseen', hseen, List.append_assoc]
      · intro m x hm
        rcases List.mem_append.mp hm with hm | hm
        exacts [hfin m x hm, hfin' m x hm]
    · obtain ⟨hlog, hpool⟩ := Prod.mk.inj hout
      exact ⟨sch, hlog ▸ hpool ▸ hb', new, hseen, hfin⟩

end Fed

/-! ### Consuming a partition -/

/-- **Consuming is a fed run.** The memory source consuming partition `p` of a log beside a pool,
each handler answering at once with `res`, leaves the log as some schedule of the partition's
fed run (`MemoryLog.feed`) leaves it: with that run's commits made to `p`; and every handler
that finished in the schedule answered as `res` does. -/
theorem consume_fed (s : Option Fault) (res : Record → Option Fault) (drain : Bool) (p : Nat)
    (L : MemoryLog) (Sm : Pool) :
    let first := L.feed Sm.dispatcher p
    let out := ((consume poolClaims (pure s) (fun r => pure (res r)) drain p).run L).run Sm
    ∃ sch : List Pool.Fed.Step,
      out.1.2 = L.commitAll p (Pool.commitsOf first.1 (first.2.run sch).pool.seen) ∧
      ∀ m x, .finished first.1 m x ∈ (first.2.run sch).pool.seen → x = res m := by
  intro first out
  have hc : Pool.ClaimSound first.1 (L.committedAt p) first.2.pool _ :=
    Pool.claimSound_start Sm.dispatcher L.topic p (L.committedAt p)
  -- the claim just opened: its ledger is on `p`, and nothing is committed yet
  have hb : Beside L p first.1 L { Sm with dispatcher := first.2.pool.dispatcher } first.2.pool :=
    ⟨rfl, rfl, fun l hl => by rw [hc.ledger] at hl; cases hl; rfl⟩
  obtain ⟨sch, hb', new, hseen, hfin⟩ := dispatchAll_fed s res (L.after p (L.committedAt p))
    (L.committedAt p + 1) hb (by simp [first, feed, Pool.Fed.begin]) rfl hc
  refine ⟨sch, (run_consume L Sm s res drain p).trans hb'.commits, fun m x hm => hfin m x ?_⟩
  rw [hseen] at hm
  exact hm

/-- **Consuming commits only what it handled.** After the memory source consumed partition `p`
of a well-formed log, each handler answering at once with `res`, every offset above the
partition's committed offset before and up to the one after is the offset of a record of the
partition that was after the committed one, and whose handler succeeded. -/
theorem consume_commits_handled (L : MemoryLog) (hL : L.Wellformed) (Sm : Pool) (p : Nat)
    (drain : Bool) (s : Option Fault) (res : Record → Option Fault) :
    let out := ((consume poolClaims (pure s) (fun r => pure (res r)) drain p).run L).run Sm
    ∀ o, L.committedAt p < o → o ≤ out.1.2.committedAt p →
      ∃ r ∈ L.after p (L.committedAt p), r.offset = o ∧ res r = none := by
  intro out o hlo hhi
  obtain ⟨sch, hlog, hfin⟩ := consume_fed s res drain p L Sm
  rw [show out.1.2 = _ from hlog] at hhi
  obtain ⟨r, hr, hro, hdone⟩ := hL.commits_handled p Sm.dispatcher sch o hlo hhi
  exact ⟨r, hr, hro, (hfin r none hdone).symm⟩

end MemoryLog

end Conveyor
