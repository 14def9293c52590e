import Conveyor.Proofs.Dispatch.Feed
/-!
# Dispatching at once

A source of the program calls `Claims.dispatch` for each message: it tracks the message, takes a
worker token, and runs the handler to its end before it goes on. That is one schedule of a fed
pool (`Pool.dispatch_fed`): the source's `next` and `take` steps, then the handler's return.

Run at once, the dispatcher's parts leave only the commits among the events, where the fed run
also shows what was tracked, dispatched and finished; `Pool.Agrees` relates the two pools: the
same dispatcher and the same commits. `run_dispatch` says once what dispatching at once does,
`Agrees.finish` that finishing a message does the same to pools with one dispatcher, and
`complete_fed` that a handler's return is its message completed at once.
-/

namespace Conveyor.Pool

/-! ### Pools with one dispatcher -/

/-- Whether an event is a commit. -/
def Seen.isCommit : Seen → Bool
  | .commit .. => true
  | _ => false

/-- A pool that dispatching at once left agrees with a fed run's pool: the same dispatcher, and
the same commits in the same order. -/
structure Agrees (S P : Pool) : Prop where
  dispatcher : S.dispatcher = P.dispatcher
  commits : S.seen.filter Seen.isCommit = P.seen.filter Seen.isCommit

/-- A claim's commits are read off the commits among the events. -/
theorem commitsOf_filter_isCommit (id : Nat) (seen : List Seen) :
    commitsOf id (seen.filter Seen.isCommit) = commitsOf id seen := by
  induction seen with
  | nil => rfl
  | cons e seen ih =>
    rw [← List.singleton_append, List.filter_append, commitsOf_append, commitsOf_append, ih]
    cases e <;> rfl

section Agrees

variable {S P : Pool}

theorem Agrees.ledger? (h : Agrees S P) (id : Nat) : S.ledger? id = P.ledger? id := by
  simp only [Pool.ledger?, h.dispatcher]

theorem Agrees.commitsOf (h : Agrees S P) (id : Nat) : commitsOf id S.seen = commitsOf id P.seen := by
  rw [← commitsOf_filter_isCommit, h.commits, commitsOf_filter_isCommit]

theorem Agrees.updateLedger (h : Agrees S P) (id : Nat) (f : Ledger → Ledger) :
    Agrees (S.updateLedger id f) (P.updateLedger id f) :=
  ⟨by simp only [Pool.updateLedger, h.dispatcher], h.commits⟩

theorem Agrees.setLimiter (h : Agrees S P) (lim : Limiter) :
    Agrees (S.setLimiter lim) (P.setLimiter lim) :=
  ⟨by simp only [Pool.setLimiter, h.dispatcher], h.commits⟩

/-- Events other than commits, seen by the fed run only, keep the pools agreeing. -/
theorem Agrees.append (h : Agrees S P) {P' : Pool} (hd : P'.dispatcher = P.dispatcher)
    {new : List Seen} (hseen : P'.seen = P.seen ++ new) (hnew : new.filter Seen.isCommit = []) :
    Agrees S P' :=
  ⟨h.dispatcher.trans hd.symm, by rw [hseen, List.filter_append, hnew, List.append_nil, h.commits]⟩

/-- **Finishing a message** does the same to two pools with one dispatcher: they agree after it,
and it adds only its commits to what each has seen and leaves the waiting records alone. -/
theorem Agrees.finish (h : Agrees S P) (a : Option Fault) (id : Nat) (r : Record)
    (res : Option Fault) :
    Agrees (((claims a).finish id r res).run S).2 (((claims a).finish id r res).run P).2 ∧
      (∃ xs : List Int,
        (((claims a).finish id r res).run P).2.seen = P.seen ++ xs.map (.commit id · a)) ∧
      (((claims a).finish id r res).run P).2.waiting = P.waiting := by
  cases res with
  | none =>
    rw [run_finish_none, run_finish_none]
    rcases hl : P.ledger? id with _ | l
    · rw [run_resolve_of_none _ _ _ _ hl, run_resolve_of_none _ _ _ _ ((h.ledger? id).trans hl)]
      exact ⟨h, ⟨[], by simp⟩, rfl⟩
    · rw [run_resolve _ _ _ _ hl, run_resolve _ _ _ _ ((h.ledger? id).trans hl)]
      refine ⟨⟨(h.updateLedger id _).dispatcher, ?_⟩, ⟨_, rfl⟩, rfl⟩
      simp only [List.filter_append, h.commits]
  | some f =>
    rw [run_finish_some, run_finish_some]
    by_cases hf : f.isa .abandoned
    · rw [if_pos hf, if_pos hf]
      exact ⟨h, ⟨[], by simp⟩, rfl⟩
    · rw [if_neg hf, if_neg hf]
      exact ⟨h.updateLedger id _, ⟨[], by simp⟩, rfl⟩

/-- A handler's return, seen by the fed run only, is the token given back. -/
theorem Agrees.handlerReturned (h : Agrees S P) (i id : Nat) (r : Record) (res : Option Fault) :
    Agrees (S.setLimiter (S.dispatcher.limiter.give 1)) (P.handlerReturned i id r res) :=
  ⟨by simp only [Pool.handlerReturned, Pool.setLimiter, h.dispatcher],
    by simp [List.filter_append, h.commits, Seen.isCommit]⟩

end Agrees

/-! ### Dispatching at once -/

/-- **Dispatching at once** through a claim with a ledger, with the handler answering `res`:
tracking decides, then the token, and with both the handler runs and the message finishes. -/
theorem run_dispatch (a : Option Fault) (res : Record → Option Fault) (S : Pool) (id : Nat)
    (r : Record) (s : Option Fault) {l : Ledger} (hl : S.ledger? id = some l) :
    ((claims a).dispatch (fun r => pure (res r)) id r s).run S =
      match l.track r.offset s with
      | (.tracked, l') =>
        match (S.updateLedger id fun _ => l').dispatcher.limiter.take s with
        | (.taken, lim) => (.done none,
            (((claims a).complete id r (res r)).run ((S.updateLedger id fun _ => l').setLimiter lim)).2)
        | (.refused f, lim) => (.done (some f), (S.updateLedger id fun _ => l').setLimiter lim)
        | (.empty, lim) => (.blocked, (S.updateLedger id fun _ => l').setLimiter lim)
      | (.refused f, l') => (.done (some f), S.updateLedger id fun _ => l')
      | (.full, l') => (.blocked, S.updateLedger id fun _ => l') := by
  -- the world's monad is `Id` underneath, whose binding is application
  have hbind : ∀ {α β : Type} (x : Id α) (f : α → Id β), x >>= f = f x := fun _ _ => rfl
  have htrack := run_track a S id r s hl
  rcases ht : l.track r.offset s with ⟨_ | f | _, l'⟩ <;>
    simp only [Claims.dispatch, StateT.run_bind, htrack, ht, hbind]
  · have hacq := run_acquire a (S.updateLedger id fun _ => l') s
    rcases hk : (S.updateLedger id fun _ => l').dispatcher.limiter.take s with ⟨_ | f | _, lim⟩ <;>
      simp only [hacq, hk, pure_bind, StateT.run_bind, StateT.run_pure, hbind] <;> rfl
  all_goals rfl

/-- Changing a ledger to what it is changes nothing. -/
theorem updateLedger_self {w : Pool} {id : Nat} {l : Ledger} (hl : w.ledger? id = some l) :
    (w.updateLedger id fun _ => l) = w := by
  have hledgers : w.dispatcher.coordinator.ledgers.modify id (fun _ => l) =
      w.dispatcher.coordinator.ledgers := by
    apply Array.ext_getElem?
    intro i
    simp only [Array.getElem?_modify]
    split
    · next hi =>
      subst hi
      have hget : w.dispatcher.coordinator.ledgers[id]? = some l := hl
      rw [hget]
      rfl
    · rfl
  simp only [updateLedger, Coordinator.update, hledgers]

/-- An empty limiter stays as it was. -/
theorem take_empty {lim lim' : Limiter} {s : Option Fault} (h : lim.take s = (.empty, lim')) :
    lim' = lim := by
  unfold Limiter.take at h
  split at h
  · simp at h
  · split at h
    · simp at h
    · split at h <;> simp_all

/-- A full ledger stays as it was. -/
theorem track_full {l l' : Ledger} {o : Int} {s : Option Fault} (h : l.track o s = (.full, l')) :
    l' = l := by
  rcases Ledger.track_cases l o s with ⟨-, -, ht⟩ | ⟨f, ht | ht⟩ | ht <;> rw [ht] at h <;>
    simp_all

section Inline

variable {id : Nat} {r : Record} {rest : List Record} {l : Ledger}

/-- A source's next message, told the high-water mark, is tracked, refused, or waits. -/
theorem Fed.step_next {f : Fed} (hsrc : f.sources id = some (.feeding (r :: rest)))
    (hwait : f.pool.waitingOf id = none) (hl : f.pool.ledger? id = some l) (hw : Int)
    (s : Option Fault) :
    f.step (.next id hw s) =
      match (l.observeHighWater hw).track r.offset s with
      | (.tracked, l') => f.moveTo { f.pool.updateLedger id (fun _ => l') with
          waiting := f.pool.waiting ++ [(id, r)], seen := f.pool.seen ++ [.tracked id r] }
          id (.feeding rest)
      | (.refused e, l') => f.moveTo { f.pool.updateLedger id (fun _ => l') with
          seen := f.pool.seen ++ [.dispatched id r (some e)] } id .stopped
      | (.full, _) => { f with pool := f.pool.updateLedger id (·.observeHighWater hw) } := by
  have hwait' : (f.pool.updateLedger id (·.observeHighWater hw)).waitingOf id = none := by
    simpa [waitingOf] using hwait
  have hl' : (f.pool.updateLedger id (·.observeHighWater hw)).ledger? id =
      some (l.observeHighWater hw) := by
    simp [hl]
  simp only [Fed.step, hsrc, hwait, hl, step_track hwait' hl']
  rcases (l.observeHighWater hw).track r.offset s with ⟨_ | e | _, l'⟩ <;>
    simp [Pool.updateLedger, Function.comp_def]

/-- A source takes a token for the message it tracked, is refused one, or waits. -/
theorem Fed.step_take {f : Fed} (hsrc : f.sources id = some (.feeding rest))
    (hwait : f.pool.waitingOf id = some r) (s : Option Fault) :
    f.step (.take id s) =
      match f.pool.dispatcher.limiter.take s with
      | (.taken, lim) => { f with pool := { f.pool.setLimiter lim with
          waiting := f.pool.waiting.filter (·.1 != id), running := f.pool.running ++ [(id, r)],
          seen := f.pool.seen ++ [.dispatched id r none] } }
      | (.refused e, lim) => f.moveTo { f.pool.setLimiter lim with
          waiting := f.pool.waiting.filter (·.1 != id),
          seen := f.pool.seen ++ [.dispatched id r (some e)] } id .stopped
      | (.empty, _) => f := by
  simp only [Fed.step, hsrc, hwait, step_acquire hwait]
  rcases f.pool.dispatcher.limiter.take s with ⟨_ | e | _, lim⟩ <;> rfl

/-- A record tracked by a source that waited with none is the one it waits with. -/
theorem waitingOf_of_append {P Q : Pool} (hw : P.waitingOf id = none)
    (hq : Q.waiting = P.waiting ++ [(id, r)]) : Q.waitingOf id = some r := by
  rw [waitingOf_eq] at hw ⊢
  rw [hq, ofClaim_append, List.head?_eq_none_iff.mp hw]
  simp

/-- Once its records are removed, a source waits with none. -/
theorem waitingOf_of_filter {P Q : Pool} (hq : Q.waiting = P.waiting.filter (·.1 != id)) :
    Q.waitingOf id = none := by
  rw [waitingOf_eq, hq]
  simp

/-- A handler's return in a fed run is its message completed at once: the pools agree after it,
the sources stay, it sees the return and the commits it allows, and the waiting records stay. -/
theorem complete_fed (a res : Option Fault) {S : Pool} (F : Fed) {i : Nat} (hag : Agrees S F.pool)
    (hi : F.pool.running[i]? = some (id, r)) :
    let F' := F.step (.pool (.finish i res a))
    Agrees (((claims a).complete id r res).run S).2 F'.pool ∧ F'.sources = F.sources ∧
      (∃ xs : List Int,
        F'.pool.seen = F.pool.seen ++ .finished id r res :: xs.map (.commit id · a)) ∧
      F'.pool.waiting = F.pool.waiting := by
  have hstep : F.step (.pool (.finish i res a)) =
      { F with pool := (((claims a).finish id r res).run (F.pool.handlerReturned i id r res)).2 } := by
    rw [← step_finish hi]
    rfl
  obtain ⟨hag', ⟨xs, hseen⟩, hwait⟩ := (hag.handlerReturned i id r res).finish a id r res
  dsimp only
  rw [hstep, run_complete]
  exact ⟨hag', rfl, ⟨xs, by simp [hseen]⟩, hwait⟩

/-- **Dispatching at once is a fed schedule.** Take a pool that agrees with a fed run's pool,
where the claim's source is to dispatch `r` next and waits with nothing. Dispatching `r` at once,
after telling the ledger the high-water mark, does what the fed run does in at most three steps:
the source's `next` and `take`, and `r`'s handler returning its result. The two pools agree after
it; when the dispatch ended well, the source has moved on to the rest and waits with nothing; and
the only handler that finished in those steps is `r`'s, with its result. -/
theorem dispatch_fed (a : Option Fault) (res : Record → Option Fault) {S : Pool} {F : Fed}
    (hag : Agrees S F.pool) (hsrc : F.sources id = some (.feeding (r :: rest)))
    (hwait : F.pool.waitingOf id = none) (hl : F.pool.ledger? id = some l) (hw : Int)
    (s : Option Fault) :
    let out := ((claims a).dispatch (fun r => pure (res r)) id r s).run
      (S.updateLedger id (·.observeHighWater hw))
    ∃ sch : List Fed.Step, Agrees out.2 (F.run sch).pool ∧
      (out.1 = .done none →
        (F.run sch).sources id = some (.feeding rest) ∧ (F.run sch).pool.waitingOf id = none) ∧
      ∃ new, (F.run sch).pool.seen = F.pool.seen ++ new ∧
        ∀ m x, .finished id m x ∈ new → x = res m := by
  dsimp only
  have hl1 : (S.updateLedger id (·.observeHighWater hw)).ledger? id =
      some (l.observeHighWater hw) := by
    simp [hag.ledger?, hl]
  have hnext := Fed.step_next hsrc hwait hl hw s
  rw [run_dispatch a res _ id r s hl1]
  rcases ht : (l.observeHighWater hw).track r.offset s with ⟨_ | e | _, l'⟩ <;>
    rw [ht] at hnext <;> dsimp only at hnext ⊢
  · -- the message is tracked, and the source takes a token for it
    set P2 : Pool :=
      { F.pool.updateLedger id (fun _ => l') with
        waiting := F.pool.waiting ++ [(id, r)], seen := F.pool.seen ++ [.tracked id r] }
    set S2 := (S.updateLedger id (·.observeHighWater hw)).updateLedger id fun _ => l'
    have hag2 : Agrees S2 P2 :=
      ⟨by simp [S2, P2, Pool.updateLedger, hag.dispatcher, Function.comp_def],
        by simp [S2, P2, List.filter_append, hag.commits, Seen.isCommit]⟩
    have htake := Fed.step_take (Fed.moveTo_sources_self F P2 id (.feeding rest))
      (waitingOf_of_append hwait rfl) s
    simp only [Fed.moveTo_pool, ← hag2.dispatcher] at htake
    rcases hk : S2.dispatcher.limiter.take s with ⟨_ | e | _, lim⟩ <;>
      rw [hk] at htake <;> dsimp only at htake ⊢
    · -- with the token the handler runs, and returns at once
      set P3 : Pool :=
        { P2.setLimiter lim with
          waiting := P2.waiting.filter (·.1 != id), running := P2.running ++ [(id, r)],
          seen := P2.seen ++ [.dispatched id r none] }
      set F2 : Fed := { pool := P3, sources := (F.moveTo P2 id (.feeding rest)).sources }
      have hag3 : Agrees (S2.setLimiter lim) F2.pool :=
        (hag2.setLimiter lim).append rfl rfl (by simp [Seen.isCommit])
      have hrun : F2.pool.running[P2.running.length]? = some (id, r) := by simp [F2, P3]
      obtain ⟨hag4, hsrc4, ⟨xs, hseen⟩, hwait4⟩ := complete_fed a (res r) F2 hag3 hrun
      have hF : F.run [.next id hw s, .take id s, .pool (.finish P2.running.length (res r) a)] =
          F2.step (.pool (.finish P2.running.length (res r) a)) := by
        simp only [Fed.run, List.foldl, hnext, htake]
      have hnew : ∀ m x, Seen.finished id m x ∈
          ([.tracked id r, .dispatched id r none, .finished id r (res r)] : List Seen) ++
            xs.map (.commit id · a) → x = res m := by
        intro m x hm
        simp at hm
        obtain ⟨rfl, rfl⟩ := hm
        rfl
      refine ⟨[.next id hw s, .take id s, .pool (.finish P2.running.length (res r) a)], ?_,
        fun _ => ⟨?_, ?_⟩, _, ?_, hnew⟩
      all_goals rw [hF]
      · exact hag4
      · simp [hsrc4, F2]
      · exact waitingOf_of_filter (hwait4.trans rfl)
      · rw [hseen]
        simp [F2, P3, P2]
    · -- the limiter refuses the token, and the source stops
      refine ⟨[.next id hw s, .take id s], ?_, by simp,
        [.tracked id r, .dispatched id r (some e)], ?_, by simp⟩
      · simp only [Fed.run, List.foldl, hnext, htake, Fed.moveTo_pool]
        exact (hag2.setLimiter lim).append rfl rfl (by simp [Seen.isCommit])
      · simp only [Fed.run, List.foldl, hnext, htake, Fed.moveTo_pool]
        simp [P2]
    · -- the limiter is empty, and the source waits with its message tracked
      have hlim : lim = S2.dispatcher.limiter := take_empty hk
      subst hlim
      refine ⟨[.next id hw s], ?_, by simp, [.tracked id r], by simp [Fed.run, hnext, P2], by simp⟩
      simp only [Fed.run, List.foldl, hnext, Fed.moveTo_pool]
      exact hag2
  · -- the ledger refuses the message, and the source stops
    refine ⟨[.next id hw s], ?_, by simp, [.dispatched id r (some e)], ?_, by simp⟩
    · simp only [Fed.run, List.foldl, hnext, Fed.moveTo_pool]
      exact ⟨by simp [Pool.updateLedger, hag.dispatcher, Function.comp_def],
        by simp [List.filter_append, hag.commits, Seen.isCommit]⟩
    · simp [Fed.run, hnext]
  · -- the ledger is full, and the source waits
    have hfull : l' = l.observeHighWater hw := track_full ht
    subst hfull
    refine ⟨[.next id hw s], ?_, by simp, [], by simp [Fed.run, hnext], by simp⟩
    simp only [Fed.run, List.foldl, hnext, updateLedger_self hl1]
    exact hag.updateLedger id _

end Inline

end Conveyor.Pool
