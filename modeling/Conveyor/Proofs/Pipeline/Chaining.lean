import Conveyor.Proofs.Pipeline.Counters
import Conveyor.Proofs.Pipeline.Letters
import Mathlib.Data.List.Chain
/-!
# Stages hand on the message, attempt by attempt

Handling a message runs its stages in order. Each stage runs its attempts under the retry
engine; every attempt gives the processor the record the attempt before it left, stamped with
its own number, and a stage that ends with a value hands the record on, with that value, to
the next stage. The dead letter of a message lists every attempt, and then the sink's.

The engine numbers its attempts one, two, and so on (`run_numbers`): a turn makes at most one
attempt, numbered next, and lists it last in its report (`Goes.numbers_done`,
`Goes.numbers_next`); a property of the state indexed by the attempts made, which the world's
calls keep and each attempt advances, follows the count call by call (`Act.Answered.tallies`)
and turn by turn (`Ran.numbers`). Three properties of this kind carry the proof: the
processor calls of a stage so far are its attempts (`Holding`, advanced by
`holding_attemptStage`), and the calls of the sink and of the dead-letter writer each answer
one attempt (`run_answers`). Over the stages,
`StagesRan` collects what they made (`makes_runStages_chain`, by induction on the stages left);
routing carries the terminal on (`makes_route_routed`); and `handle_chains_stages` reads the
whole of handling off its calls (`Chained`).
-/

namespace Conveyor

namespace Retry

/-- The attempts of a report are numbered one, two, and so on. -/
def Report.Numbered (rep : Report) : Prop :=
  rep.attempts.map (·.number) = List.range' 1 rep.attempts.length

end Retry

namespace Pipeline

open Retry Recording

namespace Recording

variable {n : Type → Type} [Monad n] {R : Recording n}

theorem Triple.ite {α : Type} {c : Prop} [Decidable c] {P : R.State → Prop} {x y : n α}
    {Q : α → R.State → Prop} (hx : c → R.Triple P x Q) (hy : ¬ c → R.Triple P y Q) :
    R.Triple P (if c then x else y) Q := by
  by_cases h : c
  · rw [if_pos h]
    exact hx h
  · rw [if_neg h]
    exact hy h

/-- A call that keeps a property, then what follows from a state it holds of. -/
theorem Triple.keeps {α β : Type} {P : R.State → Prop} {x : n α} {f : α → n β}
    {Q : β → R.State → Prop} (hx : R.Keeps P x) (hf : ∀ a, R.Triple P (f a) Q) :
    R.Triple P (x >>= f) Q := by
  intro s hs
  rw [R.exec_bind]
  exact hf _ _ (hx s hs)

/-- Reading the state on top, and going on from the state read. -/
theorem Triple.get_bind {ρ β : Type} {P : (R.lift ρ).State → Prop} {f : ρ → StateT ρ n β}
    {Q : β → (R.lift ρ).State → Prop}
    (hf : ∀ p, P p → (R.lift ρ).Triple (· = p) (f p.1) Q) :
    (R.lift ρ).Triple P (MonadState.get >>= f) Q := by
  intro p hp
  rw [(R.lift ρ).exec_bind]
  have hget : (R.lift ρ).exec (MonadState.get : StateT ρ n ρ) p = (p.1, p) := by
    simp only [Recording.lift, StateT.run_get, R.exec_pure]
    rfl
  rw [hget]
  exact hf p hp p rfl

/-- Setting the state on top and answering. -/
theorem Triple.set_pure {ρ α : Type} {P : (R.lift ρ).State → Prop}
    {Q : α → (R.lift ρ).State → Prop}
    (t : ρ) (a : α) (h : ∀ p : (R.lift ρ).State, P p → Q a (t, p.2)) :
    (R.lift ρ).Triple P ((set t : StateT ρ n PUnit) >>= fun _ => Pure.pure a) Q := by
  intro p hp
  rw [(R.lift ρ).exec_bind, (R.lift ρ).exec_pure]
  have hset : (R.lift ρ).exec (set t : StateT ρ n PUnit) p = (PUnit.unit, (t, p.2)) := by
    simp [Recording.lift, StateT.run_set, R.exec_pure]
  rw [hset]
  exact h p hp

/-- A program of the monad below leaves the state on top, and adds its calls to the tape. -/
theorem Triple.lift_makes {ρ α : Type} {P : (R.lift ρ).State → Prop} {x : n α}
    {Q : α → List Call → Prop} (hx : R.Makes x Q) :
    (R.lift ρ).Triple P (monadLift x) fun a p' =>
      ∃ p, P p ∧ p'.1 = p.1 ∧
        ∃ new, (R.lift ρ).calls p' = (R.lift ρ).calls p ++ new ∧ Q a new := by
  intro p hp
  obtain ⟨new, hc, hq⟩ := hx p.2
  have he : (R.lift ρ).exec (monadLift x) p = ((R.exec x p.2).1, (p.1, (R.exec x p.2).2)) :=
    exec_lift x p
  rw [he]
  exact ⟨p, hp, rfl, new, hc, hq⟩

theorem Triple.mono {α : Type} {P : R.State → Prop} {x : n α} {Q Q' : α → R.State → Prop}
    (h : R.Triple P x Q) (hq : ∀ a s, Q a s → Q' a s) : R.Triple P x Q' :=
  fun s hs => hq _ _ (h s hs)

/-- Running the state on top from a fixed value, for a program that, from every tape `pre`
under a precondition that the value meets, ends having added to `pre` calls `Q` accepts. -/
theorem Makes.run_triple {ρ α : Type} {x : StateT ρ n α} {r : ρ}
    {At : List Call → (R.lift ρ).State → Prop} {Q : α × ρ → List Call → Prop}
    (h : ∀ pre, (R.lift ρ).Triple (At pre) x
      fun a p => ∃ new, (R.lift ρ).calls p = pre ++ new ∧ Q (a, p.1) new)
    (h0 : ∀ s, At (R.calls s) (r, s)) : R.Makes (x.run r) Q :=
  fun s => h (R.calls s) (r, s) (h0 s)

/-- A spec read from a given state: every state the program ends in after the calls it makes from
there. -/
theorem Triple.of_makes {α : Type} {x : n α} {p : R.State} {Q : α → R.State → Prop}
    (h : R.Makes x fun a new => ∀ s, R.calls s = R.calls p ++ new → Q a s) :
    R.Triple (· = p) x Q := by
  intro s hs
  subst hs
  obtain ⟨new, hc, hq⟩ := h s
  exact hq _ hc

/-- Two specs of one program hold together, of the same calls. -/
theorem Makes.and {α : Type} {x : n α} {P Q : α → List Call → Prop} (hp : R.Makes x P)
    (hq : R.Makes x Q) : R.Makes x fun a new => P a new ∧ Q a new := by
  intro s
  obtain ⟨new, hc, hpa⟩ := hp s
  obtain ⟨new', hc', hqa⟩ := hq s
  rw [hc] at hc'
  obtain rfl := List.append_cancel_left hc'
  exact ⟨new, hc, hpa, hqa⟩

end Recording

/-! ### Attempts numbered from one -/

/-- A report numbered from one with one more attempt, numbered next, is numbered from one. -/
theorem Report.numbered_append {rep : Report} (h : rep.Numbered) (a : Attempt)
    (ha : a.number = rep.attempts.length + 1) :
    Report.Numbered { rep with attempts := rep.attempts ++ [a] } := by
  unfold Report.Numbered at h ⊢
  rw [List.map_append, h, List.length_append, List.length_singleton, List.range'_concat,
    List.map_singleton, ha, Nat.one_mul, Nat.add_comm 1]

end Pipeline

/-! ### What a turn does to the count of attempts -/

namespace Retry

open Pipeline Recording

/-- The count of attempts made after the call `a`, from `j` before it: the same after every call
but an attempt, and the attempt's number after the attempt numbered next; an attempt out of turn
has no count. -/
def Act.tally (j : Nat) : Act → Option Nat
  | .attempt k _ => if k = j + 1 then some k else none
  | _ => some j

theorem tally_backoff (c : Config) (r : Float) (t : Int) (j : Nat) :
    (backoff c r t).foldlM Act.tally j = some j := by
  unfold backoff
  split <;> rfl

section Numbers

variable {c : Config} {classify : Fault → Bool} {deadline : Option Int} {made : Nat}
  {last : Option Fault} {rep : Report} {acts : List Act}

/-- The report after one more attempt, numbered next, lists it last. -/
theorem Report.tried_numbered (hnum : rep.Numbered) (hlen : rep.attempts.length = made)
    (err : Option Fault) (start stop : Int) :
    (rep.tried (made + 1) err start stop).Numbered ∧
      (rep.tried (made + 1) err start stop).attempts.length = made + 1 :=
  ⟨Report.numbered_append hnum _ (by rw [hlen]), by simp [Report.tried, hlen]⟩

/-- **A turn that ends the run** counts the attempt it made, if any, and its report lists
every attempt, numbered from one. -/
theorem Goes.numbers_done {rep' : Report}
    (hg : Goes c classify deadline made last rep acts (.done rep'))
    (hnum : rep.Numbered) (hlen : rep.attempts.length = made) :
    acts.foldlM Act.tally made = some rep'.attempts.length ∧ rep'.Numbered := by
  have htried := Report.tried_numbered hnum hlen
  cases hg with
  | stopped e => exact ⟨by simp [Act.tally, hlen], hnum⟩
  | expired t d hd ht => exact ⟨by simp [opening, Act.tally, hlen], hnum⟩
  | refusedLate t tk rej cd t' ht hfit =>
    exact ⟨by simp [opening, refusal, Act.tally, hlen], hnum⟩
  | refusedCut t tk rej cd t' e ht hfit =>
    exact ⟨by simp [opening, refusal, Act.tally, hlen], hnum⟩
  | succeeded t tk start stop ht =>
    exact ⟨by simp [opening, trial, Act.tally, (htried none start stop).2], (htried _ _ _).1⟩
  | released t tk start f stop ht hcl =>
    exact ⟨by simp [opening, trial, Act.tally, (htried (some f) start stop).2],
      (htried _ _ _).1⟩
  | exhausted t tk start f stop ht hcl hex =>
    exact ⟨by simp [opening, trial, Act.tally, (htried (some f) start stop).2],
      (htried _ _ _).1⟩
  | backoffLate t tk start f stop r t' ht hcl hex hr hfit =>
    exact ⟨by simp [opening, trial, Act.tally, tally_backoff, (htried (some f) start stop).2],
      (htried _ _ _).1⟩
  | backoffCut t tk start f stop r t' e ht hcl hex hr hfit =>
    exact ⟨by simp [opening, trial, waiting, Act.tally, List.foldlM_append, tally_backoff,
      (htried (some f) start stop).2], (htried _ _ _).1⟩

/-- **A turn that hands over** counts the attempt it made, if any, and hands on a report that
lists every attempt, numbered from one. -/
theorem Goes.numbers_next {made' : Nat} {last' : Option Fault} {rep' : Report}
    (hg : Goes c classify deadline made last rep acts (.next made' last' rep'))
    (hnum : rep.Numbered) (hlen : rep.attempts.length = made) :
    acts.foldlM Act.tally made = some made' ∧ rep'.Numbered ∧ rep'.attempts.length = made' := by
  cases hg with
  | refusedWaited t tk rej cd t' ht hfit =>
    exact ⟨by simp [opening, refusal, Act.tally], hnum, hlen⟩
  | backedOff t tk start f stop r t' ht hcl hex hr hfit =>
    exact ⟨by simp [opening, trial, waiting, Act.tally, List.foldlM_append, tally_backoff],
      Report.tried_numbered hnum hlen _ _ _⟩

end Numbers

section Tallies

variable {n : Type → Type} [Monad n] {R : Recording n} {env : Env n} {g : Guard n}
  {attempt : Nat → Option Int → n (Option Fault)} {deadline : Option Int}
  {At : Nat → R.State → Prop}

/-- **What one call does to a property indexed by the attempts made**: a call of a world and a
guard that keep every `At j` keeps it, and the attempt numbered `j + 1` takes `At j` to
`At (j + 1)`. -/
theorem Act.Answered.tallies (h : ∀ k, KeepsEngine R (At k) env g)
    (ha : ∀ k d, R.Triple (At k) (attempt (k + 1) d) fun _ => At (k + 1)) {a : Act}
    {s s' : R.State} {j j' : Nat} (hA : a.Answered R.toReading env g attempt deadline s s')
    (hj : a.tally j = some j') (hs : At j s) : At j' s' := by
  cases a with
  | attempt k e =>
    simp only [Act.tally] at hj
    split at hj
    · rename_i hk
      cases hj
      subst hk
      have hstep := ha j deadline s hs
      rw [show R.exec (attempt (j + 1) deadline) s = (e, s') from hA] at hstep
      exact hstep
    · cases hj
  | now t => cases hj; exact (h j).now.answered hA hs
  | shutdown x => cases hj; exact (h j).shutdown.answered hA hs
  | sleep w x => cases hj; exact ((h j).sleep w).answered hA hs
  | draw r => cases hj; exact (h j).draw.answered hA hs
  | observe e => cases hj; exact ((h j).observe e).answered hA hs
  | permit t ok => cases hj; exact (h j).permit.answered hA hs
  | succeeded t => cases hj; exact ((h j).succeeded t).answered hA hs
  | failed t => cases hj; exact ((h j).failed t).answered hA hs
  | released t => cases hj; exact ((h j).released t).answered hA hs
  | cooldown w => cases hj; exact (h j).cooldown.answered hA hs
  | reject r => cases hj; exact (h j).reject.answered hA hs

/-- A chain of calls takes `At j` to `At` of the count after it. -/
theorem Acted.tallies (h : ∀ k, KeepsEngine R (At k) env g)
    (ha : ∀ k d, R.Triple (At k) (attempt (k + 1) d) fun _ => At (k + 1)) {acts : List Act} :
    ∀ {s s' : R.State} {j j' : Nat}, Acted R.toReading env g attempt deadline acts s s' →
      acts.foldlM Act.tally j = some j' → At j s → At j' s' := by
  induction acts with
  | nil =>
    intro s s' j j' hacted hj hs
    rw [← acted_nil.1 hacted]
    cases hj
    exact hs
  | cons a acts ih =>
    intro s s'' j j' hacted hj hs
    obtain ⟨s', hA, hrest⟩ := acted_cons.1 hacted
    obtain ⟨j₁, h₁, hj₁⟩ := Option.bind_eq_some_iff.1 hj
    exact ih hrest hj₁ (hA.tallies h ha h₁ hs)

/-- **What a run of the loop does to the count of attempts**, from a report numbered from one
that lists the `made` attempts made: it ends in `At` of the count, and a run that ends lists
them all, numbered from one. The induction is on the run's turns. -/
theorem Ran.numbers (h : ∀ k, KeepsEngine R (At k) env g)
    (ha : ∀ k d, R.Triple (At k) (attempt (k + 1) d) fun _ => At (k + 1)) {c : Config}
    {classify : Fault → Bool} {fuel made : Nat} {last : Option Fault} {rep : Report}
    {s : R.State} {res : Option Report} {s' : R.State}
    (hr : Ran R.toReading env g attempt deadline c classify fuel made last rep s res s') :
    At made s → rep.Numbered → rep.attempts.length = made →
      ∃ k, At k s' ∧
        ∀ rep', res = some rep' → rep'.Numbered ∧ rep'.attempts.length = k := by
  induction hr with
  | out => exact fun hs _ _ => ⟨_, hs, fun _ hres => by cases hres⟩
  | done hacted hgoes =>
    intro hs hnum hlen
    obtain ⟨hk, hnum'⟩ := hgoes.numbers_done hnum hlen
    refine ⟨_, hacted.tallies h ha hk hs, fun rep' hres => ?_⟩
    cases hres
    exact ⟨hnum', rfl⟩
  | next hacted hgoes _ ih =>
    intro hs hnum hlen
    obtain ⟨hk, hnum', hlen'⟩ := hgoes.numbers_next hnum hlen
    exact ih (hacted.tallies h ha hk hs) hnum' hlen'

end Tallies

end Retry

namespace Pipeline

open Retry Recording

variable {n : Type → Type} [Monad n]

/-- **The engine numbers its attempts from one**: over any world whose calls keep every `At k`,
with attempts that, given the number `k + 1`, take the state from `At k` to `At (k + 1)`, a run
under a policy from a state of `At 0` ends in `At` of the attempts it made, and one that ends
lists them all, numbered from one, for any number of turns. -/
theorem run_numbers {R : Recording n} {env : Env n} {g : Guard n}
    {attempt : Nat → Option Int → n (Option Fault)} (At : Nat → R.State → Prop)
    (h : ∀ k, KeepsEngine R (At k) env g)
    (ha : ∀ k d, R.Triple (At k) (attempt (k + 1) d) fun _ => At (k + 1)) (fuel : Nat)
    (c : Config) (classify : Fault → Bool) :
    R.Triple (At 0) (Retry.run fuel c env g classify attempt) fun res s =>
      ∃ k, At k s ∧ ∀ rep, res = some rep → rep.Numbered ∧ rep.attempts.length = k := by
  intro s hs
  obtain ⟨acts, deadline, s₁, hopen, hacted, hrun⟩ :=
    run_opens R.toReading env g attempt c classify s
  -- how a run opens makes no attempt
  have h₁ : At 0 s₁ := hacted.tallies h ha (by cases hopen <;> rfl) hs
  rw [hrun]
  exact (loop_ran R.toReading env g attempt deadline c.normalize classify fuel 0 none {}
    s₁).numbers h ha h₁ rfl rfl

/-- A world and a guard below that meet the engine's spec keep, with a state on top, every
invariant that survives the tape growing by housekeeping calls, shutdown checks and waits while
the state on top stays. -/
theorem KeepsEngine.of_spec_lift {R : Recording n} {env : Env n} {g : Guard n}
    {ans : Call → Option (Option Fault)} (h : EngineSpec R env g ans) {ρ : Type}
    {I : (R.lift ρ).State → Prop}
    (hI : ∀ p s new, I p → R.calls s = R.calls p.2 ++ new →
      (∀ c ∈ new, c.housekeeping ∨ c.isShutdown ∨ c.isSleep) → I (p.1, s)) :
    KeepsEngine (R.lift ρ) I env.lift g.lift := by
  have keeps : ∀ {α : Type} {x : n α} {Q : α → List Call → Prop}, R.Makes x Q →
      (∀ a new, Q a new → ∀ c ∈ new, c.housekeeping ∨ c.isShutdown ∨ c.isSleep) →
      (R.lift ρ).Keeps I (monadLift x) := fun hx hq p hp => by
    obtain ⟨new, hc, hn⟩ := hx p.2
    rw [show (R.lift ρ).exec (monadLift _) p = _ from exec_lift _ p]
    exact hI p _ new hp hc (hq _ _ hn)
  have quiet : ∀ {α : Type} {x : n α}, R.Makes x (fun _ new => new.all Call.housekeeping) →
      (R.lift ρ).Keeps I (monadLift x) := fun hx =>
    keeps hx fun _ _ hn c hc => .inl (List.all_eq_true.1 hn c hc)
  exact
    { now := quiet h.now
      shutdown := keeps h.shutdown fun a new hn c hc => by
        subst hn
        rw [List.mem_singleton.1 hc]
        exact .inr (.inl rfl)
      sleep := fun d => keeps (h.sleep d) fun a new hn c hc => by
        subst hn
        rw [List.mem_singleton.1 hc]
        exact .inr (.inr rfl)
      draw := quiet h.draw
      observe := fun e => quiet (h.observe e)
      permit := quiet h.permit
      succeeded := fun t => quiet (h.succeeded t)
      failed := fun t => quiet (h.failed t)
      released := fun t => quiet (h.released t)
      cooldown := quiet h.cooldown
      reject := keeps h.reject fun _ _ hn c hc => .inl (List.all_eq_true.1 hn.1 c hc) }

/-- A world and a guard that meet the engine's spec keep every property of the tape that
survives the tape growing by housekeeping calls, shutdown checks and waits. -/
theorem KeepsEngine.of_spec_tape {R : Recording n} {env : Env n} {g : Guard n}
    {ans : Call → Option (Option Fault)} (h : EngineSpec R env g ans) {I : List Call → Prop}
    (hI : ∀ pre new, I pre → (∀ c ∈ new, c.housekeeping ∨ c.isShutdown ∨ c.isSleep) →
      I (pre ++ new)) :
    KeepsEngine R (fun s => I (R.calls s)) env g := by
  have keeps : ∀ {α : Type} {x : n α} {Q : α → List Call → Prop}, R.Makes x Q →
      (∀ a new, Q a new → ∀ c ∈ new, c.housekeeping ∨ c.isShutdown ∨ c.isSleep) →
      R.Keeps (fun s => I (R.calls s)) x := fun hx hq s hs => by
    obtain ⟨new, hc, hn⟩ := hx s
    rw [hc]
    exact hI _ new hs (hq _ _ hn)
  have quiet : ∀ {α : Type} {x : n α}, R.Makes x (fun _ new => new.all Call.housekeeping) →
      R.Keeps (fun s => I (R.calls s)) x := fun hx =>
    keeps hx fun _ _ hn c hc => .inl (List.all_eq_true.1 hn c hc)
  exact
    { now := quiet h.now
      shutdown := keeps h.shutdown fun a new hn c hc => by
        subst hn
        rw [List.mem_singleton.1 hc]
        exact .inr (.inl rfl)
      sleep := fun d => keeps (h.sleep d) fun a new hn c hc => by
        subst hn
        rw [List.mem_singleton.1 hc]
        exact .inr (.inr rfl)
      draw := quiet h.draw
      observe := fun e => quiet (h.observe e)
      permit := quiet h.permit
      succeeded := fun t => quiet (h.succeeded t)
      failed := fun t => quiet (h.failed t)
      released := fun t => quiet (h.released t)
      cooldown := quiet h.cooldown
      reject := keeps h.reject fun _ _ hn c hc => .inl (List.all_eq_true.1 hn.1 c hc) }

/-- **A run of the engine whose attempts each make one call that `ans` reads** makes only calls
with a property that the engine's own calls have and each attempt's calls have; one that ends
numbers its attempts from one, as many as the calls `ans` reads. -/
theorem run_answers {R : Recording n} {env : Env n} {g : Guard n}
    {ans : Call → Option (Option Fault)} (h : EngineSpec R env g ans) {P : Call → Prop}
    (hP : ∀ c, c.housekeeping ∨ c.isShutdown ∨ c.isSleep → P c)
    {attempt : Nat → Option Int → n (Option Fault)}
    (ha : ∀ k d, R.Makes (attempt k d)
      fun _ new => (∀ c ∈ new, P c) ∧ (new.filterMap ans).length = 1)
    (fuel : Nat) (c : Config) (classify : Fault → Bool) :
    R.Makes (Retry.run fuel c env g classify attempt) fun res new => (∀ c ∈ new, P c) ∧
      ∀ rep, res = some rep →
        rep.Numbered ∧ (new.filterMap ans).length = rep.attempts.length := by
  intro s
  -- after `k` attempts, the calls since the start all have `P`, and `k` of them answer one
  let At (k : Nat) (l : List Call) : Prop :=
    ∃ new, l = R.calls s ++ new ∧ (∀ c ∈ new, P c) ∧ (new.filterMap ans).length = k
  have hkeep : ∀ k, KeepsEngine R (fun s => At k (R.calls s)) env g := fun k =>
    KeepsEngine.of_spec_tape h fun pre more ⟨new, hpre, hnew, hlen⟩ hmore =>
      ⟨new ++ more, by rw [hpre, List.append_assoc], fun c hc => by
        rcases List.mem_append.1 hc with hc | hc
        · exact hnew c hc
        · exact hP c (hmore c hc), by
        rw [List.filterMap_append,
          List.filterMap_eq_nil_iff.2 fun c hc => h.ans_eq_none (hmore c hc),
          List.append_nil, hlen]⟩
  have hstep : ∀ k d, R.Triple (fun s => At k (R.calls s)) (attempt (k + 1) d)
      fun _ s => At (k + 1) (R.calls s) := fun k d s' ⟨new, hpre, hnew, hlen⟩ => by
    obtain ⟨more, hc, hmore, hone⟩ := ha (k + 1) d s'
    refine ⟨new ++ more, by rw [hc, hpre, List.append_assoc], fun c hc => ?_, ?_⟩
    · rcases List.mem_append.1 hc with hc | hc
      · exact hnew c hc
      · exact hmore c hc
    · rw [List.filterMap_append, List.length_append, hlen, hone]
  obtain ⟨k, ⟨new, hc, hnew, hlen⟩, hrep⟩ :=
    run_numbers (fun k s => At k (R.calls s)) hkeep hstep fuel c classify s
      ⟨[], (List.append_nil _).symm, by simp, rfl⟩
  exact ⟨new, hc, hnew, fun rep hres =>
    ⟨(hrep rep hres).1, hlen.trans (hrep rep hres).2.symm⟩⟩

/-! ### The attempts of a stage -/

/-- A processor call on the tape: the stage's position, the record it was given, the route the
processor picked and what it produced. -/
structure Processing where
  stage : Nat
  record : Record
  route : String
  produced : Produced

/-- The processor call a call of the world is, if it is one. -/
def Call.processing? : Call → Option Processing
  | .process i r route p => some ⟨i, r, route, p⟩
  | _ => none

/-- What an attempt of the stage `name` stores for what its processor produced. -/
def Produced.step (name : String) : Produced → StepResult
  | .output v => .output v
  | .failure f => if f.isa .filtered then .filtered else .failed f
  | .panicked what =>
    .failed (.permanent (some (.text ("stage " ++ name ++ " panicked: " ++ what))))

/-- The record a processor call leaves: the record it was given, with the route picked. -/
def Processing.stamped (c : Processing) : Record := { c.record with route := c.route }

/-- The record a stage holds after the attempts `ps` from the record `cur`. -/
def heldRecord (cur : Record) (ps : List Processing) : Record :=
  (ps.getLast?.map Processing.stamped).getD cur

/-- The result a stage `name` holds after the attempts `ps`: the last one's, or an output of
nothing before the first. -/
def heldResult (name : String) (ps : List Processing) : StepResult :=
  (ps.getLast?.map fun c => c.produced.step name).getD (.output none)

@[simp] theorem heldRecord_nil (cur : Record) : heldRecord cur [] = cur := rfl

@[simp] theorem heldRecord_snoc (cur : Record) (ps : List Processing) (c : Processing) :
    heldRecord cur (ps ++ [c]) = c.stamped := by
  simp [heldRecord]

theorem heldRecord_of_getLast? {cur : Record} {ps : List Processing} {c : Processing}
    (h : ps.getLast? = some c) : heldRecord cur ps = c.stamped := by
  simp [heldRecord, h]

theorem heldResult_of_getLast? {name : String} {ps : List Processing} {c : Processing}
    (h : ps.getLast? = some c) : heldResult name ps = c.produced.step name := by
  simp [heldResult, h]

@[simp] theorem heldResult_nil (name : String) : heldResult name [] = .output none := rfl

@[simp] theorem heldResult_snoc (name : String) (ps : List Processing) (c : Processing) :
    heldResult name (ps ++ [c]) = c.produced.step name := by
  simp [heldResult]

/-- **The attempts of stage `i` from the record `cur`**, in order: each gives its processor the
record the attempts before it left, numbered with its own position from one. -/
inductive Attempts (i : Nat) (cur : Record) : List Processing → Prop
  | nil : Attempts i cur []
  | snoc {ps : List Processing} {c : Processing} : Attempts i cur ps → c.stage = i →
      c.record = { heldRecord cur ps with attempts := ((ps.length + 1 : Nat) : Int) } →
      Attempts i cur (ps ++ [c])

/-- A stage's state after `k` attempts from the record `cur`, on a tape that read `pre` before
them: the processor calls since are the attempts, and the stage holds what they left. -/
def Holding (i : Nat) (name : String) (cur : Record) (pre : List Call) (k : Nat)
    (p : Tape.stage.State) : Prop :=
  ∃ new ps, Tape.stage.calls p = pre ++ new ∧ new.filterMap Call.processing? = ps ∧
    ps.length = k ∧ Attempts i cur ps ∧ p.1 = (heldRecord cur ps, heldResult name ps)

theorem Call.processing?_engine {c : Call} (hc : c.housekeeping ∨ c.isShutdown ∨ c.isSleep) :
    c.processing? = none := by
  cases c <;> simp_all [Call.processing?, Call.housekeeping, Call.isShutdown, Call.isSleep]

theorem Call.delivered?_engine {c : Call} (hc : c.housekeeping ∨ c.isShutdown ∨ c.isSleep) :
    c.delivered? = none := by
  cases c <;> simp_all [Call.housekeeping, Call.isShutdown, Call.isSleep]

theorem Call.written?_engine {c : Call} (hc : c.housekeeping ∨ c.isShutdown ∨ c.isSleep) :
    c.written? = none := by
  cases c <;> simp_all [Call.housekeeping, Call.isShutdown, Call.isSleep]

/-- The stage's engine leaves what the stage holds, and makes no processor call. -/
theorem keepsEngine_holding (i : Nat) (name : String) (cur : Record) (pre : List Call) (k : Nat)
    (count : Event → Runner → Runner) (breaker : String) :
    KeepsEngine Tape.stage (Holding i name cur pre k)
      (engineEnv Tape.services count).lift (breakerGuard Tape.services breaker).lift := by
  refine KeepsEngine.of_spec_lift (engineSpec_breaker count breaker (Call.processed?_quiet name))
    fun p s more ⟨new, ps, hc, hps, hlen, hatt, htop⟩ hs hmore => ?_
  refine ⟨new ++ more, ps, ?_, ?_, hlen, hatt, htop⟩
  · show Tape.runner.calls s = _
    rw [hs, show Tape.runner.calls p.2 = Tape.stage.calls p from rfl, hc, List.append_assoc]
  · rw [List.filterMap_append, hps, List.filterMap_eq_nil_iff.2 fun c hc =>
      Call.processing?_engine (hmore c hc), List.append_nil]

/-- A processor call on the record a stage holds, numbered next, and calls that are not processor
calls, take the stage one attempt further. -/
theorem Holding.snoc {i : Nat} {name : String} {cur : Record} {pre : List Call} {k : Nat}
    {p : Tape.stage.State} (hp : Holding i name cur pre k p) (route : String) (produced : Produced)
    (s : Tape.runner.State) (more : List Call)
    (hs : Tape.runner.calls s = Tape.stage.calls p ++
      Call.process i { p.1.1 with attempts := ((k + 1 : Nat) : Int) } route produced :: more)
    (hmore : more.filterMap Call.processing? = []) :
    Holding i name cur pre (k + 1)
      (({ p.1.1 with attempts := ((k + 1 : Nat) : Int), route }, produced.step name), s) := by
  obtain ⟨new, ps, hc, hps, hlen, hatt, htop⟩ := hp
  have hcur : p.1.1 = heldRecord cur ps := congrArg Prod.fst htop
  refine ⟨new ++
      Call.process i { p.1.1 with attempts := ((k + 1 : Nat) : Int) } route produced :: more,
    ps ++ [⟨i, { p.1.1 with attempts := ((k + 1 : Nat) : Int) }, route, produced⟩],
    ?_, ?_, ?_, ?_, ?_⟩
  · show Tape.runner.calls s = _
    rw [hs, hc, List.append_assoc]
  · simp [List.filterMap_append, hps, hmore, Call.processing?]
  · rw [List.length_append, hlen, List.length_singleton]
  · exact Attempts.snoc hatt rfl (by rw [hcur, hlen])
  · rw [heldRecord_snoc, heldResult_snoc]
    rfl

/-- **An attempt of a stage** gives its processor the record the stage holds, with the attempt's
number, and the stage then holds what the processor's call leaves. -/
theorem holding_attemptStage (i : Nat) (name : String) (cur : Record) (pre : List Call) (k : Nat) :
    Tape.stage.Triple (Holding i name cur pre k) (attemptStage Tape.services i name (k + 1))
      fun _ => Holding i name cur pre (k + 1) := by
  unfold attemptStage
  refine Triple.get_bind fun p hp => ?_
  obtain ⟨⟨top, res⟩, q⟩ := p
  dsimp only
  refine Triple.bind (Triple.lift_makes (Makes.lift (Tape.makes_process i _)))
    fun ⟨route, produced⟩ => ?_
  dsimp only
  cases produced with
  | output v =>
    simp only [pure_bind]
    refine Triple.set_pure _ _ fun p' ⟨p0, hp0, htop', more, hmore, hnew⟩ => ?_
    subst hp0 hnew
    exact hp.snoc route (.output v) p'.2 [] hmore rfl
  | failure f =>
    simp only [pure_bind]
    refine Triple.set_pure _ _ fun p' ⟨p0, hp0, htop', more, hmore, hnew⟩ => ?_
    subst hp0 hnew
    exact hp.snoc route (.failure f) p'.2 [] hmore rfl
  | panicked what =>
    -- the panic is logged after the processor's call
    simp only [pure_bind]
    refine Triple.bind (Triple.lift_makes (Makes.lift (Tape.makes_log _))) fun _ => ?_
    refine Triple.set_pure _ _
      fun p' ⟨p1, ⟨p0, hp0, htop', more, hmore, hnew⟩, htop'', more', hmore', hnew'⟩ => ?_
    subst hp0 hnew
    refine hp.snoc route (.panicked what) p'.2 more' ?_ (by rw [hnew']; rfl)
    refine hmore'.trans ?_
    rw [hmore, List.append_assoc]
    rfl

/-- What a stage's run made: its processor calls are the attempts from the record it was given;
and a stage that ended has a report that numbers them from one, and hands on what the last of
them left. -/
def StageRan (i : Nat) (name : String) (cur : Record) (x : Option (Report × Record × StepResult))
    (ps : List Processing) : Prop :=
  Attempts i cur ps ∧ ∀ y, x = some y → y.1.Numbered ∧ y.1.attempts.length = ps.length ∧
    y.2 = (heldRecord cur ps, heldResult name ps)

/-- **A stage runs its attempts in order**, each on the record the one before left, numbered
from one as the report of a stage that ends numbers them. -/
theorem makes_runStage_attempts (fuel i : Nat) (s : Stage) (cur : Record) :
    Tape.runner.Makes (runStage Tape.services fuel i s cur)
      fun x new => StageRan i s.name cur x (new.filterMap Call.processing?) := by
  unfold runStage
  refine Makes.bind (Makes.modify _) fun _ q hq => ?_
  -- the engine's run, from the record given and no result yet
  have hrun : Tape.runner.Makes
      ((Retry.run fuel s.retry
        (engineEnv Tape.services fun e run => run.updateStage i (·.record e)).lift
        (breakerGuard Tape.services s.name).lift s.classify
        (fun k _ => attemptStage Tape.services i s.name k)).run (cur, .output none))
      fun x new => Attempts i cur (new.filterMap Call.processing?) ∧ ∀ rep, x.1 = some rep →
        rep.Numbered ∧ rep.attempts.length = (new.filterMap Call.processing?).length ∧
          x.2 = (heldRecord cur (new.filterMap Call.processing?),
            heldResult s.name (new.filterMap Call.processing?)) :=
    Makes.run_triple (fun pre => (run_numbers (Holding i s.name cur pre)
      (fun k => keepsEngine_holding i s.name cur pre k _ s.name)
      (fun k _ => holding_attemptStage i s.name cur pre k) fuel s.retry s.classify).mono
        fun res p ⟨k, ⟨new, ps, hc, hps, hlen, hatt, htop⟩, hrep⟩ => ⟨new, hc, by
          subst hps
          exact ⟨hatt, fun rep hres => ⟨(hrep rep hres).1, (hrep rep hres).2.trans hlen.symm,
            htop⟩⟩⟩)
      fun w => ⟨[], [], (List.append_nil _).symm, rfl, rfl, .nil, rfl⟩
  refine Makes.bind hrun fun x q2 hq2 => ?_
  obtain ⟨rep?, r', last⟩ := x
  obtain ⟨hatt, hrep⟩ := hq2
  subst hq
  cases rep? with
  | none => exact Makes.pure ⟨by simpa using hatt, fun _ hy => by cases hy⟩
  | some rep =>
    refine Makes.bind (Makes.modify _) fun _ q3 hq3 => Makes.pure ⟨?_, fun y hy => ?_⟩
    · subst hq3
      simpa using hatt
    · cases hy
      subst hq3
      simpa using hrep rep rfl

/-! ### One attempt after another -/

/-- The processor call `c'` comes right after `c` in handling a message: the same stage's next
attempt on the record `c` left, or, after `c` produced a value, the next stage's first attempt on
the record `c` left with that value. -/
def Processing.Follows (c c' : Processing) : Prop :=
  (c'.stage = c.stage ∧ c'.record = { c.stamped with attempts := c.record.attempts + 1 }) ∨
    (c'.stage = c.stage + 1 ∧
      ∃ v, c.produced = .output v ∧ c'.record = { c.stamped with value := v, attempts := 1 })

namespace Attempts

variable {i : Nat} {cur : Record}

theorem stage_eq {ps : List Processing} (h : Attempts i cur ps) : ∀ c ∈ ps, c.stage = i := by
  induction h with
  | nil => simp
  | snoc _ hc _ ih =>
    intro c' hc'
    rcases List.mem_append.1 hc' with h' | h'
    · exact ih c' h'
    · rw [List.mem_singleton.1 h']
      exact hc

/-- The attempts are numbered one, two, and so on. -/
theorem numbers {ps : List Processing} (h : Attempts i cur ps) :
    ps.map (·.record.attempts) = (List.range' 1 ps.length).map fun k : Nat => (k : Int) := by
  induction h with
  | nil => rfl
  | @snoc ps c _ _ hrec ih =>
    rw [List.map_append, ih, List.length_append, List.length_singleton, List.range'_concat,
      List.map_append, List.map_singleton, List.map_singleton, hrec, Nat.one_mul, Nat.add_comm 1]

/-- The first attempt is given the record the stage got, numbered one. -/
theorem head {ps : List Processing} (h : Attempts i cur ps) :
    ∀ c ∈ ps.head?, c.stage = i ∧ c.record = { cur with attempts := 1 } := by
  induction h with
  | nil => simp
  | @snoc ps c _ hc hrec ih =>
    cases ps with
    | nil =>
      intro c' hc'
      cases hc'
      exact ⟨hc, hrec⟩
    | cons c₀ ps => exact ih

/-- The last attempt is numbered with the count of attempts. -/
theorem getLast_number {ps : List Processing} (h : Attempts i cur ps) :
    ∀ c ∈ ps.getLast?, c.record.attempts = ((ps.length : Nat) : Int) := by
  cases h with
  | nil => simp
  | @snoc ps c _ _ hrec =>
    intro c' hc'
    simp only [List.getLast?_append, List.getLast?_singleton, Option.some_or, Option.mem_def,
      Option.some.injEq] at hc'
    subst hc'
    rw [hrec, List.length_append, List.length_singleton]

/-- Each attempt after the first is given the record the one before left, with the next number. -/
theorem isChain {ps : List Processing} (h : Attempts i cur ps) : ps.IsChain Processing.Follows := by
  induction h with
  | nil => exact .nil
  | @snoc ps c hps hc hrec ih =>
    refine ih.append (.singleton c) fun c₀ hc₀ c' hc' => ?_
    cases hc'
    refine .inl ⟨by rw [hc, hps.stage_eq c₀ (List.mem_of_getLast? hc₀)], ?_⟩
    rw [hrec, hps.getLast_number c₀ hc₀, heldRecord_of_getLast? hc₀, Int.natCast_add]
    rfl

end Attempts

/-! ### The stages in turn -/

/-- A dead-letter history entry as the stage and the number it names. -/
def DeadLetter.Trial.entry (t : DeadLetter.Trial) : String × Int := (t.stage, t.number)

/-- The history entry of a processor call, for stages named `names` in order. -/
def Processing.entry (names : List String) (c : Processing) : String × Int :=
  (names.getD c.stage "", c.record.attempts)

/-- The history of a report numbered from one names its stage and the numbers one, two, and so
on. -/
theorem Report.Numbered.history_entries {rep : Report} (h : rep.Numbered) (name : String) :
    (history name rep).map DeadLetter.Trial.entry =
      (List.range' 1 rep.attempts.length).map fun k : Nat => (name, (k : Int)) := by
  rw [← h, Pipeline.history]
  simp only [List.map_map]
  rfl

/-- The history of a stage's report lists its attempts, numbered as the processor saw them. -/
theorem StageRan.history {i : Nat} {name : String} {cur : Record}
    {x : Report × Record × StepResult}
    {ps : List Processing} (h : StageRan i name cur (some x) ps) {names : List String}
    (hname : names.getD i "" = name) :
    (history name x.1).map DeadLetter.Trial.entry = ps.map (Processing.entry names) := by
  obtain ⟨hatt, hx⟩ := h
  obtain ⟨hnum, hlen, -⟩ := hx x rfl
  have hseen : ps.map (Processing.entry names) = (ps.map (·.record.attempts)).map (name, ·) := by
    rw [List.map_map]
    refine List.map_congr_left fun c hc => ?_
    simp only [Processing.entry, Function.comp, hatt.stage_eq c hc, hname]
  rw [hseen, hatt.numbers, Report.Numbered.history_entries hnum, hlen, List.map_map]
  rfl

/-- A processor call that a stage reads is a processor call. -/
theorem processing_ne_nil {name : String} {calls : List Call}
    (h : calls.filterMap (Call.processed? name) ≠ []) :
    calls.filterMap Call.processing? ≠ [] := by
  obtain ⟨a, ha⟩ := List.exists_mem_of_ne_nil _ h
  obtain ⟨c, hc, hca⟩ := List.mem_filterMap.1 ha
  cases c with
  | process i r route p => exact List.ne_nil_of_mem (List.mem_filterMap.2 ⟨_, hc, rfl⟩)
  | _ => simp at hca

/-- What the stages hand on after the processor calls `ps`, from stage `i` of `k` on the record
`cur`: once every stage produced a value, the last value and route. -/
def Finished (i k : Nat) (cur : Record) (ps : List Processing) (v : Option ByteArray)
    (route : String) : Prop :=
  match ps.getLast? with
  | none => i = k ∧ v = cur.value ∧ route = cur.route
  | some c => c.stage + 1 = k ∧ c.produced = .output v ∧ route = c.route

/-- What the stages named `names`, from position `i` on the record `cur`, made with the history
`trials` before them: processor calls that start with stage `i`'s first attempt on `cur` and
follow one another; and, when the stages ended, one history entry for each call, and, when no
stage stopped the message, the last value and route in the terminal. -/
structure StagesRan (names : List String) (i : Nat) (cur : Record)
    (trials : List DeadLetter.Trial) (x : Option (Option Fault × Terminal × Record))
    (ps : List Processing) : Prop where
  head : ∀ c ∈ ps.head?, c.stage = i ∧ c.record = { cur with attempts := 1 }
  chain : ps.IsChain Processing.Follows
  history : ∀ y, x = some y → y.2.1.trials.map DeadLetter.Trial.entry =
    trials.map DeadLetter.Trial.entry ++ ps.map (Processing.entry names)
  finished : ∀ y, x = some y → y.1 = none → y.2.1.err = none → y.2.1.filtered = false →
    Finished i names.length cur ps y.2.1.output y.2.1.route

theorem Produced.step_eq_output {name : String} {p : Produced} {v : Option ByteArray}
    (h : p.step name = .output v) : p = .output v := by
  cases p with
  | output w => cases h; rfl
  | failure f =>
    simp only [Produced.step] at h
    split at h <;> cases h
  | panicked what => cases h

namespace StagesRan

variable {names : List String} {i : Nat} {cur : Record} {trials : List DeadLetter.Trial}

/-- A stage that stopped the message: its attempts are all the processor calls, and the history
gains their entries. -/
theorem stop {name : String} {x : Report × Record × StepResult} {ps : List Processing}
    (hname : names.getD i "" = name) (hran : StageRan i name cur (some x) ps) (ab : Option Fault)
    (t : Terminal) (o : Record) (ht : t.trials = trials ++ Pipeline.history name x.1)
    (hstop : ab = none → t.err = none → t.filtered = false → False) :
    StagesRan names i cur trials (some (ab, t, o)) ps where
  head := hran.1.head
  chain := hran.1.isChain
  history := fun y hy => by
    cases hy
    rw [ht, List.map_append, hran.history hname]
  finished := fun y hy h h' h'' => by
    cases hy
    exact (hstop h h' h'').elim

/-- A stage that ran out of turns: its attempts are all the processor calls. -/
theorem cut {ps : List Processing} (hatt : Attempts i cur ps) :
    StagesRan names i cur trials none ps where
  head := hatt.head
  chain := hatt.isChain
  history := fun _ hy => by cases hy
  finished := fun _ hy => by cases hy

/-- A stage whose last attempt produced a value, then the stages after it on the record that
attempt left with that value. -/
theorem cons {name : String} {x : Report × Record × StepResult} {ps qs : List Processing}
    {c : Processing} {v : Option ByteArray} {y : Option (Option Fault × Terminal × Record)}
    (hname : names.getD i "" = name) (hran : StageRan i name cur (some x) ps)
    (hlast : ps.getLast? = some c) (hv : c.produced = .output v)
    (h : StagesRan names (i + 1) (c.stamped.withValue v) (trials ++ Pipeline.history name x.1) y
      qs) :
    StagesRan names i cur trials y (ps ++ qs) where
  head := by
    rw [List.head?_append_of_ne_nil _ (List.ne_nil_of_mem (List.mem_of_getLast? hlast))]
    exact hran.1.head
  chain := by
    refine hran.1.isChain.append h.chain fun c₀ hc₀ c' hc' => ?_
    have hc : c₀ = c := Option.some.inj (hc₀.symm.trans hlast)
    subst hc
    obtain ⟨hstage, hrec⟩ := h.head c' hc'
    refine .inr ⟨by rw [hstage, hran.1.stage_eq c₀ (List.mem_of_getLast? hlast)], v, hv, ?_⟩
    rw [hrec]
    rfl
  history := fun y' hy => by
    rw [h.history y' hy, List.map_append, hran.history hname, List.map_append, List.append_assoc]
  finished := fun y' hy h1 h2 h3 => by
    have hfin := h.finished y' hy h1 h2 h3
    unfold Finished at hfin ⊢
    cases hq : qs.getLast? with
    | none =>
      rw [hq] at hfin
      obtain ⟨hk, hout, hroute⟩ := hfin
      rw [List.getLast?_eq_none_iff.1 hq, List.append_nil, hlast]
      exact ⟨by rw [hran.1.stage_eq c (List.mem_of_getLast? hlast)]; exact hk,
        by rw [hv, hout]; rfl, hroute⟩
    | some c' =>
      rw [hq] at hfin
      rw [List.getLast?_append, hq]
      exact hfin

end StagesRan

/-- **The stages run in order**, each after the one before produced a value, on the record that
one left with its value; the history gains an entry for every attempt, and a message that no
stage stopped leaves with the last value and route. The induction is on the stages left, at
their position among all the stages. -/
theorem makes_runStages_chain (fuel : Nat) (all : List Stage) :
    ∀ (stages : List Stage) (i : Nat) (cur orig : Record) (trials : List DeadLetter.Trial),
    all.drop i = stages → i ≤ all.length →
    Tape.runner.Makes (runStages Tape.services fuel i stages cur orig trials)
      fun x new => StagesRan (all.map (·.name)) i cur trials x (new.filterMap Call.processing?)
  | [], i, cur, orig, trials, hdrop, hi => Makes.pure
    ⟨by simp, .nil, fun _ hy => by cases hy; simp, fun _ hy _ _ _ => by
      cases hy
      exact ⟨by
        rw [List.length_map]
        exact Nat.le_antisymm hi (List.drop_eq_nil_iff.1 hdrop), rfl, rfl⟩⟩
  | s :: rest, i, cur, orig, trials, hdrop, hi => by
    have hlt : i < all.length := by
      refine Nat.lt_of_not_le fun hge => ?_
      rw [List.drop_eq_nil_of_le hge] at hdrop
      cases hdrop
    rw [List.drop_eq_getElem_cons hlt] at hdrop
    obtain ⟨hs, hrest⟩ := List.cons.inj hdrop
    have hname : (all.map (·.name)).getD i "" = s.name := by
      simp [List.getD, hlt, hs]
    unfold runStages
    refine Makes.bind ((makes_runStage fuel i s cur).and (makes_runStage_attempts fuel i s cur))
      fun x q hx => ?_
    obtain ⟨⟨-, hset⟩, hran⟩ := hx
    rcases x with _ | ⟨rep, cur', last⟩
    · exact Makes.pure (by simpa using StagesRan.cut hran.1)
    have hset := hset _ rfl
    dsimp only
    -- the message stops here: the stage's attempts are the last processor calls
    have hstop : ∀ (ab : Option Fault) (t : Terminal) (o : Record),
        t.trials = trials ++ history s.name rep →
        (ab = none → t.err = none → t.filtered = false → False) →
        Tape.runner.Makes (Pure.pure (some (ab, t, o))) fun y new =>
          StagesRan (all.map (·.name)) i cur trials y ((q ++ new).filterMap Call.processing?) :=
      fun ab t o ht h => Makes.pure (by
        rw [List.append_nil]
        exact StagesRan.stop hname hran ab t o ht h)
    refine Makes.ite (fun _ => hstop _ _ _ rfl fun h => ?_) fun _ => ?_
    · rw [abandonedBy, Fault.join_cons_some] at h
      cases h
    refine Makes.ite (fun hsuc => hstop _ _ _ rfl fun _ h _ => ?_) fun hsuc => ?_
    · exact err_of_not_succeeded (by simpa using hsuc) h
    cases last with
    | filtered => exact hstop _ _ _ rfl fun _ _ h => by cases h
    | failed f => exact hstop _ _ _ rfl fun _ h => by cases h
    | output v =>
      -- the stage succeeded, so it made an attempt, whose value goes on to the next stage
      have hread : q.filterMap (Call.processed? s.name) ≠ [] := fun hnil => by
        have := hset.succeeded (by simpa [Report.succeeded] using hsuc)
        rw [hnil] at this
        cases this
      have hne := processing_ne_nil hread
      obtain ⟨c, hlast⟩ := Option.isSome_iff_exists.1 (List.getLast?_isSome.2 hne)
      have htop := (hran.2 _ rfl).2.2
      rw [heldRecord_of_getLast? hlast, heldResult_of_getLast? hlast] at htop
      obtain ⟨rfl, hv⟩ := Prod.mk.inj htop
      refine (makes_runStages_chain fuel all rest (i + 1) _ _ _ hrest hlt).mono fun y new hy => ?_
      rw [List.filterMap_append]
      exact StagesRan.cons hname hran hlast (Produced.step_eq_output hv.symm) hy

/-! ### Routing -/

/-- What routing the record `o` with the terminal `t` made: no processor call; deliveries only
of a message the stages gave no fault, each of the record's envelope with the value and route
the stages left; and dead letters that carry the stages' history, then one entry for each
delivery, numbered from one. -/
structure Routed (o : Record) (t : Terminal) (new : List Call) : Prop where
  unprocessed : new.filterMap Call.processing? = []
  deliveries : ∀ e a, Call.deliver e a ∈ new →
    t.err = none ∧ t.filtered = false ∧ e = (Envelope.ofRecord o t.output).routeTo t.route
  letters : ∀ d a, Call.write d a ∈ new → d.trials.map DeadLetter.Trial.entry =
    t.trials.map DeadLetter.Trial.entry ++
      (List.range' 1 (new.filterMap Call.delivered?).length).map
        fun k : Nat => (sinkStage, (k : Int))

/-- A call of the sink or the dead-letter writer, seen from the runner: the one call it makes
is one that `P` accepts, and one that `ans` answers. -/
theorem Makes.lift_single {x : StateM Tape (Option Fault)} {call : Option Fault → Call}
    (hx : Tape.recording.Makes x fun a new => new = [call a]) {P : Call → Prop}
    (hP : ∀ a, P (call a)) {ans : Call → Option (Option Fault)}
    (hans : ∀ a, ans (call a) = some a) :
    Tape.runner.Makes (liftM x) fun _ new =>
      (∀ c ∈ new, P c) ∧ (new.filterMap ans).length = 1 :=
  (Makes.lift hx).mono fun a new h => by
    subst h
    refine ⟨fun c hc => ?_, by simp [hans]⟩
    rw [List.mem_singleton.1 hc]
    exact hP a

/-- **Routing carries the stages' value, route and history on**: to the sink, and to every
dead letter, after the sink's attempts. -/
theorem makes_route_routed (fuel : Nat) (o : Record) (t : Terminal) :
    Tape.runner.Makes (route Tape.services fuel o t) fun _ new => Routed o t new := by
  unfold route
  apply Makes.ite
  · intro _
    refine Makes.bind (Makes.lift (Tape.makes_log _)) fun _ q hq => Makes.pure ?_
    subst hq
    exact ⟨rfl, by simp, by simp⟩
  · intro hpass
    refine Makes.bind Makes.get fun r q hq => ?_
    subst hq
    lift_lets
    intro policy letter
    -- the dead-letter write, whatever the sink did before it: no processor call or delivery,
    -- and letters with the history of the terminal it is given
    have hletter : ∀ t', Tape.runner.Makes (letter t') fun _ new => ∀ c ∈ new,
        c.processing? = none ∧ c.delivered? = none ∧
          ∀ d a, c = Call.write d a → d.trials = t'.trials := by
      intro t'
      dsimp -zeta only [letter]
      refine Makes.bind (Makes.lift Tape.makes_newId) fun id q1 hq1 => ?_
      refine Makes.bind (Makes.lift Tape.makes_now) fun now q2 hq2 => ?_
      have hwrite : ∀ (_ : Nat) (_ : Option Int), Tape.runner.Makes
          (liftM (Tape.services.writeDeadLetter
            { id, message := some o, stage := t'.stage, err := t'.err, trials := t'.trials,
              failedAt := some now }) : StateT Runner (StateM Tape) (Option Fault))
          fun _ new => (∀ c ∈ new, c.processing? = none ∧ c.delivered? = none ∧
            ∀ d a, c = Call.write d a → d.trials = t'.trials) ∧
            (new.filterMap Call.written?).length = 1 := fun _ _ =>
        Makes.lift_single (Tape.makes_write _)
          (fun _ => ⟨rfl, rfl, fun d a h => by cases h; rfl⟩) fun _ => rfl
      refine Makes.bind (makes_countedRun_of (run_answers
        (engineSpec_breaker _ deadLetterStage Call.written?_quiet)
        (fun c hc => ⟨Call.processing?_engine hc, Call.delivered?_engine hc, fun d a h => by
          subst h
          simp [Call.housekeeping, Call.isShutdown, Call.isSleep] at hc⟩) hwrite _ _ _))
        fun x W hrW => ?_
      obtain ⟨hW, -⟩ := hrW
      subst hq1 hq2
      -- what follows the write is a log record at most
      have hquiet : ∀ more : List Call, (∀ c ∈ more, ∃ e, c = Call.log e) →
          ∀ c ∈ [Call.newId id] ++ ([Call.now now] ++ (W ++ more)),
            c.processing? = none ∧ c.delivered? = none ∧
              ∀ d a, c = Call.write d a → d.trials = t'.trials := by
        intro more hmore c hc
        simp only [List.singleton_append, List.mem_cons, List.mem_append] at hc
        rcases hc with rfl | rfl | hc | hc
        · exact ⟨rfl, rfl, fun _ _ h => by cases h⟩
        · exact ⟨rfl, rfl, fun _ _ h => by cases h⟩
        · exact hW c hc
        · obtain ⟨e, rfl⟩ := hmore c hc
          exact ⟨rfl, rfl, fun _ _ h => by cases h⟩
      have hdone : ∀ y : Option (Option Outcome × Option Fault),
          Tape.runner.Makes (Pure.pure y) fun _ new =>
            ∀ c ∈ [Call.newId id] ++ ([Call.now now] ++ (W ++ new)),
              c.processing? = none ∧ c.delivered? = none ∧
                ∀ d a, c = Call.write d a → d.trials = t'.trials := fun _ =>
        Makes.pure (hquiet [] (by simp))
      cases x with
      | none => exact hdone _
      | some rep =>
        refine Makes.ite (fun _ => ?_) fun _ => Makes.ite (fun _ => hdone _) fun _ => hdone _
        refine Makes.bind (Makes.lift (Tape.makes_log _)) fun _ q5 hq5 => Makes.pure ?_
        subst hq5
        simpa using hquiet [_] (by simp)
    apply Makes.ite
    · intro hok
      -- delivery to the sink first; a message it never takes goes to the dead-letter writer
      have hdeliver : ∀ (_ : Nat) (_ : Option Int), Tape.runner.Makes
          (liftM (Tape.services.deliver ((Envelope.ofRecord o t.output).routeTo t.route)) :
            StateT Runner (StateM Tape) (Option Fault))
          fun _ new => (∀ c ∈ new, c.processing? = none ∧ c.written? = none ∧
            ∀ e a, c = Call.deliver e a →
              e = (Envelope.ofRecord o t.output).routeTo t.route) ∧
            (new.filterMap Call.delivered?).length = 1 := fun _ _ =>
        Makes.lift_single (Tape.makes_deliver _)
          (fun _ => ⟨rfl, rfl, fun e a h => by cases h; rfl⟩) fun _ => rfl
      refine Makes.bind (makes_countedRun_of (run_answers
        (engineSpec_breaker _ sinkStage Call.delivered?_quiet)
        (fun c hc => ⟨Call.processing?_engine hc, Call.written?_engine hc, fun e a h => by
          subst h
          simp [Call.housekeeping, Call.isShutdown, Call.isSleep] at hc⟩) hdeliver _ _ _))
        fun x S hrS => ?_
      obtain ⟨hS, hcounted⟩ := hrS
      have hclean : t.err = none := Option.isNone_iff_eq_none.1 hok
      have hkept : t.filtered = false := by simpa [hok] using hpass
      rcases x with _ | rep
      · -- the sink ran out of turns: its calls alone, none of them a write
        refine Makes.pure ?_
        rw [List.append_nil]
        exact ⟨List.filterMap_eq_nil_iff.2 fun c hc => (hS c hc).1,
          fun e a hc => ⟨hclean, hkept, (hS _ hc).2.2 e a rfl⟩,
          fun d a hc => by cases (hS _ hc).2.1⟩
      obtain ⟨hnum, hcount⟩ := hcounted rep rfl
      -- the sink's calls, and the writer's after them
      have hrouted : ∀ L : List Call, (∀ c ∈ L, c.processing? = none ∧
          c.delivered? = none ∧
          ∀ d a, c = Call.write d a → d.trials = t.trials ++ history sinkStage rep) →
          Routed o t (S ++ L) := fun L hL =>
        { unprocessed := List.filterMap_eq_nil_iff.2 fun c hc => by
            rcases List.mem_append.1 hc with hc | hc
            · exact (hS c hc).1
            · exact (hL c hc).1
          deliveries := fun e a hc => by
            rcases List.mem_append.1 hc with hc | hc
            · exact ⟨hclean, hkept, (hS _ hc).2.2 e a rfl⟩
            · cases (hL _ hc).2.1
          letters := fun d a hc => by
            rcases List.mem_append.1 hc with hc | hc
            · cases (hS _ hc).2.1
            · rw [(hL _ hc).2.2 d a rfl, List.map_append, List.filterMap_append,
                List.filterMap_eq_nil_iff.2 fun c hc => (hL c hc).2.1, List.append_nil, hcount,
                Report.Numbered.history_entries hnum] }
      have hsink : Routed o t (S ++ []) := hrouted [] (by simp)
      refine Makes.ite (fun _ => Makes.pure hsink) fun _ =>
        Makes.ite (fun _ => Makes.pure hsink) fun _ => ?_
      refine Makes.bind (Makes.ret _) fun t' q3 h3 => (hletter t').mono fun _ L hL => ?_
      obtain ⟨hq3, ht'⟩ := h3
      subst hq3 ht'
      simpa using hrouted L hL
    · intro hnok
      refine Makes.bind (Makes.ret _) fun t' q3 h3 => (hletter t').mono fun _ L hL => ?_
      obtain ⟨hq3, ht'⟩ := h3
      subst hq3 ht'
      -- the stages gave a fault: the writer alone, with the stages' history
      refine ⟨by simpa using List.filterMap_eq_nil_iff.2 fun c hc => (hL c hc).1,
        fun e a hc => ?_, fun d a hc => ?_⟩
      · cases (hL _ (by simpa using hc)).2.1
      · rw [(hL _ (by simpa using hc)).2.2 d a rfl]
        simp [List.filterMap_eq_nil_iff.2 fun c hc => (hL c hc).2.1]

/-! ### Handling a message -/

/-- **What handling the message `msg` with the stages `stages` made**, read off its calls: the
processor calls start with the first stage's first attempt on the message and follow one
another; every dead letter carries one history entry for each of them, then one for each
delivery, numbered from one; and every delivery is of a record of the message with the last
value and route, once every stage produced a value. -/
structure Chained (stages : List Stage) (msg : Record) (calls : List Call) : Prop where
  head : ∀ c ∈ (calls.filterMap Call.processing?).head?,
    c.stage = 0 ∧ c.record = { msg with attempts := 1 }
  chain : (calls.filterMap Call.processing?).IsChain Processing.Follows
  letters : ∀ d a, Call.write d a ∈ calls → d.trials.map DeadLetter.Trial.entry =
    (calls.filterMap Call.processing?).map (Processing.entry (stages.map (·.name))) ++
      (List.range' 1 (calls.filterMap Call.delivered?).length).map
        fun k : Nat => (sinkStage, (k : Int))
  deliveries : ∀ e a, Call.deliver e a ∈ calls → ∃ o v route, o.SameMessage msg ∧
    Finished 0 stages.length msg (calls.filterMap Call.processing?) v route ∧
      e = (Envelope.ofRecord o v).routeTo route

theorem chained_nil (stages : List Stage) (msg : Record) : Chained stages msg [] :=
  ⟨by simp, .nil, by simp, by simp⟩

/-- A call that is neither a processor call, a delivery nor a dead-letter write. -/
def Call.Quiet (c : Call) : Prop :=
  c.processing? = none ∧ c.delivered? = none ∧ c.written? = none

/-- Calls around what handling made that neither process, deliver nor write leave it as it was. -/
theorem Chained.widen {stages : List Stage} {msg : Record} {pre calls post : List Call}
    (hpre : ∀ c ∈ pre, c.Quiet) (hpost : ∀ c ∈ post, c.Quiet)
    (h : Chained stages msg calls) :
    Chained stages msg (pre ++ calls ++ post) := by
  have hproc : (pre ++ calls ++ post).filterMap Call.processing? =
      calls.filterMap Call.processing? := by
    rw [List.filterMap_append, List.filterMap_append,
      List.filterMap_eq_nil_iff.2 fun c hc => (hpre c hc).1,
      List.filterMap_eq_nil_iff.2 fun c hc => (hpost c hc).1, List.nil_append, List.append_nil]
  have hdel : (pre ++ calls ++ post).filterMap Call.delivered? =
      calls.filterMap Call.delivered? := by
    rw [List.filterMap_append, List.filterMap_append,
      List.filterMap_eq_nil_iff.2 fun c hc => (hpre c hc).2.1,
      List.filterMap_eq_nil_iff.2 fun c hc => (hpost c hc).2.1, List.nil_append, List.append_nil]
  -- a write or a delivery is one of the calls in the middle
  have hmid : ∀ c, c ∈ pre ++ calls ++ post → (c.Quiet → False) → c ∈ calls :=
    fun c hmem hc => by
    rcases List.mem_append.1 hmem with hmem | hmem
    · rcases List.mem_append.1 hmem with hmem | hmem
      · exact (hc (hpre c hmem)).elim
      · exact hmem
    · exact (hc (hpost c hmem)).elim
  refine ⟨hproc ▸ h.head, hproc ▸ h.chain, fun d a hw => ?_, fun e a hd => ?_⟩
  · rw [hproc, hdel]
    exact h.letters d a (hmid _ hw fun ⟨_, _, h⟩ => by cases h)
  · rw [hproc]
    exact h.deliveries e a (hmid _ hd fun ⟨_, h, _⟩ => by cases h)

/-- Preparing the runner keeps its stages, and makes no call. -/
theorem keeps_prepare_stages (stages : List Stage) (pre : List Call) :
    Tape.runner.Keeps (fun s => s.1.stages = stages ∧ Tape.runner.calls s = pre)
      (prepare : StateT Runner (StateM Tape) (Option Fault)) := by
  unfold prepare
  refine Keeps.get_bind fun p hp => ?_
  refine Keeps.ite (Keeps.pure _) (Keeps.ite (Keeps.pure _) (Keeps.ite (Keeps.pure _) ?_))
  exact Keeps.bind (Keeps.set _ fun _ h => ⟨hp.1, h.2⟩) fun _ => Keeps.pure _

/-- Stages that did not pass the message to routing: what handling made is what the stages
made. -/
theorem chained_of_stages {stages : List Stage} {msg : Record} {B : List Call}
    {x : Option (Option Fault × Terminal × Record)}
    (hran : StagesRan (stages.map (·.name)) 0 msg [] x (B.filterMap Call.processing?))
    (hsilent : Silent B) : Chained stages msg B where
  head := hran.head
  chain := hran.chain
  letters := fun d a hw => by
    cases List.filterMap_eq_nil_iff.1 hsilent.2 _ hw
  deliveries := fun e a hd => by
    cases List.filterMap_eq_nil_iff.1 hsilent.1 _ hd

/-- The stages passed a message to routing with the terminal `t`, which routing got as `t'`,
with the stages' history, and unchanged when the stages gave no fault. -/
theorem chained_of_route {stages : List Stage} {msg : Record} {B R : List Call} {t t' : Terminal}
    {orig : Record}
    (hran : StagesRan (stages.map (·.name)) 0 msg [] (some (none, t, orig))
      (B.filterMap Call.processing?))
    (hsame : orig.SameMessage msg) (hsilent : Silent B) (htrials : t'.trials = t.trials)
    (hclean : t'.err = none → t' = t) (hR : Routed orig t' R) : Chained stages msg (B ++ R) := by
  have hproc : (B ++ R).filterMap Call.processing? = B.filterMap Call.processing? := by
    rw [List.filterMap_append, hR.unprocessed, List.append_nil]
  have hdel : (B ++ R).filterMap Call.delivered? = R.filterMap Call.delivered? := by
    rw [List.filterMap_append, hsilent.1, List.nil_append]
  -- a write or a delivery is routing's
  have hrouted :
      ∀ c, c ∈ B ++ R → (c.delivered? = none → c.written? = none → False) → c ∈ R :=
    fun c hc hq => by
      rcases List.mem_append.1 hc with hc | hc
      · exact (hq (List.filterMap_eq_nil_iff.1 hsilent.1 c hc)
          (List.filterMap_eq_nil_iff.1 hsilent.2 c hc)).elim
      · exact hc
  refine ⟨hproc ▸ hran.head, hproc ▸ hran.chain, fun d a hw => ?_, fun e a hd => ?_⟩
  · rw [hproc, hdel, hR.letters d a (hrouted _ hw fun _ h => by cases h), htrials,
      hran.history _ rfl, List.map_nil, List.nil_append]
  · obtain ⟨herr, hfilt, he⟩ := hR.deliveries e a (hrouted _ hd fun h _ => by cases h)
    obtain rfl := hclean herr
    refine ⟨orig, t'.output, t'.route, hsame, ?_, he⟩
    rw [hproc, ← List.length_map Stage.name]
    exact hran.finished _ rfl rfl herr hfilt

/-- **Handling a message chains its stages**, from a runner with the stages `stages`, whether
or not it ends. -/
theorem triple_handle_chained (fuel : Nat) (msg : Record) (stages : List Stage) (pre : List Call) :
    Tape.runner.Triple (fun s => s.1.stages = stages ∧ Tape.runner.calls s = pre)
      (handle Tape.services fuel msg)
      fun _ s => ∃ new, Tape.runner.calls s = pre ++ new ∧ Chained stages msg new := by
  unfold handle
  refine Triple.keeps (keeps_prepare_stages stages pre) fun a => ?_
  cases a with
  | some f =>
    exact Triple.ret fun s ⟨_, hs⟩ =>
      ⟨[], by rw [hs, List.append_nil], chained_nil stages msg⟩
  | none =>
    dsimp only
    refine Triple.bind (Triple.lift_makes Tape.makes_now) fun start => ?_
    refine Triple.get_bind fun p ⟨p0, ⟨hS, hpre⟩, htop, new, hc, hnew⟩ => ?_
    refine Triple.of_makes ((?_ : Tape.runner.Makes _ fun _ new => Chained p.1.stages msg new).mono
      fun a new' hch s hs => ⟨[Call.now start] ++ new', ?_, ?_⟩)
    · -- the stages, from the first on the message, then routing, then the observers
      refine Makes.bind ((makes_runStages_chain fuel p.1.stages p.1.stages 0 msg msg [] rfl
          (Nat.zero_le _)).and ((makes_runStages_message msg fuel p.1.stages 0 msg msg []
          (fun _ => .refl msg) (.refl msg)).and (makes_runStages fuel p.1.stages 0 msg msg [])))
        fun x B hB => ?_
      obtain ⟨hran, hsame, ⟨hsilent, -⟩, -⟩ := hB
      have hquiet : ∀ (stop : Int) (m : Record) (o : Option Outcome) (e : Option Fault),
          ∀ c ∈ [Call.now stop, Call.observe m o e (Word.clamp (stop - start))], c.Quiet := by
        intro stop m o e c hc
        simp only [List.mem_cons, List.not_mem_nil, or_false] at hc
        rcases hc with rfl | rfl <;> exact ⟨rfl, rfl, rfl⟩
      rcases x with _ | ⟨ab, t, orig⟩
      · -- the stages ran out of turns
        exact Makes.pure (by simpa using chained_of_stages hran hsilent)
      cases ab with
      | some f =>
        refine Makes.bind (Makes.lift Tape.makes_now) fun stop q1 hq1 => ?_
        refine Makes.bind (Makes.lift (Tape.makes_observe _ _ _ _)) fun _ q2 hq2 => Makes.pure ?_
        subst hq1 hq2
        simpa using (chained_of_stages hran hsilent).widen
          (by simp : ∀ c ∈ ([] : List Call), c.Quiet) (hquiet stop _ _ _)
      | none =>
        dsimp only
        refine Makes.bind (makes_route_routed fuel orig _) fun x R hR => ?_
        -- routing gets the stages' terminal, cleared of its value when they gave a fault
        have hroute := chained_of_route hran (hsame _ rfl) hsilent (by split <;> rfl) (by
          split
          · exact fun _ => rfl
          · intro h
            simp_all) hR
        rcases x with _ | ⟨outcome, err⟩
        · -- routing ran out of turns
          exact Makes.pure (by simpa using hroute)
        refine Makes.bind (Makes.lift Tape.makes_now) fun stop q1 hq1 => ?_
        refine Makes.bind (Makes.lift (Tape.makes_observe _ _ _ _)) fun _ q2 hq2 => Makes.pure ?_
        subst hq1 hq2
        simpa using hroute.widen (by simp : ∀ c ∈ ([] : List Call), c.Quiet) (hquiet stop _ _ _)
    · refine hs.trans ?_
      rw [hc, hnew, List.append_assoc]
      exact congrArg (· ++ _) hpre
    · rw [← hS, ← htop, ← List.append_nil ([Call.now start] ++ new')]
      exact hch.widen (by simp [Call.Quiet, Call.processing?]) (by simp)

/-- **Handling a message runs its stages in order and keeps their history.** Handling a message
with any runner, in any world and for any number of turns of its engines, whether or not it
ends:

* the first processor call is the first stage's first attempt, on the message numbered one;
* each next one is the same stage's next attempt, numbered next, on the record the one before
  left (its route as that processor picked it), or the next stage's first attempt, numbered one,
  after the one before produced a value, on that record with that value;
* every dead letter carries one history entry for each of these attempts, in order, with its
  stage's name and its number, then one for each delivery to the sink, numbered from one;
* every delivery is of a record of the message with the value and the route that the last
  stage's last attempt left, and comes only once every stage produced a value. -/
theorem handle_chains_stages (fuel : Nat) (script : Script) (r : Runner) (msg : Record) :
    Chained r.stages msg
      (((handle Tape.services fuel msg).run r).run { script, calls := [] }).2.calls := by
  obtain ⟨new, hc, hch⟩ := triple_handle_chained fuel msg r.stages []
    ((r, { script, calls := [] }) : Runner × Tape) ⟨rfl, rfl⟩
  have hcalls :
      (((handle Tape.services fuel msg).run r).run { script, calls := [] }).2.calls = new := hc
  rw [hcalls]
  exact hch

end Pipeline

end Conveyor
