import Conveyor.Proofs.Pipeline.Engine
/-!
# Invariants along a run

`Recording.Makes` says what a program appends to the tape; `Recording.Keeps I x` says that
`x`, run from a state that `I` holds of, ends in one that `I` holds of. Invariants compose
along `bind` as specs do, and a run of the retry engine keeps every invariant that each call
of its world, of its guard and of its attempts keeps (`run_keeps`), whatever the policy, the
classifier, the answers and the number of turns: every call a turn makes keeps it.

Two kinds of invariant serve the runner: a property of the state a program holds on top,
which the programs of the monad below cannot touch (`Keeps.lift_top`), and a property of every
call on the tape, which a program keeps when every call it appends has it (`Keeps.of_makes`).
-/

namespace Conveyor.Pipeline

open Retry

namespace Recording

variable {n : Type → Type} [Monad n] {R : Recording n}

/-- `x`, run from any state that `I` holds of, ends in a state that `I` holds of. -/
def Keeps (R : Recording n) (I : R.State → Prop) {α : Type} (x : n α) : Prop :=
  ∀ s, I s → I (R.exec x s).2

variable {I : R.State → Prop}

theorem Keeps.pure {α : Type} (a : α) : R.Keeps I (Pure.pure a) := by
  intro s hs
  rw [R.exec_pure]
  exact hs

theorem Keeps.bind {α β : Type} {x : n α} {f : α → n β} (hx : R.Keeps I x)
    (hf : ∀ a, R.Keeps I (f a)) : R.Keeps I (x >>= f) := by
  intro s hs
  rw [R.exec_bind]
  exact hf _ _ (hx s hs)

theorem Keeps.ite {α : Type} {c : Prop} [Decidable c] {x y : n α} (hx : R.Keeps I x)
    (hy : R.Keeps I y) : R.Keeps I (if c then x else y) := by
  by_cases h : c
  · rw [if_pos h]
    exact hx
  · rw [if_neg h]
    exact hy

/-- A program keeps a property of every call on the tape when every call it appends has it. -/
theorem Keeps.of_makes {α : Type} {x : n α} {Q : α → List Call → Prop} {P : Call → Prop}
    (h : R.Makes x Q) (hQ : ∀ a new, Q a new → ∀ c ∈ new, P c) :
    R.Keeps (fun s => ∀ c ∈ R.calls s, P c) x := by
  intro s hs c hc
  obtain ⟨new, hcalls, hq⟩ := h s
  rw [hcalls, List.mem_append] at hc
  rcases hc with hc | hc
  · exact hs c hc
  · exact hQ _ _ hq c hc

/-- A program of the monad below keeps what it kept there, with a state on top. -/
theorem Keeps.lift {ρ α : Type} {x : n α} (h : R.Keeps I x) :
    (R.lift ρ).Keeps (fun p => I p.2) (monadLift x) := by
  intro p hp
  rw [show (R.lift ρ).exec (monadLift x) p = ((R.exec x p.2).1, (p.1, (R.exec x p.2).2)) from
    exec_lift x p]
  exact h p.2 hp

/-- A program of the monad below leaves the state on top alone, and so keeps every invariant
that looks only at it. -/
theorem Keeps.lift_top {ρ α : Type} {I : (R.lift ρ).State → Prop}
    (hI : ∀ p s, I p → I (p.1, s)) (x : n α) : (R.lift ρ).Keeps I (monadLift x) := by
  intro p hp
  rw [show (R.lift ρ).exec (monadLift x) p = ((R.exec x p.2).1, (p.1, (R.exec x p.2).2)) from
    exec_lift x p]
  exact hI p _ hp

theorem Keeps.get {ρ : Type} {I : (R.lift ρ).State → Prop} :
    (R.lift ρ).Keeps I (MonadState.get : StateT ρ n ρ) := by
  intro ⟨r, s⟩ hp
  simpa [Recording.lift, StateT.run_get, R.exec_pure] using hp

/-- Setting the state on top keeps an invariant that the new value keeps with any state below. -/
theorem Keeps.set {ρ : Type} {I : (R.lift ρ).State → Prop} (r : ρ)
    (h : ∀ p : (R.lift ρ).State, I p → I (r, p.2)) :
    (R.lift ρ).Keeps I (set r : StateT ρ n PUnit) := by
  intro p hp
  simpa [Recording.lift, StateT.run_set, R.exec_pure] using h p hp

theorem Keeps.modify {ρ : Type} {I : (R.lift ρ).State → Prop} (f : ρ → ρ)
    (h : ∀ p : (R.lift ρ).State, I p → I (f p.1, p.2)) :
    (R.lift ρ).Keeps I (modify f : StateT ρ n PUnit) := by
  intro p hp
  simpa [Recording.lift, StateT.run_modify, R.exec_pure] using h p hp

/-- Reading the state on top: what follows may rely on the invariant of the state read. -/
theorem Keeps.get_bind {ρ β : Type} {I : (R.lift ρ).State → Prop} {f : ρ → StateT ρ n β}
    (hf : ∀ p, I p → (R.lift ρ).Keeps I (f p.1)) :
    (R.lift ρ).Keeps I (MonadState.get >>= f) := by
  intro p hp
  rw [(R.lift ρ).exec_bind]
  have hget : (R.lift ρ).exec (MonadState.get : StateT ρ n ρ) p = (p.1, p) := by
    simp only [Recording.lift, StateT.run_get, R.exec_pure]
    rfl
  rw [hget]
  exact hf p hp p hp

/-- A program that keeps `I`, answered from a state `I` holds of, left one `I` holds of. -/
theorem Keeps.answered {α : Type} {x : n α} (h : R.Keeps I x) {a : α} {s s' : R.State}
    (hx : R.exec x s = (a, s')) (hs : I s) : I s' := by
  have hkept := h s hs
  rwa [hx] at hkept

/-- Running the state on top from a fixed value keeps what the program keeps below it. -/
theorem Keeps.run {ρ α : Type} {x : StateT ρ n α} (h : (R.lift ρ).Keeps (fun p => I p.2) x)
    (r : ρ) : R.Keeps I (x.run r) :=
  fun s hs => h (r, s) hs

/-- Running the state on top from a value that an invariant holds of: the spec of the program,
and the invariant of the state it leaves on top. -/
theorem Makes.run_keeps {ρ α : Type} {x : StateT ρ n α} {Q : α → List Call → Prop}
    (h : (R.lift ρ).Makes x Q) (J : ρ → Prop) (hk : (R.lift ρ).Keeps (fun p => J p.1) x)
    {r : ρ} (hr : J r) : R.Makes (x.run r) fun p new => Q p.1 new ∧ J p.2 := by
  intro s
  obtain ⟨new, hc, hq⟩ := h (r, s)
  exact ⟨new, hc, hq, hk (r, s) hr⟩

end Recording

open Recording

variable {n : Type → Type} [Monad n]

/-- The calls of the engine's world and of its guard all keep `I`. -/
structure KeepsEngine (R : Recording n) (I : R.State → Prop) (env : Env n) (g : Guard n) :
    Prop where
  now : R.Keeps I env.now
  shutdown : R.Keeps I env.shutdown
  sleep (d : Int) : R.Keeps I (env.sleep d)
  draw : R.Keeps I env.draw
  observe (e : Event) : R.Keeps I (env.observe e)
  permit : R.Keeps I g.permit
  succeeded (t : Nat) : R.Keeps I (g.succeeded t)
  failed (t : Nat) : R.Keeps I (g.failed t)
  released (t : Nat) : R.Keeps I (g.released t)
  cooldown : R.Keeps I g.cooldown
  reject : R.Keeps I g.reject

/-- A world and a guard of the monad below leave the state on top alone. -/
theorem KeepsEngine.lift_top {R : Recording n} {ρ : Type} (J : ρ → Prop) (env : Env n)
    (g : Guard n) : KeepsEngine (R.lift ρ) (fun p => J p.1) env.lift g.lift :=
  have top : ∀ p s, J (p : (R.lift ρ).State).1 → J (p.1, s).1 := fun _ _ h => h
  { now := Keeps.lift_top top _, shutdown := Keeps.lift_top top _,
    sleep := fun _ => Keeps.lift_top top _, draw := Keeps.lift_top top _,
    observe := fun _ => Keeps.lift_top top _, permit := Keeps.lift_top top _,
    succeeded := fun _ => Keeps.lift_top top _, failed := fun _ => Keeps.lift_top top _,
    released := fun _ => Keeps.lift_top top _, cooldown := Keeps.lift_top top _,
    reject := Keeps.lift_top top _ }

/-- A world and a guard that keep an invariant below keep it with a state on top. -/
theorem KeepsEngine.lift {R : Recording n} {I : R.State → Prop} {env : Env n} {g : Guard n}
    (h : KeepsEngine R I env g) (ρ : Type) :
    KeepsEngine (R.lift ρ) (fun p => I p.2) env.lift g.lift :=
  { now := h.now.lift, shutdown := h.shutdown.lift, sleep := fun d => (h.sleep d).lift,
    draw := h.draw.lift, observe := fun e => (h.observe e).lift, permit := h.permit.lift,
    succeeded := fun t => (h.succeeded t).lift, failed := fun t => (h.failed t).lift,
    released := fun t => (h.released t).lift, cooldown := h.cooldown.lift,
    reject := h.reject.lift }

/-- Every call the engine makes of a world, a guard and attempts that keep `I` keeps it. -/
theorem KeepsEngine.answered {R : Recording n} {I : R.State → Prop} {env : Env n} {g : Guard n}
    {attempt : Nat → Option Int → n (Option Fault)} {deadline : Option Int}
    (h : KeepsEngine R I env g) (ha : ∀ k d, R.Keeps I (attempt k d)) {a : Act} {s s' : R.State}
    (hA : a.Answered R.toReading env g attempt deadline s s') : I s → I s' := by
  cases a with
  | now t => exact h.now.answered hA
  | shutdown x => exact h.shutdown.answered hA
  | sleep w x => exact (h.sleep w).answered hA
  | draw r => exact h.draw.answered hA
  | observe e => exact (h.observe e).answered hA
  | permit t ok => exact h.permit.answered hA
  | succeeded t => exact (h.succeeded t).answered hA
  | failed t => exact (h.failed t).answered hA
  | released t => exact (h.released t).answered hA
  | cooldown w => exact h.cooldown.answered hA
  | reject r => exact h.reject.answered hA
  | attempt k e => exact (ha k deadline).answered hA

/-- **A run of the engine under a policy keeps an invariant** that every call of its world, of
its guard and of its attempts keeps, for any number of turns: each of its calls keeps it. -/
theorem run_keeps {R : Recording n} {I : R.State → Prop} {env : Env n} {g : Guard n}
    {attempt : Nat → Option Int → n (Option Fault)} (h : KeepsEngine R I env g)
    (ha : ∀ k d, R.Keeps I (attempt k d)) (fuel : Nat) (c : Config) (classify : Fault → Bool) :
    R.Keeps I (Retry.run fuel c env g classify attempt) := fun s =>
  run_rel R.toReading env g attempt (r := fun s s' => I s → I s') (fun _ hs => hs)
    (fun _ _ _ h₁ h₂ hs => h₂ (h₁ hs)) (fun _ _ _ _ hA => h.answered ha hA) fuel c classify s

end Conveyor.Pipeline
