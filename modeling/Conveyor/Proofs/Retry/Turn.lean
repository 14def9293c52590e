import Conveyor.Retry.Engine
/-!
# What one turn of the retry engine does

The engine is written over any monad. To reason about it over every world at once, a monad is
read as state transformers (`Reading`): a program run from a state gives its value and the
state it leaves. A turn of the engine is then a chain of calls of the world, the guard and the
attempt, each answered from the state it was made in (`Acted`), and the answers decide where
the turn goes.

`Goes` lists every way through a turn, with the calls it makes and what it checked on the way:
shutdown, a passed deadline, a refusal whose wait would not fit, was cut short or was waited out,
and an attempt that succeeded, failed for good, used up the retries, or failed and was followed
by a backoff that would not fit, was cut short or was waited out. `turn_goes` proves, once, that
every turn over every world goes one of these ways; it is the only proof here that executes a
turn. A run of the loop is then a chain of such turns (`Ran`, `loop_ran`), and every property
of the engine's runs (its protocol, its reasons, its deadline, its breaker, its counters) is a
case analysis over `Goes` carried along the chain by induction.

More turns never change the answer of a run that has ended (`exec_loop_add`), so a bound on
the turns a run needs gives its answer for every budget beyond it.
-/

namespace Conveyor.Retry

/-! ### Worlds read as state transformers -/

/-- A monad read as state transformers: a program, run from a state, gives its value and the
state it leaves; running a value changes nothing, and running a sequence runs its parts in
turn. -/
structure Reading (n : Type → Type) [Monad n] where
  State : Type
  exec : {α : Type} → n α → State → α × State
  exec_pure {α : Type} (a : α) (s : State) : exec (pure a) s = (a, s)
  exec_bind {α β : Type} (x : n α) (f : α → n β) (s : State) :
    exec (x >>= f) s = exec (f (exec x s).1) (exec x s).2

/-- A state monad read as what it is. -/
def Reading.ofState (σ : Type) : Reading (StateM σ) where
  State := σ
  exec x s := x.run s
  exec_pure _ _ := rfl
  exec_bind _ _ _ := rfl

section StateM

variable {σ : Type}

/-- A step of a state monad runs its first part, then the rest from where it left off. -/
theorem run_bind {α β : Type} (x : StateM σ α) (f : α → StateM σ β) (s : σ) :
    (x >>= f).run s = (f (x.run s).1).run (x.run s).2 := rfl

/-- A pure step leaves the state as it is. -/
theorem run_pure {α : Type} (a : α) (s : σ) : (pure a : StateM σ α).run s = (a, s) := rfl

end StateM

/-! ### Calls and their answers -/

/-- One call the engine made of its world, its guard or its attempt, with the answer it got. -/
inductive Act where
  | now (t : Int)
  | shutdown (answer : Option Fault)
  | sleep (wait : Int) (answer : Option Fault)
  | draw (r : Float)
  | observe (e : Event)
  | permit (ticket : Nat) (admitted : Bool)
  | succeeded (ticket : Nat)
  | failed (ticket : Nat)
  | released (ticket : Nat)
  | cooldown (wait : Int)
  | reject (rejection : Option Fault)
  | attempt (number : Nat) (err : Option Fault)

section Answers

variable {n : Type → Type} [Monad n] (R : Reading n) (env : Env n) (g : Guard n)
  (attempt : Nat → Option Int → n (Option Fault)) (deadline : Option Int)

/-- The call, made from the state `s`, got the act's answer and left the state `s'`; attempts
are made under the run's deadline. -/
def Act.Answered : Act → R.State → R.State → Prop
  | .now t, s, s' => R.exec env.now s = (t, s')
  | .shutdown a, s, s' => R.exec env.shutdown s = (a, s')
  | .sleep w a, s, s' => R.exec (env.sleep w) s = (a, s')
  | .draw r, s, s' => R.exec env.draw s = (r, s')
  | .observe e, s, s' => R.exec (env.observe e) s = ((), s')
  | .permit t ok, s, s' => R.exec g.permit s = ((t, ok), s')
  | .succeeded t, s, s' => R.exec (g.succeeded t) s = ((), s')
  | .failed t, s, s' => R.exec (g.failed t) s = ((), s')
  | .released t, s, s' => R.exec (g.released t) s = ((), s')
  | .cooldown w, s, s' => R.exec g.cooldown s = (w, s')
  | .reject r, s, s' => R.exec g.reject s = (r, s')
  | .attempt k e, s, s' => R.exec (attempt k deadline) s = (e, s')

/-- The calls, made one after another from the state `s`, got the answers the acts say and
left the state `s'`. -/
def Acted : List Act → R.State → R.State → Prop
  | [], s, s' => s = s'
  | a :: as, s, s'' => ∃ s', a.Answered R env g attempt deadline s s' ∧ Acted as s' s''

/-- `x`, run from any state, makes calls that get the answers of some acts, and returns a value
that `Q` accepts with those acts. -/
def Does {α : Type} (x : n α) (Q : α → List Act → Prop) : Prop :=
  ∀ s, ∃ acts, Acted R env g attempt deadline acts s (R.exec x s).2 ∧ Q (R.exec x s).1 acts

end Answers

section Acted

variable {n : Type → Type} [Monad n] {R : Reading n} {env : Env n} {g : Guard n}
  {attempt : Nat → Option Int → n (Option Fault)} {deadline : Option Int}

@[simp] theorem acted_nil {s s' : R.State} : Acted R env g attempt deadline [] s s' ↔ s = s' :=
  Iff.rfl

@[simp] theorem acted_cons {a : Act} {as : List Act} {s s'' : R.State} :
    Acted R env g attempt deadline (a :: as) s s'' ↔
      ∃ s', a.Answered R env g attempt deadline s s' ∧ Acted R env g attempt deadline as s' s'' :=
  Iff.rfl

/-- Calls made one list after another leave a state between the two. -/
@[simp] theorem acted_append {l₁ l₂ : List Act} {s s'' : R.State} :
    Acted R env g attempt deadline (l₁ ++ l₂) s s'' ↔
      ∃ s', Acted R env g attempt deadline l₁ s s' ∧ Acted R env g attempt deadline l₂ s' s'' := by
  induction l₁ generalizing s with
  | nil => simp
  | cons a as ih =>
    simp only [List.cons_append, acted_cons, ih]
    constructor
    · rintro ⟨s₁, ha, s₂, has, hl⟩
      exact ⟨s₂, ⟨s₁, ha, has⟩, hl⟩
    · rintro ⟨s₂, ⟨s₁, ha, has⟩, hl⟩
      exact ⟨s₁, ha, s₂, has, hl⟩

/-- **A relation that every answered call keeps**, reflexive and transitive, holds between the
states before and after a chain of calls. -/
theorem Acted.rel {r : R.State → R.State → Prop} (hrefl : ∀ s, r s s)
    (htrans : ∀ s₁ s₂ s₃, r s₁ s₂ → r s₂ s₃ → r s₁ s₃) {acts : List Act}
    (hstep : ∀ a ∈ acts, ∀ s s', a.Answered R env g attempt deadline s s' → r s s') :
    ∀ {s s'}, Acted R env g attempt deadline acts s s' → r s s' := by
  induction acts with
  | nil =>
    intro s s' h
    rw [acted_nil.1 h]
    exact hrefl s'
  | cons a as ih =>
    intro s s'' h
    obtain ⟨s', ha, has⟩ := acted_cons.1 h
    exact htrans _ _ _ (hstep a List.mem_cons_self s s' ha)
      (ih (fun b hb => hstep b (List.mem_cons_of_mem a hb)) has)

end Acted

/-! ### Specs of calls and their sequences -/

namespace Does

variable {n : Type → Type} [Monad n] {R : Reading n} {env : Env n} {g : Guard n}
  {attempt : Nat → Option Int → n (Option Fault)} {deadline : Option Int}

theorem pure {α : Type} {a : α} {Q : α → List Act → Prop} (h : Q a []) :
    Does R env g attempt deadline (Pure.pure a) Q := fun s =>
  ⟨[], by rw [R.exec_pure]; rfl, by rw [R.exec_pure]; exact h⟩

theorem mono {α : Type} {x : n α} {P Q : α → List Act → Prop}
    (h : Does R env g attempt deadline x P) (hpq : ∀ a acts, P a acts → Q a acts) :
    Does R env g attempt deadline x Q := fun s =>
  let ⟨acts, hacted, hp⟩ := h s
  ⟨acts, hacted, hpq _ _ hp⟩

theorem ite {α : Type} {c : Prop} [Decidable c] {x y : n α} {Q : α → List Act → Prop}
    (hx : c → Does R env g attempt deadline x Q) (hy : ¬ c → Does R env g attempt deadline y Q) :
    Does R env g attempt deadline (if c then x else y) Q := by
  by_cases h : c
  · rw [if_pos h]
    exact hx h
  · rw [if_neg h]
    exact hy h

/-- **Sequencing.** The acts of `x >>= f` are those of `x` followed by those of `f`. -/
theorem bind {α β : Type} {x : n α} {f : α → n β} {P : α → List Act → Prop}
    {Q : β → List Act → Prop} (hx : Does R env g attempt deadline x P)
    (hf : ∀ a acts, P a acts →
      Does R env g attempt deadline (f a) fun b acts' => Q b (acts ++ acts')) :
    Does R env g attempt deadline (x >>= f) Q := by
  intro s
  obtain ⟨acts, hacted, hp⟩ := hx s
  obtain ⟨acts', hacted', hq⟩ := hf _ _ hp (R.exec x s).2
  refine ⟨acts ++ acts', ?_, ?_⟩
  · rw [R.exec_bind, acted_append]
    exact ⟨_, hacted, hacted'⟩
  · rw [R.exec_bind]
    exact hq

/-- **One call, then the rest.** A call whose answer the act `act` records goes in front of
the acts of what follows. -/
theorem call {α β : Type} {x : n α} (act : α → Act)
    (hx : ∀ s, (act (R.exec x s).1).Answered R env g attempt deadline s (R.exec x s).2)
    {f : α → n β} {Q : β → List Act → Prop}
    (hf : ∀ a, Does R env g attempt deadline (f a) fun b acts => Q b (act a :: acts)) :
    Does R env g attempt deadline (x >>= f) Q :=
  bind (P := fun a acts => acts = [act a]) (fun s => ⟨[act (R.exec x s).1], ⟨_, hx s, rfl⟩, rfl⟩)
    fun a _ h => by
      subst h
      exact hf a

end Does

/-! ### The ways through a turn -/

/-- The wait after a refusal with the cool-down `cd`: the cool-down, or the poll interval when
the guard names none. -/
def Config.refusalWait (c : Config) (cd : Int) : Int := if cd ≤ 0 then c.poll else cd

/-- The deadline has not passed at time `t`. -/
def Open (deadline : Option Int) (t : Int) : Prop := ∀ d, deadline = some d → t < d

/-- A wait that does not fit was under a deadline it would pass. -/
theorem late_of_fits {deadline : Option Int} {t w : Int} (h : fits deadline t w = false) :
    ∃ d, deadline = some d ∧ d < t + w := by
  cases deadline with
  | none => cases h
  | some d =>
    simp only [fits, decide_eq_false_iff_not] at h
    exact ⟨d, rfl, by omega⟩

/-- The calls a turn opens with once shutdown has not begun: the check, then the clock. -/
def opening (t : Int) : List Act := [.shutdown none, .now t]

/-- The calls after the guard refused the ticket `tk`: the refusal, the cool-down, the event
with the wait, and the clock. -/
def refusal (c : Config) (tk : Nat) (rej : Option Fault) (cd t : Int) : List Act :=
  [.permit tk false, .reject rej, .cooldown cd, .observe (.rejected (c.refusalWait cd)), .now t]

/-- The calls of an admitted ticket `tk`: the clock, the attempt numbered `k`, the clock again,
and the event with the attempt's answer. -/
def trial (tk k : Nat) (start : Int) (err : Option Fault) (stop : Int) : List Act :=
  [.permit tk true, .now start, .attempt k err, .now stop, .observe (.attempted k err)]

/-- The calls before a backoff: a random draw when the policy jitters, and the clock. -/
def backoff (c : Config) (r : Float) (t : Int) : List Act :=
  (if c.jitters then [.draw r] else []) ++ [.now t]

theorem backoff_append (c : Config) (r : Float) (t : Int) (acts : List Act) :
    backoff c r t ++ acts = (if c.jitters then [.draw r] else []) ++ .now t :: acts := by
  simp [backoff]

/-- The calls of a backoff of `w`: the event, and the wait with its answer. -/
def waiting (w : Int) (a : Option Fault) : List Act := [.observe (.backedOff w), .sleep w a]

/-- The report with one more attempt, numbered `k`, timed from `start` to `stop`. -/
def Report.tried (rep : Report) (k : Nat) (err : Option Fault) (start stop : Int) : Report :=
  { rep with attempts := rep.attempts ++ [Attempt.mk k err start (Duration.clamp (stop - start))] }

/-- **Every way through a turn** of the engine after `made` attempts, the last of which failed
with `last`, from the report `rep`: the calls the turn makes, with what it checked on the way,
and where it leaves the run. -/
inductive Goes (c : Config) (classify : Fault → Bool) (deadline : Option Int) (made : Nat)
    (last : Option Fault) (rep : Report) : List Act → Step → Prop
  /-- Shutdown had begun. -/
  | stopped (e : Fault) :
      Goes c classify deadline made last rep [.shutdown (some e)]
        (Step.done { rep with err := Fault.join [some (.sentinel .interrupted), some e, last] })
  /-- The deadline had passed when the turn began. -/
  | expired (t d : Int) (hd : deadline = some d) (ht : d ≤ t) :
      Goes c classify deadline made last rep (opening t)
        (Step.done { rep with err := Fault.join [some (.sentinel .deadlinePassed), last] })
  /-- The guard refused, and its wait would not fit before the deadline. -/
  | refusedLate (t : Int) (tk : Nat) (rej : Option Fault) (cd t' : Int) (ht : Open deadline t)
      (hfit : fits deadline t' (c.refusalWait cd) = false) :
      Goes c classify deadline made last rep (opening t ++ refusal c tk rej cd t')
        (Step.done { rep with
          rejections := rep.rejections + 1
          err := Fault.join [some (.sentinel .deadlinePassed), rej, last] })
  /-- The guard refused, and shutdown cut its wait short. -/
  | refusedCut (t : Int) (tk : Nat) (rej : Option Fault) (cd t' : Int) (e : Fault)
      (ht : Open deadline t) (hfit : fits deadline t' (c.refusalWait cd) = true) :
      Goes c classify deadline made last rep
        (opening t ++ refusal c tk rej cd t' ++ [.sleep (c.refusalWait cd) (some e)])
        (Step.done { rep with
          rejections := rep.rejections + 1
          err := Fault.join [some (.sentinel .interrupted), rej, last] })
  /-- The guard refused, and its wait was waited out. -/
  | refusedWaited (t : Int) (tk : Nat) (rej : Option Fault) (cd t' : Int) (ht : Open deadline t)
      (hfit : fits deadline t' (c.refusalWait cd) = true) :
      Goes c classify deadline made last rep
        (opening t ++ refusal c tk rej cd t' ++ [.sleep (c.refusalWait cd) none])
        (Step.next made last { rep with
          rejections := rep.rejections + 1
          waited := Duration.wrap (rep.waited + c.refusalWait cd) })
  /-- The attempt succeeded. -/
  | succeeded (t : Int) (tk : Nat) (start stop : Int) (ht : Open deadline t) :
      Goes c classify deadline made last rep
        (opening t ++ trial tk (made + 1) start none stop ++ [.succeeded tk])
        (Step.done { rep.tried (made + 1) none start stop with err := none })
  /-- The attempt failed with a fault not to be retried. -/
  | released (t : Int) (tk : Nat) (start : Int) (f : Fault) (stop : Int) (ht : Open deadline t)
      (hcl : classify f = false) :
      Goes c classify deadline made last rep
        (opening t ++ trial tk (made + 1) start (some f) stop ++ [.released tk])
        (Step.done { rep.tried (made + 1) (some f) start stop with err := some f })
  /-- The attempt failed, and it was the last the retries allow. -/
  | exhausted (t : Int) (tk : Nat) (start : Int) (f : Fault) (stop : Int) (ht : Open deadline t)
      (hcl : classify f = true) (hex : c.maxRetries < ((made + 1 : Nat) : Int)) :
      Goes c classify deadline made last rep
        (opening t ++ trial tk (made + 1) start (some f) stop ++ [.failed tk])
        (Step.done { rep.tried (made + 1) (some f) start stop with
          err := Fault.join [some (.sentinel .exhausted), some f] })
  /-- The attempt failed, and the backoff after it would not fit before the deadline. -/
  | backoffLate (t : Int) (tk : Nat) (start : Int) (f : Fault) (stop : Int) (r : Float)
      (t' : Int) (ht : Open deadline t) (hcl : classify f = true)
      (hex : ((made + 1 : Nat) : Int) ≤ c.maxRetries) (hr : c.jitters = false → r = 0)
      (hfit : fits deadline t' (c.delay (made + 1) r) = false) :
      Goes c classify deadline made last rep
        (opening t ++ trial tk (made + 1) start (some f) stop ++ [.failed tk] ++ backoff c r t')
        (Step.done { rep.tried (made + 1) (some f) start stop with
          err := Fault.join [some (.sentinel .deadlinePassed), some f] })
  /-- The attempt failed, and shutdown cut the backoff after it short. -/
  | backoffCut (t : Int) (tk : Nat) (start : Int) (f : Fault) (stop : Int) (r : Float)
      (t' : Int) (e : Fault) (ht : Open deadline t) (hcl : classify f = true)
      (hex : ((made + 1 : Nat) : Int) ≤ c.maxRetries) (hr : c.jitters = false → r = 0)
      (hfit : fits deadline t' (c.delay (made + 1) r) = true) :
      Goes c classify deadline made last rep
        (opening t ++ trial tk (made + 1) start (some f) stop ++ [.failed tk] ++ backoff c r t' ++
          waiting (c.delay (made + 1) r) (some e))
        (Step.done { rep.tried (made + 1) (some f) start stop with
          err := Fault.join [some (.sentinel .interrupted), some f] })
  /-- The attempt failed, and the backoff after it was waited out. -/
  | backedOff (t : Int) (tk : Nat) (start : Int) (f : Fault) (stop : Int) (r : Float) (t' : Int)
      (ht : Open deadline t) (hcl : classify f = true)
      (hex : ((made + 1 : Nat) : Int) ≤ c.maxRetries) (hr : c.jitters = false → r = 0)
      (hfit : fits deadline t' (c.delay (made + 1) r) = true) :
      Goes c classify deadline made last rep
        (opening t ++ trial tk (made + 1) start (some f) stop ++ [.failed tk] ++ backoff c r t' ++
          waiting (c.delay (made + 1) r) none)
        (Step.next (made + 1) (some f) { rep.tried (made + 1) (some f) start stop with
          waited := Duration.wrap (rep.waited + c.delay (made + 1) r) })

section Turn

variable {n : Type → Type} [Monad n] (R : Reading n) (env : Env n) (g : Guard n)
  (attempt : Nat → Option Int → n (Option Fault)) (deadline : Option Int)

/-- **Every turn goes one of the ways `Goes` lists**, over every world, guard and attempt. -/
theorem turn_goes (c : Config) (classify : Fault → Bool) (made : Nat) (last : Option Fault)
    (rep : Report) :
    Does R env g attempt deadline (turn c env g classify attempt deadline made last rep)
      fun step acts => Goes c classify deadline made last rep acts step := by
  unfold turn
  refine Does.call Act.shutdown (fun _ => by rfl) fun a => ?_
  cases a with
  | some e => exact Does.pure (Goes.stopped e)
  | none =>
    refine Does.call Act.now (fun _ => by rfl) fun t => ?_
    lift_lets
    intro rep' made' jp
    -- past the deadline check, the guard's answer decides the rest of the turn
    have hjp : Open deadline t → Does R env g attempt deadline (jp ())
        fun b acts =>
          Goes c classify deadline made last rep (.shutdown none :: .now t :: acts) b := by
      intro ht
      dsimp -zeta only [jp]
      refine Does.call (fun p => Act.permit p.1 p.2) (fun _ => by rfl) fun p => ?_
      obtain ⟨tk, ok⟩ := p
      cases ok with
      | false =>
        -- refused: the cool-down, or the poll interval, is waited out
        refine Does.ite (fun _ => ?_) fun h => absurd rfl h
        refine Does.call Act.reject (fun _ => by rfl) fun rej => ?_
        refine Does.call Act.cooldown (fun _ => by rfl) fun cd => ?_
        refine Does.call (fun _ => Act.observe (.rejected (c.refusalWait cd))) (fun _ => by rfl)
          fun _ => ?_
        refine Does.call Act.now (fun _ => by rfl) fun t' => ?_
        refine Does.ite (fun hfit => Does.pure (Goes.refusedLate t tk rej cd t' ht
          (by simpa [Config.refusalWait] using hfit))) fun hfit => ?_
        have hfit' : fits deadline t' (c.refusalWait cd) = true := by
          simpa [Config.refusalWait] using hfit
        refine Does.call (Act.sleep (c.refusalWait cd)) (fun _ => by rfl) fun a => ?_
        cases a with
        | some e =>
          exact Does.ite (fun _ => Does.pure (Goes.refusedCut t tk rej cd t' e ht hfit'))
            fun h => absurd rfl h
        | none =>
          exact Does.ite (fun h => absurd h (by simp))
            fun _ => Does.pure (Goes.refusedWaited t tk rej cd t' ht hfit')
      | true =>
        -- admitted: one attempt, reported to the guard at once
        refine Does.ite (fun h => absurd h (by simp)) fun _ => ?_
        refine Does.call Act.now (fun _ => by rfl) fun start => ?_
        refine Does.call (Act.attempt (made + 1)) (fun _ => by rfl) fun err => ?_
        refine Does.call Act.now (fun _ => by rfl) fun stop => ?_
        refine Does.call (fun _ => Act.observe (.attempted (made + 1) err)) (fun _ => by rfl)
          fun _ => ?_
        cases err with
        | none =>
          exact Does.call (fun _ => Act.succeeded tk) (fun _ => by rfl)
            fun _ => Does.pure (Goes.succeeded t tk start stop ht)
        | some f =>
          dsimp -zeta only
          lift_lets
          intro jp'
          -- the backoff after a failure to retry, after a draw or without one
          have hback : ∀ r, (c.jitters = false → r = 0) → classify f = true →
              ((made + 1 : Nat) : Int) ≤ c.maxRetries → Does R env g attempt deadline (jp' r)
                fun b acts => Goes c classify deadline made last rep
                  (opening t ++ trial tk (made + 1) start (some f) stop ++ [.failed tk] ++
                    ((if c.jitters then [.draw r] else []) ++ acts)) b := by
            intro r hr hcl hex
            dsimp -zeta only [jp']
            refine Does.call Act.now (fun _ => by rfl) fun t' => ?_
            refine Does.ite (fun hfit => Does.pure (Goes.backoffLate t tk start f stop r t' ht hcl
              hex hr (by simpa using hfit))) fun hfit => ?_
            have hfit' : fits deadline t' (c.delay (made + 1) r) = true := by simpa using hfit
            refine Does.call (fun _ => Act.observe (.backedOff (c.delay (made + 1) r)))
              (fun _ => by rfl) fun _ => ?_
            refine Does.call (Act.sleep (c.delay (made + 1) r)) (fun _ => by rfl) fun a => ?_
            cases a with
            | some e =>
              refine Does.ite (fun _ => Does.pure ?_) fun h => absurd rfl h
              have h : Goes c classify deadline made last rep _ _ :=
                Goes.backoffCut t tk start f stop r t' e ht hcl hex hr hfit'
              rw [List.append_assoc, backoff_append] at h
              exact h
            | none =>
              refine Does.ite (fun h => absurd h (by simp)) fun _ => Does.pure ?_
              have h : Goes c classify deadline made last rep _ _ :=
                Goes.backedOff t tk start f stop r t' ht hcl hex hr hfit'
              rw [List.append_assoc, backoff_append] at h
              exact h
          refine Does.ite (fun hcl => ?_) fun hcl => ?_
          · exact Does.call (fun _ => Act.released tk) (fun _ => by rfl)
              fun _ => Does.pure (Goes.released t tk start f stop ht (by simpa using hcl))
          have hcl' : classify f = true := by simpa using hcl
          refine Does.call (fun _ => Act.failed tk) (fun _ => by rfl) fun _ => ?_
          refine Does.ite (fun hex => Does.pure (Goes.exhausted t tk start f stop ht hcl' hex))
            fun hex => ?_
          have hex' : ((made + 1 : Nat) : Int) ≤ c.maxRetries := Int.not_lt.1 hex
          refine Does.ite (fun hj => ?_) fun hj => ?_
          · refine Does.call Act.draw (fun _ => by rfl) fun r => ?_
            refine (hback r (fun h => by simp [hj] at h) hcl' hex').mono fun b acts h => ?_
            rw [if_pos hj] at h
            exact h
          · have h0 : Does R env g attempt deadline (pure 0 : n Float) fun r acts =>
                r = 0 ∧ acts = [] := Does.pure ⟨rfl, rfl⟩
            refine Does.bind h0 fun r acts hr => ?_
            obtain ⟨rfl, rfl⟩ := hr
            refine (hback 0 (fun _ => rfl) hcl' hex').mono fun b acts h => ?_
            rw [if_neg hj] at h
            exact h
    cases deadline with
    | none => exact hjp fun d hd => by cases hd
    | some d =>
      refine Does.ite (fun hexp => Does.pure (Goes.expired t d rfl hexp)) fun hexp => ?_
      refine hjp fun d' hd => ?_
      cases hd
      omega

end Turn

/-! ### Runs as chains of turns -/

section Loop

variable {n : Type → Type} [Monad n] (R : Reading n) (env : Env n) (g : Guard n)
  (attempt : Nat → Option Int → n (Option Fault)) (deadline : Option Int) (c : Config)
  (classify : Fault → Bool)

/-- **A run of the loop from a turn on**, after `made` attempts, the last of which failed with
`last`, with the report `rep`, from the state `s` with at most `fuel` turns: every turn makes
calls answered one after another and goes one of the ways `Goes` lists, until a turn ends the
run with its report, or the turns run out with none; `s'` is the state it leaves. -/
inductive Ran : Nat → Nat → Option Fault → Report → R.State → Option Report → R.State → Prop
  | out (made : Nat) (last : Option Fault) (rep : Report) (s : R.State) :
      Ran 0 made last rep s none s
  | done {fuel made : Nat} {last : Option Fault} {rep : Report} {s : R.State} {acts : List Act}
      {rep' : Report} {s' : R.State} :
      Acted R env g attempt deadline acts s s' →
      Goes c classify deadline made last rep acts (.done rep') →
      Ran (fuel + 1) made last rep s (some rep') s'
  | next {fuel made : Nat} {last : Option Fault} {rep : Report} {s : R.State} {acts : List Act}
      {made' : Nat} {last' : Option Fault} {rep' : Report} {s' : R.State} {res : Option Report}
      {s'' : R.State} :
      Acted R env g attempt deadline acts s s' →
      Goes c classify deadline made last rep acts (.next made' last' rep') →
      Ran fuel made' last' rep' s' res s'' →
      Ran (fuel + 1) made last rep s res s''

theorem exec_loop_zero (made : Nat) (last : Option Fault) (rep : Report) (s : R.State) :
    R.exec (loop c env g classify attempt deadline 0 made last rep) s = (none, s) := by
  rw [loop, R.exec_pure]

/-- A turn that ends the run gives the run's answer. -/
theorem exec_loop_done {fuel made : Nat} {last : Option Fault} {rep rep' : Report} {s : R.State}
    (h : (R.exec (turn c env g classify attempt deadline made last rep) s).1 = .done rep') :
    R.exec (loop c env g classify attempt deadline (fuel + 1) made last rep) s =
      (some rep', (R.exec (turn c env g classify attempt deadline made last rep) s).2) := by
  rw [loop, R.exec_bind, h]
  exact R.exec_pure _ _

/-- A turn that hands over leaves the rest of the run to the next turn. -/
theorem exec_loop_next {fuel made made' : Nat} {last last' : Option Fault} {rep rep' : Report}
    {s : R.State}
    (h : (R.exec (turn c env g classify attempt deadline made last rep) s).1 =
      .next made' last' rep') :
    R.exec (loop c env g classify attempt deadline (fuel + 1) made last rep) s =
      R.exec (loop c env g classify attempt deadline fuel made' last' rep')
        (R.exec (turn c env g classify attempt deadline made last rep) s).2 := by
  rw [loop, R.exec_bind, h]

/-- **Every run of the loop is a chain of turns**, each going one of the ways `Goes` lists. -/
theorem loop_ran (fuel made : Nat) (last : Option Fault) (rep : Report) (s : R.State) :
    Ran R env g attempt deadline c classify fuel made last rep s
      (R.exec (loop c env g classify attempt deadline fuel made last rep) s).1
      (R.exec (loop c env g classify attempt deadline fuel made last rep) s).2 := by
  induction fuel generalizing made last rep s with
  | zero =>
    rw [exec_loop_zero]
    exact .out made last rep s
  | succ fuel ih =>
    obtain ⟨acts, hacted, hgoes⟩ := turn_goes R env g attempt deadline c classify made last rep s
    rcases hstep : (R.exec (turn c env g classify attempt deadline made last rep) s).1 with
      rep' | ⟨made', last', rep'⟩
    · rw [exec_loop_done R env g attempt deadline c classify hstep]
      exact .done hacted (hstep ▸ hgoes)
    · rw [exec_loop_next R env g attempt deadline c classify hstep]
      exact .next hacted (hstep ▸ hgoes) (ih made' last' rep' _)

/-- **More turns never change the answer of a run that has ended.** -/
theorem exec_loop_add (extra : Nat) : ∀ (fuel made : Nat) (last : Option Fault) (rep : Report)
    (s : R.State), (R.exec (loop c env g classify attempt deadline fuel made last rep) s).1.isSome →
      R.exec (loop c env g classify attempt deadline (fuel + extra) made last rep) s =
        R.exec (loop c env g classify attempt deadline fuel made last rep) s := by
  intro fuel
  induction fuel with
  | zero =>
    intro made last rep s h
    rw [exec_loop_zero] at h
    cases h
  | succ fuel ih =>
    intro made last rep s h
    rw [Nat.add_right_comm]
    rcases hstep : (R.exec (turn c env g classify attempt deadline made last rep) s).1 with
      rep' | ⟨made', last', rep'⟩
    · rw [exec_loop_done R env g attempt deadline c classify hstep,
        exec_loop_done R env g attempt deadline c classify hstep]
    · rw [exec_loop_next R env g attempt deadline c classify hstep] at h ⊢
      rw [exec_loop_next R env g attempt deadline c classify hstep]
      exact ih made' last' rep' _ h

end Loop

section Kept

variable {n : Type → Type} [Monad n] {R : Reading n} {env : Env n} {g : Guard n}
  {attempt : Nat → Option Int → n (Option Fault)} {deadline : Option Int} {c : Config}
  {classify : Fault → Bool}

/-- **A relation that every answered call keeps**, reflexive and transitive, holds between the
states before and after a run of the loop: each turn is a chain of such calls. -/
theorem Ran.rel {r : R.State → R.State → Prop} (hrefl : ∀ s, r s s)
    (htrans : ∀ s₁ s₂ s₃, r s₁ s₂ → r s₂ s₃ → r s₁ s₃)
    (hstep : ∀ (a : Act) s s', a.Answered R env g attempt deadline s s' → r s s')
    {fuel made : Nat} {last : Option Fault} {rep : Report} {s : R.State} {res : Option Report}
    {s' : R.State} (h : Ran R env g attempt deadline c classify fuel made last rep s res s') :
    r s s' := by
  induction h with
  | out => exact hrefl _
  | done hacted _ => exact Acted.rel hrefl htrans (fun a _ => hstep a) hacted
  | next hacted _ _ ih => exact htrans _ _ _ (Acted.rel hrefl htrans (fun a _ => hstep a) hacted) ih

end Kept

/-! ### Runs under a policy -/

/-- How a run opens: under a deadline it reads the clock once and sets the deadline that far
from then; without one it makes no call. -/
inductive Opens (c : Config) : List Act → Option Int → Prop
  | timed (t : Int) (h : 0 < c.deadlineNs) : Opens c [.now t] (some (t + c.deadlineNs))
  | untimed (h : ¬ 0 < c.deadlineNs) : Opens c [] none

section Run

variable {n : Type → Type} [Monad n] (R : Reading n) (env : Env n) (g : Guard n)
  (attempt : Nat → Option Int → n (Option Fault))

/-- **A run under a policy opens, then runs the loop** of its policy made normal, from the
first turn, with as many turns as the run has. -/
theorem run_opens (c : Config) (classify : Fault → Bool) (s : R.State) :
    ∃ acts deadline s₁, Opens c acts deadline ∧ Acted R env g attempt deadline acts s s₁ ∧
      ∀ fuel, R.exec (run fuel c env g classify attempt) s =
        R.exec (loop c.normalize env g classify attempt deadline fuel 0 none {}) s₁ := by
  by_cases hD : 0 < c.deadlineNs
  · have hpos : c.normalize.deadlineNs > 0 := hD
    refine ⟨[.now (R.exec env.now s).1], some ((R.exec env.now s).1 + c.deadlineNs),
      (R.exec env.now s).2, .timed _ hD, ⟨_, by rfl, rfl⟩, fun fuel => ?_⟩
    unfold run
    simp only [R.exec_bind, if_pos hpos, R.exec_pure]
    rfl
  · have hpos : ¬ c.normalize.deadlineNs > 0 := hD
    refine ⟨[], none, s, .untimed hD, rfl, fun fuel => ?_⟩
    unfold run
    simp only [R.exec_bind, if_neg hpos, R.exec_pure]

/-- **A relation that every answered call keeps**, under any deadline, holds between the state a
run under a policy starts from and the state it leaves. -/
theorem run_rel {r : R.State → R.State → Prop} (hrefl : ∀ s, r s s)
    (htrans : ∀ s₁ s₂ s₃, r s₁ s₂ → r s₂ s₃ → r s₁ s₃)
    (hstep : ∀ deadline (a : Act) s s', a.Answered R env g attempt deadline s s' → r s s')
    (fuel : Nat) (c : Config) (classify : Fault → Bool) (s : R.State) :
    r s (R.exec (run fuel c env g classify attempt) s).2 := by
  obtain ⟨acts, deadline, s₁, -, hacted, hrun⟩ := run_opens R env g attempt c classify s
  rw [hrun]
  exact htrans _ _ _ (Acted.rel hrefl htrans (fun a _ => hstep deadline a) hacted)
    (Ran.rel hrefl htrans (hstep deadline) (loop_ran R env g attempt deadline c.normalize classify
      fuel 0 none {} s₁))

end Run

end Conveyor.Retry
