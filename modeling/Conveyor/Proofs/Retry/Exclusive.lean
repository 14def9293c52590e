import Conveyor.Proofs.Retry.Deadline
import Conveyor.Breaker
/-!
# A breaker with one caller never burns the retry budget

A breaker that guards the retry engine and has no other caller is left, between the engine's
turns, with no trial under way (`Breaker.Settled`): the engine reports every ticket it was
given, on every way out of a turn. A settled breaker refuses a call only while it is open with
cool-down left (`Breaker.Settled.refused`); the engine then waits that cool-down, and once the
clock has passed it the breaker admits the next call as a trial and turns half-open
(`Breaker.permit_of_ready`). So the engine never meets two refusals in a row.

The world is any state monad whose breaker only the engine's guard changes, at the world's
clock, and whose clock stands still while the engine reads it, draws, observes or asks the
guard, and moves on by at least the wait in a wait that shutdown does not cut short
(`Exclusive`). What each call does to the clock and the breaker is said once (`Act.Guards`,
`Exclusive.guards`). From it, each way through a turn (`Goes`) from a settled breaker ends the
run (`Goes.closes`) or hands over (`Goes.passes`) as `Closes` and `Passes` say, and by induction
on the turns (`run_exclusive_breaker`):

* the run refuses at most once more than it attempts (`Tally` is kept by every turn), and
  leaves the breaker settled;
* the run ends within `2 * (maxRetries + 1)` turns, with a deadline or without one: a turn that
  hands over either attempts within the retries or waits out a refusal after which the breaker
  is ready, so what is left (`turnsLeft`: two turns for each retry, and one or two for the last
  attempt as the breaker is ready or not) goes down.
-/

namespace Conveyor

namespace Breaker

/-- A breaker as its one caller leaves it between calls: no trial under way, room for one, and
an open breaker knows when it opened. -/
structure Settled (b : Breaker) : Prop where
  probes : b.probes = 0
  room : 0 < b.config.maxProbes
  openedAt : b.state = .opened → b.openedAt.isSome

/-- The breaker admits a call at time `now` as far as its cool-down goes: it is not open, or the
cool-down has passed. -/
def Ready (b : Breaker) (now : Int) : Prop :=
  b.state = .opened → b.config.cooldownNs ≤ b.elapsed now

instance (b : Breaker) (now : Int) : Decidable (b.Ready now) :=
  inferInstanceAs (Decidable (b.state = .opened → b.config.cooldownNs ≤ b.elapsed now))

variable {b : Breaker} {now : Int}

/-- A refusal leaves the breaker as it was. -/
theorem permit_refused (h : (b.permit now).1.2 = false) :
    (b.permit now).2 = b := by
  unfold permit at h ⊢
  split
  · simp_all
  · split <;> simp_all
  · split <;> simp_all

/-- The cool-down left at `now`, for an open breaker that knows when it opened: what remains
of the cool-down since then, or nothing. -/
theorem cooldown_opened (ho : b.state = .opened) :
    b.cooldown now = max 0 (b.config.cooldownNs - b.elapsed now) := by
  simp [cooldown, ho]

/-- **A settled breaker admits exactly when it is ready.** -/
theorem Settled.permit_iff (hb : b.Settled) : (b.permit now).1.2 = true ↔ b.Ready now := by
  unfold permit Ready
  cases hs : b.state with
  | closed => simp
  | opened => by_cases h : b.config.cooldownNs ≤ b.elapsed now <;> simp [h]
  | halfOpen => simp [hb.probes, hb.room]

/-- **A settled breaker refuses only while open with cool-down left**, which is then positive. -/
theorem Settled.refused (hb : b.Settled) (h : (b.permit now).1.2 = false) :
    b.state = .opened ∧ ¬ b.Ready now ∧ 0 < b.cooldown now := by
  have hnr : ¬ b.Ready now := fun hr => by simp [hb.permit_iff.2 hr] at h
  have ho : b.state = .opened := Classical.byContradiction fun ho => hnr fun h' => absurd h' ho
  refine ⟨ho, hnr, ?_⟩
  have hlt : b.elapsed now < b.config.cooldownNs := Int.not_le.1 fun hle => hnr fun _ => hle
  rw [cooldown_opened ho]
  omega

/-- **Once the cool-down it named has passed, the breaker is ready.** Its cool-down counts from
the time it opened, which the wait does not move. -/
theorem Settled.ready_after (hb : b.Settled) {now' : Int} (h : now + b.cooldown now ≤ now') :
    b.Ready now' := by
  intro ho
  obtain ⟨t, ht⟩ := Option.isSome_iff_exists.1 (hb.openedAt ho)
  rw [cooldown_opened ho] at h
  simp only [elapsed, ht] at h ⊢
  omega

/-- **A ready open breaker admits the call as a trial**, and turns half-open. -/
theorem permit_of_ready (ho : b.state = .opened) (hr : b.Ready now) :
    (b.permit now).1.2 = true ∧ (b.permit now).2.state = .halfOpen := by
  simp [permit, ho, hr ho]

theorem settled_iff : b.Settled ↔
    b.probes = 0 ∧ 0 < b.config.maxProbes ∧ (b.state = .opened → b.openedAt.isSome) :=
  ⟨fun ⟨h1, h2, h3⟩ => ⟨h1, h2, h3⟩, fun ⟨h1, h2, h3⟩ => ⟨h1, h2, h3⟩⟩

/-- **Reporting the ticket of an admitted call settles the breaker again**, whatever the report:
the trial it may have taken is given back, and a breaker that opens records when. -/
theorem Settled.report (hb : b.Settled) (h : (b.permit now).1.2 = true) (now' : Int) :
    ((b.permit now).2.succeeded (b.permit now).1.1).Settled ∧
      ((b.permit now).2.failed (b.permit now).1.1 now').Settled ∧
      ((b.permit now).2.released (b.permit now).1.1).Settled := by
  obtain ⟨hp, hroom, -⟩ := hb
  obtain ⟨name, config, state, failures, successes, openedAt, probes, generation⟩ := b
  simp only at hp hroom
  subst hp
  cases state with
  | closed =>
    simp only [permit, succeeded, failed, released, settled_iff]
    refine ⟨by simp [hroom], ?_, by simp [hroom]⟩
    by_cases hth : config.failureThreshold ≤ failures + 1 <;> simp [hth, trip, hroom]
  | opened =>
    unfold permit at h ⊢
    simp only at h ⊢
    split
    · simp [succeeded, failed, released, settled_iff, trip, hroom]
    · simp_all
  | halfOpen =>
    simp [permit, hroom, succeeded, failed, released, settled_iff, trip]

end Breaker

namespace Retry

/-! ### A world with one breaker and one caller -/

section World

variable {σ : Type} (clock : σ → Int) (breaker : σ → Breaker)

/-- `x` leaves the breaker as it is. -/
def Untouched {α : Type} (x : StateM σ α) : Prop := ∀ s, breaker (x.run s).2 = breaker s

/-- `x` takes no time and leaves the breaker as it is. -/
def Idle {α : Type} (x : StateM σ α) : Prop := Still clock x ∧ Untouched breaker x

/-- `x` does `f` to the breaker, at the time it is called. -/
def Applies (x : StateM σ Unit) (f : Breaker → Int → Breaker) : Prop :=
  ∀ s, breaker (x.run s).2 = f (breaker s) (clock s)

variable (env : Env (StateM σ)) (g : Guard (StateM σ))
  (attempt : Nat → Option Int → StateM σ (Option Fault))

/-- **A breaker with one caller, the engine.** The guard is the breaker at the world's clock,
and nothing else changes the breaker: not the world, not the attempts. Reading the clock
returns it; the clock stands still while the engine reads it, draws, observes, asks for a ticket
or a cool-down and is refused; and a wait that shutdown does not cut short moves it on by at
least the wait. What attempts and reports do to the clock does not matter. -/
structure Exclusive : Prop where
  now_reads : ∀ s, (env.now.run s).1 = clock s
  now : Idle clock breaker env.now
  shutdown : Idle clock breaker env.shutdown
  draw : Idle clock breaker env.draw
  observe : ∀ e, Idle clock breaker (env.observe e)
  sleep : ∀ w, Untouched breaker (env.sleep w)
  sleep_waits : ∀ w s, 0 ≤ w → ((env.sleep w).run s).1 = none →
    clock s + w ≤ clock ((env.sleep w).run s).2
  attempt : ∀ k dl, Untouched breaker (attempt k dl)
  permit : ∀ s, (g.permit.run s).1 = ((breaker s).permit (clock s)).1 ∧
    breaker (g.permit.run s).2 = ((breaker s).permit (clock s)).2
  permit_still : Still clock g.permit
  succeeded : ∀ t, Applies clock breaker (g.succeeded t) fun b _ => b.succeeded t
  failed : ∀ t, Applies clock breaker (g.failed t) fun b now => b.failed t now
  released : ∀ t, Applies clock breaker (g.released t) fun b _ => b.released t
  cooldown_reads : ∀ s, (g.cooldown.run s).1 = (breaker s).cooldown (clock s)
  cooldown : Idle clock breaker g.cooldown
  reject : Idle clock breaker g.reject

variable {clock breaker}

theorem Untouched.of_run {α : Type} {x : StateM σ α} (hx : Untouched breaker x) {s s' : σ}
    {a : α} (h : x.run s = (a, s')) : breaker s' = breaker s := by
  simpa [h] using hx s

theorem Idle.of_run {α : Type} {x : StateM σ α} (hx : Idle clock breaker x) {s s' : σ} {a : α}
    (h : x.run s = (a, s')) : clock s' = clock s ∧ breaker s' = breaker s :=
  ⟨hx.1.of_run h, hx.2.of_run h⟩

theorem Applies.of_run {x : StateM σ Unit} {f : Breaker → Int → Breaker}
    (hx : Applies clock breaker x f) {s s' : σ} (h : x.run s = ((), s')) :
    breaker s' = f (breaker s) (clock s) := by
  simpa [h] using hx s

variable {env g attempt}

theorem Exclusive.now_of_run (hx : Exclusive clock breaker env g attempt) {s s' : σ} {t : Int}
    (h : env.now.run s = (t, s')) : t = clock s ∧ clock s' = clock s ∧ breaker s' = breaker s :=
  ⟨by simpa [h] using hx.now_reads s, hx.now.of_run h⟩

theorem Exclusive.permit_of_run (hx : Exclusive clock breaker env g attempt) {s s' : σ}
    {p : Nat × Bool} (h : g.permit.run s = (p, s')) :
    p = ((breaker s).permit (clock s)).1 ∧ breaker s' = ((breaker s).permit (clock s)).2 ∧
      clock s' = clock s := by
  obtain ⟨h1, h2⟩ := hx.permit s
  rw [h] at h1 h2
  exact ⟨h1, h2, hx.permit_still.of_run h⟩

theorem Exclusive.cooldown_of_run (hx : Exclusive clock breaker env g attempt) {s s' : σ}
    {cd : Int} (h : g.cooldown.run s = (cd, s')) :
    cd = (breaker s).cooldown (clock s) ∧ clock s' = clock s ∧ breaker s' = breaker s :=
  ⟨by simpa [h] using hx.cooldown_reads s, hx.cooldown.of_run h⟩

/-- A wait that shutdown did not cut short moved the clock on by at least the wait. -/
theorem Exclusive.sleep_of_run (hx : Exclusive clock breaker env g attempt) {w : Int}
    (hw : 0 ≤ w) {s s' : σ} (h : (env.sleep w).run s = (none, s')) : clock s + w ≤ clock s' := by
  simpa [h] using hx.sleep_waits w s hw (by simp [h])

/-- What a call does to the clock and the breaker, read `t` and `b` before it and `t'` and `b'`
after, in a world where the engine alone uses the breaker: the guard's calls are the breaker's
at the clock, a wait not cut short moves the clock on by the wait, and nothing else touches the
breaker or, before an attempt, the clock. -/
def Act.Guards : Act → Int → Breaker → Int → Breaker → Prop
  | .now r, t, b, t', b' => r = t ∧ t' = t ∧ b' = b
  | .shutdown _, t, b, t', b' | .draw _, t, b, t', b' | .observe _, t, b, t', b'
  | .reject _, t, b, t', b' => t' = t ∧ b' = b
  | .cooldown w, t, b, t', b' => w = b.cooldown t ∧ t' = t ∧ b' = b
  | .sleep w none, t, b, t', b' => b' = b ∧ (0 ≤ w → t + w ≤ t')
  | .sleep _ (some _), _, b, _, b' | .attempt _ _, _, b, _, b' => b' = b
  | .permit tk ok, t, b, t', b' => (tk, ok) = (b.permit t).1 ∧ b' = (b.permit t).2 ∧ t' = t
  | .succeeded tk, _, b, _, b' => b' = b.succeeded tk
  | .failed tk, t, b, _, b' => b' = b.failed tk t
  | .released tk, _, b, _, b' => b' = b.released tk

/-- **Every call does to the clock and the breaker what `Act.Guards` says.** -/
theorem Exclusive.guards (hx : Exclusive clock breaker env g attempt) {a : Act}
    {dl : Option Int} {s s' : σ} (h : a.Answered (Reading.ofState σ) env g attempt dl s s') :
    a.Guards (clock s) (breaker s) (clock s') (breaker s') := by
  cases a with
  | now r => exact hx.now_of_run h
  | shutdown e => exact hx.shutdown.of_run h
  | draw r => exact hx.draw.of_run h
  | observe e => exact (hx.observe e).of_run h
  | reject r => exact hx.reject.of_run h
  | cooldown w => exact hx.cooldown_of_run h
  | sleep w e =>
    cases e with
    | none => exact ⟨(hx.sleep w).of_run h, fun hw => hx.sleep_of_run hw h⟩
    | some e => exact (hx.sleep w).of_run h
  | attempt k e => exact (hx.attempt k dl).of_run h
  | permit tk ok => exact hx.permit_of_run h
  | succeeded tk => exact (hx.succeeded tk).of_run h
  | failed tk => exact (hx.failed tk).of_run h
  | released tk => exact (hx.released tk).of_run h

end World

/-- What calls made one after another do to the clock and the breaker. -/
def Guarded : List Act → Int → Breaker → Int → Breaker → Prop
  | [], t, b, t', b' => t' = t ∧ b' = b
  | a :: as, t, b, t'', b'' => ∃ t' b', a.Guards t b t' b' ∧ Guarded as t' b' t'' b''

@[simp] theorem guarded_cons {a : Act} {as : List Act} {t t'' : Int} {b b'' : Breaker} :
    Guarded (a :: as) t b t'' b'' ↔ ∃ t' b', a.Guards t b t' b' ∧ Guarded as t' b' t'' b'' :=
  Iff.rfl

theorem guarded_append {l₁ l₂ : List Act} {t t'' : Int} {b b'' : Breaker} :
    Guarded (l₁ ++ l₂) t b t'' b'' ↔ ∃ t' b', Guarded l₁ t b t' b' ∧ Guarded l₂ t' b' t'' b'' := by
  induction l₁ generalizing t b with
  | nil =>
    simp only [List.nil_append, Guarded]
    constructor
    · exact fun h => ⟨t, b, ⟨rfl, rfl⟩, h⟩
    · rintro ⟨t', b', ⟨rfl, rfl⟩, h⟩
      exact h
  | cons a as ih =>
    simp only [List.cons_append, guarded_cons, ih]
    constructor
    · rintro ⟨t₁, b₁, ha, t₂, b₂, has, hl⟩
      exact ⟨t₂, b₂, ⟨t₁, b₁, ha, has⟩, hl⟩
    · rintro ⟨t₂, b₂, ⟨t₁, b₁, ha, has⟩, hl⟩
      exact ⟨t₁, b₁, ha, t₂, b₂, has, hl⟩

theorem Exclusive.guarded {σ : Type} {clock : σ → Int} {breaker : σ → Breaker}
    {env : Env (StateM σ)} {g : Guard (StateM σ)}
    {attempt : Nat → Option Int → StateM σ (Option Fault)}
    (hx : Exclusive clock breaker env g attempt) {dl : Option Int} {acts : List Act} :
    ∀ {s s' : σ}, Acted (Reading.ofState σ) env g attempt dl acts s s' →
      Guarded acts (clock s) (breaker s) (clock s') (breaker s') := by
  induction acts with
  | nil =>
    intro s s' h
    rw [acted_nil.1 h]
    exact ⟨rfl, rfl⟩
  | cons a as ih =>
    intro s s'' h
    obtain ⟨s', ha, has⟩ := acted_cons.1 h
    exact ⟨clock s', breaker s', hx.guards ha, ih has⟩

/-! ### The pieces of a turn -/

section Pieces

variable {l : List Act} {t t' : Int} {b b' : Breaker}

/-- Calls that end at once leave the clock and the breaker. -/
theorem Guarded.nil (h : Guarded [] t b t' b') : t' = t ∧ b' = b := h

/-- A turn opens by reading the clock, which has not moved, and the breaker is untouched. -/
theorem Guarded.opening {r : Int} (h : Guarded (opening r ++ l) t b t' b') :
    r = t ∧ Guarded l t b t' b' := by
  simp only [Retry.opening, List.cons_append, List.nil_append, guarded_cons] at h
  obtain ⟨t₁, b₁, ⟨rfl, rfl⟩, t₂, b₂, ⟨rfl, rfl, rfl⟩, hl⟩ := h
  exact ⟨rfl, hl⟩

/-- A refused ticket was the breaker's refusal at the turn's time; the refusal leaves the breaker,
and the cool-down read is the breaker's. -/
theorem Guarded.refused {c : Config} {tk : Nat} {rej : Option Fault} {cd r : Int}
    (h : Guarded (refusal c tk rej cd r ++ l) t b t' b') :
    (b.permit t).1.2 = false ∧ cd = b.cooldown t ∧ r = t ∧ Guarded l t b t' b' := by
  simp only [Retry.refusal, List.cons_append, List.nil_append, guarded_cons] at h
  obtain ⟨t₁, b₁, ⟨hp, rfl, rfl⟩, t₂, b₂, ⟨rfl, rfl⟩, t₃, b₃, ⟨rfl, rfl, rfl⟩, t₄, b₄,
    ⟨rfl, rfl⟩, t₅, b₅, ⟨rfl, rfl, rfl⟩, hl⟩ := h
  have href := (congrArg Prod.snd hp).symm
  rw [Breaker.permit_refused href] at hl ⊢
  exact ⟨href, rfl, rfl, hl⟩

/-- An admitted ticket was the breaker's at the turn's time, and the breaker it left is
untouched by the attempt. -/
theorem Guarded.admitted {tk k : Nat} {start stop : Int} {err : Option Fault}
    (h : Guarded (trial tk k start err stop ++ l) t b t' b') :
    (b.permit t).1 = (tk, true) ∧ ∃ m, Guarded l m (b.permit t).2 t' b' := by
  simp only [Retry.trial, List.cons_append, List.nil_append, guarded_cons] at h
  obtain ⟨t₁, b₁, ⟨hp, rfl, rfl⟩, t₂, b₂, ⟨-, rfl, rfl⟩, t₃, b₃, rfl, t₄, b₄, ⟨-, rfl, rfl⟩,
    t₅, b₅, ⟨rfl, rfl⟩, hl⟩ := h
  exact ⟨hp.symm, _, hl⟩

/-- Before a backoff the clock is read, after a draw or none; neither moves anything. -/
theorem Guarded.backoff {c : Config} {r : Float} {u : Int}
    (h : Guarded (backoff c r u ++ l) t b t' b') : Guarded l t b t' b' := by
  rw [backoff_append, guarded_append] at h
  obtain ⟨t₁, b₁, hd, t₂, b₂, ⟨-, rfl, rfl⟩, hl⟩ := h
  -- the draw, when the policy jitters, moves nothing
  split at hd
  · obtain ⟨t₃, b₃, ⟨rfl, rfl⟩, rfl, rfl⟩ := hd
    exact hl
  · obtain ⟨rfl, rfl⟩ := hd
    exact hl

/-- A wait leaves the breaker, and one not cut short moves the clock on by the wait. -/
theorem Guarded.sleep {w : Int} {a : Option Fault} (h : Guarded [.sleep w a] t b t' b') :
    b' = b ∧ (a = none → 0 ≤ w → t + w ≤ t') := by
  obtain ⟨t₁, b₁, hs, rfl, rfl⟩ := h
  cases a with
  | none => exact ⟨hs.1, fun _ => hs.2⟩
  | some e => exact ⟨hs, fun h => by cases h⟩

/-- A backoff leaves the breaker, and one not cut short moves the clock on by the wait. -/
theorem Guarded.waiting {w : Int} {a : Option Fault} (h : Guarded (waiting w a) t b t' b') :
    b' = b ∧ (a = none → 0 ≤ w → t + w ≤ t') := by
  obtain ⟨t₁, b₁, ⟨rfl, rfl⟩, hs⟩ := h
  exact hs.sleep

/-- The report of a ticket is the breaker's report. -/
theorem Guarded.report {x : Act} (h : Guarded [x] t b t' b') : x.Guards t b t' b' := by
  obtain ⟨t₁, b₁, hx, rfl, rfl⟩ := h
  exact hx

end Pieces

/-- How a turn that began with the report `rep`, the breaker `b` at time `now`, ends the run
with the report `r`. -/
inductive Closes (rep : Report) (b : Breaker) (now : Int) : Report → Prop
  /-- before asking the breaker -/
  | stopped (e : Option Fault) : Closes rep b now { rep with err := e }
  /-- on a refusal, which a settled breaker gives only while it is not ready -/
  | refused (e : Option Fault) : ¬ b.Ready now →
      Closes rep b now { rep with rejections := rep.rejections + 1, err := e }
  /-- after an attempt -/
  | tried (a : Attempt) (e : Option Fault) :
      Closes rep b now { rep with attempts := rep.attempts ++ [a], err := e }

/-- How a turn that began after `made` attempts with the report `rep`, the breaker `b` at time
`now`, hands over to the next turn, which begins after `made'` attempts with the report `rep'`
and the breaker `b'` at time `now'`. Either way the breaker is left settled. -/
inductive Passes (c : Config) (made : Nat) (rep : Report) (b : Breaker) (now : Int) :
    Nat → Report → Breaker → Int → Prop
  /-- it waited out a refusal of a breaker that was not ready, and is ready after the wait -/
  | waited {b' : Breaker} {now' : Int} (w : Int) : ¬ b.Ready now → b'.Ready now' → b'.Settled →
      Passes c made rep b now made
        { rep with rejections := rep.rejections + 1, waited := Duration.wrap (rep.waited + w) } b'
        now'
  /-- it made an attempt within the retries, which failed, and backed off -/
  | retried {b' : Breaker} {now' : Int} (a : Attempt) (w : Int) :
      ((made + 1 : Nat) : Int) ≤ c.maxRetries → b'.Settled →
      Passes c made rep b now (made + 1)
        { rep with attempts := rep.attempts ++ [a], waited := Duration.wrap (rep.waited + w) } b'
        now'

section Turn

variable {c : Config} {classify : Fault → Bool} {deadline : Option Int} {made : Nat}
  {last : Option Fault} {rep : Report} {acts : List Act} {t t' : Int} {b b' : Breaker}

/-- A refusal from a settled breaker came while it was not ready. -/
theorem Guarded.unready {l : List Act} {tk : Nat} {rej : Option Fault} {cd r : Int}
    (hs : b.Settled) (h : Guarded (refusal c tk rej cd r ++ l) t b t' b') : ¬ b.Ready t :=
  (hs.refused h.refused.1).2.1

/-- **An admitted ticket, reported at once, leaves the breaker settled**, whatever the report;
the attempt between does not touch it. -/
theorem Guarded.settles {l : List Act} {tk k : Nat} {start stop : Int} {err : Option Fault}
    {x : Act} (hs : b.Settled) (h : Guarded (trial tk k start err stop ++ x :: l) t b t' b')
    (hx : x = .succeeded tk ∨ x = .released tk ∨ x = .failed tk) :
    ∃ m b₁, b₁.Settled ∧ Guarded l m b₁ t' b' := by
  obtain ⟨hp, m, hl⟩ := h.admitted
  obtain ⟨m', b₁, hr, hl⟩ := hl
  have hadm : (b.permit t).1.2 = true := by rw [hp]
  have htk : tk = (b.permit t).1.1 := by rw [hp]
  have hrep := hs.report hadm m
  refine ⟨m', b₁, ?_, hl⟩
  rcases hx with rfl | rfl | rfl
  · rw [hr, htk]
    exact hrep.1
  · rw [hr, htk]
    exact hrep.2.2
  · rw [hr, htk]
    exact hrep.2.1

/-- **A turn that ends the run, from a settled breaker**, leaves it settled: a refusal came while
the breaker was not ready, and every admitted ticket is reported. -/
theorem Goes.closes {rep' : Report}
    (h : Goes c classify deadline made last rep acts (.done rep')) (hs : b.Settled)
    (hg : Guarded acts t b t' b') : Closes rep b t rep' ∧ b'.Settled := by
  cases h with
  | stopped e =>
    obtain ⟨-, rfl⟩ := hg.report
    exact ⟨.stopped _, hs⟩
  | expired r d =>
    rw [← List.append_nil (opening r)] at hg
    obtain ⟨-, -, rfl⟩ := hg.opening
    exact ⟨.stopped _, hs⟩
  | refusedLate r tk rej cd r' =>
    rw [← List.append_nil (refusal c tk rej cd r')] at hg
    obtain ⟨-, hl⟩ := hg.opening
    obtain ⟨-, -, -, -, rfl⟩ := hl.refused
    exact ⟨.refused _ (hl.unready hs), hs⟩
  | refusedCut r tk rej cd r' e =>
    simp only [List.append_assoc] at hg
    obtain ⟨-, hl⟩ := hg.opening
    obtain ⟨-, -, -, hw⟩ := hl.refused
    obtain ⟨rfl, -⟩ := hw.sleep
    exact ⟨.refused _ (hl.unready hs), hs⟩
  | succeeded r tk start stop =>
    rw [List.append_assoc] at hg
    obtain ⟨m, b₁, hs₁, -, rfl⟩ := hg.opening.2.settles hs (.inl rfl)
    exact ⟨.tried _ _, hs₁⟩
  | released r tk start f stop =>
    rw [List.append_assoc] at hg
    obtain ⟨m, b₁, hs₁, -, rfl⟩ := hg.opening.2.settles hs (.inr (.inl rfl))
    exact ⟨.tried _ _, hs₁⟩
  | exhausted r tk start f stop =>
    rw [List.append_assoc] at hg
    obtain ⟨m, b₁, hs₁, -, rfl⟩ := hg.opening.2.settles hs (.inr (.inr rfl))
    exact ⟨.tried _ _, hs₁⟩
  | backoffLate r tk start f stop r' u =>
    simp only [List.append_assoc, List.singleton_append] at hg
    obtain ⟨m, b₁, hs₁, hl⟩ := hg.opening.2.settles hs (.inr (.inr rfl))
    rw [← List.append_nil (backoff c r' u)] at hl
    obtain ⟨-, rfl⟩ := hl.backoff.nil
    exact ⟨.tried _ _, hs₁⟩
  | backoffCut r tk start f stop r' u e =>
    simp only [List.append_assoc, List.singleton_append] at hg
    obtain ⟨m, b₁, hs₁, hl⟩ := hg.opening.2.settles hs (.inr (.inr rfl))
    obtain ⟨rfl, -⟩ := hl.backoff.waiting
    exact ⟨.tried _ _, hs₁⟩

/-- **A turn that hands over, from a settled breaker**, leaves it settled: it waited out a
refusal of a breaker that was not ready, after which the breaker is ready, or retried an attempt
within the retries. -/
theorem Goes.passes {made' : Nat} {last' : Option Fault} {rep' : Report}
    (h : Goes c classify deadline made last rep acts (.next made' last' rep')) (hs : b.Settled)
    (hg : Guarded acts t b t' b') : Passes c made rep b t made' rep' b' t' := by
  cases h with
  | refusedWaited r tk rej cd r' =>
    simp only [List.append_assoc] at hg
    obtain ⟨-, hl⟩ := hg.opening
    obtain ⟨href, rfl, -, hw⟩ := hl.refused
    -- the breaker named a positive cool-down, which was waited out in full
    have hcd := (hs.refused href).2.2
    have hwait : c.refusalWait (b.cooldown t) = b.cooldown t := if_neg (by omega)
    obtain ⟨rfl, hpast⟩ := hw.sleep
    have hpast := hpast rfl (by omega)
    rw [hwait] at hpast
    exact .waited _ (hl.unready hs) (hs.ready_after hpast) hs
  | backedOff r tk start f stop r' u _ _ hex =>
    simp only [List.append_assoc, List.singleton_append] at hg
    obtain ⟨m, b₁, hs₁, hl⟩ := hg.opening.2.settles hs (.inr (.inr rfl))
    obtain ⟨rfl, -⟩ := hl.backoff.waiting
    exact .retried _ _ hex hs₁

end Turn

/-! ### Runs -/

/-- What the count of refusals keeps over a run, with the breaker `b` at time `now`: at most
one more than the attempts, and no more than them while the breaker is not ready. -/
structure Tally (rep : Report) (b : Breaker) (now : Int) : Prop where
  le : rep.rejections ≤ rep.attempts.length + 1
  unready : ¬ b.Ready now → rep.rejections ≤ rep.attempts.length

theorem Tally.start (b : Breaker) (now : Int) : Tally {} b now :=
  ⟨Nat.zero_le _, fun _ => Nat.zero_le _⟩

/-- A turn that ends the run leaves at most one refusal more than attempts. -/
theorem Closes.tally {rep r : Report} {b : Breaker} {now : Int} (h : Tally rep b now)
    (hc : Closes rep b now r) : r.rejections ≤ r.attempts.length + 1 := by
  cases hc with
  | stopped e => exact h.le
  | refused e hnr =>
    have := h.unready hnr
    dsimp only
    omega
  | tried a e =>
    have := h.le
    simp only [List.length_append, List.length_singleton]
    omega

theorem Passes.settled {c : Config} {made made' : Nat} {rep rep' : Report} {b b' : Breaker}
    {now now' : Int} (hp : Passes c made rep b now made' rep' b' now') : b'.Settled := by
  cases hp with
  | waited _ _ _ hs => exact hs
  | retried _ _ _ hs => exact hs

/-- A turn that hands over keeps the tally: a refusal it waited out came from a breaker that
was not ready, which is ready after the wait. -/
theorem Passes.tally {c : Config} {made made' : Nat} {rep rep' : Report} {b b' : Breaker}
    {now now' : Int} (h : Tally rep b now) (hp : Passes c made rep b now made' rep' b' now') :
    Tally rep' b' now' := by
  cases hp with
  | waited w hnr hr _ =>
    have := h.unready hnr
    exact ⟨by dsimp only; omega, fun h' => absurd hr h'⟩
  | retried a w _ _ =>
    have := h.le
    constructor <;> simp only [List.length_append, List.length_singleton] <;> omega

/-- The turns a run may still take after `made` attempts, with the breaker `b` at time `now`:
two for each retry left (a refusal waited out and an attempt), then the last attempt, with a
refusal before it while the breaker is not ready. -/
def turnsLeft (c : Config) (made : Nat) (b : Breaker) (now : Int) : Nat :=
  2 * (c.maxRetries.toNat - made) + if b.Ready now then 1 else 2

theorem turnsLeft_pos (c : Config) (made : Nat) (b : Breaker) (now : Int) :
    0 < turnsLeft c made b now := by
  unfold turnsLeft
  split <;> omega

/-- A run begins with at most two turns for each attempt the policy allows. -/
theorem turnsLeft_le (c : Config) (made : Nat) (b : Breaker) (now : Int) :
    turnsLeft c made b now ≤ 2 * (c.maxRetries.toNat + 1) := by
  unfold turnsLeft
  split <;> omega

/-- A turn that hands over leaves fewer turns: it waited out a refusal, after which the breaker
is ready, or it made an attempt within the retries. -/
theorem Passes.turnsLeft_lt {c : Config} {made made' : Nat} {rep rep' : Report}
    {b b' : Breaker} {now now' : Int} (hp : Passes c made rep b now made' rep' b' now') :
    turnsLeft c made' b' now' < turnsLeft c made b now := by
  cases hp with
  | waited w hnr hr _ =>
    simp only [turnsLeft, if_pos hr, if_neg hnr]
    omega
  | retried a w hle _ =>
    unfold turnsLeft
    split <;> split <;> omega

section Run

variable {σ : Type} {clock : σ → Int} {breaker : σ → Breaker} {env : Env (StateM σ)}
  {g : Guard (StateM σ)} {attempt : Nat → Option Int → StateM σ (Option Fault)}
  {c : Config} {classify : Fault → Bool} {deadline : Option Int}

/-- **A run with a settled breaker given the turns it has left answers.** The induction is on
the turns: each turn that hands over leaves fewer. -/
theorem Ran.answers_settled (hx : Exclusive clock breaker env g attempt) {fuel made : Nat}
    {last : Option Fault} {rep : Report} {s s' : (Reading.ofState σ).State}
    {res : Option Report}
    (h : Ran (Reading.ofState σ) env g attempt deadline c classify fuel made last rep s res s')
    (hs : (breaker s).Settled) (hleft : turnsLeft c made (breaker s) (clock s) ≤ fuel) :
    res.isSome := by
  induction h with
  | out made last rep s =>
    have := turnsLeft_pos c made (breaker s) (clock s)
    omega
  | done => rfl
  | next hacted hgoes _ ih =>
    have hp := hgoes.passes hs (hx.guarded hacted)
    exact ih hp.settled (by have := hp.turnsLeft_lt; omega)

/-- **A run keeps the breaker settled and the tally.** The induction is on the turns, with
`Tally` as the invariant. -/
theorem Ran.tally (hx : Exclusive clock breaker env g attempt) {fuel made : Nat}
    {last : Option Fault} {rep : Report} {s s' : (Reading.ofState σ).State}
    {res : Option Report}
    (h : Ran (Reading.ofState σ) env g attempt deadline c classify fuel made last rep s res s')
    (hs : (breaker s).Settled) (ht : Tally rep (breaker s) (clock s)) :
    ∀ r, res = some r → r.rejections ≤ r.attempts.length + 1 ∧ (breaker s').Settled := by
  induction h with
  | out => exact fun _ h => by cases h
  | done hacted hgoes =>
    intro r hr
    cases hr
    obtain ⟨hc, hs'⟩ := hgoes.closes hs (hx.guarded hacted)
    exact ⟨hc.tally ht, hs'⟩
  | next hacted hgoes _ ih =>
    have hp := hgoes.passes hs (hx.guarded hacted)
    exact ih hp.settled (hp.tally ht)

/-- **A breaker with one caller never burns the retry budget.** For every policy, classifier
and attempt, every world where the engine alone uses the breaker, and every state where the
breaker is settled (as a new breaker is, and as every run leaves it):

* the breaker refuses only while open with cool-down left, and once the clock has passed that
  cool-down it admits the next call as a trial, turning half-open;
* the run ends within `2 * (maxRetries + 1)` turns, under a deadline or without one: given that
  many turns or more it answers, the same whatever the number;
* it refuses at most once more than it attempts, and leaves the breaker settled. -/
theorem run_exclusive_breaker (hx : Exclusive clock breaker env g attempt) (c : Config)
    (classify : Fault → Bool) (s : σ) (hs : (breaker s).Settled) :
    (∀ s₁, (breaker s₁).Settled → (g.permit.run s₁).1.2 = false →
      (breaker s₁).state = .opened ∧ 0 < (breaker s₁).cooldown (clock s₁) ∧
      ∀ s₂, breaker s₂ = breaker s₁ → clock s₁ + (breaker s₁).cooldown (clock s₁) ≤ clock s₂ →
        (g.permit.run s₂).1.2 = true ∧ (breaker (g.permit.run s₂).2).state = .halfOpen) ∧
    ∃ rep s', (∀ fuel, 2 * (c.maxRetries.toNat + 1) ≤ fuel →
        (run fuel c env g classify attempt).run s = (some rep, s')) ∧
      rep.rejections ≤ rep.attempts.length + 1 ∧ (breaker s').Settled := by
  refine ⟨fun s₁ hs₁ href => ?_, ?_⟩
  · -- a refusal comes from an open breaker with cool-down left, which admits once it is past
    have href' : ((breaker s₁).permit (clock s₁)).1.2 = false := (hx.permit s₁).1 ▸ href
    obtain ⟨hopen, -, hcd⟩ := hs₁.refused href'
    refine ⟨hopen, hcd, fun s₂ hb₂ hc₂ => ?_⟩
    obtain ⟨hp₂, hb₂'⟩ := hx.permit s₂
    rw [hp₂, hb₂', hb₂]
    exact Breaker.permit_of_ready hopen (hs₁.ready_after hc₂)
  obtain ⟨opened, dl, s₁, hopens, hacted, hrun⟩ :=
    run_opens (Reading.ofState σ) env g attempt c classify s
  -- the run opens with at most a clock reading, which leaves the breaker
  have hb₁ : breaker s₁ = breaker s := by
    cases hopens with
    | timed t _ =>
      obtain ⟨t₁, b₁, ⟨-, -, hb⟩, -, hb'⟩ := hx.guarded hacted
      exact hb'.trans hb
    | untimed _ => rw [acted_nil.1 hacted]
  have hs₁ : (breaker s₁).Settled := hb₁ ▸ hs
  let N := 2 * (c.maxRetries.toNat + 1)
  have hM : c.normalize.maxRetries.toNat = c.maxRetries.toNat := by
    simp only [Config.normalize]
    omega
  have hleft : turnsLeft c.normalize 0 (breaker s₁) (clock s₁) ≤ N := by
    have := turnsLeft_le c.normalize 0 (breaker s₁) (clock s₁)
    rwa [hM] at this
  have hran := loop_ran (Reading.ofState σ) env g attempt dl c.normalize classify N 0 none {} s₁
  obtain ⟨rep, hrep⟩ := Option.isSome_iff_exists.1 (hran.answers_settled hx hs₁ hleft)
  obtain ⟨htally, hsettled⟩ := hran.tally hx hs₁ (Tally.start _ _) rep hrep
  refine ⟨rep, ((loop c.normalize env g classify attempt dl N 0 none {}).run s₁).2,
    fun fuel hfuel => ?_, htally, hsettled⟩
  -- more turns than the run needs give the same answer
  obtain ⟨extra, rfl⟩ := Nat.exists_eq_add_of_le hfuel
  have hmore := exec_loop_add (Reading.ofState σ) env g attempt dl c.normalize classify
    extra N 0 none {} s₁ (by rw [hrep]; rfl)
  exact (hrun (N + extra)).trans (hmore.trans (Prod.ext hrep rfl))

end Run

/-! ### A breaker on a simulated clock -/

/-- A world of a clock and one breaker: a wait moves the clock on by the wait, shutdown never
comes, and nothing else takes time. -/
def breakerWorld : Env (StateM (Int × Breaker)) where
  now := do return (← get).1
  shutdown := pure none
  sleep w := do modify fun p => (p.1 + w, p.2); pure none
  draw := pure 0.5
  observe _ := pure ()

/-- The world's breaker as the engine's guard, at the world's clock. -/
def breakerWorldGuard : Guard (StateM (Int × Breaker)) where
  permit := modifyGet fun p => ((p.2.permit p.1).1, (p.1, (p.2.permit p.1).2))
  succeeded t := modify fun p => (p.1, p.2.succeeded t)
  failed t := modify fun p => (p.1, p.2.failed t p.1)
  released t := modify fun p => (p.1, p.2.released t)
  cooldown := do return (← get).2.cooldown (← get).1
  reject := do return some ((← get).2.reject (← get).1)

/-- An attempt that takes a millisecond and fails. -/
def failsAfterMillisecond (_ : Nat) (_ : Option Int) : StateM (Int × Breaker) (Option Fault) := do
  modify fun p => (p.1 + Duration.millisecond, p.2)
  pure (some (.text "down"))

/-- The engine alone uses the breaker of the simulated world. -/
theorem breakerWorld_exclusive :
    Exclusive Prod.fst Prod.snd breakerWorld breakerWorldGuard failsAfterMillisecond where
  now_reads _ := rfl
  now := ⟨fun _ => rfl, fun _ => rfl⟩
  shutdown := ⟨fun _ => rfl, fun _ => rfl⟩
  draw := ⟨fun _ => rfl, fun _ => rfl⟩
  observe _ := ⟨fun _ => rfl, fun _ => rfl⟩
  sleep _ _ := rfl
  sleep_waits _ _ _ _ := Int.le_refl _
  attempt _ _ _ := rfl
  permit _ := ⟨rfl, rfl⟩
  permit_still _ := rfl
  succeeded _ _ := rfl
  failed _ _ := rfl
  released _ _ := rfl
  cooldown_reads _ := rfl
  cooldown := ⟨fun _ => rfl, fun _ => rfl⟩
  reject := ⟨fun _ => rfl, fun _ => rfl⟩

/-- A new breaker that opens at the second failure guards an attempt that always fails, with
two retries a second apart and no deadline: the run ends within six turns, refuses at most once
more than it attempts, and leaves the breaker settled. -/
theorem run_exclusive_breaker_opening :
    let c : Config := { maxRetries := 2, baseNs := Duration.second, maxNs := Duration.second }
    let b := Breaker.create "dependency" { failureThreshold := 2 }
    (Exclusive Prod.fst Prod.snd breakerWorld breakerWorldGuard failsAfterMillisecond ∧
      b.Settled) ∧
    (∀ s₁ : Int × Breaker, s₁.2.Settled → (breakerWorldGuard.permit.run s₁).1.2 = false →
      s₁.2.state = .opened ∧ 0 < s₁.2.cooldown s₁.1 ∧
      ∀ s₂ : Int × Breaker, s₂.2 = s₁.2 → s₁.1 + s₁.2.cooldown s₁.1 ≤ s₂.1 →
        (breakerWorldGuard.permit.run s₂).1.2 = true ∧
          (breakerWorldGuard.permit.run s₂).2.2.state = .halfOpen) ∧
    ∃ rep s', (∀ fuel, 2 * (c.maxRetries.toNat + 1) ≤ fuel →
        (run fuel c breakerWorld breakerWorldGuard (fun _ => true) failsAfterMillisecond).run
          (0, b) = (some rep, s')) ∧
      rep.rejections ≤ rep.attempts.length + 1 ∧ s'.2.Settled :=
  ⟨⟨breakerWorld_exclusive, ⟨rfl, by decide, fun h => nomatch h⟩⟩,
    run_exclusive_breaker breakerWorld_exclusive _ (fun _ => true) (0, _)
      ⟨rfl, by decide, fun h => nomatch h⟩⟩

end Retry

end Conveyor
