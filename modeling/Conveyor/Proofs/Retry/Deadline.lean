import Conveyor.Proofs.Retry.Turn
import Conveyor.Proofs.Word
/-!
# The retry engine ends before its deadline

Under a deadline the engine stops on its own. It is run here over any world whose state
carries a clock that behaves as a simulated clock does (`Clocked`): reading it returns it and
takes no time, asking the guard for a ticket takes none either, a wait that shutdown does not
cut short moves it on by at least the wait, and no call a turn makes before it hands over
moves it back. For every policy with a deadline, every guard, classifier and attempt, and every
such clock (`run_meets_deadline`):

* the run ends: given more turns than its retries and the nanoseconds of its deadline, it
  answers, and it answers the same with any more;
* every attempt starts strictly before the deadline;
* the time waited is at most the deadline.

What each call does to such a clock is said once (`Act.Ticks`, `Clocked.ticks`), and carried
through the calls of a turn (`Ticked`). A turn that ends the run adds at most an attempt that
started before the deadline (`Goes.ends_before`). A turn that hands over has made an attempt
within the retries, or has waited at least a nanosecond that fit before the deadline
(`Goes.hands_before`), so what the run has left (`budgetLeft`: the retries not yet made and
the time to the deadline) goes down (`Hands.budgetLeft_lt`); and whatever it waited fit before
the deadline from the time the turn began, and the clock has passed it since. Both results on
runs are inductions on the turns: a run given more turns than it has left ends
(`Ran.answers`), and its waits and the starts of its attempts stay within the deadline
(`Ran.on_time`).
-/

namespace Conveyor.Retry

/-! ### A clock the engine can rely on -/

section Clocked

variable {σ : Type} (clock : σ → Int)

/-- `x` never moves the clock back. -/
def Forward {α : Type} (x : StateM σ α) : Prop := ∀ s, clock s ≤ clock (x.run s).2

/-- `x` leaves the clock where it is. -/
def Still {α : Type} (x : StateM σ α) : Prop := ∀ s, clock (x.run s).2 = clock s

variable {clock}

theorem Forward.of_run {α : Type} {x : StateM σ α} (hx : Forward clock x) {s s' : σ} {a : α}
    (h : x.run s = (a, s')) : clock s ≤ clock s' := by
  simpa [h] using hx s

theorem Still.of_run {α : Type} {x : StateM σ α} (hx : Still clock x) {s s' : σ} {a : α}
    (h : x.run s = (a, s')) : clock s' = clock s := by
  simpa [h] using hx s

variable (clock) (env : Env (StateM σ)) (g : Guard (StateM σ))
  (attempt : Nat → Option Int → StateM σ (Option Fault))

/-- **A clock the engine can rely on**, as a simulated clock is: reading it returns it and
takes no time, and neither does asking the guard for a ticket; a wait that shutdown does not
cut short moves it on by at least the wait; and no other call that a turn makes before it hands
over moves it back. What the calls that end the run do to the clock does not matter. -/
structure Clocked : Prop where
  now_reads : ∀ s, (env.now.run s).1 = clock s
  now_still : Still clock env.now
  permit_still : Still clock g.permit
  sleep_waits : ∀ w s, 0 ≤ w → ((env.sleep w).run s).1 = none →
    clock s + w ≤ clock ((env.sleep w).run s).2
  shutdown : Forward clock env.shutdown
  draw : Forward clock env.draw
  observe : ∀ e, Forward clock (env.observe e)
  failed : ∀ t, Forward clock (g.failed t)
  cooldown : Forward clock g.cooldown
  reject : Forward clock g.reject
  attempt : ∀ k dl, Forward clock (attempt k dl)

variable {clock env g attempt}

/-- Reading the clock returns the time and leaves it. -/
theorem Clocked.now_of_run (hc : Clocked clock env g attempt) {s s' : σ} {t : Int}
    (h : env.now.run s = (t, s')) : t = clock s ∧ clock s' = clock s :=
  ⟨by simpa [h] using hc.now_reads s, hc.now_still.of_run h⟩

/-- A wait that shutdown did not cut short moved the clock on by at least the wait. -/
theorem Clocked.sleep_of_run (hc : Clocked clock env g attempt) {w : Int} (hw : 0 ≤ w)
    {s s' : σ} (h : (env.sleep w).run s = (none, s')) : clock s + w ≤ clock s' := by
  simpa [h] using hc.sleep_waits w s hw (by simp [h])

end Clocked

/-! ### What calls do to the clock -/

/-- **What one call does to a clock the engine can rely on**, read `t` before it and `t'`
after: a reading returns the time and keeps it, a ticket keeps it, a wait not cut short moves it
on by the wait, the calls that end a run may do anything, and every other call moves it on. -/
def Act.Ticks : Act → Int → Int → Prop
  | .now r, t, t' => r = t ∧ t' = t
  | .permit _ _, t, t' => t' = t
  | .sleep w none, t, t' => 0 ≤ w → t + w ≤ t'
  | .sleep _ (some _), _, _ => True
  | .succeeded _, _, _ | .released _, _, _ => True
  | .shutdown _, t, t' | .draw _, t, t' | .observe _, t, t' | .failed _, t, t'
  | .cooldown _, t, t' | .reject _, t, t' | .attempt _ _, t, t' => t ≤ t'

/-- What calls made one after another do to the clock, from `t` to `t'`. -/
def Ticked : List Act → Int → Int → Prop
  | [], t, t' => t = t'
  | a :: as, t, t'' => ∃ t', a.Ticks t t' ∧ Ticked as t' t''

@[simp] theorem ticked_cons {a : Act} {as : List Act} {t t'' : Int} :
    Ticked (a :: as) t t'' ↔ ∃ t', a.Ticks t t' ∧ Ticked as t' t'' := Iff.rfl

theorem ticked_append {l₁ l₂ : List Act} {t t'' : Int} :
    Ticked (l₁ ++ l₂) t t'' ↔ ∃ t', Ticked l₁ t t' ∧ Ticked l₂ t' t'' := by
  induction l₁ generalizing t with
  | nil => simp [Ticked]
  | cons a as ih =>
    simp only [List.cons_append, ticked_cons, ih]
    constructor
    · rintro ⟨t₁, ha, t₂, has, hl⟩
      exact ⟨t₂, ⟨t₁, ha, has⟩, hl⟩
    · rintro ⟨t₂, ⟨t₁, ha, has⟩, hl⟩
      exact ⟨t₁, ha, t₂, has, hl⟩

section Clocked

variable {σ : Type} {clock : σ → Int} {env : Env (StateM σ)} {g : Guard (StateM σ)}
  {attempt : Nat → Option Int → StateM σ (Option Fault)}

/-- **Every call does to the clock what `Act.Ticks` says.** -/
theorem Clocked.ticks (hc : Clocked clock env g attempt) {a : Act} {dl : Option Int} {s s' : σ}
    (h : a.Answered (Reading.ofState σ) env g attempt dl s s') : a.Ticks (clock s) (clock s') := by
  cases a with
  | now t => exact hc.now_of_run h
  | permit tk ok => exact hc.permit_still.of_run h
  | sleep w e =>
    cases e with
    | none => exact fun hw => hc.sleep_of_run hw h
    | some e => trivial
  | succeeded tk | released tk => trivial
  | shutdown e => exact hc.shutdown.of_run h
  | draw r => exact hc.draw.of_run h
  | observe e => exact (hc.observe e).of_run h
  | failed tk => exact (hc.failed tk).of_run h
  | cooldown w => exact hc.cooldown.of_run h
  | reject r => exact hc.reject.of_run h
  | attempt k e => exact (hc.attempt k dl).of_run h

/-- Calls made one after another do to the clock what `Ticked` says. -/
theorem Clocked.ticked (hc : Clocked clock env g attempt) {dl : Option Int} {acts : List Act} :
    ∀ {s s' : σ}, Acted (Reading.ofState σ) env g attempt dl acts s s' →
      Ticked acts (clock s) (clock s') := by
  induction acts with
  | nil =>
    intro s s' h
    rw [acted_nil.1 h]
    rfl
  | cons a as ih =>
    intro s s'' h
    obtain ⟨s', ha, has⟩ := acted_cons.1 h
    exact ⟨clock s', hc.ticks ha, ih has⟩

end Clocked

/-! ### The pieces of a turn -/

section Pieces

variable {l : List Act} {a b : Int}

/-- A turn opens by reading the clock, no earlier than it began. -/
theorem Ticked.opening {t : Int} (h : Ticked (opening t ++ l) a b) : a ≤ t ∧ Ticked l t b := by
  simp only [Retry.opening, List.cons_append, List.nil_append, ticked_cons] at h
  obtain ⟨m, hm, m', ⟨rfl, rfl⟩, hl⟩ := h
  exact ⟨hm, hl⟩

/-- After a refusal the clock is read again, no earlier. -/
theorem Ticked.refusal {c : Config} {tk : Nat} {rej : Option Fault} {cd t : Int}
    (h : Ticked (refusal c tk rej cd t ++ l) a b) : a ≤ t ∧ Ticked l t b := by
  simp only [Retry.refusal, List.cons_append, List.nil_append, ticked_cons] at h
  obtain ⟨m₁, h₁, m₂, h₂, m₃, h₃, m₄, h₄, m₅, ⟨rfl, rfl⟩, hl⟩ := h
  simp only [Act.Ticks] at h₁ h₂ h₃ h₄
  exact ⟨by omega, hl⟩

/-- An admitted ticket's attempt starts when the ticket was given, and the clock goes on. -/
theorem Ticked.trial {tk k : Nat} {start stop : Int} {err : Option Fault}
    (h : Ticked (trial tk k start err stop ++ l) a b) : start = a ∧ ∃ m, a ≤ m ∧ Ticked l m b := by
  simp only [Retry.trial, List.cons_append, List.nil_append, ticked_cons] at h
  obtain ⟨m₁, h₁, m₂, ⟨h₂, h₂'⟩, m₃, h₃, m₄, ⟨-, h₄⟩, m₅, h₅, hl⟩ := h
  simp only [Act.Ticks] at h₁ h₃ h₅
  exact ⟨by omega, m₅, by omega, hl⟩

/-- A failure reported to the guard never moves the clock back. -/
theorem Ticked.failed {tk : Nat} (h : Ticked (.failed tk :: l) a b) : ∃ m, a ≤ m ∧ Ticked l m b :=
  h

/-- Before a backoff the clock is read, after a draw or none, no earlier. -/
theorem Ticked.backoff {c : Config} {r : Float} {t : Int} (h : Ticked (backoff c r t ++ l) a b) :
    a ≤ t ∧ Ticked l t b := by
  rw [backoff_append, ticked_append] at h
  obtain ⟨m, hm, m', ⟨rfl, rfl⟩, hl⟩ := h
  refine ⟨?_, hl⟩
  -- the draw, when the policy jitters, moves the clock on
  split at hm
  · obtain ⟨m', hm', rfl⟩ := hm
    exact hm'
  · exact Int.le_of_eq hm

/-- A wait not cut short moves the clock on by the wait. -/
theorem Ticked.sleep {w : Int} (h : Ticked [.sleep w none] a b) (hw : 0 ≤ w) : a + w ≤ b := by
  obtain ⟨m, hm, rfl⟩ := h
  exact hm hw

/-- A backoff not cut short moves the clock on by the backoff. -/
theorem Ticked.waiting {w : Int} (h : Ticked (waiting w none) a b) (hw : 0 ≤ w) : a + w ≤ b := by
  obtain ⟨m, hm, h'⟩ := h
  have := Ticked.sleep h' hw
  simp only [Act.Ticks] at hm
  omega

end Pieces

/-! ### Policies -/

/-- A policy made normal waits a positive time when a guard names no cool-down. -/
theorem Config.poll_pos (c : Config) : 0 < c.poll := by
  unfold Config.poll Duration.millisecond
  split <;> omega

/-- After a refusal the engine waits a positive time. -/
theorem Config.refusalWait_pos {c : Config} (hpoll : 0 < c.poll) (cd : Int) :
    0 < c.refusalWait cd := by
  unfold Config.refusalWait
  split <;> omega

/-- A policy made normal never backs off a negative time: without a base there is no wait, and
with one the ceiling is at least the base. -/
theorem Config.delay_nonneg (c : Config) (made : Nat) (r : Float) :
    0 ≤ c.normalize.delay made r := by
  unfold Config.delay
  split
  · exact Int.le_refl 0
  · rename_i hbase
    have hceil : 0 ≤ c.normalize.maxNs := by
      simp only [Config.normalize] at hbase ⊢
      split <;> omega
    dsimp only
    repeat' split
    all_goals omega

/-- A wait that fits under a deadline ends by it. -/
theorem le_of_fits {d t w : Int} (h : fits (some d) t w = true) : t + w ≤ d := by
  simpa [fits] using h

/-! ### One turn -/

/-- A turn that ends the run leaves the time waited as it was, and adds only attempts that
started before the deadline. -/
structure Ends (d : Int) (rep r : Report) : Prop where
  waited : r.waited = rep.waited
  attempts : ∃ new, r.attempts = rep.attempts ++ new ∧ ∀ a ∈ new, a.start < d

/-- A turn that began at time `t` after `made` attempts and hands over to the next at time
`t'` after `made'`: it waited `w`, which fit before the deadline from `t` and which the clock
has passed since, and at least a nanosecond unless it made an attempt; it made at most one
attempt, within the retries; and the attempt it made started before the deadline. -/
structure Hands (c : Config) (d : Int) (made : Nat) (rep : Report) (t : Int) (made' : Nat)
    (rep' : Report) (t' : Int) : Prop where
  wait : ∃ w, 0 ≤ w ∧ t + w ≤ d ∧ t + w ≤ t' ∧ rep'.waited = Duration.wrap (rep.waited + w) ∧
    (made' = made → 0 < w)
  made : made' = made ∨ (made' = made + 1 ∧ (made' : Int) ≤ c.maxRetries)
  attempts : ∃ new, rep'.attempts = rep.attempts ++ new ∧ ∀ a ∈ new, a.start < d

/-- A turn that ends the run with the attempts it had. -/
theorem Ends.kept {d : Int} {rep r : Report} (hw : r.waited = rep.waited)
    (ha : r.attempts = rep.attempts) : Ends d rep r :=
  ⟨hw, [], by simp [ha], by simp⟩

/-- A turn that ends the run after an attempt that started before the deadline. -/
theorem Ends.tried {d : Int} {rep : Report} {k : Nat} {e : Option Fault} {start stop : Int}
    (hs : start < d) (e' : Option Fault) :
    Ends d rep { rep.tried k e start stop with err := e' } :=
  ⟨rfl, [_], rfl, by simpa using hs⟩

section Turn

variable {c : Config} {classify : Fault → Bool} {d : Int} {made : Nat} {last : Option Fault}
  {rep : Report} {acts : List Act} {t₀ t₁ : Int}

/-- A turn's attempt starts at the turn's first clock reading. -/
theorem Ticked.started {t : Int} {tk k : Nat} {start stop : Int} {err : Option Fault}
    (h : Ticked (Retry.opening t ++ (Retry.trial tk k start err stop ++ l)) t₀ t₁)
    (ht : Open (some d) t) :
    start < d := by
  obtain ⟨-, h⟩ := h.opening
  obtain ⟨rfl, -⟩ := h.trial
  exact ht d rfl

/-- **A turn that ends the run under the deadline** adds at most an attempt that started
before it, and waits no more. -/
theorem Goes.ends_before {rep' : Report}
    (h : Goes c classify (some d) made last rep acts (.done rep')) (ht : Ticked acts t₀ t₁) :
    Ends d rep rep' := by
  cases h with
  | stopped | expired | refusedLate | refusedCut => exact Ends.kept rfl rfl
  | succeeded t tk start stop hopen =>
    rw [List.append_assoc] at ht
    exact Ends.tried (ht.started hopen) _
  | released t tk start f stop hopen | exhausted t tk start f stop hopen =>
    rw [List.append_assoc] at ht
    exact Ends.tried (ht.started hopen) _
  | backoffLate t tk start f stop r t' hopen =>
    simp only [List.append_assoc] at ht
    exact Ends.tried (ht.started hopen) _
  | backoffCut t tk start f stop r t' e hopen =>
    simp only [List.append_assoc] at ht
    exact Ends.tried (ht.started hopen) _

/-- **A turn that hands over under the deadline** waited what fit before it since the turn
began, and either made an attempt within the retries, started before the deadline, or waited
at least a nanosecond. -/
theorem Goes.hands_before {made' : Nat} {last' : Option Fault} {rep' : Report}
    (h : Goes c classify (some d) made last rep acts (.next made' last' rep'))
    (hpoll : 0 < c.poll) (hdelay : ∀ k r, 0 ≤ c.delay k r) (ht : Ticked acts t₀ t₁) :
    Hands c d made rep t₀ made' rep' t₁ := by
  cases h with
  | refusedWaited t tk rej cd t' _ hfit =>
    -- the refusal's wait was positive and fit from the clock read after it
    have hw := Config.refusalWait_pos hpoll cd
    simp only [List.append_assoc] at ht
    obtain ⟨h0, ht⟩ := ht.opening
    obtain ⟨h1, ht⟩ := ht.refusal
    have h2 := ht.sleep (Int.le_of_lt hw)
    have h3 := le_of_fits hfit
    exact ⟨⟨_, Int.le_of_lt hw, by omega, by omega, rfl, fun _ => hw⟩, .inl rfl,
      ⟨[], by simp, by simp⟩⟩
  | backedOff t tk start f stop r t' hopen _ hex _ hfit =>
    -- the attempt started at the turn's first reading; the backoff fit from the reading after
    have hw := hdelay (made + 1) r
    simp only [List.append_assoc] at ht
    have hs := ht.started hopen
    obtain ⟨h0, ht⟩ := ht.opening
    obtain ⟨-, m, h1, ht⟩ := ht.trial
    obtain ⟨m', h2, ht⟩ := Ticked.failed ht
    obtain ⟨h3, ht⟩ := ht.backoff
    have h4 := ht.waiting hw
    have h5 := le_of_fits hfit
    exact ⟨⟨_, hw, by omega, by omega, rfl, fun h => absurd h (by omega)⟩, .inr ⟨rfl, hex⟩,
      ⟨[_], rfl, by simpa using hs⟩⟩

end Turn

/-! ### Runs -/

/-- What a run has left after `made` attempts at time `t` under the deadline `d`: the retries
not yet made and the nanoseconds to the deadline. -/
def budgetLeft (c : Config) (d : Int) (made : Nat) (t : Int) : Nat :=
  (c.maxRetries.toNat - made) + (d - t).toNat

/-- A turn that hands over leaves the run less: it made an attempt within the retries, or it
waited a positive time that fit before the deadline. -/
theorem Hands.budgetLeft_lt {c : Config} {d : Int} {made made' : Nat} {rep rep' : Report}
    {t t' : Int} (h : Hands c d made rep t made' rep' t') :
    budgetLeft c d made' t' < budgetLeft c d made t := by
  obtain ⟨w, hw, hwd, hwt, -, hpos⟩ := h.wait
  unfold budgetLeft
  rcases h.made with rfl | ⟨rfl, hle⟩
  · have := hpos rfl
    omega
  · omega

/-- What a run keeps under the deadline `d` from the time `t0` it began, at time `t`: what it
waited adds up to `W`, which fit between `t0` and the deadline and which the clock has passed,
and every attempt started before the deadline. -/
structure OnTime (t0 d : Int) (rep : Report) (t : Int) : Prop where
  waits : ∃ W, 0 ≤ W ∧ t0 + W ≤ d ∧ t0 + W ≤ t ∧ rep.waited = Duration.wrap W
  attempts : ∀ a ∈ rep.attempts, a.start < d

/-- A run begins on time. -/
theorem OnTime.start {t0 d : Int} (h : t0 ≤ d) : OnTime t0 d {} t0 :=
  ⟨⟨0, Int.le_refl 0, by omega, by omega, by decide⟩, by simp⟩

/-- A turn that hands over keeps the run on time. -/
theorem OnTime.hands {c : Config} {t0 d t t' : Int} {made made' : Nat} {rep rep' : Report}
    (h : OnTime t0 d rep t) (hh : Hands c d made rep t made' rep' t') : OnTime t0 d rep' t' := by
  obtain ⟨W, hW, hWd, hWt, hwaited⟩ := h.waits
  obtain ⟨w, hw, hwd, hwt, hwaited', -⟩ := hh.wait
  obtain ⟨new, hnew, hstart⟩ := hh.attempts
  refine ⟨⟨W + w, by omega, by omega, by omega, ?_⟩, ?_⟩
  · rw [hwaited', hwaited]
    exact Word.wrap_add_wrap W w
  · intro a ha
    rw [hnew, List.mem_append] at ha
    exact ha.elim (h.attempts a) (hstart a)

/-- A turn that ends a run on time leaves it waited no longer than the deadline allows, with
every attempt started before the deadline. -/
theorem OnTime.ends {t0 d t : Int} {rep r : Report} (h : OnTime t0 d rep t) (he : Ends d rep r) :
    r.waited ≤ d - t0 ∧ ∀ a ∈ r.attempts, a.start < d := by
  obtain ⟨W, hW, hWd, -, hwaited⟩ := h.waits
  obtain ⟨new, hnew, hstart⟩ := he.attempts
  refine ⟨?_, fun a ha => ?_⟩
  · rw [he.waited, hwaited]
    exact Word.wrap_le_of_le hW (by omega)
  · rw [hnew, List.mem_append] at ha
    exact ha.elim (h.attempts a) (hstart a)

section Run

variable {σ : Type} {clock : σ → Int} {env : Env (StateM σ)} {g : Guard (StateM σ)}
  {attempt : Nat → Option Int → StateM σ (Option Fault)} {c : Config} {classify : Fault → Bool}
  {d : Int}

/-- **A run under a deadline given more turns than it has left answers.** The induction is on
the turns: each turn that hands over leaves the run less. -/
theorem Ran.answers (hc : Clocked clock env g attempt) (hpoll : 0 < c.poll)
    (hdelay : ∀ k r, 0 ≤ c.delay k r) {fuel made : Nat} {last : Option Fault} {rep : Report}
    {s s' : (Reading.ofState σ).State} {res : Option Report}
    (h : Ran (Reading.ofState σ) env g attempt (some d) c classify fuel made last rep s res s')
    (hleft : budgetLeft c d made (clock s) < fuel) : res.isSome := by
  induction h with
  | out => omega
  | done => rfl
  | next hacted hgoes _ ih =>
    have := (hgoes.hands_before hpoll hdelay (hc.ticked hacted)).budgetLeft_lt
    exact ih (by omega)

/-- **A run under a deadline stays on time**: a run that is on time and ends waited no longer
than the deadline allows from the time it began, and started every attempt before the
deadline. The induction is on the turns, with `OnTime` as the invariant. -/
theorem Ran.on_time (hc : Clocked clock env g attempt) (hpoll : 0 < c.poll)
    (hdelay : ∀ k r, 0 ≤ c.delay k r) {t0 : Int} {fuel made : Nat} {last : Option Fault}
    {rep : Report} {s s' : (Reading.ofState σ).State} {res : Option Report}
    (h : Ran (Reading.ofState σ) env g attempt (some d) c classify fuel made last rep s res s')
    (ho : OnTime t0 d rep (clock s)) :
    ∀ r, res = some r → r.waited ≤ d - t0 ∧ ∀ a ∈ r.attempts, a.start < d := by
  induction h with
  | out => exact fun _ h => by cases h
  | done hacted hgoes =>
    intro r hr
    cases hr
    exact ho.ends (hgoes.ends_before (hc.ticked hacted))
  | next hacted hgoes _ ih =>
    exact ih (ho.hands (hgoes.hands_before hpoll hdelay (hc.ticked hacted)))

/-- **Under a deadline the engine ends on time.** For every policy with a positive deadline,
every guard, classifier and attempt, every clock the engine can rely on and every state it
starts in, the run answers when given more turns than its retries and the nanoseconds of its
deadline, the same report whatever the number of turns beyond; every attempt of that report
starts strictly before the deadline, the clock at the start plus the policy's deadline; and the
time waited is at most the deadline. -/
theorem run_meets_deadline (c : Config) (hD : 0 < c.deadlineNs)
    (hc : Clocked clock env g attempt) (classify : Fault → Bool) (s : σ) :
    let d := clock s + c.deadlineNs
    ∃ rep s', (∀ fuel, c.maxRetries.toNat + c.deadlineNs.toNat < fuel →
        (run fuel c env g classify attempt).run s = (some rep, s')) ∧
      (∀ a ∈ rep.attempts, a.start < d) ∧ rep.waited ≤ c.deadlineNs := by
  intro d
  obtain ⟨opened, deadline, s₁, hopens, hacted, hrun⟩ :=
    run_opens (Reading.ofState σ) env g attempt c classify s
  -- the run reads the clock once, which starts the deadline
  cases hopens with
  | untimed hneg => exact absurd hD hneg
  | timed t _ =>
  obtain ⟨t', ⟨ht, ht'⟩, h₁⟩ := hc.ticked hacted
  have h₁ : t' = clock s₁ := h₁
  subst ht
  have hpoll := Config.poll_pos c.normalize
  have hdelay := Config.delay_nonneg c
  let N := c.maxRetries.toNat + c.deadlineNs.toNat + 1
  -- the run begins with the retries and the whole deadline left
  have hleft : budgetLeft c.normalize d 0 (clock s₁) < N := by
    simp only [budgetLeft, Config.normalize, N, d]
    omega
  have hran := loop_ran (Reading.ofState σ) env g attempt (some d) c.normalize classify N 0 none
    {} s₁
  obtain ⟨rep, hrep⟩ := Option.isSome_iff_exists.1 (hran.answers hc hpoll hdelay hleft)
  obtain ⟨hwaited, hstart⟩ := hran.on_time hc hpoll hdelay (OnTime.start (by omega)) rep hrep
  refine ⟨rep, ((loop c.normalize env g classify attempt (some d) N 0 none {}).run s₁).2,
    fun fuel hfuel => ?_, hstart, by simp only [d] at hwaited; omega⟩
  -- more turns than the run needs give the same answer
  obtain ⟨extra, rfl⟩ := Nat.exists_eq_add_of_lt hfuel
  have hmore := exec_loop_add (Reading.ofState σ) env g attempt (some d) c.normalize classify
    extra N 0 none {} s₁ (by rw [hrep]; rfl)
  rw [show c.maxRetries.toNat + c.deadlineNs.toNat + extra + 1 = N + extra by omega]
  exact (hrun (N + extra)).trans (hmore.trans (Prod.ext hrep rfl))

end Run

/-! ### A simulated clock -/

/-- A world that is only a clock: a wait moves it on by the wait, shutdown never comes, and
nothing else takes time. -/
def tickingEnv : Env (StateM Int) where
  now := get
  shutdown := pure none
  sleep w := do modify (· + w); pure none
  draw := pure 0.5
  observe _ := pure ()

/-- An attempt that takes a millisecond and fails. -/
def slowFailure (_ : Nat) (_ : Option Int) : StateM Int (Option Fault) := do
  modify (· + Duration.millisecond)
  pure (some (.text "down"))

/-- The engine can rely on the simulated clock. -/
theorem tickingEnv_clocked : Clocked id tickingEnv Guard.open slowFailure where
  now_reads _ := rfl
  now_still _ := rfl
  permit_still _ := rfl
  sleep_waits _ _ _ _ := Int.le_refl _
  shutdown _ := Int.le_refl _
  draw _ := Int.le_refl _
  observe _ _ := Int.le_refl _
  failed _ _ := Int.le_refl _
  cooldown _ := Int.le_refl _
  reject _ := Int.le_refl _
  attempt _ _ s := by
    show s ≤ s + Duration.millisecond
    unfold Duration.millisecond
    omega

/-- A hundred retries a second apart do not fit in three and a half seconds: on the simulated
clock from time zero, with attempts that take a millisecond and always fail, the run ends, its
attempts start before the deadline and it waits no longer than the deadline. -/
theorem run_meets_deadline_ticking :
    let c : Config :=
      { maxRetries := 100, baseNs := Duration.second, maxNs := Duration.second,
        deadlineNs := 3500 * Duration.millisecond }
    let d := id 0 + c.deadlineNs
    (0 < c.deadlineNs ∧ Clocked id tickingEnv Guard.open slowFailure) ∧
    ∃ rep s', (∀ fuel, c.maxRetries.toNat + c.deadlineNs.toNat < fuel →
        (run fuel c tickingEnv Guard.open (fun _ => true) slowFailure).run 0 = (some rep, s')) ∧
      (∀ a ∈ rep.attempts, a.start < d) ∧ rep.waited ≤ c.deadlineNs :=
  ⟨⟨by decide, tickingEnv_clocked⟩,
    run_meets_deadline _ (by decide) tickingEnv_clocked (fun _ => true) 0⟩

end Conveyor.Retry
