import Conveyor.Proofs.Breaker.Invariant
/-!
# Trial calls of a shared breaker

Many callers share one breaker, each the way the retry engine uses its guard: a caller asks to
be admitted; if it is, it holds the ticket it was given and later reports exactly one outcome
with it (a success, a failure, or giving its slot back); if it is refused, it reports nothing.
`Breaker.Callers` is that system: the breaker and, for each caller, the ticket it holds, if
any. A turn is one caller's call, so a run of turns is any interleaving of the callers, at any
times.

While the breaker is half-open, its probe counter is the number of callers holding a ticket of
its generation (`Breaker.Callers.Account`): the trials admitted in this half-open period that
have not reported. Stale reports of earlier generations free no slot, and a slot given back is
the reporter's own. So at most the maximum number of trials is in flight in a half-open
period, and a half-open breaker with no trial in flight admits the next caller.

Main statement: `probe_accounting`.
-/

namespace Conveyor.Breaker

/-- What an admitted caller reports. -/
inductive Outcome where
  | succeeded
  | failed
  | released

/-- The call that reports an outcome with a ticket, at a time. -/
def Outcome.call (t : Nat) (now : Int) : Outcome → Call
  | .succeeded => .succeeded t
  | .failed => .failed t now
  | .released => .released t

/-- **Callers sharing a breaker**: the breaker, and for each caller the ticket it was admitted
with and has not reported yet, if any. -/
structure Callers where
  breaker : Breaker
  holding : List (Option Nat)

/-- A turn: one caller asks to be admitted, or reports the outcome of its admitted call. -/
inductive Turn where
  | request (i : Nat) (now : Int)
  | report (i : Nat) (o : Outcome) (now : Int)

namespace Callers

/-- **One turn.** Only a caller holding no ticket asks to be admitted, and only a caller
holding one reports, with that ticket. -/
def step (s : Callers) : Turn → Callers
  | .request i now =>
    match s.holding[i]? with
    | some none =>
      let ((t, ok), b) := s.breaker.permit now
      { breaker := b, holding := s.holding.set i (if ok then some t else none) }
    | _ => s
  | .report i o now =>
    match s.holding[i]? with
    | some (some t) => { breaker := s.breaker.call (o.call t now), holding := s.holding.set i none }
    | _ => s

/-- A run of turns. -/
def run (s : Callers) (turns : List Turn) : Callers := turns.foldl step s

/-- `n` callers holding no ticket, sharing a closed breaker. -/
def start (name : String) (config : BreakerConfig) (n : Nat) : Callers :=
  { breaker := create name config, holding := List.replicate n none }

/-- The calls admitted in generation `g` that have not reported: the callers holding ticket
`g`. -/
def outstanding (s : Callers) (g : Nat) : Nat := s.holding.count (some g)

/-- Changing what caller `i` holds from `y` to `x` moves the count of holders of `g` by one for
each. -/
theorem count_set {l : List (Option Nat)} {i : Nat} {y : Option Nat} (h : l[i]? = some y)
    (x : Option Nat) (g : Nat) :
    (l.set i x).count (some g) + (if y = some g then 1 else 0) =
      l.count (some g) + (if x = some g then 1 else 0) := by
  obtain ⟨hi, rfl⟩ := List.getElem?_eq_some_iff.mp h
  rw [List.count_set hi]
  by_cases hg : l[i] = some g
  · -- the caller held `g`, so it is counted
    have hpos : 0 < l.count (some g) := List.count_pos_iff.mpr (hg ▸ List.getElem_mem hi)
    by_cases hx : x = some g <;>
      simp only [hg, hx, beq_self_eq_true, beq_iff_eq, if_true, if_false] <;> omega
  · by_cases hx : x = some g <;>
      simp only [hg, hx, beq_self_eq_true, beq_iff_eq, if_true, if_false] <;> omega

/-! ### The invariant -/

/-- **The probe account.** The breaker is sound; every ticket held is of its generation or an
earlier one; and while it is half-open, its probe counter is the number of callers holding a
ticket of its generation. -/
structure Account (s : Callers) : Prop where
  sound : s.breaker.Sound
  ticket_le : ∀ t, some t ∈ s.holding → t ≤ s.breaker.generation
  probes_eq : s.breaker.state = .halfOpen → s.breaker.probes = s.outstanding s.breaker.generation

theorem account_start (name : String) (threshold cooldownNs probes : Int) (n : Nat) :
    Account (start name (.ofRaw threshold cooldownNs probes) n) where
  sound := sound_create name threshold cooldownNs probes
  ticket_le t h := by simp [start, List.mem_replicate] at h
  probes_eq h := by simp [start, create] at h

variable {s : Callers}

/-- A caller that held no ticket asks to be admitted: the breaker does what admitting does,
and the caller holds the generation afterwards if it was admitted. -/
theorem step_request {i : Nat} (hi : s.holding[i]? = some none) (now : Int) :
    s.step (.request i now) =
      { breaker := (s.breaker.permit now).2,
        holding := s.holding.set i (if (s.breaker.permit now).1.2
          then some (s.breaker.permit now).2.generation else none) } := by
  simp only [step, hi, ← permit_ticket]

/-- **Admitting keeps the account.** -/
theorem Account.admits (ha : Account s) {i : Nat} (hi : s.holding[i]? = some none) {ok : Bool}
    {b' : Breaker} (hadm : Admits s.breaker ok b') :
    Account
      { breaker := b', holding := s.holding.set i (if ok then some b'.generation else none) } := by
  obtain ⟨hsnd, hle, hprobes⟩ := ha
  have hcount := count_set hi (if ok then some b'.generation else none) b'.generation
  simp only [reduceCtorEq, ite_false, Nat.add_zero] at hcount
  refine ⟨hsnd.effect hadm.effect, fun t ht => ?_, fun hhalf => ?_⟩
  · -- what the caller now holds is the generation after the call
    rcases List.mem_or_eq_of_mem_set ht with ht | ht
    · exact Nat.le_trans (hle t ht) hadm.effect.generation_le
    · split at ht <;> simp_all
  · simp only [outstanding]
    cases hadm with
    | closed hs => simp_all
    | cool hs =>
      -- the first trial of a new generation: nobody held its ticket before
      have hnone : s.holding.count (some (s.breaker.generation + 1)) = 0 :=
        List.count_eq_zero.mpr fun hm => by have := hle _ hm; omega
      simp_all
    | probe hs hp => simp_all [outstanding]
    | cooling hs => simp_all
    | full hs hp => simp_all [outstanding]

theorem Account.request (ha : Account s) {i : Nat} (hi : s.holding[i]? = some none) (now : Int) :
    Account (s.step (.request i now)) := by
  rw [step_request hi]
  exact ha.admits hi (admits_permit s.breaker now)

/-- A caller holding a ticket reports its outcome with it. -/
theorem step_report {i t : Nat} (hi : s.holding[i]? = some (some t)) (o : Outcome) (now : Int) :
    s.step (.report i o now) =
      { breaker := s.breaker.call (o.call t now), holding := s.holding.set i none } := by
  simp only [step, hi]

/-- **Reporting keeps the account.** A report with a ticket of another generation changes nothing
on the breaker; one of the current generation either ends the half-open period or gives back
the reporter's own slot. -/
theorem Account.report (ha : Account s) {i t : Nat} (hi : s.holding[i]? = some (some t))
    (o : Outcome) (now : Int) : Account (s.step (.report i o now)) := by
  rw [step_report hi]
  obtain ⟨hsnd, hle, hprobes⟩ := ha
  have hcount := count_set hi none s.breaker.generation
  refine ⟨hsnd.call _, fun u hu => ?_, fun hhalf => ?_⟩
  · rcases List.mem_or_eq_of_mem_set hu with hu | hu
    · exact Nat.le_trans (hle u hu) (effect_call s.breaker _).generation_le
    · simp at hu
  dsimp only at hhalf ⊢
  simp only [outstanding] at hprobes ⊢
  by_cases ht : t = s.breaker.generation
  · subst ht
    simp only [reduceCtorEq, ite_false, ite_true, Nat.add_zero] at hcount
    cases o with
    | succeeded =>
      exact absurd hhalf (not_halfOpen_of_verdict (w := false) (by simp [verdict, Outcome.call]))
    | failed =>
      exact absurd hhalf (not_halfOpen_of_verdict (w := true) (by simp [verdict, Outcome.call]))
    | released =>
      -- the reporter gives back its own slot, which the counter holds
      rcases hb : s.breaker.state
      · simp [Outcome.call, call, released, hb] at hhalf
      · simp [Outcome.call, call, released, hb] at hhalf
      · have hp := hprobes hb
        have hpos : 0 < s.breaker.probes := by
          rw [hp]
          exact List.count_pos_iff.mpr (List.mem_of_getElem? hi)
        simp only [Outcome.call, call, released, hb, hpos, beq_self_eq_true, decide_true,
          Bool.and_self, ite_true]
        omega
  · -- a stale report: the breaker stays as it is, and the reporter held a ticket of another
    -- generation
    have hstale : (o.call t now).Stale s.breaker := by cases o <;> exact ht
    simp only [reduceCtorEq, ite_false, Nat.add_zero, Option.some.injEq, ht] at hcount
    rw [call_of_stale hstale] at hhalf ⊢
    have := hprobes hhalf
    omega

/-- Turns never change the breaker's configuration. -/
theorem config_step (s : Callers) : ∀ turn : Turn, (s.step turn).breaker.config = s.breaker.config
  | .request i now => by
    rcases hi : s.holding[i]? with _ | _ | t
    · simp [Callers.step, hi]
    · rw [step_request hi]
      exact (effect_permit s.breaker now).config_eq
    · simp [Callers.step, hi]
  | .report i o now => by
    rcases hi : s.holding[i]? with _ | _ | t
    · simp [Callers.step, hi]
    · simp [Callers.step, hi]
    · rw [step_report hi]
      exact (effect_call s.breaker _).config_eq

theorem config_run (s : Callers) (turns : List Turn) :
    (s.run turns).breaker.config = s.breaker.config := by
  induction turns generalizing s with
  | nil => rfl
  | cons turn rest ih => exact (ih (s.step turn)).trans (config_step s turn)

/-- **Every turn keeps the account.** -/
theorem Account.step (ha : Account s) : ∀ turn : Turn, Account (s.step turn)
  | .request i now => by
    rcases hi : s.holding[i]? with _ | _ | t
    · simpa [Callers.step, hi] using ha
    · exact ha.request hi now
    · simpa [Callers.step, hi] using ha
  | .report i o now => by
    rcases hi : s.holding[i]? with _ | _ | t
    · simpa [Callers.step, hi] using ha
    · simpa [Callers.step, hi] using ha
    · exact ha.report hi o now

/-- **The account holds after every run of turns.** -/
theorem Account.run (ha : Account s) (turns : List Turn) : Account (s.run turns) := by
  induction turns generalizing s with
  | nil => exact ha
  | cons turn rest ih => exact ih (ha.step turn)

/-- A half-open breaker with no trial in flight admits the next caller, who then holds a ticket
of its generation. -/
theorem Account.admits_next (ha : Account s) (hhalf : s.breaker.state = .halfOpen)
    (hnone : s.outstanding s.breaker.generation = 0) {i : Nat} (hi : s.holding[i]? = some none)
    (now : Int) : (s.step (.request i now)).holding[i]? = some (some s.breaker.generation) := by
  have hfree : s.breaker.probes < s.breaker.config.maxProbes := by
    rw [ha.probes_eq hhalf, hnone]
    exact ha.sound.maxProbes_pos
  have hlt : i < s.holding.length := (List.getElem?_eq_some_iff.mp hi).1
  rw [step_request hi, permit_of_free hhalf hfree]
  simp [hlt]

end Callers

/-- **Probe accounting.** Any number of callers share a closed breaker whose configuration was
made from any raw values, each asking to be admitted and reporting exactly one outcome with the
ticket of an admitted call, in any interleaving and at any times. Whenever the breaker is
half-open:

* its probe counter is the number of calls admitted in its generation that have not reported;
* so at most the maximum number of trials is in flight;
* and when no trial is in flight, the next caller to ask is admitted, with a ticket of the
  generation. -/
theorem probe_accounting (name : String) (threshold cooldownNs probes : Int) (n : Nat)
    (turns : List Turn) :
    let s := (Callers.start name (.ofRaw threshold cooldownNs probes) n).run turns
    s.breaker.state = .halfOpen →
      s.breaker.probes = s.outstanding s.breaker.generation ∧
      s.outstanding s.breaker.generation ≤
        (BreakerConfig.ofRaw threshold cooldownNs probes).maxProbes ∧
      (s.outstanding s.breaker.generation = 0 → ∀ i now, s.holding[i]? = some none →
        (s.step (.request i now)).holding[i]? = some (some s.breaker.generation)) := by
  intro s hhalf
  have ha : s.Account := (Callers.account_start name threshold cooldownNs probes n).run turns
  have hcfg : s.breaker.config = .ofRaw threshold cooldownNs probes :=
    Callers.config_run _ turns
  refine ⟨ha.probes_eq hhalf, ?_, fun hnone i now hi => ha.admits_next hhalf hnone hi now⟩
  rw [← ha.probes_eq hhalf, ← hcfg]
  exact ha.sound.probes_le

/-- Two callers: the first trips a breaker that opens on one failure, then, the cool-down over,
becomes its first trial. -/
theorem probe_accounting_after_trip :
    let s := (Callers.start "b" (.ofRaw 1 1 2) 2).run
      [.request 0 0, .report 0 .failed 0, .request 0 5]
    s.breaker.state = .halfOpen ∧
      s.breaker.probes = s.outstanding s.breaker.generation ∧
      s.outstanding s.breaker.generation ≤ (BreakerConfig.ofRaw 1 1 2).maxProbes ∧
      (s.outstanding s.breaker.generation = 0 → ∀ i now, s.holding[i]? = some none →
        (s.step (.request i now)).holding[i]? = some (some s.breaker.generation)) :=
  ⟨rfl, probe_accounting "b" 1 1 2 2 _ rfl⟩

end Conveyor.Breaker
