import Conveyor.Pipeline.Compile
import Conveyor.Proofs.Word
/-!
# Validated settings run as configured

Resilience settings are validated once, when they are loaded (`Resilience.validate_eq_none_iff`
says which settings pass). The retry engine and the breakers then normalise what they are given:
a negative retry count becomes zero, a ceiling below the base is raised to it, a jitter outside
`[0, 1]` is clamped, and a threshold, cool-down or probe count that is not positive takes its
default. Settings that passed validation are left as they are by all of this, so every value a
file gives is the value a stage runs with.

A stage may bring its own retry count and base wait. The count replaces the settings' when it is
positive, and so does the base, raising the ceiling to it; the base is given in milliseconds and
multiplied out in 64 bits (`Duration.ofMillis`), so it is exactly that many milliseconds only up
to about 9.2 trillion of them (`ofMillis_of_le`), and wraps around beyond.

Compiling adds the stages in the order the file gives them (`addStages_stages`), each with its
own policy or the settings', and hands the breakers the settings' values.

Main statement: `validated_stages_run_as_configured`.
-/

namespace Conveyor

open Pipeline Config

/-! ### Milliseconds as durations -/

/-- A count of milliseconds whose nanoseconds fit a 64-bit word is exactly that duration. -/
theorem Duration.ofMillis_of_le {n : Int} (h0 : 0 ≤ n)
    (h : n * Duration.millisecond ≤ Word.greatest) :
    Duration.ofMillis n = n * Duration.millisecond := by
  have hms : Duration.millisecond = 1000000 := rfl
  unfold Duration.ofMillis Duration.wrap
  exact Word.wrap_of_le (by rw [Word.least_eq, hms]; omega) h

example : Duration.ofMillis 10000000000000 = -8446744073709551616 := by decide

/-! ### Valid settings -/

namespace Config.Resilience

/-- The rules valid settings keep. -/
structure Valid (r : Resilience) : Prop where
  retries : 0 ≤ r.maxRetries
  base : 0 ≤ r.baseBackoff
  ceiling : 0 ≤ r.maxBackoff
  ordered : r.baseBackoff ≤ r.maxBackoff
  jitterLow : ¬ r.jitter < 0
  jitterHigh : ¬ r.jitter > 1
  threshold : 0 < r.failureThreshold
  cooldown : 0 < r.openCooldown
  probes : 0 < r.halfOpenMaxProbes
  deadline : 0 < r.processingDeadline
  workers : 0 < r.workerParallelism

/-- **Validation accepts exactly the valid settings.** -/
theorem validate_eq_none_iff (r : Resilience) : r.validate = none ↔ r.Valid := by
  have hp : r.validate = none ↔ r.problems = [] := by
    unfold validate
    split <;> simp_all
  rw [hp]
  -- each rule contributes its text exactly when it is broken
  simp only [problems, List.append_eq_nil_iff, ite_eq_right_iff, reduceCtorEq, imp_false,
    Bool.or_eq_true, decide_eq_true_eq, not_or, Int.not_lt, Int.not_le, and_assoc]
  constructor
  · rintro ⟨h1, h2, h3, h4, h5, h6, h7, h8, h9, h10, h11⟩
    exact ⟨h1, h2, h3, h4, h5, h6, h7, h8, h9, h10, h11⟩
  · rintro ⟨h1, h2, h3, h4, h5, h6, h7, h8, h9, h10, h11⟩
    exact ⟨h1, h2, h3, h4, h5, h6, h7, h8, h9, h10, h11⟩

/-- Settings that load without a fault passed validation. -/
theorem validate_of_load {path : String} {file : FileRead} {env : List (String × String)}
    {r : Resilience} (h : load path file env = (r, none)) : r.validate = none := by
  unfold load at h
  dsimp only at h
  split at h
  · cases h
  · split at h
    · cases h
    · split at h
      · rw [Prod.mk.injEq] at h
        obtain ⟨rfl, h⟩ := h
        exact h
      · cases h

end Config.Resilience

/-! ### What normalising keeps -/

/-- A policy with no negative retry count, a ceiling no lower than its base and a jitter within
`[0, 1]` is its own normal form. -/
theorem Retry.Config.normalize_eq_self {c : Retry.Config} (h1 : 0 ≤ c.maxRetries)
    (h2 : c.baseNs ≤ c.maxNs) (h3 : ¬ c.jitter < 0) (h4 : ¬ c.jitter > 1) : c.normalize = c := by
  simp only [Retry.Config.normalize, Int.max_eq_left h1, if_neg (Int.not_lt.2 h2), if_neg h3,
    if_neg h4]

/-- Positive breaker values are taken as they are. -/
theorem BreakerConfig.ofRaw_of_pos {t c p : Int} (ht : 0 < t) (hc : 0 < c) (hp : 0 < p) :
    BreakerConfig.ofRaw t c p =
      { failureThreshold := t.toNat, cooldownNs := c, maxProbes := p.toNat } := by
  simp only [BreakerConfig.ofRaw, if_neg (Int.not_le.2 ht), if_neg (Int.not_le.2 hc),
    if_neg (Int.not_le.2 hp)]

/-! ### A stage's policy -/

namespace Pipeline

/-- **The policy a stage runs with**: the settings', with the stage's retry count when it gives
a positive one, and with its base wait when it gives a positive one, the ceiling raised to it. -/
theorem stageRetry_getD (res : Resilience) (s : StageSpec) :
    (stageRetry res s).getD res.retry =
      { res.retry with
        maxRetries := if 0 < s.attempts then s.attempts else res.maxRetries
        baseNs := if 0 < s.backoffMs then Duration.ofMillis s.backoffMs else res.baseBackoff
        maxNs := if 0 < s.backoffMs then max res.maxBackoff (Duration.ofMillis s.backoffMs)
          else res.maxBackoff } := by
  have hmax : (if res.maxBackoff < Duration.ofMillis s.backoffMs then Duration.ofMillis s.backoffMs
      else res.maxBackoff) = max res.maxBackoff (Duration.ofMillis s.backoffMs) := by
    split <;> omega
  unfold stageRetry
  by_cases ha : 0 < s.attempts <;> by_cases hb : 0 < s.backoffMs <;>
    simp [ha, hb, hmax, Resilience.retry]

/-- What a stage with description `s` runs with under the settings `r`: a policy that the retry
engine's normalising leaves as it is, with the settings' deadline, which is positive; the
stage's retry count when it gives a positive one, else the settings'; the stage's base wait as a
64-bit duration when it gives a positive one, else the settings'; and a ceiling that is the
larger of the settings' and the base, and not negative. -/
structure RunsAsConfigured (r : Resilience) (s : StageSpec) (c : Retry.Config) : Prop where
  normal : c.normalize = c
  deadline : c.deadlineNs = r.processingDeadline
  deadline_pos : 0 < c.deadlineNs
  retries : c.maxRetries = if 0 < s.attempts then s.attempts else r.maxRetries
  base : c.baseNs = if 0 < s.backoffMs then Duration.ofMillis s.backoffMs else r.baseBackoff
  ceiling : c.maxNs = max r.maxBackoff c.baseNs
  ceiling_nonneg : 0 ≤ c.maxNs

/-- Breaker settings taken as they were given. -/
structure BreakerKept (r : Resilience) (b : BreakerConfig) : Prop where
  threshold : (b.failureThreshold : Int) = r.failureThreshold
  cooldown : b.cooldownNs = r.openCooldown
  probes : (b.maxProbes : Int) = r.halfOpenMaxProbes

/-- **Every stage runs as configured under valid settings.** -/
theorem runsAsConfigured {r : Resilience} (hv : r.Valid) (s : StageSpec) :
    RunsAsConfigured r s ((stageRetry r s).getD r.retry) := by
  rw [stageRetry_getD]
  -- the retry count is the stage's positive one or the settings', so never negative
  have hretries : 0 ≤ (if 0 < s.attempts then s.attempts else r.maxRetries) := by
    split
    · exact Int.le_of_lt ‹_›
    · exact hv.retries
  by_cases hb : 0 < s.backoffMs
  · -- the stage's own base, with the ceiling raised to it
    refine ⟨Retry.Config.normalize_eq_self hretries ?_ hv.jitterLow hv.jitterHigh, rfl,
      hv.deadline, rfl, rfl, ?_, ?_⟩
    · simp only [hb, if_true]
      exact Int.le_max_right _ _
    · simp only [hb, if_true]
    · simp only [hb, if_true]
      exact Int.le_trans hv.ceiling (Int.le_max_left _ _)
  · -- the settings' own base and ceiling
    refine ⟨Retry.Config.normalize_eq_self hretries ?_ hv.jitterLow hv.jitterHigh, rfl,
      hv.deadline, rfl, rfl, ?_, ?_⟩
    · simp only [hb, if_false]
      exact hv.ordered
    · simp only [hb, if_false]
      exact (Int.max_eq_left hv.ordered).symm
    · simp only [hb, if_false]
      exact hv.ceiling

/-- Valid settings give the breakers their values as they are. -/
theorem breakerKept {r : Resilience} (hv : r.Valid) :
    BreakerKept r (BreakerConfig.ofRaw r.failureThreshold r.openCooldown r.halfOpenMaxProbes) := by
  rw [BreakerConfig.ofRaw_of_pos hv.threshold hv.cooldown hv.probes]
  exact ⟨Int.toNat_of_nonneg (Int.le_of_lt hv.threshold), rfl,
    Int.toNat_of_nonneg (Int.le_of_lt hv.probes)⟩

/-! ### Compiling the stages -/

/-- A step that went through, and what it gave the rest. -/
theorem ok_of_bind_eq_ok {ε α β : Type} {x : Except ε α} {f : α → Except ε β} {b : β}
    (h : x >>= f = .ok b) : ∃ a, x = .ok a ∧ f a = .ok b := by
  cases x with
  | error e => cases h
  | ok a => exact ⟨a, rfl, h⟩

/-- Looking a breaker up keeps the registry's configuration. -/
theorem BreakerRegistry.config_get (r : BreakerRegistry) (name : String) :
    (r.get name).2.config = r.config := by
  unfold BreakerRegistry.get
  split <;> rfl

/-- The stage a description adds to a runner: its name, its own policy or the runner's, and the
classifier of processing failures. -/
def addedStage (res : Resilience) (r : Runner) (s : StageSpec) : Stage :=
  { name := s.name, retry := (stageRetry res s).getD r.policy.retry, classify := Fault.classify }

/-- Adding a stage puts it last and keeps the policy and the breakers' configuration. -/
theorem addStage_ok {r r' : Runner} {name : String} {retry : Option Retry.Config}
    {classify : Fault → Bool} (h : r.addStage name retry classify = .ok r') :
    r'.stages = r.stages ++ [{ name, retry := retry.getD r.policy.retry, classify }] ∧
      r'.policy = r.policy ∧ r'.breakers.config = r.breakers.config := by
  unfold Runner.addStage at h
  split at h
  · cases h
  · split at h
    · cases h
    · cases h
      exact ⟨rfl, rfl, BreakerRegistry.config_get _ _⟩

/-- **Adding the stages** puts them last in the order given, each with its own policy or the
runner's, and keeps the policy and the breakers' configuration. -/
theorem addStages_stages {res : Resilience} {specs : List StageSpec} :
    ∀ {r r' : Runner} {ds : List StageDriver}, addStages res r specs = .ok (r', ds) →
      r'.stages = r.stages ++ specs.map (addedStage res r) ∧ r'.policy = r.policy ∧
        r'.breakers.config = r.breakers.config := by
  induction specs with
  | nil =>
    intro r r' ds h
    cases h
    exact ⟨(List.append_nil _).symm, rfl, rfl⟩
  | cons s rest ih =>
    intro r r' ds h
    obtain ⟨d, -, h⟩ := ok_of_bind_eq_ok h
    obtain ⟨r1, h1, h⟩ := ok_of_bind_eq_ok h
    obtain ⟨⟨r2, ds2⟩, h2, h⟩ := ok_of_bind_eq_ok h
    cases h
    obtain ⟨hs1, hp1, hb1⟩ := addStage_ok h1
    obtain ⟨hs2, hp2, hb2⟩ := ih h2
    -- the stages after `s` are added to the runner with `s`, whose policy is the same
    have hadded : addedStage res r1 = addedStage res r := by
      funext s
      simp only [addedStage, hp1]
    refine ⟨?_, hp2.trans hp1, hb2.trans hb1⟩
    rw [hs2, hs1, hadded, List.map_cons, List.append_assoc, List.singleton_append]
    rfl

/-- **What a compiled pipeline is made of**: the file and the settings it names loaded without a
fault, the runner's stages are the file's in order, each with its own policy or the settings',
and the breakers take the settings' values through their normalising. -/
theorem compile_stages {inputs : Inputs} {path : String} {c : Compiled}
    (h : compile inputs path = .ok c) :
    ∃ p res, Pipeline.load path (inputs.read path) = (p, none) ∧
      Resilience.load p.resiliencePath (inputs.read p.resiliencePath) inputs.env = (res, none) ∧
      c.runner.stages.map (·.retry) = (p.spec.stages.getD []).map (fun s => (stageRetry res s).getD res.retry) ∧
      c.runner.breakers.config = BreakerConfig.ofRaw res.failureThreshold res.openCooldown
        res.halfOpenMaxProbes := by
  unfold compile at h
  dsimp only at h
  split at h
  · cases h
  rename_i p hp
  obtain ⟨_, he, h⟩ := ok_of_bind_eq_ok h
  cases he
  split at h
  · cases h
  rename_i res hres
  obtain ⟨_, he, h⟩ := ok_of_bind_eq_ok h
  cases he
  obtain ⟨⟨source, capacity⟩, -, h⟩ := ok_of_bind_eq_ok h
  obtain ⟨⟨runner, stages⟩, hadd, h⟩ := ok_of_bind_eq_ok h
  obtain ⟨sinks, -, h⟩ := ok_of_bind_eq_ok h
  obtain ⟨hs, -, hbr⟩ := addStages_stages hadd
  refine ⟨p, res, hp, hres, ?_⟩
  -- the compiled runner is the one the stages were added to, with its sink and writer set
  split at h
  · cases h
  obtain ⟨_, he, h⟩ := ok_of_bind_eq_ok h
  cases he
  cases h
  refine ⟨?_, hbr⟩
  rw [hs]
  change List.map _ ([] ++ _) = _
  rw [List.nil_append, List.map_map]
  rfl

/-! ### Main statement -/

/-- **Validated settings run as configured.** For settings `r` that pass validation and a stage
description `s`, the policy the stage runs with is one the retry engine's normalising leaves as
it is, with the settings' deadline, which is positive; the stage's positive retry count or else
the settings'; the stage's positive base wait, in milliseconds multiplied out in 64 bits, or
else the settings'; and the larger of the settings' ceiling and that base, which is not
negative; and the breakers get the settings' threshold, cool-down and probes as they are. A
compiled pipeline runs its stages in the file's order with exactly these policies, under
settings that passed validation. -/
theorem validated_stages_run_as_configured (r : Resilience) (s : StageSpec) :
    (r.validate = none →
      RunsAsConfigured r s ((stageRetry r s).getD r.retry) ∧
        BreakerKept r (BreakerConfig.ofRaw r.failureThreshold r.openCooldown r.halfOpenMaxProbes)) ∧
    ∀ (inputs : Inputs) (path : String) (c : Compiled), compile inputs path = .ok c →
      ∃ p res, Pipeline.load path (inputs.read path) = (p, none) ∧ res.validate = none ∧
        c.runner.stages.map (·.retry) =
          (p.spec.stages.getD []).map (fun s => (stageRetry res s).getD res.retry) ∧
        c.runner.breakers.config =
          BreakerConfig.ofRaw res.failureThreshold res.openCooldown res.halfOpenMaxProbes := by
  refine ⟨fun hr => ?_, fun inputs path c h => ?_⟩
  · have hv := (Resilience.validate_eq_none_iff r).1 hr
    exact ⟨runsAsConfigured hv s, breakerKept hv⟩
  · obtain ⟨p, res, hp, hres, hstages, hbr⟩ := compile_stages h
    exact ⟨p, res, hp, Resilience.validate_of_load hres, hstages, hbr⟩

/-- The default settings pass validation, and a stage that brings three retries and a base wait
of 250 ms runs with them under the default deadline and ceiling. -/
theorem default_settings_run_as_configured :
    let r : Resilience := {}
    let s : StageSpec := { name := "enrich", attempts := 3, backoffMs := 250 }
    r.validate = none ∧ RunsAsConfigured r s ((stageRetry r s).getD r.retry) ∧
      BreakerKept r (BreakerConfig.ofRaw r.failureThreshold r.openCooldown r.halfOpenMaxProbes) :=
  ⟨by decide, (validated_stages_run_as_configured {} _).1 (by decide)⟩

end Pipeline

end Conveyor
