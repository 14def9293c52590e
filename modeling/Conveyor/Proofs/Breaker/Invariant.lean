import Conveyor.Breaker
/-!
# The breaker's state machine

A breaker is driven by calls (`Breaker.Call`): admitting a call (`permit`, also behind the
ticketless `allow`), reporting an admitted call's outcome with its ticket (`succeeded`,
`failed`, `released`), reporting an outcome for the current generation without a ticket, and
reading the cool-down. A call that reads the clock carries the time it is made at, so a run of
calls sees any clock.

`Breaker.Effect` says once what a call can do (`effect_call`), and every fact below is read off
it:

* the generation moves, by one, exactly when the state does, and the state moves only from
  closed to open, from open to half-open, and from half-open to closed or open;
* an outcome reported with a ticket of another generation changes nothing;
* the breaker's invariant `Breaker.Sound`: a closed breaker has fewer failures than its
  threshold, and only a half-open breaker holds probes, never more than its maximum;
* a closed breaker's failure counter is the number of failures heard in its generation since
  the last success heard there (`Breaker.Tally`), so a closed breaker opens exactly on the
  threshold-th consecutive failure of its generation.

Main statement: `state_machine`.
-/

namespace Conveyor

/-- The moves of a breaker's state. -/
inductive CircuitState.Moves : CircuitState → CircuitState → Prop
  | trip : Moves .closed .opened
  | cool : Moves .opened .halfOpen
  | recover : Moves .halfOpen .closed
  | reopen : Moves .halfOpen .opened

namespace Breaker

/-! ### Calls -/

/-- A call on a breaker: asking to be admitted (`request`, or `allow`, which drops the ticket),
reporting an outcome with a ticket, reporting one for the current generation, or reading the
cool-down. -/
inductive Call where
  | request (now : Int)
  | allow (now : Int)
  | succeeded (ticket : Nat)
  | failed (ticket : Nat) (now : Int)
  | released (ticket : Nat)
  | recordSuccess
  | recordFailure (now : Int)
  | cooldown (now : Int)

/-- The breaker after a call. The ticketless reports are made for the current generation. -/
def call (b : Breaker) : Call → Breaker
  | .request now | .allow now => (b.permit now).2
  | .succeeded t => b.succeeded t
  | .failed t now => b.failed t now
  | .released t => b.released t
  | .recordSuccess => b.succeeded b.generation
  | .recordFailure now => b.failed b.generation now
  | .cooldown _ => b

/-- The verdict on the dependency that a call reports for the breaker's current generation:
`true` for a failure, `false` for a success; none for a call that judges nothing or carries
the ticket of another generation. -/
def verdict (b : Breaker) : Call → Option Bool
  | .succeeded t => if t = b.generation then some false else none
  | .failed t _ => if t = b.generation then some true else none
  | .recordSuccess => some false
  | .recordFailure _ => some true
  | _ => none

/-- A call that reports an outcome with a ticket other than the breaker's generation. -/
def Call.Stale (b : Breaker) : Call → Prop
  | .succeeded t | .failed t _ | .released t => t ≠ b.generation
  | _ => False

/-- The breaker after a run of calls. -/
def runCalls (b : Breaker) (calls : List Call) : Breaker := calls.foldl call b

@[simp] theorem runCalls_nil (b : Breaker) : b.runCalls [] = b := rfl

@[simp] theorem runCalls_append (b : Breaker) (cs ds : List Call) :
    b.runCalls (cs ++ ds) = (b.runCalls cs).runCalls ds := List.foldl_append

@[simp] theorem runCalls_cons (b : Breaker) (c : Call) (cs : List Call) :
    b.runCalls (c :: cs) = (b.call c).runCalls cs := rfl

@[simp] theorem runCalls_singleton (b : Breaker) (c : Call) : b.runCalls [c] = b.call c := rfl

/-! ### What a call can do -/

/-- **What one call can do** to a breaker, with the verdict it reports. -/
inductive Effect : Breaker → Option Bool → Breaker → Prop
  /-- Nothing changes and nothing is judged. -/
  | idle (b : Breaker) : Effect b none b
  /-- An open breaker ignores what it hears. -/
  | ignored (b : Breaker) (v : Bool) (h : b.state = .opened) : Effect b (some v) b
  /-- The cool-down is over: the breaker turns half-open, and this call is its first trial. -/
  | cool (b : Breaker) (h : b.state = .opened) :
      Effect b none
        { b with state := .halfOpen, generation := b.generation + 1, probes := 1, successes := 0 }
  /-- A half-open breaker with a free slot admits one more trial. -/
  | probe (b : Breaker) (h : b.state = .halfOpen) (hp : b.probes < b.config.maxProbes) :
      Effect b none { b with probes := b.probes + 1 }
  /-- A trial gives its slot back. -/
  | release (b : Breaker) (h : b.state = .halfOpen) (hp : 0 < b.probes) :
      Effect b none { b with probes := b.probes - 1 }
  /-- A success clears a closed breaker's failures. -/
  | success (b : Breaker) (h : b.state = .closed) :
      Effect b (some false) { b with failures := 0, successes := b.successes + 1 }
  /-- A successful trial closes the breaker. -/
  | recover (b : Breaker) (h : b.state = .halfOpen) :
      Effect b (some false)
        { b with state := .closed, generation := b.generation + 1, failures := 0, successes := 1,
                 probes := 0 }
  /-- A failure below the threshold is counted. -/
  | failure (b : Breaker) (h : b.state = .closed)
      (ht : b.failures + 1 < b.config.failureThreshold) :
      Effect b (some true) { b with failures := b.failures + 1, successes := 0 }
  /-- The failure that reaches the threshold opens a closed breaker. -/
  | trip (b : Breaker) (now : Int) (h : b.state = .closed)
      (ht : b.config.failureThreshold ≤ b.failures + 1) :
      Effect b (some true) ({ b with failures := b.failures + 1, successes := 0 }.trip now)
  /-- A failed trial opens the breaker again. -/
  | reopen (b : Breaker) (now : Int) (h : b.state = .halfOpen) :
      Effect b (some true) ({ b with failures := b.failures + 1 }.trip now)

/-- **What admitting a call can do**, with whether the call is admitted. The ticket handed out
is the generation afterwards (`permit_ticket`). -/
inductive Admits : Breaker → Bool → Breaker → Prop
  /-- A closed breaker admits every call. -/
  | closed (b : Breaker) (h : b.state = .closed) : Admits b true b
  /-- The cool-down is over: the breaker turns half-open, and this call is its first trial. -/
  | cool (b : Breaker) (h : b.state = .opened) :
      Admits b true
        { b with state := .halfOpen, generation := b.generation + 1, probes := 1, successes := 0 }
  /-- A half-open breaker with a free slot admits one more trial. -/
  | probe (b : Breaker) (h : b.state = .halfOpen) (hp : b.probes < b.config.maxProbes) :
      Admits b true { b with probes := b.probes + 1 }
  /-- An open breaker refuses calls while it cools down. -/
  | cooling (b : Breaker) (h : b.state = .opened) : Admits b false b
  /-- A half-open breaker whose slots are taken refuses calls. -/
  | full (b : Breaker) (h : b.state = .halfOpen) (hp : b.config.maxProbes ≤ b.probes) :
      Admits b false b

theorem admits_permit (b : Breaker) (now : Int) : Admits b (b.permit now).1.2 (b.permit now).2 := by
  unfold permit
  split
  · next hs => exact .closed b hs
  · next hs =>
    split
    · exact .cool b hs
    · exact .cooling b hs
  · next hs =>
    split
    · next hp => exact .probe b hs hp
    · next hp => exact .full b hs (by omega)

/-- The ticket is the generation the call was admitted or refused in. -/
theorem permit_ticket (b : Breaker) (now : Int) :
    (b.permit now).1.1 = (b.permit now).2.generation := by
  unfold permit
  split
  · rfl
  · split <;> rfl
  · split <;> rfl

/-- A half-open breaker with a free slot admits the call as one more trial. -/
theorem permit_of_free {b : Breaker} (hs : b.state = .halfOpen) (hp : b.probes < b.config.maxProbes)
    (now : Int) : b.permit now = ((b.generation, true), { b with probes := b.probes + 1 }) := by
  simp [permit, hs, hp]

theorem Admits.effect {b b' : Breaker} {ok : Bool} (h : Admits b ok b') : Effect b none b' := by
  cases h with
  | closed | cooling | full => exact .idle b
  | cool hs => exact .cool b hs
  | probe hs hp => exact .probe b hs hp

theorem effect_permit (b : Breaker) (now : Int) : Effect b none (b.permit now).2 :=
  (admits_permit b now).effect

theorem effect_succeeded (b : Breaker) (t : Nat) :
    Effect b (b.verdict (.succeeded t)) (b.succeeded t) := by
  simp only [verdict, succeeded]
  by_cases ht : t = b.generation
  · simp only [ht, ne_eq, not_true_eq_false, if_false, if_true]
    split
    · next hs => exact .success b hs
    · next hs => exact .recover b hs
    · next hs => exact .ignored b false hs
  · simpa [ht] using Effect.idle b

theorem effect_failed (b : Breaker) (t : Nat) (now : Int) :
    Effect b (b.verdict (.failed t now)) (b.failed t now) := by
  simp only [verdict, failed]
  by_cases ht : t = b.generation
  · simp only [ht, ne_eq, not_true_eq_false, if_false, if_true]
    split
    · next hs =>
      split
      · next hth => exact .trip b now hs hth
      · next hth => exact .failure b hs (by simpa using hth)
    · next hs => exact .reopen b now hs
    · next hs => exact .ignored b true hs
  · simpa [ht] using Effect.idle b

theorem effect_released (b : Breaker) (t : Nat) : Effect b none (b.released t) := by
  unfold released
  split
  · next h =>
    simp only [Bool.and_eq_true, decide_eq_true_eq, beq_iff_eq] at h
    exact .release b h.1.2 h.2
  · exact .idle b

/-- **Every call is one of the effects**, with the verdict it reports. -/
theorem effect_call (b : Breaker) : ∀ c : Call, Effect b (b.verdict c) (b.call c)
  | .request now | .allow now => effect_permit b now
  | .succeeded t => effect_succeeded b t
  | .failed t now => effect_failed b t now
  | .released t => effect_released b t
  | .recordSuccess => by simpa [verdict, call] using effect_succeeded b b.generation
  | .recordFailure now => by simpa [verdict, call] using effect_failed b b.generation now
  | .cooldown _ => .idle b

/-- An outcome reported with a ticket of another generation changes nothing. -/
theorem call_of_stale {b : Breaker} {c : Call} (h : c.Stale b) : b.call c = b := by
  cases c with
  | succeeded t => simp [call, succeeded, show t ≠ b.generation from h]
  | failed t now => simp [call, failed, show t ≠ b.generation from h]
  | released t => simp [call, released, show t ≠ b.generation from h]
  | _ => exact h.elim

/-! ### Generations and moves -/

@[simp] theorem trip_state (b : Breaker) (now : Int) : (b.trip now).state = .opened := rfl
@[simp] theorem trip_generation (b : Breaker) (now : Int) :
    (b.trip now).generation = b.generation + 1 := rfl
@[simp] theorem trip_probes (b : Breaker) (now : Int) : (b.trip now).probes = 0 := rfl
@[simp] theorem trip_config (b : Breaker) (now : Int) : (b.trip now).config = b.config := rfl

section Effect

variable {b b' : Breaker} {v : Option Bool}

theorem Effect.config_eq (h : Effect b v b') : b'.config = b.config := by
  cases h <;> rfl

/-- The generation moves, by one, exactly when the state does. -/
theorem Effect.generation_eq (h : Effect b v b') :
    b'.generation = if b'.state = b.state then b.generation else b.generation + 1 := by
  cases h <;> simp_all

/-- Generations only grow. -/
theorem Effect.generation_le (h : Effect b v b') : b.generation ≤ b'.generation := by
  rw [h.generation_eq]
  split <;> omega

/-- A verdict never leaves a breaker half-open. -/
theorem Effect.not_halfOpen {w : Bool} (h : Effect b (some w) b') : b'.state ≠ .halfOpen := by
  cases h <;> simp_all

/-- A verdict of the current generation never leaves a breaker half-open. -/
theorem not_halfOpen_of_verdict {b : Breaker} {c : Call} {w : Bool} (hv : b.verdict c = some w) :
    (b.call c).state ≠ .halfOpen := by
  have h := effect_call b c
  rw [hv] at h
  exact h.not_halfOpen

/-- The state moves only along `CircuitState.Moves`. -/
theorem Effect.moves (h : Effect b v b') (hne : b'.state ≠ b.state) :
    CircuitState.Moves b.state b'.state := by
  cases h with
  | cool hs => rw [hs]; exact .cool
  | recover hs => rw [hs]; exact .recover
  | trip _ hs _ => rw [hs]; exact .trip
  | reopen _ hs => rw [hs]; exact .reopen
  | _ => exact absurd rfl hne

/-- A closed breaker opens exactly on a failure that reaches its threshold. -/
theorem Effect.opens_iff (h : Effect b v b') (hc : b.state = .closed) :
    b'.state = .opened ↔ v = some true ∧ b.config.failureThreshold ≤ b.failures + 1 := by
  cases h with
  | idle | success => simp [hc]
  | failure _ ht =>
    simp only [hc, reduceCtorEq, true_and, false_iff]
    omega
  | trip _ _ ht => simp [ht]
  | ignored _ hs | cool hs | reopen _ hs | probe hs _ | release hs _ | recover hs =>
    simp [hs] at hc

end Effect

/-- Calls never change the configuration. -/
@[simp] theorem config_runCalls (b : Breaker) (calls : List Call) :
    (b.runCalls calls).config = b.config := by
  induction calls generalizing b with
  | nil => rfl
  | cons c cs ih => rw [runCalls_cons, ih, (effect_call b c).config_eq]

/-! ### The invariant -/

/-- **The breaker's invariant.** Its configuration asks for at least one failure and allows at
least one probe; a closed breaker has fewer failures than its threshold; only a half-open
breaker holds probes, and never more than its maximum. -/
structure Sound (b : Breaker) : Prop where
  threshold_pos : 0 < b.config.failureThreshold
  maxProbes_pos : 0 < b.config.maxProbes
  closed_failures : b.state = .closed → b.failures < b.config.failureThreshold
  probes_eq_zero : b.state ≠ .halfOpen → b.probes = 0
  probes_le : b.probes ≤ b.config.maxProbes

/-- Every configuration made from raw values asks for at least one failure and allows at least
one probe. -/
theorem sound_create (name : String) (threshold cooldownNs probes : Int) :
    Sound (create name (.ofRaw threshold cooldownNs probes)) where
  threshold_pos := by
    simp only [create, BreakerConfig.ofRaw]
    split <;> omega
  maxProbes_pos := by
    simp only [create, BreakerConfig.ofRaw]
    split <;> omega
  closed_failures _ := by
    simp only [create, BreakerConfig.ofRaw]
    split <;> omega
  probes_eq_zero _ := rfl
  probes_le := Nat.zero_le _

theorem Sound.effect {b b' : Breaker} {v : Option Bool} (hs : Sound b) (h : Effect b v b') :
    Sound b' := by
  obtain ⟨hth, hmp, hcl, hpz, hple⟩ := hs
  cases h with
  | idle | ignored => exact ⟨hth, hmp, hcl, hpz, hple⟩
  | cool hst => exact ⟨hth, hmp, by simp, by simp, by simp; omega⟩
  | probe hst hp => exact ⟨hth, hmp, by simp [hst], by simp [hst], by simp; omega⟩
  | release hst _ => exact ⟨hth, hmp, by simp [hst], by simp [hst], by simp; omega⟩
  | success hst => exact ⟨hth, hmp, fun _ => hth, by simpa using hpz, hple⟩
  | recover hst => exact ⟨hth, hmp, fun _ => hth, by simp, by simp⟩
  | failure hst ht => exact ⟨hth, hmp, fun _ => ht, by simpa using hpz, hple⟩
  | trip | reopen => exact ⟨hth, hmp, by simp, by simp, by simp⟩

theorem Sound.call {b : Breaker} (hs : Sound b) (c : Call) : Sound (b.call c) :=
  hs.effect (effect_call b c)

/-- **The invariant holds after every run of calls.** -/
theorem Sound.runCalls {b : Breaker} (hs : Sound b) (calls : List Call) :
    Sound (b.runCalls calls) := by
  induction calls generalizing b with
  | nil => exact hs
  | cons c cs ih => exact ih (hs.call c)

/-! ### Consecutive failures -/

/-- The verdicts heard along a run of calls, each with the generation it was heard in. -/
def heard (b : Breaker) : List Call → List (Nat × Bool)
  | [] => []
  | c :: cs => ((b.verdict c).map (b.generation, ·)).toList ++ heard (b.call c) cs

@[simp] theorem heard_nil (b : Breaker) : heard b [] = [] := rfl

theorem heard_append (b : Breaker) (cs ds : List Call) :
    heard b (cs ++ ds) = heard b cs ++ heard (b.runCalls cs) ds := by
  induction cs generalizing b with
  | nil => rfl
  | cons c cs ih => simp [heard, ih]

theorem heard_singleton (b : Breaker) (c : Call) :
    heard b [c] = ((b.verdict c).map (b.generation, ·)).toList := by
  simp [heard]

/-- The verdicts heard in generation `g`, in order. -/
def verdictsIn (g : Nat) (hs : List (Nat × Bool)) : List Bool :=
  hs.filterMap fun p => if p.1 = g then some p.2 else none

/-- The failures heard in generation `g` after the last success heard there. -/
def failureStreak (g : Nat) (hs : List (Nat × Bool)) : Nat :=
  ((verdictsIn g hs).reverse.takeWhile fun v => v).length

@[simp] theorem failureStreak_nil (g : Nat) : failureStreak g [] = 0 := rfl

@[simp] theorem failureStreak_append_failure (g : Nat) (hs : List (Nat × Bool)) :
    failureStreak g (hs ++ [(g, true)]) = failureStreak g hs + 1 := by
  simp [failureStreak, verdictsIn, List.filterMap_append]

@[simp] theorem failureStreak_append_success (g : Nat) (hs : List (Nat × Bool)) :
    failureStreak g (hs ++ [(g, false)]) = 0 := by
  simp [failureStreak, verdictsIn, List.filterMap_append]

/-- No failure has been heard in a generation later than every verdict. -/
theorem failureStreak_of_lt {g : Nat} {hs : List (Nat × Bool)} (h : ∀ p ∈ hs, p.1 < g) :
    failureStreak g hs = 0 := by
  have hnil : verdictsIn g hs = [] := by
    simp only [verdictsIn, List.filterMap_eq_nil_iff]
    intro p hp
    simp [Nat.ne_of_lt (h p hp)]
  simp [failureStreak, hnil]

/-- **The failure counter counts failures**: every verdict heard so far (`hs`) was heard in a
generation no later than the breaker's, and a closed breaker's counter is the number of
failures heard in its generation after the last success heard there. -/
structure Tally (b : Breaker) (hs : List (Nat × Bool)) : Prop where
  heard_le : ∀ p ∈ hs, p.1 ≤ b.generation
  failures_eq : b.state = .closed → b.failures = failureStreak b.generation hs

theorem tally_create (name : String) (config : BreakerConfig) : Tally (create name config) [] :=
  ⟨by simp, fun _ => rfl⟩

theorem Tally.effect {b b' : Breaker} {v : Option Bool} {hs : List (Nat × Bool)} (ht : Tally b hs)
    (h : Effect b v b') : Tally b' (hs ++ (v.map (b.generation, ·)).toList) := by
  obtain ⟨hle, hfail⟩ := ht
  -- a verdict heard now, in the breaker's generation, is no later than the next one
  have hle' : ∀ p ∈ hs ++ (v.map (b.generation, ·)).toList, p.1 ≤ b.generation := by
    intro p hp
    rcases List.mem_append.mp hp with hp | hp
    · exact hle p hp
    · cases v <;> simp_all
  cases h with
  | idle => exact ⟨by simpa using hle, by simpa using hfail⟩
  | ignored _ hst => exact ⟨hle', by simp [hst]⟩
  | cool hst => exact ⟨fun p hp => by simpa using Nat.le_succ_of_le (hle' p hp), by simp⟩
  | probe hst _ | release hst _ => exact ⟨by simpa using hle, by simp [hst]⟩
  | success hst => exact ⟨hle', by simp⟩
  | recover hst =>
    refine ⟨fun p hp => by simpa using Nat.le_succ_of_le (hle' p hp), fun _ => ?_⟩
    -- the closed breaker starts a generation in which nothing was heard yet
    simpa using (failureStreak_of_lt fun p hp => Nat.lt_succ_of_le (hle' p hp)).symm
  | failure hst _ => exact ⟨hle', by simp [hfail hst]⟩
  | trip _ hst _ | reopen _ hst =>
    exact ⟨fun p hp => by simpa using Nat.le_succ_of_le (hle' p hp), by simp⟩

/-- **The counter counts failures after every run of calls.** -/
theorem Tally.runCalls {b : Breaker} {hs : List (Nat × Bool)} (ht : Tally b hs)
    (calls : List Call) :
    Tally (b.runCalls calls) (hs ++ heard b calls) := by
  induction calls generalizing b hs with
  | nil => simpa using ht
  | cons c cs ih =>
    have := ih (ht.effect (effect_call b c))
    simpa [heard] using this

/-- A closed breaker opens exactly on a failure of its generation that makes the streak of
failures heard there reach the threshold. -/
theorem Tally.opens_iff {b : Breaker} {hs : List (Nat × Bool)} (ht : Tally b hs) (hsnd : Sound b)
    (hc : b.state = .closed) (c : Call) :
    (b.call c).state = .opened ↔ b.verdict c = some true ∧
      failureStreak b.generation (hs ++ ((b.verdict c).map (b.generation, ·)).toList) =
        b.config.failureThreshold := by
  rw [(effect_call b c).opens_iff hc]
  have hlt := hsnd.closed_failures hc
  have hcount := ht.failures_eq hc
  -- the failure heard now extends the streak the counter holds
  rcases b.verdict c with _ | _ | _
  · simp
  · simp
  · simp only [Option.map_some, Option.toList_some, failureStreak_append_failure, ← hcount,
      true_and]
    omega

/-! ### The state machine -/

/-- **The breaker's state machine.** From a closed breaker whose configuration was made from any
raw values, after any run of calls with any tickets at any times, a breaker `b` and the next
call `c`, taking it to `b'`:

* the generation moves, by one, exactly when the state does;
* the state moves only from closed to open, open to half-open, half-open to closed or open;
* an outcome reported with a ticket of another generation changes nothing;
* a closed breaker has fewer failures than its threshold; only a half-open breaker holds
  probes, and never more than its maximum;
* a closed breaker opens exactly when `c` reports a failure of its generation and that failure
  is the threshold-th one heard there since the last success. -/
theorem state_machine (name : String) (threshold cooldownNs probes : Int) (calls : List Call)
    (c : Call) :
    let cfg := BreakerConfig.ofRaw threshold cooldownNs probes
    let b := (create name cfg).runCalls calls
    let b' := b.call c
    (b'.generation = if b'.state = b.state then b.generation else b.generation + 1) ∧
    (b'.state ≠ b.state → CircuitState.Moves b.state b'.state) ∧
    (c.Stale b → b' = b) ∧
    (b.state = .closed → b.failures < cfg.failureThreshold) ∧
    (b.state ≠ .halfOpen → b.probes = 0) ∧ b.probes ≤ cfg.maxProbes ∧
    (b.state = .closed → (b'.state = .opened ↔
      b.verdict c = some true ∧
        failureStreak b.generation (heard (create name cfg) (calls ++ [c])) =
          cfg.failureThreshold)) := by
  intro cfg b b'
  have heff := effect_call b c
  have hs : Sound b := (sound_create name threshold cooldownNs probes).runCalls calls
  have ht : Tally b (heard (create name cfg) calls) := by
    simpa using (tally_create name cfg).runCalls calls
  have hcfg : b.config = cfg := config_runCalls _ calls
  refine ⟨heff.generation_eq, heff.moves, call_of_stale, hcfg ▸ hs.closed_failures,
    hs.probes_eq_zero, hcfg ▸ hs.probes_le, fun hc => ?_⟩
  have hopens := ht.opens_iff hs hc c
  rw [hcfg] at hopens
  rw [heard_append, heard_singleton]
  exact hopens

end Breaker

end Conveyor
