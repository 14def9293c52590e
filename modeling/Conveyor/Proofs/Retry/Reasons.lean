import Conveyor.Proofs.Retry.Protocol
/-!
# Why a run of the retry engine ended

A run of the engine ends at one of nine exits (`Exit`): shutdown at the start of a turn, a
passed deadline at the start of a turn, a refusal whose wait would not fit or was cut short, a
successful attempt, a failure not to be retried, the last failure the retries allow, or a
failure whose backoff would not fit or was cut short. Each exit fixes the report's fault from
the fault of the last attempt (`Exit.err`): the engine's verdict (`Exit.verdict`) joined with
faults the script answered (`Exit.lent`), or a fault of the script alone. Each exit shows in
the last calls the run made (`Exit.calls`), and was decided by the clock where a deadline
decided it (`Exit.Decided`).

Over a world, a guard and attempts that answer from any script, every run that ends, however
many turns it is given, ends at an exit that agrees with the attempts its report holds
(`run_ends`). The reasons are then exact (`run_reasons_exact`): the report holds no fault
exactly when the last attempt succeeded, the last attempt's fault itself exactly when the
classifier would not retry it, and used-up retries exactly when every retry was made and
failed, or when a fault of the script that the report carries holds used-up retries itself. A
passed deadline shows only when the last clock reading was past the deadline or the next wait
would not fit before it, and an interruption only when shutdown was seen, unless again a fault
of the script lent it (`Script.Lends`). Whenever the report holds a fault, it holds the last
attempt's.

Each way through a turn (`Goes`) is read once: a turn that ends the run ends it at an exit
(`Goes.ends`), and a turn that hands over keeps the state of the run (`Goes.retried`). A run
ends at an exit by induction on its turns (`Ran.ends`).
-/

namespace Conveyor.Retry

/-! ### Faults the script lends -/

/-- The script answers a shutdown check, a refusal or an attempt with the fault `f`. -/
def Script.Answers (s : Script) (f : Fault) : Prop :=
  (∃ i, s.shutdown i = some f) ∨ (∃ i, s.reject i = some f) ∨ ∃ i, s.attempt i = some f

/-- The script lends the fixed failure `v` to the fault `g`: `g` is, or joins, a fault that the
script answered with, and that fault holds `v` itself. -/
def Script.Lends (s : Script) (g : Fault) (v : Sentinel) : Prop :=
  ∃ f, (g = f ∨ ∃ ps, g = .joined ps ∧ f ∈ ps) ∧ f.isa v = true ∧ s.Answers f

/-- A fault the script lends a fixed failure to holds it. -/
theorem Script.Lends.isa {s : Script} {g : Fault} {v : Sentinel} (h : s.Lends g v) :
    g.isa v = true := by
  obtain ⟨f, hg | ⟨ps, rfl, hf⟩, hv, -⟩ := h
  · rw [hg]
    exact hv
  · rw [Fault.isa_joined, List.any_eq_true]
    exact ⟨f, hf, hv⟩

/-- A join led by the fixed failure `w`, whose other parts the script answered with, holds `v`
exactly when `v` is `w` or the script lent `v` to it. -/
theorem isa_join_iff {s : Script} {w v : Sentinel} {parts : List (Option Fault)} {g : Fault}
    (hj : Fault.join (some (.sentinel w) :: parts) = some g)
    (hparts : ∀ f, some f ∈ parts → s.Answers f) : g.isa v = true ↔ v = w ∨ s.Lends g v := by
  constructor
  · intro hv
    obtain ⟨h, hh, hhv⟩ := (Fault.isa_of_join hj v).1 hv
    rcases List.mem_cons.1 hh with hh | hh
    · cases hh
      rw [Fault.isa_sentinel, beq_iff_eq] at hhv
      exact .inl hhv
    · refine .inr ⟨h, .inr ⟨_, Fault.join_eq_some hj, ?_⟩, hhv, hparts h hh⟩
      exact List.mem_filterMap.2 ⟨_, List.mem_cons_of_mem _ hh, rfl⟩
  · rintro (rfl | hl)
    · exact (Fault.isa_of_join hj v).2 ⟨_, List.mem_cons_self, by simp⟩
    · exact hl.isa

/-! ### Exits -/

/-- **How a run of the engine ended**, with the answers that decided it. -/
inductive Exit where
  /-- A shutdown check at the start of a turn answered `e`. -/
  | shutdown (e : Fault)
  /-- The clock read `t` at the start of a turn. -/
  | expired (t : Int)
  /-- The guard refused with `rej` and the cool-down `cd`, and the clock read `t` before the
  wait. -/
  | refusedLate (rej : Option Fault) (cd t : Int)
  /-- The guard refused with `rej` and the cool-down `cd`, and shutdown cut the wait short with
  `e`. -/
  | refusedCut (rej : Option Fault) (cd t : Int) (e : Fault)
  /-- The last attempt answered no fault. -/
  | succeeded
  /-- The classifier would not retry the last attempt's fault `f`. -/
  | permanent (f : Fault)
  /-- The last attempt failed with `f`, and no retry was left. -/
  | exhausted (f : Fault)
  /-- The last attempt failed with `f`, and the clock read `t` before the backoff for the draw
  `r`. -/
  | backoffLate (f : Fault) (r : Float) (t : Int)
  /-- The last attempt failed with `f`, and shutdown cut its backoff `w` short with `e`. -/
  | backoffCut (f : Fault) (w : Int) (e : Fault)

namespace Exit

/-- The report's fault at the exit, when the last attempt failed with `last`. -/
def err (last : Option Fault) : Exit → Option Fault
  | .shutdown e => Fault.join [some (.sentinel .interrupted), some e, last]
  | .expired _ => Fault.join [some (.sentinel .deadlinePassed), last]
  | .refusedLate rej _ _ => Fault.join [some (.sentinel .deadlinePassed), rej, last]
  | .refusedCut rej _ _ _ => Fault.join [some (.sentinel .interrupted), rej, last]
  | .succeeded => none
  | .permanent f => some f
  | .exhausted f => Fault.join [some (.sentinel .exhausted), some f]
  | .backoffLate f _ _ => Fault.join [some (.sentinel .deadlinePassed), some f]
  | .backoffCut f _ _ => Fault.join [some (.sentinel .interrupted), some f]

/-- The engine's own verdict at an exit: an interruption, a passed deadline or used-up
retries; none after a success or a failure not to retry. -/
def verdict : Exit → Option Sentinel
  | .shutdown _ | .refusedCut .. | .backoffCut .. => some .interrupted
  | .expired _ | .refusedLate .. | .backoffLate .. => some .deadlinePassed
  | .exhausted _ => some .exhausted
  | .succeeded | .permanent _ => none

/-- The faults of the script that the report's fault at the exit is made of, besides the
engine's verdict, when the last attempt failed with `last`. -/
def lent (last : Option Fault) : Exit → List (Option Fault)
  | .shutdown e => [some e, last]
  | .expired _ => [last]
  | .refusedLate rej _ _ | .refusedCut rej _ _ _ => [rej, last]
  | .succeeded => []
  | .permanent f | .exhausted f | .backoffLate f _ _ | .backoffCut f _ _ => [some f]

/-- The last calls of a run that ended at the exit. -/
def calls (c : Config) : Exit → List Act
  | .shutdown e => [.shutdown (some e)]
  | .expired t => [.shutdown none, .now t]
  | .refusedLate rej cd t =>
    [.reject rej, .cooldown cd, .observe (.rejected (c.refusalWait cd)), .now t]
  | .refusedCut rej cd t e =>
    [.reject rej, .cooldown cd, .observe (.rejected (c.refusalWait cd)), .now t,
      .sleep (c.refusalWait cd) (some e)]
  | .backoffLate _ r t => backoff c r t
  | .backoffCut _ w e => waiting w (some e)
  | .succeeded | .permanent _ | .exhausted _ => []

/-- What the clock read at an exit that the deadline decided, after `made` attempts: at or past
the deadline at the start of a turn, or too late for the wait that was next. -/
def Decided (c : Config) (deadline : Option Int) (made : Nat) : Exit → Prop
  | .expired t => ∃ d, deadline = some d ∧ d ≤ t
  | .refusedLate _ cd t => ∃ d, deadline = some d ∧ d < t + c.refusalWait cd
  | .backoffLate _ r t => ∃ d, deadline = some d ∧ d < t + c.delay made r
  | _ => True

/-- Every attempt of the list failed with a fault that the classifier retries. -/
def Failed (classify : Fault → Bool) (as : List Attempt) : Prop :=
  ∀ a ∈ as, ∃ f, a.err = some f ∧ classify f = true

/-- How the attempts `as` of a run that ended at the exit went, with `M` retries allowed: the
last one succeeded, or failed with a fault not to retry, after failures to retry; or all failed
with faults to retry, and there were `M + 1` of them when the retries were used up, and at most
`M` otherwise. -/
def Tried (classify : Fault → Bool) (M : Nat) (as : List Attempt) : Exit → Prop
  | .succeeded => ∃ bs a, as = bs ++ [a] ∧ Failed classify bs ∧ a.err = none
  | .permanent f => ∃ bs a, as = bs ++ [a] ∧ Failed classify bs ∧ a.err = some f ∧
    classify f = false
  | .exhausted f => Failed classify as ∧ as.length = M + 1 ∧
    as.getLast?.bind Attempt.err = some f
  | .backoffLate f _ _ | .backoffCut f _ _ => Failed classify as ∧ as.length ≤ M ∧
    as.getLast?.bind Attempt.err = some f
  | _ => Failed classify as ∧ as.length ≤ M

/-- At an exit with a verdict, the report's fault joins the verdict with what the script lent. -/
theorem err_of_verdict {x : Exit} {v : Sentinel} (h : x.verdict = some v) (last : Option Fault) :
    x.err last = Fault.join (some (.sentinel v) :: x.lent last) := by
  cases x <;> cases h <;> rfl

end Exit

/-! ### Turns -/

/-- The state of a run at the start of a turn, after `made` attempts: the report holds them,
within the retries, all failed with faults to retry that the script `s` answered, and `last`
is the last one's fault. -/
structure Retried (c : Config) (classify : Fault → Bool) (s : Script) (made : Nat)
    (last : Option Fault) (rep : Report) : Prop where
  count : rep.attempts.length = made
  within : (made : Int) ≤ c.maxRetries
  last : last = rep.attempts.getLast?.bind Attempt.err
  failed : Exit.Failed classify rep.attempts
  scripted : ∀ a ∈ rep.attempts, ∀ f, a.err = some f → ∃ i, s.attempt i = some f

/-- **How a run ended**, with the report `rep'` and the calls `acts`, at the exit `x`: the
report's fault is the exit's, the calls end with the exit's, the deadline `deadline` and the
attempts decided it as the exit says, and the faults it joins are answers of the script `s`. -/
structure EndsAt (c : Config) (classify : Fault → Bool) (s : Script) (deadline : Option Int)
    (rep' : Report) (acts : List Act) (x : Exit) : Prop where
  err : rep'.err = x.err (rep'.attempts.getLast?.bind Attempt.err)
  calls : ∃ pre, acts = pre ++ x.calls c
  decided : x.Decided c deadline rep'.attempts.length
  tried : x.Tried classify c.maxRetries.toNat rep'.attempts
  answered : ∀ f, some f ∈ x.lent (rep'.attempts.getLast?.bind Attempt.err) → s.Answers f

/-- A run ended at some exit, with the report `rep'` and the calls `acts`. -/
def Ended (c : Config) (classify : Fault → Bool) (s : Script) (deadline : Option Int)
    (rep' : Report) (acts : List Act) : Prop :=
  ∃ x, EndsAt c classify s deadline rep' acts x

section Loop

variable {c : Config} {classify : Fault → Bool} {s : Script} {deadline : Option Int}
  {made : Nat} {last : Option Fault} {rep : Report}

/-- Calls made before the end of a run do not change how it ended. -/
theorem Ended.after_calls {rep' : Report} {acts : List Act}
    (h : Ended c classify s deadline rep' acts)
    (pre : List Act) : Ended c classify s deadline rep' (pre ++ acts) := by
  obtain ⟨x, hx⟩ := h
  obtain ⟨p, hp⟩ := hx.calls
  exact ⟨x, { hx with calls := ⟨pre ++ p, by rw [hp, List.append_assoc]⟩ }⟩

/-- The state of a run at the start of a turn depends only on the report's attempts. -/
theorem Retried.congr (h : Retried c classify s made last rep) {rep' : Report}
    (hatt : rep'.attempts = rep.attempts) : Retried c classify s made last rep' :=
  { h with
    count := hatt ▸ h.count
    last := hatt ▸ h.last
    failed := hatt ▸ h.failed
    scripted := hatt ▸ h.scripted }

/-- The last attempt's fault is one the script answered with. -/
theorem Retried.answers_last (h : Retried c classify s made last rep) (f : Fault)
    (hf : last = some f) : s.Answers f := by
  rw [h.last] at hf
  obtain ⟨a, ha, haf⟩ := Option.bind_eq_some_iff.1 hf
  exact .inr (.inr (h.scripted a (List.mem_of_getLast? ha) f haf))

/-- The faults a turn joins with the last attempt's were answered by the script. -/
theorem Retried.answers_cons (h : Retried c classify s made last rep) {o : Option Fault}
    (ho : ∀ f, o = some f → s.Answers f) : ∀ f, some f ∈ [o, last] → s.Answers f := by
  intro f hf
  rcases List.mem_cons.1 hf with hf | hf
  · exact ho f hf.symm
  · exact h.answers_last f (List.mem_singleton.1 hf).symm

/-- A refusal on the trace was answered by the script. -/
theorem Act.Scripted.reject {rej : Option Fault} (h : (Act.reject rej).Scripted s) :
    ∀ f, rej = some f → s.Answers f := by
  rintro f rfl
  exact .inr (.inl h)

/-- A failed attempt on the trace was answered by the script. -/
theorem Act.Scripted.attempt {k : Nat} {f : Fault} (h : (Act.attempt k (some f)).Scripted s) :
    ∀ g, some g ∈ [some f] → s.Answers g := by
  intro g hg
  cases List.mem_singleton.1 hg
  exact .inr (.inr h)

/-- A turn that ends the run without an attempt: the report keeps its attempts. -/
theorem Retried.stop (h : Retried c classify s made last rep) (x : Exit) {rep' : Report}
    {acts : List Act} (hatt : rep'.attempts = rep.attempts) (herr : rep'.err = x.err last)
    (hcalls : ∃ pre, acts = pre ++ x.calls c) (hdec : x.Decided c deadline made)
    (htried : Exit.Failed classify rep.attempts ∧ rep.attempts.length ≤ c.maxRetries.toNat →
      x.Tried classify c.maxRetries.toNat rep.attempts)
    (hans : ∀ f, some f ∈ x.lent last → s.Answers f) :
    Ended c classify s deadline rep' acts :=
  ⟨x, {
    err := by rw [herr, hatt, h.last]
    calls := hcalls
    decided := by rw [hatt, h.count]; exact hdec
    tried := by
      have := h.within
      rw [hatt]
      exact htried ⟨h.failed, by rw [h.count]; omega⟩
    answered := by rw [hatt, ← h.last]; exact hans }⟩

/-- A turn that ends the run after its attempt `a`. -/
theorem Retried.stop_tried (h : Retried c classify s made last rep) (x : Exit) {a : Attempt}
    {rep' : Report} {acts : List Act} (hatt : rep'.attempts = rep.attempts ++ [a])
    (herr : rep'.err = x.err a.err) (hcalls : ∃ pre, acts = pre ++ x.calls c)
    (hdec : x.Decided c deadline (made + 1))
    (htried : x.Tried classify c.maxRetries.toNat (rep.attempts ++ [a]))
    (hans : ∀ f, some f ∈ x.lent a.err → s.Answers f) :
    Ended c classify s deadline rep' acts :=
  ⟨x, {
    err := by simp [herr, hatt]
    calls := hcalls
    decided := by simpa [hatt, h.count] using hdec
    tried := hatt ▸ htried
    answered := by simpa [hatt] using hans }⟩

/-- After a failure to retry, every attempt so far failed with a fault to retry. -/
theorem Retried.failed_append (h : Retried c classify s made last rep) {a : Attempt} {f : Fault}
    (ha : a.err = some f) (hcl : classify f = true) :
    Exit.Failed classify (rep.attempts ++ [a]) := by
  intro b hb
  rcases List.mem_append.1 hb with hb | hb
  · exact h.failed b hb
  · rw [List.mem_singleton.1 hb]
    exact ⟨f, ha, hcl⟩

/-- A turn whose attempt failed with a fault to retry, within the retries, hands over. -/
theorem Retried.next (h : Retried c classify s made last rep) {a : Attempt} {f : Fault}
    {rep' : Report} (hatt : rep'.attempts = rep.attempts ++ [a]) (ha : a.err = some f)
    (hcl : classify f = true) (hi : ∃ i, s.attempt i = some f)
    (hwithin : ((made + 1 : Nat) : Int) ≤ c.maxRetries) :
    Retried c classify s (made + 1) (some f) rep' where
  count := by simp [hatt, h.count]
  within := hwithin
  last := by simp [hatt, ha]
  failed := hatt ▸ h.failed_append ha hcl
  scripted := by
    rw [hatt]
    intro b hb g hg
    rcases List.mem_append.1 hb with hb | hb
    · exact h.scripted b hb g hg
    · rw [List.mem_singleton.1 hb, ha] at hg
      cases hg
      exact hi

variable {acts : List Act}

/-- **A turn that ends the run ends it at an exit.** -/
theorem Goes.ends {rep' : Report} (h : Goes c classify deadline made last rep acts (.done rep'))
    (hr : Retried c classify s made last rep) (hsc : ∀ a ∈ acts, a.Scripted s) :
    Ended c classify s deadline rep' acts := by
  have hM := hr.within
  have hcount := hr.count
  have hlen : ∀ a : Attempt, (rep.attempts ++ [a]).length = made + 1 := fun a => by
    simp [hcount]
  cases h with
  | stopped e =>
    have he : ∃ i, s.shutdown i = some e := hsc _ List.mem_cons_self
    exact hr.stop (.shutdown e) rfl rfl ⟨[], rfl⟩ trivial id
      (hr.answers_cons fun f hf => by cases hf; exact .inl he)
  | expired t d hd ht =>
    exact hr.stop (.expired t) rfl rfl ⟨[], rfl⟩ ⟨d, hd, ht⟩ id
      fun f hf => hr.answers_last f (List.mem_singleton.1 hf).symm
  | refusedLate t tk rej cd t' _ hfit =>
    exact hr.stop (.refusedLate rej cd t') rfl rfl ⟨[.shutdown none, .now t, .permit tk false], rfl⟩
      (late_of_fits hfit) id
      (hr.answers_cons (Act.Scripted.reject (hsc _ (by simp [opening, refusal]))))
  | refusedCut t tk rej cd t' e =>
    exact hr.stop (.refusedCut rej cd t' e) rfl rfl
      ⟨[.shutdown none, .now t, .permit tk false], rfl⟩ trivial id
      (hr.answers_cons (Act.Scripted.reject (hsc _ (by simp [opening, refusal]))))
  | succeeded t tk start stop =>
    exact hr.stop_tried .succeeded rfl rfl ⟨_, (List.append_nil _).symm⟩ trivial
      ⟨rep.attempts, _, rfl, hr.failed, rfl⟩ fun _ hf => by simp [Exit.lent] at hf
  | released t tk start f stop _ hcl =>
    exact hr.stop_tried (.permanent f) rfl rfl ⟨_, (List.append_nil _).symm⟩ trivial
      ⟨rep.attempts, _, rfl, hr.failed, rfl, hcl⟩
      (Act.Scripted.attempt (hsc (.attempt (made + 1) (some f)) (by simp [opening, trial])))
  | exhausted t tk start f stop _ hcl hex =>
    exact hr.stop_tried (.exhausted f) rfl rfl ⟨_, (List.append_nil _).symm⟩ trivial
      ⟨hr.failed_append rfl hcl, by rw [hlen]; omega, by simp⟩
      (Act.Scripted.attempt (hsc (.attempt (made + 1) (some f)) (by simp [opening, trial])))
  | backoffLate t tk start f stop r t' _ hcl hex _ hfit =>
    exact hr.stop_tried (.backoffLate f r t') rfl rfl ⟨_, rfl⟩ (late_of_fits hfit)
      ⟨hr.failed_append rfl hcl, by rw [hlen]; omega, by simp⟩
      (Act.Scripted.attempt (hsc (.attempt (made + 1) (some f)) (by simp [opening, trial])))
  | backoffCut t tk start f stop r t' e _ hcl hex =>
    exact hr.stop_tried (.backoffCut f (c.delay (made + 1) r) e) rfl rfl ⟨_, rfl⟩ trivial
      ⟨hr.failed_append rfl hcl, by rw [hlen]; omega, by simp⟩
      (Act.Scripted.attempt (hsc (.attempt (made + 1) (some f)) (by simp [opening, trial])))

/-- **A turn that hands over keeps the state of the run**: the same attempts after a refusal,
one more failure to retry after a backoff. -/
theorem Goes.retried {made' : Nat} {last' : Option Fault} {rep' : Report}
    (h : Goes c classify deadline made last rep acts (.next made' last' rep'))
    (hr : Retried c classify s made last rep) (hsc : ∀ a ∈ acts, a.Scripted s) :
    Retried c classify s made' last' rep' := by
  cases h with
  | refusedWaited => exact hr.congr rfl
  | backedOff t tk start f stop r t' _ hcl hex =>
    exact hr.next rfl rfl hcl (hsc (.attempt (made + 1) (some f)) (by simp [opening, trial])) hex

end Loop

/-- **Every run from a turn on that ends, ends at an exit**, over the traced world. The
induction is on the turns of the run, which the traced world keeps on its trace. -/
theorem Ran.ends {c : Config} {classify : Fault → Bool} {deadline : Option Int} {fuel made : Nat}
    {last : Option Fault} {rep : Report} {w w' : (Reading.ofState Trace).State}
    {res : Option Report} (h : Ran (Reading.ofState Trace) Trace.env Trace.guard Trace.attempt
      deadline c classify fuel made last rep w res w')
    (hr : Retried c classify w.script made last rep) :
    ∀ rep', res = some rep' → Ended c classify w.script deadline rep' w'.acts := by
  induction h with
  | out => exact fun _ h => by cases h
  | done hacted hgoes =>
    intro rep' hrep
    cases hrep
    obtain ⟨rfl, hsc⟩ := Trace.acted hacted
    exact (hgoes.ends hr hsc).after_calls _
  | next hacted hgoes _ ih =>
    obtain ⟨rfl, hsc⟩ := Trace.acted hacted
    exact ih (hgoes.retried hr hsc)

/-- **Every run of the loop that ends, ends at an exit**, whatever number of turns it is
given. -/
theorem loop_ends (c : Config) (classify : Fault → Bool) (deadline : Option Int)
    (fuel made : Nat) (last : Option Fault) (rep : Report) (w : Trace)
    (hr : Retried c classify w.script made last rep) :
    let x := (loop c Trace.env Trace.guard classify Trace.attempt deadline fuel made last rep).run w
    ∀ rep', x.1 = some rep' → Ended c classify w.script deadline rep' x.2.acts :=
  (loop_ran (Reading.ofState Trace) Trace.env Trace.guard Trace.attempt deadline c classify
    fuel made last rep w).ends hr

/-- The deadline of a run on the script `s`: the first clock reading plus the policy's deadline,
when it has one. -/
def deadlineOf (c : Config) (s : Script) : Option Int :=
  if c.deadlineNs > 0 then some (s.now 0 + c.deadlineNs) else none

/-- A run that reads the clock for its deadline reads it first. -/
theorem Opens.deadlineOf {c : Config} {s : Script} {opened : List Act}
    {deadline : Option Int} {w : Trace} (ho : Opens c opened deadline)
    (h : Acted (Reading.ofState Trace) Trace.env Trace.guard Trace.attempt deadline opened
      ⟨s, []⟩ w) : deadline = Retry.deadlineOf c s := by
  cases ho with
  | timed t hpos =>
    obtain ⟨w', hnow, -⟩ := acted_cons.1 h
    simp only [Act.Answered, Reading.ofState, Trace.env, Trace.answer_run, List.length_nil] at hnow
    simp [Retry.deadlineOf, hpos, ← (Prod.mk.inj hnow).1]
  | untimed hpos => simp [Retry.deadlineOf, hpos]

/-- **Every run that ends, ends at an exit**, over a world, a guard and attempts that answer
from any script, whatever number of turns it is given: the run reads the clock for its deadline
if it has one, then runs its turns. -/
theorem run_ends (c : Config) (classify : Fault → Bool) (s : Script) (fuel : Nat) :
    let w := (run fuel c Trace.env Trace.guard classify Trace.attempt).run ⟨s, []⟩
    ∀ rep, w.1 = some rep → Ended c.normalize classify s (deadlineOf c s) rep w.2.acts := by
  intro w
  obtain ⟨opened, deadline, w₁, hopens, hacted, hrun⟩ :=
    run_opens (Reading.ofState Trace) Trace.env Trace.guard Trace.attempt c classify ⟨s, []⟩
  have hd := hopens.deadlineOf hacted
  obtain ⟨rfl, -⟩ := Trace.acted hacted
  have hw : w = (loop c.normalize Trace.env Trace.guard classify Trace.attempt deadline fuel 0
      none {}).run _ := hrun fuel
  have hstart : Retried c.normalize classify s 0 none {} :=
    ⟨rfl, by simp only [Config.normalize, Int.natCast_zero]; omega, rfl, by simp [Exit.Failed],
      by simp⟩
  rw [hw, ← hd]
  exact loop_ends c.normalize classify deadline fuel 0 none {} _ hstart

/-! ### The reasons -/

/-- A join holds each of its parts. -/
theorem mem_nodes_join {parts : List (Option Fault)} {f g : Fault}
    (hj : Fault.join parts = some g) (hf : some f ∈ parts) : f ∈ g.nodes := by
  rw [Fault.join_eq_some hj]
  exact Fault.mem_nodes_joined (List.mem_filterMap.2 ⟨_, hf, rfl⟩)

/-- A join led by a fixed failure is none of its other parts. -/
theorem join_sentinel_ne {w : Sentinel} {parts : List (Option Fault)} {f : Fault}
    (hf : some f ∈ parts) : Fault.join (some (.sentinel w) :: parts) ≠ some f := by
  rw [Fault.join_cons_some]
  intro h
  exact Fault.joined_ne_of_mem
    (List.mem_cons_of_mem _ (List.mem_filterMap.2 ⟨_, hf, rfl⟩)) (Option.some.inj h)

theorem Exit.Failed.last {classify : Fault → Bool} {as : List Attempt}
    (h : Exit.Failed classify as) {a : Attempt} (ha : as.getLast? = some a) :
    ∃ f, a.err = some f ∧ classify f = true :=
  h a (List.mem_of_getLast? ha)

/-- After attempts that all failed with faults to retry, the last one's was not a fault not
to retry. -/
theorem Exit.Failed.not_permanent {classify : Fault → Bool} {as : List Attempt}
    (h : Exit.Failed classify as) :
    ¬ ∃ a f, as.getLast? = some a ∧ a.err = some f ∧ classify f = false := by
  rintro ⟨a, f, ha, hf, hcl⟩
  obtain ⟨f', hf', hcl'⟩ := h.last ha
  rw [hf] at hf'
  cases hf'
  rw [hcl] at hcl'
  cases hcl'

section Ends

variable {c : Config} {classify : Fault → Bool} {s : Script} {deadline : Option Int}
  {rep : Report} {acts : List Act} {x : Exit}

/-- **The report's fault holds a fixed failure exactly when the run ended at an exit with that
verdict, or the script lent it.** -/
theorem EndsAt.isa_iff (hx : EndsAt c classify s deadline rep acts x) {v : Sentinel} {g : Fault}
    (hg : rep.err = some g) : g.isa v = true ↔ x.verdict = some v ∨ s.Lends g v := by
  rw [hx.err] at hg
  cases hver : x.verdict with
  | some w =>
    -- the verdict is joined with faults the script answered with
    rw [Exit.err_of_verdict hver] at hg
    rw [isa_join_iff hg hx.answered, Option.some.injEq, eq_comm]
  | none =>
    cases x with
    | permanent f =>
      cases hg
      refine ⟨fun hv => .inr ⟨_, .inl rfl, hv, hx.answered _ (by simp [Exit.lent])⟩, ?_⟩
      rintro (h | hl)
      · cases h
      · exact hl.isa
    | succeeded => cases hg
    | _ => cases hver

/-- **The report holds no fault exactly when the last attempt succeeded.** -/
theorem EndsAt.err_eq_none_iff (hx : EndsAt c classify s deadline rep acts x) :
    rep.err = none ↔ ∃ a, rep.attempts.getLast? = some a ∧ a.err = none := by
  have htried := hx.tried
  rw [hx.err]
  cases x with
  | succeeded =>
    obtain ⟨bs, a, has, -, ha⟩ := htried
    exact ⟨fun _ => ⟨a, by simp [has], ha⟩, fun _ => rfl⟩
  | permanent f =>
    obtain ⟨bs, a, has, -, ha, -⟩ := htried
    simp [Exit.err, has, ha]
  | _ =>
    -- every other exit joins a verdict, after attempts that all failed
    obtain ⟨hfailed, -⟩ := htried
    refine ⟨fun h => by simp [Exit.err, Fault.join_cons_some] at h, fun ⟨a, ha, hn⟩ => ?_⟩
    obtain ⟨f, hf, -⟩ := hfailed.last ha
    rw [hn] at hf
    cases hf

/-- **The report holds the last attempt's fault itself exactly when the classifier would not
retry it.** -/
theorem EndsAt.err_itself_iff (hx : EndsAt c classify s deadline rep acts x) :
    (∃ a f, rep.attempts.getLast? = some a ∧ a.err = some f ∧ classify f = false) ↔
      ∃ a f, rep.attempts.getLast? = some a ∧ a.err = some f ∧ rep.err = some f := by
  have htried := hx.tried
  rw [hx.err]
  cases x with
  | succeeded =>
    obtain ⟨bs, a, has, -, ha⟩ := htried
    simp [has, ha]
  | permanent f =>
    obtain ⟨bs, a, has, -, ha, hcl⟩ := htried
    exact ⟨fun _ => ⟨a, f, by simp [has], ha, rfl⟩, fun _ => ⟨a, f, by simp [has], ha, hcl⟩⟩
  | exhausted f' | backoffLate f' r t | backoffCut f' w e =>
    -- the verdict is joined with the failure, which was to retry
    obtain ⟨hfailed, -, hf'⟩ := htried
    refine ⟨fun h => absurd h hfailed.not_permanent, fun ⟨a, f, ha, hf, herr⟩ => ?_⟩
    have : f' = f := Option.some.inj (hf'.symm.trans (by simp [ha, hf]))
    subst this
    exact absurd herr (join_sentinel_ne (List.mem_singleton_self _))
  | _ =>
    -- the verdict is joined with the last attempt's failure, which was to retry
    obtain ⟨hfailed, -⟩ := htried
    refine ⟨fun h => absurd h hfailed.not_permanent, fun ⟨a, f, ha, hf, herr⟩ => ?_⟩
    have hlast : rep.attempts.getLast?.bind Attempt.err = some f := by simp [ha, hf]
    refine absurd herr (join_sentinel_ne ?_)
    simp [hlast]

/-- **The report holds used-up retries exactly when every retry was made and all failed with
faults to retry, or a fault of the script that it carries holds used-up retries.** -/
theorem EndsAt.exhausted_iff (hx : EndsAt c classify s deadline rep acts x) :
    (∃ g, rep.err = some g ∧ g.isa .exhausted = true) ↔
      (rep.attempts.length = c.maxRetries.toNat + 1 ∧ Exit.Failed classify rep.attempts) ∨
        ∃ g, rep.err = some g ∧ s.Lends g .exhausted := by
  have htried := hx.tried
  constructor
  · rintro ⟨g, hg, hv⟩
    rcases (hx.isa_iff hg).1 hv with hverdict | hl
    · cases x with
      | exhausted f =>
        obtain ⟨hfailed, hlen, -⟩ := htried
        exact .inl ⟨hlen, hfailed⟩
      | _ => simp [Exit.verdict] at hverdict
    · exact .inr ⟨g, hg, hl⟩
  · rintro (⟨hlen, hfailed⟩ | ⟨g, hg, hl⟩)
    · have herr := hx.err
      cases x with
      | exhausted f =>
        refine ⟨_, herr, ?_⟩
        simp
      | succeeded =>
        obtain ⟨bs, a, has, -, ha⟩ := htried
        obtain ⟨f, hf, -⟩ := hfailed a (by simp [has])
        rw [ha] at hf
        cases hf
      | permanent f =>
        obtain ⟨bs, a, has, -, ha, hcl⟩ := htried
        exact absurd ⟨a, f, by simp [has], ha, hcl⟩ hfailed.not_permanent
      | backoffLate f r t | backoffCut f w e =>
        obtain ⟨-, hle, -⟩ := htried
        omega
      | shutdown e | expired t | refusedLate rej cd t | refusedCut rej cd t e =>
        obtain ⟨-, hle⟩ := htried
        omega
    · exact ⟨g, hg, hl.isa⟩

/-- **A passed deadline in the report** means the run had a deadline, and its last call read the
clock: at or past the deadline, or too late for the wait after a refusal, whose fault the
report then holds, or for the backoff after a failure, drawn last when the policy jitters;
unless the script lent it. -/
theorem EndsAt.deadline_reason (hx : EndsAt c classify s deadline rep acts x) {g : Fault}
    (hg : rep.err = some g) (hv : g.isa .deadlinePassed = true) :
    (∃ d t, deadline = some d ∧ acts.getLast? = some (.now t) ∧
      (d ≤ t ∨
        (∃ pre rej cd, acts = pre ++ [.reject rej, .cooldown cd,
            .observe (.rejected (c.refusalWait cd)), .now t] ∧
          d < t + c.refusalWait cd ∧ ∀ r, rej = some r → r ∈ g.nodes) ∨
        ∃ r, d < t + c.delay rep.attempts.length r ∧
          (c.jitters = true → ∃ pre, acts = pre ++ [.draw r, .now t]))) ∨
      s.Lends g .deadlinePassed := by
  rcases (hx.isa_iff hg).1 hv with hverdict | hl
  · obtain ⟨pre, hacts⟩ := hx.calls
    have hdec := hx.decided
    cases x with
    | expired t =>
      obtain ⟨d, hd, hle⟩ := hdec
      exact .inl ⟨d, t, hd, by simp [hacts, Exit.calls], .inl hle⟩
    | refusedLate rej cd t =>
      obtain ⟨d, hd, hlt⟩ := hdec
      refine .inl ⟨d, t, hd, by simp [hacts, Exit.calls],
        .inr (.inl ⟨pre, rej, cd, hacts, hlt, fun r hr => ?_⟩)⟩
      rw [hx.err] at hg
      simp only [Exit.err] at hg
      exact mem_nodes_join hg (by simp [hr])
    | backoffLate f r t =>
      obtain ⟨d, hd, hlt⟩ := hdec
      exact .inl ⟨d, t, hd, by simp [hacts, Exit.calls, backoff],
        .inr (.inr ⟨r, hlt, fun hj => ⟨pre, by simp [hacts, Exit.calls, backoff, hj]⟩⟩)⟩
    | _ => simp [Exit.verdict] at hverdict
  · exact .inr hl

/-- **An interruption in the report** means that the run's last call was a shutdown check that
answered a fault, or a wait that shutdown cut short; unless the script lent it. -/
theorem EndsAt.interrupted_reason (hx : EndsAt c classify s deadline rep acts x) {g : Fault}
    (hg : rep.err = some g) (hv : g.isa .interrupted = true) :
    (∃ e, acts.getLast? = some (.shutdown (some e)) ∨
        ∃ w, acts.getLast? = some (.sleep w (some e))) ∨
      s.Lends g .interrupted := by
  rcases (hx.isa_iff hg).1 hv with hverdict | hl
  · obtain ⟨pre, hacts⟩ := hx.calls
    cases x with
    | shutdown e => exact .inl ⟨e, .inl (by simp [hacts, Exit.calls])⟩
    | refusedCut rej cd t e =>
      exact .inl ⟨e, .inr ⟨c.refusalWait cd, by simp [hacts, Exit.calls]⟩⟩
    | backoffCut f w e => exact .inl ⟨e, .inr ⟨w, by simp [hacts, Exit.calls, waiting]⟩⟩
    | _ => simp [Exit.verdict] at hverdict
  · exact .inr hl

/-- **Whenever the report holds a fault, it holds the last attempt's.** -/
theorem EndsAt.holds_last (hx : EndsAt c classify s deadline rep acts x) {g : Fault}
    (hg : rep.err = some g) {a : Attempt} {f : Fault} (ha : rep.attempts.getLast? = some a)
    (hf : a.err = some f) : f ∈ g.nodes := by
  have hlast : rep.attempts.getLast?.bind Attempt.err = some f := by simp [ha, hf]
  have htried := hx.tried
  rw [hx.err] at hg
  cases x with
  | succeeded => cases hg
  | permanent f' =>
    obtain ⟨bs, a', has, -, ha', -⟩ := htried
    have hf' : some f' = some f := by simpa [has, ha'] using hlast
    cases hf'
    cases hg
    exact Fault.mem_nodes_self _
  | exhausted f' | backoffLate f' r t | backoffCut f' w e =>
    obtain ⟨-, -, hf'⟩ := htried
    cases hf'.symm.trans hlast
    simp only [Exit.err] at hg
    exact mem_nodes_join hg (by simp)
  | shutdown e | expired t | refusedLate rej cd t | refusedCut rej cd t e =>
    simp only [Exit.err] at hg
    exact mem_nodes_join hg (by simp [hlast])

end Ends

/-- A run has a deadline when its policy does: the first clock reading plus the policy's. -/
theorem deadlineOf_eq_some {c : Config} {s : Script} {d : Int} (h : deadlineOf c s = some d) :
    0 < c.deadlineNs ∧ d = s.now 0 + c.deadlineNs := by
  unfold deadlineOf at h
  split at h
  · cases h
    exact ⟨by omega, rfl⟩
  · cases h

/-- **The reasons a run of the retry engine ends with are exact**, for every policy, classifier
and script of answers of the world, the guard and the attempts, and for every run that ends,
however many turns it is given:

* the report holds no fault exactly when the last attempt succeeded;
* it holds the last attempt's fault itself exactly when the classifier would not retry it;
* it holds used-up retries exactly when `maxRetries + 1` attempts were made (a negative
  `maxRetries` counting as none), all failed with faults to retry, or when a fault of the
  script that it carries holds used-up retries itself;
* it holds a passed deadline only under a deadline, the first clock reading plus the policy's,
  and when the run's last call read the clock at or past it, or too late for the wait after a
  refusal (whose fault the report then holds) or for the backoff after a failure; or when a
  fault of the script that it carries holds a passed deadline;
* it holds an interruption only when the run's last call was a shutdown check that answered a
  fault or a wait that shutdown cut short, or when a fault of the script that it carries holds
  an interruption;
* whenever it holds a fault, it holds the last attempt's. -/
theorem run_reasons_exact (c : Config) (classify : Fault → Bool) (s : Script) (fuel : Nat) :
    let w := (run fuel c Trace.env Trace.guard classify Trace.attempt).run ⟨s, []⟩
    let acts := w.2.acts
    ∀ rep, w.1 = some rep →
      (rep.err = none ↔ ∃ a, rep.attempts.getLast? = some a ∧ a.err = none) ∧
      ((∃ a f, rep.attempts.getLast? = some a ∧ a.err = some f ∧ classify f = false) ↔
        ∃ a f, rep.attempts.getLast? = some a ∧ a.err = some f ∧ rep.err = some f) ∧
      ((∃ g, rep.err = some g ∧ g.isa .exhausted = true) ↔
        (rep.attempts.length = c.maxRetries.toNat + 1 ∧ Exit.Failed classify rep.attempts) ∨
          ∃ g, rep.err = some g ∧ s.Lends g .exhausted) ∧
      (∀ g, rep.err = some g → g.isa .deadlinePassed = true →
        (0 < c.deadlineNs ∧ ∃ t, acts.getLast? = some (.now t) ∧
          (s.now 0 + c.deadlineNs ≤ t ∨
            (∃ pre rej cd, acts = pre ++ [.reject rej, .cooldown cd,
                .observe (.rejected (c.normalize.refusalWait cd)), .now t] ∧
              s.now 0 + c.deadlineNs < t + c.normalize.refusalWait cd ∧
              ∀ r, rej = some r → r ∈ g.nodes) ∨
            ∃ r, s.now 0 + c.deadlineNs < t + c.normalize.delay rep.attempts.length r ∧
              (c.normalize.jitters = true → ∃ pre, acts = pre ++ [.draw r, .now t]))) ∨
          s.Lends g .deadlinePassed) ∧
      (∀ g, rep.err = some g → g.isa .interrupted = true →
        (∃ e, acts.getLast? = some (.shutdown (some e)) ∨
            ∃ d, acts.getLast? = some (.sleep d (some e))) ∨
          s.Lends g .interrupted) ∧
      (∀ g, rep.err = some g → ∀ a f, rep.attempts.getLast? = some a → a.err = some f →
        f ∈ g.nodes) := by
  intro w acts rep hrep
  obtain ⟨x, hx⟩ := run_ends c classify s fuel rep hrep
  have hM : c.normalize.maxRetries.toNat = c.maxRetries.toNat := by
    simp only [Config.normalize]
    omega
  have hexhausted := hx.exhausted_iff
  rw [hM] at hexhausted
  refine ⟨hx.err_eq_none_iff, hx.err_itself_iff, hexhausted, fun g hg hv => ?_,
    fun g hg hv => hx.interrupted_reason hg hv, fun g hg a f ha hf => hx.holds_last hg ha hf⟩
  rcases hx.deadline_reason hg hv with ⟨d, t, hd, hlast, hwhy⟩ | hl
  · obtain ⟨hD, rfl⟩ := deadlineOf_eq_some hd
    exact .inl ⟨hD, t, hlast, hwhy⟩
  · exact .inr hl

/-- A world where nothing takes time, shutdown never comes, the guard admits every call and
every attempt fails with a plain text. -/
def downScript : Script where
  now _ := 0
  shutdown _ := none
  sleep _ := none
  draw _ := 0.5
  permit _ := (0, true)
  cooldown _ := 0
  reject _ := none
  attempt _ := some (.text "down")

/-- One attempt that fails when no retry is allowed ends the run with used-up retries, which
its single attempt accounts for. -/
theorem run_reasons_exact_down :
    let w := (run 1 { maxRetries := 0 } Trace.env Trace.guard (fun _ => true) Trace.attempt).run
      ⟨downScript, []⟩
    ∃ rep, w.1 = some rep ∧ rep.attempts.length = 1 ∧
      ∃ g, rep.err = some g ∧ g.isa .exhausted = true :=
  ⟨_, rfl, rfl, (run_reasons_exact { maxRetries := 0 } (fun _ => true) downScript 1 _ rfl).2.2.1.2
    (.inl ⟨rfl, fun a ha => ⟨.text "down", by rw [List.mem_singleton.1 ha]; rfl, rfl⟩⟩)⟩

/-- The same world, but every attempt fails with a fault that wraps used-up retries. -/
def lendingScript : Script :=
  { downScript with attempt := fun _ => some (.wrap "x: " (.sentinel .exhausted)) }

/-- **Two runs where used-up retries do not count the attempts.** An attempt whose fault, not
to be retried, wraps used-up retries ends the run after one attempt of the three allowed, with
used-up retries in the report; and a policy with a negative retry count ends a run with used-up
retries after one failure to retry, though the count plus one is below one. -/
theorem exhausted_without_retries :
    (∃ rep, ((run 1 { maxRetries := 2 } Trace.env Trace.guard (fun _ => false)
        Trace.attempt).run ⟨lendingScript, []⟩).1 = some rep ∧
      (∃ g, rep.err = some g ∧ g.isa .exhausted = true) ∧ rep.attempts.length ≠ 2 + 1) ∧
    ∃ rep, ((run 1 { maxRetries := -4 } Trace.env Trace.guard (fun _ => true)
        Trace.attempt).run ⟨downScript, []⟩).1 = some rep ∧
      (∃ g, rep.err = some g ∧ g.isa .exhausted = true) ∧ (rep.attempts.length : Int) ≠ -4 + 1 :=
  ⟨⟨_, rfl, ⟨_, rfl, by decide⟩, by decide⟩, ⟨_, rfl, ⟨_, rfl, by decide⟩, by decide⟩⟩

end Conveyor.Retry
