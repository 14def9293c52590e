import Conveyor.Proofs.Retry.Turn
import Conveyor.Proofs.Fault.Matching
/-!
# The retry engine's protocol with its guard and its attempts

The engine asks its guard for a ticket before every attempt. A refused ticket is rejected, its
cool-down read and waited out, and costs no attempt; an admitted ticket is spent on one
attempt and reported back at once: as a success when the attempt answered no fault, as
released when the classifier says not to retry the fault, and as a failure otherwise.

To say this for every guard, every classifier and every behaviour of the attempts, the engine
is run over a world that answers each call from a script and keeps a trace of the calls with
their answers (`Trace`). Seen from the guard and the attempts, every run is a sequence of
whole turns, each refused or admitted (`Turn`), and a run that ends has a report that agrees
with them: its attempts are those of the admitted turns, numbered from one, at most one more
than the retries allowed; its rejections count the refused turns; and it succeeded exactly when
the last attempt did (`run_follows_protocol`). This holds for every number of turns the run is
given, so for every run of the engine, however long, and a run still going after its turns has
kept the protocol so far.

The traced world keeps every call on its trace (`Trace.acted`), so the trace of a run is the
calls of its turns one after another. What each way through a turn shows the guard and the
attempts is read off `Goes` once (`Goes.follows_done`, `Goes.follows_next`), and a run follows
the protocol by induction on its turns (`Ran.follows`).
-/

namespace Conveyor.Retry

/-- The calls that the guard and the attempts see. -/
def Act.guarded : Act → Bool
  | .permit _ _ | .succeeded _ | .failed _ | .released _ | .cooldown _ | .reject _
  | .attempt _ _ => true
  | _ => false

/-- What the world, the guard and the attempts answer, call by call: the call at position `k`
of the trace gets the answer that its kind has at `k`. -/
structure Script where
  now : Nat → Int
  shutdown : Nat → Option Fault
  sleep : Nat → Option Fault
  draw : Nat → Float
  permit : Nat → Nat × Bool
  cooldown : Nat → Int
  reject : Nat → Option Fault
  attempt : Nat → Option Fault

/-- A world that answers from a script and keeps every call made of it, in order. -/
structure Trace where
  script : Script
  acts : List Act

/-- The answer an act records is one the script gives its kind of call at some position. -/
def Act.Scripted (s : Script) : Act → Prop
  | .now t => ∃ i, s.now i = t
  | .shutdown a => ∃ i, s.shutdown i = a
  | .sleep _ a => ∃ i, s.sleep i = a
  | .draw r => ∃ i, s.draw i = r
  | .permit t ok => ∃ i, s.permit i = (t, ok)
  | .cooldown w => ∃ i, s.cooldown i = w
  | .reject r => ∃ i, s.reject i = r
  | .attempt _ e => ∃ i, s.attempt i = e
  | .observe _ | .succeeded _ | .failed _ | .released _ => True

namespace Trace

/-- Makes a call that the script answers. -/
def answer {α : Type} (f : Script → Nat → α) (act : α → Act) : StateM Trace α :=
  modifyGet fun w =>
    (f w.script w.acts.length, { w with acts := w.acts ++ [act (f w.script w.acts.length)] })

/-- Makes a call that has no answer. -/
def tell (act : Act) : StateM Trace Unit :=
  modify fun w => { w with acts := w.acts ++ [act] }

/-- The engine's world over a trace. -/
def env : Env (StateM Trace) where
  now := answer Script.now .now
  shutdown := answer Script.shutdown .shutdown
  sleep d := answer Script.sleep (.sleep d)
  draw := answer Script.draw .draw
  observe e := tell (.observe e)

/-- A guard over a trace: its tickets, refusals and cool-downs are the script's. -/
def guard : Guard (StateM Trace) where
  permit := answer Script.permit fun p => .permit p.1 p.2
  succeeded t := tell (.succeeded t)
  failed t := tell (.failed t)
  released t := tell (.released t)
  cooldown := answer Script.cooldown .cooldown
  reject := answer Script.reject .reject

/-- An attempt over a trace: its fault is the script's. -/
def attempt (k : Nat) (_ : Option Int) : StateM Trace (Option Fault) :=
  answer Script.attempt (.attempt k)

theorem answer_run {α : Type} (f : Script → Nat → α) (act : α → Act) (w : Trace) :
    (answer f act).run w =
      (f w.script w.acts.length, { w with acts := w.acts ++ [act (f w.script w.acts.length)] }) :=
  rfl

theorem tell_run (act : Act) (w : Trace) :
    (tell act).run w = ((), { w with acts := w.acts ++ [act] }) := rfl

/-- **Every call of the traced world is kept on the trace**, with an answer of the script. -/
theorem answered {a : Act} {w w' : Trace} {d : Option Int}
    (h : a.Answered (Reading.ofState Trace) env guard attempt d w w') :
    w' = { w with acts := w.acts ++ [a] } ∧ a.Scripted w.script := by
  cases a with
  | observe e | succeeded t | failed t | released t =>
    simp only [Act.Answered, Reading.ofState, env, guard, tell_run, Prod.mk.injEq, true_and] at h
    exact ⟨h.symm, trivial⟩
  | now t | shutdown t | sleep v t | draw t | cooldown t | reject t | attempt k t =>
    simp only [Act.Answered, Reading.ofState, env, guard, attempt, answer_run,
      Prod.mk.injEq] at h
    obtain ⟨rfl, rfl⟩ := h
    exact ⟨rfl, _, rfl⟩
  | permit t ok =>
    simp only [Act.Answered, Reading.ofState, guard, answer_run, Prod.mk.injEq] at h
    obtain ⟨hp, rfl⟩ := h
    exact ⟨by rw [hp], _, hp⟩

/-- **The traced world keeps every call made of it on the trace**, in order, each with an
answer of the script, which stays as it was. -/
theorem acted {acts : List Act} {w w' : Trace} {d : Option Int}
    (h : Acted (Reading.ofState Trace) env guard attempt d acts w w') :
    w' = { w with acts := w.acts ++ acts } ∧ ∀ a ∈ acts, a.Scripted w.script := by
  induction acts generalizing w with
  | nil =>
    rw [← acted_nil.1 h]
    simp
  | cons a as ih =>
    obtain ⟨w₁, ha, has⟩ := acted_cons.1 h
    obtain ⟨rfl, hs⟩ := answered ha
    obtain ⟨rfl, hss⟩ := ih has
    refine ⟨by simp, fun b hb => ?_⟩
    rcases List.mem_cons.1 hb with rfl | hb
    · exact hs
    · exact hss b hb

end Trace

/-! ### Turns -/

/-- One turn of the engine as its guard and its attempts see it. -/
inductive Turn where
  /-- The guard refused the ticket, with the refusal and the cool-down it gave. -/
  | refused (ticket : Nat) (rejection : Option Fault) (cooldown : Int)
  /-- The guard admitted the ticket, and the attempt of that number answered `err`. -/
  | admitted (ticket : Nat) (number : Nat) (err : Option Fault)

/-- How an admitted ticket is reported: a success for no fault, released for a fault not to be
retried, a failure otherwise. -/
def report (classify : Fault → Bool) (ticket : Nat) : Option Fault → Act
  | none => .succeeded ticket
  | some f => if classify f then .failed ticket else .released ticket

namespace Turn

/-- The calls of a turn that its guard and its attempt see, in order. -/
def acts (classify : Fault → Bool) : Turn → List Act
  | .refused t r cd => [.permit t false, .reject r, .cooldown cd]
  | .admitted t k e => [.permit t true, .attempt k e, report classify t e]

/-- The attempt of an admitted turn: its number and its fault. -/
def tried : Turn → Option (Nat × Option Fault)
  | .admitted _ k e => some (k, e)
  | .refused .. => none

def isRefused : Turn → Bool
  | .refused .. => true
  | .admitted .. => false

end Turn

/-- An attempt of a report as the attempts see it: its number and its fault. -/
def Attempt.view (a : Attempt) : Nat × Option Fault := (a.number, a.err)

/-- The report `rep'` agrees with the turns `ts` that took it from `rep`: it gained their
attempts and one rejection per refused turn, and it holds no fault exactly when the last
attempt answered none. -/
structure Reported (rep rep' : Report) (ts : List Turn) : Prop where
  attempts : rep'.attempts.map Attempt.view =
    rep.attempts.map Attempt.view ++ ts.filterMap Turn.tried
  rejections : rep'.rejections = rep.rejections + ts.countP Turn.isRefused
  err : rep'.err = none ↔ (ts.filterMap Turn.tried).getLast?.map Prod.snd = some none

/-- What a run of the engine did from some turn on, after `made` attempts, with the calls `new`
it made, the report going from `rep` and the answer `res`: the guard and the attempts saw the
whole turns `ts`; their attempts are numbered on from `made`, within the retries; and a report
it ended with agrees with them. -/
structure Follows (c : Config) (classify : Fault → Bool) (made : Nat) (rep : Report)
    (ts : List Turn) (new : List Act) (res : Option Report) : Prop where
  view : new.filter Act.guarded = ts.flatMap (Turn.acts classify)
  numbers : (ts.filterMap Turn.tried).map Prod.fst =
    List.range' (made + 1) (ts.filterMap Turn.tried).length
  within : made + (ts.filterMap Turn.tried).length ≤ c.maxRetries.toNat + 1
  reported : ∀ rep', res = some rep' → Reported rep rep' ts

namespace Follows

variable {c : Config} {classify : Fault → Bool} {made : Nat} {rep rep' : Report}

/-- A run out of turns has followed the protocol so far, with nothing seen. -/
theorem out (hmade : made ≤ c.maxRetries.toNat + 1) : Follows c classify made rep [] [] none where
  view := rfl
  numbers := rfl
  within := hmade
  reported _ h := by cases h

/-- A run that stops with a fault before its guard is asked again. -/
theorem stop {all : List Act} (hall : all.filter Act.guarded = [])
    (hmade : made ≤ c.maxRetries.toNat + 1) {g : Fault} (herr : rep'.err = some g)
    (hatt : rep'.attempts = rep.attempts) (hrej : rep'.rejections = rep.rejections) :
    Follows c classify made rep [] all (some rep') where
  view := hall
  numbers := rfl
  within := hmade
  reported _ h := by
    cases h
    exact ⟨by simp [hatt], by simp [hrej], by simp [herr]⟩

/-- A run that stops with a fault after its guard refused a ticket. -/
theorem refusedStop {all : List Act} {t : Nat} {r : Option Fault} {cd : Int}
    (hall : all.filter Act.guarded = Turn.acts classify (.refused t r cd))
    (hmade : made ≤ c.maxRetries.toNat + 1) {g : Fault} (herr : rep'.err = some g)
    (hatt : rep'.attempts = rep.attempts) (hrej : rep'.rejections = rep.rejections + 1) :
    Follows c classify made rep [.refused t r cd] all (some rep') where
  view := by simpa using hall
  numbers := rfl
  within := by simpa [List.filterMap_cons, Turn.tried] using hmade
  reported _ h := by
    cases h
    exact ⟨by simp [hatt, Turn.tried], by simp [hrej, Turn.isRefused], by simp [herr, Turn.tried]⟩

/-- A run that ends with the attempt of its ticket: a success, a fault not to be retried, or
a failure after which it stops. -/
theorem tried {all : List Act} {t : Nat} {e : Option Fault}
    (hall : all.filter Act.guarded = Turn.acts classify (.admitted t (made + 1) e))
    (hmade : made + 1 ≤ c.maxRetries.toNat + 1)
    (hatt : rep'.attempts.map Attempt.view = rep.attempts.map Attempt.view ++ [(made + 1, e)])
    (hrej : rep'.rejections = rep.rejections) (herr : rep'.err = none ↔ e = none) :
    Follows c classify made rep [.admitted t (made + 1) e] all (some rep') where
  view := by simpa using hall
  numbers := by simp [Turn.tried, List.range'_succ]
  within := by simpa [Turn.tried] using hmade
  reported _ h := by
    cases h
    exact ⟨by simpa [Turn.tried] using hatt, by simp [hrej, Turn.isRefused],
      by simp [herr, Turn.tried]⟩

/-- A refused turn, then the rest of the run with the same attempts made. -/
theorem refused {all : List Act} (rest : List Act) {t : Nat} {r : Option Fault} {cd : Int}
    {rep'' : Report} {ts : List Turn} {res : Option Report}
    (hall : all.filter Act.guarded =
      Turn.acts classify (.refused t r cd) ++ rest.filter Act.guarded)
    (h : Follows c classify made rep'' ts rest res)
    (hatt : rep''.attempts = rep.attempts) (hrej : rep''.rejections = rep.rejections + 1) :
    Follows c classify made rep (.refused t r cd :: ts) all res where
  view := by rw [hall, h.view, List.flatMap_cons]
  numbers := by simpa [List.filterMap_cons, Turn.tried] using h.numbers
  within := by simpa [List.filterMap_cons, Turn.tried] using h.within
  reported r' hr := by
    have hrep := h.reported r' hr
    refine ⟨by simpa [List.filterMap_cons, Turn.tried, hatt] using hrep.attempts, ?_,
      by simpa [List.filterMap_cons, Turn.tried] using hrep.err⟩
    rw [hrep.rejections, hrej, List.countP_cons]
    simp [Turn.isRefused]
    omega

/-- An admitted turn whose attempt failed, then the rest of the run from the next number. -/
theorem failed {all : List Act} (rest : List Act) {t : Nat} {f : Fault} {rep'' : Report}
    {ts : List Turn} {res : Option Report}
    (hall : all.filter Act.guarded =
      Turn.acts classify (.admitted t (made + 1) (some f)) ++ rest.filter Act.guarded)
    (h : Follows c classify (made + 1) rep'' ts rest res)
    (hatt : rep''.attempts.map Attempt.view =
      rep.attempts.map Attempt.view ++ [(made + 1, some f)])
    (hrej : rep''.rejections = rep.rejections) :
    Follows c classify made rep (.admitted t (made + 1) (some f) :: ts) all res where
  view := by rw [hall, h.view, List.flatMap_cons]
  numbers := by
    simp only [List.filterMap_cons, Turn.tried, List.map_cons, List.length_cons, h.numbers,
      List.range'_succ]
  within := by
    have := h.within
    simp only [List.filterMap_cons, Turn.tried, List.length_cons]
    omega
  reported r' hr := by
    have hrep := h.reported r' hr
    refine ⟨by simp [hrep.attempts, hatt, Turn.tried],
      by simp [hrep.rejections, hrej, Turn.isRefused], ?_⟩
    rw [hrep.err]
    -- the last attempt is the rest's last, or this one's when the rest made none
    cases hl : (ts.filterMap Turn.tried).getLast? with
    | none => simp [Turn.tried, List.getLast?_cons, hl]
    | some x => simp [Turn.tried, List.getLast?_cons, hl]

end Follows

/-! ### Each way through a turn -/

section Ways

variable {c : Config} {classify : Fault → Bool} {deadline : Option Int} {made : Nat}
  {last : Option Fault} {rep : Report} {acts : List Act}

/-- The calls before a backoff are none that the guard or the attempts see. -/
@[simp] theorem backoff_guarded (r : Float) (t : Int) :
    (backoff c r t).filter Act.guarded = [] := by
  unfold backoff
  split <;> rfl

theorem tried_view (k : Nat) (e : Option Fault) (start stop : Int) :
    (rep.tried k e start stop).attempts.map Attempt.view =
      rep.attempts.map Attempt.view ++ [(k, e)] := by
  simp [Report.tried, Attempt.view]

/-- **What a turn that ends the run shows the guard and the attempts**: nothing, one refused
ticket, or one admitted ticket and its attempt, with the report agreeing. -/
theorem Goes.follows_done {rep' : Report}
    (h : Goes c classify deadline made last rep acts (.done rep'))
    (hmade : (made : Int) ≤ c.maxRetries) :
    ∃ ts, Follows c classify made rep ts acts (some rep') := by
  have hM : made + 1 ≤ c.maxRetries.toNat + 1 := by omega
  cases h with
  | stopped e => exact ⟨[], .stop rfl (by omega) (Fault.join_cons_some _ _) rfl rfl⟩
  | expired t d => exact ⟨[], .stop rfl (by omega) (Fault.join_cons_some _ _) rfl rfl⟩
  | refusedLate t tk rej cd t' =>
    exact ⟨_, .refusedStop rfl (by omega) (Fault.join_cons_some _ _) rfl rfl⟩
  | refusedCut t tk rej cd t' e =>
    exact ⟨_, .refusedStop rfl (by omega) (Fault.join_cons_some _ _) rfl rfl⟩
  | succeeded t tk start stop =>
    exact ⟨[.admitted tk (made + 1) none], .tried rfl hM (tried_view _ _ _ _) rfl (by simp)⟩
  | released t tk start f stop ht hcl =>
    exact ⟨[.admitted tk (made + 1) (some f)], .tried
      (by simp [opening, trial, Act.guarded, Turn.acts, report, hcl, List.filter_cons]) hM
      (tried_view _ _ _ _) rfl (by simp)⟩
  | exhausted t tk start f stop ht hcl =>
    exact ⟨[.admitted tk (made + 1) (some f)], .tried
      (by simp [opening, trial, Act.guarded, Turn.acts, report, hcl, List.filter_cons]) hM
      (tried_view _ _ _ _) rfl (by simp [Fault.join_cons_some])⟩
  | backoffLate t tk start f stop r t' ht hcl =>
    exact ⟨[.admitted tk (made + 1) (some f)], .tried
      (by simp [opening, trial, Act.guarded, Turn.acts, report, hcl, List.filter_cons]) hM
      (tried_view _ _ _ _) rfl (by simp [Fault.join_cons_some])⟩
  | backoffCut t tk start f stop r t' e ht hcl =>
    exact ⟨[.admitted tk (made + 1) (some f)], .tried
      (by simp [opening, trial, waiting, Act.guarded, Turn.acts, report, hcl, List.filter_cons]) hM
      (tried_view _ _ _ _) rfl (by simp [Fault.join_cons_some])⟩

/-- A turn that hands over keeps the attempts made within the retries. -/
theorem Goes.within_next {made' : Nat} {last' : Option Fault} {rep' : Report}
    (h : Goes c classify deadline made last rep acts (.next made' last' rep'))
    (hmade : (made : Int) ≤ c.maxRetries) : (made' : Int) ≤ c.maxRetries := by
  cases h with
  | refusedWaited => exact hmade
  | backedOff t tk start f stop r t' ht hcl hex => exact hex

/-- **What a turn that hands over shows the guard and the attempts**: one refused ticket, or
one admitted ticket whose attempt failed, in front of what the rest of the run shows. -/
theorem Goes.follows_next {made' : Nat} {last' : Option Fault} {rep' : Report}
    (h : Goes c classify deadline made last rep acts (.next made' last' rep')) {ts : List Turn}
    {new : List Act} {res : Option Report} (hf : Follows c classify made' rep' ts new res) :
    ∃ u, Follows c classify made rep (u :: ts) (acts ++ new) res := by
  cases h with
  | refusedWaited t tk rej cd t' =>
    exact ⟨.refused tk rej cd, .refused new
      (by simp [opening, refusal, Act.guarded, Turn.acts, List.filter_cons])
      hf rfl rfl⟩
  | backedOff t tk start f stop r t' ht hcl =>
    exact ⟨.admitted tk (made + 1) (some f), .failed new (by simp [List.filter_append, opening,
      trial, waiting, Act.guarded, Turn.acts, report, hcl, List.filter_cons]) hf
      (tried_view _ _ _ _) rfl⟩

end Ways

/-! ### Runs -/

/-- **Every run from a turn on follows the protocol**, over the traced world, after `made`
attempts within the retries: its trace grows by the calls of whole turns that the guard and the
attempts see in order. The induction is on the turns of the run. -/
theorem Ran.follows {c : Config} {classify : Fault → Bool} {deadline : Option Int} {fuel made : Nat}
    {last : Option Fault} {rep : Report} {w w' : (Reading.ofState Trace).State}
    {res : Option Report}
    (h : Ran (Reading.ofState Trace) Trace.env Trace.guard Trace.attempt deadline c classify fuel
      made last rep w res w')
    (hmade : (made : Int) ≤ c.maxRetries) :
    ∃ ts new, w'.acts = w.acts ++ new ∧ Follows c classify made rep ts new res := by
  induction h with
  | out made last rep w => exact ⟨[], [], by simp, .out (by omega)⟩
  | done hacted hgoes =>
    obtain ⟨rfl, -⟩ := Trace.acted hacted
    obtain ⟨ts, hts⟩ := hgoes.follows_done hmade
    exact ⟨ts, _, rfl, hts⟩
  | next hacted hgoes _ ih =>
    obtain ⟨rfl, -⟩ := Trace.acted hacted
    obtain ⟨ts, new, hnew, hts⟩ := ih (hgoes.within_next hmade)
    obtain ⟨u, hu⟩ := hgoes.follows_next hts
    exact ⟨u :: ts, _, by simp [hnew], hu⟩

/-- **What a run of the engine does from any turn on**, over a traced world and guard, after
`made` attempts within the retries, whatever number of turns it is given. -/
theorem loop_follows (c : Config) (classify : Fault → Bool) (deadline : Option Int)
    (fuel made : Nat) (last : Option Fault) (rep : Report) (w : Trace)
    (hmade : (made : Int) ≤ c.maxRetries) :
    let x := (loop c Trace.env Trace.guard classify Trace.attempt deadline fuel made last rep).run w
    ∃ ts new, x.2.acts = w.acts ++ new ∧ Follows c classify made rep ts new x.1 :=
  (loop_ran (Reading.ofState Trace) Trace.env Trace.guard Trace.attempt deadline c classify
    fuel made last rep w).follows hmade

/-- **The engine keeps its protocol with its guard and its attempts**, for every policy,
classifier and script of answers, however many turns the run is given. Seen from the guard and
the attempts, the run is a sequence of whole turns: each asks the guard once, and either is
refused (the refusal and the cool-down are read, no attempt is made, nothing is reported) or is
admitted, makes one attempt, and reports the ticket at once as the classifier says. The attempts
are numbered `1, 2, …, n` with `n` at most one more than the retries; a run that ends reports
exactly those attempts, one rejection per refused turn, and no fault exactly when the last
attempt answered none. -/
theorem run_follows_protocol (c : Config) (classify : Fault → Bool) (script : Script)
    (fuel : Nat) :
    let run := (Retry.run fuel c Trace.env Trace.guard classify Trace.attempt).run
      { script, acts := [] }
    ∃ ts : List Turn,
      run.2.acts.filter Act.guarded = ts.flatMap (Turn.acts classify) ∧
      (ts.filterMap Turn.tried).map Prod.fst = List.range' 1 (ts.filterMap Turn.tried).length ∧
      (ts.filterMap Turn.tried).length ≤ c.maxRetries.toNat + 1 ∧
      ∀ rep, run.1 = some rep →
        rep.attempts.map Attempt.view = ts.filterMap Turn.tried ∧
        rep.rejections = ts.countP Turn.isRefused ∧
        (rep.err = none ↔ (ts.filterMap Turn.tried).getLast?.map Prod.snd = some none) := by
  intro run
  obtain ⟨opened, deadline, w₁, hopens, hacted, hrun⟩ :=
    run_opens (Reading.ofState Trace) Trace.env Trace.guard Trace.attempt c classify
      { script, acts := [] }
  -- the run opens with at most a clock reading, which the guard and the attempts do not see
  have hopen : opened.filter Act.guarded = [] := by
    cases hopens <;> rfl
  obtain ⟨rfl, -⟩ := Trace.acted hacted
  have hx : run = (loop c.normalize Trace.env Trace.guard classify Trace.attempt deadline fuel 0
      none {}).run _ := hrun fuel
  obtain ⟨ts, new, hacts, h⟩ := loop_follows c.normalize classify deadline fuel 0 none {} _
    (by simp only [Config.normalize]; omega)
  rw [← hx] at hacts h
  have hwithin := h.within
  refine ⟨ts, ?_, h.numbers, ?_, fun rep hrep => ?_⟩
  · simp [hacts, List.filter_append, hopen, h.view]
  · simp only [Config.normalize] at hwithin
    omega
  · have hr := h.reported rep hrep
    exact ⟨by simpa using hr.attempts, by simpa using hr.rejections, hr.err⟩

end Conveyor.Retry
