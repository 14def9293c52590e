import Conveyor.Proofs.Pipeline.Keeps
/-!
# Stage counters add up

A stage counts a message when it enters, every event its retry engine reports while the
message runs (an attempt and whether it failed, a wait before a retry, a refused call), and
the run's ending from its report. The counts agree because the events agree with the report.

`Ticks` reads a program by what an observer hears: the program changes a view of the state
as hearing its events one after another would. Every run of the engine that ends, in a world
that lets the view see nothing but the events (`Hears`), is heard as its report says
(`run_hears`): an `attempted` event per attempt, with its failure, a `rejected` event per
refusal, and no more waits than failed attempts (`Heard`); and a run that succeeded made
exactly one attempt that did not fail (`Report.SucceedsOnce`). Each turn adds what its calls
are heard as (`Goes.heard_done`, `Goes.heard_next`), and `Ran.heard` adds the turns up.

So a stage's run adds to its counters one message, its ending, its attempts, their failures
and its refusals, and at most one retry per failed attempt (`StageStats.CountsRun`), which
keeps the counters consistent (`StageStats.Consistent`).
-/

namespace Conveyor

namespace Retry

/-! ### Events against the report -/

namespace Event

/-- The failure an attempt's event reports; nothing for other events. -/
def attemptErr : Event → Option (Option Fault)
  | .attempted _ err => some err
  | _ => none

def isBackedOff : Event → Bool
  | .backedOff _ => true
  | _ => false

def isRejected : Event → Bool
  | .rejected _ => true
  | _ => false

end Event

/-- **What an observer hears over part of a run** that takes the report from `rep` to `rep'`:
an `attempted` event with its failure for each attempt the report gained, in order; a
`rejected` event for each refusal it gained; and no more `backedOff` events than failed
attempts among them. -/
structure Heard (rep rep' : Report) (evs : List Event) : Prop where
  attempts : rep'.attempts.map (·.err) = rep.attempts.map (·.err) ++ evs.filterMap Event.attemptErr
  rejections : rep'.rejections = rep.rejections + evs.countP Event.isRejected
  retries : evs.countP Event.isBackedOff ≤ (evs.filterMap Event.attemptErr).countP Option.isSome

/-- A run that succeeded made exactly one attempt that did not fail; one that did not, none. -/
def Report.SucceedsOnce (rep : Report) : Prop :=
  rep.attempts.countP (·.err.isNone) = if rep.succeeded then 1 else 0

namespace Heard

variable {rep mid rep' : Report} {pre evs : List Event}

/-- Nothing heard: the report gained nothing. -/
theorem nil (rep : Report) : Heard rep rep [] := ⟨by simp, by simp, by simp⟩

/-- What is heard does not see the report's waiting time or its fault. -/
theorem retime (h : Heard rep mid evs) (w : Int) (e : Option Fault) :
    Heard rep { mid with waited := w, err := e } evs :=
  ⟨h.attempts, h.rejections, h.retries⟩

theorem trans (h : Heard rep mid pre) (h' : Heard mid rep' evs) : Heard rep rep' (pre ++ evs) where
  attempts := by rw [h'.attempts, h.attempts, List.filterMap_append, List.append_assoc]
  rejections := by rw [h'.rejections, h.rejections, List.countP_append]; omega
  retries := by
    rw [List.countP_append, List.filterMap_append, List.countP_append]
    have := h.retries
    have := h'.retries
    omega

/-- A refusal heard: the report gains it. -/
theorem rejected (rep : Report) (w : Int) :
    Heard rep { rep with rejections := rep.rejections + 1 } [.rejected w] :=
  ⟨by simp [Event.attemptErr], by simp [Event.isRejected], by simp [Event.isBackedOff]⟩

/-- An attempt heard with its failure: the report gains it. -/
theorem attempted (rep : Report) (a : Attempt) :
    Heard rep { rep with attempts := rep.attempts ++ [a] } [.attempted a.number a.err] :=
  ⟨by simp [Event.attemptErr], by simp [Event.isRejected], by simp [Event.isBackedOff]⟩

/-- A failed attempt and the wait after it, heard. -/
theorem backedOff (rep : Report) (a : Attempt) (f : Fault) (ha : a.err = some f) (w : Int) :
    Heard rep { rep with attempts := rep.attempts ++ [a] }
      [.attempted a.number a.err, .backedOff w] :=
  ⟨by simp [Event.attemptErr], by simp [Event.isRejected],
    by simp [Event.isBackedOff, Event.attemptErr, ha]⟩

end Heard

/-- A run that ends on a fault with every attempt failed made no attempt that did not fail. -/
theorem countP_isNone_of_failed {l : List Attempt} (hall : ∀ a ∈ l, a.err.isSome) :
    l.countP (·.err.isNone) = 0 :=
  List.countP_eq_zero.2 fun a ha => by
    have hs := hall a ha
    cases h : a.err <;> simp_all

theorem Report.succeedsOnce_of_failed {rep : Report} (hall : ∀ a ∈ rep.attempts, a.err.isSome)
    (herr : rep.err ≠ none) : rep.SucceedsOnce := by
  simp [Report.SucceedsOnce, Report.succeeded, countP_isNone_of_failed hall, herr]

/-- A run that ends on the first attempt that did not fail made exactly one such attempt. -/
theorem Report.succeedsOnce_of_success {rep : Report} (hall : ∀ a ∈ rep.attempts, a.err.isSome)
    (a : Attempt) (ha : a.err = none) :
    Report.SucceedsOnce { rep with attempts := rep.attempts ++ [a], err := none } := by
  simp [Report.SucceedsOnce, Report.succeeded, countP_isNone_of_failed hall, ha]

/-- A report of failed attempts with one more failed attempt is one of failed attempts. -/
theorem Report.tried_failed {rep : Report} (hall : ∀ a ∈ rep.attempts, a.err.isSome) (k : Nat)
    (f : Fault) (start stop : Int) :
    ∀ a ∈ (rep.tried k (some f) start stop).attempts, a.err.isSome := by
  intro a ha
  rcases List.mem_append.1 ha with ha | ha
  · exact hall a ha
  · rw [List.mem_singleton.1 ha]
    rfl

/-! ### What one turn is heard as -/

/-- The event a call reported to the observers; nothing for the other calls. -/
@[simp] def Act.event? : Act → Option Event
  | .observe e => some e
  | _ => none

@[simp] theorem events_opening (t : Int) : (opening t).filterMap Act.event? = [] := rfl

@[simp] theorem events_refusal (c : Config) (tk : Nat) (rej : Option Fault) (cd t : Int) :
    (refusal c tk rej cd t).filterMap Act.event? = [.rejected (c.refusalWait cd)] := rfl

@[simp] theorem events_trial (tk k : Nat) (start : Int) (err : Option Fault) (stop : Int) :
    (trial tk k start err stop).filterMap Act.event? = [.attempted k err] := rfl

@[simp] theorem events_backoff (c : Config) (r : Float) (t : Int) :
    (backoff c r t).filterMap Act.event? = [] := by
  unfold backoff
  split <;> rfl

@[simp] theorem events_waiting (w : Int) (a : Option Fault) :
    (waiting w a).filterMap Act.event? = [.backedOff w] := rfl

section Turn

variable {c : Config} {classify : Fault → Bool} {deadline : Option Int} {made : Nat}
  {last : Option Fault} {rep : Report} {acts : List Act}

/-- **A turn that ends the run is heard as its report says**, from a report of failed attempts:
its events are what the report gained, and the report made one attempt that did not fail if it
succeeded, and none if not. -/
theorem Goes.heard_done {rep' : Report}
    (hg : Goes c classify deadline made last rep acts (.done rep'))
    (hall : ∀ a ∈ rep.attempts, a.err.isSome) :
    Heard rep rep' (acts.filterMap Act.event?) ∧ rep'.SucceedsOnce := by
  cases hg with
  | stopped e =>
    exact ⟨(Heard.nil rep).retime _ _,
      Report.succeedsOnce_of_failed hall (by simp [Fault.join_cons_some])⟩
  | expired t d =>
    exact ⟨(Heard.nil rep).retime _ _,
      Report.succeedsOnce_of_failed hall (by simp [Fault.join_cons_some])⟩
  | refusedLate t tk rej cd t' =>
    exact ⟨(Heard.rejected rep _).retime _ _,
      Report.succeedsOnce_of_failed hall (by simp [Fault.join_cons_some])⟩
  | refusedCut t tk rej cd t' e =>
    exact ⟨(Heard.rejected rep _).retime _ _,
      Report.succeedsOnce_of_failed hall (by simp [Fault.join_cons_some])⟩
  | succeeded t tk start stop =>
    exact ⟨(Heard.attempted rep ⟨made + 1, none, start, _⟩).retime _ _,
      Report.succeedsOnce_of_success hall _ rfl⟩
  | released t tk start f stop =>
    exact ⟨(Heard.attempted rep ⟨made + 1, some f, start, _⟩).retime _ _,
      Report.succeedsOnce_of_failed (Report.tried_failed hall _ f start stop) (by simp)⟩
  | exhausted t tk start f stop =>
    exact ⟨(Heard.attempted rep ⟨made + 1, some f, start, _⟩).retime _ _,
      Report.succeedsOnce_of_failed (Report.tried_failed hall _ f start stop)
        (by simp [Fault.join_cons_some])⟩
  | backoffLate t tk start f stop r t' =>
    simp only [List.filterMap_append, events_backoff, List.append_nil]
    exact ⟨(Heard.attempted rep ⟨made + 1, some f, start, _⟩).retime _ _,
      Report.succeedsOnce_of_failed (Report.tried_failed hall _ f start stop)
        (by simp [Fault.join_cons_some])⟩
  | backoffCut t tk start f stop r t' e =>
    simp only [List.filterMap_append, events_backoff, List.append_nil]
    exact ⟨(Heard.backedOff rep ⟨made + 1, some f, start, _⟩ f rfl _).retime _ _,
      Report.succeedsOnce_of_failed (Report.tried_failed hall _ f start stop)
        (by simp [Fault.join_cons_some])⟩

/-- **A turn that hands over is heard as its report says**, and leaves a report of failed
attempts. -/
theorem Goes.heard_next {made' : Nat} {last' : Option Fault} {rep' : Report}
    (hg : Goes c classify deadline made last rep acts (.next made' last' rep'))
    (hall : ∀ a ∈ rep.attempts, a.err.isSome) :
    Heard rep rep' (acts.filterMap Act.event?) ∧ ∀ a ∈ rep'.attempts, a.err.isSome := by
  cases hg with
  | refusedWaited t tk rej cd t' => exact ⟨(Heard.rejected rep _).retime _ _, hall⟩
  | backedOff t tk start f stop r t' =>
    simp only [List.filterMap_append, events_backoff, List.append_nil]
    exact ⟨(Heard.backedOff rep ⟨made + 1, some f, start, _⟩ f rfl _).retime _ _,
      Report.tried_failed hall _ f start stop⟩

end Turn

end Retry

namespace Pipeline

open Retry

/-! ### Programs read by what an observer hears -/

namespace Recording

variable {n : Type → Type} [Monad n] {R : Recording n} {S : Type} {v : R.State → S}
  {tick : S → Event → S}

/-- `x`, run from any state, changes the view `v` of the state as hearing events one after
another by `tick` would, for events that `Q` accepts with the value returned. -/
def Ticks (R : Recording n) (v : R.State → S) (tick : S → Event → S) {α : Type} (x : n α)
    (Q : α → List Event → Prop) : Prop :=
  ∀ s, ∃ evs, v (R.exec x s).2 = evs.foldl tick (v s) ∧ Q (R.exec x s).1 evs

/-- `x` leaves the view `v` of the state alone. -/
def Unheard (R : Recording n) (v : R.State → S) {α : Type} (x : n α) : Prop :=
  ∀ k, R.Keeps (fun s => v s = k) x

theorem exec_modify {ρ : Type} (f : ρ → ρ) (p : (R.lift ρ).State) :
    (R.lift ρ).exec (modify f : StateT ρ n PUnit) p = (PUnit.unit, (f p.1, p.2)) := by
  simp [Recording.lift, StateT.run_modify, R.exec_pure]

/-- Running the state on top from a fixed value is heard as the program is. -/
theorem Ticks.run {ρ α : Type} {x : StateT ρ n α} {Q : α → List Event → Prop}
    (h : (R.lift ρ).Ticks (fun p => v p.2) tick x Q) (r : ρ) :
    R.Ticks v tick (x.run r) fun p evs => Q p.1 evs :=
  fun s => h (r, s)

/-- `x`, run from a state that `P` holds of, ends in a state that `Q` holds of with the value it
returns. -/
def Triple (R : Recording n) (P : R.State → Prop) {α : Type} (x : n α)
    (Q : α → R.State → Prop) : Prop :=
  ∀ s, P s → Q (R.exec x s).1 (R.exec x s).2

theorem Triple.bind {α β : Type} {P : R.State → Prop} {x : n α} {f : α → n β}
    {Q : α → R.State → Prop} {T : β → R.State → Prop} (hx : R.Triple P x Q)
    (hf : ∀ a, R.Triple (Q a) (f a) T) : R.Triple P (x >>= f) T := by
  intro s hs
  rw [R.exec_bind]
  exact hf _ _ (hx s hs)

theorem Triple.pure {α : Type} (a : α) {Q : α → R.State → Prop} :
    R.Triple (Q a) (Pure.pure a) Q := by
  intro s hs
  rw [R.exec_pure]
  exact hs

theorem Triple.ret {α : Type} {a : α} {P : R.State → Prop} {Q : α → R.State → Prop}
    (h : ∀ s, P s → Q a s) : R.Triple P (Pure.pure a) Q := by
  intro s hs
  rw [R.exec_pure]
  exact h s hs

theorem Triple.modify {ρ : Type} {P : (R.lift ρ).State → Prop} {Q : PUnit → (R.lift ρ).State → Prop}
    (g : ρ → ρ) (h : ∀ p : (R.lift ρ).State, P p → Q PUnit.unit (g p.1, p.2)) :
    (R.lift ρ).Triple P (modify g) Q := by
  intro p hp
  rw [exec_modify]
  exact h p hp

/-- A program keeps `I` when, from each state `I` holds of, it ends in one `I` holds of. -/
theorem Keeps.of_triple {I : R.State → Prop} {α : Type} {x : n α}
    (h : ∀ q, I q → R.Triple (· = q) x fun _ => I) : R.Keeps I x :=
  fun q hq => h q hq q rfl

/-- `x`, run from a state that `I` holds of, ends in a state that `I` holds of whenever it
answers some value: every run of `x` that completes keeps `I`. -/
def KeepsDone (R : Recording n) (I : R.State → Prop) {α : Type} (x : n (Option α)) : Prop :=
  ∀ s, I s → (R.exec x s).1.isSome → I (R.exec x s).2

variable {I : R.State → Prop}

theorem Keeps.done {α : Type} {x : n (Option α)} (h : R.Keeps I x) : R.KeepsDone I x :=
  fun s hs _ => h s hs

theorem KeepsDone.pure {α : Type} (a : Option α) : R.KeepsDone I (Pure.pure a) :=
  (Keeps.pure a).done

theorem KeepsDone.ite {α : Type} {c : Prop} [Decidable c] {x y : n (Option α)}
    (hx : R.KeepsDone I x) (hy : R.KeepsDone I y) : R.KeepsDone I (if c then x else y) := by
  by_cases h : c
  · rw [if_pos h]
    exact hx
  · rw [if_neg h]
    exact hy

/-- A program that keeps `I`, then one that keeps it when it completes. -/
theorem KeepsDone.keeps_bind {α β : Type} {x : n α} {f : α → n (Option β)} (hx : R.Keeps I x)
    (hf : ∀ a, R.KeepsDone I (f a)) : R.KeepsDone I (x >>= f) := by
  intro s hs hsome
  rw [R.exec_bind] at hsome ⊢
  exact hf _ _ (hx s hs) hsome

/-- **Sequencing runs that may not complete.** A program that keeps `I` when it completes, then,
once it answered a value, one that keeps `I` when it completes; a first part that did not
complete leaves the whole uncompleted. -/
theorem KeepsDone.bind {α β : Type} {x : n (Option α)} {f : Option α → n (Option β)}
    (hx : R.KeepsDone I x) (hnone : f none = Pure.pure none)
    (hf : ∀ a, R.KeepsDone I (f (some a))) :
    R.KeepsDone I (x >>= f) := by
  intro s hs hsome
  rw [R.exec_bind] at hsome ⊢
  cases hr : (R.exec x s).1 with
  | none =>
    rw [hr, hnone, R.exec_pure] at hsome
    cases hsome
  | some a =>
    rw [hr] at hsome
    exact hf a _ (hx s hs (by rw [hr]; rfl)) hsome

/-- **Programs run on each element of a list** in turn keep what each keeps when it completes,
once all of them have completed. The induction is on the list. -/
theorem KeepsDone.mapM [LawfulMonad n] {α β : Type} {F : α → n (Option β)} :
    ∀ l : List α, (∀ a ∈ l, R.KeepsDone I (F a)) → ∀ s, I s →
      (∀ x ∈ (R.exec (l.mapM F) s).1, x.isSome) → I (R.exec (l.mapM F) s).2
  | [], _, s, hs, _ => by
    rw [List.mapM_nil, R.exec_pure]
    exact hs
  | a :: l, h, s, hs, hall => by
    simp only [List.mapM_cons, R.exec_bind, R.exec_pure] at hall ⊢
    have hfirst := h a List.mem_cons_self s hs (hall _ List.mem_cons_self)
    exact KeepsDone.mapM l (fun b hb => h b (List.mem_cons_of_mem _ hb)) _ hfirst
      fun x hx => hall x (List.mem_cons_of_mem _ hx)

end Recording

open Recording

variable {n : Type → Type} [Monad n] {S : Type}

/-- **An observer that counts**: the engine's world and guard as a view `v` of the state sees
them. Hearing an event changes the view by `tick`; every other call leaves it alone. -/
structure Hears (R : Recording n) (v : R.State → S) (tick : S → Event → S) (env : Env n)
    (g : Guard n) : Prop where
  observe (e : Event) (s : R.State) : v (R.exec (env.observe e) s).2 = tick (v s) e
  now : R.Unheard v env.now
  shutdown : R.Unheard v env.shutdown
  sleep (d : Int) : R.Unheard v (env.sleep d)
  draw : R.Unheard v env.draw
  permit : R.Unheard v g.permit
  succeeded (t : Nat) : R.Unheard v (g.succeeded t)
  failed (t : Nat) : R.Unheard v (g.failed t)
  released (t : Nat) : R.Unheard v (g.released t)
  cooldown : R.Unheard v g.cooldown
  reject : R.Unheard v g.reject


/-- A world and a guard of the monad below are heard the same with a state on top. -/
theorem Hears.lift {R : Recording n} {v : R.State → S} {tick : S → Event → S} {env : Env n}
    {g : Guard n} (h : Hears R v tick env g) (ρ : Type) :
    Hears (R.lift ρ) (fun p => v p.2) tick env.lift g.lift where
  observe e p := by
    have hx : (R.lift ρ).exec (env.lift.observe e) p =
        ((R.exec (env.observe e) p.2).1, (p.1, (R.exec (env.observe e) p.2).2)) := exec_lift _ p
    rw [hx]
    exact h.observe e p.2
  now k := (h.now k).lift
  shutdown k := (h.shutdown k).lift
  sleep d k := (h.sleep d k).lift
  draw k := (h.draw k).lift
  permit k := (h.permit k).lift
  succeeded t k := (h.succeeded t k).lift
  failed t k := (h.failed t k).lift
  released t k := (h.released t k).lift
  cooldown k := (h.cooldown k).lift
  reject k := (h.reject k).lift

end Pipeline

/-! ### A run of the engine, heard -/

namespace Retry

open Pipeline Recording

section Heard

variable {n : Type → Type} [Monad n] {S : Type} {R : Recording n} {v : R.State → S}
  {tick : S → Event → S} {env : Env n} {g : Guard n}
  {attempt : Nat → Option Int → n (Option Fault)} {deadline : Option Int}

/-- Every call of a turn changes the view as hearing its event would, and in no other way. -/
theorem Act.Answered.heard {a : Act} {s s' : R.State}
    (hA : a.Answered R.toReading env g attempt deadline s s') (h : Hears R v tick env g)
    (ha : ∀ k d, R.Unheard v (attempt k d)) : v s' = a.event?.toList.foldl tick (v s) := by
  cases a with
  | observe e =>
    have hv := h.observe e s
    rw [show R.exec (env.observe e) s = ((), s') from hA] at hv
    exact hv
  | now t => exact (h.now (v s)).answered hA rfl
  | shutdown x => exact (h.shutdown (v s)).answered hA rfl
  | sleep w x => exact (h.sleep w (v s)).answered hA rfl
  | draw r => exact (h.draw (v s)).answered hA rfl
  | permit t ok => exact (h.permit (v s)).answered hA rfl
  | succeeded t => exact (h.succeeded t (v s)).answered hA rfl
  | failed t => exact (h.failed t (v s)).answered hA rfl
  | released t => exact (h.released t (v s)).answered hA rfl
  | cooldown w => exact (h.cooldown (v s)).answered hA rfl
  | reject r => exact (h.reject (v s)).answered hA rfl
  | attempt k e => exact (ha k deadline (v s)).answered hA rfl

/-- A chain of calls is heard as the events it reported, in order. -/
theorem Acted.heard (h : Hears R v tick env g) (ha : ∀ k d, R.Unheard v (attempt k d))
    {acts : List Act} : ∀ {s s' : R.State}, Acted R.toReading env g attempt deadline acts s s' →
      v s' = (acts.filterMap Act.event?).foldl tick (v s) := by
  induction acts with
  | nil =>
    intro s s' hacted
    rw [acted_nil.1 hacted]
    rfl
  | cons a acts ih =>
    intro s s'' hacted
    obtain ⟨s', hA, hrest⟩ := acted_cons.1 hacted
    rw [ih hrest, hA.heard h ha, List.filterMap_cons]
    cases a.event? <;> rfl

/-- **What a run of the loop is heard as**, from a report of failed attempts: the events of its
turns, which a run that ends heard as its report says. The induction is on the run's turns. -/
theorem Ran.heard (h : Hears R v tick env g) (ha : ∀ k d, R.Unheard v (attempt k d))
    {c : Config} {classify : Fault → Bool} {fuel made : Nat} {last : Option Fault} {rep : Report}
    {s : R.State} {res : Option Report} {s' : R.State}
    (hr : Ran R.toReading env g attempt deadline c classify fuel made last rep s res s') :
    (∀ a ∈ rep.attempts, a.err.isSome) → ∃ evs, v s' = evs.foldl tick (v s) ∧
      ∀ rep', res = some rep' → Heard rep rep' evs ∧ rep'.SucceedsOnce := by
  induction hr with
  | out => exact fun _ => ⟨[], rfl, fun _ hres => by cases hres⟩
  | done hacted hgoes =>
    intro hall
    refine ⟨_, hacted.heard h ha, fun rep' hres => ?_⟩
    cases hres
    exact hgoes.heard_done hall
  | next hacted hgoes _ ih =>
    intro hall
    obtain ⟨hh, hall'⟩ := hgoes.heard_next hall
    obtain ⟨evs, hv, hrest⟩ := ih hall'
    refine ⟨_ ++ evs, by rw [hv, hacted.heard h ha, List.foldl_append], fun rep' hres => ?_⟩
    obtain ⟨hh', honce⟩ := hrest rep' hres
    exact ⟨hh.trans hh', honce⟩

end Heard

end Retry

namespace Pipeline

open Retry Recording

variable {n : Type → Type} [Monad n] {S : Type}

/-- **A run of the engine under a policy** is heard as its report says, from an empty report,
for any number of turns: how it opens is not heard, and then its turns are. -/
theorem run_hears {R : Recording n} {v : R.State → S} {tick : S → Event → S} {env : Env n}
    {g : Guard n} {attempt : Nat → Option Int → n (Option Fault)} (h : Hears R v tick env g)
    (ha : ∀ k d, R.Unheard v (attempt k d)) (fuel : Nat) (c : Config) (classify : Fault → Bool) :
    R.Ticks v tick (Retry.run fuel c env g classify attempt)
      fun res evs => ∀ rep, res = some rep → Heard {} rep evs ∧ rep.SucceedsOnce := by
  intro s
  obtain ⟨acts, deadline, s₁, hopen, hacted, hrun⟩ :=
    run_opens R.toReading env g attempt c classify s
  obtain ⟨evs, hv, hheard⟩ := (loop_ran R.toReading env g attempt deadline c.normalize classify
    fuel 0 none {} s₁).heard h ha (by simp)
  have hquiet : v s₁ = v s := by
    rw [hacted.heard h ha]
    cases hopen <;> rfl
  rw [hrun]
  exact ⟨evs, by rw [hv, hquiet], hheard⟩


/-! ### Counting a run -/

namespace StageStats

/-- Counters `t` are `s` with the events `evs` counted: their attempts and the failed ones,
their waits and their refusals, and no message or ending. -/
structure Tallies (s t : StageStats) (evs : List Event) : Prop where
  messages : t.messages = s.messages
  succeeded : t.succeeded = s.succeeded
  failed : t.failed = s.failed
  abandoned : t.abandoned = s.abandoned
  attempts : t.attempts = s.attempts + (evs.filterMap Event.attemptErr).length
  attemptFailures :
    t.attemptFailures = s.attemptFailures + (evs.filterMap Event.attemptErr).countP Option.isSome
  retries : t.retries = s.retries + evs.countP Event.isBackedOff
  rejections : t.rejections = s.rejections + evs.countP Event.isRejected

theorem tallies_record (s : StageStats) (e : Event) : Tallies s (s.record e) [e] := by
  cases e with
  | attempted k err =>
    cases err <;>
      exact ⟨rfl, rfl, rfl, rfl, by simp [record, Event.attemptErr],
        by simp [record, Event.attemptErr], by simp [record, Event.isBackedOff],
        by simp [record, Event.isRejected]⟩
  | backedOff w =>
    exact ⟨rfl, rfl, rfl, rfl, by simp [record, Event.attemptErr],
      by simp [record, Event.attemptErr], by simp [record, Event.isBackedOff],
      by simp [record, Event.isRejected]⟩
  | rejected w =>
    exact ⟨rfl, rfl, rfl, rfl, by simp [record, Event.attemptErr],
      by simp [record, Event.attemptErr], by simp [record, Event.isBackedOff],
      by simp [record, Event.isRejected]⟩

theorem Tallies.trans {s t u : StageStats} {evs evs' : List Event} (h : Tallies s t evs)
    (h' : Tallies t u evs') : Tallies s u (evs ++ evs') where
  messages := h'.messages.trans h.messages
  succeeded := h'.succeeded.trans h.succeeded
  failed := h'.failed.trans h.failed
  abandoned := h'.abandoned.trans h.abandoned
  attempts := by rw [h'.attempts, h.attempts, List.filterMap_append, List.length_append]; omega
  attemptFailures := by
    rw [h'.attemptFailures, h.attemptFailures, List.filterMap_append, List.countP_append]; omega
  retries := by rw [h'.retries, h.retries, List.countP_append]; omega
  rejections := by rw [h'.rejections, h.rejections, List.countP_append]; omega

/-- Counting events one after another. The induction is on the events. -/
theorem tallies_foldl (s : StageStats) (evs : List Event) : Tallies s (evs.foldl record s) evs := by
  induction evs generalizing s with
  | nil => exact ⟨rfl, rfl, rfl, rfl, by simp, by simp, by simp, by simp⟩
  | cons e evs ih => exact (tallies_record s e).trans (ih (s.record e))

/-! The ending of a run goes to the one counter its report names. -/

section Finish

variable (s : StageStats) (rep : Report)

@[simp] theorem finish_messages : (s.finish rep).messages = s.messages := by
  unfold finish; split <;> (try split) <;> rfl

@[simp] theorem finish_attempts : (s.finish rep).attempts = s.attempts := by
  unfold finish; split <;> (try split) <;> rfl

@[simp] theorem finish_attemptFailures : (s.finish rep).attemptFailures = s.attemptFailures := by
  unfold finish; split <;> (try split) <;> rfl

@[simp] theorem finish_retries : (s.finish rep).retries = s.retries := by
  unfold finish; split <;> (try split) <;> rfl

@[simp] theorem finish_rejections : (s.finish rep).rejections = s.rejections := by
  unfold finish; split <;> (try split) <;> rfl

@[simp] theorem finish_succeeded :
    (s.finish rep).succeeded = s.succeeded + if rep.succeeded then 1 else 0 := by
  unfold finish; split <;> (try split) <;> simp_all

@[simp] theorem finish_abandoned :
    (s.finish rep).abandoned =
      s.abandoned + if !rep.succeeded && rep.interrupted then 1 else 0 := by
  unfold finish; split <;> (try split) <;> simp_all

@[simp] theorem finish_failed :
    (s.finish rep).failed = s.failed + if !rep.succeeded && !rep.interrupted then 1 else 0 := by
  unfold finish; split <;> (try split) <;> simp_all

end Finish

/-- **Consistent counters**: every message that entered ended one way, every attempt either
failed or ended a run that succeeded, and there are no more retries than failed attempts. -/
structure Consistent (s : StageStats) : Prop where
  messages : s.messages = s.succeeded + s.failed + s.abandoned
  attempts : s.attempts = s.succeeded + s.attemptFailures
  retries : s.retries ≤ s.attemptFailures

theorem consistent_default : ({} : StageStats).Consistent := ⟨rfl, rfl, Nat.le_refl 0⟩

/-- The attempts that did not fail, as the metrics export them, are the runs that succeeded:
the subtraction never stops at zero. -/
theorem Consistent.attempts_ok {s : StageStats} (h : s.Consistent) :
    s.attemptFailures ≤ s.attempts ∧ s.attempts - s.attemptFailures = s.succeeded := by
  have := h.attempts
  omega

/-- **What a stage's run counts**: the counters `t` are `s` with one message, the run's ending
by its report, its attempts, their failures and its refusals, and a retry for at most each
failed attempt. -/
structure CountsRun (s t : StageStats) (rep : Report) : Prop where
  messages : t.messages = s.messages + 1
  succeeded : t.succeeded = s.succeeded + if rep.succeeded then 1 else 0
  abandoned : t.abandoned = s.abandoned + if !rep.succeeded && rep.interrupted then 1 else 0
  failed : t.failed = s.failed + if !rep.succeeded && !rep.interrupted then 1 else 0
  attempts : t.attempts = s.attempts + rep.attempts.length
  attemptFailures : t.attemptFailures = s.attemptFailures + rep.attempts.countP (·.err.isSome)
  retries : s.retries ≤ t.retries ∧ t.retries ≤ s.retries + rep.attempts.countP (·.err.isSome)
  rejections : t.rejections = s.rejections + rep.rejections

/-- **A run counted as it was heard**: the message counted in, the run's events, then its
ending leave the counters its report says. -/
theorem countsRun_finish (s : StageStats) {rep : Report} {evs : List Event}
    (h : Heard {} rep evs) : CountsRun s ((evs.foldl record s.entered).finish rep) rep := by
  -- the report's attempts are the attempted events, failure for failure
  have hlen : rep.attempts.length = (evs.filterMap Event.attemptErr).length := by
    simpa using congrArg List.length h.attempts
  have hfail : rep.attempts.countP (·.err.isSome) =
      (evs.filterMap Event.attemptErr).countP Option.isSome := by
    simpa [List.countP_map, Function.comp_def] using
      congrArg (List.countP Option.isSome) h.attempts
  have hrej : rep.rejections = evs.countP Event.isRejected := by simpa using h.rejections
  have hretry := h.retries
  obtain ⟨hm, hs, hf, ha, hat, haf, hr, hrj⟩ := tallies_foldl s.entered evs
  exact
    { messages := by rw [finish_messages, hm]; rfl
      succeeded := by rw [finish_succeeded, hs]; rfl
      abandoned := by rw [finish_abandoned, ha]; rfl
      failed := by rw [finish_failed, hf]; rfl
      attempts := by rw [finish_attempts, hat, hlen]; rfl
      attemptFailures := by rw [finish_attemptFailures, haf, hfail]; rfl
      retries := by
        rw [finish_retries, hr, hfail]
        exact ⟨Nat.le_add_right _ _, Nat.add_le_add_left hretry _⟩
      rejections := by rw [finish_rejections, hrj, hrej]; rfl }

/-- **A counted run keeps the counters consistent** when its report made exactly one attempt
that did not fail if it succeeded, and none if not. -/
theorem CountsRun.consistent {s t : StageStats} {rep : Report} (h : CountsRun s t rep)
    (hs : s.Consistent) (hr : rep.SucceedsOnce) : t.Consistent := by
  -- every attempt either failed or did not
  have hsplit : rep.attempts.length =
      rep.attempts.countP (·.err.isNone) + rep.attempts.countP (·.err.isSome) := by
    rw [List.length_eq_countP_add_countP (·.err.isNone)]
    congr 1
    exact List.countP_congr fun a _ => by cases a.err <;> simp
  unfold Report.SucceedsOnce at hr
  obtain ⟨hm, hsu, hab, hfa, hat, haf, ⟨-, hr2⟩, -⟩ := h
  obtain ⟨hsm, hsa, hsr⟩ := hs
  -- the ending counted is the one the report names
  cases hok : rep.succeeded <;> cases hi : rep.interrupted <;>
    simp only [hok, hi, Bool.false_eq_true, Bool.not_false, Bool.not_true, Bool.and_true,
      Bool.and_false, if_true, if_false] at hsu hab hfa hr <;>
    exact ⟨by omega, by omega, by omega⟩

end StageStats

/-! ### The runner's counters -/

/-- The counters of a runner: every stage's in order, then the sink's and the dead-letter
writer's once the router exists. -/
abbrev Counts := List StageStats × Option (StageStats × StageStats)

/-- Which counters of a runner a run of the engine feeds. -/
inductive Counts.Slot where
  | stage (i : Nat)
  | sink
  | deadLetter

namespace Counts

/-- Changes the counters at a slot. -/
def update : Slot → (StageStats → StageStats) → Counts → Counts
  | .stage i, f, c => (c.1.modify i f, c.2)
  | .sink, f, c => (c.1, c.2.map fun p => (f p.1, p.2))
  | .deadLetter, f, c => (c.1, c.2.map fun p => (p.1, f p.2))

/-- Every counter is consistent. -/
def AddUp (c : Counts) : Prop :=
  (∀ st ∈ c.1, st.Consistent) ∧ ∀ p ∈ c.2, p.1.Consistent ∧ p.2.Consistent

theorem update_id (k : Slot) (c : Counts) : c.update k id = c := by
  cases k <;> simp [update]

theorem update_update (k : Slot) (f g : StageStats → StageStats) (c : Counts) :
    (c.update k g).update k f = c.update k (f ∘ g) := by
  cases k <;> simp [update, List.modify_modify_eq, Option.map_map, Function.comp_def]

/-- **Hearing events at a slot** counts them into its counters. The induction is on the
events. -/
theorem foldl_update (k : Slot) (evs : List Event) (c : Counts) :
    evs.foldl (fun c e => c.update k (·.record e)) c =
      c.update k (evs.foldl StageStats.record) := by
  induction evs generalizing c with
  | nil => exact (update_id k c).symm
  | cons e evs ih =>
    rw [List.foldl_cons, ih, update_update]
    rfl

theorem forall_mem_modify {α : Type} {P : α → Prop} {l : List α} (hl : ∀ a ∈ l, P a)
    {f : α → α} (hf : ∀ a, P a → P (f a)) (i : Nat) : ∀ a ∈ l.modify i f, P a := by
  intro a ha
  obtain ⟨j, hj, rfl⟩ := List.getElem_of_mem ha
  rw [List.getElem_modify]
  split
  · exact hf _ (hl _ (List.getElem_mem _))
  · exact hl _ (List.getElem_mem _)

/-- A change that keeps every consistent counter consistent keeps all of them so. -/
theorem AddUp.update {c : Counts} (h : c.AddUp) (k : Slot) {f : StageStats → StageStats}
    (hf : ∀ st, st.Consistent → (f st).Consistent) : (c.update k f).AddUp := by
  obtain ⟨hs, hr⟩ := h
  cases k with
  | stage i => exact ⟨forall_mem_modify hs hf i, hr⟩
  | sink =>
    refine ⟨hs, fun p hp => ?_⟩
    obtain ⟨p0, hp0, rfl⟩ := Option.map_eq_some_iff.1 hp
    exact ⟨hf _ (hr p0 hp0).1, (hr p0 hp0).2⟩
  | deadLetter =>
    refine ⟨hs, fun p hp => ?_⟩
    obtain ⟨p0, hp0, rfl⟩ := Option.map_eq_some_iff.1 hp
    exact ⟨(hr p0 hp0).1, hf _ (hr p0 hp0).2⟩

/-- A counted run keeps every counter consistent. -/
theorem AddUp.count {c : Counts} (h : c.AddUp) (k : Slot) {g : StageStats → StageStats}
    {rep : Report} (hg : ∀ st, StageStats.CountsRun st (g st) rep) (honce : rep.SucceedsOnce) :
    (c.update k g).AddUp :=
  h.update k fun st hst => (hg st).consistent hst honce

end Counts

namespace Runner

/-- The runner's counters. -/
def counters (r : Runner) : Counts := (r.stages.map (·.stats), r.router)

theorem counters_updateStage (r : Runner) (i : Nat) (f : StageStats → StageStats) :
    (r.updateStage i f).counters = r.counters.update (.stage i) f := by
  refine Prod.ext ?_ rfl
  apply List.ext_getElem (by simp [updateStage, counters, Counts.update])
  intro j h1 h2
  simp only [updateStage, counters, Counts.update, List.getElem_map, List.getElem_modify]
  split <;> rfl

theorem counters_updateSink (r : Runner) (f : StageStats → StageStats) :
    (r.updateSink f).counters = r.counters.update .sink f := rfl

theorem counters_updateDeadLetter (r : Runner) (f : StageStats → StageStats) :
    (r.updateDeadLetter f).counters = r.counters.update .deadLetter f := rfl

/-- The snapshot's counters are the runner's: all consistent exactly when every stage's, the
sink's and the dead-letter writer's are. -/
theorem snapshot_consistent_iff (r : Runner) :
    (∀ st ∈ r.snapshot, st.stats.Consistent) ↔ r.counters.AddUp := by
  unfold snapshot counters Counts.AddUp
  cases hr : r.router with
  | none => simp
  | some p => simp [or_imp, forall_and]

end Runner

/-! ### The runner's engines, heard by its counters -/

/-- Every counter of the runner is consistent. -/
abbrev CountsAddUp (q : Tape.runner.State) : Prop := q.1.counters.AddUp

theorem runner_exec_modify (f : Runner → Runner) (q : Tape.runner.State) :
    Tape.runner.exec (modify f) q = (PUnit.unit, (f q.1, q.2)) :=
  exec_modify f q

/-- A call of the world touches no counter. -/
theorem unheard_lift {α : Type} (x : StateM Tape α) :
    Tape.runner.Unheard (fun q => q.1.counters) (monadLift x : StateT Runner (StateM Tape) α) :=
  fun _ => Keeps.lift_top (fun _ _ h => h) x

/-- A step of a breaker touches no counter. -/
theorem unheard_withBreaker {α : Type} (name : String) (f : Int → Breaker → α × Breaker) :
    Tape.runner.Unheard (fun q => q.1.counters) (withBreaker Tape.services name f) := by
  intro c
  unfold withBreaker
  refine Keeps.bind (unheard_lift _ c) fun now => ?_
  refine Keeps.get_bind fun p hp => ?_
  rcases hb : p.1.breakers.get name with ⟨b, breakers⟩
  dsimp only
  refine Keeps.bind (Keeps.set _ fun _ _ => hp) fun _ => ?_
  exact Keeps.ite (Keeps.bind (unheard_lift _ c) fun _ => Keeps.pure _) (Keeps.pure _)

/-- **The engine of a runner counting into the counters at `k`**, over a taped world and
guarded by a breaker, is heard by the runner's counters: an event is counted at `k`, and no
other call touches a counter. -/
theorem hears_breaker (k : Counts.Slot) {count : Event → Runner → Runner}
    (hcount : ∀ e r, (count e r).counters = r.counters.update k (·.record e)) (name : String) :
    Hears Tape.runner (fun q => q.1.counters) (fun c e => c.update k (·.record e))
      (engineEnv Tape.services count) (breakerGuard Tape.services name) := by
  refine ⟨fun e q => ?_, unheard_lift _, unheard_lift _, fun _ => unheard_lift _, unheard_lift _,
    unheard_withBreaker name fun now b => b.permit now,
    fun t => unheard_withBreaker name fun _ b => ((), b.succeeded t),
    fun t => unheard_withBreaker name fun now b => ((), b.failed t now),
    fun t => unheard_withBreaker name fun _ b => ((), b.released t),
    unheard_withBreaker name fun now b => (b.cooldown now, b),
    unheard_withBreaker name fun now b => (some (b.reject now), b)⟩
  rw [show Tape.runner.exec ((engineEnv Tape.services count).observe e) q =
    (PUnit.unit, (count e q.1, q.2)) from runner_exec_modify _ q]
  exact hcount e q.1

/-- An attempt of a stage touches no counter. -/
theorem unheard_attemptStage (i : Nat) (name : String) (k : Nat) :
    Tape.stage.Unheard (fun p => p.2.1.counters) (attemptStage Tape.services i name k) := by
  intro c
  unfold attemptStage
  refine Keeps.get_bind fun ⟨⟨cur, _⟩, _⟩ _ => ?_
  dsimp only
  refine Keeps.bind (Keeps.lift (unheard_lift _ c)) fun ⟨route, produced⟩ => ?_
  have hset : ∀ res, Tape.stage.Keeps (fun p => p.2.1.counters = c)
      (set (({ cur with attempts := k, route } : Record), res) :
        StateT (Record × StepResult) (StateT Runner (StateM Tape)) PUnit) :=
    fun res => Keeps.set _ fun _ h => h
  cases produced with
  | output _ | failure _ =>
    exact Keeps.bind (Keeps.pure _) fun res => Keeps.bind (hset res) fun _ => Keeps.pure _
  | panicked what =>
    exact Keeps.bind (Keeps.lift (unheard_lift _ c)) fun _ =>
      Keeps.bind (Keeps.pure _) fun res => Keeps.bind (hset res) fun _ => Keeps.pure _

section Counted

variable (k : Counts.Slot) (upd : (StageStats → StageStats) → Runner → Runner)
  (hupd : ∀ f r, (upd f r).counters = r.counters.update k f)
include hupd

/-- Counting a message in at a slot. -/
theorem triple_count_in (q : Tape.runner.State) :
    Tape.runner.Triple (· = q) (modify (upd StageStats.entered))
      fun _ s => s.1.counters = q.1.counters.update k StageStats.entered :=
  Triple.modify _ fun p hp => by
    subst hp
    exact hupd _ _

/-- **A run counted at a slot**: from counters `c` with the message counted in at the slot, a
program heard there as a run leaves, once the ending of a run that ended is counted, `c`
changed at the slot by what the run's report says. -/
theorem triple_counted {α : Type} {y : StateT Runner (StateM Tape) α} (rep : α → Option Report)
    (hy : Tape.runner.Ticks (fun q => q.1.counters) (fun c e => c.update k (·.record e)) y
      fun a evs => ∀ r, rep a = some r → Heard {} r evs ∧ r.SucceedsOnce) (c : Counts) :
    Tape.runner.Triple (fun s => s.1.counters = c.update k StageStats.entered) y
      fun a s => ∀ r, rep a = some r → r.SucceedsOnce ∧ ∃ g : StageStats → StageStats,
        (∀ st, StageStats.CountsRun st (g st) r) ∧
          (upd (·.finish r) s.1).counters = c.update k g := by
  intro s hs r hr
  obtain ⟨evs, hv, hheard⟩ := hy s
  obtain ⟨hh, honce⟩ := hheard r hr
  simp only at hv
  refine ⟨honce, _, fun st => StageStats.countsRun_finish st hh, ?_⟩
  -- the slot's counters went through the message, the run's events and its ending
  rw [hupd, hv, hs, Counts.foldl_update, Counts.update_update, Counts.update_update]
  rfl

/-- **An engine run counted at a slot counts there what its report says**, and nowhere else:
a run that ends changes the slot's counters by one message, its ending, its attempts and their
failures, its refusals, and a retry for at most each failed attempt, and its report made one
attempt that did not fail if it succeeded and none if not. -/
theorem countedRun_counts (fuel : Nat) (policy : Retry.Config) (name : String)
    (attempt : Nat → Option Int → StateT Runner (StateM Tape) (Option Fault))
    (ha : ∀ j d, Tape.runner.Unheard (fun q => q.1.counters) (attempt j d))
    (q : Tape.runner.State) :
    Tape.runner.Triple (· = q) (countedRun Tape.services fuel upd policy name attempt)
      fun x q' => ∀ rep, x = some rep → rep.SucceedsOnce ∧ ∃ g : StageStats → StageStats,
        (∀ st, StageStats.CountsRun st (g st) rep) ∧ q'.1.counters = q.1.counters.update k g := by
  unfold countedRun
  refine Triple.bind (triple_count_in k upd hupd q) fun _ => ?_
  refine Triple.bind (triple_counted k upd hupd id
    (run_hears (hears_breaker k (fun e r => hupd _ r) name) ha fuel policy Fault.classify) _)
    fun x => ?_
  cases x with
  | none => exact Triple.ret fun _ _ rep hrep => by cases hrep
  | some rep =>
    refine Triple.bind (Triple.modify _ fun p hp => ?_) fun _ => Triple.pure _
    intro r hr
    cases hr
    exact hp rep rfl

/-- A counted run at a slot that ends keeps every counter consistent. -/
theorem keepsDone_countedRun (fuel : Nat) (policy : Retry.Config) (name : String)
    (attempt : Nat → Option Int → StateT Runner (StateM Tape) (Option Fault))
    (ha : ∀ j d, Tape.runner.Unheard (fun q => q.1.counters) (attempt j d)) :
    Tape.runner.KeepsDone CountsAddUp (countedRun Tape.services fuel upd policy name attempt) := by
  intro q hq hsome
  obtain ⟨rep, hrep⟩ := Option.isSome_iff_exists.1 hsome
  obtain ⟨honce, g, hg, hc⟩ :=
    countedRun_counts k upd hupd fuel policy name attempt ha q q rfl rep hrep
  show CountsAddUp _
  unfold CountsAddUp
  rw [hc]
  exact hq.count k hg honce

end Counted

/-! ### Handling that ends keeps the counters consistent -/

/-- **A stage's run counts into its own counters what its report says**, and into no other:
a run that ends made one attempt that did not fail if it succeeded and none if not, and the
stage's counters gain one message, the run's ending, its attempts and their failures, its
refusals, and a retry for at most each failed attempt. -/
theorem runStage_counts (fuel i : Nat) (s : Stage) (r : Record) (q : Tape.runner.State) :
    Tape.runner.Triple (· = q) (runStage Tape.services fuel i s r) fun x q' =>
      ∀ y, x = some y → y.1.SucceedsOnce ∧ ∃ g : StageStats → StageStats,
        (∀ st, StageStats.CountsRun st (g st) y.1) ∧
          q'.1.counters = q.1.counters.update (.stage i) g := by
  unfold runStage
  have hstage := run_hears
    ((hears_breaker (.stage i) (fun e run => run.counters_updateStage i (·.record e)) s.name).lift
      (Record × StepResult))
    (fun k _ => unheard_attemptStage i s.name k) fuel s.retry s.classify
  have hy : Tape.runner.Ticks (fun q => q.1.counters) (fun c e => c.update (.stage i) (·.record e))
      _ _ := Ticks.run hstage (r, StepResult.output none)
  refine Triple.bind (triple_count_in (.stage i) _ (fun f run => run.counters_updateStage i f) q)
    fun _ => ?_
  refine Triple.bind (triple_counted (.stage i) _ (fun f run => run.counters_updateStage i f)
    (fun a => a.1) hy _) fun x => ?_
  obtain ⟨rep?, r', last⟩ := x
  cases rep? with
  | none => exact Triple.ret fun _ _ y hy => by cases hy
  | some rep =>
    refine Triple.bind (Triple.modify _ fun p hp => ?_) fun _ => Triple.pure _
    intro y hy
    cases hy
    exact hp rep rfl

theorem keepsDone_runStage (fuel i : Nat) (s : Stage) (r : Record) :
    Tape.runner.KeepsDone CountsAddUp (runStage Tape.services fuel i s r) := by
  intro q hq hsome
  obtain ⟨y, hy⟩ := Option.isSome_iff_exists.1 hsome
  obtain ⟨honce, g, hg, hc⟩ := runStage_counts fuel i s r q q rfl y hy
  show CountsAddUp _
  unfold CountsAddUp
  rw [hc]
  exact hq.count _ hg honce

/-- The stages in turn keep every counter consistent when they end. The induction is on the
stages left. -/
theorem keepsDone_runStages (fuel : Nat) : ∀ (stages : List Stage) (i : Nat) (cur orig : Record)
    (trials : List DeadLetter.Trial),
    Tape.runner.KeepsDone CountsAddUp (runStages Tape.services fuel i stages cur orig trials)
  | [], _, _, _, _ => KeepsDone.pure _
  | s :: rest, i, cur, orig, trials => by
    unfold runStages
    refine KeepsDone.bind (keepsDone_runStage fuel i s cur) rfl fun y => ?_
    obtain ⟨rep, cur', last⟩ := y
    refine KeepsDone.ite (KeepsDone.pure _) (KeepsDone.ite (KeepsDone.pure _) ?_)
    cases last with
    | filtered | failed _ => exact KeepsDone.pure _
    | output v => exact keepsDone_runStages fuel rest (i + 1) _ _ _

/-- **Routing that ends keeps every counter consistent**: the sink's and the dead-letter writer's
runs are each counted in, heard and counted out. -/
theorem keepsDone_route (fuel : Nat) (msg : Record) (t : Terminal) :
    Tape.runner.KeepsDone CountsAddUp (route Tape.services fuel msg t) := by
  unfold route
  apply KeepsDone.ite
  · exact KeepsDone.keeps_bind (Keeps.lift_top (fun _ _ h => h) _) fun _ => KeepsDone.pure _
  · refine KeepsDone.keeps_bind Keeps.get fun r => ?_
    lift_lets
    intro policy letter
    -- the dead-letter write, whatever the sink did before it
    have hletter : ∀ t', Tape.runner.KeepsDone CountsAddUp (letter t') := by
      intro t'
      dsimp -zeta only [letter]
      refine KeepsDone.keeps_bind (Keeps.lift_top (fun _ _ h => h) _) fun letterId => ?_
      refine KeepsDone.keeps_bind (Keeps.lift_top (fun _ _ h => h) _) fun now => ?_
      refine KeepsDone.bind (keepsDone_countedRun .deadLetter (fun f run => run.updateDeadLetter f)
        (fun f run => run.counters_updateDeadLetter f) fuel policy deadLetterStage _
        fun _ _ => unheard_lift _) rfl fun rep => ?_
      exact KeepsDone.ite (KeepsDone.keeps_bind (Keeps.lift_top (fun _ _ h => h) _)
        fun _ => KeepsDone.pure _) (KeepsDone.ite (KeepsDone.pure _) (KeepsDone.pure _))
    refine KeepsDone.ite ?_ (KeepsDone.keeps_bind (Keeps.pure _) hletter)
    -- delivery to the sink first
    refine KeepsDone.bind (keepsDone_countedRun .sink (fun f run => run.updateSink f)
      (fun f run => run.counters_updateSink f) fuel policy sinkStage _ fun _ _ => unheard_lift _)
      rfl fun rep => ?_
    exact KeepsDone.ite (KeepsDone.pure _)
      (KeepsDone.ite (KeepsDone.pure _) (KeepsDone.keeps_bind (Keeps.pure _) hletter))

/-- Preparing the runner makes the router with counters that start at zero. -/
theorem keeps_prepare_counts :
    Tape.runner.Keeps CountsAddUp (prepare : StateT Runner (StateM Tape) (Option Fault)) := by
  unfold prepare
  refine Keeps.get_bind fun p hp => ?_
  refine Keeps.ite (Keeps.pure _) (Keeps.ite (Keeps.pure _) (Keeps.ite (Keeps.pure _) ?_))
  refine Keeps.bind (Keeps.set _ fun _ _ => ⟨hp.1, fun c hc => ?_⟩) fun _ => Keeps.pure _
  cases hc
  exact ⟨StageStats.consistent_default, StageStats.consistent_default⟩

/-- **Handling a message that ends keeps every counter consistent.** -/
theorem keepsDone_handle (fuel : Nat) (msg : Record) :
    Tape.runner.KeepsDone CountsAddUp (handle Tape.services fuel msg) := by
  have hclock :
      Tape.runner.Keeps CountsAddUp (liftM Tape.services.now : StateT Runner (StateM Tape) Int) :=
    Keeps.lift_top (fun _ _ h => h) _
  have hobserve : ∀ r o f ns, Tape.runner.Keeps CountsAddUp
      (liftM (Tape.services.observe r o f ns) : StateT Runner (StateM Tape) Unit) :=
    fun _ _ _ _ => Keeps.lift_top (fun _ _ h => h) _
  unfold handle
  refine KeepsDone.keeps_bind keeps_prepare_counts fun x => ?_
  cases x with
  | some f => exact KeepsDone.pure _
  | none =>
    refine KeepsDone.keeps_bind hclock fun start => KeepsDone.keeps_bind Keeps.get fun r => ?_
    refine KeepsDone.bind (keepsDone_runStages fuel _ 0 msg msg []) rfl fun y => ?_
    obtain ⟨abandoned, t, orig⟩ := y
    cases abandoned with
    | some f =>
      exact KeepsDone.keeps_bind hclock fun _ => KeepsDone.keeps_bind (hobserve _ _ _ _)
        fun _ => KeepsDone.pure _
    | none =>
      refine KeepsDone.bind (keepsDone_route fuel _ _) rfl fun z => ?_
      exact KeepsDone.keeps_bind hclock fun _ => KeepsDone.keeps_bind (hobserve _ _ _ _)
        fun _ => KeepsDone.pure _

/-- **Stage counters add up.** Over any world and for any number of turns: every run of a stage
that ends counts into that stage's counters exactly what its report says, and into no other
counter: one message, the run's ending, its attempts and their failures, its refusals, and a
retry for at most each failed attempt, the report having made one attempt that did not fail if
the run succeeded and none if not. The router's runs of the sink and of the dead-letter writer
count into theirs in the same way. And handling messages one after another, from a runner whose
counters add up, leaves every counter of its snapshot (each stage's, the sink's and the
dead-letter writer's) consistent once every handling has ended, so the attempts exported as not
failed are the runs that succeeded. A run only adds to its counters, so runs that overlap in
time leave the same totals once all have ended. -/
theorem stage_counters_add_up (fuel : Nat) :
    (∀ (i : Nat) (s : Stage) (r : Record) (q : Tape.runner.State),
      let x := Tape.runner.exec (runStage Tape.services fuel i s r) q
      ∀ y, x.1 = some y → y.1.SucceedsOnce ∧ ∃ g : StageStats → StageStats,
        (∀ st, StageStats.CountsRun st (g st) y.1) ∧
          x.2.1.counters = q.1.counters.update (.stage i) g) ∧
    (∀ (policy : Retry.Config) (attempt : Nat → Option Int → StateM Tape (Option Fault))
        (q : Tape.runner.State),
      let x := Tape.runner.exec (countedRun Tape.services fuel (fun f run => run.updateSink f)
        policy sinkStage fun j d => monadLift (attempt j d)) q
      ∀ rep, x.1 = some rep → rep.SucceedsOnce ∧ ∃ g : StageStats → StageStats,
        (∀ st, StageStats.CountsRun st (g st) rep) ∧ x.2.1.counters = q.1.counters.update .sink g) ∧
    (∀ (policy : Retry.Config) (attempt : Nat → Option Int → StateM Tape (Option Fault))
        (q : Tape.runner.State),
      let x := Tape.runner.exec (countedRun Tape.services fuel (fun f run => run.updateDeadLetter f)
        policy deadLetterStage fun j d => monadLift (attempt j d)) q
      ∀ rep, x.1 = some rep → rep.SucceedsOnce ∧ ∃ g : StageStats → StageStats,
        (∀ st, StageStats.CountsRun st (g st) rep) ∧
          x.2.1.counters = q.1.counters.update .deadLetter g) ∧
    ∀ (r : Runner) (tape : Tape) (msgs : List Record),
      (∀ st ∈ r.snapshot, st.stats.Consistent) →
      let run := (((msgs.mapM (handle Tape.services fuel)).run r).run tape).1
      (∀ x ∈ run.1, x.isSome) →
      ∀ st ∈ run.2.snapshot, st.stats.Consistent ∧
        st.stats.attempts - st.stats.attemptFailures = st.stats.succeeded := by
  refine ⟨fun i s r q => runStage_counts fuel i s r q q rfl,
    fun policy attempt q => countedRun_counts .sink (fun f run => run.updateSink f)
      (fun f run => run.counters_updateSink f) fuel policy sinkStage _ (fun _ _ => unheard_lift _)
      q q rfl,
    fun policy attempt q => countedRun_counts .deadLetter (fun f run => run.updateDeadLetter f)
      (fun f run => run.counters_updateDeadLetter f) fuel policy deadLetterStage _
      (fun _ _ => unheard_lift _) q q rfl,
    fun r tape msgs hr => ?_⟩
  intro run hdone
  have hkeep : run.2.counters.AddUp :=
    KeepsDone.mapM msgs (fun msg _ => keepsDone_handle fuel msg) (r, tape)
      ((Runner.snapshot_consistent_iff r).1 hr) hdone
  have hall := (Runner.snapshot_consistent_iff run.2).2 hkeep
  exact fun st hst => ⟨hall st hst, (hall st hst).attempts_ok.2⟩

/-- A runner with a sink and a dead-letter writer handling a message in a world whose
processors pass every record on and whose sink takes it. -/
theorem stage_counters_add_up_ready :
    let r : Runner := { Runner.create ⟨{}, {}, 1, 1⟩ with sink := some "out", deadLetter := true }
    let script : Script := ⟨fun _ => 0, fun _ => none, fun _ => none, fun _ => 0,
      fun _ => ("", .output none), fun _ => none, fun _ => none, fun _ => "id"⟩
    let msg : Record := { topic := "in", partition := 0, offset := 0 }
    let run := ((([msg].mapM (handle Tape.services 1)).run r).run { script, calls := [] }).1
    (∀ st ∈ r.snapshot, st.stats.Consistent) ∧ (∀ x ∈ run.1, x.isSome) ∧
      ∀ st ∈ run.2.snapshot, st.stats.Consistent ∧
        st.stats.attempts - st.stats.attemptFailures = st.stats.succeeded := by
  intro r script msg run
  have hr : ∀ st ∈ r.snapshot, st.stats.Consistent := by simp [r, Runner.snapshot, Runner.create]
  -- the message's handling ends within one turn of each engine
  have hdone : ∀ x ∈ run.1, x.isSome := by decide +kernel
  exact ⟨hr, hdone, (stage_counters_add_up 1).2.2.2 _ _ _ hr hdone⟩

end Pipeline

end Conveyor
