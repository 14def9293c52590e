import Conveyor.Proofs.Fault.Matching
import Conveyor.Proofs.Pipeline.Tape
/-!
# What a run of the retry engine settles

The retry engine is written over any monad. Over a recording whose world and guard behave as
`EngineSpec` says (the clock, draws, observers and guard make only housekeeping calls, a
shutdown check and a wait are one call each, and a refusal holds only `breakerOpen`), and with
attempts whose calls answer their faults through a view `ans` (`Answers`), every call a turn
makes puts calls of its own kind on the tape (`Act.Tapes`, `Acted.taped`). So every run of the
engine makes only the engine's calls, and the report of one that ends relates to the answers
its attempts got (`Settles`):

* it succeeded exactly after an attempt answered no fault, and that was the last answer;
* it failed only when no attempt answered without a fault;
* every fixed failure its fault holds is one the engine adds (a passed deadline, used-up
  retries, an open circuit) or was in the failure before the run or in an attempt's answer,
  unless the run was interrupted: then shutdown answered a check or cut a wait short.

A turn that ends the run settles it (`Goes.settles`); a turn that hands over makes calls after
which the rest of the run settles the whole (`Goes.hands`, `Hands.settles`); and a run is a
chain of such turns (`Ran.settles`, `run_settles`).
-/

namespace Conveyor.Pipeline

open Retry

/-- Every fixed failure `f` holds is one the engine adds itself (a passed deadline, used-up
retries, an open circuit) or is held by the failure before the run or by an attempt's answer. -/
def Traced (last : Option Fault) (answers : List (Option Fault)) (f : Fault) : Prop :=
  ∀ k, f.isa k → k = .deadlinePassed ∨ k = .exhausted ∨ k = .breakerOpen ∨
    ∃ g, (last = some g ∨ some g ∈ answers) ∧ g.isa k

/-- What a run of the engine settled with the calls `new` it made, starting after the failure
`last`: the report `rep` agrees with the answers of its attempts, read by `ans`. -/
structure Settles (ans : Call → Option (Option Fault)) (last : Option Fault) (rep : Report)
    (new : List Call) : Prop where
  succeeded : rep.err = none → (new.filterMap ans).getLast? = some none
  failed : rep.err ≠ none → none ∉ new.filterMap ans
  traced : ∀ f, rep.err = some f → Traced last (new.filterMap ans) f ∨
    (f.isa .interrupted ∧ new.any Call.stops)

/-- What the calls `new` of a turn that hands over keep for the rest of a run: none of their
attempts answered without a fault, and the failure the next turn starts after was the one
before or is among their answers. -/
structure Hands (ans : Call → Option (Option Fault)) (last last' : Option Fault)
    (new : List Call) : Prop where
  failed : none ∉ new.filterMap ans
  last : ∀ g, last' = some g → last = some g ∨ some g ∈ new.filterMap ans

/-- What the engine's world and guard do to the tape: only housekeeping calls, except for
shutdown checks and waits, which are one call each; and a refusal holds only `breakerOpen`.
No call they make answers an attempt. -/
structure EngineSpec {n : Type → Type} [Monad n] (R : Recording n) (env : Env n) (g : Guard n)
    (ans : Call → Option (Option Fault)) : Prop where
  quiet : ∀ c, (ans c).isSome → c.housekeeping = false ∧ c.isShutdown = false ∧ c.isSleep = false
  now : R.Makes env.now fun _ new => new.all Call.housekeeping
  shutdown : R.Makes env.shutdown fun a new => new = [.shutdown a]
  sleep d : R.Makes (env.sleep d) fun a new => new = [.sleep d a]
  draw : R.Makes env.draw fun _ new => new.all Call.housekeeping
  observe e : R.Makes (env.observe e) fun _ new => new.all Call.housekeeping
  permit : R.Makes g.permit fun _ new => new.all Call.housekeeping
  succeeded t : R.Makes (g.succeeded t) fun _ new => new.all Call.housekeeping
  failed t : R.Makes (g.failed t) fun _ new => new.all Call.housekeeping
  released t : R.Makes (g.released t) fun _ new => new.all Call.housekeeping
  cooldown : R.Makes g.cooldown fun _ new => new.all Call.housekeeping
  reject : R.Makes g.reject fun a new => new.all Call.housekeeping ∧
    ∀ f, a = some f → ∀ k, f.isa k → k = .breakerOpen

/-- Every attempt makes calls of the engine's and answers its fault through `ans`. -/
def Answers {n : Type → Type} [Monad n] (R : Recording n) (ans : Call → Option (Option Fault))
    (attempt : Nat → Option Int → n (Option Fault)) : Prop :=
  ∀ k d, R.Makes (attempt k d) fun a new => new.all (Call.ofEngine ans) ∧ new.filterMap ans = [a]

/-- The engine's spec holds in a monad that adds state on top. -/
theorem EngineSpec.lift {n : Type → Type} [Monad n] {R : Recording n} {env : Env n} {g : Guard n}
    {ans : Call → Option (Option Fault)} {ρ : Type} (h : EngineSpec R env g ans) :
    EngineSpec (R.lift ρ) env.lift g.lift ans where
  quiet := h.quiet
  now := Recording.Makes.lift h.now
  shutdown := Recording.Makes.lift h.shutdown
  sleep d := Recording.Makes.lift (h.sleep d)
  draw := Recording.Makes.lift h.draw
  observe e := Recording.Makes.lift (h.observe e)
  permit := Recording.Makes.lift h.permit
  succeeded t := Recording.Makes.lift (h.succeeded t)
  failed t := Recording.Makes.lift (h.failed t)
  released t := Recording.Makes.lift (h.released t)
  cooldown := Recording.Makes.lift h.cooldown
  reject := Recording.Makes.lift h.reject

/-! ### Building what a run settles -/

section Settles

variable {ans : Call → Option (Option Fault)} {last : Option Fault} {rep : Report}
  {new : List Call}

theorem Traced.of_join {answers : List (Option Fault)} {parts : List (Option Fault)} {f : Fault}
    (h : Fault.join parts = some f) (hp : ∀ g, some g ∈ parts → Traced last answers g) :
    Traced last answers f := by
  intro k hk
  obtain ⟨g, hg, hgk⟩ := (Fault.isa_of_join h k).1 hk
  exact hp g hg k hgk

theorem Traced.of_last {answers : List (Option Fault)} {g : Fault} (hg : last = some g) :
    Traced last answers g := fun _ hk => .inr (.inr (.inr ⟨g, .inl hg, hk⟩))

theorem Traced.of_answer {answers : List (Option Fault)} {g : Fault} (hg : some g ∈ answers) :
    Traced last answers g := fun _ hk => .inr (.inr (.inr ⟨g, .inr hg, hk⟩))

theorem Traced.rejected {answers : List (Option Fault)} {g : Fault}
    (hg : ∀ k, g.isa k → k = .breakerOpen) : Traced last answers g :=
  fun k hk => .inr (.inr (.inl (hg k hk)))

/-- A fault the engine ends a run with, on a passed deadline or used-up retries, is traced when
the parts it joins are. -/
theorem Traced.engine {answers : List (Option Fault)} {s : Sentinel} {parts : List (Option Fault)}
    {f : Fault} (hs : s = .deadlinePassed ∨ s = .exhausted)
    (hf : Fault.join (some (.sentinel s) :: parts) = some f)
    (hp : ∀ g, some g ∈ parts → Traced last answers g) : Traced last answers f := by
  refine Traced.of_join hf fun g hg => ?_
  rcases List.mem_cons.1 hg with hg | hg
  · cases hg
    intro k hk
    rw [Fault.isa_sentinel, beq_iff_eq] at hk
    subst hk
    rcases hs with hs | hs
    · exact .inl hs
    · exact .inr (.inl hs)
  · exact hp g hg

/-- A fault traced after the failure `last'` is traced after `last` with more answers before,
when `last'` was `last` or among them. -/
theorem Traced.after {answers pre : List (Option Fault)} {last' : Option Fault} {f : Fault}
    (h : Traced last' answers f)
    (hlast : ∀ g, last' = some g → last = some g ∨ some g ∈ pre) :
    Traced last (pre ++ answers) f := by
  intro k hk
  rcases h k hk with hk | hk | hk | ⟨g, hg, hgk⟩
  · exact .inl hk
  · exact .inr (.inl hk)
  · exact .inr (.inr (.inl hk))
  · refine .inr (.inr (.inr ⟨g, ?_, hgk⟩))
    rw [List.mem_append]
    rcases hg with hg | hg
    · rcases hlast g hg with hl | hl
      · exact .inl hl
      · exact .inr (.inl hl)
    · exact .inr (.inr hg)

theorem Settles.interrupted {parts : List (Option Fault)} (hnone : none ∉ new.filterMap ans)
    (hstop : new.any Call.stops)
    (herr : rep.err = Fault.join (some (.sentinel .interrupted) :: parts)) :
    Settles ans last rep new where
  succeeded h := by simp [herr, Fault.join_cons_some] at h
  failed _ := hnone
  traced f hf := by
    rw [herr, Fault.join_cons_some] at hf
    cases hf
    exact .inr ⟨by simp, hstop⟩

theorem Settles.failure {f : Fault} (hnone : none ∉ new.filterMap ans) (herr : rep.err = some f)
    (ht : Traced last (new.filterMap ans) f) : Settles ans last rep new where
  succeeded h := by simp [herr] at h
  failed _ := hnone
  traced f' hf := by
    rw [herr] at hf
    cases hf
    exact .inl ht

theorem Settles.success (hlast : (new.filterMap ans).getLast? = some none)
    (herr : rep.err = none) : Settles ans last rep new where
  succeeded _ := hlast
  failed h := absurd herr h
  traced f hf := by simp [herr] at hf

/-- **A turn that hands over, then a run that settles**: the whole settles after the failure the
turn started after. -/
theorem Hands.settles {pre : List Call} {last' : Option Fault} (hh : Hands ans last last' pre)
    (h : Settles ans last' rep new) : Settles ans last rep (pre ++ new) where
  succeeded he := by
    rw [List.filterMap_append, List.getLast?_append, h.succeeded he]
    rfl
  failed he := by
    rw [List.filterMap_append, List.mem_append, not_or]
    exact ⟨hh.failed, h.failed he⟩
  traced f hf := by
    rw [List.filterMap_append]
    rcases h.traced f hf with ht | ⟨hi, hstop⟩
    · exact .inl (ht.after hh.last)
    · exact .inr ⟨hi, by simp [List.any_append, hstop]⟩

end Settles

namespace EngineSpec

variable {n : Type → Type} [Monad n] {R : Recording n} {env : Env n} {g : Guard n}
  {ans : Call → Option (Option Fault)}

theorem ans_eq_none (h : EngineSpec R env g ans) {c : Call}
    (hc : c.housekeeping ∨ c.isShutdown ∨ c.isSleep) : ans c = none := by
  cases hs : ans c with
  | none => rfl
  | some a =>
    obtain ⟨h1, h2, h3⟩ := h.quiet c (by simp [hs])
    simp [h1, h2, h3] at hc

theorem ans_shutdown (h : EngineSpec R env g ans) (a : Option Fault) :
    ans (.shutdown a) = none :=
  h.ans_eq_none (.inr (.inl rfl))

theorem ans_sleep (h : EngineSpec R env g ans) (d : Int) (a : Option Fault) :
    ans (.sleep d a) = none :=
  h.ans_eq_none (.inr (.inr rfl))

theorem filterMap_housekeeping (h : EngineSpec R env g ans) {q : List Call}
    (hq : q.all Call.housekeeping) : q.filterMap ans = [] := by
  rw [List.filterMap_eq_nil_iff]
  intro c hc
  exact h.ans_eq_none (.inl (List.all_eq_true.1 hq c hc))

theorem all_ofEngine {q : List Call} (hq : q.all Call.housekeeping) :
    q.all (Call.ofEngine ans) := by
  rw [List.all_eq_true] at hq ⊢
  intro c hc
  simp [Call.ofEngine, hq c hc]

end EngineSpec

variable {n : Type → Type} [Monad n] {R : Recording n}

/-- A program whose spec is known, answered from `s` with `a` and leaving `s'`, appended calls
that the spec accepts with `a`. -/
theorem Recording.Makes.answered {α : Type} {x : n α} {Q : α → List Call → Prop}
    (h : R.Makes x Q) {a : α} {s s' : R.State} (hx : R.exec x s = (a, s')) :
    ∃ new, R.calls s' = R.calls s ++ new ∧ Q a new := by
  obtain ⟨new, hc, hq⟩ := h s
  rw [hx] at hc hq
  exact ⟨new, hc, hq⟩


end Conveyor.Pipeline

/-! ### What each call of a turn puts on the tape -/

namespace Conveyor.Retry

open Pipeline

/-- The answer an attempt got; nothing for the other calls. -/
@[simp] def Act.answer? : Act → Option (Option Fault)
  | .attempt _ e => some e
  | _ => none

/-- A shutdown check that found shutdown begun, or a wait that shutdown cut short. -/
def Act.stops : Act → Bool
  | .shutdown (some _) | .sleep _ (some _) => true
  | _ => false

/-- What a call appends to the tape under the engine's spec: a shutdown check or a wait, itself;
an attempt, calls of the engine's whose answers read its own, once; a refusal, housekeeping and
a rejection that holds only `breakerOpen`; any other call, housekeeping. -/
def Act.Tapes (ans : Call → Option (Option Fault)) : Act → List Call → Prop
  | .shutdown a, q => q = [.shutdown a]
  | .sleep w a, q => q = [.sleep w a]
  | .reject r, q => q.all Call.housekeeping ∧ ∀ f, r = some f → ∀ k, f.isa k → k = .breakerOpen
  | .attempt _ e, q => q.all (Call.ofEngine ans) ∧ q.filterMap ans = [e]
  | _, q => q.all Call.housekeeping

/-- What a chain of calls appends to the tape: what each of them appends, in turn. -/
inductive Taped (ans : Call → Option (Option Fault)) : List Act → List Call → Prop
  | nil : Taped ans [] []
  | cons {a : Act} {acts : List Act} {q new : List Call} :
      a.Tapes ans q → Taped ans acts new → Taped ans (a :: acts) (q ++ new)

@[simp] theorem answers_opening (t : Int) : (opening t).filterMap Act.answer? = [] := rfl

@[simp] theorem answers_refusal (c : Config) (tk : Nat) (rej : Option Fault) (cd t : Int) :
    (refusal c tk rej cd t).filterMap Act.answer? = [] := rfl

@[simp] theorem answers_trial (tk k : Nat) (start : Int) (err : Option Fault) (stop : Int) :
    (trial tk k start err stop).filterMap Act.answer? = [err] := rfl

@[simp] theorem answers_backoff (c : Config) (r : Float) (t : Int) :
    (backoff c r t).filterMap Act.answer? = [] := by
  unfold backoff
  split <;> rfl

@[simp] theorem answers_waiting (w : Int) (a : Option Fault) :
    (waiting w a).filterMap Act.answer? = [] := rfl

section Tapes

variable {n : Type → Type} [Monad n] {R : Recording n} {env : Env n} {g : Guard n}
  {ans : Call → Option (Option Fault)} {attempt : Nat → Option Int → n (Option Fault)}
  {deadline : Option Int}

/-- **Every call of a turn appends calls of its kind** to the tape, over a world and a guard
that meet the engine's spec and attempts that answer through `ans`. -/
theorem Act.Answered.tapes {a : Act} {s s' : R.State}
    (hA : a.Answered R.toReading env g attempt deadline s s') (h : EngineSpec R env g ans)
    (ha : Answers R ans attempt) :
    ∃ new, R.calls s' = R.calls s ++ new ∧ a.Tapes ans new := by
  cases a with
  | now t => exact h.now.answered hA
  | shutdown x => exact h.shutdown.answered hA
  | sleep w x => exact (h.sleep w).answered hA
  | draw r => exact h.draw.answered hA
  | observe e => exact (h.observe e).answered hA
  | permit t ok => exact h.permit.answered hA
  | succeeded t => exact (h.succeeded t).answered hA
  | failed t => exact (h.failed t).answered hA
  | released t => exact (h.released t).answered hA
  | cooldown w => exact h.cooldown.answered hA
  | reject r => exact h.reject.answered hA
  | attempt k e => exact (ha k deadline).answered hA

/-- A chain of calls appends to the tape what each of its calls appends. -/
theorem Acted.taped (h : EngineSpec R env g ans) (ha : Answers R ans attempt) {acts : List Act} :
    ∀ {s s' : R.State}, Acted R.toReading env g attempt deadline acts s s' →
      ∃ new, R.calls s' = R.calls s ++ new ∧ Taped ans acts new := by
  induction acts with
  | nil =>
    intro s s' hacted
    rw [acted_nil.1 hacted]
    exact ⟨[], (List.append_nil _).symm, .nil⟩
  | cons a acts ih =>
    intro s s'' hacted
    obtain ⟨s', hA, hrest⟩ := acted_cons.1 hacted
    obtain ⟨q, hq, hqa⟩ := hA.tapes h ha
    obtain ⟨new, hnew, ht⟩ := ih hrest
    exact ⟨q ++ new, by rw [hnew, hq, List.append_assoc], .cons hqa ht⟩

end Tapes

namespace Act.Tapes

variable {n : Type → Type} [Monad n] {R : Recording n} {env : Env n} {g : Guard n}
  {ans : Call → Option (Option Fault)} {a : Act} {q : List Call}

theorem calls (hq : a.Tapes ans q) : q.all (Call.ofEngine ans) := by
  cases a with
  | shutdown x =>
    rw [show q = [.shutdown x] from hq]
    simp [Call.ofEngine, Call.isShutdown]
  | sleep w x =>
    rw [show q = [.sleep w x] from hq]
    simp [Call.ofEngine, Call.isSleep]
  | reject r => exact EngineSpec.all_ofEngine hq.1
  | attempt k e => exact hq.1
  | _ => exact EngineSpec.all_ofEngine hq

/-- The calls a call appends answer what it answered, if it was an attempt, and nothing else. -/
theorem answers (h : EngineSpec R env g ans) (hq : a.Tapes ans q) :
    q.filterMap ans = a.answer?.toList := by
  cases a with
  | shutdown x =>
    rw [show q = [.shutdown x] from hq]
    simp [h.ans_shutdown, Act.answer?]
  | sleep w x =>
    rw [show q = [.sleep w x] from hq]
    simp [h.ans_sleep, Act.answer?]
  | reject r => exact h.filterMap_housekeeping hq.1
  | attempt k e => exact hq.2
  | _ => exact h.filterMap_housekeeping hq

theorem stops (hq : a.Tapes ans q) (ha : a.stops) : q.any Call.stops := by
  cases a with
  | shutdown x =>
    rw [show q = [.shutdown x] from hq]
    cases x <;> simp_all [Act.stops, Call.stops]
  | sleep w x =>
    rw [show q = [.sleep w x] from hq]
    cases x <;> simp_all [Act.stops, Call.stops]
  | _ => simp [Act.stops] at ha

end Act.Tapes

namespace Taped

variable {n : Type → Type} [Monad n] {R : Recording n} {env : Env n} {g : Guard n}
  {ans : Call → Option (Option Fault)} {acts : List Act} {new : List Call}

theorem calls (ht : Taped ans acts new) : new.all (Call.ofEngine ans) := by
  induction ht with
  | nil => rfl
  | cons hq _ ih => rw [List.all_append, hq.calls, ih, Bool.and_self]

/-- The calls of a chain answer what its attempts answered, in order. -/
theorem answers (h : EngineSpec R env g ans) (ht : Taped ans acts new) :
    new.filterMap ans = acts.filterMap Act.answer? := by
  induction ht with
  | nil => rfl
  | @cons a acts q new hq _ ih =>
    rw [List.filterMap_append, hq.answers h, ih, List.filterMap_cons]
    cases a.answer? <;> rfl

/-- A chain with a call that shutdown stopped put a stopped call on the tape. -/
theorem stops (ht : Taped ans acts new) {a : Act} (hmem : a ∈ acts) (ha : a.stops) :
    new.any Call.stops := by
  induction ht with
  | nil => cases hmem
  | cons hq _ ih =>
    rw [List.any_append, Bool.or_eq_true]
    rcases List.mem_cons.1 hmem with rfl | hmem
    · exact .inl (hq.stops ha)
    · exact .inr (ih hmem)

/-- A rejection a chain got holds only `breakerOpen`. -/
theorem rejected (ht : Taped ans acts new) {r : Option Fault} (hmem : .reject r ∈ acts)
    {f : Fault} (hf : r = some f) : ∀ k, f.isa k → k = .breakerOpen := by
  induction ht with
  | nil => cases hmem
  | @cons a acts q new hq _ ih =>
    rcases List.mem_cons.1 hmem with rfl | hmem
    · exact hq.2 f hf
    · exact ih hmem

end Taped

/-! ### Runs of the engine -/

section Runs

variable {n : Type → Type} [Monad n] {R : Recording n} {env : Env n} {g : Guard n}
  {ans : Call → Option (Option Fault)} {attempt : Nat → Option Int → n (Option Fault)}
  {c : Config} {classify : Fault → Bool} {deadline : Option Int} {made : Nat}
  {last : Option Fault} {rep : Report} {acts : List Act} {new : List Call}

/-- **A turn that ends the run settles it** with the calls it put on the tape. -/
theorem Goes.settles (h : EngineSpec R env g ans) (ht : Taped ans acts new) {rep' : Report}
    (hg : Goes c classify deadline made last rep acts (.done rep')) :
    Settles ans last rep' new := by
  have hans := ht.answers h
  cases hg with
  | stopped e =>
    exact Settles.interrupted (by simp [hans, List.filterMap_cons])
      (ht.stops (List.mem_singleton_self _) rfl) rfl
  | expired t d =>
    exact Settles.failure (by simp [hans]) rfl
      (Traced.engine (.inl rfl) rfl fun g hg => Traced.of_last (List.mem_singleton.1 hg).symm)
  | refusedLate t tk rej cd t' =>
    refine Settles.failure (by simp [hans]) rfl
      (Traced.engine (.inl rfl) rfl fun g hg => ?_)
    rcases List.mem_cons.1 hg with hg | hg
    · exact Traced.rejected (ht.rejected (by simp [refusal]) hg.symm)
    · exact Traced.of_last (List.mem_singleton.1 hg).symm
  | refusedCut t tk rej cd t' e =>
    exact Settles.interrupted (by simp [hans, List.filterMap_cons])
      (ht.stops (a := .sleep (c.refusalWait cd) (some e)) (by simp) rfl) rfl
  | succeeded t tk start stop =>
    exact Settles.success (by simp [hans, List.filterMap_cons]) rfl
  | released t tk start f stop =>
    exact Settles.failure (by simp [hans, List.filterMap_cons]) rfl
      (Traced.of_answer (by simp [hans, List.filterMap_cons]))
  | exhausted t tk start f stop =>
    exact Settles.failure (by simp [hans, List.filterMap_cons]) rfl
      (Traced.engine (.inr rfl) rfl fun g hg => Traced.of_answer (by simp_all))
  | backoffLate t tk start f stop r t' =>
    exact Settles.failure (by simp [hans, List.filterMap_cons]) rfl
      (Traced.engine (.inl rfl) rfl fun g hg => Traced.of_answer (by simp_all))
  | backoffCut t tk start f stop r t' e =>
    exact Settles.interrupted (by simp [hans, List.filterMap_cons])
      (ht.stops (a := .sleep (c.delay (made + 1) r) (some e)) (by simp [waiting]) rfl) rfl

/-- **A turn that hands over** makes calls after which the rest of the run settles the whole. -/
theorem Goes.hands (h : EngineSpec R env g ans) (ht : Taped ans acts new) {made' : Nat}
    {last' : Option Fault} {rep' : Report}
    (hg : Goes c classify deadline made last rep acts (.next made' last' rep')) :
    Pipeline.Hands ans last last' new := by
  have hans := ht.answers h
  cases hg with
  | refusedWaited t tk rej cd t' =>
    exact ⟨by simp [hans, List.filterMap_cons], fun g hg => .inl hg⟩
  | backedOff t tk start f stop r t' =>
    exact ⟨by simp [hans, List.filterMap_cons], fun g hg => .inr (by simp_all)⟩

/-- How a run opens makes no attempt, so it hands the loop the run as it found it. -/
theorem Opens.hands (h : EngineSpec R env g ans) {deadline : Option Int}
    (ho : Opens c acts deadline)
    (ht : Taped ans acts new) : Pipeline.Hands ans none none new := by
  have hans := ht.answers h
  cases ho with
  | timed t => exact ⟨by simp [hans], fun g hg => by cases hg⟩
  | untimed => exact ⟨by simp [hans], fun g hg => by cases hg⟩

/-- **What a run of the loop settles**: the calls it appends are the engine's, those of its
turns, and a run that ends settles with all of them. The induction is on the run's turns. -/
theorem Ran.settles (h : EngineSpec R env g ans) (ha : Answers R ans attempt) {fuel : Nat}
    {s : R.State} {res : Option Report} {s' : R.State}
    (hr : Ran R.toReading env g attempt deadline c classify fuel made last rep s res s') :
    ∃ new, R.calls s' = R.calls s ++ new ∧ new.all (Call.ofEngine ans) ∧
      ∀ rep', res = some rep' → Settles ans last rep' new := by
  induction hr with
  | out => exact ⟨[], (List.append_nil _).symm, rfl, fun _ hres => by cases hres⟩
  | done hacted hgoes =>
    obtain ⟨new, hc, ht⟩ := hacted.taped h ha
    refine ⟨new, hc, ht.calls, fun rep' hres => ?_⟩
    cases hres
    exact hgoes.settles h ht
  | next hacted hgoes _ ih =>
    obtain ⟨pre, hc, ht⟩ := hacted.taped h ha
    obtain ⟨rest, hc', hall, hs⟩ := ih
    exact ⟨pre ++ rest, by rw [hc', hc, List.append_assoc], by simp [ht.calls, hall],
      fun rep' hres => (hgoes.hands h ht).settles (hs rep' hres)⟩

end Runs

end Conveyor.Retry

namespace Conveyor.Pipeline

open Retry

open Recording in
/-- **What a run of the engine settles**, from any turn on. -/
theorem loop_settles {n : Type → Type} [Monad n] {R : Recording n} {env : Env n} {g : Guard n}
    {ans : Call → Option (Option Fault)} {attempt : Nat → Option Int → n (Option Fault)}
    (h : EngineSpec R env g ans) (ha : Answers R ans attempt) (c : Config)
    (classify : Fault → Bool) (deadline : Option Int) (fuel made : Nat) (last : Option Fault)
    (rep : Report) :
    R.Makes (Retry.loop c env g classify attempt deadline fuel made last rep) fun res new =>
      new.all (Call.ofEngine ans) ∧ ∀ rep', res = some rep' → Settles ans last rep' new :=
  fun s =>
  (loop_ran R.toReading env g attempt deadline c classify fuel made last rep s).settles h ha

open Recording in
/-- **A run of the engine under a policy** makes only the engine's calls, and one that ends
settles with no failure before it, for any number of turns. -/
theorem run_settles {n : Type → Type} [Monad n] {R : Recording n} {env : Env n} {g : Guard n}
    {ans : Call → Option (Option Fault)} {attempt : Nat → Option Int → n (Option Fault)}
    (h : EngineSpec R env g ans) (ha : Answers R ans attempt) (fuel : Nat) (c : Config)
    (classify : Fault → Bool) :
    R.Makes (Retry.run fuel c env g classify attempt) fun res new =>
      new.all (Call.ofEngine ans) ∧ ∀ rep, res = some rep → Settles ans none rep new := by
  intro s
  obtain ⟨acts, deadline, s₁, hopen, hacted, hrun⟩ :=
    run_opens R.toReading env g attempt c classify s
  obtain ⟨pre, hpre, ht⟩ := hacted.taped h ha
  obtain ⟨rest, hrest, hall, hs⟩ :=
    loop_settles h ha c.normalize classify deadline fuel 0 none {} s₁
  rw [hrun]
  exact ⟨pre ++ rest, by rw [hrest, hpre, List.append_assoc], by simp [ht.calls, hall],
    fun rep hres => (hopen.hands h ht).settles (hs rep hres)⟩

/-! ### Reading what a run settled -/

theorem err_of_not_succeeded {rep : Report} (h : ¬ rep.succeeded = true) : rep.err ≠ none := by
  simpa [Report.succeeded] using h

/-- Why handling gave a message up: shutdown answered a check or cut a wait short, or a
processor, the sink or the dead-letter writer answered a fault that itself holds `interrupted`
or `abandoned`. -/
def Stopped (calls : List Call) : Prop :=
  calls.any Call.stops ∨
    ∃ c ∈ calls, ∃ g, c.fault? = some g ∧ (g.isa .interrupted ∨ g.isa .abandoned)

theorem Stopped.append_left {l : List Call} (l' : List Call) (h : Stopped l) :
    Stopped (l ++ l') := by
  rcases h with h | ⟨c, hc, hf⟩
  · exact .inl (by simp [h])
  · exact .inr ⟨c, List.mem_append_left _ hc, hf⟩

theorem Stopped.append_right (l : List Call) {l' : List Call} (h : Stopped l') :
    Stopped (l ++ l') := by
  rcases h with h | ⟨c, hc, hf⟩
  · exact .inl (by simp [h])
  · exact .inr ⟨c, List.mem_append_right _ hc, hf⟩

/-- An engine run that reports an interruption was stopped, when every attempt's answer that
holds `interrupted` is a fault a service answered. -/
theorem Settles.stopped {ans : Call → Option (Option Fault)} {rep : Report} {new : List Call}
    (hs : Settles ans none rep new)
    (hans : ∀ call g, ans call = some (some g) → g.isa .interrupted → call.fault? = some g)
    (hi : rep.interrupted) : Stopped new := by
  obtain ⟨f, hf, hfi⟩ : ∃ f, rep.err = some f ∧ f.isa .interrupted := by
    unfold Report.interrupted at hi
    cases h : rep.err with
    | none => simp [h] at hi
    | some f => exact ⟨f, rfl, by simpa [h] using hi⟩
  rcases hs.traced f hf with ht | ⟨_, hstop⟩
  · rcases ht _ hfi with hk | hk | hk | ⟨g, hg | hg, hgk⟩
    · cases hk
    · cases hk
    · cases hk
    · cases hg
    · obtain ⟨call, hcall, hans'⟩ := List.mem_filterMap.1 hg
      exact .inr ⟨call, hcall, g, hans call g hans' hgk, .inl hgk⟩
  · exact .inl hstop

/-- A run that was not interrupted ended with a fault whose fixed failures, other than those the
engine adds, come from answers of its attempts. -/
theorem Settles.blame {ans : Call → Option (Option Fault)} {rep : Report} {new : List Call}
    (hs : Settles ans none rep new) {f : Fault} (hf : rep.err = some f) (hi : ¬ rep.interrupted)
    {k : Sentinel} (hk : f.isa k)
    (hk' : k ≠ .deadlinePassed ∧ k ≠ .exhausted ∧ k ≠ .breakerOpen) :
    ∃ g, some g ∈ new.filterMap ans ∧ g.isa k := by
  rcases hs.traced f hf with ht | ⟨hfi, _⟩
  · rcases ht k hk with h | h | h | ⟨g, hg | hg, hgk⟩
    · exact absurd h hk'.1
    · exact absurd h hk'.2.1
    · exact absurd h hk'.2.2
    · cases hg
    · exact ⟨g, hg, hgk⟩
  · exact absurd (by simp [Report.interrupted, hf, hfi]) hi

end Conveyor.Pipeline
