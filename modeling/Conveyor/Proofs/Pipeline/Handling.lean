import Conveyor.Proofs.Pipeline.Engine
/-!
# Every message ends one way

Handling a message runs its stages, then routes it to the sink or to the dead-letter writer,
then tells the observers. Over the taped world, whatever the script answers, each part has a
spec (`makes_runStages`, `makes_route`, `makes_handle`), and together they say how handling can
end (`Ending`): delivered, dead-lettered, filtered, abandoned, or failed to dead-letter, each
with what the sink and the writer answered on the way.

Three retry engines decide the outcome, one per stage, one for the sink and one for the
writer, and each is read back through `Report.interrupted`, which asks whether the report's
fault holds `interrupted`. The engine's own faults hold it only after shutdown answered a check
or cut a wait short, but the engine also passes on the faults its attempts answered: a
processor, sink or writer fault that itself holds `interrupted` or `abandoned` is taken for a
shutdown, and a writer fault that holds `abandoned` makes the dead-letter failure hold it too.
`Stopped` names these reasons, and `handle_single_ending` says that abandonment has one.

Handling is run for a number of turns of each engine run; everything here is said of handling
that ended within them, for any number.
-/

namespace Conveyor.Pipeline

open Retry Recording

/-! ### The runner's engines over the taped world -/

/-- A step of a breaker reads the clock and may log the breaker's change of state, and answers
what the step gives at some time on some breaker. -/
theorem makes_withBreaker {α : Type} (name : String) (f : Int → Breaker → α × Breaker) :
    Tape.runner.Makes (withBreaker Tape.services name f)
      fun a new => new.all Call.housekeeping ∧ ∃ now b, a = (f now b).1 := by
  unfold withBreaker
  refine Makes.bind (Makes.lift Tape.makes_now) fun t q hq => ?_
  refine Makes.bind Makes.get fun r q2 hq2 => ?_
  rcases hb : r.breakers.get name with ⟨b, breakers⟩
  dsimp only
  refine Makes.bind (Makes.set _) fun _ q3 hq3 => ?_
  subst hq hq2 hq3
  have hdone : ∀ l : List Call, l.all Call.housekeeping →
      ([Call.now t] ++ ([] ++ ([] ++ l))).all Call.housekeeping ∧
        ∃ now b₀, (f t b).1 = (f now b₀).1 :=
    fun l hl => ⟨by simp [hl, Call.housekeeping], t, b, rfl⟩
  apply Makes.ite
  · intro _
    refine Makes.bind (Makes.lift (Tape.makes_log _)) fun _ q4 hq4 => Makes.pure ?_
    subst hq4
    exact hdone _ (by simp [Call.housekeeping])
  · intro _
    exact Makes.pure (hdone [] rfl)

/-- The engine of a runner over a taped world, guarded by a breaker, meets the engine's spec. -/
theorem engineSpec_breaker (count : Event → Runner → Runner) (name : String)
    {ans : Call → Option (Option Fault)}
    (hq : ∀ c, (ans c).isSome →
      c.housekeeping = false ∧ c.isShutdown = false ∧ c.isSleep = false) :
    EngineSpec Tape.runner (engineEnv Tape.services count) (breakerGuard Tape.services name)
      ans where
  quiet := hq
  now := (Makes.lift Tape.makes_now).mono fun _ _ h => by simp [h, Call.housekeeping]
  shutdown := Makes.lift Tape.makes_shutdown
  sleep d := Makes.lift (Tape.makes_sleep d)
  draw := (Makes.lift Tape.makes_draw).mono fun _ _ h => by simp [h, Call.housekeeping]
  observe _ := (Makes.modify _).mono fun _ _ h => by simp [h]
  permit := (makes_withBreaker name fun now b => b.permit now).mono fun _ _ h => h.1
  succeeded t := (makes_withBreaker name fun _ b => ((), b.succeeded t)).mono fun _ _ h => h.1
  failed t := (makes_withBreaker name fun now b => ((), b.failed t now)).mono fun _ _ h => h.1
  released t := (makes_withBreaker name fun _ b => ((), b.released t)).mono fun _ _ h => h.1
  cooldown := (makes_withBreaker name fun now b => (b.cooldown now, b)).mono fun _ _ h => h.1
  reject := (makes_withBreaker name fun now b => (some (b.reject now), b)).mono
    fun _ _ ⟨h, now, b, ha⟩ => ⟨h, fun f hf k hk => by
      cases ha
      cases hf
      simpa [Breaker.reject] using hk⟩

theorem Call.delivered?_quiet (c : Call) (h : c.delivered?.isSome) :
    c.housekeeping = false ∧ c.isShutdown = false ∧ c.isSleep = false := by
  cases c <;> simp_all [Call.housekeeping, Call.isShutdown, Call.isSleep]

theorem Call.written?_quiet (c : Call) (h : c.written?.isSome) :
    c.housekeeping = false ∧ c.isShutdown = false ∧ c.isSleep = false := by
  cases c <;> simp_all [Call.housekeeping, Call.isShutdown, Call.isSleep]

theorem Call.processed?_quiet (name : String) (c : Call) (h : (c.processed? name).isSome) :
    c.housekeeping = false ∧ c.isShutdown = false ∧ c.isSleep = false := by
  cases c <;> simp_all [Call.housekeeping, Call.isShutdown, Call.isSleep]

theorem Call.observed?_quiet (c : Call) (h : c.observed?.isSome) :
    c.housekeeping = false ∧ c.isShutdown = false ∧ c.isSleep = false := by
  cases c <;> simp_all [Call.housekeeping, Call.isShutdown, Call.isSleep]

/-- An engine's calls show nothing through a view that sees only calls of other kinds than the
engine's attempts make. -/
theorem filterMap_eq_nil_of_engine {ans : Call → Option (Option Fault)} {α : Type}
    {view : Call → Option α} {calls : List Call} (h : calls.all (Call.ofEngine ans))
    (hq : ∀ c, (view c).isSome →
      c.housekeeping = false ∧ c.isShutdown = false ∧ c.isSleep = false)
    (hans : ∀ c, (view c).isSome → ans c = none) :
    calls.filterMap view = [] := by
  rw [List.filterMap_eq_nil_iff]
  intro c hc
  cases hv : view c with
  | none => rfl
  | some _ =>
    have hv' : (view c).isSome := by simp [hv]
    obtain ⟨h1, h2, h3⟩ := hq c hv'
    have hc' := List.all_eq_true.1 h c hc
    simp [Call.ofEngine, h1, h2, h3, hans c hv'] at hc'

/-- A delivery is one call, whose answer is the attempt's. -/
theorem answers_deliver (e : Envelope) :
    Answers Tape.runner Call.delivered? fun _ _ => liftM (Tape.services.deliver e) := fun _ _ =>
  (Makes.lift (Tape.makes_deliver _)).mono fun _ _ h => by
    subst h
    simp [Call.ofEngine]

/-- A dead-letter write is one call, whose answer is the attempt's. -/
theorem answers_write (d : DeadLetter) :
    Answers Tape.runner Call.written? fun _ _ => liftM (Tape.services.writeDeadLetter d) :=
  fun _ _ =>
  (Makes.lift (Tape.makes_write _)).mono fun _ _ h => by
    subst h
    simp [Call.ofEngine]

/-- An attempt of a stage calls its processor once, and may log a panic; the processor's answer,
read as the stage reads it, is the attempt's. -/
theorem answers_attemptStage (i : Nat) (name : String) :
    Answers Tape.stage (Call.processed? name) fun k _ => attemptStage Tape.services i name k := by
  intro k _
  unfold attemptStage
  refine Makes.bind Makes.get fun p q hq => ?_
  obtain ⟨cur, _⟩ := p
  dsimp -zeta only
  refine Makes.bind (Makes.lift (Makes.lift (Tape.makes_process _ _))) fun a q2 hq2 => ?_
  obtain ⟨route, produced⟩ := a
  subst hq hq2
  dsimp -zeta only
  lift_lets
  intro cur' settle
  -- storing the step's result answers its fault, and makes no call
  have hsettle : ∀ res, Tape.stage.Makes (settle res) fun b new =>
      new = [] ∧
        b = match res with | .output _ => none | .filtered => none | .failed f => some f :=
    fun res => Makes.bind (Makes.set _) fun _ q hq =>
      Makes.pure ⟨by simp [hq], by cases res <;> rfl⟩
  cases produced with
  | output v =>
    refine Makes.bind (Makes.ret _) fun _ q3 h3 => (hsettle _).mono fun b q4 h4 => ?_
    obtain ⟨hq3, hres⟩ := h3
    obtain ⟨hq4, hb⟩ := h4
    subst hq3 hq4 hres
    simp [Call.ofEngine, Call.processed?, Produced.fault, hb]
  | failure f =>
    refine Makes.bind (Makes.ret _) fun _ q3 h3 => (hsettle _).mono fun b q4 h4 => ?_
    obtain ⟨hq3, hres⟩ := h3
    obtain ⟨hq4, hb⟩ := h4
    subst hq3 hq4 hres
    by_cases hf : f.isa .filtered <;> simp [Call.ofEngine, Call.processed?, Produced.fault, hb, hf]
  | panicked what =>
    refine Makes.bind (Makes.lift (Makes.lift (Tape.makes_log _))) fun _ q3 hq3 => ?_
    refine Makes.bind (Makes.ret _) fun _ q4 h4 => (hsettle _).mono fun b q5 h5 => ?_
    obtain ⟨hq4, hres⟩ := h4
    obtain ⟨hq5, hb⟩ := h5
    subst hq3 hq4 hq5 hres
    simp [Call.ofEngine, Call.processed?, Produced.fault, hb, Call.housekeeping]

/-- A stage makes only its engine's calls, and one that ends settles as the engine does, over
the processor calls its attempts make. -/
theorem makes_runStage (fuel i : Nat) (s : Stage) (r : Record) :
    Tape.runner.Makes (runStage Tape.services fuel i s r) fun x new =>
      new.all (Call.ofEngine (Call.processed? s.name)) ∧
        ∀ y, x = some y → Settles (Call.processed? s.name) none y.1 new := by
  unfold runStage
  have hspec : EngineSpec Tape.stage _ _ (Call.processed? s.name) :=
    (engineSpec_breaker (fun e run => run.updateStage i (·.record e)) s.name
      (Call.processed?_quiet s.name)).lift
  refine Makes.bind (Makes.modify _) fun _ q hq => ?_
  refine Makes.bind (Makes.run (run_settles hspec (answers_attemptStage i s.name) fuel s.retry
    s.classify) _) fun x q2 hq2 => ?_
  obtain ⟨rep?, r', last⟩ := x
  obtain ⟨hcalls, hsettles⟩ := hq2
  subst hq
  cases rep? with
  | none => exact Makes.pure ⟨by simpa using hcalls, fun _ hy => by cases hy⟩
  | some rep =>
    refine Makes.bind (Makes.modify _) fun _ q3 hq3 => Makes.pure ⟨?_, fun y hy => ?_⟩
    · subst hq3
      simpa using hcalls
    · cases hy
      subst hq3
      simpa using hsettles rep rfl

/-- **Counting makes no call**: an engine run counted at one stage's counters makes the calls
of the run and answers what the run answers. -/
theorem makes_countedRun_of {fuel : Nat} {upd : (StageStats → StageStats) → Runner → Runner}
    {policy : Retry.Config} {name : String}
    {attempt : Nat → Option Int → StateT Runner (StateM Tape) (Option Fault)}
    {Q : Option Report → List Call → Prop}
    (h : Tape.runner.Makes (Retry.run fuel policy
      (engineEnv Tape.services fun e run => upd (·.record e) run) (breakerGuard Tape.services name)
      Fault.classify attempt) Q) :
    Tape.runner.Makes (countedRun Tape.services fuel upd policy name attempt) Q := by
  unfold countedRun
  refine Makes.bind (Makes.modify _) fun _ q hq1 => ?_
  refine Makes.bind h fun x W hW => ?_
  subst hq1
  cases x with
  | none => exact Makes.pure (by simpa using hW)
  | some rep =>
    refine Makes.bind (Makes.modify _) fun _ q2 hq2 => Makes.pure ?_
    subst hq2
    simpa using hW

/-- **An engine run counted at one stage's counters** makes the engine's calls and settles as
the engine does. -/
theorem makes_countedRun (fuel : Nat) (upd : (StageStats → StageStats) → Runner → Runner)
    (policy : Retry.Config) (name : String) {ans : Call → Option (Option Fault)}
    (hq : ∀ c, (ans c).isSome →
      c.housekeeping = false ∧ c.isShutdown = false ∧ c.isSleep = false)
    {attempt : Nat → Option Int → StateT Runner (StateM Tape) (Option Fault)}
    (ha : Answers Tape.runner ans attempt) :
    Tape.runner.Makes (countedRun Tape.services fuel upd policy name attempt)
      fun x new => new.all (Call.ofEngine ans) ∧
        ∀ rep, x = some rep → Settles ans none rep new :=
  makes_countedRun_of (run_settles (engineSpec_breaker _ name hq) ha _ _ _)

/-! ### The stages -/

/-- Calls that neither deliver nor write a dead letter. -/
def Silent (calls : List Call) : Prop :=
  calls.filterMap Call.delivered? = [] ∧ calls.filterMap Call.written? = []

/-- Calls made before routing: no delivery, dead-letter write or observation. -/
def Unrouted (calls : List Call) : Prop :=
  Silent calls ∧ calls.filterMap Call.observed? = []

theorem Unrouted.append {l l' : List Call} (h : Unrouted l) (h' : Unrouted l') :
    Unrouted (l ++ l') := by
  simp_all [Unrouted, Silent, List.filterMap_append]

theorem unrouted_of_stage {name : String} {calls : List Call}
    (h : calls.all (Call.ofEngine (Call.processed? name))) : Unrouted calls :=
  ⟨⟨filterMap_eq_nil_of_engine h Call.delivered?_quiet fun c _ => by cases c <;> simp_all,
    filterMap_eq_nil_of_engine h Call.written?_quiet fun c _ => by cases c <;> simp_all⟩,
    filterMap_eq_nil_of_engine h Call.observed?_quiet fun c _ => by cases c <;> simp_all⟩

/-- A fault a stage reads off a processor call and that holds `interrupted` is the fault the
processor answered: a panic holds no fixed failure. -/
theorem processed?_fault {name : String} (call : Call) (g : Fault)
    (h : call.processed? name = some (some g)) (hg : g.isa .interrupted) :
    call.fault? = some g := by
  cases call with
  | process i r route p =>
    cases p with
    | output v => simp [Produced.fault] at h
    | failure f =>
      by_cases hf : f.isa .filtered <;> simp_all [Produced.fault]
    | panicked what =>
      simp only [Call.processed?, Produced.fault, Option.some.injEq] at h
      subst h
      simp at hg
  | _ => simp at h

theorem isa_abandonedBy {err : Option Fault} {f : Fault} (h : abandonedBy err = some f) :
    f.isa .abandoned := by
  rw [abandonedBy, Fault.join_cons_some] at h
  cases h
  simp

/-- **The stages** make no delivery, dead-letter write or observation, and give a message up only
with a fault that holds `abandoned`, for a reason. The induction is on the stages left. -/
theorem makes_runStages (fuel : Nat) : ∀ (stages : List Stage) (i : Nat) (cur orig : Record)
    (trials : List DeadLetter.Trial),
    Tape.runner.Makes (runStages Tape.services fuel i stages cur orig trials) fun x new =>
      Unrouted new ∧
        ∀ y, x = some y → ∀ f, y.1 = some f → f.isa .abandoned ∧ Stopped new
  | [], _, _, _, _ => Makes.pure ⟨by simp [Unrouted, Silent], fun _ hy => by cases hy; simp⟩
  | s :: rest, i, cur, orig, trials => by
    unfold runStages
    refine Makes.bind (makes_runStage fuel i s cur) fun x q hq => ?_
    have hq' : Unrouted q := unrouted_of_stage hq.1
    cases x with
    | none => exact Makes.pure ⟨by simpa using hq', fun _ hy => by cases hy⟩
    | some z =>
      obtain ⟨rep, cur', last⟩ := z
      have hset := hq.2 _ rfl
      dsimp only
      apply Makes.ite
      · intro hi
        refine Makes.pure ⟨by simpa using hq', fun y hy => ?_⟩
        cases hy
        exact fun f hf => ⟨isa_abandonedBy hf, by simpa using hset.stopped processed?_fault hi⟩
      · intro _
        -- every other ending of the stage hands on no fault
        have hquiet : ∀ y : Option Fault × Terminal × Record, y.1 = none →
            Tape.runner.Makes (Pure.pure (some y)) fun x new => Unrouted (q ++ new) ∧
              ∀ y, x = some y → ∀ f, y.1 = some f →
                f.isa .abandoned ∧ Stopped (q ++ new) :=
          fun y h0 => Makes.pure ⟨by simpa using hq', fun y' hy => by
            cases hy
            exact fun f hf => by rw [h0] at hf; cases hf⟩
        apply Makes.ite
        · intro _
          exact hquiet _ rfl
        · intro _
          cases last with
          | filtered => exact hquiet _ rfl
          | failed f => exact hquiet _ rfl
          | output v =>
            refine (makes_runStages fuel rest (i + 1) _ _ _).mono fun x new h => ?_
            obtain ⟨hu, hab⟩ := h
            exact ⟨hq'.append hu, fun y hy f hf =>
              ⟨(hab y hy f hf).1, (hab y hy f hf).2.append_right q⟩⟩

/-! ### How handling ends -/

/-- The five ways handling a message can end, each with what the sink and the dead-letter writer
answered: delivered after the last delivery succeeded with no dead letter written; dead-lettered
after the last write succeeded and no delivery did; filtered with neither called; abandoned,
for a reason; or failed to dead-letter, holding `abandoned` only when a write answered a fault
that holds it. -/
inductive Ending : Option Outcome → Option Fault → List Call → Prop
  | delivered {calls : List Call} :
    (calls.filterMap Call.delivered?).getLast? = some none →
    calls.filterMap Call.written? = [] → Ending (some .delivered) none calls
  | deadLettered {calls : List Call} :
    (calls.filterMap Call.written?).getLast? = some none →
    none ∉ calls.filterMap Call.delivered? → Ending (some .deadLettered) none calls
  | filtered {calls : List Call} :
    calls.filterMap Call.delivered? = [] → calls.filterMap Call.written? = [] →
    Ending (some .filtered) none calls
  | abandoned {calls : List Call} {f : Fault} : f.isa .abandoned → Stopped calls →
    none ∉ calls.filterMap Call.delivered? → none ∉ calls.filterMap Call.written? →
    Ending none (some f) calls
  | deadLetterFailed {calls : List Call} {f : Fault} : f.isa .deadLetterFailed →
    (f.isa .abandoned → ∃ g, some g ∈ calls.filterMap Call.written? ∧ g.isa .abandoned) →
    none ∉ calls.filterMap Call.delivered? → none ∉ calls.filterMap Call.written? →
    Ending none (some f) calls

/-- How the dead-letter write of a message ended. -/
inductive Lettered : Option Outcome → Option Fault → List Call → Prop
  | written {calls : List Call} : (calls.filterMap Call.written?).getLast? = some none →
    Lettered (some .deadLettered) none calls
  | abandoned {calls : List Call} {f : Fault} : f.isa .abandoned → Stopped calls →
    none ∉ calls.filterMap Call.written? → Lettered none (some f) calls
  | failed {calls : List Call} {f : Fault} : f.isa .deadLetterFailed →
    (f.isa .abandoned → ∃ g, some g ∈ calls.filterMap Call.written? ∧ g.isa .abandoned) →
    none ∉ calls.filterMap Call.written? → Lettered none (some f) calls

/-- Handling ends with the dead-letter write, after deliveries that all failed. -/
theorem Lettered.ending {o : Option Outcome} {e : Option Fault} {pre calls : List Call}
    (hpre : none ∉ pre.filterMap Call.delivered?) (hpre' : pre.filterMap Call.written? = [])
    (hcalls : calls.filterMap Call.delivered? = []) (h : Lettered o e calls) :
    Ending o e (pre ++ calls) := by
  cases h with
  | written hw => exact .deadLettered (by simpa [hpre'] using hw) (by simpa [hcalls] using hpre)
  | abandoned ha hs hw =>
    exact .abandoned ha (hs.append_right pre) (by simpa [hcalls] using hpre)
      (by simpa [hpre'] using hw)
  | failed hd ha hw =>
    exact .deadLetterFailed hd (by simpa [hpre'] using ha) (by simpa [hcalls] using hpre)
      (by simpa [hpre'] using hw)

/-- Calls around an ending that neither deliver nor write leave it as it was. -/
theorem Ending.widen {o : Option Outcome} {e : Option Fault} {pre calls post : List Call}
    (hpre : Silent pre) (hpost : Silent post) (h : Ending o e calls) :
    Ending o e (pre ++ calls ++ post) := by
  obtain ⟨hd, hw⟩ := hpre
  obtain ⟨hd', hw'⟩ := hpost
  cases h with
  | delivered h1 h2 => exact .delivered (by simpa [hd, hd'] using h1) (by simpa [hw, hw'] using h2)
  | deadLettered h1 h2 =>
    exact .deadLettered (by simpa [hw, hw'] using h1) (by simpa [hd, hd'] using h2)
  | filtered h1 h2 => exact .filtered (by simpa [hd, hd'] using h1) (by simpa [hw, hw'] using h2)
  | abandoned ha hs h1 h2 =>
    exact .abandoned ha ((hs.append_right pre).append_left post) (by simpa [hd, hd'] using h1)
      (by simpa [hw, hw'] using h2)
  | deadLetterFailed hf ha h1 h2 =>
    exact .deadLetterFailed hf (by simpa [hw, hw'] using ha) (by simpa [hd, hd'] using h1)
      (by simpa [hw, hw'] using h2)

/-- A message given up with a fault that holds `abandoned` was given up for a reason. -/
theorem Ending.stopped {o : Option Outcome} {e : Option Fault} {calls : List Call}
    (h : Ending o e calls) (f : Fault) (hf : e = some f) (ha : f.isa .abandoned) :
    Stopped calls := by
  cases h with
  | delivered => cases hf
  | deadLettered => cases hf
  | filtered => cases hf
  | abandoned _ hs => exact hs
  | deadLetterFailed _ hw =>
    cases hf
    obtain ⟨g, hg, hga⟩ := hw ha
    obtain ⟨c, hc, hcg⟩ := List.mem_filterMap.1 hg
    refine .inr ⟨c, hc, g, ?_, .inr hga⟩
    cases c <;> simp_all

theorem quiet_of_deliveries {calls : List Call} (h : calls.all (Call.ofEngine Call.delivered?)) :
    calls.filterMap Call.written? = [] ∧ calls.filterMap Call.observed? = [] :=
  ⟨filterMap_eq_nil_of_engine h Call.written?_quiet fun c _ => by cases c <;> simp_all,
    filterMap_eq_nil_of_engine h Call.observed?_quiet fun c _ => by cases c <;> simp_all⟩

theorem quiet_of_writes {calls : List Call} (h : calls.all (Call.ofEngine Call.written?)) :
    calls.filterMap Call.delivered? = [] ∧ calls.filterMap Call.observed? = [] :=
  ⟨filterMap_eq_nil_of_engine h Call.delivered?_quiet fun c _ => by cases c <;> simp_all,
    filterMap_eq_nil_of_engine h Call.observed?_quiet fun c _ => by cases c <;> simp_all⟩

theorem delivered?_fault (call : Call) (g : Fault) (h : call.delivered? = some (some g))
    (_ : g.isa .interrupted) : call.fault? = some g := by
  cases call <;> simp_all

theorem written?_fault (call : Call) (g : Fault) (h : call.written? = some (some g))
    (_ : g.isa .interrupted) : call.fault? = some g := by
  cases call <;> simp_all

/-! ### Routing and handling -/

/-- **Routing** a message that ends ends it one of the five ways, with no observation: a
filtered message is neither delivered nor written; otherwise the sink is tried first when the
stages gave no fault, and the dead-letter writer after it when the sink never took the message. -/
theorem makes_route (fuel : Nat) (msg : Record) (t : Terminal) :
    Tape.runner.Makes (route Tape.services fuel msg t) fun x new =>
      ∀ y, x = some y → new.filterMap Call.observed? = [] ∧ Ending y.1 y.2 new := by
  unfold route
  apply Makes.ite
  · intro _
    refine Makes.bind (Makes.lift (Tape.makes_log _)) fun _ q hq => Makes.pure fun y hy => ?_
    cases hy
    subst hq
    exact ⟨by simp [Call.observed?],
      .filtered (by simp [Call.delivered?]) (by simp [Call.written?])⟩
  · intro _
    refine Makes.bind Makes.get fun r q hq => ?_
    subst hq
    lift_lets
    intro policy letter
    -- the dead-letter write, whatever the sink did before it
    have hletter : ∀ t', Tape.runner.Makes (letter t') fun x new => ∀ y, x = some y →
        new.filterMap Call.observed? = [] ∧ new.filterMap Call.delivered? = [] ∧
          Lettered y.1 y.2 new := by
      intro t'
      dsimp -zeta only [letter]
      refine Makes.bind (Makes.lift Tape.makes_newId) fun id q1 hq1 => ?_
      refine Makes.bind (Makes.lift Tape.makes_now) fun now q2 hq2 => ?_
      refine Makes.bind (makes_countedRun fuel _ policy deadLetterStage Call.written?_quiet
        (answers_write _)) fun x W hW => ?_
      subst hq1 hq2
      cases x with
      | none => exact Makes.pure fun _ hy => by cases hy
      | some rep =>
        obtain ⟨hWd, hWo⟩ := quiet_of_writes hW.1
        have hW := hW.2 rep rfl
        apply Makes.ite
        · intro hs
          refine Makes.bind (Makes.lift (Tape.makes_log _)) fun _ q5 hq5 =>
            Makes.pure fun y hy => ?_
          cases hy
          subst hq5
          refine ⟨(by simp only [List.filterMap_append, hWo]; rfl),
              (by simp only [List.filterMap_append, hWd]; rfl), .written ?_⟩
          simp only [List.filterMap_append, List.filterMap_cons, List.filterMap_nil, Call.written?,
            List.append_nil]
          exact hW.succeeded (by simpa [Report.succeeded] using hs)
        · intro hs
          obtain ⟨f, hf⟩ := Option.ne_none_iff_exists'.1 (err_of_not_succeeded hs)
          have hnone : none ∉ W.filterMap Call.written? := hW.failed (err_of_not_succeeded hs)
          apply Makes.ite
          · intro hi
            refine Makes.pure fun y hy => ?_
            cases hy
            obtain ⟨f', hf'⟩ : ∃ f', abandonedBy rep.err = some f' :=
              ⟨_, Fault.join_cons_some _ _⟩
            refine ⟨(by simp only [List.filterMap_append, hWo]; rfl),
              (by simp only [List.filterMap_append, hWd]; rfl), ?_⟩
            rw [hf']
            exact .abandoned (isa_abandonedBy hf')
              (by simpa using
                (hW.stopped written?_fault hi).append_right [Call.newId id, Call.now now])
              (by simpa using hnone)
          · intro hi
            refine Makes.pure fun y hy => ?_
            cases hy
            refine ⟨(by simp only [List.filterMap_append, hWo]; rfl),
              (by simp only [List.filterMap_append, hWd]; rfl), ?_⟩
            rw [hf, Option.map_some]
            refine .failed (by simp) (fun ha => ?_) (by simpa using hnone)
            obtain ⟨g, hg, hga⟩ := hW.blame hf hi (by simpa using ha) (by decide)
            exact ⟨g, by simpa using hg, hga⟩
    apply Makes.ite
    · intro _
      -- delivery to the sink first; a message it never takes goes to the dead-letter writer
      refine Makes.bind (makes_countedRun fuel _ policy sinkStage Call.delivered?_quiet
        (answers_deliver _)) fun x S hS => ?_
      cases x with
      | none => exact Makes.pure fun _ hy => by cases hy
      | some rep =>
        obtain ⟨hSw, hSo⟩ := quiet_of_deliveries hS.1
        have hS := hS.2 rep rfl
        apply Makes.ite
        · intro hs
          refine Makes.pure fun y hy => ?_
          cases hy
          refine ⟨by simpa using hSo, .delivered ?_ (by simpa using hSw)⟩
          simpa using hS.succeeded (by simpa [Report.succeeded] using hs)
        · intro hs
          have hnone := hS.failed (err_of_not_succeeded hs)
          apply Makes.ite
          · intro hi
            refine Makes.pure fun y hy => ?_
            cases hy
            obtain ⟨f', hf'⟩ : ∃ f', abandonedBy rep.err = some f' :=
              ⟨_, Fault.join_cons_some _ _⟩
            refine ⟨by simpa using hSo, ?_⟩
            rw [hf']
            exact .abandoned (isa_abandonedBy hf') (by simpa using hS.stopped delivered?_fault hi)
              (by simpa using hnone) (by simp [hSw])
          · intro _
            refine Makes.bind (Makes.ret _) fun t' q3 h3 =>
              (hletter t').mono fun x new hx y hy => ?_
            obtain ⟨hq3, -⟩ := h3
            obtain ⟨ho, hd, hl⟩ := hx y hy
            subst hq3
            exact ⟨by simpa [hSo] using ho, by simpa using hl.ending hnone hSw hd⟩
    · intro _
      refine Makes.bind (Makes.ret _) fun t' q3 h3 => (hletter t').mono fun x new hx y hy => ?_
      obtain ⟨hq3, -⟩ := h3
      obtain ⟨ho, hd, hl⟩ := hx y hy
      subst hq3
      have hpre : none ∉ ([] : List Call).filterMap Call.delivered? := by simp
      exact ⟨by simpa using ho, by simpa using hl.ending hpre rfl hd⟩

/-- A runner with a sink and a dead-letter writer is ready: preparing it answers no fault and
makes no call. -/
theorem prepare_ready {s : Tape.runner.State} (hsink : s.1.sink.isSome = true)
    (hdl : s.1.deadLetter = true) :
    ∃ r', Tape.runner.exec (prepare : StateT Runner (StateM Tape) (Option Fault)) s =
      (none, (r', s.2)) := by
  obtain ⟨r, w⟩ := s
  dsimp only at hsink hdl
  unfold prepare
  by_cases hr : r.router.isSome = true
  · exact ⟨r, by simp [Tape.runner, Recording.lift, Tape.recording, hr]; exact ⟨rfl, rfl⟩⟩
  · refine ⟨{ r with
        breakers := ((r.breakers.get sinkStage).2.get deadLetterStage).2
        router := some ({}, {}) }, ?_⟩
    obtain ⟨name, hname⟩ := Option.isSome_iff_exists.1 hsink
    simp [Tape.runner, Recording.lift, Tape.recording, hr, hname, hdl]
    exact ⟨rfl, rfl⟩

/-- Handling a message ended one way, and the observers heard that ending once. -/
def Handled (res : Option Fault) (calls : List Call) : Prop :=
  ∃ outcome, Ending outcome res calls ∧ calls.filterMap Call.observed? = [(outcome, res)]

/-- **Handling a message** from a state whose runner has a sink and a dead-letter writer: the
stages, then routing, then one observation. -/
theorem makes_handle (fuel : Nat) (msg : Record) (s : Tape.runner.State)
    (hsink : s.1.sink.isSome = true) (hdl : s.1.deadLetter = true) :
    ∃ new, (Tape.runner.exec (handle Tape.services fuel msg) s).2.2.calls = s.2.calls ++ new ∧
      ∀ y, (Tape.runner.exec (handle Tape.services fuel msg) s).1 = some y →
        Handled y.1 new := by
  obtain ⟨r', hr'⟩ := prepare_ready hsink hdl
  unfold handle
  rw [Tape.runner.exec_bind, hr']
  refine (?_ : Tape.runner.Makes _ fun (x : Option (Option Fault × Record)) new =>
    ∀ y, x = some y → Handled y.1 new) ((r', s.2) : Runner × Tape)
  refine Makes.bind (Makes.lift Tape.makes_now) fun start q1 hq1 => ?_
  refine Makes.bind Makes.get fun r q2 hq2 => ?_
  refine Makes.bind (makes_runStages fuel _ 0 msg msg []) fun x S hS => ?_
  subst hq1 hq2
  cases x with
  | none => exact Makes.pure fun _ hy => by cases hy
  | some z =>
    obtain ⟨ab, t, orig⟩ := z
    obtain ⟨⟨⟨hSd, hSw⟩, hSo⟩, hab⟩ := hS
    replace hab := hab _ rfl
    cases ab with
    | some f =>
      refine Makes.bind (Makes.lift Tape.makes_now) fun stop q3 hq3 => ?_
      refine Makes.bind (Makes.lift (Tape.makes_observe _ _ _ _)) fun _ q4 hq4 =>
        Makes.pure fun y hy => ?_
      cases hy
      subst hq3 hq4
      obtain ⟨hfa, hstop⟩ := hab f rfl
      refine ⟨none, ?_, by simp [List.filterMap_cons, List.filterMap_append, hSo]⟩
      have hpre : Silent [Call.now start] := ⟨rfl, rfl⟩
      have hpost :
          Silent [Call.now stop, Call.observe orig none (some f) (Word.clamp (stop - start))] :=
        ⟨rfl, rfl⟩
      simpa using (Ending.abandoned hfa hstop (by simp [hSd]) (by simp [hSw])).widen hpre hpost
    | none =>
      refine Makes.bind (makes_route fuel orig _) fun x R hR => ?_
      cases x with
      | none => exact Makes.pure fun _ hy => by cases hy
      | some w =>
        obtain ⟨outcome, err⟩ := w
        obtain ⟨hRo, hRe⟩ := hR _ rfl
        refine Makes.bind (Makes.lift Tape.makes_now) fun stop q3 hq3 => ?_
        refine Makes.bind (Makes.lift (Tape.makes_observe _ _ _ _)) fun _ q4 hq4 =>
          Makes.pure fun y hy => ?_
        cases hy
        subst hq3 hq4
        refine ⟨outcome, ?_, by simp [List.filterMap_cons, List.filterMap_append, hSo, hRo]⟩
        have hpre : Silent ([Call.now start] ++ S) :=
          ⟨by simp [List.filterMap_cons, hSd], by simp [List.filterMap_cons, hSw]⟩
        have hpost :
            Silent [Call.now stop, Call.observe orig outcome err (Word.clamp (stop - start))] :=
          ⟨by simp, by simp⟩
        simpa using hRe.widen hpre hpost

/-- **Every message ends one way.** Handling a message with a runner that has a sink and a
dead-letter writer, in any world and for any number of turns of its engines: if it ends, the
observers heard one outcome, and the handling ended

* delivered, when the sink's last delivery succeeded and no dead letter was written;
* dead-lettered, when the last dead-letter write succeeded and no delivery did;
* filtered, when neither the sink nor the writer was called;
* abandoned, with a fault that holds `abandoned`, when no delivery or write succeeded;
* or with a fault that holds `deadLetterFailed`, when no delivery or write succeeded; this
  fault holds `abandoned` too only when a dead-letter write answered a fault that does.

And a fault that holds `abandoned` comes only after shutdown answered a check or cut a wait
short, or after a processor, the sink or the writer answered a fault that holds `interrupted` or
`abandoned`. -/
theorem handle_single_ending (fuel : Nat) (script : Script) (r : Runner) (msg : Record)
    (hsink : r.sink.isSome = true) (hdl : r.deadLetter = true) :
    let run := ((handle Tape.services fuel msg).run r).run { script, calls := [] }
    ∀ y, run.1.1 = some y → Handled y.1 run.2.calls ∧
      ∀ f, y.1 = some f → f.isa .abandoned → Stopped run.2.calls := by
  intro run y hy
  obtain ⟨new, hcalls, hend⟩ :=
    makes_handle fuel msg ((r, { script, calls := [] }) : Runner × Tape) hsink hdl
  have hexec : Tape.runner.exec (handle Tape.services fuel msg)
      ((r, { script, calls := [] }) : Runner × Tape) = (run.1.1, (run.1.2, run.2)) := rfl
  rw [hexec] at hcalls hend
  have hrun : run.2.calls = new := by simpa using hcalls
  rw [hrun]
  have hh := hend y hy
  refine ⟨hh, fun f hf ha => ?_⟩
  obtain ⟨o, he, -⟩ := hh
  exact he.stopped f hf ha

/-- A runner with a sink and a dead-letter writer, over a world whose processors pass every
record on and whose sink takes it, handles a message within one turn of each engine. -/
theorem handle_single_ending_ready :
    let r : Runner := { Runner.create ⟨{}, {}, 1, 1⟩ with sink := some "out", deadLetter := true }
    let script : Script := ⟨fun _ => 0, fun _ => none, fun _ => none, fun _ => 0,
      fun _ => ("", .output none), fun _ => none, fun _ => none, fun _ => "id"⟩
    let msg : Record := { topic := "in", partition := 0, offset := 0 }
    let run := ((handle Tape.services 1 msg).run r).run { script, calls := [] }
    (r.sink.isSome = true ∧ r.deadLetter = true) ∧ ∃ y, run.1.1 = some y ∧
      Handled y.1 run.2.calls ∧ ∀ f, y.1 = some f → f.isa .abandoned → Stopped run.2.calls :=
  ⟨⟨rfl, rfl⟩, _, rfl, handle_single_ending 1 _ _ _ rfl rfl _ rfl⟩

end Conveyor.Pipeline
