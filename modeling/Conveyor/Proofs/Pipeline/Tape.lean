import Conveyor.Pipeline.Runner
import Conveyor.Proofs.Retry.Turn
/-!
# A taped world for the runner

To say what handling a message does to the world, the runner is run over a world that answers
every call from a script and keeps a tape of the calls made of it, each with the answer it got.
The script is arbitrary: the call at position `k` of the tape gets the answer that the script
gives its kind at `k`, so every behaviour of the clock, the shutdown signal, the sleeper, the
processors, the sink and the dead-letter writer is one script.

The runner's programs live in stacks of state monads over this world. A `Recording` reads such
a monad as state transformers whose states hold the tape (a `Reading`, as the retry engine's
turns are read), and `Recording.Makes x Q` says that
`x`, run from any state, only appends calls to the tape and returns a value that `Q` accepts
together with the calls it appended. Specs of this kind compose along `bind` (`Makes.bind`),
so each function of the runner gets one, and callers cite it.
-/

namespace Conveyor.Pipeline

/-- One call the runner made of its world, with the answer it got. -/
inductive Call where
  | now (t : Int)
  | shutdown (answer : Option Fault)
  | sleep (wait : Int) (answer : Option Fault)
  | draw (r : Float)
  | log (e : Log.Entry)
  | process (stage : Nat) (r : Record) (route : String) (produced : Produced)
  | deliver (e : Envelope) (answer : Option Fault)
  | write (d : DeadLetter) (answer : Option Fault)
  | newId (id : String)
  | observe (r : Record) (outcome : Option Outcome) (err : Option Fault) (ns : Int)

/-- The fault an attempt of the stage `name` reports for what its processor produced: none for
an output or a filtered message, the failure otherwise, and a permanent failure for a panic. -/
def Produced.fault (name : String) : Produced → Option Fault
  | .output _ => none
  | .failure f => if f.isa .filtered then none else some f
  | .panicked what => some (.permanent (some (.text ("stage " ++ name ++ " panicked: " ++ what))))

namespace Call

/-! ### Views of a call -/

/-- The answer of a delivery. -/
@[simp] def delivered? : Call → Option (Option Fault)
  | .deliver _ a => some a
  | _ => none

/-- The answer of a dead-letter write. -/
@[simp] def written? : Call → Option (Option Fault)
  | .write _ a => some a
  | _ => none

/-- What an attempt of the stage `name` reads off a processor call. -/
@[simp] def processed? (name : String) : Call → Option (Option Fault)
  | .process _ _ _ p => some (p.fault name)
  | _ => none

/-- The outcome and the fault the observers heard. -/
@[simp] def observed? : Call → Option (Option Outcome × Option Fault)
  | .observe _ o f _ => some (o, f)
  | _ => none

/-- The fault a processor, the sink or the dead-letter writer answered. -/
@[simp] def fault? : Call → Option Fault
  | .process _ _ _ (.failure f) => some f
  | .deliver _ a | .write _ a => a
  | _ => none

/-- Calls whose answers decide nothing about an outcome: the clock, random draws, log records
and fresh ids. -/
def housekeeping : Call → Bool
  | .now _ | .draw _ | .log _ | .newId _ => true
  | _ => false

def isShutdown : Call → Bool
  | .shutdown _ => true
  | _ => false

def isSleep : Call → Bool
  | .sleep _ _ => true
  | _ => false

/-- A check that found shutdown begun, or a wait that shutdown cut short. -/
def stops : Call → Bool
  | .shutdown (some _) | .sleep _ (some _) => true
  | _ => false

/-- Calls a run of the retry engine makes: housekeeping, shutdown checks, waits, and the calls
that answer its attempts, which `ans` reads. -/
def ofEngine (ans : Call → Option (Option Fault)) (c : Call) : Bool :=
  c.housekeeping || c.isShutdown || c.isSleep || (ans c).isSome

end Call

/-! ### Recordings and specs -/

/-- A monad read as state transformers whose states keep a tape of calls. -/
structure Recording (n : Type → Type) [Monad n] extends Retry.Reading n where
  calls : State → List Call

namespace Recording

variable {n : Type → Type} [Monad n] (R : Recording n)

/-- The recording of a monad with one more state on top. -/
def lift (ρ : Type) : Recording (StateT ρ n) where
  State := ρ × R.State
  exec x p := ((R.exec (x.run p.1) p.2).1.1, ((R.exec (x.run p.1) p.2).1.2, (R.exec (x.run p.1) p.2).2))
  calls p := R.calls p.2
  exec_pure a p := by simp [R.exec_pure]
  exec_bind x f p := by simp [R.exec_bind]

/-- `x`, run from any state, appends calls to the tape and returns a value that `Q` accepts
with the calls it appended. -/
def Makes {α : Type} (x : n α) (Q : α → List Call → Prop) : Prop :=
  ∀ s, ∃ new, R.calls (R.exec x s).2 = R.calls s ++ new ∧ Q (R.exec x s).1 new

variable {R}

@[simp] theorem exec_lift {ρ α : Type} (x : n α) (p : ρ × R.State) :
    (R.lift ρ).exec (StateT.lift x) p = ((R.exec x p.2).1, (p.1, (R.exec x p.2).2)) := by
  simp [Recording.lift, StateT.run_lift, R.exec_bind, R.exec_pure]

theorem Makes.pure {α : Type} {a : α} {Q : α → List Call → Prop} (h : Q a []) :
    R.Makes (Pure.pure a) Q :=
  fun s => ⟨[], by simp [R.exec_pure, h]⟩

theorem Makes.ret {α : Type} (a : α) : R.Makes (Pure.pure a) fun b new => new = [] ∧ b = a :=
  Makes.pure ⟨rfl, rfl⟩

/-- **Sequencing.** The calls of `x >>= f` are those of `x` followed by those of `f`. -/
theorem Makes.bind {α β : Type} {x : n α} {f : α → n β} {P : α → List Call → Prop}
    {Q : β → List Call → Prop} (hx : R.Makes x P)
    (hf : ∀ a new, P a new → R.Makes (f a) fun b new' => Q b (new ++ new')) :
    R.Makes (x >>= f) Q := by
  intro s
  obtain ⟨new, hc, hp⟩ := hx s
  obtain ⟨new', hc', hq⟩ := hf _ _ hp (R.exec x s).2
  refine ⟨new ++ new', ?_, ?_⟩
  · rw [R.exec_bind, hc', hc, List.append_assoc]
  · rw [R.exec_bind]
    exact hq

theorem Makes.mono {α : Type} {x : n α} {P Q : α → List Call → Prop} (h : R.Makes x P)
    (hpq : ∀ a new, P a new → Q a new) : R.Makes x Q := fun s =>
  let ⟨new, hc, hp⟩ := h s
  ⟨new, hc, hpq _ _ hp⟩

theorem Makes.ite {α : Type} {c : Prop} [Decidable c] {x y : n α} {Q : α → List Call → Prop}
    (hx : c → R.Makes x Q) (hy : ¬ c → R.Makes y Q) : R.Makes (if c then x else y) Q := by
  by_cases h : c
  · rw [if_pos h]
    exact hx h
  · rw [if_neg h]
    exact hy h

/-- A program of the monad below makes the same calls with a state on top. -/
theorem Makes.lift {ρ α : Type} {x : n α} {Q : α → List Call → Prop} (h : R.Makes x Q) :
    (R.lift ρ).Makes (monadLift x) Q := by
  intro p
  have he : (R.lift ρ).exec (monadLift x) p = ((R.exec x p.2).1, (p.1, (R.exec x p.2).2)) :=
    exec_lift x p
  rw [he]
  exact h p.2

theorem Makes.get {ρ : Type} : (R.lift ρ).Makes (get : StateT ρ n ρ) fun _ new => new = [] := by
  intro p
  refine ⟨[], ?_, rfl⟩
  simp [Recording.lift, StateT.run_get, R.exec_pure]

theorem Makes.set {ρ : Type} (r : ρ) :
    (R.lift ρ).Makes (set r : StateT ρ n PUnit) fun _ new => new = [] := by
  intro p
  refine ⟨[], ?_, rfl⟩
  simp [Recording.lift, StateT.run_set, R.exec_pure]

theorem Makes.modify {ρ : Type} (f : ρ → ρ) :
    (R.lift ρ).Makes (modify f : StateT ρ n PUnit) fun _ new => new = [] := by
  intro p
  refine ⟨[], ?_, rfl⟩
  simp [Recording.lift, StateT.run_modify, R.exec_pure]

/-- Running the state on top from a fixed value makes the same calls. -/
theorem Makes.run {ρ α : Type} {x : StateT ρ n α} {Q : α → List Call → Prop}
    (h : (R.lift ρ).Makes x Q) (r : ρ) : R.Makes (x.run r) fun p new => Q p.1 new :=
  fun s => h (r, s)

end Recording

/-! ### The taped world -/

/-- What the world answers a runner, call by call: the call made at position `k` of the tape
gets the answer its kind has at `k`. -/
structure Script where
  now : Nat → Int
  shutdown : Nat → Option Fault
  sleep : Nat → Option Fault
  draw : Nat → Float
  process : Nat → String × Produced
  deliver : Nat → Option Fault
  write : Nat → Option Fault
  newId : Nat → String

/-- A world that answers from a script and keeps every call made of it, in order. -/
structure Tape where
  script : Script
  calls : List Call

namespace Tape

/-- Makes a call that the script answers. -/
def answer {α : Type} (f : Script → Nat → α) (call : α → Call) : StateM Tape α :=
  modifyGet fun w =>
    (f w.script w.calls.length, { w with calls := w.calls ++ [call (f w.script w.calls.length)] })

/-- Makes a call that has no answer. -/
def tell (call : Call) : StateM Tape Unit :=
  modify fun w => { w with calls := w.calls ++ [call] }

/-- The runner's services over a taped world. -/
def services : Services (StateM Tape) where
  now := answer Script.now .now
  shutdown := answer Script.shutdown .shutdown
  sleep d := answer Script.sleep (.sleep d)
  draw := answer Script.draw .draw
  log e := tell (.log e)
  process i r := answer Script.process fun a => .process i r a.1 a.2
  deliver e := answer Script.deliver (.deliver e)
  writeDeadLetter d := answer Script.write (.write d)
  newId := answer Script.newId .newId
  observe r o f ns := tell (.observe r o f ns)

/-- The taped world read as a recording. -/
def recording : Recording (StateM Tape) where
  State := Tape
  exec x w := x.run w
  calls w := w.calls
  exec_pure _ _ := rfl
  exec_bind _ _ _ := rfl

/-- The runner over a taped world. -/
def runner : Recording (StateT Runner (StateM Tape)) := recording.lift Runner

/-- A stage of the runner over a taped world, holding the record and the last step's result. -/
def stage : Recording (StateT (Record × StepResult) (StateT Runner (StateM Tape))) :=
  runner.lift (Record × StepResult)

theorem makes_answer {α : Type} (f : Script → Nat → α) (call : α → Call) :
    recording.Makes (answer f call) fun a new => new = [call a] :=
  fun _ => ⟨_, rfl, rfl⟩

theorem makes_tell (call : Call) : recording.Makes (tell call) fun _ new => new = [call] :=
  fun _ => ⟨_, rfl, rfl⟩

theorem makes_now : recording.Makes services.now fun t new => new = [.now t] :=
  makes_answer _ _

theorem makes_shutdown : recording.Makes services.shutdown fun a new => new = [.shutdown a] :=
  makes_answer _ _

theorem makes_sleep (d : Int) :
    recording.Makes (services.sleep d) fun a new => new = [.sleep d a] :=
  makes_answer _ _

theorem makes_draw : recording.Makes services.draw fun r new => new = [.draw r] :=
  makes_answer _ _

theorem makes_log (e : Log.Entry) : recording.Makes (services.log e) fun _ new => new = [.log e] :=
  makes_tell _

theorem makes_process (i : Nat) (r : Record) :
    recording.Makes (services.process i r) fun a new => new = [.process i r a.1 a.2] :=
  makes_answer _ _

theorem makes_deliver (e : Envelope) :
    recording.Makes (services.deliver e) fun a new => new = [.deliver e a] :=
  makes_answer _ _

theorem makes_write (d : DeadLetter) :
    recording.Makes (services.writeDeadLetter d) fun a new => new = [.write d a] :=
  makes_answer _ _

theorem makes_newId : recording.Makes services.newId fun a new => new = [.newId a] :=
  makes_answer _ _

theorem makes_observe (r : Record) (o : Option Outcome) (f : Option Fault) (ns : Int) :
    recording.Makes (services.observe r o f ns) fun _ new => new = [.observe r o f ns] :=
  makes_tell _

end Tape

end Conveyor.Pipeline
