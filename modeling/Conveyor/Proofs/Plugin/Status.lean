import Conveyor.Processor.Plugin
/-!
# A failure's class across the plugin wire

A processor served as a plugin answers a failure with a remote status (`Plugin.statusOf`): a
fault that holds a status keeps the code of the first one, a passed deadline becomes
`DeadlineExceeded`, a failure not to be retried `InvalidArgument`, and anything else
`Unavailable`. The caller gets back a bare status with that code and the failure's text, and
classifies it by the code alone.

The serving side tests the failure's cases in another order than the classifier does: it asks
for a held status first and for a passed deadline before the failure's own verdict, while the
classifier asks for a carried verdict first. So the class survives the wire for a failure that
holds no status and is retried anyway when it holds a passed deadline
(`class_survives_wire`), and in general the caller's class is the one the first status's code
gives, or the failure's own class raised to "retry" by a passed deadline (`class_across_wire`).
A permanent failure around a passed deadline comes back retriable
(`permanent_deadline_crosses_retriable`), and a retriable failure around an `InvalidArgument`
status comes back permanent (`retriable_status_crosses_permanent`).
-/

namespace Conveyor

/-- A bare remote status is classified by its code alone. -/
@[simp] theorem Fault.classify_status (c : StatusCode) (d : String) :
    (Fault.status c d).classify = !c.isRequestFault := by
  simp [Fault.classify, Fault.isa, Fault.nodes, Fault.nodeIsa, Fault.verdict?, Fault.nodeVerdict?,
    Fault.timeout?, Fault.nodeTimeout?, Fault.status?, Fault.nodeStatus?]

namespace Plugin

/-- The code a failure is sent with: the first status it holds, else the three cases of the
serving side in their order. -/
theorem statusOf_code (f : Fault) : (statusOf f).1 =
    match f.status? with
    | some c => c
    | none => if f.isa .deadlineExceeded then .deadlineExceeded
      else if f.isPermanent then .invalidArgument else .unavailable := by
  unfold statusOf
  split
  · simp [Fault.status?, Fault.nodes, Fault.nodeStatus?]
  · cases f.status? with
    | some c => rfl
    | none => simp only [apply_ite Prod.fst]

/-- What the caller gets for a failure that is no filtered message: a bare status. -/
theorem outcomeOf_failure (m : Record) (route : String) {f : Fault} (hf : f.isa .filtered = false) :
    outcomeOf m (replyOf route (.error f)) = (m.route, .error (.status (statusOf f).1 (statusOf f).2)) := by
  simp [replyOf, outcomeOf, hf]

/-- The class of the status a failure is sent as. -/
theorem classify_sent (f : Fault) :
    (Fault.status (statusOf f).1 (statusOf f).2).classify =
      match f.status? with
      | some c => !c.isRequestFault
      | none => f.classify || f.isa .deadlineExceeded := by
  rw [Fault.classify_status, statusOf_code]
  cases f.status? with
  | some c => rfl
  | none =>
    -- the serving side's three cases: a passed deadline, a permanent failure, the rest
    by_cases hd : f.isa .deadlineExceeded
    · simp [hd, StatusCode.isRequestFault]
    · by_cases hp : f.isPermanent
      · have hc : f.classify = false := by simpa [Fault.isPermanent] using hp
        simp [hd, hp, hc, StatusCode.isRequestFault]
      · have hc : f.classify = true := by simpa [Fault.isPermanent] using hp
        simp [hd, hp, hc, StatusCode.isRequestFault]

/-- **A failure's class across the wire.** For a processor failure that is no filtered message,
the caller gets a bare status; its class is the one the code of the failure's first status
gives, and for a failure that holds no status, the failure's own class, except that a passed
deadline is always retried. -/
theorem class_across_wire (m : Record) (route : String) (f : Fault) (hf : f.isa .filtered = false) :
    ∃ code message, outcomeOf m (replyOf route (.error f)) = (m.route, .error (.status code message)) ∧
      (Fault.status code message).classify =
        match f.status? with
        | some c => !c.isRequestFault
        | none => f.classify || f.isa .deadlineExceeded :=
  ⟨_, _, outcomeOf_failure m route hf, classify_sent f⟩

/-- The permanent failure around a passed deadline, sent by a processor that picked no route. -/
theorem class_across_wire_permanent_deadline :
    let f := Fault.permanent (some (.sentinel .deadlineExceeded))
    f.isa .filtered = false ∧
      ∃ code message, outcomeOf { topic := "orders", partition := 3, offset := 42 } (replyOf "" (.error f)) =
          ("", .error (.status code message)) ∧
        (Fault.status code message).classify = (match f.status? with
          | some c => !c.isRequestFault
          | none => f.classify || f.isa .deadlineExceeded) :=
  ⟨by decide, class_across_wire _ _ _ (by decide)⟩

/-- The class survives the wire for a failure that holds no status and that is retried when it
holds a passed deadline. -/
theorem class_survives_wire {f : Fault} (hs : f.status? = none)
    (hd : f.isa .deadlineExceeded = true → f.classify = true) :
    (Fault.status (statusOf f).1 (statusOf f).2).classify = f.classify := by
  rw [classify_sent, hs]
  by_cases h : f.isa .deadlineExceeded
  · simp [h, hd h]
  · simp [h]

/-- A permanent failure around a passed deadline is sent as `DeadlineExceeded` and comes back
retriable. -/
theorem permanent_deadline_crosses_retriable :
    let f := Fault.permanent (some (.sentinel .deadlineExceeded))
    f.classify = false ∧ (statusOf f).1 = .deadlineExceeded ∧
      (Fault.status (statusOf f).1 (statusOf f).2).classify = true := by
  decide

/-- A retriable failure around an `InvalidArgument` status keeps that code and comes back
permanent. -/
theorem retriable_status_crosses_permanent :
    let f := Fault.transient (some (.status .invalidArgument "bad"))
    f.classify = true ∧ (statusOf f).1 = .invalidArgument ∧
      (Fault.status (statusOf f).1 (statusOf f).2).classify = false := by
  decide

end Plugin

end Conveyor
