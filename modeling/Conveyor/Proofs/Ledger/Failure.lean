import Conveyor.Proofs.Dispatch.Pool
/-!
# Failed calls do no work, and a halt is for good

A call on a ledger that answers its caller with a fault leaves the ledger's progress as it
was: the committed and last tracked offsets, the number of commits and the number of pending
offsets that its status reports (`answer_keeps_progress`). That holds on every path to a
fault. Tracking is refused by a halt, by shutdown or for an offset out of order; resolving is
refused by a halt, for an offset never tracked or resolved twice, for a commit that would move
back, or because the commit callback failed. The last two have marked the offset resolved
before they refuse, which moves nothing the status reports.

A halt is for good: whatever calls follow, the ledger keeps the first fault it halted with and
its progress (`play_keeps_halt`), and every tracking and resolving answers with that fault and
changes nothing (`answer_of_halted`). `failures_are_sticky` puts the two together.

What a call answers is `Call.answer`: the refusal of a tracking, and for a resolution the fault
of marking the offset or of its commit, as a claim's `resolve` returns it
(`Pool.run_resolve_answer`).
-/

namespace Conveyor

namespace Ledger

/-- **The fault a call answers** its caller with: a refused tracking's fault, and the fault of
a resolution, from marking the offset or from committing what it allows. Halting and
observing the high-water mark answer nothing. -/
def Call.answer : Call → Ledger → Option Fault
  | .track o s, l =>
    match (l.track o s).1 with
    | .refused f => some f
    | _ => none
  | .resolve o a, l =>
    match l.mark o with
    | (_, .error f) => some f
    | (_, .ok none) => none
    | (l', .ok (some next)) => (l'.settle next a).2
  | .halt _, _ => none
  | .observeHighWater _, _ => none

/-- The progress a ledger's status reports: the committed and last tracked offsets, the
commits made and the number of pending offsets. -/
def progress (l : Ledger) : Int × Int × Nat × Nat :=
  (l.status.committed, l.status.lastTracked, l.status.commits, l.status.pending)

/-! ### What keeps the progress -/

@[simp] theorem progress_halted (l : Ledger) (f : Fault) : (l.halted f).progress = l.progress := by
  unfold halted
  split <;> rfl

@[simp] theorem progress_markResolved (l : Ledger) (o : Int) :
    (l.markResolved o).progress = l.progress := by
  simp [progress, status, markResolved]

@[simp] theorem progress_observeHighWater (l : Ledger) (hw : Int) :
    (l.observeHighWater hw).progress = l.progress := by
  unfold observeHighWater
  split <;> rfl

/-- A halted ledger refuses to mark with the fault it halted with. -/
theorem mark_of_halted {l : Ledger} {e : Fault} (hh : l.halt = some e) (o : Int) :
    l.mark o = (l, .error e) := by
  simp [mark, hh]

/-- **What marking can do.** It refuses and halts the ledger, before marking the offset or
after it; or it marks the offset and names what to commit, if anything. A halted ledger is
the first case, since halting it again changes nothing. -/
theorem mark_cases (l : Ledger) (o : Int) :
    (∃ f, l.mark o = (l.halted f, .error f)) ∨
    (∃ f, l.mark o = ((l.markResolved o).halted f, .error f)) ∨
    ∃ r, l.mark o = (l.markResolved o, .ok r) := by
  rcases hh : l.halt with _ | e
  · rcases hfind : l.index.lookup o with _ | ⟨k, _ | _⟩
    · exact .inl ⟨_, by simp [mark, hh, hfind]; exact ⟨rfl, rfl⟩⟩
    · rcases hc : (l.markResolved o).commitCandidate? with _ | next
      · exact .inr (.inr ⟨none, by simp [mark, hh, hfind, hc]⟩)
      · by_cases hle : next ≤ l.committed
        · exact .inr (.inl ⟨_, by simp [mark, hh, hfind, hc, hle]; exact ⟨rfl, rfl⟩⟩)
        · exact .inr (.inr ⟨some next, by simp [mark, hh, hfind, hc, hle]⟩)
    · exact .inl ⟨_, by simp [mark, hh, hfind]; exact ⟨rfl, rfl⟩⟩
  · refine .inl ⟨e, ?_⟩
    rw [mark_of_halted hh, halted_of_isSome (by simp [hh])]

/-! ### Failed calls -/

/-- **A call that answers with a fault keeps the progress**, on every ledger. -/
theorem answer_keeps_progress (c : Call) (l : Ledger) {f : Fault} (h : c.answer l = some f) :
    (c.apply l).1.progress = l.progress := by
  cases c with
  | track o s =>
    rcases track_cases l o s with ⟨-, -, ht⟩ | ⟨g, ht | ht⟩ | ht
    · simp [Call.answer, ht] at h
    · simp [Call.apply, ht]
    · simp [Call.apply, ht]
    · simp [Call.answer, ht] at h
  | resolve o a =>
    rcases mark_cases l o with ⟨g, hm⟩ | ⟨g, hm⟩ | ⟨_ | next, hm⟩
    · simp [Call.apply, resolve, hm]
    · simp [Call.apply, resolve, hm]
    · simp [Call.answer, hm] at h
    · -- the offset was marked: only a refused commit answers, and it halts the ledger
      cases a with
      | none => simp [Call.answer, hm, settle] at h
      | some e => simp [Call.apply, resolve, hm, settle]
  | halt => simp [Call.answer] at h
  | observeHighWater => simp [Call.answer] at h

/-! ### Halted ledgers -/

/-- A halted ledger answers every tracking and every resolution with its fault, and changes
nothing. -/
theorem answer_of_halted {l : Ledger} {e : Fault} (hh : l.halt = some e) (o : Int)
    (s a : Option Fault) :
    (Call.track o s).answer l = some e ∧ ((Call.track o s).apply l).1 = l ∧
      (Call.resolve o a).answer l = some e ∧ ((Call.resolve o a).apply l).1 = l := by
  have hresolve : (l.resolve o a).1 = l := by rw [resolve_of_halted (by simp [hh])]
  exact ⟨by simp [Call.answer, track_of_halted hh], by simp [Call.apply, track_of_halted hh],
    by simp [Call.answer, mark_of_halted hh], hresolve⟩

/-- Every call keeps a halted ledger's fault and its progress. -/
theorem apply_keeps_halt {l : Ledger} {e : Fault} (hh : l.halt = some e) (c : Call) :
    (c.apply l).1.halt = some e ∧ (c.apply l).1.progress = l.progress := by
  cases c with
  | track o s => simp [(answer_of_halted hh o s none).2.1, hh]
  | resolve o a => simp [(answer_of_halted hh o none a).2.2.2, hh]
  | halt err =>
    -- halting again keeps the first fault
    cases err <;> simp [Call.apply, haltWith, halted_of_isSome (l := l) (by simp [hh]), hh]
  | observeHighWater hw => simp [Call.apply, hh]

/-- **A halt is for good**: whatever calls follow, a halted ledger keeps its fault and its
progress. -/
theorem play_keeps_halt {l : Ledger} {e : Fault} (hh : l.halt = some e) (later : List Call) :
    (l.play later).1.halt = some e ∧ (l.play later).1.progress = l.progress := by
  induction later generalizing l with
  | nil => simp [hh]
  | cons c cs ih =>
    obtain ⟨hh', hprogress⟩ := apply_keeps_halt hh c
    obtain ⟨hhalt, hrest⟩ := ih hh'
    rw [play_cons]
    exact ⟨hhalt, hrest.trans hprogress⟩

/-- **Failures are sticky and leave progress intact.** On every ledger, a call that answers
with a fault leaves the committed and last tracked offsets, the commits and the number of
pending offsets as its status reported them. Once the ledger holds a fault, whatever calls
follow, that fault stays its fault, its status reports it halted with the same progress, and
every tracking and every resolution answers with that fault and changes nothing. -/
theorem failures_are_sticky (l : Ledger) :
    (∀ (c : Call) (f : Fault), c.answer l = some f → (c.apply l).1.progress = l.progress) ∧
    ∀ e, l.halt = some e → ∀ later : List Call,
      let l' := (l.play later).1
      l'.halt = some e ∧ l'.status.halted = true ∧ l'.progress = l.progress ∧
      ∀ o s a, (Call.track o s).answer l' = some e ∧ ((Call.track o s).apply l').1 = l' ∧
        (Call.resolve o a).answer l' = some e ∧ ((Call.resolve o a).apply l').1 = l' := by
  refine ⟨fun c f h => answer_keeps_progress c l h, fun e hh later => ?_⟩
  obtain ⟨hhalt, hprogress⟩ := play_keeps_halt hh later
  exact ⟨hhalt, by simp [status, hhalt], hprogress, fun o s a => answer_of_halted hhalt o s a⟩

/-- A refused commit halts the ledger without moving it; tracking then answers with the
commit's fault. -/
example :
    let l := (Ledger.create "t" 0 (-1) 4).play [.track 0 none, .resolve 0 (some (.text "down"))]
    l.1.status.halted = true ∧ l.1.progress = (-1, 0, 0, 1) ∧
      ((Call.track 1 none).answer l.1).map Fault.message = some "commit t[0]@0: down" := by
  decide

end Ledger

/-- A claim's `resolve` returns the committed offset after the resolution and the fault the
call answers. -/
theorem Pool.run_resolve_answer (a : Option Fault) (w : Pool) (id : Nat) (o : Int) {l : Ledger}
    (hl : w.ledger? id = some l) :
    (((Pool.claims a).resolve id o).run w).1 =
      ((l.resolve o a).1.committed, (Ledger.Call.resolve o a).answer l) := by
  rcases hm : l.mark o with ⟨l', _ | _ | next⟩ <;>
    simp [Claims.resolve, Claims.ledger?, Claims.updateLedger, Pool.claims, hl, hm,
      Ledger.resolve, Ledger.Call.answer] <;> rfl

end Conveyor
