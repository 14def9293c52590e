import Conveyor.Proofs.Ledger.Invariant
/-!
# Commits follow resolutions

Whatever calls a ledger receives, in whatever order, and whatever its commit callback answers:

* the callback is called with strictly increasing offsets, all above the offset the ledger
  was created at;
* each call names an offset every tracked offset up to which had been resolved before the
  call;
* a halted ledger calls it no more;
* the check in `Ledger.mark` that a commit would move back never fails.

The statement is `commits_follow_resolutions`. The first two and the last facts come from the
invariant `Ledger.Sound`; that a halted ledger stays halted and silent is `play_of_halted`.
-/

namespace Conveyor.Ledger

/-! ### Halted ledgers -/

/-- A halted ledger stays halted, and no call on it reaches the commit callback. -/
theorem apply_of_halted {l : Ledger} (hh : l.halt.isSome) (c : Call) :
    (c.apply l).1.halt.isSome ∧ commitOffsets (c.apply l).2 = [] := by
  cases c with
  | track o s =>
    rcases apply_track_cases l o s with ⟨hnone, -, -⟩ | heq | ⟨f, heq⟩
    · simp [hnone] at hh
    · simp [heq, hh]
    · simp [heq]
  | resolve o a =>
    show (l.resolve o a).1.halt.isSome ∧ commitOffsets (l.resolve o a).2 = []
    rcases resolve_cases l o a with ⟨f, heq⟩ | ⟨hnone, -⟩
    · simp [heq]
    · simp [hnone] at hh
  | halt e =>
    cases e with
    | none => simp [Call.apply, haltWith, hh]
    | some f => simp [Call.apply, haltWith]
  | observeHighWater hw =>
    simp only [Call.apply, observeHighWater]
    split <;> simp [hh]

/-- No run from a halted ledger reaches the commit callback. -/
theorem play_of_halted {l : Ledger} (hh : l.halt.isSome) (calls : List Call) :
    commitOffsets (l.play calls).2 = [] := by
  induction calls generalizing l with
  | nil => rfl
  | cons c cs ih =>
    obtain ⟨hh', hc⟩ := apply_of_halted hh c
    rw [play_cons, commitOffsets_append, hc, ih hh']
    rfl

/-! ### Commit safety -/

/-- **Commit safety.** For a ledger created at committed offset `c0` and any calls on it: the
commit callback gets strictly increasing offsets above `c0`; each of them after every offset
tracked before it and not above it was resolved; none once the ledger has halted; and at no
point of the run can a resolution name an offset at or below the committed one, so the
violation that a commit would move back never arises. -/
theorem commits_follow_resolutions (topic : String) (partition c0 capacity : Int)
    (calls : List Call) :
    let start := Ledger.create topic partition c0 capacity
    (commitOffsets (start.play calls).2).Pairwise (· < ·) ∧
    (∀ x ∈ commitOffsets (start.play calls).2, c0 < x) ∧
    CommitsCovered (start.play calls).2 ∧
    (∀ pre post, calls = pre ++ post → (start.play pre).1.halt.isSome →
      commitOffsets ((start.play pre).1.play post).2 = []) ∧
    (∀ pre post, calls = pre ++ post → ∀ o next,
      ((start.play pre).1.markResolved o).commitCandidate? = some next →
        (start.play pre).1.committed < next) := by
  intro start
  have hrun : ∀ cs, Sound c0 (start.play cs).1 (start.play cs).2 := fun cs => by
    simpa using (sound_create topic partition c0 capacity).play cs
  refine ⟨(hrun calls).commits_sorted, (hrun calls).commits_above, (hrun calls).covered, ?_, ?_⟩
  · intro pre post _ hh
    exact play_of_halted hh post
  · intro pre post _ o next hc
    exact commitCandidate_above (hrun pre) o hc

/-- Offsets resolved out of order are committed in order, once the lowest is resolved. -/
example :
    commitOffsets ((Ledger.create "t" 0 (-1) 4).play
      [.track 0 none, .track 1 none, .track 2 none, .resolve 1 none, .resolve 0 none,
       .resolve 2 none]).2 = [1, 2] := by
  decide

end Conveyor.Ledger
