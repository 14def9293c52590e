import Conveyor.Proofs.Ledger.Invariant
import Conveyor.Proofs.Word
/-!
# The lag a ledger reports

The status reports the lag: how many offsets lie between the commit position and the head,
the larger of the next offset to track and the broker's high-water mark. It is computed in
64-bit arithmetic: the next offset to track is one past the last tracked one, the commit
position one past the committed offset, and the lag their difference, and each of these sums
wraps around at the end of the range.

On every ledger that a run reaches from a 64-bit committed offset, as long as nothing wraps,
the lag is the integer count and never negative, since a run never commits past what it
tracked (`lag_counts_offsets`). Where a sum wraps it is not: once the greatest offset is
tracked, one past it wraps to the least word, the head falls back to the high-water mark, and
while that mark is at or below the committed offset the lag is negative
(`lag_negative_at_greatest`).
-/

namespace Conveyor.Ledger

/-- Below the greatest offset neither the next offset to track nor the commit position wraps,
so the lag is the integer count wrapped to a word. -/
theorem lag_eq_wrap {l : Ledger} (hlo : Word.least ≤ l.committed)
    (hle : l.committed ≤ l.lastTracked) (hlt : l.lastTracked < Word.greatest) :
    l.status.lag = Word.wrap (max (l.lastTracked + 1) l.highWater - (l.committed + 1)) := by
  have hnext : Word.wrap (l.lastTracked + 1) = l.lastTracked + 1 :=
    Word.wrap_of_le (by omega) (by omega)
  have hpos : Word.wrap (l.committed + 1) = l.committed + 1 :=
    Word.wrap_of_le (by omega) (by omega)
  simp only [status, hnext, hpos]

/-- **The lag counts offsets.** On every ledger that a run reaches from a 64-bit committed
offset, whose last tracked offset is below the greatest one and whose count fits in a word,
the lag is the number of offsets between the commit position and the head, over the
integers, and it is never negative. -/
theorem lag_counts_offsets (topic : String) (partition c0 capacity : Int) (calls : List Call)
    (hc0 : Word.least ≤ c0) :
    let l := ((Ledger.create topic partition c0 capacity).play calls).1
    l.lastTracked < Word.greatest →
    max (l.lastTracked + 1) l.highWater - (l.committed + 1) ≤ Word.greatest →
    l.status.lag = max (l.lastTracked + 1) l.highWater - (l.committed + 1) ∧
      0 ≤ l.status.lag := by
  intro l hlt hfit
  have hs : Sound c0 l ((Ledger.create topic partition c0 capacity).play calls).2 := by
    simpa using (sound_create topic partition c0 capacity).play calls
  -- a run never commits past what it tracked, so the count is not negative
  have hcount : 0 ≤ max (l.lastTracked + 1) l.highWater - (l.committed + 1) := by
    have := hs.committed_le
    omega
  have hlag : l.status.lag = max (l.lastTracked + 1) l.highWater - (l.committed + 1) := by
    rw [lag_eq_wrap (Int.le_trans hc0 hs.start_le) hs.committed_le hlt]
    exact Word.wrap_of_le (by rw [Word.least_eq]; omega) hfit
  exact ⟨hlag, hlag ▸ hcount⟩

/-- Two offsets tracked and the first resolved, with the broker's head at `5`: four offsets
lie between the commit position `1` and the head. -/
theorem lag_counts_offsets_after_commit :
    let l := ((Ledger.create "t" 0 (-1) 4).play
      [.track 0 none, .track 1 none, .resolve 0 none, .observeHighWater 5]).1
    Word.least ≤ -1 ∧ l.lastTracked < Word.greatest ∧
      max (l.lastTracked + 1) l.highWater - (l.committed + 1) ≤ Word.greatest ∧
      l.status.lag = max (l.lastTracked + 1) l.highWater - (l.committed + 1) ∧
      0 ≤ l.status.lag :=
  ⟨by decide, by decide, by decide,
    lag_counts_offsets "t" 0 (-1) 4 _ (by decide) (by decide) (by decide)⟩

/-- **At the greatest offset the lag breaks.** Once the greatest offset is tracked, the next
offset to track wraps to the least word and the head falls back to the high-water mark; while
that mark is at or below the committed offset, the lag is negative. -/
theorem lag_negative_at_greatest {l : Ledger} (hlt : l.lastTracked = Word.greatest)
    (hhw : -1 ≤ l.highWater) (hle : l.highWater ≤ l.committed)
    (hcg : l.committed < Word.greatest) :
    l.status.lag = l.highWater - (l.committed + 1) ∧ l.status.lag < 0 := by
  have hhead : max (Word.wrap (l.lastTracked + 1)) l.highWater = l.highWater := by
    rw [hlt, Word.wrap_greatest_add_one, Word.least_eq]
    omega
  have hpos : Word.wrap (l.committed + 1) = l.committed + 1 :=
    Word.wrap_of_le (by rw [Word.least_eq]; omega) (by omega)
  have hlag : l.status.lag = l.highWater - (l.committed + 1) := by
    simp only [status, hhead, hpos]
    exact Word.wrap_of_le (by rw [Word.least_eq]; rw [Word.greatest_eq] at hcg; omega)
      (by rw [Word.greatest_eq]; omega)
  exact ⟨hlag, by omega⟩

end Conveyor.Ledger
