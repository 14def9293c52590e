import Conveyor.Proofs.Ledger.Invariant
/-!
# Resolving a pending offset

On a running sound ledger, resolving an offset that is pending and unresolved meets none of
the violations of `Ledger.mark`: it marks the offset and commits what became contiguous
(`resolve_unresolved`). Every other unresolved offset stays unresolved and nothing else
becomes so (`unresolved_resolve`), and the ledger halts only when the commit callback fails
(`halt_of_resolve`).

A halted ledger ignores resolutions (`resolve_of_halted`), yet its callers may still count
them: the invariant allows resolutions the ledger never marked (`Sound.extend_resolved`).
-/

namespace Conveyor.Ledger

variable {c0 : Int} {l : Ledger} {h : List Event}

/-- **Resolving an unresolved pending offset** on a running sound ledger marks it, then either
commits nothing or commits the offset the resolved prefix ends at. -/
theorem resolve_unresolved (hs : Sound c0 l h) (hh : l.halt = none) {o : Int}
    (hp : (o, false) ∈ l.pending) (a : Option Fault) :
    ((l.markResolved o).commitCandidate? = none ∧
        l.resolve o a = (l.markResolved o, [.resolved o])) ∨
    ∃ next, (l.markResolved o).commitCandidate? = some next ∧
      l.resolve o a = (((l.markResolved o).settle next a).1, [.resolved o, .commit next]) := by
  have hfind : l.index.lookup o = some (o, false) := (hs.indexed o (o, false)).mpr ⟨hp, rfl⟩
  rcases hc : (l.markResolved o).commitCandidate? with _ | next
  · exact .inl ⟨rfl, by simp [resolve, mark, hh, hfind, hc]⟩
  · -- the check that the commit would move back passes
    have hlt := commitCandidate_above hs o hc
    have hnot : ¬ next ≤ l.committed := by omega
    exact .inr ⟨next, rfl, by simp [resolve, mark, hh, hfind, hc, hnot]⟩

/-- Resolving an unresolved pending offset shows its resolution, then the commits it made. -/
theorem resolve_events (hs : Sound c0 l h) (hh : l.halt = none) {o : Int}
    (hp : (o, false) ∈ l.pending) (a : Option Fault) :
    (l.resolve o a).2 = .resolved o :: (commitOffsets (l.resolve o a).2).map Event.commit := by
  rcases resolve_unresolved hs hh hp a with ⟨-, heq⟩ | ⟨next, -, heq⟩ <;> simp [heq]

/-- **What stays unresolved** after resolving `o` is every other offset that was. -/
theorem unresolved_resolve (hs : Sound c0 l h) (hh : l.halt = none) {o : Int}
    (hp : (o, false) ∈ l.pending) (a : Option Fault) (k : Int) :
    (k, false) ∈ (l.resolve o a).1.pending ↔ k ≠ o ∧ (k, false) ∈ l.pending := by
  rcases resolve_unresolved hs hh hp a with ⟨-, heq⟩ | ⟨next, hc, heq⟩
  · rw [heq]
    exact unresolved_markResolved
  · rw [heq]
    cases a with
    | some e =>
      obtain ⟨f, hf⟩ := settle_some (l.markResolved o) next e
      rw [hf, halted_pending]
      exact unresolved_markResolved
    | none =>
      rw [settle_none]
      -- the commit lies below every offset left unresolved, which the commit keeps
      obtain ⟨-, -, -, hbelow, -⟩ := (hs.markResolved o).commit_ready (by simpa using hh) hc
      simp only [List.mem_filter]
      constructor
      · exact fun hk => unresolved_markResolved.mp hk.1
      · intro hk
        have hk' := unresolved_markResolved.mpr hk
        exact ⟨hk', by simpa using hbelow k hk'⟩

/-- **Resolving halts only through a failed commit.** -/
theorem halt_of_resolve (hs : Sound c0 l h) (hh : l.halt = none) {o : Int}
    (hp : (o, false) ∈ l.pending) (a : Option Fault) (hhalt : (l.resolve o a).1.halt.isSome) :
    ∃ e next, a = some e ∧ (l.resolve o a).2 = [.resolved o, .commit next] := by
  rcases resolve_unresolved hs hh hp a with ⟨-, heq⟩ | ⟨next, -, heq⟩
  · rw [heq] at hhalt
    simp [hh] at hhalt
  · cases a with
    | none =>
      rw [heq, settle_none] at hhalt
      simp [hh] at hhalt
    | some e => exact ⟨e, next, rfl, by rw [heq]⟩

/-- The invariant allows resolutions in the history that the ledger never marked. -/
theorem Sound.extend_resolved (hs : Sound c0 l h) (o : Int) : Sound c0 l (h ++ [.resolved o]) where
  sorted := hs.sorted
  above := hs.above
  below := hs.below
  start_le := hs.start_le
  committed_le := hs.committed_le
  tail_tracked := hs.tail_tracked
  tracked_le o' ho := hs.tracked_le o' (by simpa using ho)
  tracked_kept o' ho := hs.tracked_kept o' (by simpa using ho)
  tracked_resolved o' ho hle :=
    List.mem_append_left _ (hs.tracked_resolved o' (by simpa using ho) hle)
  flag_resolved o' ho := List.mem_append_left _ (hs.flag_resolved o' ho)
  commits_below := by simpa using hs.commits_below
  commits_above := by simpa using hs.commits_above
  commits_resolved x hx := List.mem_append_left _ (hs.commits_resolved x (by simpa using hx))
  commits_below_unresolved := by simpa using hs.commits_below_unresolved
  commits_sorted := by simpa using hs.commits_sorted
  covered := hs.covered.snoc (by simp)
  later_tracks_above := hs.later_tracks_above.snoc (by simp)
  indexed := hs.indexed

end Conveyor.Ledger
