import Conveyor.Proofs.Ledger.History
import Mathlib.Data.List.TakeWhile
/-!
# The ledger's invariant

`Ledger.Sound c0 l h` ties a ledger `l` to the history `h` of a run that started from a ledger
created at committed offset `c0`:

* the pending offsets increase strictly, lie above the committed offset and at or below the
  last tracked one, and the index finds exactly the pending entries, each by its offset;
* the last pending offset is the last tracked one; with nothing pending, so is the committed
  offset;
* every tracked offset is at most the last tracked one and either committed or still pending;
  every tracked offset at or below the committed one was resolved, and so was every pending
  offset marked resolved;
* every commit named a resolved offset above `c0` and below every unresolved pending offset,
  the commits increase strictly, each commit was preceded by the resolution of every offset
  tracked before it and not above it, every offset tracked after it lies above it, and only a
  halted ledger has seen a commit above its committed offset.

It holds of a new ledger (`Sound.create`) and every call keeps it (`Sound.apply`), so it holds
after every run (`Sound.play`). The step that carries it is a commit: the resolved prefix ends
at the commit's offset, and since the pending offsets increase, every pending offset not above
it lies in that prefix (`commitCandidate_spec`).
-/

namespace Conveyor.Ledger

/-- The pending offsets, in the order they are kept. -/
def pendingOffsets (l : Ledger) : List Int := l.pending.map (·.1)

/-- An index agrees with a list of entries when it finds an offset exactly when an entry of the
list has that offset, and then finds that entry. -/
def IndexAgrees (index : List (Int × (Int × Bool))) (entries : List (Int × Bool)) : Prop :=
  ∀ o e, index.lookup o = some e ↔ e ∈ entries ∧ e.1 = o

/-- **The invariant** of a ledger and its history since it was created at `c0`. -/
structure Sound (c0 : Int) (l : Ledger) (h : List Event) : Prop where
  sorted : l.pendingOffsets.Pairwise (· < ·)
  above : ∀ k ∈ l.pendingOffsets, l.committed < k
  below : ∀ k ∈ l.pendingOffsets, k ≤ l.lastTracked
  start_le : c0 ≤ l.committed
  committed_le : l.committed ≤ l.lastTracked
  tail_tracked : l.pendingOffsets.getLast?.getD l.committed = l.lastTracked
  tracked_le : ∀ o, .tracked o ∈ h → o ≤ l.lastTracked
  tracked_kept : ∀ o, .tracked o ∈ h → o ≤ l.committed ∨ o ∈ l.pendingOffsets
  tracked_resolved : ∀ o, .tracked o ∈ h → o ≤ l.committed → .resolved o ∈ h
  flag_resolved : ∀ o, (o, true) ∈ l.pending → .resolved o ∈ h
  commits_below : ∀ x ∈ commitOffsets h, x ≤ l.committed ∨ l.halt.isSome
  commits_above : ∀ x ∈ commitOffsets h, c0 < x
  commits_resolved : ∀ x ∈ commitOffsets h, .resolved x ∈ h
  commits_below_unresolved : ∀ x ∈ commitOffsets h, ∀ o, (o, false) ∈ l.pending → x < o
  commits_sorted : (commitOffsets h).Pairwise (· < ·)
  covered : CommitsCovered h
  later_tracks_above : LaterTracksAbove h
  indexed : IndexAgrees l.index l.pending

/-! ### Histories -/

/-- A history that grows by one event stays covered if that event, when it is a commit, comes
after the resolution of every tracked offset not above it. -/
theorem CommitsCovered.snoc {h : List Event} {e : Event} (hc : CommitsCovered h)
    (he : ∀ x, e = .commit x → ∀ o, .tracked o ∈ h → o ≤ x → .resolved o ∈ h) :
    CommitsCovered (h ++ [e]) := by
  intro pre x post hsplit o ho hle
  rcases List.eq_nil_or_concat post with rfl | ⟨post', e', rfl⟩
  · -- the new event is the commit
    have hsplit' : h ++ [e] = pre ++ [.commit x] := by simpa using hsplit
    obtain ⟨rfl, he'⟩ := List.append_inj' hsplit' rfl
    exact he x (by simpa using he') o ho hle
  · -- the commit was already in the history
    have hsplit' : h ++ [e] = (pre ++ .commit x :: post') ++ [e'] := by simpa using hsplit
    obtain ⟨hh, -⟩ := List.append_inj' hsplit' rfl
    exact hc pre x post' hh o ho hle

theorem commitsCovered_nil : CommitsCovered [] := by
  intro pre x post h
  simp at h

/-- A history that grows by one event keeps every later tracked offset above the commits
before it if that event, when it tracks an offset, tracks one above every commit. -/
theorem LaterTracksAbove.snoc {h : List Event} {e : Event} (hc : LaterTracksAbove h)
    (he : ∀ o, e = .tracked o → ∀ x ∈ commitOffsets h, x < o) : LaterTracksAbove (h ++ [e]) := by
  intro pre x post hsplit o ho
  rcases List.eq_nil_or_concat post with rfl | ⟨post', e', rfl⟩
  · simp at ho
  · have hsplit' : h ++ [e] = (pre ++ .commit x :: post') ++ [e'] := by simpa using hsplit
    obtain ⟨hh, he'⟩ := List.append_inj' hsplit' rfl
    simp only [List.concat_eq_append, List.mem_append, List.mem_singleton] at ho
    rcases ho with ho | rfl
    · exact hc pre x post' hh o ho
    · -- the new event tracks `o`, above the commit of `x` in `h`
      have hx : x ∈ commitOffsets h := by simp [hh]
      exact he o (by simpa using he') x hx

theorem laterTracksAbove_nil : LaterTracksAbove [] := by
  intro pre x post h
  simp at h

/-! ### The index -/

theorem indexAgrees_nil : IndexAgrees [] [] := by
  simp [IndexAgrees]

/-- Adding an entry for an offset no entry has, to the index and to the end of the list, keeps
them agreeing. -/
theorem IndexAgrees.cons_snoc {idx : List (Int × (Int × Bool))} {es : List (Int × Bool)}
    (hi : IndexAgrees idx es) {o : Int} (hnew : ∀ e ∈ es, e.1 ≠ o) :
    IndexAgrees ((o, (o, false)) :: idx) (es ++ [(o, false)]) := by
  intro k e
  by_cases hk : k = o
  · -- the new entry is the one found for its offset
    subst hk
    have hold : ¬ (e ∈ es ∧ e.1 = k) := fun he => hnew e he.1 he.2
    simp only [List.lookup_cons, beq_self_eq_true, Option.some.injEq, List.mem_append,
      List.mem_singleton]
    constructor
    · rintro rfl
      exact ⟨.inr rfl, rfl⟩
    · rintro ⟨he | rfl, hek⟩
      · exact absurd ⟨he, hek⟩ hold
      · rfl
  · have hne : (k == o) = false := by simpa using hk
    simp only [List.lookup_cons, hne, hi k e, List.mem_append, List.mem_singleton]
    constructor
    · exact fun he => ⟨.inl he.1, he.2⟩
    · rintro ⟨he | rfl, hek⟩
      · exact ⟨he, hek⟩
      · exact absurd hek.symm hk

/-- Looking up an offset in an index whose entries are all changed by `f` finds the changed
entry. -/
theorem lookup_map_entries (idx : List (Int × (Int × Bool))) (f : Int × Bool → Int × Bool)
    (k : Int) : (idx.map fun q => (q.1, f q.2)).lookup k = (idx.lookup k).map f := by
  induction idx with
  | nil => rfl
  | cons q qs ih =>
    obtain ⟨k', e⟩ := q
    cases hk : k == k' <;> simp [List.lookup_cons, hk, ih]

/-- Changing every entry, in the list and in the index alike, by a change that keeps each
entry's offset keeps them agreeing. -/
theorem IndexAgrees.map {idx : List (Int × (Int × Bool))} {es : List (Int × Bool)}
    (hi : IndexAgrees idx es) (f : Int × Bool → Int × Bool) (hf : ∀ e, (f e).1 = e.1) :
    IndexAgrees (idx.map fun q => (q.1, f q.2)) (es.map f) := by
  intro k e
  rw [lookup_map_entries, Option.map_eq_some_iff, List.mem_map]
  constructor
  · rintro ⟨e0, he0, rfl⟩
    obtain ⟨hmem, hk⟩ := (hi k e0).mp he0
    exact ⟨⟨e0, hmem, rfl⟩, (hf e0).trans hk⟩
  · rintro ⟨⟨e0, hmem, rfl⟩, hk⟩
    exact ⟨e0, (hi k e0).mpr ⟨hmem, (hf e0).symm.trans hk⟩, rfl⟩

/-- Looking up an offset in an index filtered by the offsets finds what the index found, if
the offset passes. -/
theorem lookup_filter_keys (idx : List (Int × (Int × Bool))) (p : Int → Bool) (k : Int) :
    (idx.filter fun q => p q.1).lookup k = if p k then idx.lookup k else none := by
  induction idx with
  | nil => simp
  | cons q qs ih =>
    obtain ⟨k', e⟩ := q
    simp only [List.filter_cons]
    by_cases hk : k = k'
    · subst hk
      cases hp : p k <;> simp [hp, ih]
    · -- the head has another offset: whether it stays changes nothing
      have hne : (k == k') = false := beq_eq_false_iff_ne.mpr hk
      split <;> simp [List.lookup_cons, hne, ih]

/-- Dropping from the list the entries that a test on their offsets refuses, and those offsets
from the index, keeps them agreeing. -/
theorem IndexAgrees.filter {idx : List (Int × (Int × Bool))} {es : List (Int × Bool)}
    (hi : IndexAgrees idx es) (p : Int → Bool) (q : Int × Bool → Bool)
    (hpq : ∀ e ∈ es, p e.1 = q e) :
    IndexAgrees (idx.filter fun x => p x.1) (es.filter q) := by
  intro k e
  rw [lookup_filter_keys, List.mem_filter]
  by_cases hp : p k = true
  · rw [if_pos hp, hi k e]
    constructor
    · rintro ⟨hmem, rfl⟩
      exact ⟨⟨hmem, (hpq e hmem).symm.trans hp⟩, rfl⟩
    · exact fun h => ⟨h.1.1, h.2⟩
  · rw [if_neg hp]
    simp only [reduceCtorEq, false_iff, not_and]
    rintro ⟨hmem, hq⟩ rfl
    exact hp ((hpq e hmem).trans hq)

/-! ### Pending offsets -/

@[simp] theorem pendingOffsets_halted (l : Ledger) (f : Fault) :
    (l.halted f).pendingOffsets = l.pendingOffsets := by
  simp [pendingOffsets]

@[simp] theorem resolveEntry_fst (o : Int) (e : Int × Bool) : (resolveEntry o e).1 = e.1 := by
  unfold resolveEntry; split <;> rfl

@[simp] theorem pendingOffsets_markResolved (l : Ledger) (o : Int) :
    (l.markResolved o).pendingOffsets = l.pendingOffsets := by
  simp [pendingOffsets, markResolved, Function.comp_def]

theorem mem_pendingOffsets {l : Ledger} {k : Int} :
    k ∈ l.pendingOffsets ↔ ∃ b, (k, b) ∈ l.pending := by
  simp [pendingOffsets]

/-- Marking `o` sets the flag of `o` and of no other offset. -/
theorem flag_of_mem_markResolved {l : Ledger} {o k : Int}
    (h : (k, true) ∈ (l.markResolved o).pending) : k = o ∨ (k, true) ∈ l.pending := by
  simp only [markResolved, List.mem_map] at h
  obtain ⟨⟨k', b'⟩, hmem, heq⟩ := h
  by_cases hk : k' = o
  · simp only [resolveEntry, hk, beq_self_eq_true, ite_true, Prod.mk.injEq] at heq
    exact .inl (heq.1.symm.trans rfl)
  · simp only [resolveEntry, beq_iff_eq, hk, ite_false, Prod.mk.injEq] at heq
    obtain ⟨rfl, rfl⟩ := heq
    exact .inr hmem

/-- Marking `o` leaves unresolved exactly the other offsets that were unresolved. -/
theorem unresolved_markResolved {l : Ledger} {o k : Int} :
    (k, false) ∈ (l.markResolved o).pending ↔ k ≠ o ∧ (k, false) ∈ l.pending := by
  simp only [markResolved, List.mem_map]
  constructor
  · rintro ⟨⟨k', b'⟩, hmem, heq⟩
    by_cases hk : k' = o
    · simp [resolveEntry, hk] at heq
    · simp only [resolveEntry, beq_iff_eq, hk, ite_false, Prod.mk.injEq] at heq
      obtain ⟨rfl, rfl⟩ := heq
      exact ⟨hk, hmem⟩
  · rintro ⟨hk, hmem⟩
    exact ⟨(k, false), hmem, by simp [resolveEntry, hk]⟩

/-- Dropping the pending offsets up to a pending offset `next` keeps the last one last, unless
`next` was the last one. -/
theorem getLast?_getD_filter_gt {ks : List Int} {next last d : Int} (hmem : next ∈ ks)
    (hlast : ks.getLast?.getD d = last) (hle : ∀ k ∈ ks, k ≤ last) :
    (ks.filter (· > next)).getLast?.getD next = last := by
  rcases List.eq_nil_or_concat ks with rfl | ⟨ys, m, rfl⟩
  · simp at hmem
  · simp only [List.concat_eq_append] at hmem hlast hle ⊢
    simp only [List.getLast?_concat, Option.getD_some] at hlast
    subst hlast
    by_cases hm : next < m
    · simp [hm]
    · -- `next` is the last offset, and nothing lies above it
      have hnext : next = m := Int.le_antisymm (hle next hmem) (Int.not_lt.mp hm)
      have hnil : (ys ++ [m]).filter (· > next) = [] := by
        rw [List.filter_eq_nil_iff]
        intro k hk
        have := hle k (by simpa using hk)
        simp only [decide_eq_true_eq]
        omega
      rw [hnil, hnext]
      rfl

/-- The commit candidate is the last offset of the resolved prefix. -/
theorem commitCandidate?_eq (l : Ledger) :
    l.commitCandidate? = (l.pending.takeWhile (·.2)).getLast?.map (·.1) := by
  unfold commitCandidate? resolvedPrefix
  rw [← List.prefix_iff_eq_take.mp (List.takeWhile_prefix _)]

/-- **The commit candidate.** When the pending offsets increase, the offset the resolved
prefix ends at is pending, and every pending offset not above it is resolved. -/
theorem commitCandidate_spec {l : Ledger} {x : Int} (hs : l.pendingOffsets.Pairwise (· < ·))
    (hc : l.commitCandidate? = some x) :
    x ∈ l.pendingOffsets ∧ ∀ p ∈ l.pending, p.1 ≤ x → p.2 = true := by
  rw [commitCandidate?_eq] at hc
  obtain ⟨⟨x', b⟩, hlast, rfl⟩ := Option.map_eq_some_iff.mp hc
  have hprefix : (x', b) ∈ l.pending.takeWhile (·.2) := List.mem_of_getLast? hlast
  refine ⟨mem_pendingOffsets.mpr ⟨b, List.takeWhile_subset _ hprefix⟩, ?_⟩
  intro p hp hle
  have hsplit :=
    List.takeWhile_append_dropWhile (p := fun q : Int × Bool => q.2) (l := l.pending)
  rw [← hsplit] at hp
  rcases List.mem_append.mp hp with hpt | hpd
  · exact List.mem_takeWhile_imp hpt
  · -- past the prefix every offset is above the prefix's last one
    exfalso
    rw [pendingOffsets, ← hsplit, List.map_append, List.pairwise_append] at hs
    have hlt := hs.2.2 x' (List.mem_map_of_mem hprefix) p.1 (List.mem_map_of_mem hpd)
    exact absurd hle (by simpa using hlt)

/-- **A commit never moves back**: on a sound ledger, whatever offset is marked, the offset the
resolved prefix then ends at lies above the committed offset. -/
theorem commitCandidate_above {c0 : Int} {l : Ledger} {h : List Event} (hs : Sound c0 l h)
    (o : Int) {next : Int} (hc : (l.markResolved o).commitCandidate? = some next) :
    l.committed < next := by
  have hsorted : (l.markResolved o).pendingOffsets.Pairwise (· < ·) := by
    simpa using hs.sorted
  have hmem := (commitCandidate_spec hsorted hc).1
  exact hs.above next (by simpa using hmem)

/-! ### One call at a time -/

section Steps

variable {c0 : Int} {l : Ledger} {h : List Event}

theorem sound_create (topic : String) (partition c0 capacity : Int) :
    Sound c0 (Ledger.create topic partition c0 capacity) [] where
  sorted := by simp [pendingOffsets, Ledger.create]
  above := by simp [pendingOffsets, Ledger.create]
  below := by simp [pendingOffsets, Ledger.create]
  start_le := by simp [Ledger.create]
  committed_le := by simp [Ledger.create]
  tail_tracked := by simp [pendingOffsets, Ledger.create]
  tracked_le := by simp
  tracked_kept := by simp
  tracked_resolved := by simp
  flag_resolved := by simp [Ledger.create]
  commits_below := by simp
  commits_above := by simp
  commits_resolved := by simp
  commits_below_unresolved := by simp
  commits_sorted := by simp
  covered := commitsCovered_nil
  later_tracks_above := laterTracksAbove_nil
  indexed := indexAgrees_nil

/-- The invariant reads only the pending offsets, the index, the committed and last tracked
offsets and whether the ledger halted: a ledger that agrees on these, and is halted whenever
the first one is, keeps it. -/
theorem Sound.congr {l' : Ledger} (hs : Sound c0 l h) (hp : l'.pending = l.pending)
    (hi : l'.index = l.index) (hc : l'.committed = l.committed)
    (ht : l'.lastTracked = l.lastTracked) (hh : l.halt.isSome → l'.halt.isSome) :
    Sound c0 l' h := by
  have hk : l'.pendingOffsets = l.pendingOffsets := by simp [pendingOffsets, hp]
  exact
    { sorted := hk ▸ hs.sorted
      above := by rw [hk, hc]; exact hs.above
      below := by rw [hk, ht]; exact hs.below
      start_le := hc ▸ hs.start_le
      committed_le := by rw [hc, ht]; exact hs.committed_le
      tail_tracked := by rw [hk, hc, ht]; exact hs.tail_tracked
      tracked_le := by rw [ht]; exact hs.tracked_le
      tracked_kept := by rw [hk, hc]; exact hs.tracked_kept
      tracked_resolved := by rw [hc]; exact hs.tracked_resolved
      flag_resolved := by rw [hp]; exact hs.flag_resolved
      commits_below := fun x hx => (hs.commits_below x hx).imp (hc ▸ id) hh
      commits_above := hs.commits_above
      commits_resolved := hs.commits_resolved
      commits_below_unresolved := by rw [hp]; exact hs.commits_below_unresolved
      commits_sorted := hs.commits_sorted
      covered := hs.covered
      later_tracks_above := hs.later_tracks_above
      indexed := by rw [hi, hp]; exact hs.indexed }

theorem Sound.halted (hs : Sound c0 l h) (f : Fault) : Sound c0 (l.halted f) h :=
  hs.congr (by simp) (by simp) (by simp) (by simp) (fun _ => halted_halt_isSome l f)

theorem Sound.observeHighWater (hs : Sound c0 l h) (hw : Int) :
    Sound c0 (l.observeHighWater hw) h := by
  unfold Ledger.observeHighWater
  split
  · exact hs.congr rfl rfl rfl rfl id
  · exact hs

/-- Tracking an offset above the last tracked one on a running ledger keeps the invariant: the
new offset is the largest pending one, above every commit. -/
theorem Sound.track (hs : Sound c0 l h) (hh : l.halt = none) {o : Int} (hlt : l.lastTracked < o) :
    Sound c0 { l with pending := l.pending ++ [(o, false)], index := (o, (o, false)) :: l.index,
                      lastTracked := o }
      (h ++ [.tracked o]) := by
  have hk : ({ l with pending := l.pending ++ [(o, false)], index := (o, (o, false)) :: l.index,
                      lastTracked := o } : Ledger).pendingOffsets = l.pendingOffsets ++ [o] := by
    simp [pendingOffsets]
  have hbelow := hs.below
  have hle := hs.committed_le
  refine
    { sorted := ?_, above := ?_, below := ?_, start_le := hs.start_le, committed_le := ?_
      tail_tracked := by rw [hk]; simp
      tracked_le := ?_, tracked_kept := ?_, tracked_resolved := ?_, flag_resolved := ?_
      commits_below := ?_, commits_above := ?_, commits_resolved := ?_
      commits_below_unresolved := ?_, commits_sorted := ?_, covered := ?_
      later_tracks_above := ?_
      -- the new offset lies above every pending one, so the index had no entry for it
      indexed := hs.indexed.cons_snoc fun e he heo =>
        absurd (hbelow e.1 (List.mem_map_of_mem he)) (by omega) }
  · rw [hk, List.pairwise_append]
    refine ⟨hs.sorted, by simp, ?_⟩
    intro k hk' o' ho'
    have := hbelow k hk'
    simp only [List.mem_singleton] at ho'
    omega
  · rw [hk]
    intro k hk'
    rcases List.mem_append.mp hk' with hk' | hk'
    · exact hs.above k hk'
    · simp only [List.mem_singleton] at hk'
      simp only
      omega
  · rw [hk]
    intro k hk'
    rcases List.mem_append.mp hk' with hk' | hk'
    · have := hbelow k hk'
      simp only
      omega
    · simp only [List.mem_singleton] at hk'
      simp only
      omega
  · simp only
    omega
  · intro o' ho'
    simp only
    rcases List.mem_append.mp ho' with ho' | ho'
    · have := hs.tracked_le o' ho'
      omega
    · simp only [List.mem_singleton, Event.tracked.injEq] at ho'
      omega
  · intro o' ho'
    rw [hk]
    rcases List.mem_append.mp ho' with ho' | ho'
    · exact (hs.tracked_kept o' ho').imp id (fun hm => List.mem_append_left _ hm)
    · simp only [List.mem_singleton, Event.tracked.injEq] at ho'
      exact .inr (by simp [ho'])
  · intro o' ho' hle'
    rcases List.mem_append.mp ho' with ho' | ho'
    · exact List.mem_append_left _ (hs.tracked_resolved o' ho' hle')
    · simp only [List.mem_singleton, Event.tracked.injEq] at ho'
      simp only at hle'
      omega
  · intro o' ho'
    simp only [List.mem_append, List.mem_singleton, Prod.mk.injEq, Bool.true_eq_false,
      and_false, or_false] at ho'
    exact List.mem_append_left _ (hs.flag_resolved o' ho')
  · simpa using hs.commits_below
  · simpa using hs.commits_above
  · intro x hx
    exact List.mem_append_left _ (hs.commits_resolved x (by simpa using hx))
  · intro x hx o' ho'
    simp only [commitOffsets_append, commitOffsets_cons_tracked, commitOffsets_nil,
      List.append_nil] at hx
    simp only [List.mem_append, List.mem_singleton, Prod.mk.injEq, and_true] at ho'
    rcases ho' with ho' | rfl
    · exact hs.commits_below_unresolved x hx o' ho'
    · -- on a running ledger every commit lies at or below the committed offset
      have hx' : x ≤ l.committed := (hs.commits_below x hx).resolve_right (by simp [hh])
      omega
  · simpa using hs.commits_sorted
  · exact hs.covered.snoc (by simp)
  · refine hs.later_tracks_above.snoc fun o' ho' x hx => ?_
    simp only [Event.tracked.injEq] at ho'
    have hx' : x ≤ l.committed := (hs.commits_below x hx).resolve_right (by simp [hh])
    omega

/-- Marking an offset resolved keeps the invariant, with the resolution in the history. -/
theorem Sound.markResolved (hs : Sound c0 l h) (o : Int) :
    Sound c0 (l.markResolved o) (h ++ [.resolved o]) := by
  refine
    { sorted := by simpa using hs.sorted
      above := by simpa using hs.above
      below := by simpa using hs.below
      start_le := hs.start_le
      committed_le := hs.committed_le
      tail_tracked := by simpa using hs.tail_tracked
      tracked_le := by simpa using hs.tracked_le
      tracked_kept := ?_, tracked_resolved := ?_, flag_resolved := ?_
      commits_below := by simpa using hs.commits_below
      commits_above := by simpa using hs.commits_above
      commits_resolved := fun x hx =>
        List.mem_append_left _ (hs.commits_resolved x (by simpa using hx))
      commits_below_unresolved := ?_
      commits_sorted := by simpa using hs.commits_sorted
      covered := hs.covered.snoc (by simp)
      later_tracks_above := hs.later_tracks_above.snoc (by simp)
      indexed := hs.indexed.map (resolveEntry o) (resolveEntry_fst o) }
  · intro o' ho'
    simpa using hs.tracked_kept o' (by simpa using ho')
  · intro o' ho' hle
    exact List.mem_append_left _ (hs.tracked_resolved o' (by simpa using ho') hle)
  · intro k hk
    rcases flag_of_mem_markResolved hk with rfl | hk
    · simp
    · exact List.mem_append_left _ (hs.flag_resolved k hk)
  · intro x hx k hk
    simp only [commitOffsets_append, commitOffsets_cons_resolved, commitOffsets_nil,
      List.append_nil] at hx
    exact hs.commits_below_unresolved x hx k (unresolved_markResolved.mp hk).2

/-- A commit of `next` may join the history of a sound ledger when it lies above `c0` and
every earlier commit and below every unresolved pending offset, it and every tracked offset not
above it were resolved, and the ledger either committed it or halted. -/
theorem Sound.extend_commit (hs : Sound c0 l h) {next : Int}
    (hbelow : next ≤ l.committed ∨ l.halt.isSome) (habove : c0 < next)
    (hresolved : .resolved next ∈ h) (hafter : ∀ x ∈ commitOffsets h, x < next)
    (hunresolved : ∀ o, (o, false) ∈ l.pending → next < o)
    (hcover : ∀ o, .tracked o ∈ h → o ≤ next → .resolved o ∈ h) :
    Sound c0 l (h ++ [.commit next]) where
  sorted := hs.sorted
  above := hs.above
  below := hs.below
  start_le := hs.start_le
  committed_le := hs.committed_le
  tail_tracked := hs.tail_tracked
  tracked_le o ho := hs.tracked_le o (by simpa using ho)
  tracked_kept o ho := hs.tracked_kept o (by simpa using ho)
  tracked_resolved o ho hle := List.mem_append_left _ (hs.tracked_resolved o (by simpa using ho) hle)
  flag_resolved o ho := List.mem_append_left _ (hs.flag_resolved o ho)
  commits_below x hx := by
    simp only [commitOffsets_append, commitOffsets_cons_commit, commitOffsets_nil,
      List.mem_append, List.mem_singleton] at hx
    rcases hx with hx | rfl
    · exact hs.commits_below x hx
    · exact hbelow
  commits_above x hx := by
    simp only [commitOffsets_append, commitOffsets_cons_commit, commitOffsets_nil,
      List.mem_append, List.mem_singleton] at hx
    rcases hx with hx | rfl
    · exact hs.commits_above x hx
    · exact habove
  commits_resolved x hx := by
    simp only [commitOffsets_append, commitOffsets_cons_commit, commitOffsets_nil,
      List.mem_append, List.mem_singleton] at hx
    rcases hx with hx | rfl
    · exact List.mem_append_left _ (hs.commits_resolved x hx)
    · exact List.mem_append_left _ hresolved
  commits_below_unresolved x hx o ho := by
    simp only [commitOffsets_append, commitOffsets_cons_commit, commitOffsets_nil,
      List.mem_append, List.mem_singleton] at hx
    rcases hx with hx | rfl
    · exact hs.commits_below_unresolved x hx o ho
    · exact hunresolved o ho
  commits_sorted := by
    rw [commitOffsets_append, List.pairwise_append]
    exact ⟨hs.commits_sorted, by simp, fun x hx y hy => by
      simp only [commitOffsets_cons_commit, commitOffsets_nil, List.mem_singleton] at hy
      exact hy ▸ hafter x hx⟩
  covered := hs.covered.snoc fun x hx o ho hle => by
    cases hx
    exact hcover o ho hle
  later_tracks_above := hs.later_tracks_above.snoc (by simp)
  indexed := hs.indexed

/-- **What a commit needs.** On a running sound ledger whose resolved prefix ends at `next`,
`next` is pending, so it lies above the committed offset and every earlier commit and below
every unresolved pending offset, and every tracked offset not above it has been resolved. -/
theorem Sound.commit_ready (hs : Sound c0 l h) (hh : l.halt = none) {next : Int}
    (hc : l.commitCandidate? = some next) :
    l.committed < next ∧ next ≤ l.lastTracked ∧ (∀ x ∈ commitOffsets h, x < next) ∧
      (∀ o, (o, false) ∈ l.pending → next < o) ∧
      ∀ o, .tracked o ∈ h → o ≤ next → .resolved o ∈ h := by
  obtain ⟨hmem, hflags⟩ := commitCandidate_spec hs.sorted hc
  have hlt := hs.above next hmem
  refine ⟨hlt, hs.below next hmem, fun x hx => ?_, fun o ho => ?_, fun o ho hle => ?_⟩
  · rcases hs.commits_below x hx with hx | hx
    · omega
    · simp [hh] at hx
  · -- every pending offset up to `next` is resolved
    by_contra hle
    have := hflags (o, false) ho (by simp only; omega)
    simp at this
  · rcases hs.tracked_kept o ho with hle' | hmem'
    · exact hs.tracked_resolved o ho hle'
    · -- a pending offset not above `next` lies in the resolved prefix
      obtain ⟨b, hb⟩ := mem_pendingOffsets.mp hmem'
      have hflag : b = true := hflags (o, b) hb hle
      exact hs.flag_resolved o (hflag ▸ hb)

/-- The offset the resolved prefix ends at was resolved. -/
theorem Sound.candidate_resolved (hs : Sound c0 l h) {next : Int}
    (hc : l.commitCandidate? = some next) : .resolved next ∈ h := by
  obtain ⟨hmem, hflags⟩ := commitCandidate_spec hs.sorted hc
  obtain ⟨b, hb⟩ := mem_pendingOffsets.mp hmem
  have hflag : b = true := hflags (next, b) hb (Int.le_refl next)
  exact hs.flag_resolved next (hflag ▸ hb)

/-- Settling a commit of the offset the resolved prefix ends at keeps the invariant, whether the
commit succeeds or fails. -/
theorem Sound.settle (hs : Sound c0 l h) (hh : l.halt = none) {next : Int}
    (hc : l.commitCandidate? = some next) (a : Option Fault) :
    Sound c0 (l.settle next a).1 (h ++ [.commit next]) := by
  obtain ⟨hlt, hle, hafter, hunresolved, hcover⟩ := hs.commit_ready hh hc
  have habove : c0 < next := Int.lt_of_le_of_lt hs.start_le hlt
  have hresolved := hs.candidate_resolved hc
  cases a with
  | some e =>
    obtain ⟨f, hf⟩ := settle_some l next e
    rw [hf]
    exact (hs.halted f).extend_commit (.inr (halted_halt_isSome l f)) habove hresolved hafter
      (by simpa using hunresolved) hcover
  | none =>
    rw [settle_none]
    -- the ledger after a successful commit, with the history before it
    let done := l.pending.filter (·.1 ≤ next)
    let l' : Ledger :=
      { l with pending := l.pending.filter (·.1 > next),
               index := l.index.filter fun e => !(done.any (·.1 == e.1)),
               committed := next, commits := l.commits + 1 }
    -- a pending offset leaves the index exactly when its entry leaves the list
    have hdone : ∀ e ∈ l.pending, (!(done.any (·.1 == e.1))) = decide (e.1 > next) := by
      intro e he
      by_cases hle : e.1 ≤ next
      · have hany : done.any (·.1 == e.1) = true :=
          List.any_eq_true.mpr ⟨e, List.mem_filter.mpr ⟨he, by simpa using hle⟩, by simp⟩
        simp [hany, hle]
      · have hany : done.any (·.1 == e.1) = false := by
          rw [List.any_eq_false]
          intro d hd hde
          have hd' := (List.mem_filter.mp hd).2
          simp only [beq_iff_eq, decide_eq_true_eq] at hde hd'
          omega
        simp only [hany, Bool.not_false]
        exact (decide_eq_true (by omega)).symm
    have hk : l'.pendingOffsets = l.pendingOffsets.filter (· > next) := by
      simp [l', pendingOffsets, List.filter_map, Function.comp_def]
    have hsettled : Sound c0 l' h :=
      { sorted := hk ▸ hs.sorted.sublist List.filter_sublist
        above := by
          rw [hk]
          intro k hk'
          simpa using (List.mem_filter.mp hk').2
        below := by
          rw [hk]
          intro k hk'
          exact hs.below k (List.mem_filter.mp hk').1
        start_le := Int.le_of_lt (Int.lt_of_le_of_lt hs.start_le hlt)
        committed_le := hle
        tail_tracked := by
          rw [hk]
          exact getLast?_getD_filter_gt (commitCandidate_spec hs.sorted hc).1 hs.tail_tracked
            hs.below
        tracked_le := hs.tracked_le
        tracked_kept := by
          rw [hk]
          intro o ho
          rcases hs.tracked_kept o ho with hle' | hmem
          · exact .inl (Int.le_of_lt (Int.lt_of_le_of_lt hle' hlt))
          · by_cases hon : o ≤ next
            · exact .inl hon
            · exact .inr (List.mem_filter.mpr ⟨hmem, by simpa using hon⟩)
        tracked_resolved := fun o ho hle' => hcover o ho hle'
        flag_resolved := fun o ho => hs.flag_resolved o (List.mem_filter.mp ho).1
        commits_below := fun x hx => .inl (Int.le_of_lt (hafter x hx))
        commits_above := hs.commits_above
        commits_resolved := hs.commits_resolved
        commits_below_unresolved := fun x hx o ho =>
          hs.commits_below_unresolved x hx o (List.mem_filter.mp ho).1
        commits_sorted := hs.commits_sorted
        covered := hs.covered
        later_tracks_above := hs.later_tracks_above
        indexed := hs.indexed.filter (fun k => !(done.any (·.1 == k))) _ hdone }
    exact hsettled.extend_commit (.inl (Int.le_refl _)) habove hresolved hafter
      (fun o ho => by simpa using (List.mem_filter.mp ho).2) hcover

end Steps

/-! ### Runs -/

/-- **Every call keeps the invariant.** -/
theorem Sound.apply {c0 : Int} {l : Ledger} {h : List Event} (hs : Sound c0 l h) (c : Call) :
    Sound c0 (c.apply l).1 (h ++ (c.apply l).2) := by
  cases c with
  | track o s =>
    rcases apply_track_cases l o s with ⟨hh, hlt, heq⟩ | heq | ⟨f, heq⟩
    · rw [heq]
      exact hs.track hh hlt
    · rw [heq]
      simpa using hs
    · rw [heq]
      simpa using hs.halted f
  | resolve o a =>
    show Sound c0 (l.resolve o a).1 (h ++ (l.resolve o a).2)
    rcases resolve_cases l o a with ⟨f, heq⟩ | ⟨hh, -, ⟨-, heq⟩ | ⟨next, hc, ⟨hle, -⟩ | ⟨-, heq⟩⟩⟩
    · rw [heq]
      simpa using hs.halted f
    · rw [heq]
      exact hs.markResolved o
    · -- the check that a commit would move back never fails
      have hlt := commitCandidate_above hs o hc
      omega
    · rw [heq]
      have hm := hs.markResolved o
      simpa using hm.settle (by simpa using hh) hc a
  | halt e =>
    cases e with
    | none => simpa [Call.apply, haltWith] using hs
    | some f => simpa [Call.apply, haltWith] using hs.halted f
  | observeHighWater hw => simpa [Call.apply] using hs.observeHighWater hw

/-- **Every run keeps the invariant.** -/
theorem Sound.play {c0 : Int} {l : Ledger} {h : List Event} (hs : Sound c0 l h)
    (calls : List Call) : Sound c0 (l.play calls).1 (h ++ (l.play calls).2) := by
  induction calls generalizing l h with
  | nil => simpa using hs
  | cons c cs ih =>
    rw [play_cons]
    simpa using ih (hs.apply c)

/-! ### Committing as soon as it can -/

/-- A running ledger has committed all it can: its first pending offset is unresolved. -/
def FrontUnresolved (l : Ledger) : Prop := l.halt = none → ∀ p ∈ l.pending.head?, p.2 = false

theorem frontUnresolved_halted (l : Ledger) (f : Fault) : FrontUnresolved (l.halted f) := by
  intro hh
  have := halted_halt_isSome l f
  simp [hh] at this

/-- With nothing to commit, the first pending offset is unresolved. -/
theorem front_of_commitCandidate_none {l : Ledger} (hc : l.commitCandidate? = none) :
    ∀ p ∈ l.pending.head?, p.2 = false := by
  intro p hp
  rw [commitCandidate?_eq] at hc
  obtain ⟨rest, hrest⟩ := List.head?_eq_some_iff.mp (Option.mem_def.mp hp)
  rw [hrest] at hc
  cases hb : p.2
  · rfl
  · simp [List.takeWhile_cons_of_pos hb] at hc

/-- After a commit of the offset the resolved prefix ends at, the first offset left pending is
unresolved: the offsets above the commit are those past the resolved prefix. -/
theorem front_after_commit {l : Ledger} {next : Int} (hs : l.pendingOffsets.Pairwise (· < ·))
    (hc : l.commitCandidate? = some next) :
    ∀ p ∈ (l.pending.filter (·.1 > next)).head?, p.2 = false := by
  have hsplit := List.takeWhile_append_dropWhile (p := fun q : Int × Bool => q.2) (l := l.pending)
  rw [commitCandidate?_eq] at hc
  obtain ⟨⟨x, b⟩, hlast, rfl⟩ := Option.map_eq_some_iff.mp hc
  obtain ⟨ys, hys⟩ := List.getLast?_eq_some_iff.mp hlast
  rw [pendingOffsets, ← hsplit, List.map_append, List.pairwise_append, hys] at hs
  obtain ⟨hpre, -, hcross⟩ := hs
  have hlow : ∀ q ∈ ys ++ [(x, b)], q.1 ≤ x := by
    intro q hq
    rcases List.mem_append.mp hq with hq | hq
    · rw [List.map_append, List.pairwise_append] at hpre
      exact Int.le_of_lt (hpre.2.2 q.1 (List.mem_map_of_mem hq) x (by simp))
    · simp [List.mem_singleton.mp hq]
  have hhigh : ∀ q ∈ l.pending.dropWhile (·.2), x < q.1 := fun q hq =>
    hcross x (by simp) q.1 (List.mem_map_of_mem hq)
  -- so the offsets kept after the commit are exactly those past the resolved prefix
  have hfilter : l.pending.filter (·.1 > x) = l.pending.dropWhile (·.2) := by
    have hparts : l.pending.filter (·.1 > x) =
        (l.pending.takeWhile (·.2) ++ l.pending.dropWhile (·.2)).filter (·.1 > x) := by
      rw [hsplit]
    rw [hparts, hys, List.filter_append, List.filter_eq_nil_iff.mpr (fun q hq => by simpa using hlow q hq),
      List.filter_eq_self.mpr (fun q hq => by simpa using hhigh q hq), List.nil_append]
  dsimp only
  rw [hfilter]
  intro p hp
  have hfirst := List.head?_dropWhile_not (fun q : Int × Bool => q.2) l.pending
  rw [Option.mem_def.mp hp] at hfirst
  exact hfirst

/-- **Every call keeps the first pending offset of a running ledger unresolved.** -/
theorem FrontUnresolved.apply {c0 : Int} {l : Ledger} {h : List Event} (hs : Sound c0 l h)
    (hf : FrontUnresolved l) (c : Call) : FrontUnresolved (c.apply l).1 := by
  cases c with
  | track o s =>
    rcases apply_track_cases l o s with ⟨hh, -, heq⟩ | heq | ⟨f, heq⟩
    · rw [heq]
      intro _ p hp
      rcases hpend : l.pending with _ | ⟨q, rest⟩
      · simp only [hpend, List.nil_append, List.head?_cons, Option.mem_def,
          Option.some.injEq] at hp
        simp [← hp]
      · have hq : q = p := by simpa [hpend] using hp
        exact hf hh p (by simp [hpend, ← hq])
    · rw [heq]
      exact hf
    · rw [heq]
      exact frontUnresolved_halted l f
  | resolve o a =>
    show FrontUnresolved (l.resolve o a).1
    rcases resolve_cases l o a with
      ⟨f, heq⟩ | ⟨-, -, ⟨hc, heq⟩ | ⟨next, hc, ⟨-, f, heq⟩ | ⟨-, heq⟩⟩⟩
    · rw [heq]
      exact frontUnresolved_halted l f
    · rw [heq]
      exact fun _ => front_of_commitCandidate_none hc
    · rw [heq]
      exact frontUnresolved_halted _ f
    · rw [heq]
      cases a with
      | some e =>
        obtain ⟨f, hf'⟩ := settle_some (l.markResolved o) next e
        rw [hf']
        exact frontUnresolved_halted _ f
      | none =>
        rw [settle_none]
        exact fun _ => front_after_commit (by simpa using hs.sorted) hc
  | halt e =>
    cases e with
    | none => exact hf
    | some f => exact frontUnresolved_halted l f
  | observeHighWater hw =>
    simp only [Call.apply, Ledger.observeHighWater]
    split
    · exact hf
    · exact hf

end Conveyor.Ledger
