import Conveyor.Source.Memory
import Conveyor.Proofs.Dispatch.Feed
/-!
# Restarting on the in-memory log

The memory log keeps each partition's committed offset, the last one handled, so a new run of
the memory source on the same log resumes where the previous one stopped. A run claims each
partition at its committed offset and feeds the claim the records after it (`MemoryLog.feed`);
each commit of the claim raises the partition's committed offset to it
(`MemoryLog.commitAll`).

A log that appending and committing leave (`MemoryLog.Wellformed`) keeps every record at the
index that is its offset, and no committed offset below `-1`; so the records after a committed
offset `c` are those at offsets `c + 1`, `c + 2`, … below the high-water mark
(`offsets_after`). `restart_resumes` puts two runs on one log together:

* wherever the first run stops, every offset above the committed one at its start, up to the
  committed one at its stop, is the offset of a record whose handler succeeded;
* the second run tracks the offsets `c + 1`, `c + 2`, … after the committed offset `c` the
  first left, in order and each once, and once its source has handed over everything, it has
  tracked every offset up to the high-water mark.

Both rest on `Fed.commit_handled` and `Fed.Feeds` for the claims of the two runs, the first
through `Wellformed.commits_handled`. The memory source's own `consume` is one such fed run
(`consume_fed`, with the loop it runs), so all of it holds of the program's runs.
-/

namespace Conveyor.MemoryLog

variable {log : MemoryLog}

/-! ### Logs that appending and committing leave -/

/-- **A log as appending and committing leave it**: every record's offset is its index, and no
committed offset lies below `-1`. -/
structure Wellformed (log : MemoryLog) : Prop where
  offset_eq : ∀ (p k : Nat) (r : Record), (log.records p)[k]? = some r → r.offset = k
  committed_ge : ∀ p, -1 ≤ log.committedAt p

theorem wellformed_create (topic : String) (partitions : Int) :
    (create topic partitions).Wellformed where
  offset_eq p k r h := by
    have hnil : (create topic partitions).records p = #[] := by
      simp only [create, records, Array.getD_eq_getD_getElem?, Array.getElem?_replicate]
      split <;> split <;> rfl
    simp [hnil] at h
  committed_ge p := by
    simp only [create, committedAt, Array.getD_eq_getD_getElem?, Array.getElem?_replicate]
    split <;> split <;> exact Int.le_refl _

/-- An appended record gets the index its offset names. -/
theorem Wellformed.append (hl : log.Wellformed) (p : Nat) (key value : Option ByteArray)
    (headers : Option Headers) : (log.append p key value headers).Wellformed where
  offset_eq q k r h := by
    simp only [MemoryLog.append, records, highWater, Array.getD_eq_getD_getElem?,
      Array.getElem?_modify] at h
    by_cases hq : p = q
    · subst hq
      rcases hp : log.parts[p]? with _ | part
      · simp [hp] at h
      · simp only [hp, if_true, Option.map_some, Option.getD_some, Array.getElem?_push] at h
        split at h
        · -- the new record sits at the partition's old size, its offset
          next hk =>
          simp only [Option.some.injEq] at h
          rw [← h, hk]
        · exact hl.offset_eq p k r (by simpa [records, Array.getD_eq_getD_getElem?, hp] using h)
    · simp only [hq, if_false] at h
      exact hl.offset_eq q k r (by simpa [records, Array.getD_eq_getD_getElem?] using h)
  committed_ge := hl.committed_ge

theorem committedAt_commit_le (log : MemoryLog) (p : Nat) (x : Int) :
    (log.commit p x).committedAt p ≤ max (log.committedAt p) x := by
  simp only [commit, committedAt, Array.getD_eq_getD_getElem?, Array.getElem?_modify, if_true]
  rcases log.committed[p]? with _ | c
  · exact Int.le_max_left _ _
  · exact Int.le_refl _

theorem committedAt_le_commit (log : MemoryLog) (p q : Nat) (x : Int) :
    log.committedAt q ≤ (log.commit p x).committedAt q := by
  simp only [commit, committedAt, Array.getD_eq_getD_getElem?, Array.getElem?_modify]
  split
  · rcases log.committed[q]? with _ | c
    · exact Int.le_refl _
    · exact Int.le_max_left _ _
  · exact Int.le_refl _

/-- Committing never moves a committed offset back. -/
theorem Wellformed.commit (hl : log.Wellformed) (p : Nat) (x : Int) :
    (log.commit p x).Wellformed where
  offset_eq := hl.offset_eq
  committed_ge q := Int.le_trans (hl.committed_ge q) (log.committedAt_le_commit p q x)

/-! ### Commits of a run -/

/-- The log once the commit function of partition `p` ran with each offset in turn. -/
def commitAll (log : MemoryLog) (p : Nat) (xs : List Int) : MemoryLog :=
  xs.foldl (·.commit p ·) log

@[simp] theorem records_commitAll (log : MemoryLog) (p : Nat) (xs : List Int) (q : Nat) :
    (log.commitAll p xs).records q = log.records q := by
  induction xs generalizing log with
  | nil => rfl
  | cons x xs ih => exact ih (log.commit p x)

@[simp] theorem highWater_commitAll (log : MemoryLog) (p : Nat) (xs : List Int) (q : Nat) :
    (log.commitAll p xs).highWater q = log.highWater q := by
  simp [highWater]

theorem Wellformed.commitAll (hl : log.Wellformed) (p : Nat) (xs : List Int) :
    (log.commitAll p xs).Wellformed := by
  induction xs generalizing log with
  | nil => exact hl
  | cons x xs ih => exact ih (hl.commit p x)

/-- After the commits, the committed offset is the one before them or below one of them. -/
theorem le_committedAt_commitAll (log : MemoryLog) (p : Nat) (xs : List Int) {o : Int}
    (h : o ≤ (log.commitAll p xs).committedAt p) : o ≤ log.committedAt p ∨ ∃ x ∈ xs, o ≤ x := by
  induction xs generalizing log with
  | nil => exact .inl h
  | cons x xs ih =>
    rcases ih (log.commit p x) h with h' | ⟨y, hy, hle⟩
    · have hmax := log.committedAt_commit_le p x
      by_cases hx : o ≤ x
      · exact .inr ⟨x, List.mem_cons_self, hx⟩
      · exact .inl (by omega)
    · exact .inr ⟨y, List.mem_cons_of_mem x hy, hle⟩

/-! ### The records after a committed offset -/

/-- The records of partition `p` after offset `c`. -/
def after (log : MemoryLog) (p : Nat) (c : Int) : List Record :=
  (log.records p).toList.drop (c + 1).toNat

/-- **The records after a committed offset** `c` are those at offsets `c + 1`, `c + 2`, …
below the high-water mark, in order. -/
theorem Wellformed.offsets_after (hl : log.Wellformed) (p : Nat) {c : Int} (hc : -1 ≤ c) :
    (log.after p c).map (·.offset) =
      (List.range (log.highWater p - (c + 1)).toNat).map fun k : Nat => c + 1 + (k : Int) := by
  apply List.ext_getElem?
  intro k
  simp only [after, List.getElem?_map, List.getElem?_drop, Array.getElem?_toList]
  by_cases hk : (c + 1).toNat + k < (log.records p).size
  · -- the record at index `c + 1 + k` has that offset
    have hget : (log.records p)[(c + 1).toNat + k]? = some (log.records p)[(c + 1).toNat + k] :=
      Array.getElem?_eq_getElem hk
    have hoff := hl.offset_eq p _ _ hget
    have hrange : k < (log.highWater p - (c + 1)).toNat := by
      unfold highWater
      omega
    rw [hget, List.getElem?_range hrange, Option.map_some, Option.map_some, hoff]
    congr 1
    omega
  · have hrange : (List.range (log.highWater p - (c + 1)).toNat).length ≤ k := by
      rw [List.length_range]
      unfold highWater
      omega
    rw [Array.getElem?_eq_none (by omega), List.getElem?_eq_none hrange]
    rfl

/-- The offsets after a committed offset increase. -/
theorem Wellformed.after_sorted (hl : log.Wellformed) (p : Nat) {c : Int} (hc : -1 ≤ c) :
    ((log.after p c).map (·.offset)).Pairwise (· < ·) := by
  rw [hl.offsets_after p hc, List.pairwise_map]
  exact (List.pairwise_lt_range).imp fun hlt => by omega

/-- A record sits at every offset from the one after `c` up to a record after `c`. -/
theorem Wellformed.exists_after (hl : log.Wellformed) (p : Nat) {c : Int} (hc : -1 ≤ c)
    {m : Record} (hm : m ∈ log.after p c) {o : Int} (ho : c < o) (hle : o ≤ m.offset) :
    ∃ r ∈ log.after p c, r.offset = o := by
  have hoffsets := hl.offsets_after p hc
  have hmo : m.offset ∈ (log.after p c).map (·.offset) := List.mem_map_of_mem hm
  rw [hoffsets] at hmo
  obtain ⟨i, hi, heq⟩ := List.mem_map.mp hmo
  have hmem :
      o ∈ (List.range (log.highWater p - (c + 1)).toNat).map fun k : Nat => c + 1 + (k : Int) := by
    refine List.mem_map.mpr ⟨(o - (c + 1)).toNat, List.mem_range.mpr ?_, by omega⟩
    have := List.mem_range.mp hi
    omega
  rw [← hoffsets] at hmem
  obtain ⟨r, hr, hro⟩ := List.mem_map.mp hmem
  exact ⟨r, hr, hro⟩

/-! ### Two runs on one log -/

/-- The memory source starting on partition `p` over a dispatcher: the partition claimed at its
committed offset, and the records after it to feed; with the claim's number. -/
def feed (log : MemoryLog) (d : Dispatcher) (p : Nat) : Nat × Pool.Fed :=
  let start := Pool.start d log.topic p (log.committedAt p)
  (start.1, Pool.Fed.begin start.2 start.1 (log.after p (log.committedAt p)))

/-- **A run commits only what it handled.** In a fed run on a well-formed log, every offset above
the partition's committed offset at the start, up to the committed offset the run's commits
leave, is the offset of a record after the first whose handler succeeded in the run. -/
theorem Wellformed.commits_handled (hlog : log.Wellformed) (p : Nat) (d : Dispatcher)
    (steps : List Pool.Fed.Step) :
    let first := log.feed d p
    let f := first.2.run steps
    ∀ o, log.committedAt p < o →
      o ≤ (log.commitAll p (Pool.commitsOf first.1 f.pool.seen)).committedAt p →
      ∃ r ∈ log.after p (log.committedAt p),
        r.offset = o ∧ .finished first.1 r none ∈ f.pool.seen := by
  intro first f o hlo hhi
  have hc0 := hlog.committed_ge p
  -- the run's claim keeps its invariant, and its source what it was fed
  obtain ⟨l, hc, hf⟩ := Pool.Fed.start_run d log.topic p (log.committedAt p)
    (log.after p (log.committedAt p)) steps
  -- an offset up to the new committed one lies at or below a commit of the run
  rcases le_committedAt_commitAll log p _ hhi with hle | ⟨x, hx, hle⟩
  · omega
  obtain ⟨a, hx⟩ := Pool.mem_commitsOf.mp hx
  obtain ⟨m, hm, -, -, rfl⟩ := Pool.Fed.commit_mem hc hf hx
  obtain ⟨r, hr, hro⟩ := hlog.exists_after p hc0 hm hlo hle
  obtain ⟨pre, post, hsplit⟩ := List.append_of_mem hx
  have hdone := Pool.Fed.commit_handled hc hf (hlog.after_sorted p hc0) hsplit hr (hro ▸ hle)
  exact ⟨r, hr, hro, by rw [hsplit]; exact List.mem_append_left _ hdone⟩

/-- **Restarting resumes after the last commit.** For a well-formed log, a partition `p`, and
two fed runs from any dispatchers, the second on the log the first one's commits left:

* every offset above the partition's committed offset at the first run's start and up to the
  committed offset it left is the offset of a record whose handler succeeded in the first run;
* the second run tracks, in order, offsets `c + 1`, `c + 2`, … from the committed offset `c`
  the first left, each once and below the high-water mark; once its source has handed over
  all it holds, it has tracked every one of them. -/
theorem restart_resumes (log : MemoryLog) (hlog : log.Wellformed) (p : Nat) (d d' : Dispatcher)
    (steps steps' : List Pool.Fed.Step) :
    let first := log.feed d p
    let f := first.2.run steps
    let log' := log.commitAll p (Pool.commitsOf first.1 f.pool.seen)
    let second := log'.feed d' p
    let g := second.2.run steps'
    (∀ o, log.committedAt p < o → o ≤ log'.committedAt p →
      ∃ r, r.offset = o ∧ .finished first.1 r none ∈ f.pool.seen) ∧
    (∃ rest, (Pool.trackedOf second.1 g.pool.seen).map (·.offset) ++ rest =
      (List.range (log.highWater p - (log'.committedAt p + 1)).toNat).map
        fun k : Nat => log'.committedAt p + 1 + (k : Int)) ∧
    (g.sources second.1 = some (.feeding []) →
      (Pool.trackedOf second.1 g.pool.seen).map (·.offset) =
        (List.range (log.highWater p - (log'.committedAt p + 1)).toNat).map
          fun k : Nat => log'.committedAt p + 1 + (k : Int)) := by
  intro first f log' second g
  have hlog' : log'.Wellformed := hlog.commitAll p _
  have hc1 := hlog'.committed_ge p
  -- the second run: what its source keeps, over the records after the new committed offset
  obtain ⟨-, -, hg⟩ := Pool.Fed.start_run d' log'.topic p (log'.committedAt p)
    (log'.after p (log'.committedAt p)) steps'
  change Pool.Fed.Feeds second.1 _ g at hg
  have hoffsets := hlog'.offsets_after p hc1
  rw [highWater_commitAll] at hoffsets
  refine ⟨fun o hlo hhi => ?_, ?_, fun hdrained => ?_⟩
  · obtain ⟨r, -, hro, hdone⟩ := hlog.commits_handled p d steps o hlo hhi
    exact ⟨r, hro, hdone⟩
  · obtain ⟨rest, hrest⟩ := hg.first
    exact ⟨rest.map (·.offset), by rw [← List.map_append, hrest, hoffsets]⟩
  · have hall := hg.rest [] hdrained
    rw [List.append_nil] at hall
    rw [hall, hoffsets]

/-- A log of one partition with two records and nothing committed: the first run handles the
first record and stops, and the second dispatches the next one. -/
theorem restart_of_two_records :
    let log := ((create "t" 1).append 0 none none none).append 0 none none none
    let d : Dispatcher := { coordinator := { capacity := 4 }, limiter := Limiter.create 1 }
    let steps : List Pool.Fed.Step := [.next 0 2 none, .take 0 none, .pool (.finish 0 none none)]
    let first := log.feed d 0
    let f := first.2.run steps
    let log' := log.commitAll 0 (Pool.commitsOf first.1 f.pool.seen)
    let second := log'.feed d 0
    let g := second.2.run [.next 0 2 none]
    log.Wellformed ∧
    (∀ o, log.committedAt 0 < o → o ≤ log'.committedAt 0 →
      ∃ r, r.offset = o ∧ .finished first.1 r none ∈ f.pool.seen) ∧
    (∃ rest, (Pool.trackedOf second.1 g.pool.seen).map (·.offset) ++ rest =
      (List.range (log.highWater 0 - (log'.committedAt 0 + 1)).toNat).map
        fun k : Nat => log'.committedAt 0 + 1 + (k : Int)) ∧
    (g.sources second.1 = some (.feeding []) →
      (Pool.trackedOf second.1 g.pool.seen).map (·.offset) =
        (List.range (log.highWater 0 - (log'.committedAt 0 + 1)).toNat).map
          fun k : Nat => log'.committedAt 0 + 1 + (k : Int)) :=
  have hlog := ((wellformed_create "t" 1).append 0 none none none).append 0 none none none
  ⟨hlog, restart_resumes _ hlog 0 _ _ _ _⟩

end Conveyor.MemoryLog
