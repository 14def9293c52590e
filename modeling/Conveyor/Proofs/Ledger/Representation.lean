import Conveyor.Proofs.Ledger.Resolution
/-!
# The shape every reachable ledger keeps

Whatever calls a ledger receives, in whatever order, and whatever its commit callback answers,
the ledger it reaches is well formed (`reachable_ledger_rep_ok`):

* the pending offsets increase strictly, and each lies above the committed offset and at or
  below the last tracked one;
* the ledger's index, where resolving looks an offset up, holds exactly the pending offsets and
  gives each its own entry;
* the committed offset is at most the last tracked one;
* at most `capacity` offsets are pending;
* a running ledger's first pending offset is unresolved;

and from there on the committed offset never goes down.

The order, the bounds, the index and the first pending offset come from the invariant `Sound`
and `FrontUnresolved.apply`: tracking adds an entry to the index, marking changes it there as in
the list, and a commit drops the committed offsets from it (`IndexAgrees.cons_snoc`,
`IndexAgrees.map`, `IndexAgrees.filter`). The room and the committed offset are kept call by
call: tracking adds an offset only below capacity and no other call adds one (`room_apply`), and
a commit only moves forward (`committed_le_apply`).
-/

namespace Conveyor.Ledger

/-- **The representation invariant** of a ledger. -/
structure RepOk (l : Ledger) : Prop where
  sorted : l.pendingOffsets.Pairwise (· < ·)
  bounded : ∀ k ∈ l.pendingOffsets, l.committed < k ∧ k ≤ l.lastTracked
  indexed : ∀ o e, l.index.lookup o = some e ↔ e ∈ l.pending ∧ e.1 = o
  committed_le : l.committed ≤ l.lastTracked
  room : l.pending.length ≤ l.capacity
  front : FrontUnresolved l

/-! ### Capacity -/

@[simp] theorem halted_capacity (l : Ledger) (f : Fault) : (l.halted f).capacity = l.capacity := by
  unfold halted; split <;> rfl

@[simp] theorem observeHighWater_capacity (l : Ledger) (hw : Int) :
    (l.observeHighWater hw).capacity = l.capacity := by
  unfold observeHighWater; split <;> rfl

@[simp] theorem markResolved_capacity (l : Ledger) (o : Int) :
    (l.markResolved o).capacity = l.capacity := rfl

@[simp] theorem length_markResolved_pending (l : Ledger) (o : Int) :
    (l.markResolved o).pending.length = l.pending.length := by
  simp [markResolved]

/-- Tracking, as a call, leaves the ledger that `Ledger.track` returns, whatever it answered. -/
theorem apply_track_fst (l : Ledger) (o : Int) (s : Option Fault) :
    ((Call.track o s).apply l).1 = (l.track o s).2 := by
  simp only [Call.apply]
  split <;> rename_i heq <;> simp [heq]

/-- **What tracking does to the pending offsets.** It keeps the capacity, and either leaves
the pending offsets as they are or, on a ledger with room, appends the offset unresolved. -/
theorem track_room (l : Ledger) (o : Int) (s : Option Fault) :
    (l.track o s).2.capacity = l.capacity ∧
      ((l.track o s).2.pending = l.pending ∨
        l.pending.length < l.capacity ∧ (l.track o s).2.pending = l.pending ++ [(o, false)]) := by
  unfold track
  -- a halt, a shutdown, a full ledger and an offset out of order all leave the pending offsets
  split
  · exact ⟨rfl, .inl rfl⟩
  · exact ⟨rfl, .inl rfl⟩
  · split_ifs with hfull hord
    · exact ⟨rfl, .inl rfl⟩
    · exact ⟨by simp, .inl (by simp)⟩
    · exact ⟨rfl, .inr ⟨by omega, rfl⟩⟩

/-- Resolving never adds a pending offset, and keeps the capacity. -/
theorem resolve_room (l : Ledger) (o : Int) (a : Option Fault) :
    (l.resolve o a).1.capacity = l.capacity ∧
      (l.resolve o a).1.pending.length ≤ l.pending.length := by
  rcases resolve_cases l o a with ⟨f, heq⟩ | ⟨-, -, ⟨-, heq⟩ | ⟨next, -, ⟨-, f, heq⟩ | ⟨-, heq⟩⟩⟩
  · simp [heq]
  · simp [heq]
  · simp [heq]
  · rw [heq]
    cases a with
    | some e =>
      obtain ⟨f, hf⟩ := settle_some (l.markResolved o) next e
      simp [hf]
    | none =>
      -- a successful commit drops the resolved prefix
      rw [settle_none]
      exact ⟨rfl, length_markResolved_pending l o ▸ List.length_filter_le _ _⟩

/-- **Every call keeps the pending offsets within capacity.** -/
theorem room_apply {l : Ledger} (hr : l.pending.length ≤ l.capacity) (c : Call) :
    (c.apply l).1.pending.length ≤ (c.apply l).1.capacity := by
  cases c with
  | track o s =>
    rw [apply_track_fst]
    obtain ⟨hcap, hkeep | ⟨hlt, happ⟩⟩ := track_room l o s
    · rw [hcap, hkeep]
      exact hr
    · rw [hcap, happ, List.length_append, List.length_singleton]
      omega
  | resolve o a =>
    show (l.resolve o a).1.pending.length ≤ (l.resolve o a).1.capacity
    obtain ⟨hcap, hle⟩ := resolve_room l o a
    rw [hcap]
    exact Nat.le_trans hle hr
  | halt e =>
    cases e with
    | none => exact hr
    | some f => simpa [Call.apply, haltWith] using hr
  | observeHighWater hw => simpa [Call.apply] using hr

/-- **Every run keeps the pending offsets within capacity.** -/
theorem room_play {l : Ledger} (hr : l.pending.length ≤ l.capacity) (calls : List Call) :
    (l.play calls).1.pending.length ≤ (l.play calls).1.capacity := by
  induction calls generalizing l with
  | nil => exact hr
  | cons c cs ih =>
    rw [play_cons]
    exact ih (room_apply hr c)

/-- A ledger with room for two offsets holds the first two tracked and asks the third to wait. -/
example :
    ((Ledger.create "t" 0 (-1) 2).play [.track 0 none, .track 1 none, .track 2 none]).1.pending =
      [(0, false), (1, false)] := by
  decide

/-! ### The committed offset -/

/-- **No call moves the committed offset back.** -/
theorem committed_le_apply (c : Call) (l : Ledger) : l.committed ≤ (c.apply l).1.committed := by
  cases c with
  | track o s =>
    rcases apply_track_cases l o s with ⟨-, -, heq⟩ | heq | ⟨f, heq⟩ <;> simp [heq]
  | resolve o a =>
    show l.committed ≤ (l.resolve o a).1.committed
    rcases resolve_cases l o a with
      ⟨f, heq⟩ | ⟨-, -, ⟨-, heq⟩ | ⟨next, -, ⟨-, f, heq⟩ | ⟨hlt, heq⟩⟩⟩
    · simp [heq]
    · simp [heq]
    · simp [heq]
    · rw [heq]
      cases a with
      | some e =>
        obtain ⟨f, hf⟩ := settle_some (l.markResolved o) next e
        simp [hf]
      | none =>
        -- the commit names an offset above the committed one
        rw [settle_none]
        exact Int.le_of_lt hlt
  | halt e =>
    cases e with
    | none => exact Int.le_refl _
    | some f => simp [Call.apply, haltWith]
  | observeHighWater hw => simp [Call.apply]

/-- **No run moves the committed offset back.** -/
theorem committed_le_play (l : Ledger) (calls : List Call) :
    l.committed ≤ (l.play calls).1.committed := by
  induction calls generalizing l with
  | nil => exact Int.le_refl _
  | cons c cs ih =>
    rw [play_cons]
    exact Int.le_trans (committed_le_apply c l) (ih (c.apply l).1)

/-! ### Runs -/

/-- **Every run keeps the first pending offset of a running ledger unresolved.** -/
theorem FrontUnresolved.play {c0 : Int} {l : Ledger} {h : List Event} (hs : Sound c0 l h)
    (hf : FrontUnresolved l) (calls : List Call) : FrontUnresolved (l.play calls).1 := by
  induction calls generalizing l h with
  | nil => exact hf
  | cons c cs ih =>
    rw [play_cons]
    exact ih (hs.apply c) (hf.apply hs c)

/-- A sound ledger within capacity whose first pending offset is unresolved while it runs is
well formed. -/
theorem Sound.repOk {c0 : Int} {l : Ledger} {h : List Event} (hs : Sound c0 l h)
    (hr : l.pending.length ≤ l.capacity) (hf : FrontUnresolved l) : RepOk l where
  sorted := hs.sorted
  bounded k hk := ⟨hs.above k hk, hs.below k hk⟩
  indexed := hs.indexed
  committed_le := hs.committed_le
  room := hr
  front := hf

/-- **Every reachable ledger is well formed**, and no later call moves its committed offset
back. -/
theorem reachable_ledger_rep_ok (topic : String) (partition c0 capacity : Int)
    (calls : List Call) :
    let l := ((Ledger.create topic partition c0 capacity).play calls).1
    RepOk l ∧ ∀ later, l.committed ≤ (l.play later).1.committed := by
  intro l
  let start := Ledger.create topic partition c0 capacity
  -- a new ledger has nothing pending
  have hr : start.pending.length ≤ start.capacity := by simp [start, Ledger.create]
  have hf : FrontUnresolved start := fun _ p hp => by simp [start, Ledger.create] at hp
  have hs := sound_create topic partition c0 capacity
  have hs' : Sound c0 l (start.play calls).2 := by simpa using hs.play calls
  exact ⟨hs'.repOk (room_play hr calls) (hf.play hs calls), committed_le_play l⟩

end Conveyor.Ledger
