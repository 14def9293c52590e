import Conveyor.Offsets.Ledger
/-!
# Calls on a ledger and the history they leave

A ledger is driven by four calls: tracking an offset, resolving one, halting, and observing
the broker's high-water mark. Resolving calls the commit callback when the resolved prefix
names an offset; what the callback answers is part of the call (`Call.resolve`), so a list
of calls fixes a run whatever the callback does. A call that would wait (tracking into a
full ledger) changes nothing: the caller makes it again once it can go on.

A run leaves a history that its callers can see (`Event`): an offset was tracked, an offset
was marked resolved, the callback was called with an offset. `Ledger.play` runs calls and
gathers their history.

The lemmas here say once what each call can do (`apply_track_cases`, `resolve_cases`,
`settle_none`, `settle_some`), so that the invariants of `Proofs.Ledger.Invariant` never
unfold the ledger's operations.
-/

namespace Conveyor.Ledger

/-- One call on a ledger, with what the world answers during it. -/
inductive Call where
  /-- Tracking an offset, with the shutdown begun by then, if any. -/
  | track (offset : Int) (shutdown : Option Fault)
  /-- Resolving an offset; `answer` is what the commit callback answers, if it is called. -/
  | resolve (offset : Int) (answer : Option Fault)
  /-- Halting with a fault; halting with none halts nothing. -/
  | halt (err : Option Fault)
  | observeHighWater (hw : Int)

/-- What the callers of a ledger see happen. -/
inductive Event where
  /-- The offset was tracked. -/
  | tracked (offset : Int)
  /-- The offset was marked resolved. -/
  | resolved (offset : Int)
  /-- The commit callback was called with the offset. -/
  | commit (offset : Int)
  deriving DecidableEq

/-- The offset a commit event names. -/
def Event.commit? : Event → Option Int
  | .commit x => some x
  | _ => none

/-- The offsets the commit callback was called with, in order. -/
def commitOffsets (h : List Event) : List Int := h.filterMap Event.commit?

/-- **Resolving an offset** with a commit callback that answers `answer`: the offset is
marked, and the offset the resolved prefix then names is committed. -/
def resolve (l : Ledger) (offset : Int) (answer : Option Fault) : Ledger × List Event :=
  match l.mark offset with
  | (l', .ok (some next)) => ((l'.settle next answer).1, [.resolved offset, .commit next])
  | (l', .ok none) => (l', [.resolved offset])
  | (l', .error _) => (l', [])

/-- **One call** on a ledger: the ledger afterwards and what the call showed. -/
def Call.apply : Call → Ledger → Ledger × List Event
  | .track offset shutdown, l =>
    match l.track offset shutdown with
    | (.tracked, l') => (l', [.tracked offset])
    | (_, l') => (l', [])
  | .resolve offset answer, l => l.resolve offset answer
  | .halt err, l => (l.haltWith err, [])
  | .observeHighWater hw, l => (l.observeHighWater hw, [])

/-- **A run** of calls: the ledger at its end and the history it left. -/
def play : Ledger → List Call → Ledger × List Event
  | l, [] => (l, [])
  | l, c :: cs => ((c.apply l).1.play cs |>.1, (c.apply l).2 ++ ((c.apply l).1.play cs).2)

/-- Every commit of a history names an offset that every tracked offset not above it had
been resolved before: each offset tracked before the commit and at most the committed one
was resolved before the commit. -/
def CommitsCovered (h : List Event) : Prop :=
  ∀ pre x post, h = pre ++ .commit x :: post → ∀ o, .tracked o ∈ pre → o ≤ x → .resolved o ∈ pre

/-- Every offset tracked after a commit lies above the committed offset. -/
def LaterTracksAbove (h : List Event) : Prop :=
  ∀ pre x post, h = pre ++ .commit x :: post → ∀ o, .tracked o ∈ post → x < o

/-! ### Runs -/

@[simp] theorem play_nil (l : Ledger) : l.play [] = (l, []) := rfl

theorem play_cons (l : Ledger) (c : Call) (cs : List Call) :
    l.play (c :: cs) = (((c.apply l).1.play cs).1, (c.apply l).2 ++ ((c.apply l).1.play cs).2) :=
  rfl

/-- A run of two parts is the second part run from where the first ended. -/
theorem play_append (l : Ledger) (pre post : List Call) :
    l.play (pre ++ post) =
      (((l.play pre).1.play post).1, (l.play pre).2 ++ ((l.play pre).1.play post).2) := by
  induction pre generalizing l with
  | nil => simp
  | cons c cs ih => simp [play_cons, ih]

@[simp] theorem commitOffsets_nil : commitOffsets [] = [] := rfl

@[simp] theorem commitOffsets_append (h h' : List Event) :
    commitOffsets (h ++ h') = commitOffsets h ++ commitOffsets h' :=
  List.filterMap_append

@[simp] theorem commitOffsets_cons_tracked (o : Int) (h : List Event) :
    commitOffsets (.tracked o :: h) = commitOffsets h := rfl

@[simp] theorem commitOffsets_cons_resolved (o : Int) (h : List Event) :
    commitOffsets (.resolved o :: h) = commitOffsets h := rfl

@[simp] theorem commitOffsets_cons_commit (x : Int) (h : List Event) :
    commitOffsets (.commit x :: h) = x :: commitOffsets h := rfl

theorem mem_commitOffsets {x : Int} {h : List Event} :
    x ∈ commitOffsets h ↔ Event.commit x ∈ h := by
  induction h with
  | nil => simp
  | cons e h ih => cases e <;> simp [ih]

/-! ### Halting -/

@[simp] theorem halted_pending (l : Ledger) (f : Fault) : (l.halted f).pending = l.pending := by
  unfold halted; split <;> rfl

@[simp] theorem halted_index (l : Ledger) (f : Fault) : (l.halted f).index = l.index := by
  unfold halted; split <;> rfl

@[simp] theorem halted_committed (l : Ledger) (f : Fault) :
    (l.halted f).committed = l.committed := by
  unfold halted; split <;> rfl

@[simp] theorem halted_lastTracked (l : Ledger) (f : Fault) :
    (l.halted f).lastTracked = l.lastTracked := by
  unfold halted; split <;> rfl

@[simp] theorem halted_halt_isSome (l : Ledger) (f : Fault) : (l.halted f).halt.isSome := by
  unfold halted; split <;> simp_all

/-- Halting a halted ledger changes nothing. -/
theorem halted_of_isSome {l : Ledger} (h : l.halt.isSome) (f : Fault) : l.halted f = l := by
  unfold halted; split <;> simp_all

@[simp] theorem markResolved_committed (l : Ledger) (o : Int) :
    (l.markResolved o).committed = l.committed := rfl

@[simp] theorem markResolved_lastTracked (l : Ledger) (o : Int) :
    (l.markResolved o).lastTracked = l.lastTracked := rfl

@[simp] theorem markResolved_halt (l : Ledger) (o : Int) : (l.markResolved o).halt = l.halt := rfl

@[simp] theorem observeHighWater_pending (l : Ledger) (hw : Int) :
    (l.observeHighWater hw).pending = l.pending := by
  unfold observeHighWater; split <;> rfl

@[simp] theorem observeHighWater_index (l : Ledger) (hw : Int) :
    (l.observeHighWater hw).index = l.index := by
  unfold observeHighWater; split <;> rfl

@[simp] theorem observeHighWater_committed (l : Ledger) (hw : Int) :
    (l.observeHighWater hw).committed = l.committed := by
  unfold observeHighWater; split <;> rfl

@[simp] theorem observeHighWater_lastTracked (l : Ledger) (hw : Int) :
    (l.observeHighWater hw).lastTracked = l.lastTracked := by
  unfold observeHighWater; split <;> rfl

@[simp] theorem observeHighWater_halt (l : Ledger) (hw : Int) :
    (l.observeHighWater hw).halt = l.halt := by
  unfold observeHighWater; split <;> rfl

/-! ### What each call can do -/

/-- **What tracking can do.** It appends the offset unresolved, on a running ledger and above
the last tracked offset; or it refuses with a fault, leaving the ledger as it is or halting it
with that fault; or the ledger is full and stays as it is. -/
theorem track_cases (l : Ledger) (o : Int) (s : Option Fault) :
    (l.halt = none ∧ l.lastTracked < o ∧
      l.track o s = (.tracked, { l with pending := l.pending ++ [(o, false)],
                                        index := (o, (o, false)) :: l.index, lastTracked := o })) ∨
    (∃ f, l.track o s = (.refused f, l) ∨ l.track o s = (.refused f, l.halted f)) ∨
    l.track o s = (.full, l) := by
  rcases hh : l.halt with _ | f
  · rcases s with _ | g
    · by_cases hfull : l.pending.length ≥ l.capacity
      · exact .inr (.inr (by simp [track, hh, hfull]))
      · by_cases hord : o ≤ l.lastTracked
        · refine .inr (.inl ⟨l.violation o ("tracked after " ++ toString l.lastTracked), .inr ?_⟩)
          simp [track, hh, hfull, hord]
        · exact .inl ⟨rfl, by omega, by simp [track, hh, hfull, hord]⟩
    · exact .inr (.inl ⟨g, .inl (by simp [track, hh])⟩)
  · exact .inr (.inl ⟨f, .inl (by simp [track, hh])⟩)

/-- A halted ledger refuses to track with the fault it halted with. -/
theorem track_of_halted {l : Ledger} {e : Fault} (hh : l.halt = some e) (o : Int)
    (s : Option Fault) : l.track o s = (.refused e, l) := by
  simp [track, hh]

/-- Tracking either appends the offset unresolved, on a running ledger and above the last
tracked offset, or shows nothing and at most halts the ledger. -/
theorem apply_track_cases (l : Ledger) (o : Int) (s : Option Fault) :
    (l.halt = none ∧ l.lastTracked < o ∧
      (Call.track o s).apply l =
        ({ l with pending := l.pending ++ [(o, false)], index := (o, (o, false)) :: l.index,
                  lastTracked := o }, [.tracked o])) ∨
    (Call.track o s).apply l = (l, []) ∨ ∃ f, (Call.track o s).apply l = (l.halted f, []) := by
  rcases track_cases l o s with ⟨hh, hlt, ht⟩ | ⟨f, ht | ht⟩ | ht
  · exact .inl ⟨hh, hlt, by simp [Call.apply, ht]⟩
  · exact .inr (.inl (by simp [Call.apply, ht]))
  · exact .inr (.inr ⟨f, by simp [Call.apply, ht]⟩)
  · exact .inr (.inl (by simp [Call.apply, ht]))

/-- A successful commit removes the resolved prefix up to `next`, from the list and from the
index, and moves the committed offset there. -/
theorem settle_none (l : Ledger) (next : Int) :
    (l.settle next none).1 =
      { l with pending := l.pending.filter (·.1 > next),
               index := l.index.filter fun e => !((l.pending.filter (·.1 ≤ next)).any (·.1 == e.1)),
               committed := next, commits := l.commits + 1 } := rfl

/-- A failed commit halts the ledger and changes nothing else. -/
theorem settle_some (l : Ledger) (next : Int) (e : Fault) :
    ∃ f, (l.settle next (some e)).1 = l.halted f := ⟨_, rfl⟩

/-- **What resolving can do.** It refuses with nothing shown and at most halts the ledger;
or, on a running ledger whose index finds an unresolved entry for the offset, it marks the offset and
then commits nothing, stops at the check that the commit would move back, or commits the
offset the resolved prefix names. -/
theorem resolve_cases (l : Ledger) (o : Int) (a : Option Fault) :
    (∃ f, l.resolve o a = (l.halted f, [])) ∨
    (l.halt = none ∧ (∃ k, l.index.lookup o = some (k, false)) ∧
      ((l.markResolved o).commitCandidate? = none ∧
          l.resolve o a = (l.markResolved o, [.resolved o]) ∨
        ∃ next, (l.markResolved o).commitCandidate? = some next ∧
          ((next ≤ l.committed ∧ ∃ f, l.resolve o a = ((l.markResolved o).halted f, [])) ∨
           (l.committed < next ∧
             l.resolve o a = (((l.markResolved o).settle next a).1, [.resolved o, .commit next]))))) := by
  rcases hh : l.halt with _ | f
  · rcases hfind : l.index.lookup o with _ | ⟨k, b⟩
    · exact .inl ⟨l.violation o "resolved but never tracked", by simp [resolve, mark, hh, hfind]⟩
    · cases b
      · refine .inr ⟨rfl, ⟨k, rfl⟩, ?_⟩
        rcases hc : (l.markResolved o).commitCandidate? with _ | next
        · exact .inl ⟨rfl, by simp [resolve, mark, hh, hfind, hc]⟩
        · refine .inr ⟨next, rfl, ?_⟩
          by_cases hle : next ≤ l.committed
          · refine .inl ⟨hle, l.violation next ("commit would move back from " ++
              toString l.committed), ?_⟩
            simp [resolve, mark, hh, hfind, hc, hle]
            rfl
          · exact .inr ⟨by omega, by simp [resolve, mark, hh, hfind, hc, hle]⟩
      · exact .inl ⟨l.violation o "resolved twice", by simp [resolve, mark, hh, hfind]⟩
  · exact .inl ⟨f, by simp [resolve, mark, hh, halted_of_isSome (l := l) (by simp [hh])]⟩

/-- Resolving on a halted ledger changes nothing and shows nothing. -/
theorem resolve_of_halted {l : Ledger} (hh : l.halt.isSome) (o : Int) (a : Option Fault) :
    l.resolve o a = (l, []) := by
  rcases resolve_cases l o a with ⟨f, heq⟩ | ⟨hnone, -⟩
  · rw [heq, halted_of_isSome hh]
  · simp [hnone] at hh

end Conveyor.Ledger
