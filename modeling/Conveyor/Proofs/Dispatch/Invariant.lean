import Conveyor.Proofs.Dispatch.View
import Conveyor.Proofs.Ledger.Resolution
/-!
# The invariant of a claim

`Pool.ClaimSound id c0 w l` says what holds of claim `id`, opened at committed offset `c0`, in a
pool `w` where the claim's ledger is `l`:

* its records are kept in order (`Pool.Records`): a source waits with at most one record; the
  records in flight have distinct offsets, were tracked and have not finished; a record that
  finished was tracked; tracked records differ in their offsets;
* the ledger is sound for the claim's history (`Ledger.Sound`), and while it runs its first
  pending offset is unresolved (`Ledger.FrontUnresolved`);
* the offsets of the records in flight, and of abandoned records, are pending unresolved;
* an unresolved pending offset belongs to a record in flight unless something of the claim
  failed (`Pool.Faulted`), and a halted ledger was halted by such a failure.

It holds once the claim is opened (`claimSound_start`) and every step keeps it
(`ClaimSound.step`), so it holds after every schedule (`ClaimSound.run`). Steps made for
other claims change nothing it reads (`ClaimSound.untouched`); for the claim's own steps the
ledger's invariant carries the ledger's part, and the records' part is bookkeeping of who is
in flight.
-/

namespace Conveyor.Pool

open Ledger (Sound FrontUnresolved)

/-- Something of claim `id` failed: a dispatch, a handler or a commit. -/
def Faulted (id : Nat) (seen : List Seen) : Prop :=
  (∃ r e, .dispatched id r (some e) ∈ seen) ∨ (∃ r f, .finished id r (some f) ∈ seen) ∨
    ∃ x e, .commit id x (some e) ∈ seen

theorem Faulted.mono {id : Nat} {seen seen' : List Seen} (h : Faulted id seen)
    (hs : ∀ e ∈ seen, e ∈ seen') : Faulted id seen' := by
  rcases h with ⟨r, e, he⟩ | ⟨r, f, hf⟩ | ⟨x, e, hx⟩
  · exact .inl ⟨r, e, hs _ he⟩
  · exact .inr (.inl ⟨r, f, hs _ hf⟩)
  · exact .inr (.inr ⟨x, e, hs _ hx⟩)

/-- **The records of a claim are kept in order.** -/
structure Records (id : Nat) (w : Pool) : Prop where
  waiting_le : (ofClaim id w.waiting).length ≤ 1
  inflight_nodup : ((w.inflight id).map (·.offset)).Nodup
  inflight_tracked : ∀ r ∈ w.inflight id, .tracked id r ∈ w.seen
  inflight_unfinished : ∀ r ∈ w.inflight id, ∀ res, .finished id r res ∉ w.seen
  finished_tracked : ∀ r res, .finished id r res ∈ w.seen → .tracked id r ∈ w.seen
  tracked_unique : ∀ r r', .tracked id r ∈ w.seen → .tracked id r' ∈ w.seen →
    r.offset = r'.offset → r = r'

/-- **The invariant of a claim** opened at committed offset `c0`, whose ledger is `l`. -/
structure ClaimSound (id : Nat) (c0 : Int) (w : Pool) (l : Ledger) : Prop where
  records : Records id w
  ledger : w.ledger? id = some l
  sound : Sound c0 l (ledgerHistory id w.seen)
  front : FrontUnresolved l
  inflight_unresolved : ∀ r ∈ w.inflight id, (r.offset, false) ∈ l.pending
  abandoned_unresolved : ∀ r f, .finished id r (some f) ∈ w.seen → f.isa .abandoned →
    (r.offset, false) ∈ l.pending
  unresolved_cause : ∀ o, (o, false) ∈ l.pending →
    (∃ r ∈ w.inflight id, r.offset = o) ∨ Faulted id w.seen
  halt_cause : l.halt.isSome → Faulted id w.seen

section Records

variable {id : Nat} {w w' : Pool}

/-- A record that leaves the records in flight leaves the others with distinct offsets, none of
them its own. -/
theorem nodup_remove {A B : List Record} {r : Record} (h : ((A ++ r :: B).map (·.offset)).Nodup) :
    ((A ++ B).map (·.offset)).Nodup ∧ ∀ x ∈ A ++ B, x.offset ≠ r.offset := by
  have hperm := (List.perm_middle : (A ++ r :: B).Perm (r :: (A ++ B))).map (·.offset)
  rw [hperm.nodup_iff, List.map_cons, List.nodup_cons] at h
  obtain ⟨hr, hnd⟩ := h
  exact ⟨hnd, fun x hx he => hr (he ▸ List.mem_map_of_mem hx)⟩

/-- New events other than tracked and finished records keep the records in order, while the
records in flight stay the same up to order. -/
theorem Records.append_other (hr : Records id w) (hle : (ofClaim id w'.waiting).length ≤ 1)
    (hin : (w'.inflight id).Perm (w.inflight id)) (new : List Seen) (hseen : w'.seen = w.seen ++ new)
    (hnew : ∀ e ∈ new, (∀ r, e ≠ .tracked id r) ∧ ∀ r res, e ≠ .finished id r res) :
    Records id w' := by
  -- the tracked and finished records are the ones there were
  have hold : ∀ {e : Seen}, e ∈ w'.seen → (∀ r, e ≠ .tracked id r) ∧ (∀ r res, e ≠ .finished id r res) ∨
      e ∈ w.seen := by
    intro e he
    rw [hseen] at he
    rcases List.mem_append.mp he with he | he
    · exact .inr he
    · exact .inl (hnew e he)
  have htracked : ∀ r, .tracked id r ∈ w'.seen → .tracked id r ∈ w.seen := fun r h =>
    (hold h).resolve_left fun hn => hn.1 r rfl
  have hfinished : ∀ r res, .finished id r res ∈ w'.seen → .finished id r res ∈ w.seen :=
    fun r res h => (hold h).resolve_left fun hn => hn.2 r res rfl
  have hgrow : ∀ e ∈ w.seen, e ∈ w'.seen := fun e he => by simp [hseen, he]
  exact
    { waiting_le := hle
      inflight_nodup := (hin.map (·.offset)).nodup_iff.mpr hr.inflight_nodup
      inflight_tracked := fun r h => hgrow _ (hr.inflight_tracked r (hin.mem_iff.mp h))
      inflight_unfinished := fun r h res hf =>
        hr.inflight_unfinished r (hin.mem_iff.mp h) res (hfinished r res hf)
      finished_tracked := fun r res h => hgrow _ (hr.finished_tracked r res (hfinished r res h))
      tracked_unique := fun r r' h h' => hr.tracked_unique r r' (htracked r h) (htracked r' h') }

theorem Records.untouched (hr : Records id w) (hu : Untouched id w w') : Records id w' := by
  have hin := hu.inflight
  have hmem : ∀ {e : Seen}, e.claim = id → (e ∈ w'.seen ↔ e ∈ w.seen) := hu.mem_seen
  exact
    { waiting_le := hu.waiting ▸ hr.waiting_le
      inflight_nodup := hin ▸ hr.inflight_nodup
      inflight_tracked := fun r h => (hmem rfl).mpr (hr.inflight_tracked r (hin ▸ h))
      inflight_unfinished := fun r h res hf =>
        hr.inflight_unfinished r (hin ▸ h) res ((hmem rfl).mp hf)
      finished_tracked := fun r res h =>
        (hmem rfl).mpr (hr.finished_tracked r res ((hmem rfl).mp h))
      tracked_unique := fun r r' h h' =>
        hr.tracked_unique r r' ((hmem rfl).mp h) ((hmem rfl).mp h') }

/-- A handler returning takes its record out of the records in flight. -/
theorem inflight_handlerReturned {i : Nat} {r : Record} (hi : w.running[i]? = some (id, r))
    (res : Option Fault) :
    ∃ A B, w.inflight id = A ++ r :: B ∧ (w.handlerReturned i id r res).inflight id = A ++ B := by
  obtain ⟨A, B, hrun, herase⟩ := ofClaim_eraseIdx hi id
  simp only [ite_true] at hrun
  refine ⟨ofClaim id w.waiting ++ A, B, ?_, ?_⟩
  · simp [inflight, hrun]
  · simp [inflight, herase]

/-- A record leaving the records in flight keeps them in order, when the only record that
finishes meanwhile is that one. -/
theorem Records.remove (hr : Records id w) {A B : List Record} {r : Record}
    (hin : w.inflight id = A ++ r :: B) (hin' : w'.inflight id = A ++ B)
    (hle : (ofClaim id w'.waiting).length ≤ 1) {new : List Seen} (hseen : w'.seen = w.seen ++ new)
    (hnew : ∀ e ∈ new, (∀ x, e ≠ .tracked id x) ∧ ∀ x res, e = .finished id x res → x = r) :
    Records id w' := by
  have hnd := hr.inflight_nodup
  rw [hin] at hnd
  obtain ⟨hnd', hne⟩ := nodup_remove hnd
  have hsub : ∀ x ∈ A ++ B, x ∈ w.inflight id := fun x hx => by
    rw [hin]
    rcases List.mem_append.mp hx with hx | hx <;> simp [hx]
  have hrin : r ∈ w.inflight id := by simp [hin]
  have hgrow : ∀ e ∈ w.seen, e ∈ w'.seen := fun e he => by simp [hseen, he]
  -- a new event is no tracked record, and a finished record among them is `r`
  have hold : ∀ {e : Seen}, e ∈ w'.seen → e ∈ w.seen ∨
      (∀ x, e ≠ .tracked id x) ∧ ∀ x res, e = .finished id x res → x = r := by
    intro e he
    rw [hseen] at he
    exact (List.mem_append.mp he).imp (fun h => h) (hnew e)
  refine
    { waiting_le := hle
      inflight_nodup := by rw [hin']; exact hnd'
      inflight_tracked := ?_, inflight_unfinished := ?_, finished_tracked := ?_
      tracked_unique := ?_ }
  · intro x hx
    rw [hin'] at hx
    exact hgrow _ (hr.inflight_tracked x (hsub x hx))
  · intro x hx res hf
    rw [hin'] at hx
    rcases hold hf with hf | ⟨-, hfin⟩
    · exact hr.inflight_unfinished x (hsub x hx) res hf
    · exact hne x hx (congrArg Record.offset (hfin x res rfl))
  · intro x res hf
    rcases hold hf with hf | ⟨-, hfin⟩
    · exact hgrow _ (hr.finished_tracked x res hf)
    · exact hgrow _ (hfin x res rfl ▸ hr.inflight_tracked r hrin)
  · intro x x' hx hx'
    have hx : .tracked id x ∈ w.seen := (hold hx).resolve_right fun h => h.1 x rfl
    have hx' : .tracked id x' ∈ w.seen := (hold hx').resolve_right fun h => h.1 x' rfl
    exact hr.tracked_unique x x' hx hx'

theorem Records.handlerReturned (hr : Records id w) {i : Nat} {r : Record}
    (hi : w.running[i]? = some (id, r)) (res : Option Fault) :
    Records id (w.handlerReturned i id r res) := by
  obtain ⟨A, B, hin, hin'⟩ := inflight_handlerReturned hi res
  refine hr.remove hin hin' (by simpa using hr.waiting_le) (handlerReturned_seen ..) ?_
  intro e he
  simp only [List.mem_singleton] at he
  subst he
  exact ⟨fun x => by simp, fun x res' h => by simp only [Seen.finished.injEq] at h; exact h.2.1.symm⟩

end Records

section Steps

variable {id : Nat} {c0 : Int} {w : Pool} {l : Ledger}

/-- Every record of the claim tracked so far lies at or below the ledger's last tracked
offset. -/
theorem ClaimSound.offset_le (hc : ClaimSound id c0 w l) {r : Record}
    (hr : .tracked id r ∈ w.seen) : r.offset ≤ l.lastTracked :=
  hc.sound.tracked_le r.offset (tracked_mem_ledgerHistory.mpr ⟨r, hr, rfl⟩)

/-- **Opening a claim** in a pool with nothing waiting, running or seen. -/
theorem claimSound_start (d : Dispatcher) (topic : String) (partition c0 : Int) :
    ClaimSound (start d topic partition c0).1 c0 (start d topic partition c0).2
      (Ledger.create topic partition c0 d.coordinator.capacity) where
  records :=
    { waiting_le := by simp [start]
      inflight_nodup := by simp [start, inflight]
      inflight_tracked := by simp [start, inflight]
      inflight_unfinished := by simp [start, inflight]
      finished_tracked := by simp [start]
      tracked_unique := by simp [start] }
  ledger := by simp [start, ledger?, Coordinator.openPartition, Coordinator.get?]
  sound := by simpa [start] using Ledger.sound_create topic partition c0 d.coordinator.capacity
  front _ p hp := by simp [Ledger.create] at hp
  inflight_unresolved := by simp [start, inflight]
  abandoned_unresolved := by simp [start]
  unresolved_cause := by simp [Ledger.create]
  halt_cause := by simp [Ledger.create]

/-- Steps made for other claims keep the invariant. -/
theorem ClaimSound.untouched {w' : Pool} (hc : ClaimSound id c0 w l) (hu : Untouched id w w') :
    ClaimSound id c0 w' l := by
  have hin := hu.inflight
  have hgrow : ∀ e ∈ w.seen, e ∈ w'.seen := by
    obtain ⟨new, hseen, -⟩ := hu.seen
    intro e he
    simp [hseen, he]
  have hmem : ∀ {e : Seen}, e.claim = id → (e ∈ w'.seen ↔ e ∈ w.seen) := hu.mem_seen
  exact
    { records := hc.records.untouched hu
      ledger := hu.ledger ▸ hc.ledger
      sound := hu.ledgerHistory ▸ hc.sound
      front := hc.front
      inflight_unresolved := hin ▸ hc.inflight_unresolved
      abandoned_unresolved := fun r f h => hc.abandoned_unresolved r f ((hmem rfl).mp h)
      unresolved_cause := fun o ho =>
        (hc.unresolved_cause o ho).imp (fun h => hin ▸ h) (fun h => h.mono hgrow)
      halt_cause := fun h => (hc.halt_cause h).mono hgrow }

/-! #### Tracking -/

/-- **Tracking a record** appends its offset unresolved and puts the record in flight. -/
theorem ClaimSound.track_tracked (hc : ClaimSound id c0 w l) (hw : w.waitingOf id = none)
    {r : Record} {s : Option Fault} (hh : l.halt = none) (hlt : l.lastTracked < r.offset)
    {l' : Ledger}
    (hl' : l' = { l with pending := l.pending ++ [(r.offset, false)],
                         index := (r.offset, (r.offset, false)) :: l.index, lastTracked := r.offset })
    (ht : l.track r.offset s = (.tracked, l')) :
    ClaimSound id c0 { w.updateLedger id (fun _ => l') with
      waiting := w.waiting ++ [(id, r)], seen := w.seen ++ [.tracked id r] } l' := by
  have hnone : ofClaim id w.waiting = [] := by
    rw [waitingOf_eq] at hw
    exact List.head?_eq_none_iff.mp hw
  have hin : inflight { w.updateLedger id (fun _ => l') with
      waiting := w.waiting ++ [(id, r)], seen := w.seen ++ [.tracked id r] } id =
      r :: w.inflight id := by
    simp [inflight, hnone]
  -- every record tracked before lies below the new one
  have hbelow : ∀ x, .tracked id x ∈ w.seen → x.offset < r.offset := fun x hx =>
    Int.lt_of_le_of_lt (hc.offset_le hx) hlt
  have hpending : ∀ p ∈ l.pending, p ∈ l'.pending := by
    intro p hp
    simp [hl', hp]
  have hgrow : ∀ e ∈ w.seen, e ∈ w.seen ++ [.tracked id r] := fun e he => List.mem_append_left _ he
  have hfin : ∀ x res, .finished id x res ∈ w.seen ++ [.tracked id r] → .finished id x res ∈ w.seen := by
    intro x res h
    simpa using h
  refine
    { records := ?_
      ledger := by simp [hc.ledger]
      sound := ?_
      front := ?_
      inflight_unresolved := ?_
      abandoned_unresolved := fun x f h hf => hpending _ (hc.abandoned_unresolved x f (hfin x _ h) hf)
      unresolved_cause := ?_
      halt_cause := by simp [hl', hh] }
  · have hr := hc.records
    refine
      { waiting_le := by simp [hnone]
        inflight_nodup := ?_, inflight_tracked := ?_, inflight_unfinished := ?_
        finished_tracked := fun x res h => hgrow _ (hr.finished_tracked x res (hfin x res h))
        tracked_unique := ?_ }
    · rw [hin, List.map_cons, List.nodup_cons]
      refine ⟨fun hmem => ?_, hr.inflight_nodup⟩
      obtain ⟨x, hx, hxr⟩ := List.mem_map.mp hmem
      have := hbelow x (hr.inflight_tracked x hx)
      omega
    · rw [hin]
      intro x hx
      rcases List.mem_cons.mp hx with rfl | hx
      · simp
      · exact hgrow _ (hr.inflight_tracked x hx)
    · rw [hin]
      intro x hx res hf
      rcases List.mem_cons.mp hx with rfl | hx
      · -- a record that finished was tracked, so below the one tracked now
        have := hbelow x (hr.finished_tracked x res (hfin x res hf))
        omega
      · exact hr.inflight_unfinished x hx res (hfin x res hf)
    · intro x x' hx hx' hoff
      simp only [List.mem_append, List.mem_singleton, Seen.tracked.injEq, true_and] at hx hx'
      rcases hx with hx | rfl <;> rcases hx' with hx' | rfl
      · exact hr.tracked_unique x x' hx hx' hoff
      · have := hbelow x hx
        omega
      · have := hbelow x' hx'
        omega
      · rfl
  · have hhist : ledgerHistory id (w.seen ++ [.tracked id r]) =
        ledgerHistory id w.seen ++ [.tracked r.offset] := by simp
    rw [hhist, hl']
    exact hc.sound.track hh hlt
  · simpa [Ledger.Call.apply, ht] using Ledger.FrontUnresolved.apply hc.sound hc.front (.track r.offset s)
  · rw [hin]
    intro x hx
    rcases List.mem_cons.mp hx with rfl | hx
    · simp [hl']
    · exact hpending _ (hc.inflight_unresolved x hx)
  · intro o ho
    rw [hin]
    simp only [hl', List.mem_append, List.mem_singleton, Prod.mk.injEq, and_true] at ho
    rcases ho with ho | rfl
    · exact (hc.unresolved_cause o ho).imp (Exists.imp fun _ hx => ⟨List.mem_cons_of_mem _ hx.1, hx.2⟩)
        (fun h => h.mono hgrow)
    · exact .inl ⟨r, List.mem_cons_self, rfl⟩

/-- **A refused dispatch** leaves the ledger as it was or halted with the fault it refused with;
the claim has then seen a failure. -/
theorem ClaimSound.track_refused (hc : ClaimSound id c0 w l) {r : Record} {f : Fault}
    {l' : Ledger} (hl' : l' = l ∨ l' = l.halted f) :
    ClaimSound id c0 { w.updateLedger id (fun _ => l') with
      seen := w.seen ++ [.dispatched id r (some f)] } l' := by
  have hpending : l'.pending = l.pending := by rcases hl' with rfl | rfl <;> simp
  have hfault : Faulted id (w.seen ++ [.dispatched id r (some f)]) := .inl ⟨r, f, by simp⟩
  refine
    { records := hc.records.append_other (by simpa using hc.records.waiting_le) (by simp [inflight])
        _ rfl (by simp)
      ledger := by simp [hc.ledger]
      sound := ?_
      front := ?_
      inflight_unresolved := by
        rw [hpending]
        simpa [inflight] using hc.inflight_unresolved
      abandoned_unresolved := fun x g h hg => by
        rw [hpending]
        exact hc.abandoned_unresolved x g (by simpa using h) hg
      unresolved_cause := fun _ _ => .inr hfault
      halt_cause := fun _ => hfault }
  · rcases hl' with rfl | rfl
    · simpa using hc.sound
    · simpa using hc.sound.halted f
  · rcases hl' with rfl | rfl
    · exact hc.front
    · exact Ledger.frontUnresolved_halted l f

/-- **Tracking** keeps the invariant. -/
theorem ClaimSound.track (hc : ClaimSound id c0 w l) (r : Record) (s : Option Fault) :
    ∃ l', ClaimSound id c0 (w.step (.track id r s)) l' := by
  by_cases hw : (w.waitingOf id).isSome
  · exact ⟨l, by rw [step_track_of_waiting hw]; exact hc⟩
  have hw' : w.waitingOf id = none := by simpa using hw
  rw [step_track hw' hc.ledger]
  rcases Ledger.track_cases l r.offset s with ⟨hh, hlt, ht⟩ | ⟨f, ht | ht⟩ | ht <;> rw [ht]
  · exact ⟨_, hc.track_tracked hw' hh hlt rfl ht⟩
  · exact ⟨l, hc.track_refused (.inl rfl)⟩
  · exact ⟨_, hc.track_refused (.inr rfl)⟩
  · exact ⟨l, hc⟩

/-! #### Taking a token -/

/-- A source waits with one record at most, so the record it waits with is all its claim
has waiting. -/
theorem ofClaim_waiting (hr : Records id w) {r : Record} (hw : w.waitingOf id = some r) :
    ofClaim id w.waiting = [r] := by
  rw [waitingOf_eq] at hw
  obtain ⟨rest, hrest⟩ := List.head?_eq_some_iff.mp hw
  have hle := hr.waiting_le
  rw [hrest] at hle ⊢
  have hnil : rest = [] := List.eq_nil_of_length_eq_zero (by simpa using hle)
  rw [hnil]

/-- **A token taken** moves the waiting record to the running ones. -/
theorem ClaimSound.acquire_taken (hc : ClaimSound id c0 w l) {r : Record}
    (hw : w.waitingOf id = some r) (lim : Limiter) :
    ClaimSound id c0 { w.setLimiter lim with
      waiting := w.waiting.filter (·.1 != id), running := w.running ++ [(id, r)],
      seen := w.seen ++ [.dispatched id r none] } l := by
  have hone := ofClaim_waiting hc.records hw
  -- the same records are in flight, the waiting one now last
  have hperm : (inflight { w.setLimiter lim with
      waiting := w.waiting.filter (·.1 != id), running := w.running ++ [(id, r)],
      seen := w.seen ++ [.dispatched id r none] } id).Perm (w.inflight id) := by
    simp only [inflight, ofClaim_filter, ite_true, List.nil_append, ofClaim_append, ofClaim_cons,
      ofClaim_nil, List.append_nil, hone, List.singleton_append]
    exact List.perm_append_singleton _ _
  have hgrow : ∀ e ∈ w.seen, e ∈ w.seen ++ [.dispatched id r none] :=
    fun e he => List.mem_append_left _ he
  refine
    { records := hc.records.append_other (by simp) hperm _ rfl (by simp)
      ledger := by simpa using hc.ledger
      sound := by simpa using hc.sound
      front := hc.front
      inflight_unresolved := fun x hx => hc.inflight_unresolved x (hperm.mem_iff.mp hx)
      abandoned_unresolved := fun x f h hf => hc.abandoned_unresolved x f (by simpa using h) hf
      unresolved_cause := fun o ho => (hc.unresolved_cause o ho).imp
        (Exists.imp fun _ hx => ⟨hperm.mem_iff.mpr hx.1, hx.2⟩) (fun h => h.mono hgrow)
      halt_cause := fun h => (hc.halt_cause h).mono hgrow }

/-- **A token refused** drops the waiting record; the claim has then seen a failure. -/
theorem ClaimSound.acquire_refused (hc : ClaimSound id c0 w l) {r : Record}
    (hw : w.waitingOf id = some r) (lim : Limiter) (f : Fault) :
    ClaimSound id c0 { w.setLimiter lim with
      waiting := w.waiting.filter (·.1 != id), seen := w.seen ++ [.dispatched id r (some f)] } l := by
  have hone := ofClaim_waiting hc.records hw
  have hin : w.inflight id = [] ++ r :: ofClaim id w.running := by simp [inflight, hone]
  have hin' : inflight { w.setLimiter lim with
      waiting := w.waiting.filter (·.1 != id), seen := w.seen ++ [.dispatched id r (some f)] } id =
      [] ++ ofClaim id w.running := by simp [inflight]
  have hsub : ∀ x ∈ [] ++ ofClaim id w.running, x ∈ w.inflight id := fun x hx => by
    simp only [List.nil_append] at hx
    simp [inflight, hx]
  have hfault : Faulted id (w.seen ++ [.dispatched id r (some f)]) := .inl ⟨r, f, by simp⟩
  refine
    { records := hc.records.remove hin hin' (by simp) rfl (by simp)
      ledger := by simpa using hc.ledger
      sound := by simpa using hc.sound
      front := hc.front
      inflight_unresolved := fun x hx => hc.inflight_unresolved x (hsub x (hin' ▸ hx))
      abandoned_unresolved := fun x g h hg => hc.abandoned_unresolved x g (by simpa using h) hg
      unresolved_cause := fun _ _ => .inr hfault
      halt_cause := fun _ => hfault }

/-- **Taking a token** keeps the invariant. -/
theorem ClaimSound.acquire (hc : ClaimSound id c0 w l) (s : Option Fault) :
    ClaimSound id c0 (w.step (.acquire id s)) l := by
  rcases hw : w.waitingOf id with _ | r
  · rw [step_acquire_of_none hw]
    exact hc
  · rw [step_acquire hw]
    rcases w.dispatcher.limiter.take s with ⟨_ | f | _, lim⟩
    · exact hc.acquire_taken hw lim
    · exact hc.acquire_refused hw lim f
    · exact hc

/-! #### A handler returns -/

/-- A handler that returns had its record in flight: tracked, unfinished, with its offset
pending unresolved. What stays in flight is every other record, none of them at its offset. -/
theorem ClaimSound.returning (hc : ClaimSound id c0 w l) {i : Nat} {r : Record}
    (hi : w.running[i]? = some (id, r)) (res : Option Fault) :
    (r.offset, false) ∈ l.pending ∧ .tracked id r ∈ w.seen ∧ (∀ res', .finished id r res' ∉ w.seen) ∧
      ∀ x, x ∈ (w.handlerReturned i id r res).inflight id ↔
        x ∈ w.inflight id ∧ x.offset ≠ r.offset := by
  obtain ⟨A, B, hin, hin'⟩ := inflight_handlerReturned hi res
  have hrin : r ∈ w.inflight id := by simp [hin]
  have hnd := hc.records.inflight_nodup
  rw [hin] at hnd
  obtain ⟨-, hne⟩ := nodup_remove hnd
  refine ⟨hc.inflight_unresolved r hrin, hc.records.inflight_tracked r hrin,
    hc.records.inflight_unfinished r hrin, fun x => ?_⟩
  rw [hin', hin]
  constructor
  · intro hx
    refine ⟨?_, hne x hx⟩
    rcases List.mem_append.mp hx with hx | hx <;> simp [hx]
  · rintro ⟨hx, hxr⟩
    rcases List.mem_append.mp hx with hx | hx
    · exact List.mem_append_left _ hx
    · rcases List.mem_cons.mp hx with rfl | hx
      · exact absurd rfl hxr
      · exact List.mem_append_right _ hx

/-- A handler that succeeded on a halted ledger: nothing changes but the history, where the
resolution counts though the ledger ignored it. -/
theorem ClaimSound.finish_halted (hc : ClaimSound id c0 w l) {i : Nat} {r : Record}
    (hi : w.running[i]? = some (id, r)) (hh : l.halt.isSome) (a : Option Fault) :
    ClaimSound id c0 (w.step (.finish i none a)) l := by
  obtain ⟨-, -, -, hin'⟩ := hc.returning hi none
  have hstep : w.step (.finish i none a) =
      (w.handlerReturned i id r none).updateLedger id (fun _ => l) := by
    rw [step_finish hi, run_finish_none, run_resolve a _ id r.offset (by simpa using hc.ledger),
      Ledger.resolve_of_halted hh]
    simp
    rfl
  rw [hstep]
  have hgrow : ∀ e ∈ w.seen, e ∈ w.seen ++ [.finished id r none] :=
    fun e he => List.mem_append_left _ he
  refine
    { records := (hc.records.handlerReturned hi none).append_other (by simpa using hc.records.waiting_le)
        (by simp [inflight]) [] (by simp) (by simp)
      ledger := by simp [hc.ledger]
      sound := by simpa using hc.sound.extend_resolved r.offset
      front := hc.front
      inflight_unresolved := fun x hx => hc.inflight_unresolved x ((hin' x).mp (by simpa [inflight] using hx)).1
      abandoned_unresolved := fun x f h hf => hc.abandoned_unresolved x f (by simpa using h) hf
      unresolved_cause := fun _ _ => .inr ((hc.halt_cause hh).mono (by simpa using hgrow))
      halt_cause := fun h => (hc.halt_cause h).mono (by simpa using hgrow) }

/-- **A handler that succeeded** on a running ledger resolves its offset and commits what became
contiguous. -/
theorem ClaimSound.finish_resolved (hc : ClaimSound id c0 w l) {i : Nat} {r : Record}
    (hi : w.running[i]? = some (id, r)) (hh : l.halt = none) (a : Option Fault) :
    ClaimSound id c0 (w.step (.finish i none a)) (l.resolve r.offset a).1 := by
  obtain ⟨hp, htr, hunf, hin'⟩ := hc.returning hi none
  -- the pool after the commit, with the commits it made
  let commits : List Seen := (Ledger.commitOffsets (l.resolve r.offset a).2).map (.commit id · a)
  have hstep : w.step (.finish i none a) =
      { (w.handlerReturned i id r none).updateLedger id (fun _ => (l.resolve r.offset a).1) with
        seen := w.seen ++ .finished id r none :: commits } := by
    rw [step_finish hi, run_finish_none, run_resolve a _ id r.offset (by simpa using hc.ledger)]
    simp [commits]
  rw [hstep]
  have hhist : ledgerHistory id (w.seen ++ .finished id r none :: commits) =
      ledgerHistory id w.seen ++ (l.resolve r.offset a).2 := by
    show ledgerHistory id (w.seen ++ ([.finished id r none] ++ commits)) = _
    simp only [commits]
    rw [ledgerHistory_append, ledgerHistory_append, ledgerHistory_finished_none,
      ledgerHistory_commits]
    -- the resolution comes first, then the commits it made
    conv => rhs; rw [Ledger.resolve_events hc.sound hh hp a]
    rfl
  have hgrow : ∀ e ∈ w.seen, e ∈ w.seen ++ .finished id r none :: commits :=
    fun e he => List.mem_append_left _ he
  -- the records finished before are the ones there were, and none of them at `r`'s offset
  have hfin : ∀ x f, .finished id x (some f) ∈ w.seen ++ .finished id r none :: commits →
      .finished id x (some f) ∈ w.seen := by
    intro x f h
    simpa [commits] using h
  have hunres := Ledger.unresolved_resolve hc.sound hh hp a
  have hin : ∀ x, x ∈ inflight { (w.handlerReturned i id r none).updateLedger id
      (fun _ => (l.resolve r.offset a).1) with seen := w.seen ++ .finished id r none :: commits } id ↔
      x ∈ w.inflight id ∧ x.offset ≠ r.offset := fun x => by
    rw [← hin' x]
    simp [inflight]
  refine
    { records := ?_
      ledger := by simp [hc.ledger]
      sound := by rw [hhist]; exact hc.sound.apply (.resolve r.offset a)
      front := Ledger.FrontUnresolved.apply hc.sound hc.front (.resolve r.offset a)
      inflight_unresolved := fun x hx => by
        obtain ⟨hx, hxr⟩ := (hin x).mp hx
        exact (hunres x.offset).mpr ⟨hxr, hc.inflight_unresolved x hx⟩
      abandoned_unresolved := fun x f h hf => by
        have h := hfin x f h
        -- an abandoned record is not the one whose handler succeeded
        have hxr : x.offset ≠ r.offset := fun he => by
          have hx := hc.records.tracked_unique x r (hc.records.finished_tracked x _ h) htr he
          exact hunf (some f) (hx ▸ h)
        exact (hunres x.offset).mpr ⟨hxr, hc.abandoned_unresolved x f h hf⟩
      unresolved_cause := fun o ho => by
        obtain ⟨hor, ho⟩ := (hunres o).mp ho
        exact (hc.unresolved_cause o ho).imp
          (fun h => by
            obtain ⟨x, hx, hxo⟩ := h
            exact ⟨x, (hin x).mpr ⟨hx, hxo ▸ hor⟩, hxo⟩) (fun h => h.mono hgrow)
      halt_cause := fun h => by
        obtain ⟨e, next, rfl, hev⟩ := Ledger.halt_of_resolve hc.sound hh hp a h
        refine .inr (.inr ⟨next, e, ?_⟩)
        simp [commits, hev] }
  refine (hc.records.handlerReturned hi none).append_other (by simpa using hc.records.waiting_le)
    (by simp [inflight]) commits (by simp) ?_
  intro e he
  obtain ⟨x, -, rfl⟩ := List.mem_map.mp he
  simp

/-- **An abandoned message** leaves its offset pending unresolved. -/
theorem ClaimSound.finish_abandoned (hc : ClaimSound id c0 w l) {i : Nat} {r : Record}
    (hi : w.running[i]? = some (id, r)) {f : Fault} (hf : f.isa .abandoned) (a : Option Fault) :
    ClaimSound id c0 (w.step (.finish i (some f) a)) l := by
  obtain ⟨hp, -, -, hin'⟩ := hc.returning hi (some f)
  have hstep : w.step (.finish i (some f) a) = w.handlerReturned i id r (some f) := by
    rw [step_finish hi, run_finish_some, if_pos hf]
  rw [hstep]
  have hgrow : ∀ e ∈ w.seen, e ∈ (w.handlerReturned i id r (some f)).seen := fun e he => by
    simp [he]
  have hfault : Faulted id (w.handlerReturned i id r (some f)).seen := .inr (.inl ⟨r, f, by simp⟩)
  refine
    { records := hc.records.handlerReturned hi (some f)
      ledger := by simpa using hc.ledger
      sound := by simpa using hc.sound
      front := hc.front
      inflight_unresolved := fun x hx => hc.inflight_unresolved x ((hin' x).mp hx).1
      abandoned_unresolved := fun x g h hg => by
        simp only [handlerReturned_seen, List.mem_append, List.mem_singleton, Seen.finished.injEq,
          true_and] at h
        rcases h with h | ⟨rfl, -⟩
        · exact hc.abandoned_unresolved x g h hg
        · exact hp
      unresolved_cause := fun _ _ => .inr hfault
      halt_cause := fun _ => hfault }

/-- **Any other failure** halts the ledger with the message's label. -/
theorem ClaimSound.finish_failed (hc : ClaimSound id c0 w l) {i : Nat} {r : Record}
    (hi : w.running[i]? = some (id, r)) {f : Fault} (hf : ¬ f.isa .abandoned) (a : Option Fault) :
    ClaimSound id c0 (w.step (.finish i (some f) a)) (l.halted (.wrap (r.label ++ ": ") f)) := by
  obtain ⟨-, -, -, hin'⟩ := hc.returning hi (some f)
  have hstep : w.step (.finish i (some f) a) =
      (w.handlerReturned i id r (some f)).updateLedger id (·.halted (.wrap (r.label ++ ": ") f)) := by
    rw [step_finish hi, run_finish_some, if_neg hf]
  rw [hstep]
  have hfault : Faulted id (w.handlerReturned i id r (some f)).seen := .inr (.inl ⟨r, f, by simp⟩)
  refine
    { records := (hc.records.handlerReturned hi (some f)).append_other
        (by simpa using hc.records.waiting_le) (by simp [inflight]) [] (by simp) (by simp)
      ledger := by simp [hc.ledger]
      sound := by simpa using hc.sound.halted _
      front := Ledger.frontUnresolved_halted l _
      inflight_unresolved := fun x hx => by
        simpa using hc.inflight_unresolved x ((hin' x).mp (by simpa [inflight] using hx)).1
      abandoned_unresolved := fun x g h hg => by
        simp only [updateLedger_seen, handlerReturned_seen, List.mem_append, List.mem_singleton,
          Seen.finished.injEq, true_and] at h
        rcases h with h | ⟨rfl, hgf⟩
        · simpa using hc.abandoned_unresolved x g h hg
        · simp only [Option.some.injEq] at hgf
          exact absurd (hgf ▸ hg) hf
      unresolved_cause := fun _ _ => .inr (by simpa using hfault)
      halt_cause := fun _ => by simpa using hfault }

/-- **A handler returning** keeps the invariant. -/
theorem ClaimSound.finish (hc : ClaimSound id c0 w l) {i : Nat} {r : Record}
    (hi : w.running[i]? = some (id, r)) (res a : Option Fault) :
    ∃ l', ClaimSound id c0 (w.step (.finish i res a)) l' := by
  cases res with
  | none =>
    rcases hh : l.halt with _ | e
    · exact ⟨_, hc.finish_resolved hi hh a⟩
    · exact ⟨l, hc.finish_halted hi (by simp [hh]) a⟩
  | some f =>
    by_cases hf : f.isa .abandoned
    · exact ⟨l, hc.finish_abandoned hi hf a⟩
    · exact ⟨_, hc.finish_failed hi hf a⟩

/-! #### Schedules -/

/-- **Every step keeps the invariant**, with the ledger the claim then has. -/
theorem ClaimSound.step (hc : ClaimSound id c0 w l) (s : Step) :
    ∃ l', ClaimSound id c0 (w.step s) l' := by
  by_cases hs : s.claim? w = some id
  · -- a step made for the claim itself
    cases s with
    | track j r s' =>
      obtain rfl : j = id := by simpa [Step.claim?] using hs
      exact hc.track r s'
    | acquire j s' =>
      obtain rfl : j = id := by simpa [Step.claim?] using hs
      exact ⟨l, hc.acquire s'⟩
    | finish i res a =>
      obtain ⟨⟨j, r⟩, hi, rfl⟩ := Option.map_eq_some_iff.mp (show _ = some id from hs)
      exact hc.finish hi res a
    | openClaim | closeClaim | closeLimiter => simp [Step.claim?] at hs
  · exact ⟨l, hc.untouched (untouched_step (by simp [hc.ledger]) hs)⟩

/-- **Every schedule keeps the invariant.** -/
theorem ClaimSound.run (hc : ClaimSound id c0 w l) (steps : List Step) :
    ∃ l', ClaimSound id c0 (w.run steps) l' := by
  induction steps generalizing w l with
  | nil => exact ⟨l, hc⟩
  | cons s rest ih =>
    obtain ⟨l', hc'⟩ := hc.step s
    exact ih hc'

end Steps

end Conveyor.Pool
