import Conveyor.Proofs.Dispatch.Invariant
/-!
# Partition progress through the dispatcher

Whatever the schedule (which source dispatches when, which handler returns when and with what,
what the commit function answers, which claims open and close), a claim opened at committed
offset `c0` keeps these promises (`dispatch_progress`):

* **commits follow handlers**: each commit names an offset up to which every record the claim
  tracked had its handler succeed before it, a record whose token was refused included;
* **abandonment stalls without halting**: every commit of the claim lies below an abandoned
  record, and abandoning changes no ledger;
* **other failures halt for good**: once a handler of the claim fails otherwise, its ledger is
  halted and stays as it is, the claim commits no more, and every later dispatch is refused with
  the fault the ledger halted with;
* **progress**: when nothing of the claim failed and nothing is in flight, the ledger runs with
  nothing pending and has committed every tracked offset.

All of them are read off the claim's invariant `Pool.ClaimSound`, but the third, which rests on
a halted ledger refusing every change (`step_of_halted`).
-/

namespace Conveyor.Pool

open Ledger (Sound)

/-! ### A halted claim -/

/-- A step leaves a halted ledger as it is and makes it no commit. -/
theorem step_of_halted {w : Pool} {id : Nat} {l : Ledger} {e : Fault} (hl : w.ledger? id = some l)
    (hh : l.halt = some e) (s : Step) :
    (w.step s).ledger? id = some l ∧
      ∃ new, (w.step s).seen = w.seen ++ new ∧ ∀ x b, .commit id x b ∉ new := by
  have hsome : l.halt.isSome := by simp [hh]
  by_cases hs : s.claim? w = some id
  · cases s with
    | track j r s' =>
      obtain rfl : j = id := by simpa [Step.claim?] using hs
      by_cases hw : (w.waitingOf j).isSome
      · rw [step_track_of_waiting hw]
        exact ⟨hl, [], by simp, by simp⟩
      · -- the ledger refuses with its fault and stays as it is
        rw [step_track (by simpa using hw) hl, Ledger.track_of_halted hh]
        exact ⟨by simp [hl], _, rfl, by simp⟩
    | acquire j s' =>
      obtain rfl : j = id := by simpa [Step.claim?] using hs
      rcases hw : w.waitingOf j with _ | r
      · rw [step_acquire_of_none hw]
        exact ⟨hl, [], by simp, by simp⟩
      · rw [step_acquire hw]
        rcases w.dispatcher.limiter.take s' with ⟨_ | f | _, lim⟩
        · exact ⟨by simpa using hl, _, rfl, by simp⟩
        · exact ⟨by simpa using hl, _, rfl, by simp⟩
        · exact ⟨hl, [], by simp, by simp⟩
    | finish i res a =>
      obtain ⟨⟨j, r⟩, hi, rfl⟩ := Option.map_eq_some_iff.mp (show _ = some id from hs)
      rw [step_finish hi]
      cases res with
      | none =>
        -- the resolution is ignored, and nothing is committed
        rw [run_finish_none, run_resolve a _ _ r.offset (by simpa using hl),
          Ledger.resolve_of_halted hsome]
        exact ⟨by simp [hl], [.finished j r none], by simp, by simp⟩
      | some f =>
        rw [run_finish_some]
        split
        · exact ⟨by simpa using hl, [.finished j r (some f)], by simp, by simp⟩
        · exact ⟨by simp [hl, Ledger.halted_of_isSome hsome], [.finished j r (some f)], by simp,
            by simp⟩
    | openClaim | closeClaim | closeLimiter => simp [Step.claim?] at hs
  · have hu := untouched_step (by simp [hl]) hs
    obtain ⟨new, hseen, hnew⟩ := hu.seen
    exact ⟨hu.ledger ▸ hl, new, hseen, fun x b hx => hnew _ hx rfl⟩

/-- **A halted ledger stays as it is** through any schedule, and its claim commits no more. -/
theorem run_of_halted {w : Pool} {id : Nat} {l : Ledger} {e : Fault} (hl : w.ledger? id = some l)
    (hh : l.halt = some e) (steps : List Step) :
    (w.run steps).ledger? id = some l ∧
      ∃ later, (w.run steps).seen = w.seen ++ later ∧ ∀ x b, .commit id x b ∉ later := by
  induction steps generalizing w with
  | nil => exact ⟨hl, [], by simp, by simp⟩
  | cons s rest ih =>
    obtain ⟨hl', new, hseen, hnew⟩ := step_of_halted hl hh s
    obtain ⟨hl'', later, hseen', hlater⟩ := ih hl'
    refine ⟨hl'', new ++ later, by rw [run_cons, hseen', hseen, List.append_assoc], ?_⟩
    intro x b hx
    rcases List.mem_append.mp hx with hx | hx
    · exact hnew x b hx
    · exact hlater x b hx

/-- A dispatch on a halted ledger is refused with the fault it halted with. -/
theorem step_track_halted {w : Pool} {id : Nat} {l : Ledger} {e : Fault}
    (hl : w.ledger? id = some l) (hh : l.halt = some e) (hw : w.waitingOf id = none) (r : Record)
    (s : Option Fault) :
    (w.step (.track id r s)).seen = w.seen ++ [.dispatched id r (some e)] := by
  rw [step_track hw hl, Ledger.track_of_halted hh]

/-- An abandoned message changes no ledger. -/
theorem coordinator_step_abandoned (w : Pool) (i : Nat) {f : Fault} (hf : f.isa .abandoned)
    (a : Option Fault) :
    (w.step (.finish i (some f) a)).dispatcher.coordinator = w.dispatcher.coordinator := by
  rcases hi : w.running[i]? with _ | ⟨j, r⟩
  · rw [step_finish_of_none hi]
  · rw [step_finish hi, run_finish_some, if_pos hf]
    rfl

/-! ### What the invariant gives -/

section Claim

variable {id : Nat} {c0 : Int} {w : Pool} {l : Ledger}

/-- **Commits follow handlers.** Each commit of the claim names an offset up to which every
record the claim tracked, before the commit or after it, had its handler succeed before it. -/
theorem ClaimSound.commit_after_handlers (hc : ClaimSound id c0 w l) {pre post : List Seen}
    {x : Int} {a : Option Fault} (hsplit : w.seen = pre ++ .commit id x a :: post) {r : Record}
    (hr : .tracked id r ∈ w.seen) (hle : r.offset ≤ x) : .finished id r none ∈ pre := by
  have hhist : ledgerHistory id w.seen =
      ledgerHistory id pre ++ .commit x :: ledgerHistory id post := by
    rw [hsplit, ← List.singleton_append, ledgerHistory_append, ledgerHistory_append]
    simp [ledgerHistory, Seen.onLedger]
  -- a record tracked after the commit lies above it, so `r` was tracked before it
  have hr : .tracked id r ∈ pre := by
    rw [hsplit] at hr
    simp only [List.mem_append, List.mem_cons, reduceCtorEq, false_or] at hr
    rcases hr with hr | hr
    · exact hr
    · have hlt := hc.sound.later_tracks_above _ x _ hhist r.offset
        (tracked_mem_ledgerHistory.mpr ⟨r, hr, rfl⟩)
      omega
  -- the ledger's history is covered at this commit
  have hres := hc.sound.covered _ x _ hhist r.offset
    (tracked_mem_ledgerHistory.mpr ⟨r, hr, rfl⟩) hle
  obtain ⟨r', hr', hoff⟩ := resolved_mem_ledgerHistory.mp hres
  have hpre : ∀ e ∈ pre, e ∈ w.seen := fun e he => by simp [hsplit, he]
  -- the record that succeeded at that offset is `r`: tracked records differ in their offsets
  have heq : r' = r := hc.records.tracked_unique r' r
    (hc.records.finished_tracked r' none (hpre _ hr')) (hpre _ hr) hoff
  exact heq ▸ hr'

/-- **Abandonment stalls commits.** Every commit of the claim lies below a record whose handler
abandoned it. -/
theorem ClaimSound.commit_below_abandoned (hc : ClaimSound id c0 w l) {r : Record} {f : Fault}
    (hr : .finished id r (some f) ∈ w.seen) (hf : f.isa .abandoned) {x : Int} {a : Option Fault}
    (hx : .commit id x a ∈ w.seen) : x < r.offset :=
  hc.sound.commits_below_unresolved x (mem_commitOffsets_ledgerHistory.mpr ⟨a, hx⟩) r.offset
    (hc.abandoned_unresolved r f hr hf)

/-- **Progress.** When nothing of the claim failed and nothing of it is in flight, its ledger
runs with nothing pending, committed up to the last tracked offset, every tracked offset
included. -/
theorem ClaimSound.settled (hc : ClaimSound id c0 w l) (hok : ¬ Faulted id w.seen)
    (hquiet : w.inflight id = []) :
    l.halt = none ∧ l.pending = [] ∧ l.committed = l.lastTracked ∧
      ∀ r, .tracked id r ∈ w.seen → r.offset ≤ l.committed := by
  have hrun : l.halt = none := by
    rcases hh : l.halt with _ | e
    · rfl
    · exact absurd (hc.halt_cause (by simp [hh])) hok
  -- no offset is left unresolved, and the first pending one would be
  have hnone : ∀ o, (o, false) ∉ l.pending := by
    intro o ho
    rcases hc.unresolved_cause o ho with ⟨r, hr, -⟩ | hf
    · simp [hquiet] at hr
    · exact hok hf
  have hpending : l.pending = [] := by
    rcases hp : l.pending with _ | ⟨p, rest⟩
    · rfl
    · have hflag : p.2 = false := hc.front hrun p (by simp [hp])
      exact absurd (show (p.1, false) ∈ l.pending by rw [hp, ← hflag]; simp) (hnone p.1)
  have htail := hc.sound.tail_tracked
  have hcommitted : l.committed = l.lastTracked := by
    simpa [Ledger.pendingOffsets, hpending] using htail
  exact ⟨hrun, hpending, hcommitted, fun r hr => hcommitted ▸ hc.offset_le hr⟩

end Claim

/-! ### Partition progress -/

/-- **Partition progress.** For any dispatcher, a claim opened at committed offset `c0`, and any
schedule of dispatches, token takings, handlers returning in any order with any results,
commit answers, claims opened and closed and the limiter closed:

* each commit names an offset up to which every record the claim tracked, before the commit or
  after it, had its handler succeed before it;
* every commit lies below a record whose handler abandoned it, and abandoning changes no ledger;
* once a handler of the claim fails otherwise, the claim's ledger is halted with a fault `e`
  and stays as it is, no commit of the claim follows, and every later dispatch of the claim is
  refused with `e`;
* when no dispatch, handler or commit of the claim failed and nothing of it is in flight, its
  ledger runs with nothing pending and has committed up to the last tracked offset, every
  tracked offset included. -/
theorem dispatch_progress (d : Dispatcher) (topic : String) (partition c0 : Int)
    (steps : List Step) :
    let id := (start d topic partition c0).1
    let w0 := (start d topic partition c0).2
    (∀ pre x a post, (w0.run steps).seen = pre ++ .commit id x a :: post →
      ∀ r, .tracked id r ∈ (w0.run steps).seen → r.offset ≤ x → .finished id r none ∈ pre) ∧
    (∀ r f, .finished id r (some f) ∈ (w0.run steps).seen → f.isa .abandoned →
      ∀ x a, .commit id x a ∈ (w0.run steps).seen → x < r.offset) ∧
    (∀ pre i f a post, steps = pre ++ .finish i (some f) a :: post → f.isa .abandoned →
      ((w0.run pre).step (.finish i (some f) a)).dispatcher.coordinator =
        (w0.run pre).dispatcher.coordinator) ∧
    (∀ pre i r f a post, steps = pre ++ .finish i (some f) a :: post →
      (w0.run pre).running[i]? = some (id, r) → ¬ f.isa .abandoned →
      ∃ l e, ((w0.run pre).step (.finish i (some f) a)).ledger? id = some l ∧ l.halt = some e ∧
        (∀ mid rest, post = mid ++ rest →
          (((w0.run pre).step (.finish i (some f) a)).run mid).ledger? id = some l) ∧
        (∃ later, (w0.run steps).seen = ((w0.run pre).step (.finish i (some f) a)).seen ++ later ∧
          ∀ x b, .commit id x b ∉ later) ∧
        ∀ mid r' s rest, post = mid ++ .track id r' s :: rest →
          (((w0.run pre).step (.finish i (some f) a)).run mid).waitingOf id = none →
          ((((w0.run pre).step (.finish i (some f) a)).run mid).step (.track id r' s)).seen =
            (((w0.run pre).step (.finish i (some f) a)).run mid).seen ++
              [.dispatched id r' (some e)]) ∧
    (¬ Faulted id (w0.run steps).seen → (w0.run steps).inflight id = [] →
      ∃ l, (w0.run steps).ledger? id = some l ∧ l.halt = none ∧ l.pending = [] ∧
        l.committed = l.lastTracked ∧
        ∀ r, .tracked id r ∈ (w0.run steps).seen → r.offset ≤ l.committed) := by
  intro id w0
  have hstart := claimSound_start d topic partition c0
  obtain ⟨l, hc⟩ := hstart.run steps
  refine ⟨fun pre x a post hsplit r hr hle => hc.commit_after_handlers hsplit hr hle,
    fun r f hr hf x a hx => hc.commit_below_abandoned hr hf hx,
    fun pre i f a post _ hf => coordinator_step_abandoned _ i hf a, ?_,
    fun hok hquiet => ⟨l, hc.ledger, hc.settled hok hquiet⟩⟩
  intro pre i r f a post hsteps hi hf
  -- the failing handler halts the ledger
  obtain ⟨lp, hcp⟩ := hstart.run pre
  have hfailed := hcp.finish_failed hi hf a
  obtain ⟨e, he⟩ := Option.isSome_iff_exists.mp
    (Ledger.halted_halt_isSome lp (.wrap (r.label ++ ": ") f))
  refine ⟨_, e, hfailed.ledger, he, fun mid _ _ => (run_of_halted hfailed.ledger he mid).1, ?_,
    fun mid r' s rest _ hw =>
      step_track_halted (run_of_halted hfailed.ledger he mid).1 he hw r' s⟩
  -- what follows the failure runs from the halted ledger
  rw [hsteps, run_append, run_cons]
  exact (run_of_halted hfailed.ledger he post).2

end Conveyor.Pool
