import Conveyor.Proofs.Dispatch.Pool
import Conveyor.Proofs.Word
/-!
# Worker tokens bound the running handlers

A limiter keeps its free tokens between none and all of them (`Limiter.Bounded`) under every
call that cannot push the count past the greatest 64-bit word: taking a token removes one that
is there, giving tokens back stops at the capacity, and closing changes no count. So every run
of takes, closes and releases of at most `greatest - capacity` tokens keeps the tokens in use
within `[0, capacity]`, and every take that succeeds takes a free token
(`Limiter.bounded_performAll`). A release that does push the count past the greatest word wraps
it around to a negative count (`Limiter.give_negative_of_overflow`), which no take waits on.

The dispatcher takes a token before a handler starts and gives one back when the handler
returns, so in every pool the free tokens and the running handlers add up to the capacity
(`Pool.Slots`, kept by every step of a schedule): no more handlers run at once than the limiter
has tokens. Main statement: `workers_bound_running`.
-/

namespace Conveyor

namespace Limiter

/-- A call on a limiter: taking a token, with the shutdown its caller has seen, giving `n`
tokens back, or closing the limiter. -/
inductive Op where
  | take (shutdown : Option Fault)
  | give (n : Int)
  | close

/-- The limiter after a call. -/
def perform (l : Limiter) : Op → Limiter
  | .take s => (l.take s).2
  | .give n => l.give n
  | .close => l.close

/-- The limiter after a run of calls. -/
def performAll (l : Limiter) (ops : List Op) : Limiter := ops.foldl perform l

/-- **A limiter within its bounds**: a positive capacity that is a 64-bit word, and between none
and all of its tokens free. -/
structure Bounded (l : Limiter) : Prop where
  capacity_pos : 0 < l.capacity
  capacity_le : l.capacity ≤ Word.greatest
  tokens_nonneg : 0 ≤ l.tokens
  tokens_le : l.tokens ≤ l.capacity

variable {l : Limiter}

@[simp] theorem capacity_perform (l : Limiter) (op : Op) : (l.perform op).capacity = l.capacity := by
  cases op with
  | take s =>
    simp only [perform, take]
    split
    · rfl
    · split
      · rfl
      · split <;> rfl
  | give n => rfl
  | close => rfl

/-- **What taking a token can do**: leave the limiter as it is, or take a token that is there. -/
theorem take_cases (l : Limiter) (s : Option Fault) :
    ((l.take s).1 ≠ .taken ∧ (l.take s).2 = l) ∨
      ((l.take s).1 = .taken ∧ l.tokens ≠ 0 ∧
        (l.take s).2 = { l with tokens := Word.wrap (l.tokens - 1) }) := by
  unfold take
  split
  · exact .inl ⟨by simp, rfl⟩
  · split
    · exact .inl ⟨by simp, rfl⟩
    · split
      · exact .inl ⟨by simp, rfl⟩
      · next h => exact .inr ⟨rfl, h, rfl⟩

/-- A fresh limiter has every token of its capacity free; a capacity that is not positive is one. -/
theorem create_capacity (c : Int) : (create c).capacity = if c ≤ 0 then 1 else c := rfl

theorem create_tokens (c : Int) : (create c).tokens = (create c).capacity := rfl

/-- A fresh limiter of a 64-bit capacity is within its bounds, with every token free. -/
theorem bounded_create {c : Int} (hc : c ≤ Word.greatest) : (create c).Bounded := by
  have hg := Word.greatest_eq
  have hcap : 0 < (create c).capacity ∧ (create c).capacity ≤ Word.greatest := by
    rw [create_capacity]
    split <;> omega
  exact ⟨hcap.1, hcap.2, by rw [create_tokens]; omega, Int.le_of_eq (create_tokens c)⟩

/-- **A take that succeeds takes a free token**: there was one, and there is one fewer. -/
theorem Bounded.take_taken (h : l.Bounded) (s : Option Fault) (ht : (l.take s).1 = .taken) :
    0 < l.tokens ∧ (l.take s).2.tokens = l.tokens - 1 := by
  rcases take_cases l s with ⟨hne, -⟩ | ⟨-, h0, hl⟩
  · exact absurd ht hne
  · have hpos : 0 < l.tokens := by have := h.tokens_nonneg; omega
    refine ⟨hpos, ?_⟩
    rw [hl]
    exact Word.wrap_of_le (by rw [Word.least_eq]; omega) (by have := h.tokens_le; have := h.capacity_le; omega)

theorem Bounded.take (h : l.Bounded) (s : Option Fault) : (l.take s).2.Bounded := by
  rcases take_cases l s with ⟨-, hl⟩ | ⟨ht, -, hl⟩
  · rw [hl]
    exact h
  · obtain ⟨hpos, htok⟩ := h.take_taken s ht
    have hcap : (l.take s).2.capacity = l.capacity := by rw [hl]
    exact ⟨hcap ▸ h.capacity_pos, hcap ▸ h.capacity_le, by omega, by have := h.tokens_le; omega⟩

/-- **Giving tokens back** that do not carry the count past the greatest word keeps the
limiter within its bounds: the count is the plain sum, cut at the capacity. -/
theorem Bounded.give (h : l.Bounded) {n : Int} (hn : 0 ≤ n) (hfit : l.tokens + n ≤ Word.greatest) :
    (l.give n).Bounded := by
  have hsum : Word.wrap (l.tokens + n) = l.tokens + n :=
    Word.wrap_of_le (by rw [Word.least_eq]; have := h.tokens_nonneg; omega) hfit
  have htok : (l.give n).tokens = min (l.tokens + n) l.capacity := by
    simp only [Limiter.give, hsum]
  refine ⟨h.capacity_pos, h.capacity_le, ?_, ?_⟩
  · rw [htok]
    have := h.tokens_nonneg
    have := h.capacity_pos
    omega
  · rw [htok]
    exact Int.min_le_right _ _

theorem Bounded.close (h : l.Bounded) : l.close.Bounded :=
  ⟨h.capacity_pos, h.capacity_le, h.tokens_nonneg, h.tokens_le⟩

/-- A limiter within its bounds has between none and all of its tokens in use. -/
theorem Bounded.inUse_within (h : l.Bounded) : 0 ≤ l.inUse ∧ l.inUse ≤ l.capacity := by
  have huse : l.inUse = l.capacity - l.tokens :=
    Word.wrap_of_le (by rw [Word.least_eq]; have := h.tokens_le; omega)
      (by have := h.tokens_nonneg; have := h.capacity_le; omega)
  rw [huse]
  exact ⟨by have := h.tokens_le; omega, by have := h.tokens_nonneg; omega⟩

/-- A call that gives back no more than `greatest - capacity` tokens keeps the bounds. -/
theorem Bounded.perform (h : l.Bounded) {op : Op}
    (hop : ∀ n, op = .give n → 0 ≤ n ∧ n ≤ Word.greatest - l.capacity) : (l.perform op).Bounded := by
  cases op with
  | take s => exact h.take s
  | give n =>
    have := h.tokens_le
    exact h.give (hop n rfl).1 (by have := (hop n rfl).2; omega)
  | close => exact h.close

/-- **A run of calls keeps the bounds** when no release gives back more than
`greatest - capacity` tokens. The induction is on the calls. -/
theorem Bounded.performAll (h : l.Bounded) {ops : List Op}
    (hops : ∀ n, .give n ∈ ops → 0 ≤ n ∧ n ≤ Word.greatest - l.capacity) :
    (l.performAll ops).Bounded := by
  induction ops generalizing l with
  | nil => exact h
  | cons op ops ih =>
    have hl : (l.perform op).Bounded := h.perform fun n hn => hops n (by simp [hn])
    exact ih hl fun n hn => by
      rw [capacity_perform]
      exact hops n (List.mem_cons_of_mem _ hn)

theorem capacity_performAll (l : Limiter) (ops : List Op) : (l.performAll ops).capacity = l.capacity := by
  induction ops generalizing l with
  | nil => rfl
  | cons op ops ih => exact (ih (l.perform op)).trans (capacity_perform l op)

/-- **The slot bound.** For every 64-bit capacity and every run of takes, closes and releases of
at most `greatest - capacity` tokens: the free tokens and the tokens in use stay within
`[0, capacity]`, and a take that succeeds takes a free token. -/
theorem bounded_performAll {c : Int} (hc : c ≤ Word.greatest) {ops : List Op}
    (hops : ∀ n, .give n ∈ ops → 0 ≤ n ∧ n ≤ Word.greatest - (create c).capacity) :
    let l := (create c).performAll ops
    (0 ≤ l.tokens ∧ l.tokens ≤ l.capacity) ∧ (0 ≤ l.inUse ∧ l.inUse ≤ l.capacity) ∧
      ∀ s, (l.take s).1 = .taken → 0 < l.tokens ∧ (l.take s).2.tokens = l.tokens - 1 := by
  intro l
  have h : l.Bounded := (bounded_create hc).performAll hops
  exact ⟨⟨h.tokens_nonneg, h.tokens_le⟩, h.inUse_within, fun s ht => h.take_taken s ht⟩

/-- **A release past the greatest word wraps the count negative**: giving back, to a limiter
within its bounds, a word of tokens that takes the sum past the greatest word leaves fewer than
no tokens. -/
theorem give_negative_of_overflow (h : l.Bounded) {n : Int} (hn : n ≤ Word.greatest)
    (ho : Word.greatest < l.tokens + n) : (l.give n).tokens < 0 := by
  have hc := h.capacity_le
  have ht := h.tokens_le
  simp only [Limiter.give, Word.wrap_eq]
  rw [Word.greatest_eq] at hc hn ho
  omega

end Limiter

namespace Pool

/-- **The worker slots of a pool**: the limiter is within its bounds, and its free tokens and
the running handlers add up to its capacity. -/
structure Slots (w : Pool) : Prop where
  bounded : w.dispatcher.limiter.Bounded
  balance : w.dispatcher.limiter.tokens + w.running.length = w.dispatcher.limiter.capacity

@[simp] theorem updateLedger_limiter (w : Pool) (id : Nat) (f : Ledger → Ledger) :
    (w.updateLedger id f).dispatcher.limiter = w.dispatcher.limiter := rfl

/-- Finishing a message touches neither the limiter nor the running handlers. -/
theorem finish_keeps_workers (a : Option Fault) (w : Pool) (id : Nat) (r : Record)
    (res : Option Fault) :
    (((claims a).finish id r res).run w).2.dispatcher.limiter = w.dispatcher.limiter ∧
      (((claims a).finish id r res).run w).2.running = w.running := by
  cases res with
  | none =>
    rw [run_finish_none]
    cases hl : w.ledger? id with
    | none => rw [run_resolve_of_none a w id r.offset hl]; exact ⟨rfl, rfl⟩
    | some l => rw [run_resolve a w id r.offset hl]; exact ⟨rfl, rfl⟩
  | some f =>
    rw [run_finish_some]
    split <;> exact ⟨rfl, rfl⟩

/-- Tracking an offset touches neither the limiter nor the running handlers. -/
theorem track_keeps_workers (w : Pool) (id : Nat) (r : Record) (s : Option Fault) :
    (w.step (.track id r s)).dispatcher.limiter = w.dispatcher.limiter ∧
      (w.step (.track id r s)).running = w.running := by
  cases hw : w.waitingOf id with
  | some x => rw [step_track_of_waiting (by simp [hw])]; exact ⟨rfl, rfl⟩
  | none =>
    cases hl : w.ledger? id with
    | none => rw [step_track_of_none hw hl]; exact ⟨rfl, rfl⟩
    | some l =>
      rw [step_track hw hl]
      rcases l.track r.offset s with ⟨_ | f | _, l'⟩ <;> exact ⟨rfl, rfl⟩

theorem Slots.of_eq {w w' : Pool} (h : w.Slots) (hl : w'.dispatcher.limiter = w.dispatcher.limiter)
    (hr : w'.running = w.running) : w'.Slots := by
  refine ⟨hl ▸ h.bounded, ?_⟩
  rw [hl, hr]
  exact h.balance

/-- **Taking a token** for a waiting record moves it to the running handlers with the token. -/
theorem Slots.acquire {w : Pool} (h : w.Slots) (id : Nat) (s : Option Fault) :
    (w.step (.acquire id s)).Slots := by
  cases hw : w.waitingOf id with
  | none => rw [step_acquire_of_none hw]; exact h
  | some r =>
    rw [step_acquire hw]
    rcases hk : w.dispatcher.limiter.take s with ⟨_ | f | _, lim⟩
    · -- the token taken was free, and the handler now runs with it
      obtain ⟨-, htok⟩ := h.bounded.take_taken s (by rw [hk])
      have hb := h.bounded.take s
      simp only [hk] at htok hb
      have hcap : lim.capacity = w.dispatcher.limiter.capacity := by
        have := Limiter.capacity_perform w.dispatcher.limiter (.take s)
        simpa [Limiter.perform, hk] using this
      refine ⟨hb, ?_⟩
      simp only [setLimiter, List.length_append, List.length_singleton, hcap]
      have := h.balance
      omega
    · -- a refused token leaves the limiter as it was
      have hlim : lim = w.dispatcher.limiter := by
        rcases Limiter.take_cases w.dispatcher.limiter s with ⟨-, hl⟩ | ⟨ht, -⟩
        · rw [hk] at hl
          exact hl
        · rw [hk] at ht
          cases ht
      exact h.of_eq (by simp [setLimiter, hlim]) rfl
    · exact h

/-- **A handler returns** its token with it. -/
theorem Slots.finish {w : Pool} (h : w.Slots) (i : Nat) (res a : Option Fault) :
    (w.step (.finish i res a)).Slots := by
  cases hi : w.running[i]? with
  | none => rw [step_finish_of_none hi]; exact h
  | some p =>
    obtain ⟨id, r⟩ := p
    rw [step_finish hi]
    obtain ⟨hl, hr⟩ := finish_keeps_workers a (w.handlerReturned i id r res) id r res
    have hlt : i < w.running.length := (List.getElem?_eq_some_iff.mp hi).1
    have hb := h.bounded
    -- the token comes back to a limiter that had it out, so the count stays below the capacity
    have hroom : w.dispatcher.limiter.tokens + 1 ≤ w.dispatcher.limiter.capacity := by
      have := h.balance
      omega
    have hgive := hb.give (by omega : (0 : Int) ≤ 1) (by have := hb.capacity_le; omega)
    have htok : (w.dispatcher.limiter.give 1).tokens = w.dispatcher.limiter.tokens + 1 := by
      have hsum : Word.wrap (w.dispatcher.limiter.tokens + 1) = w.dispatcher.limiter.tokens + 1 :=
        Word.wrap_of_le (by rw [Word.least_eq]; have := hb.tokens_nonneg; omega)
          (by have := hb.capacity_le; omega)
      simp only [Limiter.give, hsum]
      omega
    refine ⟨by rw [hl]; exact hgive, ?_⟩
    rw [hl, hr]
    simp only [handlerReturned, setLimiter, List.length_eraseIdx_of_lt hlt, htok]
    have := h.balance
    have : (Limiter.give w.dispatcher.limiter 1).capacity = w.dispatcher.limiter.capacity := rfl
    omega

/-- **Every step keeps the slots**: only taking a token and a handler's return move a token,
and each moves one handler with it. -/
theorem Slots.step {w : Pool} (h : w.Slots) : ∀ s : Step, (w.step s).Slots
  | .track id r s => h.of_eq (track_keeps_workers w id r s).1 (track_keeps_workers w id r s).2
  | .acquire id s => h.acquire id s
  | .finish i res a => h.finish i res a
  | .openClaim .. | .closeClaim _ => h.of_eq rfl rfl
  | .closeLimiter => ⟨h.bounded.close, h.balance⟩

theorem Slots.run {w : Pool} (h : w.Slots) (steps : List Step) : (w.run steps).Slots := by
  induction steps generalizing w with
  | nil => exact h
  | cons s steps ih => exact ih (h.step s)

/-- **No more handlers run than there are workers.** For every 64-bit capacity, every coordinator
and every schedule of a pool whose limiter starts fresh with that capacity: the free tokens and
the running handlers add up to the capacity, so at most that many handlers run at once. -/
theorem running_le_workers (coordinator : Coordinator) {c : Int} (hc : c ≤ Word.greatest)
    (steps : List Step) :
    let w := ({ dispatcher := ⟨coordinator, Limiter.create c⟩ } : Pool).run steps
    0 ≤ w.dispatcher.limiter.tokens ∧
      w.dispatcher.limiter.tokens + w.running.length = w.dispatcher.limiter.capacity ∧
      w.running.length ≤ w.dispatcher.limiter.capacity := by
  intro w
  have h0 : ({ dispatcher := ⟨coordinator, Limiter.create c⟩ } : Pool).Slots :=
    ⟨Limiter.bounded_create hc, by simp [Limiter.create_tokens]⟩
  have h : w.Slots := h0.run steps
  exact ⟨h.bounded.tokens_nonneg, h.balance, by have := h.bounded.tokens_nonneg; have := h.balance; omega⟩

end Pool

/-- **Worker tokens bound the running handlers.** For every 64-bit capacity: every run of takes
(with any shutdown), closes and releases of between none and `greatest - capacity` tokens keeps
the free tokens and the tokens in use within `[0, capacity]`, and a take that succeeds takes a
free token; and under the dispatcher's use of the limiter (a token before each handler starts,
one back when it returns), in every schedule the free tokens and the running handlers add up to
the capacity, so no more handlers run at once than the capacity. -/
theorem workers_bound_running {c : Int} (hc : c ≤ Word.greatest) :
    (∀ ops : List Limiter.Op,
      (∀ n, .give n ∈ ops → 0 ≤ n ∧ n ≤ Word.greatest - (Limiter.create c).capacity) →
      let l := (Limiter.create c).performAll ops
      (0 ≤ l.tokens ∧ l.tokens ≤ l.capacity) ∧ (0 ≤ l.inUse ∧ l.inUse ≤ l.capacity) ∧
        ∀ s, (l.take s).1 = .taken → 0 < l.tokens ∧ (l.take s).2.tokens = l.tokens - 1) ∧
    ∀ (coordinator : Coordinator) (steps : List Pool.Step),
      let w := ({ dispatcher := ⟨coordinator, Limiter.create c⟩ } : Pool).run steps
      w.running.length ≤ w.dispatcher.limiter.capacity :=
  ⟨fun _ hops => Limiter.bounded_performAll hc hops,
    fun coordinator steps => (Pool.running_le_workers coordinator hc steps).2.2⟩

/-- The bound for a limiter of two workers. -/
theorem workers_bound_running_two : (2 : Int) ≤ Word.greatest ∧
    ((∀ ops : List Limiter.Op,
      (∀ n, .give n ∈ ops → 0 ≤ n ∧ n ≤ Word.greatest - (Limiter.create 2).capacity) →
      let l := (Limiter.create 2).performAll ops
      (0 ≤ l.tokens ∧ l.tokens ≤ l.capacity) ∧ (0 ≤ l.inUse ∧ l.inUse ≤ l.capacity) ∧
        ∀ s, (l.take s).1 = .taken → 0 < l.tokens ∧ (l.take s).2.tokens = l.tokens - 1) ∧
    ∀ (coordinator : Coordinator) (steps : List Pool.Step),
      let w := ({ dispatcher := ⟨coordinator, Limiter.create 2⟩ } : Pool).run steps
      w.running.length ≤ w.dispatcher.limiter.capacity) :=
  ⟨by decide, workers_bound_running (by decide)⟩

end Conveyor
