import Conveyor.Proofs.Fault.Matching
/-!
# A fault's class through its wrappers

Both classifiers read a fault through its nodes, in order: whether one is a filtered message or a
passed deadline, and the first that carries a retry verdict, is a network failure or is a remote
status (`Fault.classify`); or only the first verdict (`Fault.retriable`). A node that answers none
of these questions (`Fault.Silent`) is invisible to them.

The wrappers that add context to a failure put one such node in front of the failure's own nodes
(`Fault.Behind`): a text written before it, a failed delivery by a named sink, and a join of the
failure alone. So both classifiers give the wrapped failure the class of the failure itself
(`Behind.classify`, `Behind.retriable`).

The markers decide instead: the first verdict is theirs. A permanent processing failure and a
record no sink will take are never retried, and a transient failure is retried unless it wraps a
filtered message, which is never retried, whatever wraps it.

Main statement: `classes_through_wrappers`.
-/

namespace Conveyor.Fault

/-! ### Nodes the classifiers do not see -/

/-- A node that answers none of the questions the classifiers ask: it is neither a filtered
message nor a passed deadline, carries no verdict, and is no network failure and no status. -/
structure Silent (n : Fault) : Prop where
  notFiltered : n.nodeIsa .filtered = false
  notDeadline : n.nodeIsa .deadlineExceeded = false
  noVerdict : n.nodeVerdict? = none
  noTimeout : n.nodeTimeout? = none
  noStatus : n.nodeStatus? = none

/-- `f` is `g` behind a silent node: its nodes are one that answers nothing, then `g`'s. -/
def Behind (f g : Fault) : Prop := ∃ n, n.Silent ∧ f.nodes = n :: g.nodes

section Behind

variable {f g : Fault}

theorem Behind.isa_filtered (h : f.Behind g) : f.isa .filtered = g.isa .filtered := by
  obtain ⟨n, hn, hf⟩ := h
  simp only [isa, hf, List.any_cons, hn.notFiltered, Bool.false_or]

theorem Behind.isa_deadline (h : f.Behind g) :
    f.isa .deadlineExceeded = g.isa .deadlineExceeded := by
  obtain ⟨n, hn, hf⟩ := h
  simp only [isa, hf, List.any_cons, hn.notDeadline, Bool.false_or]

theorem Behind.verdict? (h : f.Behind g) : f.verdict? = g.verdict? := by
  obtain ⟨n, hn, hf⟩ := h
  simp only [Fault.verdict?, hf, List.findSome?_cons, hn.noVerdict]

theorem Behind.timeout? (h : f.Behind g) : f.timeout? = g.timeout? := by
  obtain ⟨n, hn, hf⟩ := h
  simp only [Fault.timeout?, hf, List.findSome?_cons, hn.noTimeout]

theorem Behind.status? (h : f.Behind g) : f.status? = g.status? := by
  obtain ⟨n, hn, hf⟩ := h
  simp only [Fault.status?, hf, List.findSome?_cons, hn.noStatus]

/-- **A fault behind a silent node is classified as the fault itself.** -/
theorem Behind.classify (h : f.Behind g) : f.classify = g.classify := by
  simp only [Fault.classify, h.isa_filtered, h.verdict?, h.isa_deadline, h.timeout?, h.status?]

/-- **The retry engine retries a fault behind a silent node as it retries the fault itself.** -/
theorem Behind.retriable (h : f.Behind g) : f.retriable = g.retriable := by
  simp only [Fault.retriable, h.verdict?]

end Behind

/-! ### The wrappers -/

theorem nodes_wrap (lead : String) (e : Fault) :
    (Fault.wrap lead e).nodes = Fault.wrap lead e :: e.nodes := by
  simp [nodes]

theorem nodes_delivery (sink : String) (e : Fault) :
    (Fault.delivery sink (some e)).nodes = Fault.delivery sink (some e) :: e.nodes := by
  simp [nodes]

theorem nodes_joined_single (e : Fault) :
    (Fault.joined [e]).nodes = Fault.joined [e] :: e.nodes := by
  simp [nodes, nodesOfList]

theorem nodes_permanent (e : Fault) :
    (Fault.permanent (some e)).nodes = Fault.permanent (some e) :: e.nodes := by
  simp [nodes]

theorem nodes_undeliverable (e : Fault) :
    (Fault.undeliverable e).nodes = Fault.undeliverable e :: e.nodes := by
  simp [nodes]

theorem nodes_transient (e : Fault) :
    (Fault.transient (some e)).nodes = Fault.transient (some e) :: e.nodes := by
  simp [nodes]

/-- A text written before a failure. -/
theorem behind_wrap (lead : String) (e : Fault) : (Fault.wrap lead e).Behind e :=
  ⟨_, ⟨rfl, rfl, rfl, rfl, rfl⟩, nodes_wrap lead e⟩

/-- A processed message that the named sink could not deliver. -/
theorem behind_delivery (sink : String) (e : Fault) : (Fault.delivery sink (some e)).Behind e :=
  ⟨_, ⟨rfl, rfl, rfl, rfl, rfl⟩, nodes_delivery sink e⟩

/-- A join of one failure. -/
theorem behind_joined_single (e : Fault) : (Fault.joined [e]).Behind e :=
  ⟨_, ⟨rfl, rfl, rfl, rfl, rfl⟩, nodes_joined_single e⟩

/-! ### The markers -/

/-- A fault holds a fixed failure when the node in front of another's nodes is it, or the
other holds it. -/
theorem isa_of_nodes_cons {f e n : Fault} (hf : f.nodes = n :: e.nodes) (s : Sentinel) :
    f.isa s = (n.nodeIsa s || e.isa s) := by
  simp only [isa, hf, List.any_cons]

/-- **A filtered message is never retried**, whatever wraps it. -/
theorem classify_of_filtered {f : Fault} (h : f.isa .filtered = true) : f.classify = false := by
  simp only [Fault.classify, h, if_true]

/-- A node with its own verdict, in front of another fault's nodes, decides the class by that
verdict, unless the other fault holds a filtered message. -/
theorem classify_of_head {f e n : Fault} {v : Bool} (hf : f.nodes = n :: e.nodes)
    (hn : n.nodeIsa .filtered = false) (hv : n.nodeVerdict? = some v) :
    f.classify = (v && !e.isa .filtered) := by
  cases he : e.isa .filtered with
  | true =>
    rw [classify_of_filtered (by rw [isa_of_nodes_cons hf, he, Bool.or_true]), Bool.not_true,
      Bool.and_false]
  | false =>
    have hfil : f.isa .filtered = false := by rw [isa_of_nodes_cons hf, hn, he, Bool.or_false]
    have hver : f.verdict? = some v := by
      simp only [Fault.verdict?, hf, List.findSome?_cons, hv]
    simp only [Fault.classify, hfil, hver, Bool.false_eq_true, if_false, Bool.not_false,
      Bool.and_true]

/-- A permanent processing failure is never retried. -/
theorem classify_permanent (e : Fault) : (Fault.permanent (some e)).classify = false := by
  rw [classify_of_head (nodes_permanent e) rfl rfl, Bool.false_and]

/-- A record that no sink will take is never retried. -/
theorem classify_undeliverable (e : Fault) : (Fault.undeliverable e).classify = false := by
  rw [classify_of_head (nodes_undeliverable e) rfl rfl, Bool.false_and]

/-- A transient failure is retried unless it wraps a filtered message. -/
theorem classify_transient (e : Fault) :
    (Fault.transient (some e)).classify = !e.isa .filtered := by
  rw [classify_of_head (nodes_transient e) rfl rfl, Bool.true_and]

/-! ### Main statement -/

/-- **A failure's class through its wrappers.** For every failure `e`, a text written before it,
its failed delivery by any sink and its join alone are classified as `e` itself, by the
processing classifier and by the retry engine's. A permanent processing failure around `e` and
a record around `e` that no sink will take are never retried, a transient failure around `e`
is retried when `e` is no filtered message, and a filtered message is never retried. -/
theorem classes_through_wrappers (e : Fault) :
    (∀ (lead sink : String),
      (Fault.wrap lead e).classify = e.classify ∧
      (Fault.delivery sink (some e)).classify = e.classify ∧
      (Fault.join [some e]).map Fault.classify = some e.classify) ∧
    (∀ (lead sink : String),
      (Fault.wrap lead e).retriable = e.retriable ∧
      (Fault.delivery sink (some e)).retriable = e.retriable ∧
      (Fault.join [some e]).map Fault.retriable = some e.retriable) ∧
    (Fault.permanent (some e)).classify = false ∧
    (Fault.undeliverable e).classify = false ∧
    (e.isa .filtered = false → (Fault.transient (some e)).classify = true) ∧
    (e.isa .filtered = true → e.classify = false) := by
  have hjoin : Fault.join [some e] = some (.joined [e]) := join_cons_some e []
  refine ⟨fun lead sink => ⟨(behind_wrap lead e).classify, (behind_delivery sink e).classify, ?_⟩,
    fun lead sink => ⟨(behind_wrap lead e).retriable, (behind_delivery sink e).retriable, ?_⟩,
    classify_permanent e, classify_undeliverable e, fun h => ?_, classify_of_filtered⟩
  · rw [hjoin, Option.map_some, (behind_joined_single e).classify]
  · rw [hjoin, Option.map_some, (behind_joined_single e).retriable]
  · rw [classify_transient, h, Bool.not_false]

end Conveyor.Fault
