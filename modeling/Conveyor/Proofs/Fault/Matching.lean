import Conveyor.Fault
/-!
# Which fixed failures a fault holds

`Fault.isa` looks for a fixed failure among the nodes of a fault. These lemmas read it off each
shape of fault that the engine and the runner build: a fixed failure holds only itself, a
joined fault holds what any of its parts holds, an open circuit holds only `breakerOpen`, a
dead-letter failure holds `deadLetterFailed` and what its cause holds, and a permanent failure
around a plain text holds nothing.

`Fault.join` drops the missing parts and joins the rest, so a join with a fixed failure among
its parts is always a fault (`join_cons_some`), and the fault holds exactly what one of the
parts holds (`isa_of_join`).
-/

namespace Conveyor.Fault

theorem nodesOfList_eq (ps : List Fault) : nodesOfList ps = ps.flatMap nodes := by
  induction ps with
  | nil => rfl
  | cons p ps ih => rw [nodesOfList, ih, List.flatMap_cons]

@[simp] theorem isa_sentinel (k s : Sentinel) : (Fault.sentinel s).isa k = (k == s) := by
  simp [isa, nodes, nodeIsa]

@[simp] theorem isa_joined (k : Sentinel) (ps : List Fault) :
    (Fault.joined ps).isa k = ps.any (·.isa k) := by
  simp [isa, nodes, nodeIsa, nodesOfList_eq, List.any_flatMap]

@[simp] theorem isa_circuitOpen (k : Sentinel) (name : String) (rem : Int) :
    (Fault.circuitOpen name rem).isa k = (k == .breakerOpen) := by
  simp [isa, nodes, nodeIsa]

@[simp] theorem isa_deadLetter (k : Sentinel) (subject : String) (c : Fault) :
    (Fault.deadLetter subject c).isa k = (k == .deadLetterFailed || c.isa k) := by
  simp [isa, nodes, nodeIsa]

@[simp] theorem isa_permanent_text (k : Sentinel) (s : String) :
    (Fault.permanent (some (.text s))).isa k = false := by
  simp [isa, nodes, nodeIsa]

theorem join_eq_some {fs : List (Option Fault)} {f : Fault} (h : join fs = some f) :
    f = .joined (fs.filterMap id) := by
  unfold join at h
  split at h
  · cases h
  · exact (Option.some.inj h).symm

theorem join_cons_some (g : Fault) (fs : List (Option Fault)) :
    join (some g :: fs) = some (.joined (g :: fs.filterMap id)) := by
  simp [join]

/-- **A joined fault holds a fixed failure exactly when one of its parts does.** -/
theorem isa_of_join {fs : List (Option Fault)} {f : Fault} (h : join fs = some f) (k : Sentinel) :
    f.isa k ↔ ∃ g, some g ∈ fs ∧ g.isa k := by
  rw [join_eq_some h, isa_joined, List.any_eq_true]
  simp only [List.mem_filterMap, id]
  constructor
  · rintro ⟨g, ⟨x, hx, rfl⟩, hk⟩
    exact ⟨_, hx, hk⟩
  · rintro ⟨g, hg, hk⟩
    exact ⟨g, ⟨_, hg, rfl⟩, hk⟩

/-- Every fault is the first of its own nodes. -/
theorem mem_nodes_self (f : Fault) : f ∈ f.nodes := by
  unfold nodes
  split <;> simp

/-- A joined fault holds each of its parts. -/
theorem mem_nodes_joined {g : Fault} {ps : List Fault} (h : g ∈ ps) :
    g ∈ (Fault.joined ps).nodes := by
  simp only [nodes, nodesOfList_eq, List.mem_cons, List.mem_flatMap]
  exact .inr ⟨g, h, mem_nodes_self g⟩

/-- A joined fault is none of its parts. -/
theorem joined_ne_of_mem {g : Fault} {ps : List Fault} (h : g ∈ ps) : Fault.joined ps ≠ g := by
  intro heq
  have hlt := List.sizeOf_lt_of_mem h
  rw [← heq] at hlt
  simp only [Fault.joined.sizeOf_spec] at hlt
  omega

end Conveyor.Fault
