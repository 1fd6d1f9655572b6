import Mathlib.Data.List.Basic
import Mathlib.Logic.Relation

/-!
# Topological orders

A list puts things in an order that respects a dependency relation if everything a thing depends on
stands before it. What such a list contains lies on no cycle.
-/
namespace Porter.Graph

variable {α : Type}

/-- Everything in the list stands after all it depends on. -/
def Topological (depends : α → α → Prop) (order : List α) : Prop :=
  ∀ before a after, order = before ++ a :: after → ∀ b, depends a b → b ∈ before

namespace Topological

variable {depends : α → α → Prop} {order : List α}

theorem nil : Topological depends [] := by
  intro before a after split
  have empty := congrArg List.length split
  simp at empty

theorem concat (topological : Topological depends order) {a : α}
    (ready : ∀ b, depends a b → b ∈ order) : Topological depends (order ++ [a]) := by
  intro before x after split b needs
  rcases List.eq_nil_or_concat after with rfl | ⟨inner, last, rfl⟩
  · have ⟨same, here⟩ := List.append_inj' split rfl
    rw [← same]
    exact ready b ((List.cons.inj here).1 ▸ needs)
  · have shape : order ++ [a] = (before ++ x :: inner) ++ [last] := by
      rw [split, List.append_assoc, List.cons_append, List.concat_eq_append]
    exact topological before x inner (List.append_inj' shape rfl).1 b needs

theorem idxOf_lt [DecidableEq α] (topological : Topological depends order) {a b : α}
    (member : a ∈ order) (needs : depends a b) :
    b ∈ order ∧ order.idxOf b < order.idxOf a := by
  have bound := List.idxOf_lt_length_of_mem member
  have split : order = order.take (order.idxOf a) ++ a :: order.drop (order.idxOf a + 1) := by
    conv => lhs; rw [← List.take_append_drop (order.idxOf a) order]
    rw [List.drop_eq_getElem_cons bound, List.getElem_idxOf bound]
  have earlier := topological _ a _ split b needs
  refine ⟨List.mem_of_mem_take earlier, ?_⟩
  have there := List.idxOf_lt_length_of_mem earlier
  rw [List.length_take] at there
  rw [split, List.idxOf_append_of_mem earlier]
  rw [← split]
  omega

theorem acyclic [DecidableEq α] (topological : Topological depends order) {a : α}
    (member : a ∈ order) : ¬ Relation.TransGen depends a a := by
  have descends : ∀ b, Relation.TransGen depends a b →
      b ∈ order ∧ order.idxOf b < order.idxOf a := by
    intro b path
    induction path with
    | single needs => exact topological.idxOf_lt member needs
    | tail _ needs before =>
      have ⟨there, below⟩ := topological.idxOf_lt before.1 needs
      exact ⟨there, Nat.lt_trans below before.2⟩
  intro cycle
  exact Nat.lt_irrefl _ (descends a cycle).2

end Topological

end Porter.Graph
