import Mathlib.Data.List.Sort

/-!
# Sorting a slice

What `sort.Slice` promises: the elements are permuted, and, if they are compared by a strict weak
order, none stands before one that is less.
-/
namespace Porter.Go

structure Sorter (α : Type) where
  slice : (α → α → Bool) → List α → List α
  perm : ∀ less xs, (slice less xs).Perm xs
  ordered : ∀ less xs, IsStrictWeakOrder α (fun a b => less a b = true) →
    (slice less xs).Pairwise (fun a b => less b a = false)

namespace Sorter

variable {α : Type} (sorter : Sorter α) {less : α → α → Bool} {xs : List α}

theorem slice_eq_nil : sorter.slice less xs = [] ↔ xs = [] := by
  have perm := sorter.perm less xs
  constructor
  · intro none
    rw [none] at perm
    exact perm.symm.eq_nil
  · intro none
    rw [none] at perm ⊢
    exact perm.eq_nil

theorem first (order : IsStrictWeakOrder α (fun a b => less a b = true)) {a : α} {rest : List α}
    (sorted : sorter.slice less xs = a :: rest) : a ∈ xs ∧ ∀ b ∈ xs, less b a = false := by
  have perm := sorter.perm less xs
  have pairwise := sorter.ordered less xs order
  rw [sorted] at perm pairwise
  refine ⟨perm.mem_iff.mp List.mem_cons_self, ?_⟩
  intro b member
  rcases List.mem_cons.mp (perm.mem_iff.mpr member) with same | behind
  · rw [same]
    exact Bool.eq_false_iff.mpr (order.irrefl a)
  · exact (List.pairwise_cons.mp pairwise).1 b behind

theorem not_less_trans (order : IsStrictWeakOrder α (fun a b => less a b = true)) {a b c : α}
    (first : ¬less b a = true) (second : ¬less c b = true) : ¬less c a = true := by
  intro descends
  have left : ¬less a b = true := fun ascends => second (order.trans c a b descends ascends)
  have right : ¬less b c = true := fun ascends => first (order.trans b c a ascends descends)
  exact (order.incomp_trans a b c ⟨left, first⟩ ⟨right, second⟩).2 descends

def insertion : Sorter α where
  slice less xs := xs.insertionSort (fun a b => ¬less b a = true)
  perm less xs := List.perm_insertionSort _ xs
  ordered less xs order := by
    have total : Std.Total (fun a b => ¬less b a = true) := ⟨fun a b => by
      by_contra neither
      rw [not_or, not_not, not_not] at neither
      exact order.irrefl a (order.trans a b a neither.2 neither.1)⟩
    have trans : IsTrans α (fun a b => ¬less b a = true) :=
      ⟨fun _ _ _ first second => not_less_trans order first second⟩
    have sorted := List.pairwise_insertionSort (fun a b => ¬less b a = true) xs
    exact sorted.imp Bool.eq_false_iff.mpr

end Sorter

end Porter.Go
