import Mathlib.Data.List.Basic

/-!
# Slices

A slice with the cells of its backing array. An append writes to the cell behind the slice, or to a
new array if there is none.
-/
namespace Porter.Go

structure Slice (α : Type) where
  front : List α
  elems : List α
  spare : List α

variable {α : Type}

namespace Slice

def nil : Slice α := ⟨[], [], []⟩

variable (s : Slice α)

def drop (k : Nat) : Slice α := ⟨s.front ++ s.elems.take k, s.elems.drop k, s.spare⟩

def append (x : α) (fresh : List α) : Slice α :=
  match s.spare with
  | _ :: spare => ⟨s.front, s.elems ++ [x], spare⟩
  | [] => ⟨[], s.elems ++ [x], fresh⟩

/-- A pass of the loop: the element is appended to `s[:k]`, which begins where `s` does, or
counted. -/
def sift (p : α → Bool) (state : Slice α × Nat) (i : Nat) : Slice α × Nat :=
  match (state.1.elems ++ state.1.spare)[i]? with
  | some x => if p x then (state.1.append x [], state.2) else (state.1, state.2 + 1)
  | none => state

def keep (p : α → Bool) : Slice α × Nat :=
  (List.range s.elems.length).foldl (sift p) (⟨s.front, [], s.elems ++ s.spare⟩, 0)

variable {s} {p : α → Bool}

@[simp] theorem elems_append (x : α) (fresh : List α) :
    (s.append x fresh).elems = s.elems ++ [x] := by
  unfold append
  split <;> rfl

/-- Behind the kept elements stand as many cells as elements were counted, and then those that are
still to be read. -/
theorem sift_next (p : α → Bool) (front kept passed rest : List α) (x : α) :
    ∃ left, (kept ++ [x].filter p).length + left.length = kept.length + passed.length + 1 ∧
      sift p (⟨front, kept, passed ++ x :: rest⟩, passed.length) (kept.length + passed.length) =
        (⟨front, kept ++ [x].filter p, left ++ rest⟩, left.length) := by
  have here : (kept ++ (passed ++ x :: rest))[kept.length + passed.length]? = some x := by simp
  unfold sift
  dsimp only
  rw [here]
  cases good : p x with
  | false => exact ⟨passed ++ [x], by simp [good, Nat.add_assoc], by simp [good]⟩
  | true =>
    cases passed with
    | nil => exact ⟨[], by simp [good], by simp [append, good]⟩
    | cons y passed => exact ⟨passed ++ [x], by simp [good]; omega, by simp [append, good]⟩

theorem foldl_sift (p : α → Bool) (front kept passed unread rest : List α) :
    ∃ left, (kept ++ unread.filter p).length + left.length =
        kept.length + passed.length + unread.length ∧
      (List.range' (kept.length + passed.length) unread.length).foldl (sift p)
          (⟨front, kept, passed ++ (unread ++ rest)⟩, passed.length) =
        (⟨front, kept ++ unread.filter p, left ++ rest⟩, left.length) := by
  induction unread generalizing kept passed with
  | nil => exact ⟨passed, by simp, by simp⟩
  | cons x unread recurse =>
    obtain ⟨left, length, next⟩ := sift_next p front kept passed (unread ++ rest) x
    obtain ⟨last, total, after⟩ := recurse (kept ++ [x].filter p) left
    have whole : kept ++ (x :: unread).filter p = kept ++ [x].filter p ++ unread.filter p := by
      rw [List.append_assoc, ← List.filter_append]
      rfl
    refine ⟨last, ?_, ?_⟩
    · rw [whole, total, length, List.length_cons]
      omega
    · rw [List.length_cons, List.range'_succ, List.foldl_cons, List.cons_append, next, ← length,
        after, whole]

theorem keep_spec (s : Slice α) (p : α → Bool) :
    (s.keep p).1.elems = s.elems.filter p ∧
      (s.elems.filter p).length + (s.keep p).2 = s.elems.length := by
  obtain ⟨left, length, after⟩ := foldl_sift p s.front [] [] s.elems s.spare
  rw [List.nil_append, List.nil_append, List.length_nil] at after
  unfold keep
  rw [List.range_eq_range', after]
  exact ⟨rfl, by simpa using length⟩

end Slice

end Porter.Go
