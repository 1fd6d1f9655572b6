import Mathlib.Data.List.Nodup
import Mathlib.Data.List.Perm.Basic

/-!
# Key sets and their iteration order

A map that is only used as a set of keys is a list without repetitions.
-/
namespace Porter.Go

structure MapOrder (κ : Type) where
  visit : List κ → List κ
  /-- Every key is visited once and nothing else is. -/
  perm : ∀ keys, (visit keys).Perm keys

namespace MapOrder

variable {κ : Type}

def insertion : MapOrder κ := ⟨id, fun keys => List.Perm.refl keys⟩

@[simp] theorem mem_visit (order : MapOrder κ) (keys : List κ) (key : κ) :
    key ∈ order.visit keys ↔ key ∈ keys :=
  (order.perm keys).mem_iff

end MapOrder

variable {α κ : Type} [DecidableEq κ]

def addKey (keys : List κ) (key : κ) : List κ :=
  if key ∈ keys then keys else keys ++ [key]

@[simp] theorem mem_addKey (keys : List κ) (new key : κ) :
    key ∈ addKey keys new ↔ key ∈ keys ∨ key = new := by
  unfold addKey
  split
  · rename_i present
    constructor
    · exact Or.inl
    · rintro (old | rfl)
      · exact old
      · exact present
  · rw [List.mem_append, List.mem_singleton]

def collectKeys (p : α → Bool) (f : α → κ) (items : List α) (keys : List κ) : List κ :=
  items.foldl (fun keys item => if p item then addKey keys (f item) else keys) keys

theorem mem_collectKeys (p : α → Bool) (f : α → κ) (items : List α) (keys : List κ) (key : κ) :
    key ∈ collectKeys p f items keys ↔
      key ∈ keys ∨ ∃ item ∈ items, p item = true ∧ key = f item := by
  induction items generalizing keys with
  | nil => simp [collectKeys]
  | cons head tail recurse =>
    have step : collectKeys p f (head :: tail) keys =
        collectKeys p f tail (if p head then addKey keys (f head) else keys) := rfl
    rw [step, recurse]
    by_cases chosen : p head = true
    · simp [chosen, or_assoc]
    · simp [chosen]

theorem nodup_addKey {keys : List κ} (distinct : keys.Nodup) (key : κ) :
    (addKey keys key).Nodup := by
  unfold addKey
  split
  · exact distinct
  · next new =>
    refine List.nodup_append.mpr ⟨distinct, List.nodup_singleton key, ?_⟩
    intro other member last added same
    rw [same, List.mem_singleton.mp added] at member
    exact new member

theorem nodup_collectKeys (p : α → Bool) (f : α → κ) (items : List α) {keys : List κ}
    (distinct : keys.Nodup) : (collectKeys p f items keys).Nodup := by
  induction items generalizing keys with
  | nil => exact distinct
  | cons head tail recurse =>
    apply recurse
    dsimp only
    split
    · exact nodup_addKey distinct _
    · exact distinct

end Porter.Go
