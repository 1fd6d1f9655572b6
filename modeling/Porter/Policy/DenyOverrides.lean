import Mathlib.Data.Set.Basic

/-!
# Deny overrides allow

The verdict of a set of policy entries, some of which deny: the set permits when it has an entry
that does not deny and none that does.
-/
namespace Porter.Policy

variable {ε : Type}

/-- A set of entries permits when one of them allows and none denies. -/
def Permits (denies : ε → Prop) (entries : Set ε) : Prop :=
  (∃ entry ∈ entries, ¬denies entry) ∧ ¬∃ entry ∈ entries, denies entry

structure Flags where
  allowed : Bool
  denied : Bool

namespace Flags

def raise (denies : ε → Bool) (flags : Flags) (entry : ε) : Flags :=
  if denies entry then { flags with denied := true } else { flags with allowed := true }

def scan (selects denies : ε → Bool) (entries : List ε) (flags : Flags) : Flags :=
  entries.foldl (fun flags entry => if selects entry then flags.raise denies entry else flags) flags

theorem scan_eq (selects denies : ε → Bool) (entries : List ε) (flags : Flags) :
    flags.scan selects denies entries =
      ⟨flags.allowed || entries.any (fun entry => selects entry && !denies entry),
        flags.denied || entries.any (fun entry => selects entry && denies entry)⟩ := by
  induction entries generalizing flags with
  | nil => simp [scan]
  | cons head tail recurse =>
    have step : flags.scan selects denies (head :: tail) =
        (if selects head then flags.raise denies head else flags).scan selects denies tail := rfl
    rw [step, recurse]
    cases chosen : selects head <;> cases deny : denies head <;> simp [raise, chosen, deny]

def verdict (flags : Flags) : Bool :=
  if flags.denied then false else flags.allowed

theorem verdict_scan (selects denies : ε → Bool) (entries : List ε) :
    (scan selects denies entries ⟨false, false⟩).verdict = true ↔
      Permits (fun entry => denies entry = true)
        {entry | entry ∈ entries ∧ selects entry = true} := by
  have allowed : entries.any (fun entry => selects entry && !denies entry) = true ↔
      ∃ entry ∈ {entry | entry ∈ entries ∧ selects entry = true}, ¬denies entry = true := by
    simp [and_assoc]
  have denied : entries.any (fun entry => selects entry && denies entry) = true ↔
      ∃ entry ∈ {entry | entry ∈ entries ∧ selects entry = true}, denies entry = true := by
    simp [and_assoc]
  rw [scan_eq, Permits, ← allowed, ← denied]
  simp only [verdict, Bool.false_or]
  split
  · rename_i raised
    simp [raised]
  · rename_i lowered
    exact (and_iff_left lowered).symm

end Flags

end Porter.Policy
