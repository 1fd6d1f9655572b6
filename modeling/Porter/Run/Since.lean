import Mathlib.Data.List.Basic

/-!
# What has begun and has not ended since

A history is a list of events, the oldest first. A condition holds if an event has begun it and none
has ended it since.
-/
namespace Porter.Run

variable {α : Type} (begins ends : α → Prop)

/-- An event has begun the condition, and no event has ended it since. -/
def Since : List α → Prop
  | [] => False
  | event :: rest => Since rest ∨ begins event ∧ ∀ later ∈ rest, ¬ ends later

variable {begins ends}

/-- The condition holds after two stretches if it begins in the second and lasts, or if it holds
after the first and the second does not end it. -/
theorem since_append (first second : List α) :
    Since begins ends (first ++ second) ↔
      Since begins ends second ∨ Since begins ends first ∧ ∀ later ∈ second, ¬ ends later := by
  induction first with
  | nil => simp [Since]
  | cons event rest recurse =>
    simp only [List.cons_append, Since, recurse, List.mem_append, or_imp, forall_and]
    tauto

theorem since_iff_of_lasting {history : List α} (lasting : ∀ event ∈ history, ¬ ends event) :
    Since begins ends history ↔ ∃ event ∈ history, begins event := by
  induction history with
  | nil => simp [Since]
  | cons event rest recurse =>
    obtain ⟨-, later⟩ := List.forall_mem_cons.mp lasting
    rw [Since, recurse later, List.exists_mem_cons_iff]
    constructor
    · rintro (after | ⟨here, -⟩)
      · exact Or.inr after
      · exact Or.inl here
    · rintro (here | after)
      · exact Or.inr ⟨here, later⟩
      · exact Or.inl after

theorem not_since {history : List α} (never : ∀ event ∈ history, ¬ begins event) :
    ¬ Since begins ends history := by
  induction history with
  | nil => exact id
  | cons event rest recurse =>
    obtain ⟨here, later⟩ := List.forall_mem_cons.mp never
    rintro (after | ⟨begun, -⟩)
    · exact recurse later after
    · exact here begun

end Porter.Run
