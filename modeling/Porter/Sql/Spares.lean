import Porter.Sql.Table

/-!
# Statements that spare rows

A statement spares a class of rows when every stored row of the class is still stored, unchanged,
afterwards.
-/
namespace Porter.Sql

namespace Table

variable {ρ κ : Type} {key : ρ → κ}

/-- Every row of the class is stored afterwards as it was before. -/
def Spares (foreign : ρ → Prop) (before after : Table key) : Prop :=
  ∀ row ∈ before.rows, foreign row → row ∈ after.rows

variable (foreign : ρ → Prop) (table : Table key)

theorem Spares.refl : Spares foreign table table :=
  fun _ stored _ => stored

theorem spares_updateWhere (p : ρ → Bool) (f : ρ → ρ) (keeps : ∀ row, key (f row) = key row)
    (outside : ∀ row, p row = true → ¬foreign row) :
    Spares foreign table (table.updateWhere p f keeps) := by
  intro row stored chosen
  apply (mem_updateWhere _ _ _ _ _).mpr
  refine ⟨row, stored, ?_⟩
  have skipped : p row = false := by
    apply Bool.eq_false_iff.mpr
    intro selected
    exact outside row selected chosen
  simp [skipped]

variable [DecidableEq κ]

theorem spares_deleteWhere_iff (k : κ) :
    Spares foreign table (table.deleteWhere (fun row => key row = k)) ↔
      ∀ row, table.find k = some row → ¬foreign row := by
  constructor
  · intro spares row found chosen
    obtain ⟨stored, keyed⟩ := (find_eq_some table k row).mp found
    have kept := (mem_deleteWhere _ _ _).mp (spares row stored chosen)
    simp [keyed] at kept
  · intro own row stored chosen
    apply (mem_deleteWhere _ _ _).mpr
    refine ⟨stored, ?_⟩
    have other : key row ≠ k := by
      intro keyed
      exact own row ((find_eq_some table k row).mpr ⟨stored, keyed⟩) chosen
    simpa using other

theorem spares_updateWhere_iff (k : κ) (f : ρ → ρ) (keeps : ∀ row, key (f row) = key row) :
    Spares foreign table (table.updateWhere (fun row => key row = k) f keeps) ↔
      ∀ row, table.find k = some row → foreign row → f row = row := by
  constructor
  · intro spares row found chosen
    obtain ⟨stored, keyed⟩ := (find_eq_some table k row).mp found
    obtain ⟨old, oldStored, same⟩ := (mem_updateWhere _ _ _ _ _).mp (spares row stored chosen)
    by_cases oldKeyed : key old = k
    · have one : old = row := table.row_eq_of_key oldStored stored (oldKeyed.trans keyed.symm)
      rw [one] at same
      simpa [keyed] using same.symm
    · have one : row = old := by simpa [oldKeyed] using same
      rw [one] at keyed
      exact absurd keyed oldKeyed
  · intro own row stored chosen
    apply (mem_updateWhere _ _ _ _ _).mpr
    refine ⟨row, stored, ?_⟩
    by_cases keyed : key row = k
    · simp [keyed, own row ((find_eq_some table k row).mpr ⟨stored, keyed⟩) chosen]
    · simp [keyed]

theorem spares_upsert (new : ρ) (merge : ρ → ρ) (keeps : ∀ row, key (merge row) = key row)
    (outside : ∀ row, table.find (key new) = some row → ¬foreign row) :
    Spares foreign table (table.upsert new merge keeps) := by
  intro row stored chosen
  apply (mem_upsert_of_ne table new merge keeps row ?_).mpr stored
  intro same
  exact outside row ((find_eq_some table (key new) row).mpr ⟨stored, same⟩) chosen

theorem spares_iff_find (before after : Table key) :
    Spares foreign before after ↔
      ∀ row ∈ before.rows, foreign row → after.find (key row) = some row := by
  constructor
  · intro spares row stored chosen
    exact (find_eq_some after (key row) row).mpr ⟨spares row stored chosen, rfl⟩
  · intro found row stored chosen
    exact ((find_eq_some after (key row) row).mp (found row stored chosen)).1

end Table

end Porter.Sql
