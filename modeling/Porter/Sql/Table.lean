import Mathlib.Data.List.Nodup

/-!
# Keyed tables

A table is a list of rows together with its uniqueness constraint: no two rows share a key.
-/
namespace Porter.Sql

/-- Rows in storage order, of which no two share a key. -/
structure Table {ρ κ : Type} (key : ρ → κ) where
  rows : List ρ
  unique : (rows.map key).Nodup

namespace Table

variable {ρ κ : Type} {key : ρ → κ}

instance [DecidableEq ρ] : DecidableEq (Table key) := fun left right =>
  decidable_of_iff (left.rows = right.rows) ⟨fun same => by
    cases left
    cases right
    cases same
    rfl, congrArg rows⟩

def empty (key : ρ → κ) : Table key := ⟨[], List.nodup_nil⟩

def single (key : ρ → κ) (row : ρ) : Table key := ⟨[row], List.nodup_singleton (key row)⟩

variable (table : Table key)

theorem row_eq_of_key {left right : ρ} (first : left ∈ table.rows) (second : right ∈ table.rows)
    (same : key left = key right) : left = right :=
  List.inj_on_of_nodup_map table.unique first second same

def find [DecidableEq κ] (table : Table key) (k : κ) : Option ρ :=
  table.rows.find? (fun row => key row = k)

variable (k : κ)

theorem find_eq_some [DecidableEq κ] (row : ρ) :
    table.find k = some row ↔ row ∈ table.rows ∧ key row = k := by
  constructor
  · intro found
    exact ⟨List.mem_of_find?_eq_some found, by simpa using List.find?_some found⟩
  · rintro ⟨stored, rfl⟩
    cases result : table.find (key row) with
    | none =>
      have absent := List.find?_eq_none.mp result row stored
      simp at absent
    | some other =>
      have member := List.mem_of_find?_eq_some result
      have same : key other = key row := by simpa using List.find?_some result
      rw [table.row_eq_of_key member stored same]

theorem find_eq_none [DecidableEq κ] : table.find k = none ↔ ∀ row ∈ table.rows, key row ≠ k := by
  simp [find, List.find?_eq_none]

def Holds [DecidableEq κ] (table : Table key) (k : κ) (property : ρ → Prop) : Prop :=
  ∃ row, table.find k = some row ∧ property row

theorem Holds.and [DecidableEq κ] {table : Table key} {k : κ} {p q : ρ → Prop}
    (left : table.Holds k p) (right : table.Holds k q) :
    table.Holds k (fun row => p row ∧ q row) := by
  have ⟨row, found, first⟩ := left
  have ⟨other, again, second⟩ := right
  rw [found] at again
  rw [← Option.some.inj again] at second
  exact ⟨row, found, first, second⟩

theorem find_congr [DecidableEq κ] (left right : Table key) (k : κ)
    (same : ∀ row, key row = k → (row ∈ left.rows ↔ row ∈ right.rows)) :
    left.find k = right.find k := by
  apply Option.ext
  intro row
  rw [find_eq_some, find_eq_some]
  constructor
  · rintro ⟨stored, keyed⟩
    exact ⟨(same row keyed).mp stored, keyed⟩
  · rintro ⟨stored, keyed⟩
    exact ⟨(same row keyed).mpr stored, keyed⟩

def deleteWhere (table : Table key) (p : ρ → Bool) : Table key where
  rows := table.rows.filter (fun row => !p row)
  unique := (List.filter_sublist.map key).nodup table.unique

variable (p : ρ → Bool)

@[simp] theorem mem_deleteWhere (row : ρ) :
    row ∈ (table.deleteWhere p).rows ↔ row ∈ table.rows ∧ p row = false := by
  simp [deleteWhere]

/-- `UPDATE … SET f WHERE p`, for an assignment that leaves the key columns alone. -/
def updateWhere (table : Table key) (p : ρ → Bool) (f : ρ → ρ)
    (keeps : ∀ row, key (f row) = key row) : Table key where
  rows := table.rows.map (fun row => if p row then f row else row)
  unique := by
    have keys : (table.rows.map (fun row => if p row then f row else row)).map key =
        table.rows.map key := by
      rw [List.map_map]
      apply List.map_congr_left
      intro row _
      by_cases chosen : p row = true
      · simp [chosen, keeps]
      · simp [chosen]
    rw [keys]
    exact table.unique

variable (f : ρ → ρ) (keeps : ∀ row, key (f row) = key row)

theorem mem_updateWhere (row : ρ) :
    row ∈ (table.updateWhere p f keeps).rows ↔
      ∃ old ∈ table.rows, row = if p old then f old else old := by
  simp only [updateWhere, List.mem_map]
  constructor
  · rintro ⟨old, stored, rfl⟩
    exact ⟨old, stored, rfl⟩
  · rintro ⟨old, stored, rfl⟩
    exact ⟨old, stored, rfl⟩

theorem mem_updateWhere_of_not (stable : ∀ row, p (f row) = p row) (row : ρ)
    (outside : p row = false) : row ∈ (table.updateWhere p f keeps).rows ↔ row ∈ table.rows := by
  rw [mem_updateWhere]
  constructor
  · rintro ⟨old, stored, rfl⟩
    by_cases chosen : p old = true
    · simp [chosen, stable] at outside
    · simpa [chosen] using stored
  · intro stored
    exact ⟨row, stored, by simp [outside]⟩

theorem find_updateWhere_self [DecidableEq κ] (k : κ) :
    (table.updateWhere (fun row => key row = k) f keeps).find k = (table.find k).map f := by
  cases old : table.find k with
  | none =>
    rw [Option.map_none, find_eq_none]
    intro row member keyed
    obtain ⟨before, stored, rfl⟩ := (mem_updateWhere _ _ _ _ _).mp member
    have other := (find_eq_none _ k).mp old before stored
    simp [other] at keyed
  | some row =>
    obtain ⟨stored, keyed⟩ := (find_eq_some _ k _).mp old
    rw [Option.map_some, find_eq_some]
    refine ⟨(mem_updateWhere _ _ _ _ _).mpr ⟨row, stored, by simp [keyed]⟩, ?_⟩
    rw [keeps, keyed]

def insert [DecidableEq κ] (table : Table key) (new : ρ) : Option (Table key) :=
  if taken : key new ∈ table.rows.map key then none
  else some ⟨table.rows ++ [new], by
    rw [List.map_append, List.nodup_append]
    refine ⟨table.unique, by simp, ?_⟩
    intro left member right single
    simp only [List.map_cons, List.map_nil, List.mem_singleton] at single
    rw [single]
    rintro rfl
    exact taken member⟩

theorem mem_insert [DecidableEq κ] {table next : Table key} {new : ρ}
    (inserted : table.insert new = some next) (row : ρ) :
    row ∈ next.rows ↔ row ∈ table.rows ∨ row = new := by
  unfold insert at inserted
  split at inserted
  · contradiction
  · obtain rfl := Option.some.inj inserted
    simp

theorem insert_eq_none [DecidableEq κ] (new : ρ) :
    table.insert new = none ↔ ∃ row ∈ table.rows, key row = key new := by
  unfold insert
  split
  · rename_i taken
    simpa using taken
  · rename_i free
    simpa using free

def insertIgnore [DecidableEq κ] (table : Table key) (new : ρ) : Table key :=
  (table.insert new).getD table

theorem mem_insertIgnore [DecidableEq κ] (new row : ρ) :
    row ∈ (table.insertIgnore new).rows ↔
      row ∈ table.rows ∨ row = new ∧ ∀ old ∈ table.rows, key old ≠ key new := by
  unfold insertIgnore
  cases result : table.insert new with
  | none =>
    obtain ⟨old, stored, same⟩ := (insert_eq_none _ new).mp result
    simp only [Option.getD_none]
    constructor
    · exact Or.inl
    · rintro (member | ⟨_, free⟩)
      · exact member
      · exact absurd same (free old stored)
  | some next =>
    simp only [Option.getD_some]
    rw [mem_insert result]
    have free : ∀ old ∈ table.rows, key old ≠ key new := by
      intro old stored same
      rw [(insert_eq_none _ new).mpr ⟨old, stored, same⟩] at result
      contradiction
    constructor
    · rintro (member | same)
      · exact Or.inl member
      · exact Or.inr ⟨same, free⟩
    · rintro (member | ⟨same, _⟩)
      · exact Or.inl member
      · exact Or.inr same

/-- `INSERT … ON CONFLICT (key) DO UPDATE SET …`: `merge old` is the conflicting row with the
assigned columns taken from the refused one. -/
def upsert [DecidableEq κ] (table : Table key) (new : ρ) (merge : ρ → ρ)
    (keeps : ∀ row, key (merge row) = key row) : Table key :=
  match table.insert new with
  | some next => next
  | none => table.updateWhere (fun row => key row = key new) merge keeps

section Upsert

variable [DecidableEq κ] (table : Table key) (new : ρ) (merge : ρ → ρ)
  (keeps : ∀ row, key (merge row) = key row)

theorem mem_upsert_of_ne (row : ρ) (other : key row ≠ key new) :
    row ∈ (table.upsert new merge keeps).rows ↔ row ∈ table.rows := by
  unfold upsert
  split
  · rename_i next inserted
    rw [mem_insert inserted]
    constructor
    · rintro (member | rfl)
      · exact member
      · exact absurd rfl other
    · exact Or.inl
  · apply mem_updateWhere_of_not
    · intro old
      simp only [keeps]
    · simpa using other

theorem find_upsert_self :
    (table.upsert new merge keeps).find (key new) =
      some (((table.find (key new)).map merge).getD new) := by
  cases old : table.find (key new) with
  | none =>
    have free := (find_eq_none _ (key new)).mp old
    cases result : table.insert new with
    | none =>
      obtain ⟨row, stored, same⟩ := (insert_eq_none _ _).mp result
      exact absurd same (free row stored)
    | some next =>
      rw [find_eq_some]
      simp only [upsert, result, Option.map_none, Option.getD_none]
      exact ⟨(mem_insert result new).mpr (Or.inr rfl), trivial⟩
  | some row =>
    obtain ⟨stored, keyed⟩ := (find_eq_some _ (key new) row).mp old
    have result := (insert_eq_none _ _).mpr ⟨row, stored, keyed⟩
    rw [find_eq_some]
    simp only [upsert, result, Option.map_some, Option.getD_some]
    refine ⟨(mem_updateWhere _ _ _ _ _).mpr ⟨row, stored, by simp [keyed]⟩, ?_⟩
    rw [keeps, keyed]

theorem find_upsert_of_ne (k : κ) (other : k ≠ key new) :
    (table.upsert new merge keeps).find k = table.find k := by
  apply find_congr
  intro row keyed
  apply mem_upsert_of_ne
  rwa [keyed]

theorem find_upsert_assigned (assigns : ∀ old, key old = key new → merge old = new) :
    (table.upsert new merge keeps).find (key new) = some new := by
  rw [find_upsert_self]
  cases old : table.find (key new) with
  | none => rfl
  | some prior => simp [assigns prior ((find_eq_some table _ prior).mp old).2]

theorem mem_upsert (assigns : ∀ old, key old = key new → merge old = new) (row : ρ) :
    row ∈ (table.upsert new merge keeps).rows ↔
      row = new ∨ row ∈ table.rows ∧ key row ≠ key new := by
  have stored := find_upsert_assigned table new merge keeps assigns
  by_cases same : key row = key new
  · constructor
    · intro member
      have found := (find_eq_some _ _ _).mpr ⟨member, same⟩
      exact Or.inl (Option.some.inj (found.symm.trans stored))
    · rintro (rfl | ⟨_, other⟩)
      · exact ((find_eq_some _ _ _).mp stored).1
      · exact absurd same other
  · rw [mem_upsert_of_ne _ _ _ keeps row same]
    constructor
    · exact fun member => Or.inr ⟨member, same⟩
    · rintro (rfl | ⟨member, _⟩)
      · exact absurd rfl same
      · exact member

theorem of_mem_upsert {table : Table key} {new : ρ} {merge : ρ → ρ}
    {keeps : ∀ row, key (merge row) = key row} {row : ρ}
    (stored : row ∈ (table.upsert new merge keeps).rows) :
    row ∈ table.rows ∨ row = new ∨ ∃ old ∈ table.rows, key old = key new ∧ row = merge old := by
  unfold upsert at stored
  split at stored
  · rename_i inserted
    rcases (mem_insert inserted row).mp stored with old | rfl
    · exact Or.inl old
    · exact Or.inr (Or.inl rfl)
  · obtain ⟨old, before, rfl⟩ := (mem_updateWhere _ _ _ _ _).mp stored
    by_cases chosen : key old = key new
    · exact Or.inr (Or.inr ⟨old, before, chosen, by simp [chosen]⟩)
    · exact Or.inl (by simpa [chosen] using before)

theorem key_upsert {row : ρ} (stored : row ∈ table.rows) :
    ∃ after ∈ (table.upsert new merge keeps).rows, key after = key row := by
  by_cases same : key row = key new
  · have found := find_upsert_self table new merge keeps
    obtain ⟨member, keyed⟩ := (find_eq_some _ _ _).mp found
    exact ⟨_, member, keyed.trans same.symm⟩
  · exact ⟨row, (mem_upsert_of_ne _ _ _ _ _ same).mpr stored, rfl⟩

end Upsert

end Table

end Porter.Sql
