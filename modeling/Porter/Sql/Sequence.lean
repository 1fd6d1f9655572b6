import Mathlib.Order.Bounds.Basic
import Porter.Sql.Table

/-!
# Sequence columns

A column filled by a sequence numbers rows in the order in which they are inserted, and an upsert
that finds its key taken leaves the number alone.
-/
namespace Porter.Sql.Table

variable {ρ κ : Type} {key : ρ → κ} [DecidableEq κ]

def serial (table : Table key) (k : κ) : Nat := table.rows.findIdx (fun row => key row = k)

def serialsBelow (table : Table key) (p : ρ → Bool) (k : κ) : Set Nat :=
  {n | ∃ row ∈ table.rows, p row = true ∧ table.serial (key row) = n ∧ n < table.serial k}

section Position

variable {table : Table key} {before after : List ρ} {row : ρ}

theorem serial_eq (split : table.rows = before ++ row :: after) :
    table.serial (key row) = before.length := by
  have distinct := table.unique
  rw [split, List.map_append, List.map_cons, List.nodup_append] at distinct
  have absent : before.findIdx (fun other => key other = key row) = before.length := by
    rw [List.findIdx_eq_length]
    intro other member
    have differs := distinct.2.2 (key other) (List.mem_map_of_mem member) (key row)
      List.mem_cons_self
    simpa using differs
  unfold serial
  rw [split, List.findIdx_append, absent, if_neg (Nat.lt_irrefl _), List.findIdx_cons]
  simp

theorem serial_lt_iff (split : table.rows = before ++ row :: after) {other : ρ}
    (stored : other ∈ table.rows) :
    table.serial (key other) < table.serial (key row) ↔ other ∈ before := by
  rw [serial_eq split]
  constructor
  · intro below
    rw [split] at stored
    rcases List.mem_append.mp stored with earlier | later
    · exact earlier
    · obtain ⟨between, rest, parts⟩ := List.append_of_mem later
      have number : table.serial (key other) = (before ++ between).length :=
        serial_eq (by rw [split, parts, List.append_assoc])
      rw [number, List.length_append] at below
      omega
  · intro earlier
    obtain ⟨front, between, parts⟩ := List.append_of_mem earlier
    have number : table.serial (key other) = front.length :=
      serial_eq (by rw [split, parts, List.append_assoc, List.cons_append])
    rw [number, parts, List.length_append, List.length_cons]
    omega

theorem getElem?_serial (stored : row ∈ table.rows) :
    table.rows[table.serial (key row)]? = some row := by
  obtain ⟨before, after, split⟩ := List.append_of_mem stored
  rw [serial_eq split, split]
  simp

theorem serial_inj {other : ρ} (stored : row ∈ table.rows) (kept : other ∈ table.rows)
    (same : table.serial (key row) = table.serial (key other)) : row = other := by
  have found := getElem?_serial stored
  rw [same, getElem?_serial kept] at found
  exact (Option.some.inj found).symm

end Position

section Before

variable {table : Table key} {p : ρ → Bool} {pre post : List ρ} {row : ρ}

theorem mem_serialsBelow (split : table.rows.filter p = pre ++ row :: post) (n : Nat) :
    n ∈ table.serialsBelow p (key row) ↔ ∃ other ∈ pre, table.serial (key other) = n := by
  obtain ⟨front, back, rows, first, second⟩ := List.filter_eq_append_iff.mp split
  obtain ⟨skipped, after, parts, none, -, -⟩ := List.filter_eq_cons_iff.mp second
  have whole : table.rows = (front ++ skipped) ++ row :: after := by
    rw [rows, parts, List.append_assoc]
  -- The rows between the last of `pre` and the row itself do not meet the condition.
  have members : ∀ other, other ∈ pre ↔ other ∈ front ++ skipped ∧ p other = true := by
    intro other
    rw [← first, List.mem_filter, List.mem_append]
    constructor
    · rintro ⟨member, meets⟩
      exact ⟨Or.inl member, meets⟩
    · rintro ⟨member | member, meets⟩
      · exact ⟨member, meets⟩
      · exact absurd meets (none other member)
  constructor
  · rintro ⟨other, stored, meets, number, below⟩
    rw [← number] at below
    exact ⟨other, (members other).mpr ⟨(serial_lt_iff whole stored).mp below, meets⟩, number⟩
  · rintro ⟨other, member, number⟩
    obtain ⟨earlier, meets⟩ := (members other).mp member
    have stored : other ∈ table.rows := by
      rw [whole]
      exact List.mem_append_left _ earlier
    refine ⟨other, stored, meets, number, ?_⟩
    rw [← number]
    exact (serial_lt_iff whole stored).mpr earlier

theorem serialsBelow_first (split : table.rows.filter p = row :: post) :
    table.serialsBelow p (key row) = ∅ := by
  rw [Set.eq_empty_iff_forall_notMem]
  intro n member
  have first : table.rows.filter p = [] ++ row :: post := split
  obtain ⟨other, impossible, -⟩ := (mem_serialsBelow first n).mp member
  cases impossible

theorem isGreatest_serialsBelow {last : ρ}
    (split : table.rows.filter p = (pre ++ [last]) ++ row :: post) :
    IsGreatest (table.serialsBelow p (key row)) (table.serial (key last)) := by
  constructor
  · exact (mem_serialsBelow split _).mpr ⟨last, by simp, rfl⟩
  · intro n below
    obtain ⟨other, member, rfl⟩ := (mem_serialsBelow split n).mp below
    rcases List.mem_append.mp member with earlier | only
    · have shorter : table.rows.filter p = pre ++ last :: row :: post := by
        rw [split, List.append_assoc, List.singleton_append]
      obtain ⟨-, -, -, -, less⟩ := (mem_serialsBelow shorter _).mpr ⟨other, earlier, rfl⟩
      exact Nat.le_of_lt less
    · rw [List.mem_singleton.mp only]

end Before

theorem rows_upsert_of_free {table : Table key} {new : ρ} (merge : ρ → ρ)
    (keeps : ∀ row, key (merge row) = key row) (free : table.find (key new) = none) :
    (table.upsert new merge keeps).rows = table.rows ++ [new] := by
  have absent : key new ∉ table.rows.map key := by
    intro taken
    obtain ⟨row, stored, same⟩ := List.mem_map.mp taken
    exact (find_eq_none _ _).mp free row stored same
  unfold upsert insert
  rw [dif_neg absent]

theorem map_rows_upsert_of_taken {β : Type} {table : Table key} {new old : ρ} {merge : ρ → ρ}
    (keeps : ∀ row, key (merge row) = key row) (taken : table.find (key new) = some old)
    (f : ρ → β) (same : f (merge old) = f old) :
    (table.upsert new merge keeps).rows.map f = table.rows.map f := by
  obtain ⟨stored, keyed⟩ := (find_eq_some _ _ _).mp taken
  unfold upsert
  rw [(insert_eq_none _ _).mpr ⟨old, stored, keyed⟩]
  simp only [updateWhere, List.map_map]
  apply List.map_congr_left
  intro row member
  by_cases chosen : key row = key new
  · rw [table.row_eq_of_key member stored (chosen.trans keyed.symm)]
    simp [keyed, same]
  · simp [chosen]

end Porter.Sql.Table
