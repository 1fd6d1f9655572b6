import Mathlib.Data.List.Basic

/-!
# Row iteration under faults

A query result reaches its caller through a loop over the driver's rows.
-/
namespace Porter.Sql

structure RowsFault where
  query : Option String
  /-- The error that ends the iteration and the number of rows handed out before it. -/
  stop : Option (Nat × String)
  /-- Whether scanning the row at this position fails. -/
  scan : Nat → Bool

namespace RowsFault

def clean : RowsFault := ⟨none, none, fun _ => false⟩

def failed (message : String) : RowsFault := ⟨some message, none, fun _ => false⟩

variable {ρ : Type}

def scanned (scan : Nat → Bool) : List ρ → List ρ
  | [] => []
  | row :: rest =>
    let later := scanned (fun index => scan (index + 1)) rest
    if scan 0 then later else row :: later

theorem scanned_subset (scan : Nat → Bool) (rows : List ρ) : scanned scan rows ⊆ rows := by
  induction rows generalizing scan with
  | nil => exact List.Subset.refl []
  | cons head tail recurse =>
    intro row member
    unfold scanned at member
    split at member
    · exact List.mem_cons_of_mem head (recurse _ member)
    · rcases List.mem_cons.mp member with rfl | later
      · exact List.mem_cons_self
      · exact List.mem_cons_of_mem head (recurse _ later)

theorem scanned_sublist (scan : Nat → Bool) (rows : List ρ) :
    (scanned scan rows).Sublist rows := by
  induction rows generalizing scan with
  | nil => exact List.Sublist.refl []
  | cons head tail recurse =>
    unfold scanned
    split
    · exact (recurse _).cons head
    · exact (recurse _).cons_cons head

variable (fault : RowsFault) (rows : List ρ)

@[simp] theorem scanned_clean : scanned (fun _ => false) rows = rows := by
  induction rows with
  | nil => rfl
  | cons head tail recurse => simp [scanned, recurse]

/-- Every selection of rows is what some scan loop sees. -/
theorem scanned_realizes (keep : ρ → Bool) (rows : List ρ) :
    ∃ scan, scanned scan rows = rows.filter keep := by
  induction rows with
  | nil => exact ⟨fun _ => false, rfl⟩
  | cons head tail recurse =>
    obtain ⟨scan, sees⟩ := recurse
    refine ⟨fun index => index.casesOn (!keep head) scan, ?_⟩
    cases chosen : keep head with
    | false | true => simp [scanned, chosen, sees]

def delivered (fault : RowsFault) (rows : List ρ) : List ρ :=
  match fault.query, fault.stop with
  | some _, _ => []
  | none, some (count, _) => scanned fault.scan (rows.take count)
  | none, none => scanned fault.scan rows

theorem delivered_subset : fault.delivered rows ⊆ rows := by
  unfold delivered
  split
  · exact List.nil_subset rows
  · exact List.Subset.trans (scanned_subset _ _) (List.take_subset _ _)
  · exact scanned_subset _ _

theorem delivered_sublist : (fault.delivered rows).Sublist rows := by
  unfold delivered
  split
  · exact List.nil_sublist rows
  · exact (scanned_sublist _ _).trans (List.take_sublist _ _)
  · exact scanned_sublist _ _

@[simp] theorem delivered_clean : clean.delivered rows = rows :=
  scanned_clean rows

def collect (fault : RowsFault) (rows : List ρ) : Except String (List ρ) :=
  match fault.query, fault.stop with
  | some message, _ => .error message
  | none, some (_, message) => .error message
  | none, none => .ok (scanned fault.scan rows)

@[simp] theorem collect_clean : clean.collect rows = .ok rows := by
  simp [collect, clean]

theorem collect_subset (rows out : List ρ) (returned : fault.collect rows = .ok out) :
    out ⊆ rows := by
  unfold collect at returned
  split at returned
  · contradiction
  · contradiction
  · obtain rfl := Except.ok.inj returned
    exact scanned_subset _ _

/-- Every selection of rows is returned by some loop that reports no error. -/
theorem collect_realizes (keep : ρ → Bool) (rows : List ρ) :
    ∃ fault : RowsFault, fault.collect rows = .ok (rows.filter keep) := by
  obtain ⟨scan, sees⟩ := scanned_realizes keep rows
  exact ⟨⟨none, none, scan⟩, by rw [← sees]; rfl⟩

def hasNext (fault : RowsFault) (rows : List ρ) : Bool :=
  match fault.query, fault.stop with
  | some _, _ => false
  | none, some (0, _) => false
  | none, _ => !rows.isEmpty

theorem exists_of_hasNext (next : fault.hasNext rows = true) : ∃ row, row ∈ rows := by
  unfold hasNext at next
  split at next
  · contradiction
  · contradiction
  · exact List.exists_mem_of_ne_nil rows (by simpa using next)

@[simp] theorem hasNext_clean : clean.hasNext rows = true ↔ ∃ row, row ∈ rows := by
  cases rows with
  | nil | cons => simp [hasNext, clean]

end RowsFault

def readRow {ρ : Type} (fault : Bool) (row : Option ρ) : Option ρ :=
  if fault then none else row

@[simp] theorem readRow_clean {ρ : Type} (row : Option ρ) : readRow false row = row := rfl

theorem readRow_eq_some {ρ : Type} (fault : Bool) (row : Option ρ) (value : ρ)
    (found : readRow fault row = some value) : row = some value := by
  cases fault with
  | false => exact found
  | true => contradiction

end Porter.Sql
