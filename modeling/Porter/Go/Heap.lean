import Porter.Go.MapOrder
import Porter.Sql.Table

/-!
# Maps on the heap

A map value is a reference: two variables may hold the same map, and an assignment through one of
them is seen through the other.
-/
namespace Porter.Go

open Sql

/-- The contents of a map: entries with pairwise different keys. -/
abbrev GoMap (κ ν : Type) := Table (Prod.fst : κ × ν → κ)

namespace GoMap

variable {κ ν : Type}

def nil : GoMap κ ν := Table.empty Prod.fst

variable [DecidableEq κ]

def set (m : GoMap κ ν) (entry : κ × ν) : GoMap κ ν :=
  m.upsert entry (fun old => (old.1, entry.2)) (fun _ => rfl)

def has (m : GoMap κ ν) (k : κ) : Bool := (m.find k).isSome

def delete (m : GoMap κ ν) (k : κ) : GoMap κ ν := m.deleteWhere (fun entry => entry.1 = k)

variable (m : GoMap κ ν)

@[simp] theorem mem_set (new entry : κ × ν) :
    entry ∈ (m.set new).rows ↔ entry = new ∨ entry ∈ m.rows ∧ entry.1 ≠ new.1 := by
  apply Table.mem_upsert
  intro old same
  rw [same]

variable (new : κ × ν)

theorem find_set_self : (m.set new).find new.1 = some new :=
  ((m.set new).find_eq_some new.1 new).mpr ⟨(m.mem_set new new).mpr (Or.inl rfl), rfl⟩

theorem find_set_of_ne {k : κ} (other : k ≠ new.1) : (m.set new).find k = m.find k :=
  Table.find_upsert_of_ne m new (fun old => (old.1, new.2)) (fun _ => rfl) k other

variable (k : κ)

theorem has_eq_true : m.has k = true ↔ ∃ entry ∈ m.rows, entry.1 = k := by
  unfold has
  rw [Option.isSome_iff_exists]
  simp only [Table.find_eq_some]

theorem has_set (present : m.has k = true) : (m.set new).has k = true := by
  obtain ⟨entry, stored, rfl⟩ := (m.has_eq_true k).mp present
  obtain ⟨after, member, same⟩ :=
    Table.key_upsert m new (fun old => (old.1, new.2)) (fun _ => rfl) stored
  exact ((m.set new).has_eq_true entry.1).mpr ⟨after, member, same⟩

def setAll (m : GoMap κ ν) (entries : List (κ × ν)) : GoMap κ ν :=
  entries.foldl set m

variable (entries : List (κ × ν))

theorem mem_setAll (entry : κ × ν) (member : entry ∈ (m.setAll entries).rows) :
    entry ∈ m.rows ∨ entry ∈ entries := by
  induction entries generalizing m with
  | nil => exact Or.inl member
  | cons head tail recurse =>
    rcases recurse (m.set head) member with old | new
    · rcases (m.mem_set head entry).mp old with rfl | ⟨old, _⟩
      · exact Or.inr (List.mem_cons_self ..)
      · exact Or.inl old
    · exact Or.inr (List.mem_cons_of_mem _ new)

def setMissing (m : GoMap κ ν) (entry : κ × ν) : GoMap κ ν :=
  if m.has entry.1 then m else m.set entry

def fillMissing (m : GoMap κ ν) (entries : List (κ × ν)) : GoMap κ ν :=
  entries.foldl setMissing m

theorem has_setMissing (present : m.has k = true) : (m.setMissing new).has k = true := by
  unfold setMissing
  split
  · exact present
  · exact m.has_set new k present

theorem find_setMissing :
    (m.setMissing new).find k = (m.find k).or (if new.1 = k then some new else none) := by
  unfold setMissing
  split
  · rename_i present
    by_cases same : new.1 = k
    · rw [← same]
      obtain ⟨entry, found⟩ := Option.isSome_iff_exists.mp present
      rw [found, Option.some_or]
    · rw [if_neg same, Option.or_none]
  · rename_i missing
    by_cases same : new.1 = k
    · have absent : m.find new.1 = none := by
        simpa only [has, Option.not_isSome_iff_eq_none] using missing
      rw [← same, find_set_self, absent, if_pos rfl, Option.none_or]
    · rw [find_set_of_ne m new (Ne.symm same), if_neg same, Option.or_none]

theorem find_delete (k other : κ) :
    (m.delete k).find other = if other = k then none else m.find other := by
  split
  · rename_i same
    rw [same, Table.find_eq_none]
    intro entry member
    simpa [delete] using ((Table.mem_deleteWhere _ _ _).mp member).2
  · rename_i differs
    apply Table.find_congr
    intro entry keyed
    simp [delete, keyed, differs]

theorem find_visit (order : MapOrder (κ × ν)) (k : κ) :
    (order.visit m.rows).find? (fun entry => entry.1 = k) = m.find k := by
  have unique : ((order.visit m.rows).map Prod.fst).Nodup :=
    ((order.perm m.rows).map Prod.fst).nodup_iff.mpr m.unique
  exact Table.find_congr ⟨order.visit m.rows, unique⟩ m k
    (fun entry _ => order.mem_visit m.rows entry)

theorem has_fillMissing (present : m.has k = true) : (m.fillMissing entries).has k = true := by
  induction entries generalizing m with
  | nil => exact present
  | cons head tail recurse =>
    exact recurse (m.setMissing head) (m.has_setMissing head k present)

theorem mem_fillMissing (entry : κ × ν) (member : entry ∈ (m.fillMissing entries).rows) :
    entry ∈ m.rows ∨ entry ∈ entries ∧ m.has entry.1 = false := by
  induction entries generalizing m with
  | nil => exact Or.inl member
  | cons head tail recurse =>
    rcases recurse (m.setMissing head) member with old | ⟨new, missing⟩
    · unfold setMissing at old
      split at old
      · exact Or.inl old
      · rename_i missing
        rcases (m.mem_set head entry).mp old with rfl | ⟨old, _⟩
        · exact Or.inr ⟨List.mem_cons_self .., by simpa using missing⟩
        · exact Or.inl old
    · refine Or.inr ⟨List.mem_cons_of_mem _ new, ?_⟩
      cases present : m.has entry.1 with
      | false => rfl
      | true =>
        rw [m.has_setMissing head entry.1 present] at missing
        contradiction

end GoMap

structure Heap (κ ν : Type) where
  cells : List (GoMap κ ν)

abbrev Ref := Nat

namespace Heap

variable {κ ν : Type}

def fresh : Heap κ ν := ⟨[]⟩

def read (heap : Heap κ ν) (ref : Ref) : GoMap κ ν := heap.cells.getD ref GoMap.nil

def alloc (heap : Heap κ ν) (contents : GoMap κ ν) : Heap κ ν × Ref :=
  (⟨heap.cells ++ [contents]⟩, heap.cells.length)

def modify (heap : Heap κ ν) (ref : Ref) (change : GoMap κ ν → GoMap κ ν) : Heap κ ν :=
  ⟨heap.cells.modify ref change⟩

def Valid (heap : Heap κ ν) (ref : Ref) : Prop := ref < heap.cells.length

variable (heap : Heap κ ν) {ref : Ref} (contents : GoMap κ ν)

theorem valid_alloc (valid : heap.Valid ref) : (heap.alloc contents).1.Valid ref := by
  unfold Valid at valid ⊢
  simp only [alloc, List.length_append, List.length_singleton]
  exact Nat.lt_succ_of_lt valid

theorem valid_alloc_self : (heap.alloc contents).1.Valid (heap.alloc contents).2 := by
  simp [Valid, alloc]

theorem valid_modify (changed ref : Ref) (change : GoMap κ ν → GoMap κ ν) :
    (heap.modify changed change).Valid ref ↔ heap.Valid ref := by
  simp [Valid, modify]

@[simp] theorem read_alloc_self :
    (heap.alloc contents).1.read (heap.alloc contents).2 = contents := by
  simp [read, alloc]

theorem read_alloc (valid : heap.Valid ref) : (heap.alloc contents).1.read ref = heap.read ref := by
  unfold Valid at valid
  simp [read, alloc, List.getD_eq_getElem?_getD, List.getElem?_append_left valid]

theorem alloc_ne (valid : heap.Valid ref) : (heap.alloc contents).2 ≠ ref := by
  unfold Valid at valid
  exact Nat.ne_of_gt valid

theorem read_modify_self (ref : Ref) (change : GoMap κ ν → GoMap κ ν) (valid : heap.Valid ref) :
    (heap.modify ref change).read ref = change (heap.read ref) := by
  unfold Valid at valid
  simp [read, modify, List.getD_eq_getElem?_getD, valid]

theorem read_modify_of_ne (changed ref : Ref) (change : GoMap κ ν → GoMap κ ν)
    (other : changed ≠ ref) : (heap.modify changed change).read ref = heap.read ref := by
  simp [read, modify, List.getD_eq_getElem?_getD, other]

end Heap

end Porter.Go
