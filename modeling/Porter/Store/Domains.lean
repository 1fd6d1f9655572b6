import Porter.Sql.Rows
import Porter.Sql.Table

/-!
# Domains

The `domains` table and the statements on it.
-/
namespace Porter.Store

open Sql

/-- `types.Domain` as stored in `data`; the VM is not part of the document. -/
structure Domain where
  projectID : String
  domain : String
  type : String
  status : String
deriving DecidableEq

structure DomainRow where
  domain : String
  projectID : Option String
  kind : String
  status : String
  doc : Domain

structure DomainDb where
  projects : List String
  domains : Table DomainRow.domain
  owned : ∀ row ∈ domains.rows, ∀ id, row.projectID = some id → id ∈ projects

def nullableStr (s : String) : Option String := if s = "" then none else some s

def newDomainRow (projectID : String) (d : Domain) : DomainRow where
  domain := d.domain
  projectID := nullableStr projectID
  kind := d.type
  status := d.status
  doc := d

variable (new old : DomainRow)

def DomainRow.overwrite : DomainRow := { new with domain := old.domain }

theorem DomainRow.overwrite_domain :
    (new.overwrite old).domain = old.domain := rfl

theorem DomainRow.overwrite_eq (same : old.domain = new.domain) : new.overwrite old = new := by
  simp [DomainRow.overwrite, same]

variable (db : DomainDb) (fault : Option String)

/-- `AddDomain` fails with the driver's error, or because the project does not exist. -/
def addDomainFails (projectID : String) : Bool :=
  fault.isSome || (nullableStr projectID).any (· ∉ db.projects)

def addDomain (projectID : String) (d : Domain) : DomainDb :=
  if failed : addDomainFails db fault projectID = true then db
  else { db with
    domains := db.domains.upsert (newDomainRow projectID d) (newDomainRow projectID d).overwrite
      (newDomainRow projectID d).overwrite_domain
    owned := by
      intro row stored id belongs
      rcases (Table.mem_upsert _ _ _ _ (DomainRow.overwrite_eq _) row).mp stored with rfl | old
      · by_contra unknown
        apply failed
        have given : nullableStr projectID = some id := belongs
        simp [addDomainFails, given, unknown]
      · exact db.owned row old.1 id belongs }

theorem mem_addDomain (projectID : String) (d : Domain) (row : DomainRow) :
    row ∈ (addDomain db fault projectID d).domains.rows ↔
      if addDomainFails db fault projectID = true then row ∈ db.domains.rows
      else row = newDomainRow projectID d ∨ row ∈ db.domains.rows ∧ row.domain ≠ d.domain := by
  unfold addDomain
  split
  · rfl
  · exact Table.mem_upsert _ _ _ _ (DomainRow.overwrite_eq _) row

@[simp] theorem projects_addDomain (projectID : String) (d : Domain) :
    (addDomain db fault projectID d).projects = db.projects := by
  unfold addDomain
  split <;> rfl

def listDomains (fault : RowsFault) (projectID : String) : List Domain :=
  (fault.delivered (db.domains.rows.filter (·.projectID = some projectID))).map DomainRow.doc

def removeDomain (projectID domain : String) : DomainDb × Bool :=
  if fault.isSome then (db, false)
  else
    ({ db with
        domains := db.domains.deleteWhere
          (fun row => row.domain = domain && row.projectID = some projectID)
        owned := by
          intro row stored
          exact db.owned row ((Table.mem_deleteWhere _ _ _).mp stored).1 },
      db.domains.rows.any (fun row => row.domain = domain && row.projectID = some projectID))

theorem mem_removeDomain (projectID domain : String) (row : DomainRow) :
    row ∈ (removeDomain db fault projectID domain).1.domains.rows ↔
      row ∈ db.domains.rows ∧
        (fault.isSome = true ∨ row.domain ≠ domain ∨ row.projectID ≠ some projectID) := by
  unfold removeDomain
  split
  · rename_i failed
    simp [failed]
  · rename_i succeeds
    simp only [Table.mem_deleteWhere, Bool.and_eq_false_iff, decide_eq_false_iff_not, succeeds,
      Bool.false_eq_true, false_or, ne_eq]

def Attached (domain projectID : String) : Prop :=
  ∃ row ∈ db.domains.rows, row.domain = domain ∧ row.projectID = some projectID

instance (db : DomainDb) (domain projectID : String) : Decidable (Attached db domain projectID) :=
  inferInstanceAs (Decidable (∃ row ∈ db.domains.rows, _ ∧ _))

def ownOrFree (domain : String) (projectID : Option String) : Bool :=
  db.domains.rows.all (fun row =>
    row.domain ≠ domain || row.projectID = none || row.projectID = projectID)

end Porter.Store
