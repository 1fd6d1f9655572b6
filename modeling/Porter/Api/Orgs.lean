import Porter.Api.Http
import Porter.Sql.Table

/-!
# Changes of an org

`handlePatchCurrentOrg` and `handleOrgTransfer` change an org in memory and answer with it. `PutOrg`
is an insert, refused for an org that was read, so what is reported is never stored.
-/
namespace Porter.Api.Orgs

open Sql

structure OrgRow where
  id : String
  name : String
  ownerID : Option String
  isDefault : Bool
deriving DecidableEq

structure Org where
  id : String
  name : String
  ownerID : String
  isDefault : Bool
deriving DecidableEq

variable (orgs : Table OrgRow.id) (id : String)

/-- `GetOrg`; an owner that is null cannot be scanned. -/
def getOrg : Option Org :=
  match orgs.find id with
  | some ⟨id, name, some ownerID, isDefault⟩ => some ⟨id, name, ownerID, isDefault⟩
  | _ => none

def orgIDTaken : String :=
  "ERROR: duplicate key value violates unique constraint \"orgs_pkey\" (SQLSTATE 23505)"

def putOrg (o : Org) : Except String (Table OrgRow.id) :=
  match orgs.insert ⟨o.id, o.name, if o.ownerID = "" then none else some o.ownerID, false⟩ with
  | some next => .ok next
  | none => .error orgIDTaken

inductive OrgReply where
  | org (org : Org)
  | transferred (receiver : String) (org : Org)
deriving DecidableEq

def OrgReply.reported : OrgReply → Org
  | .org value | .transferred _ value => value

def saved (o : Org) : Table OrgRow.id := (putOrg orgs o).toOption.getD orgs

def handlePatchCurrentOrg (name : String) : Table OrgRow.id × Response OrgReply :=
  match getOrg orgs id with
  | none => (orgs, .error statusNotFound "no org set")
  | some org =>
    let org := if name ≠ "" then { org with name := name } else org
    (saved orgs org, .json statusOK (.org org))

def handleOrgTransfer (newOwnerEmail : String) : Table OrgRow.id × Response OrgReply :=
  match getOrg orgs id with
  | some org =>
    let org := { org with ownerID := newOwnerEmail }
    (saved orgs org, .json statusOK (.transferred newOwnerEmail org))
  | none => (orgs, .error statusNotFound "no org set")

inductive OrgCall where
  | patch (name : String)
  | transfer (newOwnerEmail : String)

def OrgCall.handle : OrgCall → Table OrgRow.id × Response OrgReply
  | .patch name => handlePatchCurrentOrg orgs id name
  | .transfer newOwnerEmail => handleOrgTransfer orgs id newOwnerEmail

variable {orgs id}

theorem saved_of_getOrg {org : Org} (found : getOrg orgs id = some org) {o : Org}
    (same : o.id = org.id) : saved orgs o = orgs := by
  obtain ⟨row, stored⟩ : ∃ row ∈ orgs.rows, row.id = o.id := by
    unfold getOrg at found
    split at found
    · next held =>
      obtain rfl := Option.some.inj found
      exact ⟨_, ((Table.find_eq_some _ _ _).mp held).1, same.symm⟩
    · contradiction
  have refused : putOrg orgs o = .error orgIDTaken := by
    unfold putOrg
    rw [(Table.insert_eq_none orgs _).mpr ⟨row, stored⟩]
  unfold saved
  rw [refused]
  rfl

def acmeOrgs : Table OrgRow.id := .single _ ⟨"o", "acme", some "ann", true⟩

end Porter.Api.Orgs
