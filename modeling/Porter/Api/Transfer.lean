import Porter.Api.Listing
import Porter.Store.ProjectRounds

/-!
# Transfer of a project

`handleTransferProject` of `internal/api/handlers.go`.
-/
namespace Porter.Api.Transfer

open Go Run Sql Store Store.Documents

variable (db : Tables) (fault : Option String) (orgID : String)

def accepted : Bool :=
  fault.isNone && (nullableStr orgID).all (· ∈ db.orgs)

variable (row : Row)

def assignOrg : Row := { row with orgID := nullableStr orgID }

theorem assignOrg_id : (assignOrg orgID row).id = row.id := rfl

variable (projectID : String)

def setProjectOrg (orgID : String) : Tables :=
  if accepted db fault orgID then
    { db with
      projects := db.projects.updateWhere (fun row => row.id = projectID) (assignOrg orgID)
        (assignOrg_id orgID) }
  else db

structure TransferReply where
  status : String
  orgID : String
deriving DecidableEq

/-- `handleTransferProject`, which drops the error of `SetProjectOrg`. -/
def handleTransferProject (body : Except String String) : Tables × Response TransferReply :=
  match body with
  | .error err => (db, badRequest err)
  | .ok orgID =>
    if orgID = "" then (db, .error statusBadRequest "org_id is required")
    else (setProjectOrg db fault projectID orgID, .json statusOK ⟨"transferred", orgID⟩)

theorem handleTransferProject_ok {db : Tables} {fault : Option String} {projectID orgID : String}
    (ok : (handleTransferProject db fault projectID (.ok orgID)).2.succeeded = true) :
    orgID ≠ "" ∧ (handleTransferProject db fault projectID (.ok orgID)).1 =
      setProjectOrg db fault projectID orgID := by
  unfold handleTransferProject at ok ⊢
  simp only at ok ⊢
  split at ok
  · contradiction
  · next given =>
    rw [if_neg given]
    exact ⟨given, rfl⟩

def documentOrg : String := (unmarshal row.data).orgID

structure OwnedBy (orgID : String) (row : Row) : Prop where
  column : row.orgID = some orgID
  document : documentOrg row = orgID

structure Updates (projectID : String) (r : Round) : Prop where
  own : r.id = projectID
  orgID : ∀ p, (r.change p).orgID = p.orgID
  encodes : ∀ p, p.Encodes → (r.change p).Encodes

section Steps

variable {db : Tables} {projectID orgID : String}

theorem find_setProjectOrg (db : Tables) (fault : Option String) (projectID orgID : String) :
    (setProjectOrg db fault projectID orgID).projects.find projectID =
      (db.projects.find projectID).map fun row =>
        if accepted db fault orgID then assignOrg orgID row else row := by
  unfold setProjectOrg
  split
  · exact Table.find_updateWhere_self _ (assignOrg orgID) (assignOrg_id _) projectID
  · cases db.projects.find projectID with
    | none | some => rfl

theorem holds_setProjectOrg_iff (given : orgID ≠ "") (fault : Option String) :
    (setProjectOrg db fault projectID orgID).projects.Holds projectID (OwnedBy orgID) ↔
      db.projects.Holds projectID (fun row => documentOrg row = orgID ∧
        (row.orgID = some orgID ∨ accepted db fault orgID = true)) := by
  have named : nullableStr orgID = some orgID := if_neg given
  unfold Table.Holds
  rw [find_setProjectOrg]
  constructor
  · rintro ⟨row, found, column, document⟩
    have ⟨old, stored, same⟩ := Option.map_eq_some_iff.mp found
    refine ⟨old, stored, ?_⟩
    by_cases success : accepted db fault orgID = true
    · rw [if_pos success] at same
      rw [← same] at document
      exact ⟨document, Or.inr success⟩
    · rw [if_neg success] at same
      rw [same]
      exact ⟨document, Or.inl column⟩
  · rintro ⟨row, stored, document, column⟩
    rw [stored, Option.map_some]
    refine ⟨_, rfl, ?_⟩
    by_cases success : accepted db fault orgID = true
    · rw [if_pos success]
      exact ⟨named, document⟩
    · rw [if_neg success]
      rcases column with column | impossible
      · exact ⟨column, document⟩
      · exact absurd impossible success

theorem holds_of_writes {r : Round} {row : Row} (updates : Updates projectID r)
    (stored : db.projects.find projectID = some row) (writes : r.Writes projectID db) :
    (r.apply db).projects.Holds projectID (fun new =>
      new.orgID = nullableStr (documentOrg row) ∧ documentOrg new = documentOrg row) := by
  have ⟨p, read, _, found⟩ := Round.find_apply_of_writes writes
  have ⟨old, kept, same⟩ := exists_of_getProject read
  rw [updates.own, stored] at kept
  rw [← Option.some.inj kept] at same
  have owner : (r.change p).orgID = documentOrg row := by
    rw [updates.orgID p, ← same]
    rfl
  have encodes : (r.change p).Encodes := by
    apply updates.encodes
    rw [← same]
    exact encodes_unmarshal row.data
  refine ⟨(r.change p).row, found, ?_, ?_⟩
  · show nullableStr (r.change p).orgID = _
    rw [owner]
  · show (unmarshal (mustJSON (r.change p))).orgID = _
    rw [unmarshal_mustJSON encodes]
    exact owner

theorem holds_apply {r : Round} (given : orgID ≠ "") (updates : Updates projectID r)
    (owned : db.projects.Holds projectID (OwnedBy orgID)) :
    (r.apply db).projects.Holds projectID (OwnedBy orgID) := by
  have ⟨row, stored, both⟩ := owned
  by_cases writes : r.Writes projectID db
  · have ⟨new, found, column, document⟩ := holds_of_writes updates stored writes
    rw [both.document] at column document
    exact ⟨new, found, column.trans (if_neg given), document⟩
  · exact ⟨row, (Round.find_apply_of_not_writes writes).trans stored, both⟩

theorem holds_run {rounds : List Round} (given : orgID ≠ "")
    (update : ∀ r ∈ rounds, Updates projectID r)
    (owned : db.projects.Holds projectID (OwnedBy orgID)) :
    (run Round.apply db rounds).projects.Holds projectID (OwnedBy orgID) := by
  induction rounds generalizing db with
  | nil => exact owned
  | cons r rest recurse =>
    rw [run_cons]
    exact recurse (fun other member => update other (List.mem_cons_of_mem _ member))
      (holds_apply given (update r List.mem_cons_self) owned)

end Steps

def record : ProjectRecord := ⟨row.orgID, (unmarshal row.data).brief⟩

def Durable (orgID : String) (db : Tables) : Prop :=
  ∀ rounds : List Round, (∀ r ∈ rounds, Updates projectID r) →
    (run Round.apply db rounds).projects.Holds projectID (OwnedBy orgID)

/-- A transfer that was answered with success is durable exactly if the document named the new
organisation before, and the column did or the statement succeeded. -/
theorem transfer_durable_iff {db : Tables} {fault : Option String} {projectID orgID : String}
    (ok : (handleTransferProject db fault projectID (.ok orgID)).2.succeeded = true) :
    Durable projectID orgID (handleTransferProject db fault projectID (.ok orgID)).1 ↔
      db.projects.Holds projectID (fun row => documentOrg row = orgID ∧
        (row.orgID = some orgID ∨ accepted db fault orgID = true)) := by
  have ⟨given, after⟩ := handleTransferProject_ok ok
  rw [after, ← holds_setProjectOrg_iff given fault]
  constructor
  · intro durable
    exact durable [] nofun
  · intro owned rounds update
    exact holds_run given update owned

def firstOrg : String := "a3c9e0d4-51b7-4f60-8e12-7d94b2f6c301"

def secondOrg : String := "e85d27f1-94ac-4b3e-b06a-2c71f8d50e46"

def webRow (document column : String) : Row :=
  { ({ webProject "image" "" with orgID := document } : Project).row with orgID := some column }

def webTables (document column : String) : Tables :=
  ⟨Table.single Row.id (webRow document column), [firstOrg, secondOrg]⟩

theorem transfer_durable_back :
    Durable webID firstOrg
      (handleTransferProject (webTables firstOrg secondOrg) none webID (.ok firstOrg)).1 := by
  have ok : (handleTransferProject (webTables firstOrg secondOrg) none webID
      (.ok firstOrg)).2.succeeded = true := by decide
  exact (transfer_durable_iff ok).mpr
    ⟨webRow firstOrg secondOrg, by decide, by decide, Or.inr (by decide)⟩

theorem transfer_reverted :
    (handleTransferProject (webTables firstOrg firstOrg) none webID (.ok secondOrg)).2 =
        .json statusOK ⟨"transferred", secondOrg⟩ ∧
      (handleTransferProject (webTables firstOrg firstOrg) none webID
        (.ok secondOrg)).1.projects.find webID = some (webRow firstOrg secondOrg) ∧
      Updates webID enableSSH ∧
      (enableSSH.apply (handleTransferProject (webTables firstOrg firstOrg) none webID
        (.ok secondOrg)).1).projects.Holds webID (OwnedBy firstOrg) := by
  refine ⟨by decide, by decide, ⟨rfl, fun _ => rfl, ?_⟩, ?_⟩
  · intro p encodes
    exact encodes.congr rfl rfl
  · exact ⟨{ ({ webProject "image" "" with orgID := firstOrg, sshEnabled := true } : Project).row
      with orgID := some firstOrg }, by decide, by decide, by decide⟩

end Porter.Api.Transfer
