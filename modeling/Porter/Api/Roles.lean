import Porter.Api.Http
import Porter.Run.Guarded
import Porter.Store.Permissions

/-!
# The role API

Handlers of the role routes, with every query taken to succeed.
-/
namespace Porter.Api

open Store Run Rbac Sql

variable (db : RoleTables)

def isSystemRole (id : String) : Bool :=
  match getRole db id with
  | none => false
  | some r => r.isSystem

variable (roleID : String)

def systemRole : Bool := isSystemRole db roleID

inductive RoleReply where
  | role (role : Option Role)
  | permissions (role : String) (codes : List String)
  | status (status : String)

structure RolePatch where
  name : String
  description : String

def handleCreateRole (body : Except String Role) : RoleTables × Response RoleReply :=
  match body with
  | .error err => (db, badRequest err)
  | .ok req =>
    if req.id = "" ∨ req.name = "" then
      (db, .error statusBadRequest "role id and name are required")
    else
      let put := putRole db req.toRoleRow
      let next :=
        if req.permissions.length > 0 then
          match setRolePermissions put req.id req.permissions with
          | .ok set => set
          | .error _ => put
        else put
      (next, .json statusCreated (.role (getRole next req.id)))

def editRole (forbidden : String) (edit : Role → RoleTables × Response RoleReply) :
    RoleTables × Response RoleReply :=
  if systemRole db roleID then (db, .error statusForbidden forbidden)
  else
    match getRole db roleID with
    | none => (db, .error statusNotFound "role not found")
    | some role => edit role

def handlePatchRole (body : Except String RolePatch) : RoleTables × Response RoleReply :=
  editRole db roleID "system roles cannot be edited" (fun role =>
    match body with
    | .error err => (db, badRequest err)
    | .ok req =>
      let named := if req.name ≠ "" then { role with name := req.name } else role
      let patched :=
        if req.description ≠ "" then { named with description := req.description } else named
      (putRole db patched.toRoleRow, .json statusOK (.role (some patched))))

def handleDeleteRole : RoleTables × Response RoleReply :=
  if systemRole db roleID then (db, .error statusForbidden "system roles cannot be deleted")
  else
    let (next, deleted) := deleteRole db roleID
    if deleted then (next, .json statusOK (.status "deleted"))
    else (next, .error statusNotFound "role not found")

def handleSetRolePermissions (body : Except String (List String)) :
    RoleTables × Response RoleReply :=
  editRole db roleID "system role permissions are migration-managed" (fun _ =>
    match body with
    | .error err => (db, badRequest err)
    | .ok perms =>
      match setRolePermissions db roleID perms with
      | .error err =>
        (db, .error statusInternalServerError ("failed to update permissions: " ++ err))
      | .ok next => (next, .json statusOK (.permissions roleID (rolePermissions next roleID))))

def handleAddRolePermission (permissionID : String) : RoleTables × Response RoleReply :=
  editRole db roleID "system role permissions are migration-managed" (fun _ =>
    (addRolePermission db roleID permissionID, .json statusOK (.status "granted")))

def handleRemoveRolePermission (permissionID : String) : RoleTables × Response RoleReply :=
  editRole db roleID "system role permissions are migration-managed" (fun _ =>
    (removeRolePermission db roleID permissionID, .json statusOK (.status "revoked")))

inductive RoleCall where
  | create (body : Except String Role)
  | patch (roleID : String) (body : Except String RolePatch)
  | delete (roleID : String)
  | setPermissions (roleID : String) (body : Except String (List String))
  | addPermission (roleID permissionID : String)
  | removePermission (roleID permissionID : String)

def roleHandler : RoleCall → RoleTables × Response RoleReply
  | .create body => handleCreateRole db body
  | .patch roleID body => handlePatchRole db roleID body
  | .delete roleID => handleDeleteRole db roleID
  | .setPermissions roleID body => handleSetRolePermissions db roleID body
  | .addPermission roleID permissionID => handleAddRolePermission db roleID permissionID
  | .removePermission roleID permissionID => handleRemoveRolePermission db roleID permissionID

def roleStep (call : RoleCall) : RoleTables := (roleHandler db call).1

def Protected (id : String) : Prop :=
  ∃ role ∈ db.roles.rows, role.id = id ∧ role.isSystem = true

theorem systemRole_iff (id : String) : systemRole db id = true ↔ Protected db id := by
  unfold systemRole isSystemRole getRole Protected
  cases found : db.roles.find id with
  | none =>
    have absent := (Table.find_eq_none _ id).mp found
    simp only [Option.map_none, Bool.false_eq_true, false_iff]
    rintro ⟨role, stored, named, _⟩
    exact absent role stored named
  | some row =>
    obtain ⟨stored, named⟩ := (Table.find_eq_some _ id row).mp found
    simp only [Option.map_some]
    constructor
    · intro flagged
      exact ⟨row, stored, named, flagged⟩
    · rintro ⟨role, listed, same, flagged⟩
      have one : role = row := db.roles.row_eq_of_key listed stored (same.trans named.symm)
      rwa [one] at flagged

theorem Protected.of_same {id : String} {before after : RoleTables}
    (same : SameRole id before after) (flagged : Protected before id) : Protected after id := by
  obtain ⟨role, stored, named, system⟩ := flagged
  exact ⟨role, (same.row role named).mpr stored, named, system⟩

theorem ne_of_unflagged {db : RoleTables} {roleID id : String} (flagged : Protected db id)
    (unflagged : ¬ systemRole db roleID = true) : roleID ≠ id := by
  rintro rfl
  exact unflagged ((systemRole_iff _ _).mpr flagged)

theorem editRole_same (forbidden : String) (edit : Role → RoleTables × Response RoleReply)
    (id : String) (flagged : Protected db id)
    (others : ∀ role, roleID ≠ id → role.id = roleID → SameRole id db (edit role).1) :
    SameRole id db (editRole db roleID forbidden edit).1 := by
  unfold editRole
  split
  · exact SameRole.refl id db
  · rename_i unflagged
    have other := ne_of_unflagged flagged unflagged
    cases found : getRole db roleID with
    | none => exact SameRole.refl id db
    | some role =>
      obtain ⟨row, stored, rfl⟩ := Option.map_eq_some_iff.mp found
      exact others _ other ((Table.find_eq_some _ _ _).mp stored).2

theorem handleCreateRole_same (body : Except String Role) (id : String)
    (other : ∀ req, body = .ok req → req.id ≠ id) :
    SameRole id db (handleCreateRole db body).1 := by
  cases body with
  | error err => exact SameRole.refl id db
  | ok req =>
    have fresh : req.id ≠ id := other req rfl
    have put := putRole_same db req.toRoleRow id fresh
    simp only [handleCreateRole]
    split
    · exact SameRole.refl id db
    · simp only
      split
      · cases replaced : setRolePermissions (putRole db req.toRoleRow) req.id req.permissions with
        | error err => exact put
        | ok next => exact put.trans (setRolePermissions_same replaced fresh)
      · exact put

def createsNoSystemRole : RoleCall → Prop
  | .create (.ok req) => systemRole db req.id = false
  | _ => True

instance (db : RoleTables) : (call : RoleCall) → Decidable (createsNoSystemRole db call)
  | .create (.ok req) => inferInstanceAs (Decidable (systemRole db req.id = false))
  | .create (.error _) => .isTrue trivial
  | .patch _ _ => .isTrue trivial
  | .delete _ => .isTrue trivial
  | .setPermissions _ _ => .isTrue trivial
  | .addPermission _ _ => .isTrue trivial
  | .removePermission _ _ => .isTrue trivial

theorem roleStep_same (call : RoleCall) (id : String) (flagged : Protected db id)
    (guard : createsNoSystemRole db call) : SameRole id db (roleStep db call) := by
  cases call with
  | create body =>
    apply handleCreateRole_same
    rintro req rfl rfl
    have system := (systemRole_iff _ _).mpr flagged
    rw [guard] at system
    contradiction
  | patch roleID body =>
    apply editRole_same _ _ _ _ id flagged
    intro role other named
    cases body with
    | error err => exact SameRole.refl id db
    | ok req =>
      apply putRole_same
      have kept : (if req.description ≠ "" then
          { (if req.name ≠ "" then { role with name := req.name } else role) with
            description := req.description }
          else if req.name ≠ "" then { role with name := req.name } else role).id = roleID := by
        split <;> split <;> exact named
      exact fun same => other (kept.symm.trans same)
  | delete roleID =>
    simp only [roleStep, roleHandler, handleDeleteRole]
    split
    · exact SameRole.refl id db
    · rename_i unflagged
      have other := ne_of_unflagged flagged unflagged
      have deleted := deleteRoleRows_same db roleID id other
      split
      · exact deleted
      · exact deleted
  | setPermissions roleID body =>
    apply editRole_same _ _ _ _ id flagged
    intro role other _
    cases body with
    | error err => exact SameRole.refl id db
    | ok perms =>
      simp only
      split
      · exact SameRole.refl id db
      · rename_i next replaced
        exact setRolePermissions_same replaced other
  | addPermission roleID permissionID =>
    apply editRole_same _ _ _ _ id flagged
    intro role other _
    exact addRolePermission_same _ _ _ id other
  | removePermission roleID permissionID =>
    apply editRole_same _ _ _ _ id flagged
    intro role other _
    exact removeRolePermission_same _ _ _ id other

/-- Along every run in which no create call names what is a system role at that moment, every system
role keeps its row and its permissions. -/
theorem systemRoles_immutable (db : RoleTables) (calls : List RoleCall)
    (guarded : Guarded roleStep createsNoSystemRole db calls) (role : RoleRow)
    (stored : role ∈ db.roles.rows) (system : role.isSystem = true) :
    role ∈ (run roleStep db calls).roles.rows ∧
      ∀ entry : RolePermission, entry.roleID = role.id →
        (entry ∈ (run roleStep db calls).rolePermissions.rows ↔
          entry ∈ db.rolePermissions.rows) := by
  have flagged : Protected db role.id := ⟨role, stored, rfl, system⟩
  have same : SameRole role.id db (run roleStep db calls) := by
    apply run_invariant _ _ (SameRole role.id db)
    · intro state call kept guard
      exact kept.trans (roleStep_same _ _ role.id (flagged.of_same kept) guard)
    · exact SameRole.refl role.id db
    · exact guarded
  exact ⟨(same.row role rfl).mpr stored, same.mappings⟩

def seedRoles : RoleTables where
  roles := ⟨[⟨"admin", "Admin", "", "shared", true, true, false, true⟩], by decide⟩
  permissions := ⟨[⟨"project.read"⟩], by decide⟩
  rolePermissions := ⟨[⟨"admin", "project.read", effectAllow⟩], by decide⟩
  roleAssignments := Table.empty id
  roleKey := by decide
  permissionKey := by decide
  assignmentKey := by decide

def editorCalls : List RoleCall :=
  [.create (.ok ⟨⟨"editor", "Editor", "", "shared", false, false, false, false⟩,
    ["project.read"]⟩),
    .delete "admin", .removePermission "admin" "project.read"]

theorem systemRoles_immutable_editor :
    (⟨"admin", "Admin", "", "shared", true, true, false, true⟩ : RoleRow) ∈
      (run roleStep seedRoles editorCalls).roles.rows :=
  (systemRoles_immutable seedRoles editorCalls
    (by decide) _ (by decide) rfl).1

def takeoverCalls : List RoleCall :=
  [.create (.ok ⟨⟨"admin", "Admin", "", "shared", false, false, false, false⟩, []⟩),
    .delete "admin"]

theorem create_unprotects_system_role :
    ∃ role ∈ seedRoles.roles.rows, role.isSystem = true ∧
      role ∉ (run roleStep seedRoles takeoverCalls).roles.rows ∧
      ∃ entry ∈ seedRoles.rolePermissions.rows, entry.roleID = role.id ∧
        entry ∉ (run roleStep seedRoles takeoverCalls).rolePermissions.rows := by
  decide

end Porter.Api
