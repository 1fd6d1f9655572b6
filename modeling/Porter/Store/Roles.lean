import Porter.Store.Schema

/-!
# Writes to the role catalogue

The statements behind the role API.
-/
namespace Porter.Store

open Sql Rbac

variable (db : RoleTables)

def putRole (r : RoleRow) : RoleTables :=
  if r.id = "" ∨ r.name = "" then db
  else
    { db with
      roles := db.roles.upsert r (fun old => { r with id := old.id }) (fun _ => rfl)
      roleKey := by
        intro entry mapped
        obtain ⟨role, stored, named⟩ := db.roleKey entry mapped
        obtain ⟨after, kept, same⟩ := db.roles.key_upsert r
          (fun old => { r with id := old.id }) (fun _ => rfl) stored
        exact ⟨after, kept, same.trans named⟩
      assignmentKey := by
        intro assignment granted
        obtain ⟨role, stored, named⟩ := db.assignmentKey assignment granted
        obtain ⟨after, kept, same⟩ := db.roles.key_upsert r
          (fun old => { r with id := old.id }) (fun _ => rfl) stored
        exact ⟨after, kept, same.trans named⟩ }

variable (id : String)

def deleteRoleRows : RoleTables where
  roles := db.roles.deleteWhere (fun role => role.id = id)
  permissions := db.permissions
  rolePermissions := db.rolePermissions.deleteWhere (fun entry => entry.roleID = id)
  roleAssignments := db.roleAssignments.deleteWhere (fun assignment => assignment.roleID = id)
  roleKey := by
    intro entry kept
    rw [Table.mem_deleteWhere] at kept
    obtain ⟨role, stored, named⟩ := db.roleKey entry kept.1
    have other : role.id ≠ id := by
      rw [named]
      simpa using kept.2
    exact ⟨role, by simp [stored, other], named⟩
  permissionKey := by
    intro entry kept
    rw [Table.mem_deleteWhere] at kept
    exact db.permissionKey entry kept.1
  assignmentKey := by
    intro assignment kept
    rw [Table.mem_deleteWhere] at kept
    obtain ⟨role, stored, named⟩ := db.assignmentKey assignment kept.1
    have other : role.id ≠ id := by
      rw [named]
      simpa using kept.2
    exact ⟨role, by simp [stored, other], named⟩

def deleteRole : RoleTables × Bool :=
  (deleteRoleRows db id, (db.roles.find id).isSome)

def deleteMappings (p : RolePermission → Bool) : RoleTables :=
  { db with
    rolePermissions := db.rolePermissions.deleteWhere p
    roleKey := by
      intro entry kept
      rw [Table.mem_deleteWhere] at kept
      exact db.roleKey entry kept.1
    permissionKey := by
      intro entry kept
      rw [Table.mem_deleteWhere] at kept
      exact db.permissionKey entry kept.1 }

variable (roleID permission : String)

def removeRolePermission : RoleTables :=
  deleteMappings db (fun entry => entry.roleID = roleID && entry.permissionID = permission)

def mappingViolation (column : String) : String :=
  "ERROR: insert or update on table \"role_permissions\" violates foreign key constraint " ++
    "\"role_permissions_" ++ column ++ "_fkey\" (SQLSTATE 23503)"

def insertMapping : Except String RoleTables :=
  if (db.rolePermissions.find (roleID, permission)).isSome then .ok db
  else if role : ∃ row ∈ db.roles.rows, row.id = roleID then
    if code : ∃ row ∈ db.permissions.rows, row.id = permission then
      .ok { db with
        rolePermissions := db.rolePermissions.insertIgnore ⟨roleID, permission, effectAllow⟩
        roleKey := by
          intro entry stored
          rw [Table.mem_insertIgnore] at stored
          rcases stored with old | ⟨rfl, _⟩
          · exact db.roleKey entry old
          · exact role
        permissionKey := by
          intro entry stored
          rw [Table.mem_insertIgnore] at stored
          rcases stored with old | ⟨rfl, _⟩
          · exact db.permissionKey entry old
          · exact code }
    else .error (mappingViolation "permission_id")
  else .error (mappingViolation "role_id")

def addRolePermission : RoleTables :=
  match insertMapping db roleID permission with
  | .ok next => next
  | .error _ => db

def insertMappings (db : RoleTables) (roleID : String) : List String → Except String RoleTables
  | [] => .ok db
  | permission :: rest =>
    match insertMapping db roleID permission with
    | .ok next => insertMappings next roleID rest
    | .error err => .error err

def setRolePermissions (perms : List String) : Except String RoleTables :=
  insertMappings (deleteMappings db (fun entry => entry.roleID = roleID)) roleID perms

structure SameRole (id : String) (before after : RoleTables) : Prop where
  row : ∀ role : RoleRow, role.id = id → (role ∈ after.roles.rows ↔ role ∈ before.roles.rows)
  mappings : ∀ entry : RolePermission, entry.roleID = id →
    (entry ∈ after.rolePermissions.rows ↔ entry ∈ before.rolePermissions.rows)

theorem SameRole.refl (db : RoleTables) : SameRole id db db :=
  ⟨fun _ _ => Iff.rfl, fun _ _ => Iff.rfl⟩

theorem SameRole.trans {id : String} {first second third : RoleTables}
    (left : SameRole id first second) (right : SameRole id second third) :
    SameRole id first third :=
  ⟨fun role named => (right.row role named).trans (left.row role named),
    fun entry named => (right.mappings entry named).trans (left.mappings entry named)⟩

theorem putRole_same (r : RoleRow) (id : String) (other : r.id ≠ id) :
    SameRole id db (putRole db r) := by
  unfold putRole
  split
  · exact SameRole.refl id db
  · refine ⟨?_, fun _ _ => Iff.rfl⟩
    intro role named
    apply Table.mem_upsert_of_ne
    rw [named]
    exact fun same => other same.symm

variable (target : String)

theorem deleteRoleRows_same (id : String) (other : target ≠ id) :
    SameRole id db (deleteRoleRows db target) := by
  constructor
  · intro role named
    have spared : role.id ≠ target := by
      rw [named]
      exact fun same => other same.symm
    simp [deleteRoleRows, spared]
  · intro entry named
    have spared : entry.roleID ≠ target := by
      rw [named]
      exact fun same => other same.symm
    simp [deleteRoleRows, spared]

theorem deleteMappings_same (p : RolePermission → Bool) (id : String)
    (spares : ∀ entry : RolePermission, entry.roleID = id → p entry = false) :
    SameRole id db (deleteMappings db p) := by
  refine ⟨fun _ _ => Iff.rfl, ?_⟩
  intro entry named
  simp [deleteMappings, spares entry named]

theorem insertMapping_same {db next : RoleTables} {target permission : String} {id : String}
    (inserted : insertMapping db target permission = .ok next) (other : target ≠ id) :
    SameRole id db next := by
  unfold insertMapping at inserted
  split at inserted
  · obtain rfl := Except.ok.inj inserted
    exact SameRole.refl id db
  · split at inserted
    · split at inserted
      · obtain rfl := Except.ok.inj inserted
        refine ⟨fun _ _ => Iff.rfl, ?_⟩
        intro entry named
        rw [Table.mem_insertIgnore]
        constructor
        · rintro (old | ⟨rfl, _⟩)
          · exact old
          · exact absurd named other
        · exact Or.inl
      · contradiction
    · contradiction

theorem insertMappings_same {db next : RoleTables} {target : String} {perms : List String}
    {id : String} (inserted : insertMappings db target perms = .ok next) (other : target ≠ id) :
    SameRole id db next := by
  induction perms generalizing db with
  | nil =>
    obtain rfl := Except.ok.inj inserted
    exact SameRole.refl id db
  | cons permission rest recurse =>
    simp only [insertMappings] at inserted
    cases first : insertMapping db target permission with
    | error err =>
      rw [first] at inserted
      contradiction
    | ok middle =>
      rw [first] at inserted
      exact (insertMapping_same first other).trans (recurse inserted)

theorem setRolePermissions_same {db next : RoleTables} {target : String} {perms : List String}
    {id : String} (replaced : setRolePermissions db target perms = .ok next)
    (other : target ≠ id) : SameRole id db next := by
  have cleared : SameRole id db (deleteMappings db (fun entry => entry.roleID = target)) := by
    apply deleteMappings_same
    intro entry named
    rw [named]
    simpa using fun same : id = target => other same.symm
  exact cleared.trans (insertMappings_same replaced other)

theorem addRolePermission_same (permission id : String) (other : target ≠ id) :
    SameRole id db (addRolePermission db target permission) := by
  unfold addRolePermission
  split
  · rename_i next inserted
    exact insertMapping_same inserted other
  · exact SameRole.refl id db

theorem removeRolePermission_same (permission id : String) (other : target ≠ id) :
    SameRole id db (removeRolePermission db target permission) := by
  apply deleteMappings_same
  intro entry named
  have spared : entry.roleID ≠ target := by
    rw [named]
    exact fun same => other same.symm
  simp [spared]

end Porter.Store
