import Mathlib.Data.List.Sort
import Porter.Store.Roles

/-!
# Role checks

The checks of `internal/store` that look at the roles a user holds globally, in a project or in an
organisation.
-/
namespace Porter.Store

open Sql Rbac

structure Role extends RoleRow where
  permissions : List String
deriving DecidableEq

def rolePermissions (db : RoleTables) (roleID : String) : List String :=
  if roleID = "" then []
  else (db.rolePermissions.rows.filter (fun entry => entry.roleID = roleID)).map
    RolePermission.permissionID

def getRole (db : RoleTables) (id : String) : Option Role :=
  (db.roles.find id).map (fun row => { row with permissions := rolePermissions db row.id })

variable (db : Db) (username : String)

def getUserByUsername : Option User :=
  db.users.find username

variable (role permission : String)

def roleGrants (db : RoleTables) (role permission : String) : Bool :=
  if role = "" then false
  else (rolePermissions db role).any (fun p => p = permission)

def hasPermission : Bool :=
  match getUserByUsername db username with
  | none => false
  | some u => (rolePermissions db.toRoleTables u.role).any (fun p => p = permission)

def isPlatformAdmin : Bool :=
  match getUserByUsername db username with
  | none => false
  | some u =>
    match getRole db.toRoleTables u.role with
    | none => false
    | some r => r.isAdmin

variable (orgID : String)

def orgMemberRole (userID : String) : String :=
  ((db.orgMembers.find (orgID, userID)).map OrgMember.role).getD ""

variable (projectID : String)

def projectMemberRole (userID : String) : String :=
  ((db.projectMembers.find (projectID, userID)).map ProjectMember.role).getD ""

/-- `COALESCE(org_id,'')` of a project, empty when the project is missing. -/
def projectOrgID : String :=
  ((db.projects.find projectID).bind ProjectOrg.orgID).getD ""

def orgRoleForUser (username : String) : String :=
  if orgID = "" ∨ username = "" then ""
  else
    match getUserByUsername db username with
    | none => ""
    | some u => orgMemberRole db orgID u.id

/-- `ProjectRoleForUser`: the project membership, then the membership in the project's org. -/
def projectRoleForUser (username : String) : String :=
  if projectID = "" ∨ username = "" then ""
  else
    match getUserByUsername db username with
    | none => ""
    | some u =>
      let role := projectMemberRole db projectID u.id
      if role ≠ "" then role
      else
        let orgID := projectOrgID db projectID
        if orgID = "" then "" else orgMemberRole db orgID u.id

/-- Without a membership role only a platform admin is checked, by the global role. -/
def hasMemberPermission (username permission : String) : Bool :=
  if role = "" then
    if isPlatformAdmin db username = false then false
    else
      match getUserByUsername db username with
      | none => false
      | some u => roleGrants db.toRoleTables u.role permission
  else roleGrants db.toRoleTables role permission

def hasProjectPermission (username permission : String) : Bool :=
  hasMemberPermission db (projectRoleForUser db projectID username) username permission

def hasOrgPermission (username permission : String) : Bool :=
  hasMemberPermission db (orgRoleForUser db orgID username) username permission

def userOrgIDs : List String :=
  match getUserByUsername db username with
  | none => []
  | some u => (db.orgMembers.rows.filter (fun member => member.userID = u.id)).map OrgMember.orgID

def hasPermissionAnywhere : Bool :=
  (userOrgIDs db username).any (fun orgID =>
    let role := orgRoleForUser db orgID username
    role ≠ "" && roleGrants db.toRoleTables role permission) ||
  hasPermission db username permission

def listOrgs : List Org :=
  db.orgs.rows.insertionSort (fun left right => db.collate left.name right.name = true)

theorem mem_rolePermissions (db : RoleTables) (role permission : String) :
    permission ∈ rolePermissions db role ↔
      role ≠ "" ∧ ∃ effect, (⟨role, permission, effect⟩ : RolePermission) ∈
        db.rolePermissions.rows := by
  unfold rolePermissions
  by_cases unnamed : role = ""
  · simp [unnamed]
  · simp only [unnamed, if_false, List.mem_map, List.mem_filter, decide_eq_true_eq]
    constructor
    · rintro ⟨entry, ⟨stored, rfl⟩, rfl⟩
      exact ⟨unnamed, entry.effect, stored⟩
    · rintro ⟨_, effect, stored⟩
      exact ⟨_, ⟨stored, rfl⟩, rfl⟩

theorem roleGrants_iff (db : RoleTables) (role permission : String) :
    roleGrants db role permission = true ↔
      role ≠ "" ∧ ∃ effect, (⟨role, permission, effect⟩ : RolePermission) ∈
        db.rolePermissions.rows := by
  rw [← mem_rolePermissions]
  unfold roleGrants
  by_cases unnamed : role = ""
  · simp [unnamed, rolePermissions]
  · simp [unnamed]

@[simp] theorem roleGrants_empty (db : RoleTables) (permission : String) :
    roleGrants db "" permission = false := rfl

theorem hasPermission_eq :
    hasPermission db username permission =
      ((getUserByUsername db username).map (fun u =>
        roleGrants db.toRoleTables u.role permission)).getD false := by
  unfold hasPermission
  cases found : getUserByUsername db username with
  | none => rfl
  | some u =>
    by_cases unnamed : u.role = ""
    · simp [unnamed, rolePermissions]
    · simp [unnamed, roleGrants]

theorem orgRoleForUser_member {db : Db} {orgID username permission : String}
    (grants : roleGrants db.toRoleTables (orgRoleForUser db orgID username) permission = true) :
    orgID ∈ userOrgIDs db username := by
  have held : orgRoleForUser db orgID username ≠ "" :=
    ((roleGrants_iff _ _ _).mp grants).1
  unfold orgRoleForUser at held
  split at held
  · contradiction
  · cases found : getUserByUsername db username with
    | none =>
      rw [found] at held
      contradiction
    | some u =>
      rw [found] at held
      simp only [orgMemberRole] at held
      cases member : db.orgMembers.find (orgID, u.id) with
      | none =>
        rw [member] at held
        contradiction
      | some row =>
        obtain ⟨stored, keyed⟩ := (Table.find_eq_some _ _ _).mp member
        obtain ⟨rfl, same⟩ := Prod.mk.inj keyed
        simp only [userOrgIDs, found, List.mem_map, List.mem_filter, decide_eq_true_eq]
        exact ⟨row, ⟨stored, same⟩, rfl⟩

theorem hasPermissionAnywhere_iff :
    hasPermissionAnywhere db username permission = true ↔
      (∃ orgID, roleGrants db.toRoleTables (orgRoleForUser db orgID username) permission = true) ∨
        hasPermission db username permission = true := by
  unfold hasPermissionAnywhere
  rw [Bool.or_eq_true, List.any_eq_true]
  apply or_congr_left
  constructor
  · rintro ⟨orgID, _, passed⟩
    simp only [ne_eq, decide_not, Bool.and_eq_true] at passed
    exact ⟨orgID, passed.2⟩
  · rintro ⟨orgID, grants⟩
    have held := ((roleGrants_iff _ _ _).mp grants).1
    exact ⟨orgID, orgRoleForUser_member grants, by simp [held, grants]⟩

/-- A catalogue with the same roles, each of which grants the permission as before. -/
structure SameGrants (permission : String) (before after : Db) : Prop where
  tenancy : after = { before with toRoleTables := after.toRoleTables }
  roles : after.roles = before.roles
  grants : ∀ role, roleGrants after.toRoleTables role permission =
    roleGrants before.toRoleTables role permission

namespace SameGrants

variable {permission : String} {before after : Db}

variable (same : SameGrants permission before after)

include same

theorem user : getUserByUsername after username = getUserByUsername before username := by
  rw [same.tenancy]
  rfl

theorem orgRole : orgRoleForUser after orgID username = orgRoleForUser before orgID username := by
  rw [same.tenancy]
  rfl

theorem projectRole :
    projectRoleForUser after projectID username =
      projectRoleForUser before projectID username := by
  rw [same.tenancy]
  rfl

theorem orgIDs : userOrgIDs after username = userOrgIDs before username := by
  rw [same.tenancy]
  rfl

theorem platformAdmin : isPlatformAdmin after username = isPlatformAdmin before username := by
  unfold isPlatformAdmin
  rw [same.user]
  cases getUserByUsername before username with
  | none => rfl
  | some u =>
    simp only [getRole, same.roles]
    cases before.roles.find u.role with
    | none | some => rfl

theorem globalCheck :
    hasPermission after username permission = hasPermission before username permission := by
  rw [hasPermission_eq, hasPermission_eq, same.user]
  simp only [same.grants]

theorem memberCheck :
    hasMemberPermission after role username permission =
      hasMemberPermission before role username permission := by
  unfold hasMemberPermission
  rw [same.platformAdmin, same.user]
  simp only [same.grants]

theorem anywhereCheck :
    hasPermissionAnywhere after username permission =
      hasPermissionAnywhere before username permission := by
  unfold hasPermissionAnywhere
  rw [same.orgIDs, same.globalCheck]
  simp only [same.orgRole, same.grants]

end SameGrants

def Db.withoutMapping : Db :=
  { db with toRoleTables := removeRolePermission db.toRoleTables role permission }

def PassesBecauseOf (check : Db → Bool) : Prop :=
  check db = true ∧ check (db.withoutMapping role permission) = false

/-- The mapping gives nothing to the role or, through it, to any user, whichever check is asked. -/
structure MappingGrantsNothing (db : Db) (role permission : String) : Prop where
  unheld : roleGrants db.toRoleTables role permission = false
  global : ∀ username,
    ¬PassesBecauseOf db role permission (hasPermission · username permission)
  project : ∀ projectID username,
    ¬PassesBecauseOf db role permission (hasProjectPermission · projectID username permission)
  org : ∀ orgID username,
    ¬PassesBecauseOf db role permission (hasOrgPermission · orgID username permission)
  anywhere : ∀ username,
    ¬PassesBecauseOf db role permission (hasPermissionAnywhere · username permission)

theorem sameGrants_withoutMapping_empty :
    SameGrants permission db (db.withoutMapping "" permission) := by
  refine ⟨rfl, rfl, ?_⟩
  intro role
  apply Bool.eq_iff_iff.mpr
  rw [roleGrants_iff, roleGrants_iff]
  apply and_congr_right
  intro named
  have spared : SameRole role db.toRoleTables (db.withoutMapping "" permission).toRoleTables :=
    removeRolePermission_same db.toRoleTables "" permission role (fun same => named same.symm)
  apply exists_congr
  intro effect
  exact spared.mappings ⟨role, permission, effect⟩ rfl

/-- A mapping that denies grants nothing exactly when its role is the empty one. -/
theorem deny_grants_nothing_iff (db : Db) (role permission : String)
    (denied : (⟨role, permission, effectDeny⟩ : RolePermission) ∈ db.rolePermissions.rows) :
    MappingGrantsNothing db role permission ↔ role = "" := by
  constructor
  · intro nothing
    by_contra named
    have granted : roleGrants db.toRoleTables role permission = true :=
      (roleGrants_iff db.toRoleTables role permission).mpr ⟨named, effectDeny, denied⟩
    rw [nothing.unheld] at granted
    contradiction
  · rintro rfl
    have same := sameGrants_withoutMapping_empty db permission
    have unchanged : ∀ check : Db → Bool,
        check (db.withoutMapping "" permission) = check db →
        ¬PassesBecauseOf db "" permission check := by
      intro check equal because
      have failed := because.2
      rw [equal, because.1] at failed
      contradiction
    refine ⟨roleGrants_empty db.toRoleTables permission, ?_, ?_, ?_, ?_⟩
    · intro username
      apply unchanged
      exact same.globalCheck username
    · intro projectID username
      apply unchanged
      simp only [hasProjectPermission, same.projectRole, same.memberCheck]
    · intro orgID username
      apply unchanged
      simp only [hasOrgPermission, same.orgRole, same.memberCheck]
    · intro username
      apply unchanged
      exact same.anywhereCheck username

def malloryID : String := "00000000-0000-4000-8000-000000000002"
def blockedOrg : String := "00000000-0000-4000-8000-00000000000c"
def blockedProject : String := "00000000-0000-4000-8000-0000000000c1"

def denyingDb : Db where
  roles := .single _ ⟨role, "Blocked", "", "shared", false, false, false, false⟩
  permissions := .single _ ⟨"project.delete"⟩
  rolePermissions := .single _ ⟨role, "project.delete", effectDeny⟩
  roleAssignments := .empty _
  roleKey := by simp [Table.single]
  permissionKey := by simp [Table.single]
  assignmentKey := by simp [Table.empty]
  users := .single _ ⟨malloryID, "mallory", role⟩
  orgs := .single _ ⟨blockedOrg, "acme"⟩
  orgMembers := .single _ ⟨blockedOrg, malloryID, role⟩
  projectMembers := .single _ ⟨blockedProject, malloryID, role⟩
  projects := .single _ ⟨blockedProject, some blockedOrg⟩
  groups := .empty _
  groupProjects := .empty _
  teams := .empty _
  environments := .empty _
  collate left right := left ≤ right

theorem deny_grants_nothing_iff_empty : MappingGrantsNothing (denyingDb "") "" "project.delete" :=
  (deny_grants_nothing_iff (denyingDb "") "" "project.delete" (by decide)).mpr rfl

theorem deny_mapping_grants :
    (denyingDb "blocked").rolePermissions.rows =
      [⟨"blocked", "project.delete", effectDeny⟩] ∧
    roleGrants (denyingDb "blocked").toRoleTables "blocked" "project.delete" = true ∧
    PassesBecauseOf (denyingDb "blocked") "blocked" "project.delete"
      (hasPermission · "mallory" "project.delete") ∧
    PassesBecauseOf (denyingDb "blocked") "blocked" "project.delete"
      (hasProjectPermission · blockedProject "mallory" "project.delete") ∧
    PassesBecauseOf (denyingDb "blocked") "blocked" "project.delete"
      (hasOrgPermission · blockedOrg "mallory" "project.delete") ∧
    PassesBecauseOf (denyingDb "blocked") "blocked" "project.delete"
      (hasPermissionAnywhere · "mallory" "project.delete") := by
  unfold PassesBecauseOf
  decide

end Porter.Store
