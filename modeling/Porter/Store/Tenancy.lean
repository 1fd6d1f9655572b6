import Porter.Store.Permissions
import Porter.Store.Projects
import Porter.Store.Scoped

/-!
# Projects in the scopes of a user

The listings of `internal/store/store.go` and the scopes of `internal/store/tenancy.go`.
-/
namespace Porter.Store

open Sql Rbac

structure ProjectRecord where
  orgID : Option String
  doc : Project EnvMap

def ProjectRecord.tenancy (record : ProjectRecord) : ProjectOrg := ⟨record.doc.id, record.orgID⟩

structure ListingDb extends Db where
  records : List ProjectRecord
  columns : projects.rows = records.map ProjectRecord.tenancy

def listProjects (db : ListingDb) (fails : Bool) : Option (List (Project EnvMap)) :=
  if fails then none else some (db.records.map ProjectRecord.doc)

def listProjectsByOrg (db : ListingDb) (fails : Bool) (orgID : String) :
    Option (List (Project EnvMap)) :=
  if fails then none
  else some ((db.records.filter (·.orgID = some orgID)).map ProjectRecord.doc)

def roleSeesAll (db : RoleTables) (roleID : String) : Bool :=
  match getRole db roleID with
  | none => false
  | some role => role.seesAll || role.isAdmin

structure ScopesFault where
  members : RowsFault
  groups : String → RowsFault
  groupProjects : String → RowsFault

def ScopesFault.clean : ScopesFault := ⟨.clean, fun _ => .clean, fun _ => .clean⟩

variable (db : Db)

def membershipsOf (userID : String) : List ProjectMember :=
  db.projectMembers.rows.filter (·.userID = userID)

variable (fault : ScopesFault) (username : String)

def memberScopes : List Scope :=
  match getUserByUsername db username with
  | none => []
  | some u =>
    (fault.members.delivered (membershipsOf db u.id)).map (fun m => ⟨scopeProject, m.projectID⟩)

def groupScopes (gid : String) : List Scope :=
  ⟨scopeTeam, gid⟩ ::
    ((fault.groupProjects gid).delivered (db.groupProjects.rows.filter (·.groupID = gid))).map
      (fun link => ⟨scopeProject, link.projectID⟩)

def orgScopes (orgID : String) : List Scope :=
  ⟨scopeOrg, orgID⟩ ::
    ((fault.groups orgID).delivered (db.groups.rows.filter (·.orgID = orgID))).flatMap
      (fun group => groupScopes db fault group.id)

def userScopes : List Scope :=
  memberScopes db fault username ++ (userOrgIDs db username).flatMap (orgScopes db fault)

theorem userScopes_subset : userScopes db fault username ⊆ userScopes db .clean username := by
  have direct : memberScopes db fault username ⊆ memberScopes db .clean username := by
    unfold memberScopes
    cases getUserByUsername db username with
    | none => exact List.Subset.refl []
    | some u =>
      simp only [ScopesFault.clean, RowsFault.delivered_clean]
      exact List.map_subset _ (RowsFault.delivered_subset _ _)
  have group : ∀ gid, groupScopes db fault gid ⊆ groupScopes db .clean gid := by
    intro gid
    simp only [groupScopes, ScopesFault.clean, RowsFault.delivered_clean]
    exact List.cons_subset_cons _ (List.map_subset _ (RowsFault.delivered_subset _ _))
  have org : ∀ orgID, orgScopes db fault orgID ⊆ orgScopes db .clean orgID := by
    intro orgID
    apply List.cons_subset_cons
    intro scope member
    have ⟨row, listed, reached⟩ := List.mem_flatMap.mp member
    have stored := RowsFault.delivered_subset _ _ listed
    simp only [ScopesFault.clean, RowsFault.delivered_clean]
    exact List.mem_flatMap.mpr ⟨row, stored, group row.id reached⟩
  intro scope member
  rcases List.mem_append.mp member with own | reached
  · exact List.mem_append_left _ (direct own)
  · have ⟨orgID, joined, inside⟩ := List.mem_flatMap.mp reached
    exact List.mem_append_right _ (List.mem_flatMap.mpr ⟨orgID, joined, org orgID inside⟩)

/-- The same row, roles and memberships of a user, and the same organisations and groups. -/
structure SameStanding (username : String) (before after : Db) : Prop where
  user : getUserByUsername after username = getUserByUsername before username
  roles : after.roles = before.roles
  mappings : after.rolePermissions = before.rolePermissions
  assignments : principalAssignments after "user" username =
    principalAssignments before "user" username
  projectMembers : ∀ u, getUserByUsername before username = some u →
    membershipsOf after u.id = membershipsOf before u.id
  orgMembers : ∀ u, getUserByUsername before username = some u →
    after.orgMembers.rows.filter (·.userID = u.id) =
      before.orgMembers.rows.filter (·.userID = u.id)
  orgs : after.orgs = before.orgs
  groups : after.groups = before.groups
  groupProjects : after.groupProjects = before.groupProjects
  collate : after.collate = before.collate

namespace SameStanding

variable {username : String} {before after : Db}

variable (same : SameStanding username before after)

include same

theorem listOrgs : Store.listOrgs after = Store.listOrgs before := by
  unfold Store.listOrgs
  rw [same.orgs, same.collate]

theorem userOrgIDs : Store.userOrgIDs after username = Store.userOrgIDs before username := by
  unfold Store.userOrgIDs
  rw [same.user]
  cases found : getUserByUsername before username with
  | none => rfl
  | some u =>
    have rows := same.orgMembers u found
    simp only [rows]

theorem userScopes (fault : ScopesFault) :
    Store.userScopes after fault username = Store.userScopes before fault username := by
  have direct : memberScopes after fault username = memberScopes before fault username := by
    unfold memberScopes
    rw [same.user]
    cases found : getUserByUsername before username with
    | none => rfl
    | some u =>
      have rows := same.projectMembers u found
      simp only [rows]
  have group : groupScopes after fault = groupScopes before fault := by
    funext gid
    unfold groupScopes
    rw [same.groupProjects]
  have org : orgScopes after fault = orgScopes before fault := by
    funext orgID
    unfold orgScopes
    rw [same.groups, group]
  unfold Store.userScopes
  rw [direct, same.userOrgIDs, org]

theorem roleSeesAll (roleID : String) :
    Store.roleSeesAll after.toRoleTables roleID = Store.roleSeesAll before.toRoleTables roleID := by
  unfold Store.roleSeesAll getRole rolePermissions
  rw [same.roles, same.mappings]

theorem hasCapability (order : Go.MapOrder String) (fault : ResolverFault) (capability : String) :
    Store.hasCapability after order fault "user" username capability "platform" "" =
      Store.hasCapability before order fault "user" username capability "platform" "" := by
  have entries : roleEntries after = roleEntries before := by
    funext roleIDs
    unfold roleEntries
    rw [same.mappings]
  have ancestors : scopeAncestors after fault.ancestors ⟨"platform", ""⟩ =
      scopeAncestors before fault.ancestors ⟨"platform", ""⟩ := rfl
  unfold Store.hasCapability Rbac.hasCapability
  simp only [resolver, same.assignments, entries, ancestors]

end SameStanding

end Porter.Store
