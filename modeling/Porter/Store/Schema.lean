import Porter.Sql.Table
import Porter.Rbac.Engine

/-!
# The access tables

The tables that decide who may do what.
-/
namespace Porter.Store

open Sql Rbac

structure User where
  id : String
  username : String
  role : String

structure RoleRow where
  id : String
  name : String
  description : String
  scope : String
  isAdmin : Bool
  seesAll : Bool
  isDefault : Bool
  isSystem : Bool
deriving DecidableEq

structure Permission where
  id : String

structure RolePermission where
  roleID : String
  permissionID : String
  effect : String
deriving DecidableEq

def RolePermission.key (entry : RolePermission) : String × String :=
  (entry.roleID, entry.permissionID)

structure Org where
  id : String
  name : String

structure OrgMember where
  orgID : String
  userID : String
  role : String

structure ProjectMember where
  projectID : String
  userID : String
  role : String

structure ProjectOrg where
  id : String
  orgID : Option String

structure Group where
  id : String
  orgID : String

structure GroupProject where
  groupID : String
  projectID : String

structure Team where
  id : String
  organizationID : Option String

structure EnvironmentProject where
  id : String
  projectID : String

structure RoleTables where
  roles : Table RoleRow.id
  permissions : Table Permission.id
  rolePermissions : Table RolePermission.key
  roleAssignments : Table (id : Assignment → Assignment)
  roleKey : ∀ entry ∈ rolePermissions.rows, ∃ role ∈ roles.rows, role.id = entry.roleID
  permissionKey : ∀ entry ∈ rolePermissions.rows,
    ∃ permission ∈ permissions.rows, permission.id = entry.permissionID
  assignmentKey : ∀ assignment ∈ roleAssignments.rows,
    ∃ role ∈ roles.rows, role.id = assignment.roleID

structure Db extends RoleTables where
  users : Table User.username
  orgs : Table Org.id
  orgMembers : Table (fun member : OrgMember => (member.orgID, member.userID))
  projectMembers : Table (fun member : ProjectMember => (member.projectID, member.userID))
  projects : Table ProjectOrg.id
  groups : Table Group.id
  groupProjects : Table (id : GroupProject → GroupProject)
  teams : Table Team.id
  environments : Table EnvironmentProject.id
  collate : String → String → Bool

end Porter.Store
