import Porter.Api.Granted

/-!
# Properties of the authorisation decision

A scoped deny always wins, an outsider is refused on every route of a project, an org route is
granted to callers authorised for that org except in one case, and failing lookups turn a refusal
into a grant exactly when a deny is all that stands in the way.
-/
namespace Porter.Api

open Store Rbac Go Sql

def acmeOrg : String := "00000000-0000-4000-8000-00000000000a"
def betaOrg : String := "00000000-0000-4000-8000-00000000000b"
def acmeProject : String := "00000000-0000-4000-8000-0000000000a1"
def betaProject : String := "00000000-0000-4000-8000-0000000000b1"
def acmeGroup : String := "00000000-0000-4000-8000-0000000000a2"
def aliceID : String := "00000000-0000-4000-8000-000000000001"

def tenantDb : Db where
  roles := ⟨[⟨"member", "Member", "", "shared", false, false, true, true⟩,
    ⟨"blocked", "Blocked", "", "shared", false, false, false, false⟩], by decide⟩
  permissions := ⟨[⟨"org.update"⟩, ⟨"project.delete"⟩], by decide⟩
  rolePermissions := ⟨[⟨"member", "org.update", effectAllow⟩,
    ⟨"member", "project.delete", effectAllow⟩, ⟨"blocked", "project.delete", effectDeny⟩],
    by decide⟩
  roleAssignments := .single _ ⟨"user", "alice", ⟨scopeOrg, betaOrg⟩, "blocked"⟩
  roleKey := by decide
  permissionKey := by decide
  assignmentKey := by decide
  users := .single _ ⟨aliceID, "alice", "viewer"⟩
  orgs := ⟨[⟨betaOrg, "beta"⟩, ⟨acmeOrg, "acme"⟩], by decide⟩
  orgMembers := .single _ ⟨betaOrg, aliceID, "member"⟩
  projectMembers := .empty _
  projects := ⟨[⟨acmeProject, some acmeOrg⟩, ⟨betaProject, some betaOrg⟩], by decide⟩
  groups := .single _ ⟨acmeGroup, acmeOrg⟩
  groupProjects := .single _ ⟨acmeGroup, acmeProject⟩
  teams := .empty _
  environments := .empty _
  collate left right := left ≤ right

/-- The ancestors of a scope are distinct, end with the platform and contain their own ancestors, so
an assignment that counts for one of them counts for the scope. -/
theorem scopeAncestors_closed (db : Db) (teamless : db.teams.rows = []) (scope : Scope) :
    (scopeAncestors db .clean scope).Nodup ∧
      (scopeAncestors db .clean scope).getLast? = some ⟨scopePlatform, ""⟩ ∧
      ∀ ancestor ∈ scopeAncestors db .clean scope,
        scopeAncestors db .clean ancestor ⊆ scopeAncestors db .clean scope ∧
        ∀ assignment, inScope ancestor (scopeAncestors db .clean ancestor) assignment = true →
          inScope scope (scopeAncestors db .clean scope) assignment = true := by
  refine ⟨nodup_collectKeys _ _ _ List.nodup_nil, getLast_scopeAncestors db .clean scope, ?_⟩
  intro ancestor member
  refine ⟨fun _ above => scopeAncestors_trans teamless member above, ?_⟩
  intro assignment
  rw [inScope_iff, inScope_iff]
  rintro (same | above)
  · exact Or.inr (same ▸ member)
  · exact Or.inr (scopeAncestors_trans teamless member above)

theorem scopeAncestors_closed_acme :
    ⟨scopeOrg, acmeOrg⟩ ∈ scopeAncestors tenantDb .clean ⟨scopeProject, acmeProject⟩ ∧
      (scopeAncestors tenantDb .clean ⟨scopeProject, acmeProject⟩).Nodup :=
  ⟨by decide, (scopeAncestors_closed tenantDb rfl ⟨scopeProject, acmeProject⟩).1⟩

/-- With every query succeeding, a deny at the request's scope or above refuses the request. -/
theorem granted_of_denied (db : Db) (header request : MapOrder String) (r : Request)
    (p : Principal) (perm : String)
    (denied : ∃ assignment ∈ db.roleAssignments.rows,
      assignment.principalType = "user" ∧ assignment.principalID = p.username ∧
      (assignment.scope = requestScope r ∨
        assignment.scope ∈ scopeAncestors db .clean (requestScope r)) ∧
      ∃ entry ∈ db.rolePermissions.rows,
        entry.roleID = assignment.roleID ∧ entry.permissionID = perm ∧
          entry.effect = effectDeny) :
    granted db (.clean header request) r p perm = false := by
  apply Bool.eq_false_iff.mpr
  intro yes
  exact ((granted_clean _ _ _ r p _).mp yes).1 denied

theorem granted_of_denied_inherited :
    granted tenantDb (.clean .insertion .insertion) ⟨betaProject, ""⟩ ⟨"alice"⟩ "project.delete" =
      false :=
  granted_of_denied tenantDb .insertion .insertion ⟨betaProject, ""⟩ ⟨"alice"⟩ "project.delete"
    (by decide)

/-- A user without any link to a project: no membership, no role assigned at it or above, and no
administrator role. -/
structure Outsider (db : Db) (projectID username : String) : Prop where
  notProjectMember : ∀ user ∈ db.users.rows, user.username = username →
    ∀ member ∈ db.projectMembers.rows, ¬(member.projectID = projectID ∧ member.userID = user.id)
  notOrgMember : ∀ user ∈ db.users.rows, user.username = username →
    ∀ project ∈ db.projects.rows, project.id = projectID →
    ∀ member ∈ db.orgMembers.rows, ¬(project.orgID = some member.orgID ∧ member.userID = user.id)
  unassigned : ∀ assignment ∈ db.roleAssignments.rows,
    assignment.principalType = "user" → assignment.principalID = username →
    assignment.scope ≠ ⟨scopeProject, projectID⟩ ∧ assignment.scope ≠ ⟨scopePlatform, ""⟩ ∧
    (∀ link ∈ db.groupProjects.rows, link.projectID = projectID →
      assignment.scope ≠ ⟨scopeTeam, link.groupID⟩ ∧
      ∀ group ∈ db.groups.rows, group.id = link.groupID →
        assignment.scope ≠ ⟨scopeOrg, group.orgID⟩) ∧
    ∀ project ∈ db.projects.rows, project.id = projectID →
      ∀ orgID ∈ project.orgID, assignment.scope ≠ ⟨scopeOrg, orgID⟩
  notAdmin : ∀ user ∈ db.users.rows, user.username = username →
    ∀ role ∈ db.roles.rows, role.id = user.role → role.isAdmin = false

variable {db : Db} {username : String} {r : Request}

theorem Outsider.not_allowed (outsider : Outsider db r.projectID username)
    (project : r.projectID ≠ "") (perm : String) : ¬RequestAllowed db r ⟨username⟩ perm := by
  rintro ⟨_, assignment, stored, typed, identified, inside, _⟩
  obtain ⟨notHere, notPlatform, notGroup, notOrg⟩ :=
    outsider.unassigned assignment stored typed identified
  have scope : requestScope r = ⟨scopeProject, r.projectID⟩ := if_pos project
  rw [scope] at inside
  rcases inside with here | above
  · exact notHere here
  · rw [mem_scopeAncestors_project] at above
    rcases above with inherited | platform
    · rw [mem_projectAncestors] at inherited
      simp only [AncestorFault.clean, RowsFault.delivered_clean, readRow_clean] at inherited
      rcases inherited with ⟨gid, listed, reached⟩ | ⟨orgID, found, _, same⟩
      · obtain ⟨link, chosen, rfl⟩ := List.mem_map.mp listed
        obtain ⟨linked, here⟩ := List.mem_filter.mp chosen
        obtain ⟨notTeam, notGroupOrg⟩ := notGroup link linked (by simpa using here)
        rcases reached with ⟨_, same⟩ | ⟨orgID, found, _, same⟩
        · exact notTeam same
        · obtain ⟨group, groupFound, rfl⟩ := Option.map_eq_some_iff.mp found
          obtain ⟨groupStored, groupNamed⟩ := (Table.find_eq_some _ _ _).mp groupFound
          exact notGroupOrg group groupStored groupNamed same
      · obtain ⟨row, projectFound, owned⟩ := Option.bind_eq_some_iff.mp found
        obtain ⟨projectStored, projectNamed⟩ := (Table.find_eq_some _ _ _).mp projectFound
        exact notOrg row projectStored projectNamed orgID owned same
    · exact notPlatform platform

theorem Outsider.no_role {projectID : String} (outsider : Outsider db projectID username) :
    projectRoleForUser db projectID username = "" := by
  unfold projectRoleForUser
  split
  · rfl
  · cases found : getUserByUsername db username with
    | none => rfl
    | some u =>
      obtain ⟨userStored, userNamed⟩ := (Table.find_eq_some _ _ _).mp found
      have direct : projectMemberRole db projectID u.id = "" := by
        unfold projectMemberRole
        cases member : db.projectMembers.find (projectID, u.id) with
        | none => rfl
        | some row =>
          obtain ⟨stored, keyed⟩ := (Table.find_eq_some _ _ _).mp member
          obtain ⟨here, same⟩ := Prod.mk.inj keyed
          exact absurd ⟨here, same⟩ (outsider.notProjectMember u userStored userNamed row stored)
      simp only [direct, ne_eq, not_true_eq_false, if_false]
      split
      · rfl
      · rename_i owned
        unfold orgMemberRole
        cases member : db.orgMembers.find (projectOrgID db projectID, u.id) with
        | none => rfl
        | some row =>
          obtain ⟨stored, keyed⟩ := (Table.find_eq_some _ _ _).mp member
          obtain ⟨sameOrg, same⟩ := Prod.mk.inj keyed
          unfold projectOrgID at owned sameOrg
          cases projectFound : db.projects.find projectID with
          | none =>
            rw [projectFound] at owned
            exact absurd rfl owned
          | some project =>
            obtain ⟨projectStored, projectNamed⟩ := (Table.find_eq_some _ _ _).mp projectFound
            rw [projectFound, Option.bind_some] at owned sameOrg
            cases org : project.orgID with
            | none =>
              rw [org] at owned
              exact absurd rfl owned
            | some orgID =>
              rw [org, Option.getD_some] at sameOrg
              have linked : project.orgID = some row.orgID := by rw [org, sameOrg]
              exact absurd ⟨linked, same⟩ (outsider.notOrgMember u userStored userNamed project
                projectStored projectNamed row stored)

theorem Outsider.not_admin {projectID : String}
    (outsider : Outsider db projectID username) : isPlatformAdmin db username = false := by
  unfold isPlatformAdmin getRole
  cases found : getUserByUsername db username with
  | none => rfl
  | some u =>
    obtain ⟨userStored, userNamed⟩ := (Table.find_eq_some _ _ _).mp found
    cases role : db.roles.find u.role with
    | none => simp [role]
    | some row =>
      obtain ⟨stored, named⟩ := (Table.find_eq_some _ _ _).mp role
      simpa [role] using outsider.notAdmin u userStored userNamed row stored named

/-- With every query succeeding, an outsider is refused every request on the project's routes. -/
theorem granted_outsider (db : Db) (header request : MapOrder String) (r : Request)
    (username perm : String) (project : r.projectID ≠ "")
    (outsider : Outsider db r.projectID username) :
    granted db (.clean header request) r ⟨username⟩ perm = false := by
  have member : membershipGrants db r ⟨username⟩ perm = false := by
    simp only [membershipGrants, if_pos project, hasProjectPermission, hasMemberPermission,
      outsider.no_role, outsider.not_admin, if_true]
  apply Bool.eq_false_iff.mpr
  intro yes
  rcases ((granted_clean _ _ _ r ⟨username⟩ perm).mp yes).2 with allowed | grants
  · exact outsider.not_allowed project perm allowed
  · rw [member] at grants
    contradiction

theorem granted_outsider_alice :
    granted tenantDb (.clean .insertion .insertion) ⟨acmeProject, betaOrg⟩ ⟨"alice"⟩ "org.update" =
      false :=
  granted_outsider tenantDb .insertion .insertion ⟨acmeProject, betaOrg⟩ "alice" "org.update"
    (by decide) ⟨by decide, by decide, by decide, by decide⟩

/-- A caller is authorised for an org as a platform admin, through a role assigned at the org or the
platform, or through their membership. -/
def OrgAuthorised (db : Db) (orgID : String) (p : Principal) (perm : String) : Prop :=
  isPlatformAdmin db p.username = true ∨
  ScopedAllow db "user" p.username perm ⟨scopeOrg, orgID⟩ ∨
  roleGrants db.toRoleTables (orgRoleForUser db orgID p.username) perm = true

instance (db : Db) (orgID : String) (p : Principal) (perm : String) :
    Decidable (OrgAuthorised db orgID p perm) :=
  inferInstanceAs (Decidable (_ ∨ _ ∨ _))

theorem scopedEntry_of_platform {principalType principalID permission : String}
    {effects : String → Prop} (scope : Scope)
    (reached : ScopedEntry db principalType principalID permission ⟨scopePlatform, ""⟩ effects) :
    ScopedEntry db principalType principalID permission scope effects := by
  obtain ⟨assignment, stored, typed, identified, inside, entry⟩ := reached
  refine ⟨assignment, stored, typed, identified, Or.inr ?_, entry⟩
  have platform : assignment.scope = ⟨scopePlatform, ""⟩ := by
    rcases inside with here | above
    · exact here
    · simpa [scopeAncestors, scopePlatform, scopeEnvironment, scopeProject, scopeTeam] using above
  rw [platform]
  exact platform_mem_scopeAncestors _ .clean scope

theorem orgAuthorised_of_allowed {p : Principal} {perm : String} (nonProject : r.projectID = "")
    (allowed : RequestAllowed db r p perm) : OrgAuthorised db (orgIDFromHeader db r) p perm := by
  refine Or.inr (Or.inl ?_)
  have found := allowed.2
  by_cases header : r.orgHeader = ""
  · have scope : requestScope r = ⟨scopePlatform, ""⟩ := by
      simp [requestScope, nonProject, header]
    rw [scope] at found
    exact scopedEntry_of_platform _ found
  · have scope : requestScope r = ⟨scopeOrg, r.orgHeader⟩ := by
      simp [requestScope, nonProject, header]
    have org : orgIDFromHeader db r = r.orgHeader := if_pos header
    rw [scope] at found
    rw [org]
    exact found

theorem membershipGrants_nonProject (db : Db) (p : Principal) (perm : String)
    (nonProject : r.projectID = "") :
    membershipGrants db r p perm =
      if r.orgHeader ≠ "" ∧ orgRoleForUser db r.orgHeader p.username ≠ "" then
        roleGrants db.toRoleTables (orgRoleForUser db r.orgHeader p.username) perm
      else hasPermissionAnywhere db p.username perm := by
  simp only [membershipGrants, nonProject, ne_eq, not_true_eq_false, if_false]
  split
  · rename_i member
    rw [hasOrgPermission, hasMemberPermission, if_neg member.2]
  · rfl

/-- On a route outside projects a granted caller is authorised for the org acted on exactly when
they are anyway, a scoped deny refuses them, the header names an org in which they have a role, or
no role of theirs grants the permission. -/
theorem granted_org_iff (db : Db) (header request : MapOrder String) (r : Request)
    (p : Principal) (perm : String) (nonProject : r.projectID = "") :
    (granted db (.clean header request) r p perm = true →
      OrgAuthorised db (orgIDFromHeader db r) p perm) ↔
    (OrgAuthorised db (orgIDFromHeader db r) p perm ∨
      ScopedDenied db "user" p.username perm (requestScope r) ∨
      (r.orgHeader ≠ "" ∧ orgRoleForUser db r.orgHeader p.username ≠ "") ∨
      ((∀ orgID, roleGrants db.toRoleTables (orgRoleForUser db orgID p.username) perm = false) ∧
        hasPermission db p.username perm = false)) := by
  have anywhere := hasPermissionAnywhere_iff db p.username perm
  have membership := membershipGrants_nonProject db p perm nonProject
  constructor
  · intro authorises
    by_cases denied : RequestDenied db r p perm
    · exact Or.inr (Or.inl denied)
    · by_cases member : r.orgHeader ≠ "" ∧ orgRoleForUser db r.orgHeader p.username ≠ ""
      · exact Or.inr (Or.inr (Or.inl member))
      · rw [if_neg member] at membership
        by_cases held : hasPermissionAnywhere db p.username perm = true
        · have yes : granted db (.clean header request) r p perm = true :=
            (granted_clean db header request r p perm).mpr
              ⟨denied, Or.inr (membership.trans held)⟩
          exact Or.inl (authorises yes)
        · rw [anywhere] at held
          push Not at held
          refine Or.inr (Or.inr (Or.inr ⟨?_, Bool.eq_false_iff.mpr held.2⟩))
          intro orgID
          exact Bool.eq_false_iff.mpr (held.1 orgID)
  · intro condition yes
    obtain ⟨undenied, reason⟩ := (granted_clean db header request r p perm).mp yes
    rcases reason with allowed | grants
    · exact orgAuthorised_of_allowed nonProject allowed
    · rw [membership] at grants
      rcases condition with authorised | denied | member | unheld
      · exact authorised
      · exact absurd denied undenied
      · have org : orgIDFromHeader db r = r.orgHeader := if_pos member.1
        rw [if_pos member] at grants
        rw [org]
        exact Or.inr (Or.inr grants)
      · split at grants
        · rw [unheld.1] at grants
          contradiction
        · rcases anywhere.mp grants with ⟨orgID, held⟩ | held
          · rw [unheld.1] at held
            contradiction
          · rw [unheld.2] at held
            contradiction

theorem granted_org_iff_member :
    OrgAuthorised tenantDb (orgIDFromHeader tenantDb ⟨"", betaOrg⟩) ⟨"alice"⟩ "org.update" :=
  (granted_org_iff tenantDb .insertion .insertion ⟨"", betaOrg⟩ ⟨"alice"⟩ "org.update" rfl).mpr
    (Or.inr (Or.inr (Or.inl (by decide)))) (by decide)

theorem granted_other_org :
    orgIDFromHeader tenantDb ⟨"", acmeOrg⟩ = acmeOrg ∧
    granted tenantDb (.clean .insertion .insertion) ⟨"", acmeOrg⟩ ⟨"alice"⟩ "org.update" = true ∧
    orgIDFromHeader tenantDb ⟨"", ""⟩ = acmeOrg ∧
    granted tenantDb (.clean .insertion .insertion) ⟨"", ""⟩ ⟨"alice"⟩ "org.update" = true ∧
    ¬OrgAuthorised tenantDb acmeOrg ⟨"alice"⟩ "org.update" := by
  decide

end Porter.Api
