import Porter.Sql.Rows
import Porter.Store.Schema

/-!
# Scoped assignments

The reads of `rbac.Resolver` over the access tables, the store's `HasCapability`, and `ScopedDeny`.
-/
namespace Porter.Store

open Sql Rbac Go Policy

structure AncestorFault where
  environment : Bool
  groups : RowsFault
  groupOrg : String → Bool
  projectOrg : Bool
  teamOrg : Bool

def AncestorFault.clean : AncestorFault := ⟨false, .clean, fun _ => false, false, false⟩

def push (out : List Scope) (type id : String) : List Scope :=
  if id ≠ "" then out ++ [⟨type, id⟩] else out

def dedupeScopes (scopes : List Scope) : List Scope :=
  collectKeys (fun _ => true) id scopes []

def closeAncestors (out : List Scope) : List Scope :=
  dedupeScopes (out ++ [⟨scopePlatform, ""⟩])

variable (db : Db)

def projectGroupIDs (projectID : String) : List String :=
  (db.groupProjects.rows.filter (fun row => row.projectID = projectID)).map GroupProject.groupID

def groupOrgID (groupID : String) : Option String :=
  (db.groups.find groupID).map Group.orgID

def pushGroup (fault : AncestorFault) (out : List Scope) (gid : String) : List Scope :=
  match readRow (fault.groupOrg gid) (groupOrgID db gid) with
  | some orgID => push (push out scopeTeam gid) scopeOrg orgID
  | none => push out scopeTeam gid

def projectAncestors (fault : AncestorFault) (projectID : String) : List Scope :=
  let out := (fault.groups.delivered (projectGroupIDs db projectID)).foldl (pushGroup db fault) []
  match readRow fault.projectOrg ((db.projects.find projectID).bind ProjectOrg.orgID) with
  | some orgID => if orgID ≠ "" then push out scopeOrg orgID else out
  | none => out

def teamAncestors (fault : AncestorFault) (teamID : String) : List Scope :=
  let out :=
    match readRow (fault.groupOrg teamID) (groupOrgID db teamID) with
    | some orgID => push [] scopeOrg orgID
    | none => []
  match readRow fault.teamOrg ((db.teams.find teamID).bind Team.organizationID) with
  | some orgID => push out scopeOrg orgID
  | none => out

def environmentAncestors (fault : AncestorFault) (environmentID : String) : List Scope :=
  match readRow fault.environment
      ((db.environments.find environmentID).map EnvironmentProject.projectID) with
  | some projectID =>
    push [] scopeProject projectID ++ closeAncestors (projectAncestors db fault projectID)
  | none => []

/-- `ScopeAncestors`; it reports no error of its own. -/
def scopeAncestors (fault : AncestorFault) (scope : Scope) : List Scope :=
  closeAncestors
    (if scope.type = scopeEnvironment then environmentAncestors db fault scope.id
    else if scope.type = scopeProject then projectAncestors db fault scope.id
    else if scope.type = scopeTeam then teamAncestors db fault scope.id
    else [])

def principalAssignments (principalType principalID : String) : List Assignment :=
  db.roleAssignments.rows.filter (fun assignment =>
    assignment.principalType = principalType && assignment.principalID = principalID)

variable (roleIDs : List String)

def roleEntries : List RoleCapability :=
  (db.rolePermissions.rows.filter (fun entry => entry.roleID ∈ roleIDs)).map
    (fun entry => ⟨entry.permissionID, entry.effect⟩)

structure ResolverFault where
  assignments : RowsFault
  capabilities : RowsFault
  ancestors : AncestorFault

def ResolverFault.clean : ResolverFault := ⟨.clean, .clean, .clean⟩

def resolver (fault : ResolverFault) : Resolver where
  assignmentsForPrincipal principalType principalID :=
    fault.assignments.collect (principalAssignments db principalType principalID)
  roleCapabilities roleIDs :=
    if roleIDs.length = 0 then .ok [] else fault.capabilities.collect (roleEntries db roleIDs)
  scopeAncestors scope := .ok (scopeAncestors db fault.ancestors scope)

/-- `Store.HasCapability`: an error of the engine is logged and answered with no. -/
def hasCapability (db : Db) (order : MapOrder String) (fault : ResolverFault)
    (principalType principalID capability scopeType scopeID : String) : Bool :=
  match Rbac.hasCapability order (resolver db fault) principalType principalID capability
      ⟨scopeType, scopeID⟩ with
  | .ok answer => answer
  | .error _ => false

structure DenyFault where
  assignments : RowsFault
  ancestors : AncestorFault
  entries : RowsFault

def DenyFault.clean : DenyFault := ⟨.clean, .clean, .clean⟩

variable (permission : String)

def denyRows : List RolePermission :=
  db.rolePermissions.rows.filter (fun entry =>
    entry.roleID ∈ roleIDs && entry.permissionID = permission && entry.effect = effectDeny)

def inScopeRoleIDs (scope : Scope) (ancestors : List Scope) (assignments : List Assignment) :
    List String :=
  (assignments.filter (inScope scope ancestors)).map Assignment.roleID

def scopedDeny (fault : DenyFault)
    (principalType principalID capability scopeType scopeID : String) : Bool :=
  match fault.assignments.collect (principalAssignments db principalType principalID) with
  | .error _ => false
  | .ok assignments =>
    if assignments.length = 0 then false
    else
      let ancestors := scopeAncestors db fault.ancestors ⟨scopeType, scopeID⟩
      let roleIDs := inScopeRoleIDs ⟨scopeType, scopeID⟩ ancestors assignments
      if roleIDs.length = 0 then false
      else fault.entries.hasNext ((denyRows db roleIDs capability).take 1)

variable (out : List Scope)

@[simp] theorem mem_push (type id : String) (scope : Scope) :
    scope ∈ push out type id ↔ scope ∈ out ∨ id ≠ "" ∧ scope = ⟨type, id⟩ := by
  unfold push
  split
  · rename_i named
    simp [named]
  · rename_i unnamed
    simp [unnamed]

@[simp] theorem mem_dedupeScopes (scopes : List Scope) (scope : Scope) :
    scope ∈ dedupeScopes scopes ↔ scope ∈ scopes := by
  simp [dedupeScopes, mem_collectKeys]

@[simp] theorem mem_closeAncestors (scope : Scope) :
    scope ∈ closeAncestors out ↔ scope ∈ out ∨ scope = ⟨scopePlatform, ""⟩ := by
  simp [closeAncestors]

def OrgScope (orgID : Option String) (scope : Scope) : Prop :=
  ∃ id, orgID = some id ∧ id ≠ "" ∧ scope = ⟨scopeOrg, id⟩

theorem OrgScope.of_readRow {fault : Bool} {orgID : Option String} {scope : Scope}
    (read : OrgScope (readRow fault orgID) scope) : OrgScope orgID scope := by
  obtain ⟨id, found, named, same⟩ := read
  exact ⟨id, readRow_eq_some _ _ id found, named, same⟩

variable (db : Db) (fault : AncestorFault)

@[simp] theorem mem_pushGroup (gid : String) (scope : Scope) :
    scope ∈ pushGroup db fault out gid ↔ scope ∈ out ∨ (gid ≠ "" ∧ scope = ⟨scopeTeam, gid⟩ ∨
      OrgScope (readRow (fault.groupOrg gid) (groupOrgID db gid)) scope) := by
  unfold pushGroup OrgScope
  cases readRow (fault.groupOrg gid) (groupOrgID db gid) with
  | none => simp
  | some orgID => simp [or_assoc]

theorem mem_pushGroups (gids : List String) (out : List Scope) (scope : Scope) :
    scope ∈ gids.foldl (pushGroup db fault) out ↔ scope ∈ out ∨ ∃ gid ∈ gids,
      (gid ≠ "" ∧ scope = ⟨scopeTeam, gid⟩ ∨
        OrgScope (readRow (fault.groupOrg gid) (groupOrgID db gid)) scope) := by
  induction gids generalizing out with
  | nil => simp
  | cons head tail recurse =>
    rw [List.foldl_cons, recurse, mem_pushGroup, or_assoc]
    simp only [List.mem_cons, exists_eq_or_imp]

variable (projectID : String)

theorem mem_projectAncestors (scope : Scope) :
    scope ∈ projectAncestors db fault projectID ↔
      (∃ gid ∈ fault.groups.delivered (projectGroupIDs db projectID),
        (gid ≠ "" ∧ scope = ⟨scopeTeam, gid⟩ ∨
          OrgScope (readRow (fault.groupOrg gid) (groupOrgID db gid)) scope)) ∨
      OrgScope (readRow fault.projectOrg ((db.projects.find projectID).bind ProjectOrg.orgID))
        scope := by
  unfold projectAncestors
  have groups := mem_pushGroups db fault (fault.groups.delivered (projectGroupIDs db projectID))
    [] scope
  simp only [List.not_mem_nil, false_or] at groups
  rw [← groups]
  cases read : readRow fault.projectOrg ((db.projects.find projectID).bind ProjectOrg.orgID) with
  | none => simp [OrgScope]
  | some orgID =>
    by_cases unnamed : orgID = ""
    · simp [OrgScope, unnamed]
    · simp [OrgScope, unnamed]

theorem mem_teamAncestors (teamID : String) (scope : Scope) :
    scope ∈ teamAncestors db fault teamID ↔
      OrgScope (readRow (fault.groupOrg teamID) (groupOrgID db teamID)) scope ∨
      OrgScope (readRow fault.teamOrg ((db.teams.find teamID).bind Team.organizationID))
        scope := by
  unfold teamAncestors OrgScope
  cases readRow (fault.groupOrg teamID) (groupOrgID db teamID) <;>
    cases readRow fault.teamOrg ((db.teams.find teamID).bind Team.organizationID) <;> simp

theorem mem_environmentAncestors (environmentID : String) (scope : Scope) :
    scope ∈ environmentAncestors db fault environmentID ↔
      ∃ projectID, readRow fault.environment
          ((db.environments.find environmentID).map EnvironmentProject.projectID) =
          some projectID ∧
        (projectID ≠ "" ∧ scope = ⟨scopeProject, projectID⟩ ∨
          scope ∈ projectAncestors db fault projectID ∨ scope = ⟨scopePlatform, ""⟩) := by
  unfold environmentAncestors
  cases readRow fault.environment
      ((db.environments.find environmentID).map EnvironmentProject.projectID) with
  | none | some => simp

theorem mem_scopeAncestors_project (scope : Scope) :
    scope ∈ scopeAncestors db fault ⟨scopeProject, projectID⟩ ↔
      scope ∈ projectAncestors db fault projectID ∨ scope = ⟨scopePlatform, ""⟩ := by
  have branch : ¬scopeProject = scopeEnvironment := by decide
  simp only [scopeAncestors, mem_closeAncestors, if_neg branch, if_true]

theorem projectAncestors_subset :
    projectAncestors db fault projectID ⊆ projectAncestors db .clean projectID := by
  intro scope member
  rw [mem_projectAncestors] at member ⊢
  simp only [AncestorFault.clean, RowsFault.delivered_clean, readRow_clean]
  rcases member with ⟨gid, delivered, reached⟩ | org
  · refine Or.inl ⟨gid, RowsFault.delivered_subset _ _ delivered, ?_⟩
    exact reached.imp_right OrgScope.of_readRow
  · exact Or.inr org.of_readRow

theorem scopeAncestors_subset (scope : Scope) :
    scopeAncestors db fault scope ⊆ scopeAncestors db .clean scope := by
  intro ancestor member
  simp only [scopeAncestors, mem_closeAncestors] at member ⊢
  refine member.imp_left ?_
  split
  · intro inherited
    rw [mem_environmentAncestors] at inherited ⊢
    obtain ⟨projectID, read, reached⟩ := inherited
    refine ⟨projectID, readRow_eq_some _ _ _ read, ?_⟩
    exact reached.imp_right (Or.imp_left (fun above => projectAncestors_subset _ _ _ above))
  · split
    · exact fun above => projectAncestors_subset _ _ _ above
    · split
      · intro inherited
        rw [mem_teamAncestors] at inherited ⊢
        exact inherited.imp OrgScope.of_readRow OrgScope.of_readRow
      · exact id

theorem platform_mem_scopeAncestors (scope : Scope) :
    (⟨scopePlatform, ""⟩ : Scope) ∈ scopeAncestors db fault scope := by
  simp [scopeAncestors]

/-- A mapping whose effect satisfies `p` reaches the principal at the scope or an ancestor. -/
def ScopedEntry (db : Db) (principalType principalID permission : String) (scope : Scope)
    (p : String → Prop) : Prop :=
  ∃ assignment ∈ db.roleAssignments.rows,
    assignment.principalType = principalType ∧ assignment.principalID = principalID ∧
    (assignment.scope = scope ∨ assignment.scope ∈ scopeAncestors db .clean scope) ∧
    ∃ entry ∈ db.rolePermissions.rows,
      entry.roleID = assignment.roleID ∧ entry.permissionID = permission ∧ p entry.effect

def ScopedAllow (db : Db) (principalType principalID permission : String) (scope : Scope) :
    Prop :=
  ScopedEntry db principalType principalID permission scope (· ≠ effectDeny)

def ScopedDenied (db : Db) (principalType principalID permission : String) (scope : Scope) :
    Prop :=
  ScopedEntry db principalType principalID permission scope (· = effectDeny)

instance (db : Db) (principalType principalID permission : String) (scope : Scope)
    (p : String → Prop) [DecidablePred p] :
    Decidable (ScopedEntry db principalType principalID permission scope p) :=
  inferInstanceAs (Decidable (∃ assignment ∈ db.roleAssignments.rows,
    assignment.principalType = principalType ∧ assignment.principalID = principalID ∧
    (assignment.scope = scope ∨ assignment.scope ∈ scopeAncestors db .clean scope) ∧
    ∃ entry ∈ db.rolePermissions.rows,
      entry.roleID = assignment.roleID ∧ entry.permissionID = permission ∧ p entry.effect))

instance (db : Db) (principalType principalID permission : String) (scope : Scope) :
    Decidable (ScopedAllow db principalType principalID permission scope) :=
  inferInstanceAs (Decidable (ScopedEntry _ _ _ _ _ _))

instance (db : Db) (principalType principalID permission : String) (scope : Scope) :
    Decidable (ScopedDenied db principalType principalID permission scope) :=
  inferInstanceAs (Decidable (ScopedEntry _ _ _ _ _ _))

variable (principalType principalID : String)

@[simp] theorem mem_principalAssignments (assignment : Assignment) :
    assignment ∈ principalAssignments db principalType principalID ↔
      assignment ∈ db.roleAssignments.rows ∧ assignment.principalType = principalType ∧
        assignment.principalID = principalID := by
  simp [principalAssignments]

@[simp] theorem mem_roleEntries (cap : RoleCapability) :
    cap ∈ roleEntries db roleIDs ↔ ∃ entry ∈ db.rolePermissions.rows,
      entry.roleID ∈ roleIDs ∧ cap = ⟨entry.permissionID, entry.effect⟩ := by
  simp only [roleEntries, List.mem_map, List.mem_filter, decide_eq_true_eq, and_assoc,
    @eq_comm _ cap]

def entriesOf (db : Db) (role : String) : Set RoleCapability :=
  {cap | ∃ entry ∈ db.rolePermissions.rows,
    entry.roleID = role ∧ cap = ⟨entry.permissionID, entry.effect⟩}

theorem scopedEntry_iff (scope : Scope) (p : String → Prop) :
    ScopedEntry db principalType principalID permission scope p ↔
      ∃ assignment ∈ principalAssignments db principalType principalID,
        (assignment.scope = scope ∨ assignment.scope ∈ scopeAncestors db .clean scope) ∧
        ∃ cap ∈ entriesOf db assignment.roleID, cap.capability = permission ∧ p cap.effect := by
  constructor
  · rintro ⟨assignment, stored, typed, identified, inside, entry, mapped, role, named, holds⟩
    refine ⟨assignment, ?_, inside, ⟨entry.permissionID, entry.effect⟩, ?_, named, holds⟩
    · exact (mem_principalAssignments _ _ _ _).mpr ⟨stored, typed, identified⟩
    · exact ⟨entry, mapped, role, rfl⟩
  · rintro ⟨assignment, listed, inside, cap, ⟨entry, mapped, role, rfl⟩, named, holds⟩
    obtain ⟨stored, typed, identified⟩ := (mem_principalAssignments _ _ _ _).mp listed
    exact ⟨assignment, stored, typed, identified, inside, entry, mapped, role, named, holds⟩

theorem resolver_clean_answers (scope : Scope) :
    (resolver db .clean).Answers principalType principalID scope
      (principalAssignments db principalType principalID) (scopeAncestors db .clean scope)
      (entriesOf db) := by
  refine ⟨RowsFault.collect_clean _, rfl, ?_⟩
  intro roles
  cases roles with
  | nil => exact ⟨[], rfl, by simp⟩
  | cons head tail =>
    refine ⟨roleEntries db (head :: tail), RowsFault.collect_clean _, ?_⟩
    intro cap
    rw [mem_roleEntries]
    constructor
    · rintro ⟨entry, mapped, listed, rfl⟩
      exact ⟨entry.roleID, listed, entry, mapped, rfl, rfl⟩
    · rintro ⟨role, listed, entry, mapped, rfl, rfl⟩
      exact ⟨entry, mapped, listed, rfl⟩

variable (order : MapOrder String)

theorem hasCapability_clean (principalType principalID capability scopeType scopeID : String) :
    hasCapability db order .clean principalType principalID capability scopeType scopeID = true ↔
      (principalType ≠ "" ∧ principalID ≠ "" ∧ capability ≠ "") ∧
      ScopedAllow db principalType principalID capability ⟨scopeType, scopeID⟩ ∧
      ¬ScopedDenied db principalType principalID capability ⟨scopeType, scopeID⟩ := by
  by_cases named : principalType ≠ "" ∧ principalID ≠ "" ∧ capability ≠ ""
  · obtain ⟨answer, returned, meaning⟩ := hasCapability_answers order
      (resolver_clean_answers db principalType principalID ⟨scopeType, scopeID⟩)
      named.1 named.2.1 named.2.2
    rw [grants_iff] at meaning
    have asked : hasCapability db order .clean principalType principalID capability scopeType
        scopeID = answer := by
      simp only [hasCapability, returned]
    rw [asked, meaning]
    simp only [named, ScopedAllow, ScopedDenied, scopedEntry_iff, Set.mem_ofPred_eq, ne_eq,
      not_false_eq_true, and_self, true_and]
  · have refused : principalType = "" ∨ principalID = "" ∨ capability = "" := by
      by_contra accepted
      push Not at accepted
      exact named accepted
    simp [hasCapability, Rbac.hasCapability, refused, named]

variable {capability scopeType scopeID : String}

theorem hasCapability_allow {db : Db} {order : MapOrder String} {fault : ResolverFault}
    {principalType principalID : String}
    (granted : hasCapability db order fault principalType principalID capability scopeType
      scopeID = true) :
    principalID ≠ "" ∧ capability ≠ "" ∧
      ScopedAllow db principalType principalID capability ⟨scopeType, scopeID⟩ := by
  unfold hasCapability at granted
  split at granted
  · rename_i answer returned
    rw [granted] at returned
    obtain ⟨identified, named, assignments, ancestors, caps, assigned, inherited, read, cap, listed,
      code, allow⟩ := hasCapability_true returned
    refine ⟨identified, named, ?_⟩
    have above : ancestors = scopeAncestors db fault.ancestors ⟨scopeType, scopeID⟩ :=
      (Except.ok.inj inherited).symm
    have entry : cap ∈ roleEntries db
        (order.visit (matching ⟨scopeType, scopeID⟩ ancestors assignments)) := by
      simp only [resolver] at read
      split at read
      · obtain rfl := Except.ok.inj read
        contradiction
      · exact RowsFault.collect_subset _ _ _ read listed
    rw [mem_roleEntries] at entry
    obtain ⟨row, mapped, role, rfl⟩ := entry
    rw [MapOrder.mem_visit, mem_matching] at role
    obtain ⟨assignment, given, inside, same⟩ := role
    have stored := RowsFault.collect_subset _ _ _ assigned given
    rw [mem_principalAssignments] at stored
    refine ⟨assignment, stored.1, stored.2.1, stored.2.2, ?_, row, mapped, same, code, allow⟩
    refine inside.imp_right ?_
    intro member
    rw [above] at member
    exact scopeAncestors_subset _ _ _ member
  · contradiction

theorem hasCapability_realizes {principalType principalID : String}
    (typed : principalType ≠ "") (identified : principalID ≠ "") (named : capability ≠ "")
    (allowed : ScopedAllow db principalType principalID capability ⟨scopeType, scopeID⟩) :
    ∃ fault, hasCapability db order fault principalType principalID capability scopeType
      scopeID = true := by
  let roles := order.visit (matching ⟨scopeType, scopeID⟩
    (scopeAncestors db .clean ⟨scopeType, scopeID⟩)
    (principalAssignments db principalType principalID))
  obtain ⟨lossy, returned⟩ := RowsFault.collect_realizes
    (fun cap : RoleCapability => decide (cap.effect ≠ effectDeny)) (roleEntries db roles)
  obtain ⟨assignment, stored, typeOf, idOf, inside, entry, mapped, role, code, allow⟩ := allowed
  have given : assignment ∈ principalAssignments db principalType principalID :=
    (mem_principalAssignments _ _ _ _).mpr ⟨stored, typeOf, idOf⟩
  have member : assignment.roleID ∈ matching ⟨scopeType, scopeID⟩
      (scopeAncestors db .clean ⟨scopeType, scopeID⟩)
      (principalAssignments db principalType principalID) :=
    (mem_matching _ _ _ _).mpr ⟨assignment, given, inside, rfl⟩
  have visited : assignment.roleID ∈ roles := (order.mem_visit _ _).mpr member
  refine ⟨⟨.clean, lossy, .clean⟩, ?_⟩
  have answered := hasCapability_eq_verdict _ (r := resolver db ⟨.clean, lossy, .clean⟩)
    typed identified named (RowsFault.collect_clean _) rfl (List.ne_nil_of_mem member)
    (by
      simp only [resolver]
      rw [if_neg (fun empty => List.ne_nil_of_mem visited (List.length_eq_zero_iff.mp empty))]
      exact returned)
  simp only [hasCapability, answered]
  apply (Flags.verdict_scan _ _ _).mpr
  refine ⟨⟨⟨entry.permissionID, entry.effect⟩, ⟨?_, by simpa using code⟩, by simpa using allow⟩, ?_⟩
  · apply List.mem_filter.mpr
    refine ⟨(mem_roleEntries _ _ _).mpr ⟨entry, mapped, ?_, rfl⟩, by simpa using allow⟩
    rw [role]
    exact visited
  · rintro ⟨cap, ⟨listed, _⟩, denies⟩
    have spared := (List.mem_filter.mp listed).2
    simp at spared denies
    exact spared denies

def ResolverFault.failed : ResolverFault := ⟨.failed "connection refused", .clean, .clean⟩

@[simp] theorem hasCapability_failed
    (principalType principalID capability scopeType scopeID : String) :
    hasCapability db order .failed principalType principalID capability scopeType scopeID =
      false := by
  have unread : (resolver db .failed).assignmentsForPrincipal principalType principalID =
      .error "connection refused" := rfl
  by_cases refused : principalType = "" ∨ principalID = "" ∨ capability = ""
  · simp [hasCapability, Rbac.hasCapability, refused]
  · simp [hasCapability, Rbac.hasCapability, refused, unread]

@[simp] theorem mem_inScopeRoleIDs (scope : Scope) (ancestors : List Scope)
    (assignments : List Assignment) (role : String) :
    role ∈ inScopeRoleIDs scope ancestors assignments ↔ ∃ assignment ∈ assignments,
      (assignment.scope = scope ∨ assignment.scope ∈ ancestors) ∧ assignment.roleID = role := by
  simp [inScopeRoleIDs, and_assoc]

@[simp] theorem mem_denyRows (entry : RolePermission) :
    entry ∈ denyRows db roleIDs permission ↔ entry ∈ db.rolePermissions.rows ∧
      entry.roleID ∈ roleIDs ∧ entry.permissionID = permission ∧ entry.effect = effectDeny := by
  simp [denyRows, and_assoc]

theorem scopedDeny_denied {db : Db} {fault : DenyFault} {principalType principalID : String}
    (denied : scopedDeny db fault principalType principalID capability scopeType scopeID = true) :
    ScopedDenied db principalType principalID capability ⟨scopeType, scopeID⟩ := by
  unfold scopedDeny at denied
  split at denied
  · contradiction
  · rename_i assignments assigned
    split at denied
    · contradiction
    · simp only at denied
      split at denied
      · contradiction
      · obtain ⟨entry, first⟩ := RowsFault.exists_of_hasNext _ _ denied
        have row := List.mem_of_mem_take first
        rw [mem_denyRows, mem_inScopeRoleIDs] at row
        obtain ⟨mapped, ⟨assignment, given, inside, same⟩, code, deny⟩ := row
        have stored := RowsFault.collect_subset _ _ _ assigned given
        rw [mem_principalAssignments] at stored
        refine ⟨assignment, stored.1, stored.2.1, stored.2.2, ?_, entry, mapped, same.symm, code,
          deny⟩
        exact inside.imp_right (fun above => scopeAncestors_subset _ _ _ above)

theorem scopedDeny_clean (capability scopeType scopeID : String) :
    scopedDeny db .clean principalType principalID capability scopeType scopeID = true ↔
      ScopedDenied db principalType principalID capability ⟨scopeType, scopeID⟩ := by
  constructor
  · exact scopedDeny_denied
  · rintro ⟨assignment, stored, typed, identified, inside, entry, mapped, role, code, deny⟩
    let scope : Scope := ⟨scopeType, scopeID⟩
    let assignments := principalAssignments db principalType principalID
    let roleIDs := inScopeRoleIDs scope (scopeAncestors db .clean scope) assignments
    have given : assignment ∈ assignments :=
      (mem_principalAssignments _ _ _ _).mpr ⟨stored, typed, identified⟩
    have listed : assignment.roleID ∈ roleIDs :=
      (mem_inScopeRoleIDs _ _ _ _).mpr ⟨assignment, given, inside, rfl⟩
    have row : entry ∈ denyRows db roleIDs capability := by
      rw [mem_denyRows, role]
      exact ⟨mapped, listed, code, deny⟩
    have occupied : ¬assignments.length = 0 :=
      fun empty => List.ne_nil_of_mem given (List.length_eq_zero_iff.mp empty)
    have matched : ¬roleIDs.length = 0 :=
      fun empty => List.ne_nil_of_mem listed (List.length_eq_zero_iff.mp empty)
    have collected : DenyFault.clean.assignments.collect assignments = .ok assignments :=
      RowsFault.collect_clean assignments
    have reached : scopedDeny db .clean principalType principalID capability scopeType scopeID =
        RowsFault.clean.hasNext ((denyRows db roleIDs capability).take 1) := by
      unfold scopedDeny
      rw [collected]
      simp only
      rw [if_neg occupied]
      exact if_neg matched
    rw [reached, RowsFault.hasNext_clean]
    cases rows : denyRows db roleIDs capability with
    | nil =>
      rw [rows] at row
      contradiction
    | cons head tail => exact ⟨head, by simp⟩

def DenyFault.failed : DenyFault := ⟨.failed "connection refused", .clean, .clean⟩

@[simp] theorem scopedDeny_failed (capability scopeType scopeID : String) :
    scopedDeny db .failed principalType principalID capability scopeType scopeID = false := rfl

section

variable {db : Db} {scope ancestor above : Scope} {out : List Scope}

theorem closeAncestors_addKey (out : List Scope) :
    closeAncestors out = addKey (dedupeScopes out) ⟨scopePlatform, ""⟩ := by
  simp [closeAncestors, dedupeScopes, collectKeys]

theorem OrgScope.type {orgID : Option String} (org : OrgScope orgID scope) :
    scope.type = scopeOrg := by
  obtain ⟨_, -, -, rfl⟩ := org
  rfl

theorem getLast_closeAncestors (absent : (⟨scopePlatform, ""⟩ : Scope) ∉ out) :
    (closeAncestors out).getLast? = some ⟨scopePlatform, ""⟩ := by
  rw [closeAncestors_addKey, addKey, if_neg ((mem_dedupeScopes _ _).not.mpr absent),
    List.getLast?_concat]

theorem getLast_scopeAncestors (db : Db) (fault : AncestorFault) (scope : Scope) :
    (scopeAncestors db fault scope).getLast? = some ⟨scopePlatform, ""⟩ := by
  have project : ∀ projectID,
      (⟨scopePlatform, ""⟩ : Scope) ∉ projectAncestors db fault projectID := by
    simp [mem_projectAncestors, OrgScope, scopePlatform, scopeTeam, scopeOrg]
  have team : ∀ teamID, (⟨scopePlatform, ""⟩ : Scope) ∉ teamAncestors db fault teamID := by
    simp [mem_teamAncestors, OrgScope, scopePlatform, scopeOrg]
  unfold scopeAncestors
  split
  · unfold environmentAncestors
    split
    · next projectID _ =>
      -- The ancestors of the project end with the platform already.
      have closed : closeAncestors (projectAncestors db fault projectID) =
          dedupeScopes (projectAncestors db fault projectID) ++ [⟨scopePlatform, ""⟩] := by
        rw [closeAncestors_addKey]
        exact if_neg ((mem_dedupeScopes _ _).not.mpr (project projectID))
      have twice : ∀ out, closeAncestors (out ++ [⟨scopePlatform, ""⟩]) = closeAncestors out := by
        intro out
        rw [closeAncestors_addKey]
        exact if_pos ((mem_closeAncestors ..).mpr (Or.inr rfl))
      rw [closed, ← List.append_assoc, twice]
      refine getLast_closeAncestors ?_
      simpa [scopePlatform, scopeProject] using project projectID
    · exact getLast_closeAncestors List.not_mem_nil
  · split
    · exact getLast_closeAncestors (project _)
    · split
      · exact getLast_closeAncestors (team _)
      · exact getLast_closeAncestors List.not_mem_nil

/-- A team that only the groups know has the org of its group above it. -/
theorem mem_scopeAncestors_team (teamless : db.teams.rows = []) {teamID : String} :
    scope ∈ scopeAncestors db .clean ⟨scopeTeam, teamID⟩ ↔
      OrgScope (groupOrgID db teamID) scope ∨ scope = ⟨scopePlatform, ""⟩ := by
  have teams : db.teams.find teamID = none := by simp [Table.find, teamless]
  have branches : ¬scopeTeam = scopeEnvironment ∧ ¬scopeTeam = scopeProject := by decide
  simp only [scopeAncestors, mem_closeAncestors, if_neg branches.1, if_neg branches.2, if_true,
    mem_teamAncestors, AncestorFault.clean, readRow_clean, teams]
  simp [OrgScope]

theorem eq_platform (top : ancestor.type = scopeOrg ∨ ancestor.type = scopePlatform)
    (member : above ∈ scopeAncestors db .clean ancestor) : above = ⟨scopePlatform, ""⟩ := by
  have others : ancestor.type ≠ scopeEnvironment ∧ ancestor.type ≠ scopeProject ∧
      ancestor.type ≠ scopeTeam := by
    rcases top with same | same <;> rw [same] <;> decide
  simpa [scopeAncestors, others] using member

theorem projectAncestors_trans (teamless : db.teams.rows = []) {projectID : String}
    (first : ancestor ∈ scopeAncestors db .clean ⟨scopeProject, projectID⟩)
    (second : above ∈ scopeAncestors db .clean ancestor) :
    above ∈ scopeAncestors db .clean ⟨scopeProject, projectID⟩ := by
  have top : above = ⟨scopePlatform, ""⟩ →
      above ∈ scopeAncestors db .clean ⟨scopeProject, projectID⟩ :=
    fun same => same ▸ platform_mem_scopeAncestors ..
  rw [mem_scopeAncestors_project, mem_projectAncestors] at first
  rcases first with (⟨gid, listed, ⟨_, rfl⟩ | org⟩ | org) | rfl
  · rcases (mem_scopeAncestors_team teamless).mp second with org | same
    · rw [mem_scopeAncestors_project, mem_projectAncestors]
      exact Or.inl (Or.inl ⟨gid, listed, Or.inr org⟩)
    · exact top same
  · exact top (eq_platform (Or.inl org.type) second)
  · exact top (eq_platform (Or.inl org.type) second)
  · exact top (eq_platform (Or.inr rfl) second)

theorem scopeAncestors_trans (teamless : db.teams.rows = [])
    (first : ancestor ∈ scopeAncestors db .clean scope)
    (second : above ∈ scopeAncestors db .clean ancestor) :
    above ∈ scopeAncestors db .clean scope := by
  obtain ⟨type, id⟩ := scope
  have top : above = ⟨scopePlatform, ""⟩ → above ∈ scopeAncestors db .clean ⟨type, id⟩ :=
    fun same => same ▸ platform_mem_scopeAncestors ..
  by_cases environment : type = scopeEnvironment
  · subst environment
    have members : ∀ other, other ∈ scopeAncestors db .clean ⟨scopeEnvironment, id⟩ ↔
        other ∈ environmentAncestors db .clean id ∨ other = ⟨scopePlatform, ""⟩ := by
      simp [scopeAncestors]
    rw [members, mem_environmentAncestors] at first ⊢
    rcases first with ⟨projectID, read, reached⟩ | rfl
    · have inside : above ∈ scopeAncestors db .clean ⟨scopeProject, projectID⟩ := by
        rcases reached with ⟨_, rfl⟩ | inherited
        · exact second
        · exact projectAncestors_trans teamless
            ((mem_scopeAncestors_project ..).mpr inherited) second
      exact Or.inl ⟨projectID, read, Or.inr ((mem_scopeAncestors_project ..).mp inside)⟩
    · exact Or.inr (eq_platform (Or.inr rfl) second)
  · by_cases project : type = scopeProject
    · exact project ▸ projectAncestors_trans teamless (project ▸ first) second
    · by_cases team : type = scopeTeam
      · rw [team, mem_scopeAncestors_team teamless] at first
        rcases first with org | rfl
        · exact top (eq_platform (Or.inl org.type) second)
        · exact top (eq_platform (Or.inr rfl) second)
      · have same : ancestor = ⟨scopePlatform, ""⟩ := by
          simpa [scopeAncestors, environment, project, team] using first
        exact top (eq_platform (Or.inr (congrArg Scope.type same)) second)

end

end Porter.Store
