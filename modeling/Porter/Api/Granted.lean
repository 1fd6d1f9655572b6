import Porter.Store.Permissions
import Porter.Store.Scoped

/-!
# The authorisation decision

`granted`: a scoped allow at the request's scope wins, a scoped deny defeats the checks by
membership, and those checks decide the rest.
-/
namespace Porter.Api

open Store Rbac Go Sql

structure Request where
  projectID : String
  orgHeader : String

structure Principal where
  username : String

structure CheckRun where
  order : MapOrder String
  capability : ResolverFault
  deny : DenyFault

def CheckRun.clean (order : MapOrder String) : CheckRun := ⟨order, .clean, .clean⟩

/-- The scoped checks of one decision: those of the org header and those every request reaches. -/
structure GrantedRun where
  header : CheckRun
  request : CheckRun

def GrantedRun.clean (header request : MapOrder String) : GrantedRun :=
  ⟨.clean header, .clean request⟩

variable (db : Db) (r : Request)

def orgIDFromHeader : String :=
  if r.orgHeader ≠ "" then r.orgHeader
  else
    match listOrgs db with
    | org :: _ => org.id
    | [] => ""

def requestScope : Scope :=
  if r.projectID ≠ "" then ⟨scopeProject, r.projectID⟩
  else if r.orgHeader ≠ "" then ⟨scopeOrg, r.orgHeader⟩
  else ⟨scopePlatform, ""⟩

def scopedChecks (run : CheckRun) (username perm : String) (scope : Scope) : Option Bool :=
  if hasCapability db run.order run.capability "user" username perm scope.type scope.id then
    some true
  else if scopedDeny db run.deny "user" username perm scope.type scope.id then some false
  else none

variable (p : Principal)

def headerChecks (run : CheckRun) (r : Request) (p : Principal) (perm : String) : Option Bool :=
  if r.projectID ≠ "" then none
  else if r.orgHeader ≠ "" then
    match scopedChecks db run p.username perm ⟨scopeOrg, r.orgHeader⟩ with
    | some answer => some answer
    | none =>
      if orgRoleForUser db r.orgHeader p.username ≠ "" then
        some (hasOrgPermission db r.orgHeader p.username perm)
      else none
  else none

def granted (run : GrantedRun) (r : Request) (p : Principal) (perm : String) : Bool :=
  match headerChecks db run.header r p perm with
  | some answer => answer
  | none =>
    match scopedChecks db run.request p.username perm (requestScope r) with
    | some answer => answer
    | none =>
      if (requestScope r).type = scopeProject then
        hasProjectPermission db (requestScope r).id p.username perm
      else hasPermissionAnywhere db p.username perm

def membershipGrants (perm : String) : Bool :=
  if r.projectID ≠ "" then hasProjectPermission db r.projectID p.username perm
  else if r.orgHeader ≠ "" ∧ orgRoleForUser db r.orgHeader p.username ≠ "" then
    hasOrgPermission db r.orgHeader p.username perm
  else hasPermissionAnywhere db p.username perm

theorem granted_eq (run : GrantedRun) (r : Request) (p : Principal) (perm : String) :
    granted db run r p perm =
      if r.projectID = "" ∧ r.orgHeader ≠ "" then
        match scopedChecks db run.header p.username perm (requestScope r) with
        | some answer => answer
        | none =>
          if orgRoleForUser db r.orgHeader p.username ≠ "" then membershipGrants db r p perm
          else
            (scopedChecks db run.request p.username perm (requestScope r)).getD
              (membershipGrants db r p perm)
      else
        (scopedChecks db run.request p.username perm (requestScope r)).getD
          (membershipGrants db r p perm) := by
  by_cases project : r.projectID = ""
  · by_cases header : r.orgHeader = ""
    · simp only [granted, headerChecks, requestScope, membershipGrants, project, header, ne_eq,
        not_true_eq_false, if_false, and_false, false_and]
      cases scopedChecks db run.request p.username perm ⟨scopePlatform, ""⟩ with
      | none | some => rfl
    · simp only [granted, headerChecks, requestScope, membershipGrants, project, header, ne_eq,
        not_true_eq_false, if_false, not_false_eq_true, if_true, true_and, and_true]
      cases scopedChecks db run.header p.username perm ⟨scopeOrg, r.orgHeader⟩ with
      | some answer => rfl
      | none =>
        by_cases member : orgRoleForUser db r.orgHeader p.username = ""
        · simp only [member, not_true_eq_false, if_false]
          cases scopedChecks db run.request p.username perm ⟨scopeOrg, r.orgHeader⟩ with
          | none | some => rfl
        · simp only [member, not_false_eq_true, if_true]
  · simp only [granted, headerChecks, requestScope, membershipGrants, project, ne_eq,
      not_false_eq_true, if_true, false_and, if_false]
    cases scopedChecks db run.request p.username perm ⟨scopeProject, r.projectID⟩ with
    | none | some => rfl

def RequestAllowed (perm : String) : Prop :=
  (p.username ≠ "" ∧ perm ≠ "") ∧ ScopedAllow db "user" p.username perm (requestScope r)

def RequestDenied (perm : String) : Prop :=
  ScopedDenied db "user" p.username perm (requestScope r)

instance (db : Db) (r : Request) (p : Principal) (perm : String) :
    Decidable (RequestAllowed db r p perm) :=
  inferInstanceAs (Decidable ((p.username ≠ "" ∧ perm ≠ "") ∧
    ScopedAllow db "user" p.username perm (requestScope r)))

instance (db : Db) (r : Request) (p : Principal) (perm : String) :
    Decidable (RequestDenied db r p perm) :=
  inferInstanceAs (Decidable (ScopedDenied db "user" p.username perm (requestScope r)))

theorem scopedChecks_allow {db : Db} {run : CheckRun} {r : Request} {p : Principal} {perm : String}
    (yes : scopedChecks db run p.username perm (requestScope r) = some true) :
    RequestAllowed db r p perm := by
  unfold scopedChecks at yes
  split at yes
  · rename_i capable
    obtain ⟨identified, named, allowed⟩ := hasCapability_allow capable
    exact ⟨⟨identified, named⟩, allowed⟩
  · split at yes
    · simp at yes
    · contradiction

theorem scopedChecks_clean (order : MapOrder String) (r : Request) (p : Principal) (perm : String) :
    scopedChecks db (.clean order) p.username perm (requestScope r) =
      if RequestDenied db r p perm then some false
      else if RequestAllowed db r p perm then some true else none := by
  have capable := hasCapability_clean db order "user" p.username perm (requestScope r).type
    (requestScope r).id
  have denies := scopedDeny_clean db "user" p.username perm (requestScope r).type
    (requestScope r).id
  unfold scopedChecks CheckRun.clean
  by_cases denied : RequestDenied db r p perm
  · have refused : hasCapability db order .clean "user" p.username perm (requestScope r).type
        (requestScope r).id = false := by
      apply Bool.eq_false_iff.mpr
      intro granted
      exact (capable.mp granted).2.2 denied
    rw [if_pos denied, refused, denies.mpr denied]
    rfl
  · have silent : scopedDeny db .clean "user" p.username perm (requestScope r).type
        (requestScope r).id = false := by
      apply Bool.eq_false_iff.mpr
      intro reported
      exact denied (denies.mp reported)
    rw [if_neg denied, silent]
    by_cases allowed : RequestAllowed db r p perm
    · have granted : hasCapability db order .clean "user" p.username perm (requestScope r).type
          (requestScope r).id = true :=
        capable.mpr ⟨⟨by decide, allowed.1⟩, allowed.2, denied⟩
      rw [if_pos allowed, granted]
      rfl
    · have refused : hasCapability db order .clean "user" p.username perm (requestScope r).type
          (requestScope r).id = false := by
        apply Bool.eq_false_iff.mpr
        intro granted
        obtain ⟨⟨_, named⟩, found, _⟩ := capable.mp granted
        exact allowed ⟨named, found⟩
      rw [if_neg allowed, refused]
      rfl

theorem granted_clean (header request : MapOrder String) (r : Request) (p : Principal)
    (perm : String) :
    granted db (.clean header request) r p perm = true ↔
      ¬RequestDenied db r p perm ∧
        (RequestAllowed db r p perm ∨ membershipGrants db r p perm = true) := by
  have first := scopedChecks_clean db header r p perm
  have second := scopedChecks_clean db request r p perm
  rw [granted_eq]
  simp only [GrantedRun.clean, first, second]
  by_cases denied : RequestDenied db r p perm
  · simp [denied]
  · by_cases allowed : RequestAllowed db r p perm
    · simp [denied, allowed]
    · simp only [denied, allowed, if_false, Option.getD_none, ite_self, not_false_eq_true,
        false_or, true_and]

theorem granted_reason {db : Db} {run : GrantedRun} {r : Request} {p : Principal} {perm : String}
    (yes : granted db run r p perm = true) :
    RequestAllowed db r p perm ∨ membershipGrants db r p perm = true := by
  have checked : ∀ check : CheckRun,
      (scopedChecks db check p.username perm (requestScope r)).getD
        (membershipGrants db r p perm) = true →
      RequestAllowed db r p perm ∨ membershipGrants db r p perm = true := by
    intro check answered
    cases decided : scopedChecks db check p.username perm (requestScope r) with
    | none =>
      rw [decided] at answered
      exact Or.inr answered
    | some answer =>
      rw [decided, Option.getD_some] at answered
      rw [answered] at decided
      exact Or.inl (scopedChecks_allow decided)
  rw [granted_eq] at yes
  split at yes
  · cases decided : scopedChecks db run.header p.username perm (requestScope r) with
    | some answer =>
      rw [decided] at yes
      simp only at yes
      rw [yes] at decided
      exact Or.inl (scopedChecks_allow decided)
    | none =>
      rw [decided] at yes
      simp only at yes
      split at yes
      · exact Or.inr yes
      · exact checked run.request yes
  · exact checked run.request yes

theorem granted_realizes {db : Db} {r : Request} {p : Principal} {perm : String}
    (reason : RequestAllowed db r p perm ∨ membershipGrants db r p perm = true) :
    ∃ run, granted db run r p perm = true := by
  rcases reason with ⟨⟨identified, named⟩, allowed⟩ | member
  · obtain ⟨fault, capable⟩ := hasCapability_realizes db .insertion
      (by decide : "user" ≠ "") identified named allowed
    let check : CheckRun := ⟨.insertion, fault, .clean⟩
    have decided : scopedChecks db check p.username perm (requestScope r) = some true :=
      if_pos capable
    refine ⟨⟨check, check⟩, ?_⟩
    rw [granted_eq]
    simp only [decided, Option.getD_some, ite_self]
  · let check : CheckRun := ⟨.insertion, .failed, .failed⟩
    have undecided : scopedChecks db check p.username perm (requestScope r) = none := by
      simp [scopedChecks, check]
    refine ⟨⟨check, check⟩, ?_⟩
    rw [granted_eq]
    simp only [undecided, Option.getD_none, ite_self, member]

end Porter.Api
