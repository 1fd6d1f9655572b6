import Mathlib.Data.Set.Insert
import Porter.Go.MapOrder
import Porter.Policy.DenyOverrides

/-!
# The capability resolution engine

`internal/rbac`: a principal holds a capability at a scope when some role assigned to it there or
above allows the capability and none of those roles denies it.
-/
namespace Porter.Rbac

open Go Policy

def scopePlatform : String := "platform"
def scopeReseller : String := "reseller"
def scopeOrg : String := "org"
def scopeTeam : String := "team"
def scopeProject : String := "project"
def scopeEnvironment : String := "environment"

def effectAllow : String := "allow"
/-- `EffectDeny`; every other text in the effect column allows. -/
def effectDeny : String := "deny"

structure Scope where
  type : String
  id : String
deriving DecidableEq

structure Assignment where
  principalType : String
  principalID : String
  scope : Scope
  roleID : String

structure RoleCapability where
  capability : String
  effect : String

structure Resolver where
  assignmentsForPrincipal : String → String → Except String (List Assignment)
  roleCapabilities : List String → Except String (List RoleCapability)
  scopeAncestors : Scope → Except String (List Scope)

variable (scope : Scope)

def scopeIn (list : List Scope) : Bool :=
  list.any (fun other => other = scope)

@[simp] theorem scopeIn_iff (list : List Scope) : scopeIn scope list = true ↔ scope ∈ list := by
  simp [scopeIn]

variable (ancestors : List Scope)

def inScope (assignment : Assignment) : Bool :=
  assignment.scope = scope || scopeIn assignment.scope ancestors

@[simp] theorem inScope_iff (assignment : Assignment) :
    inScope scope ancestors assignment = true ↔
      assignment.scope = scope ∨ assignment.scope ∈ ancestors := by
  simp [inScope]

def matching (assignments : List Assignment) : List String :=
  collectKeys (inScope scope ancestors) Assignment.roleID assignments []

theorem mem_matching (assignments : List Assignment) (role : String) :
    role ∈ matching scope ancestors assignments ↔
      ∃ assignment ∈ assignments,
        (assignment.scope = scope ∨ assignment.scope ∈ ancestors) ∧ role = assignment.roleID := by
  simp [matching, mem_collectKeys]

def verdict (capability : String) (caps : List RoleCapability) : Bool :=
  (Flags.scan (fun cap => cap.capability = capability) (fun cap => cap.effect = effectDeny) caps
    ⟨false, false⟩).verdict

variable (order : MapOrder String)

def hasCapability (r : Resolver) (principalType principalID capability : String) (scope : Scope) :
    Except String Bool :=
  if principalType = "" ∨ principalID = "" ∨ capability = "" then
    .error "rbac: principal type, principal id and capability are required"
  else
    match r.assignmentsForPrincipal principalType principalID with
    | .error err => .error ("rbac: assignments: " ++ err)
    | .ok assignments =>
      if assignments.length = 0 then .ok false
      else
        match r.scopeAncestors scope with
        | .error err => .error ("rbac: ancestors: " ++ err)
        | .ok ancestors =>
          let roles := matching scope ancestors assignments
          if roles.length = 0 then .ok false
          else
            match r.roleCapabilities (order.visit roles) with
            | .error err => .error ("rbac: role capabilities: " ++ err)
            | .ok caps => .ok (verdict capability caps)

section Meaning

variable (assignments : Set Assignment) (ancestors : Set Scope)
  (entries : String → Set RoleCapability) (capability : String) (scope : Scope)

/-- The entries for a capability that reach a principal at a scope; `entries` gives a role's. -/
def matchingEntries : Set RoleCapability :=
  {cap | cap.capability = capability ∧ ∃ assignment ∈ assignments,
    (assignment.scope = scope ∨ assignment.scope ∈ ancestors) ∧ cap ∈ entries assignment.roleID}

def Grants : Prop :=
  Permits (fun cap => cap.effect = effectDeny)
    (matchingEntries assignments ancestors entries capability scope)

theorem grants_iff :
    Grants assignments ancestors entries capability scope ↔
      (∃ assignment ∈ assignments, (assignment.scope = scope ∨ assignment.scope ∈ ancestors) ∧
        ∃ cap ∈ entries assignment.roleID,
          cap.capability = capability ∧ cap.effect ≠ effectDeny) ∧
      ¬∃ assignment ∈ assignments, (assignment.scope = scope ∨ assignment.scope ∈ ancestors) ∧
        ∃ cap ∈ entries assignment.roleID,
          cap.capability = capability ∧ cap.effect = effectDeny := by
  have reaches : ∀ p : RoleCapability → Prop,
      (∃ cap ∈ matchingEntries assignments ancestors entries capability scope, p cap) ↔
        ∃ assignment ∈ assignments, (assignment.scope = scope ∨ assignment.scope ∈ ancestors) ∧
          ∃ cap ∈ entries assignment.roleID, cap.capability = capability ∧ p cap := by
    intro p
    constructor
    · intro found
      obtain ⟨cap, ⟨named, assignment, granted, inside, entry⟩, holds⟩ := found
      exact ⟨assignment, granted, inside, cap, entry, named, holds⟩
    · intro found
      obtain ⟨assignment, granted, inside, cap, entry, named, holds⟩ := found
      exact ⟨cap, ⟨named, assignment, granted, inside, entry⟩, holds⟩
  unfold Grants Permits
  rw [reaches, reaches]

end Meaning

variable {capability : String}

theorem verdict_iff_grants (capability : String) (scope : Scope) (assignments : List Assignment)
    (ancestors : List Scope) (entries : String → Set RoleCapability) (caps : List RoleCapability)
    (union : ∀ cap, cap ∈ caps ↔
      ∃ role ∈ matching scope ancestors assignments, cap ∈ entries role) :
    verdict capability caps = true ↔
      Grants {assignment | assignment ∈ assignments} {ancestor | ancestor ∈ ancestors} entries
        capability scope := by
  have listed : {cap | cap ∈ caps ∧ decide (cap.capability = capability) = true} =
      matchingEntries {assignment | assignment ∈ assignments}
        {ancestor | ancestor ∈ ancestors} entries capability scope := by
    ext cap
    simp only [matchingEntries, Set.mem_ofPred_eq, decide_eq_true_eq, union, mem_matching]
    constructor
    · rintro ⟨⟨role, ⟨assignment, granted, inside, rfl⟩, entry⟩, named⟩
      exact ⟨named, assignment, granted, inside, entry⟩
    · rintro ⟨named, assignment, granted, inside, entry⟩
      exact ⟨⟨assignment.roleID, ⟨assignment, granted, inside, rfl⟩, entry⟩, named⟩
  unfold verdict Grants
  rw [Flags.verdict_scan, listed]
  simp only [decide_eq_true_eq]

variable {r : Resolver} {principalType principalID : String} {assignments : List Assignment}

section Answered

variable {scope : Scope} {ancestors : List Scope} (typed : principalType ≠ "")
  (identified : principalID ≠ "") (named : capability ≠ "")
  (assigned : r.assignmentsForPrincipal principalType principalID = .ok assignments)
  (inherited : r.scopeAncestors scope = .ok ancestors)

include typed identified named assigned inherited

theorem hasCapability_eq_verdict {caps : List RoleCapability}
    (matched : matching scope ancestors assignments ≠ [])
    (returned :
      r.roleCapabilities (order.visit (matching scope ancestors assignments)) = .ok caps) :
    hasCapability order r principalType principalID capability scope =
      .ok (verdict capability caps) := by
  have accepted : ¬(principalType = "" ∨ principalID = "" ∨ capability = "") := by
    simp [typed, identified, named]
  have occupied : ¬assignments.length = 0 := by
    intro none
    rw [List.length_eq_zero_iff.mp none] at matched
    exact matched rfl
  have matchedLength : ¬(matching scope ancestors assignments).length = 0 :=
    fun none => matched (List.length_eq_zero_iff.mp none)
  simp only [hasCapability, if_neg accepted, assigned, if_neg occupied, inherited,
    if_neg matchedLength, returned]

theorem hasCapability_eq_false (unmatched : matching scope ancestors assignments = []) :
    hasCapability order r principalType principalID capability scope = .ok false := by
  have accepted : ¬(principalType = "" ∨ principalID = "" ∨ capability = "") := by
    simp [typed, identified, named]
  simp only [hasCapability, if_neg accepted, assigned, inherited, unmatched, List.length_nil,
    if_true]
  split
  · rfl
  · rfl

end Answered

theorem hasCapability_true {order : MapOrder String} {scope : Scope}
    (yes : hasCapability order r principalType principalID capability scope = .ok true) :
    principalID ≠ "" ∧ capability ≠ "" ∧ ∃ assignments ancestors caps,
      r.assignmentsForPrincipal principalType principalID = .ok assignments ∧
      r.scopeAncestors scope = .ok ancestors ∧
      r.roleCapabilities (order.visit (matching scope ancestors assignments)) = .ok caps ∧
      ∃ cap ∈ caps, cap.capability = capability ∧ cap.effect ≠ effectDeny := by
  unfold hasCapability at yes
  split at yes
  · contradiction
  · rename_i accepted
    push Not at accepted
    split at yes
    · contradiction
    · rename_i assignments assigned
      split at yes
      · simp at yes
      · split at yes
        · contradiction
        · rename_i ancestors inherited
          simp only at yes
          split at yes
          · simp at yes
          · split at yes
            · contradiction
            · rename_i caps returned
              have permitted := (Flags.verdict_scan _ _ _).mp (Except.ok.inj yes)
              obtain ⟨⟨cap, ⟨listed, named⟩, allow⟩, _⟩ := permitted
              refine ⟨accepted.2.1, accepted.2.2, assignments, ancestors, caps, assigned,
                inherited, returned, cap, listed, by simpa using named, by simpa using allow⟩

/-- Every read is answered: assignments, ancestors, and for roles a listing of their entries. -/
structure Resolver.Answers (r : Resolver) (principalType principalID : String) (scope : Scope)
    (assignments : List Assignment) (ancestors : List Scope)
    (entries : String → Set RoleCapability) : Prop where
  assigned : r.assignmentsForPrincipal principalType principalID = .ok assignments
  inherited : r.scopeAncestors scope = .ok ancestors
  union : ∀ roles, ∃ caps, r.roleCapabilities roles = .ok caps ∧
    ∀ cap, cap ∈ caps ↔ ∃ role ∈ roles, cap ∈ entries role

theorem hasCapability_answers {scope : Scope} {ancestors : List Scope}
    {entries : String → Set RoleCapability}
    (answers : r.Answers principalType principalID scope assignments ancestors entries)
    (typed : principalType ≠ "") (identified : principalID ≠ "") (named : capability ≠ "") :
    ∃ answer, hasCapability order r principalType principalID capability scope = .ok answer ∧
      (answer = true ↔ Grants {assignment | assignment ∈ assignments}
        {ancestor | ancestor ∈ ancestors} entries capability scope) := by
  by_cases unmatched : matching scope ancestors assignments = []
  · have refused : ¬Grants {assignment | assignment ∈ assignments}
        {ancestor | ancestor ∈ ancestors} entries capability scope := by
      rintro ⟨⟨_, ⟨_, assignment, granted, inside, _⟩, _⟩, _⟩
      have member := (mem_matching _ _ _ _).mpr
        ⟨assignment, granted, inside, rfl⟩
      rw [unmatched] at member
      contradiction
    exact ⟨false, hasCapability_eq_false order typed identified named answers.assigned
      answers.inherited unmatched, by simp [refused]⟩
  · obtain ⟨caps, returned, listed⟩ :=
      answers.union (order.visit (matching scope ancestors assignments))
    refine ⟨verdict capability caps, hasCapability_eq_verdict order typed identified named
      answers.assigned answers.inherited unmatched returned, ?_⟩
    apply verdict_iff_grants
    intro cap
    rw [listed]
    simp only [MapOrder.mem_visit]

/-- `HasCapability` allows exactly when a role assigned at the scope or above has an entry that does
not deny and no role assigned there has one that does. -/
theorem hasCapability_spec (order : MapOrder String) (r : Resolver)
    (principalType principalID capability : String) (scope : Scope)
    (assignments : List Assignment) (ancestors : List Scope)
    (entries : String → Set RoleCapability)
    (answers : r.Answers principalType principalID scope assignments ancestors entries)
    (typed : principalType ≠ "") (identified : principalID ≠ "") (named : capability ≠ "") :
    (∃ answer, hasCapability order r principalType principalID capability scope = .ok answer ∧
      (answer = true ↔
        (∃ assignment ∈ assignments, (assignment.scope = scope ∨ assignment.scope ∈ ancestors) ∧
          ∃ cap ∈ entries assignment.roleID,
            cap.capability = capability ∧ cap.effect ≠ effectDeny) ∧
        ¬∃ assignment ∈ assignments, (assignment.scope = scope ∨ assignment.scope ∈ ancestors) ∧
          ∃ cap ∈ entries assignment.roleID,
            cap.capability = capability ∧ cap.effect = effectDeny)) ∧
    ∀ (order' : MapOrder String) (r' : Resolver) (assignments' : List Assignment)
      (ancestors' : List Scope),
      r'.Answers principalType principalID scope assignments' ancestors' entries →
      (∀ assignment, assignment ∈ assignments' ↔ assignment ∈ assignments) →
      (∀ ancestor, ancestor ∈ ancestors' ↔ ancestor ∈ ancestors) →
      hasCapability order' r' principalType principalID capability scope =
        hasCapability order r principalType principalID capability scope := by
  obtain ⟨answer, returned, meaning⟩ :=
    hasCapability_answers order answers typed identified named
  refine ⟨⟨answer, returned, ?_⟩, ?_⟩
  · rw [meaning, grants_iff]
    rfl
  · intro order' r' assignments' ancestors' answers' sameAssignments sameAncestors
    obtain ⟨answer', returned', meaning'⟩ :=
      hasCapability_answers order' answers' typed identified named
    have assigned : {assignment | assignment ∈ assignments'} =
        {assignment | assignment ∈ assignments} := Set.ext sameAssignments
    have inherited : {ancestor | ancestor ∈ ancestors'} = {ancestor | ancestor ∈ ancestors} :=
      Set.ext sameAncestors
    rw [assigned, inherited, ← meaning] at meaning'
    rw [returned, returned', Bool.eq_iff_iff.mpr meaning']

def readerResolver : Resolver where
  assignmentsForPrincipal _ _ := .ok [⟨"user", "alice", ⟨scopeOrg, "org-1"⟩, "member"⟩]
  roleCapabilities roles := .ok (roles.map (fun _ => ⟨"project.read", effectAllow⟩))
  scopeAncestors _ := .ok [⟨scopeOrg, "org-1"⟩, ⟨scopePlatform, ""⟩]

theorem hasCapability_spec_reader :
    hasCapability .insertion readerResolver "user" "alice" "project.read"
      ⟨scopeProject, "proj-9"⟩ = .ok true := by
  have answers : readerResolver.Answers "user" "alice" ⟨scopeProject, "proj-9"⟩
      [⟨"user", "alice", ⟨scopeOrg, "org-1"⟩, "member"⟩]
      [⟨scopeOrg, "org-1"⟩, ⟨scopePlatform, ""⟩]
      (fun _ => {⟨"project.read", effectAllow⟩}) := by
    refine ⟨rfl, rfl, ?_⟩
    intro roles
    refine ⟨_, rfl, ?_⟩
    intro cap
    simp only [List.mem_map, Set.mem_singleton_iff, eq_comm]
  obtain ⟨⟨answer, returned, meaning⟩, _⟩ :=
    hasCapability_spec .insertion readerResolver "user" "alice" "project.read"
      ⟨scopeProject, "proj-9"⟩ _ _ _ answers (by decide) (by decide) (by decide)
  have allowed : answer = true := by
    rw [meaning]
    simp [effectAllow, effectDeny]
  rw [returned, allowed]

end Porter.Rbac
