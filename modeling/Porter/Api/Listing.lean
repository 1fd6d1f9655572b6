import Porter.Api.Granted
import Porter.Api.Pools
import Porter.Store.Tenancy

/-!
# The list of projects

`GET /projects` of `internal/api/handlers.go` with the paginator of `internal/api/api.go`.
-/
namespace Porter.Api

open Store Rbac Go
open Api.Projects (atoi)

structure PageQuery where
  limit : String
  cursor : String

structure Page (α : Type) where
  items : Option (List α)
  totalCount : String
  nextCursor : String

def positiveOr (text : String) (default : Int) : Int :=
  match atoi text with
  | none => default
  | some v => if v > 0 then v else default

def paginate {α : Type} (query : PageQuery) (items : Option (List α)) : Page α :=
  let count : Int := (items.getD []).length
  let limit := positiveOr query.limit 50
  let limit := if limit > 200 then 200 else limit
  let offset := positiveOr query.cursor 0
  let offset := if offset > count then count else offset
  let stop := offset + limit
  let stop := if stop > count then count else stop
  { items := items.map (fun list => (list.take stop.toNat).drop offset.toNat)
    totalCount := toString count
    nextCursor := if stop < count then toString stop else "" }

structure Caller extends Principal where
  role : String

structure ListingRun where
  byOrgFails : Bool
  listFails : Bool
  order : MapOrder String
  capability : ResolverFault
  scopes : ScopesFault

variable (db : ListingDb) (run : ListingRun)

def projectListVisibleEverywhere (me : Caller) : Bool :=
  hasCapability db.toDb run.order run.capability "user" me.username "project.list"
      "platform" "" ||
    roleSeesAll db.toRoleTables me.role

/-- A project is under a scope by its own id or the organisation of its document. -/
def underScopes (scopes : List Scope) (p : Project EnvMap) : Bool :=
  scopes.any (fun s => s.type = scopeProject && s.id = p.id) ||
    scopes.any (fun s => s.type = scopeOrg && s.id = p.orgID)

def filterProjectsByScope (me : Caller) (projects : Option (List (Project EnvMap))) :
    Option (List (Project EnvMap)) :=
  projects.map (fun list => list.filter (underScopes (userScopes db.toDb run.scopes me.username)))

variable (r : Request)

def readProjects : Option (List (Project EnvMap)) :=
  let orgID := orgIDFromHeader db.toDb r
  let projects := if orgID ≠ "" then listProjectsByOrg db run.byOrgFails orgID else none
  match projects with
  | none => listProjects db run.listFails
  | some list => some list

def handleListProjects (query : PageQuery) (me : Caller) : Response (Page (Project EnvMap)) :=
  let projects := readProjects db run r
  let projects := if projectListVisibleEverywhere db run me then projects
    else filterProjectsByScope db run me projects
  .json statusOK (paginate query projects)

def selection (orgID : String) : Option (ProjectRecord → Bool) :=
  if orgID ≠ "" && !run.byOrgFails then some (·.orgID = some orgID)
  else if run.listFails then none
  else some (fun _ => true)

theorem readProjects_eq :
    readProjects db run r = (selection run (orgIDFromHeader db.toDb r)).map
      (fun keep => (db.records.filter keep).map ProjectRecord.doc) := by
  unfold readProjects selection listProjectsByOrg listProjects
  by_cases absent : orgIDFromHeader db.toDb r = ""
  · cases run.listFails with
    | true | false => simp [absent]
  · cases run.byOrgFails with
    | false => simp [absent]
    | true =>
      cases run.listFails with
      | true | false => simp [absent]

theorem underScopes_mono {few many : List Scope} (subset : few ⊆ many) (p : Project EnvMap)
    (shown : underScopes few p = true) : underScopes many p = true := by
  simp only [underScopes, Bool.or_eq_true, List.any_eq_true] at shown ⊢
  rcases shown with ⟨scope, member, matches_⟩ | ⟨scope, member, matches_⟩
  · exact Or.inl ⟨scope, subset member, matches_⟩
  · exact Or.inr ⟨scope, subset member, matches_⟩

/-- Two stores that agree on a user and, in order, on the projects in the user's scopes. -/
structure SameScopes (username : String) (before after : ListingDb) : Prop
    extends SameStanding username before.toDb after.toDb where
  projects :
    after.records.filter (fun record =>
      underScopes (userScopes before.toDb .clean username) record.doc) =
    before.records.filter (fun record =>
      underScopes (userScopes before.toDb .clean username) record.doc)

namespace SameScopes

variable {before after : ListingDb}

theorem filter_records {username : String} (same : SameScopes username before after)
    (fault : ScopesFault) (keep : ProjectRecord → Bool) :
    ((after.records.filter keep).map ProjectRecord.doc).filter
        (underScopes (userScopes before.toDb fault username)) =
      ((before.records.filter keep).map ProjectRecord.doc).filter
        (underScopes (userScopes before.toDb fault username)) := by
  have settled : ∀ records : List ProjectRecord,
      ((records.filter keep).map ProjectRecord.doc).filter
          (underScopes (userScopes before.toDb fault username)) =
        (((records.filter (fun record =>
          underScopes (userScopes before.toDb .clean username) record.doc)).filter keep).map
            ProjectRecord.doc).filter (underScopes (userScopes before.toDb fault username)) := by
    intro records
    rw [List.filter_map, List.filter_map, List.filter_filter, List.filter_filter,
      List.filter_filter]
    congr 1
    apply List.filter_congr
    intro record _
    have wider := underScopes_mono (userScopes_subset before.toDb fault username) record.doc
    simp only [Function.comp_apply]
    cases shown : underScopes (userScopes before.toDb fault username) record.doc with
    | false => rfl
    | true => simp [wider shown]
  rw [settled after.records, settled before.records, same.projects]

theorem filtered {me : Caller} (same : SameScopes me.username before after) (run : ListingRun)
    (r : Request) :
    filterProjectsByScope after run me (readProjects after run r) =
      filterProjectsByScope before run me (readProjects before run r) := by
  have header : orgIDFromHeader after.toDb r = orgIDFromHeader before.toDb r := by
    unfold orgIDFromHeader
    rw [same.listOrgs]
  unfold filterProjectsByScope
  rw [same.userScopes run.scopes, readProjects_eq, readProjects_eq, header]
  cases selection run (orgIDFromHeader before.toDb r) with
  | none => rfl
  | some keep => exact congrArg some (same.filter_records run.scopes keep)

end SameScopes

/-- A caller who does not see every project gets the same page, total and cursor from stores that
differ only in projects outside the caller's scopes. -/
theorem handleListProjects_noninterference (before after : ListingDb) (run : ListingRun)
    (r : Request) (query : PageQuery) (me : Caller) (same : SameScopes me.username before after)
    (limited : projectListVisibleEverywhere before run me = false) :
    handleListProjects after run r query me = handleListProjects before run r query me := by
  have visible : projectListVisibleEverywhere after run me =
      projectListVisibleEverywhere before run me := by
    unfold projectListVisibleEverywhere
    rw [same.hasCapability, same.roleSeesAll]
  unfold handleListProjects
  rw [visible, limited]
  simp only [Bool.false_eq_true, ↓reduceIte]
  rw [same.filtered run r]

def bareProject (id orgID name : String) : Project EnvMap where
  id := id
  orgID := orgID
  name := name
  source := "image"
  image := "nginx"
  network := "10.42.0.0/24"
  vmIDs := []
  hostMountPath := ""
  replicasDesired := 0
  restartPolicy := "always"
  healthcheck := none
  env := none
  tags := []
  sshEnabled := false
  replicas := 0
  createdBy := ""

def foreignProject : String := "00000000-0000-4000-8000-0000000000d1"

def foreignOrg : String := "00000000-0000-4000-8000-00000000000d"

def ownListing : ListingDb where
  toDb := denyingDb "member"
  records := [⟨some blockedOrg, bareProject blockedProject blockedOrg "web"⟩]
  columns := rfl

def sharedListing : ListingDb where
  toDb := { denyingDb "member" with
    projects := ⟨[⟨foreignProject, some foreignOrg⟩, ⟨blockedProject, some blockedOrg⟩],
      by decide⟩ }
  records := [⟨some foreignOrg, bareProject foreignProject foreignOrg "ledger"⟩,
    ⟨some blockedOrg, bareProject blockedProject blockedOrg "web"⟩]
  columns := rfl

def ListingRun.clean : ListingRun := ⟨false, false, .insertion, .clean, .clean⟩

theorem sharedListing_same : SameScopes "mallory" ownListing sharedListing where
  user := rfl
  roles := rfl
  mappings := rfl
  assignments := rfl
  projectMembers _ _ := rfl
  orgMembers _ _ := rfl
  orgs := rfl
  groups := rfl
  groupProjects := rfl
  collate := rfl
  projects := by
    have foreign : underScopes (userScopes ownListing.toDb .clean "mallory")
        (bareProject foreignProject foreignOrg "ledger") = false := by decide
    show List.filter _ (_ :: ownListing.records) = _
    rw [List.filter_cons, if_neg (by rw [foreign]; decide)]

theorem handleListProjects_noninterference_member :
    projectListVisibleEverywhere ownListing .clean ⟨⟨"mallory"⟩, "member"⟩ = false ∧
    handleListProjects sharedListing .clean ⟨"", ""⟩ ⟨"", ""⟩ ⟨⟨"mallory"⟩, "member"⟩ =
      handleListProjects ownListing .clean ⟨"", ""⟩ ⟨"", ""⟩ ⟨⟨"mallory"⟩, "member"⟩ :=
  ⟨by decide, handleListProjects_noninterference _ _ _ _ _ _ sharedListing_same (by decide)⟩

end Porter.Api
