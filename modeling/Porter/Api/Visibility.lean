import Porter.Api.Listing
import Porter.Go.Strconv

/-!
# The list of projects and the decision on a project

`GET /projects` and `GET /projects/{projectId}` decide by different code who sees a project.
-/
namespace Porter.Api

open Store Rbac Go Sql

/-- The items of all pages from a cursor on, for as many requests as the fuel allows. -/
def followCursor {α : Type} (fetch : String → Response (Page α)) : Nat → String → Option (List α)
  | 0, _ => none
  | fuel + 1, cursor =>
    match fetch cursor with
    | .error _ _ => none
    | .json _ page =>
      if page.nextCursor = "" then some (page.items.getD [])
      else (followCursor fetch fuel page.nextCursor).map (page.items.getD [] ++ ·)

theorem atoi_eq (text : String) : Projects.atoi text = Strconv.atoi text.toList := by
  unfold Projects.atoi Strconv.atoi
  split
  rename_i negative digits signed
  have same : Strconv.sign text.toList = (negative, digits) := signed
  rw [same]

theorem toList_toString (n : Nat) : (toString (n : Int)).toList = Strconv.itoa n := by
  exact String.toList_ofList

theorem toString_ne_empty (n : Nat) : toString (n : Int) ≠ "" := by
  intro empty
  have digits := congrArg String.toList empty
  rw [toList_toString, Strconv.itoa, if_neg (by omega)] at digits
  exact Nat.toDigits_ne_nil digits

theorem positiveOr_toString {n : Nat} (positive : 0 < n) (fits : n < 2 ^ 63) (default : Int) :
    positiveOr (toString (n : Int)) default = n := by
  have range : Int64Range n := by
    constructor
    · omega
    · exact_mod_cast fits
  unfold positiveOr
  rw [atoi_eq, toList_toString, Strconv.atoi_itoa range]
  simp only
  rw [if_pos (by omega)]

def pageSize (limit : String) : Nat := (min (positiveOr limit 50) 200).toNat

theorem positiveOr_pos (text : String) {default : Int} (positive : 0 < default) :
    0 < positiveOr text default := by
  unfold positiveOr
  split
  · exact positive
  · split
    · assumption
    · exact positive

theorem pageSize_pos (limit : String) : 0 < pageSize limit := by
  have positive : 0 < positiveOr limit 50 := positiveOr_pos _ (by decide)
  unfold pageSize
  omega

theorem pageSize_eq (limit : String) :
    (if positiveOr limit 50 > 200 then 200 else positiveOr limit 50) = (pageSize limit : Int) := by
  have positive : 0 < positiveOr limit 50 := positiveOr_pos _ (by decide)
  unfold pageSize
  split
  · omega
  · omega

theorem paginate_next {α : Type} {limit cursor : String} {items : List α} {offset : Nat}
    (reads : positiveOr cursor 0 = offset) (more : offset + pageSize limit < items.length) :
    paginate ⟨limit, cursor⟩ (some items) = {
      items := some ((items.take (offset + pageSize limit)).drop offset)
      totalCount := toString (items.length : Int)
      nextCursor := toString ((offset + pageSize limit : Nat) : Int) } := by
  unfold paginate
  simp only [Option.getD_some, reads, pageSize_eq]
  rw [if_neg (by omega), if_neg (by omega), if_pos (by omega)]
  have stop : ((offset : Int) + (pageSize limit : Int)).toNat = offset + pageSize limit := by omega
  simp only [Option.map_some, stop, Int.toNat_natCast, Int.natCast_add]

theorem paginate_last {α : Type} {limit cursor : String} {items : List α} {offset : Nat}
    (reads : positiveOr cursor 0 = offset) (within : offset ≤ items.length)
    (last : items.length ≤ offset + pageSize limit) :
    paginate ⟨limit, cursor⟩ (some items) = {
      items := some (items.drop offset)
      totalCount := toString (items.length : Int)
      nextCursor := "" } := by
  have stop : (if (offset : Int) + (pageSize limit : Int) > (items.length : Int) then
      (items.length : Int) else (offset : Int) + (pageSize limit : Int)) = items.length := by
    split
    · rfl
    · omega
  unfold paginate
  simp only [Option.getD_some, reads, pageSize_eq]
  rw [if_neg (by omega), stop, if_neg (by omega)]
  simp only [Option.map_some, Int.toNat_natCast, List.take_length]

theorem followCursor_paginate {α : Type} {fetch : String → Response (Page α)} {limit : String}
    {items : List α}
    (fetches : ∀ cursor, fetch cursor = .json statusOK (paginate ⟨limit, cursor⟩ (some items)))
    (fits : items.length < 2 ^ 63) (fuel offset : Nat) (cursor : String)
    (reads : positiveOr cursor 0 = offset) (within : offset ≤ items.length)
    (enough : items.length - offset < fuel) :
    followCursor fetch fuel cursor = some (items.drop offset) := by
  induction fuel generalizing offset cursor with
  | zero => omega
  | succ fuel recurse =>
    have size := pageSize_pos limit
    unfold followCursor
    rw [fetches]
    simp only
    by_cases more : offset + pageSize limit < items.length
    · -- the rest is collected from the next offset on
      have rest := recurse (offset + pageSize limit)
        (toString ((offset + pageSize limit : Nat) : Int))
        (positiveOr_toString (by omega) (by omega) 0) (by omega) (by omega)
      rw [paginate_next reads more]
      rw [if_neg (toString_ne_empty _), rest, Option.map_some, Option.getD_some, List.drop_take,
        Nat.add_sub_cancel_left, ← List.drop_drop, List.take_append_drop]
    · rw [paginate_last reads within (by omega)]
      simp only [if_true, Option.getD_some]

/-- Following the cursors from the first page to the last ends, and the pages together are the
list. -/
theorem followCursor_complete {α : Type} (limit : String) (items : Option (List α))
    (fits : (items.getD []).length < 2 ^ 63) (fuel : Nat) (enough : (items.getD []).length < fuel) :
    followCursor (fun cursor => .json statusOK (paginate ⟨limit, cursor⟩ items)) fuel "" =
      some (items.getD []) := by
  have start : positiveOr "" 0 = (0 : Nat) := by decide
  cases items with
  | none =>
    -- a nil slice has the headers of an empty one
    have last : paginate ⟨limit, ""⟩ (some ([] : List α)) = _ :=
      paginate_last start (Nat.le_refl _) (Nat.zero_le _)
    have done : (paginate ⟨limit, ""⟩ (none : Option (List α))).nextCursor = "" :=
      congrArg Page.nextCursor last
    obtain ⟨fuel, rfl⟩ := Nat.exists_eq_succ_of_ne_zero (Nat.ne_of_gt enough)
    simp only [followCursor, done, if_true]
    rfl
  | some items =>
    exact followCursor_paginate (fun _ => rfl) fits fuel 0 "" start (Nat.zero_le _) enough

theorem followCursor_complete_pairs :
    followCursor (fun cursor => .json statusOK (paginate ⟨"2", cursor⟩ (some [5, 6, 7]))) 4 "" =
      some [5, 6, 7] :=
  followCursor_complete "2" (some [5, 6, 7]) (by decide) 4 (by decide)

/-- A membership in the project, in its organisation, or in one with a group that has it. -/
def Reaches (db : Db) (username projectID orgID : String) : Prop :=
  ∃ u, getUserByUsername db username = some u ∧
    ((∃ member ∈ db.projectMembers.rows, member.userID = u.id ∧ member.projectID = projectID) ∨
      ∃ member ∈ db.orgMembers.rows, member.userID = u.id ∧
        (member.orgID = orgID ∨ ∃ group ∈ db.groups.rows, group.orgID = member.orgID ∧
          ∃ link ∈ db.groupProjects.rows, link.groupID = group.id ∧ link.projectID = projectID))

/-- The project is one of the organisation that comes first, if there is any. -/
def InFirstOrg (db : Db) (record : ProjectRecord) : Prop :=
  orgIDFromHeader db ⟨"", ""⟩ = "" ∨ record.orgID = some (orgIDFromHeader db ⟨"", ""⟩)

def Listed (db : ListingDb) (me : Principal) (record : ProjectRecord) : Prop :=
  InFirstOrg db.toDb record ∧ Reaches db.toDb me.username record.doc.id record.doc.orgID

variable (db : Db) (username orgID : String)

theorem mem_userOrgIDs :
    orgID ∈ userOrgIDs db username ↔ ∃ u, getUserByUsername db username = some u ∧
      ∃ member ∈ db.orgMembers.rows, member.userID = u.id ∧ member.orgID = orgID := by
  unfold userOrgIDs
  cases getUserByUsername db username with
  | none => simp
  | some u => simp [and_assoc]

theorem mem_memberScopes (scope : Scope) :
    scope ∈ memberScopes db .clean username ↔ ∃ u, getUserByUsername db username = some u ∧
      ∃ member ∈ db.projectMembers.rows, member.userID = u.id ∧
        scope = ⟨scopeProject, member.projectID⟩ := by
  unfold memberScopes
  cases getUserByUsername db username with
  | none => simp
  | some u => simp [ScopesFault.clean, membershipsOf, and_assoc, eq_comm]

theorem mem_orgScopes (scope : Scope) :
    scope ∈ orgScopes db .clean orgID ↔ scope = ⟨scopeOrg, orgID⟩ ∨
      ∃ group ∈ db.groups.rows, group.orgID = orgID ∧ (scope = ⟨scopeTeam, group.id⟩ ∨
        ∃ link ∈ db.groupProjects.rows, link.groupID = group.id ∧
          scope = ⟨scopeProject, link.projectID⟩) := by
  simp [orgScopes, groupScopes, ScopesFault.clean, and_assoc, eq_comm]

theorem org_mem_userScopes :
    ⟨scopeOrg, orgID⟩ ∈ userScopes db .clean username ↔ orgID ∈ userOrgIDs db username := by
  have kinds : scopeOrg ≠ scopeProject ∧ scopeOrg ≠ scopeTeam := by decide
  simp [userScopes, mem_memberScopes, mem_orgScopes, kinds]

theorem project_mem_userScopes (projectID : String) :
    ⟨scopeProject, projectID⟩ ∈ userScopes db .clean username ↔
      (∃ u, getUserByUsername db username = some u ∧
        ∃ member ∈ db.projectMembers.rows, member.userID = u.id ∧ member.projectID = projectID) ∨
      ∃ orgID ∈ userOrgIDs db username, ∃ group ∈ db.groups.rows, group.orgID = orgID ∧
        ∃ link ∈ db.groupProjects.rows, link.groupID = group.id ∧ link.projectID = projectID := by
  have kinds : scopeProject ≠ scopeOrg ∧ scopeProject ≠ scopeTeam := by decide
  simp only [userScopes, List.mem_append, List.mem_flatMap, mem_memberScopes, mem_orgScopes,
    Scope.mk.injEq, kinds.1, kinds.2, false_and, false_or, true_and, eq_comm (a := projectID)]

theorem underScopes_mem (scopes : List Scope) (p : Project EnvMap) :
    underScopes scopes p = true ↔
      ⟨scopeProject, p.id⟩ ∈ scopes ∨ ⟨scopeOrg, p.orgID⟩ ∈ scopes := by
  have found : ∀ type id, scopes.any (fun s => s.type = type && s.id = id) = true ↔
      (⟨type, id⟩ : Scope) ∈ scopes := by
    intro type id
    rw [List.any_eq_true]
    constructor
    · rintro ⟨scope, member, same⟩
      rw [Bool.and_eq_true, decide_eq_true_eq, decide_eq_true_eq] at same
      obtain ⟨rfl, rfl⟩ := same
      exact member
    · intro member
      exact ⟨_, member, by simp⟩
  unfold underScopes
  rw [Bool.or_eq_true, found, found]

theorem underScopes_iff (p : Project EnvMap) :
    underScopes (userScopes db .clean username) p = true ↔ Reaches db username p.id p.orgID := by
  rw [underScopes_mem, project_mem_userScopes, org_mem_userScopes]
  simp only [mem_userOrgIDs]
  constructor
  · rintro ((⟨u, found, direct⟩ | ⟨_, ⟨u, found, member, stored, mine, rfl⟩, linked⟩) |
      ⟨u, found, member, stored, mine, same⟩)
    · exact ⟨u, found, Or.inl direct⟩
    · exact ⟨u, found, Or.inr ⟨member, stored, mine, Or.inr linked⟩⟩
    · exact ⟨u, found, Or.inr ⟨member, stored, mine, Or.inl same⟩⟩
  · rintro ⟨u, found, direct | ⟨member, stored, mine, same | linked⟩⟩
    · exact Or.inl (Or.inl ⟨u, found, direct⟩)
    · exact Or.inr ⟨u, found, member, stored, mine, same⟩
    · exact Or.inl (Or.inr ⟨_, ⟨u, found, member, stored, mine, rfl⟩, linked⟩)

def ListingRun.ordered (order : MapOrder String) : ListingRun :=
  ⟨false, false, order, .clean, .clean⟩

def listing (db : ListingDb) (order : MapOrder String) (limit : String) (me : Caller) :
    Option (List (Project EnvMap)) :=
  followCursor
    (fun cursor => handleListProjects db (.ordered order) ⟨"", ""⟩ ⟨limit, cursor⟩ me)
    (db.records.length + 1) ""

theorem selection_ordered (order : MapOrder String) :
    ∃ keep, selection (.ordered order) (orgIDFromHeader db ⟨"", ""⟩) = some keep ∧
      ∀ record, keep record = true ↔ InFirstOrg db record := by
  unfold InFirstOrg
  generalize orgIDFromHeader db ⟨"", ""⟩ = org
  by_cases none : org = ""
  · exact ⟨fun _ => true, by simp [selection, none, ListingRun.ordered], by simp [none]⟩
  · exact ⟨fun record => record.orgID = some org, by simp [selection, none, ListingRun.ordered],
      by simp [none]⟩

theorem listing_eq (db : ListingDb) (order : MapOrder String) (limit : String) (me : Caller)
    (limited : projectListVisibleEverywhere db (.ordered order) me = false)
    (fits : db.records.length < 2 ^ 63) :
    ∃ projects, listing db order limit me = some projects ∧ ∀ p, p ∈ projects ↔
      ∃ record ∈ db.records, Listed db me.toPrincipal record ∧ record.doc = p := by
  have ⟨keep, selected, reads⟩ := selection_ordered db.toDb order
  let projects := ((db.records.filter keep).map ProjectRecord.doc).filter
    (underScopes (userScopes db.toDb .clean me.username))
  have short : projects.length ≤ db.records.length := by
    calc projects.length ≤ ((db.records.filter keep).map ProjectRecord.doc).length :=
          List.length_filter_le _ _
      _ = (db.records.filter keep).length := List.length_map _
      _ ≤ db.records.length := List.length_filter_le _ _
  have fetches : ∀ cursor, handleListProjects db (.ordered order) ⟨"", ""⟩ ⟨limit, cursor⟩ me =
      .json statusOK (paginate ⟨limit, cursor⟩ (some projects)) := by
    intro cursor
    unfold handleListProjects
    rw [limited, readProjects_eq, selected]
    rfl
  refine ⟨projects, ?_, ?_⟩
  · have followed := followCursor_paginate fetches (by omega) (db.records.length + 1) 0 ""
      (by decide) (Nat.zero_le _) (by omega)
    rwa [List.drop_zero] at followed
  · intro p
    simp only [projects, List.mem_filter, List.mem_map, underScopes_iff]
    constructor
    · rintro ⟨⟨record, ⟨stored, kept⟩, rfl⟩, reached⟩
      exact ⟨record, stored, ⟨(reads record).mp kept, reached⟩, rfl⟩
    · rintro ⟨record, stored, ⟨first, reached⟩, rfl⟩
      exact ⟨⟨record, ⟨stored, (reads record).mpr first⟩, rfl⟩, reached⟩

def onProject (record : ProjectRecord) : Request := ⟨record.doc.id, ""⟩

structure Agreement (db : ListingDb) (me : Principal) : Prop where
  /-- Nothing denies reading a project that is listed. -/
  undenied : ∀ record ∈ db.records, Listed db me record →
    ¬RequestDenied db.toDb (onProject record) me "project.read"
  /-- A project that is listed may be read, by a scoped role or by that of a membership. -/
  granted : ∀ record ∈ db.records, Listed db me record →
    RequestAllowed db.toDb (onProject record) me "project.read" ∨
      membershipGrants db.toDb (onProject record) me "project.read" = true
  /-- A scoped role gives a project only if it is listed anyway. -/
  assigned : ∀ record ∈ db.records, RequestAllowed db.toDb (onProject record) me "project.read" →
    ¬RequestDenied db.toDb (onProject record) me "project.read" → Listed db me record
  /-- A membership gives a project only if it is listed, so that its organisation comes first. -/
  joined : ∀ record ∈ db.records,
    membershipGrants db.toDb (onProject record) me "project.read" = true →
    ¬RequestDenied db.toDb (onProject record) me "project.read" → Listed db me record

theorem agreement_iff (db : ListingDb) (header request : MapOrder String) (me : Principal) :
    Agreement db me ↔ ∀ record ∈ db.records, Listed db me record ↔
      granted db.toDb (.clean header request) (onProject record) me "project.read" = true := by
  simp only [granted_clean]
  constructor
  · intro agrees record stored
    constructor
    · intro listed
      exact ⟨agrees.undenied record stored listed, agrees.granted record stored listed⟩
    · rintro ⟨undenied, allowed | member⟩
      · exact agrees.assigned record stored allowed undenied
      · exact agrees.joined record stored member undenied
  · intro same
    constructor
    · intro record stored listed
      exact ((same record stored).mp listed).1
    · intro record stored listed
      exact ((same record stored).mp listed).2
    · intro record stored allowed undenied
      exact (same record stored).mpr ⟨undenied, Or.inl allowed⟩
    · intro record stored member undenied
      exact (same record stored).mpr ⟨undenied, Or.inr member⟩

theorem record_eq_of_doc (db : ListingDb) {left right : ProjectRecord} (first : left ∈ db.records)
    (second : right ∈ db.records) (same : left.doc = right.doc) : left = right := by
  have ids : (db.records.map (fun record => record.doc.id)).Nodup := by
    have unique := db.projects.unique
    rw [db.columns, List.map_map] at unique
    exact unique
  exact List.inj_on_of_nodup_map ids first second (congrArg Project.id same)

def Readable (db : ListingDb) (header request : MapOrder String) (me : Principal)
    (projects : List (Project EnvMap)) : Prop :=
  ∀ p, p ∈ projects ↔ ∃ record ∈ db.records, record.doc = p ∧
    granted db.toDb (.clean header request) (onProject record) me "project.read" = true

def twoOrgs (name : String) : Db where
  roles := .single _ ⟨"member", "Member", "", "shared", false, false, true, true⟩
  permissions := ⟨[⟨"project.list"⟩, ⟨"project.read"⟩], by decide⟩
  rolePermissions := ⟨[⟨"member", "project.list", effectAllow⟩,
    ⟨"member", "project.read", effectAllow⟩], by decide⟩
  roleAssignments := .empty _
  roleKey := by decide
  permissionKey := by decide
  assignmentKey := by simp [Table.empty]
  users := .single _ ⟨malloryID, "mallory", "member"⟩
  orgs := ⟨[⟨foreignOrg, "globex"⟩, ⟨blockedOrg, name⟩], by
    have ids : [foreignOrg, blockedOrg].Nodup := by decide
    exact ids⟩
  orgMembers := .single _ ⟨blockedOrg, malloryID, "member"⟩
  projectMembers := .empty _
  projects := .single _ ⟨blockedProject, some blockedOrg⟩
  groups := .empty _
  groupProjects := .empty _
  teams := .empty _
  environments := .empty _
  collate left right := left ≤ right

def memberRecord : ProjectRecord := ⟨some blockedOrg, bareProject blockedProject blockedOrg "web"⟩

def twoOrgsListing (name : String) : ListingDb where
  toDb := twoOrgs name
  records := [memberRecord]
  columns := rfl

end Porter.Api
