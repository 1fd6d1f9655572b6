import Porter.Api.Http
import Porter.Store.Users

/-!
# Creating users

The handler of `POST /users`.
-/
namespace Porter.Api

open Sql Store

structure CreateUserReq where
  username : String
  password : String
  role : String
  email : String
  notifyOptIn : Bool

structure UserRun where
  salt : String
  userID : String
  groupID : String
  hashPassword : String → String → String
  defaultRoleFails : Bool
  teamRoleFails : Bool
  roleFails : Bool
  putUser : Option String
  listGroupsFails : Bool
  putGroup : Option String
  addTeamMember : Option String

def headerOrg (db : AccountDb) (header : String) : String :=
  if header ≠ "" then header else db.orgs.headD ""

variable (run : UserRun)

def ensurePersonalTeam (db : AccountDb) (orgHeader : String) (u : UserRow) : AccountDb :=
  let orgID := headerOrg db orgHeader
  let name := u.username ++ "-team"
  if orgID = "" then db
  else if (listGroups db run.listGroupsFails orgID).any (·.name = name) then db
  else
    match putGroup db run.putGroup ⟨run.groupID, orgID, name⟩ with
    | none => db
    | some db =>
      let role := defaultRoleID db run.teamRoleFails
      if role = "" then db else addTeamMember db run.addTeamMember ⟨run.groupID, u.id, role⟩

def requestedRole (db : AccountDb) (req : CreateUserReq) : String :=
  if req.role = "" then defaultRoleID db run.defaultRoleFails else req.role

def knownRole (db : AccountDb) (role : String) : Bool :=
  !run.roleFails && (getRole db.roles role).isSome

def newUser (req : CreateUserReq) (role : String) : UserRow where
  id := run.userID
  username := req.username
  role := role
  email := req.email
  notifyOptIn := req.notifyOptIn
  passwordHash := run.hashPassword req.password run.salt
  salt := run.salt

def handleCreateUser (db : AccountDb) (orgHeader : String) (body : Except String CreateUserReq) :
    AccountDb × Response UserRow :=
  match body with
  | .error err => (db, badRequest err)
  | .ok req =>
    if req.username = "" then (db, .error statusBadRequest "username is required")
    else
      let role := requestedRole run db req
      if role = "" then
        (db, .error statusServiceUnavailable
          "no default role is seeded; create one via POST /roles")
      else if !knownRole run db role then (db, .error statusBadRequest ("unknown role: " ++ role))
      else
        let u := newUser run req role
        let db := putUser db run.putUser u
        (ensurePersonalTeam run db orgHeader u, .json statusCreated u)

variable (db : AccountDb) (orgHeader : String)

@[simp] theorem users_ensurePersonalTeam (u : UserRow) :
    (ensurePersonalTeam run db orgHeader u).users = db.users := by
  unfold ensurePersonalTeam
  simp only
  split
  · rfl
  · split
    · rfl
    · cases stored : putGroup db run.putGroup ⟨run.groupID, headerOrg db orgHeader, _⟩ with
      | none => rfl
      | some next =>
        have same : next.users = db.users := by
          unfold putGroup at stored
          split at stored
          · contradiction
          · obtain ⟨groups, _, rfl⟩ := Option.map_eq_some_iff.mp stored
            rfl
        simp only
        split
        · exact same
        · unfold addTeamMember
          split
          · exact same
          · exact same

def KeepsAccounts (before after : AccountDb) : Prop :=
  ∀ row ∈ before.users.rows, row ∈ after.users.rows

def ReportsStored (after : AccountDb) (response : Response UserRow) : Prop :=
  ∀ u, response = .json statusCreated u →
    ∃ row, getUserByID after u.id = some row ∧ row.username = u.username

def refusesCreateUser (db : AccountDb) (body : Except String CreateUserReq) : Bool :=
  match body with
  | .error _ => true
  | .ok req =>
    req.username = "" || requestedRole run db req = "" ||
      !knownRole run db (requestedRole run db req)

def CreatesAccount (db : AccountDb) (body : Except String CreateUserReq) : Prop :=
  run.putUser = none ∧
    ∀ req, body = .ok req → ∀ row ∈ db.users.rows, row.username ≠ req.username

theorem handleCreateUser_refused (body : Except String CreateUserReq)
    (refused : refusesCreateUser run db body = true) :
    ∃ status message, handleCreateUser run db orgHeader body = (db, .error status message) := by
  cases body with
  | error err => exact ⟨statusBadRequest, "bad request: " ++ err, rfl⟩
  | ok req =>
    simp only [refusesCreateUser, Bool.or_eq_true, decide_eq_true_eq] at refused
    simp only [handleCreateUser]
    split
    · exact ⟨_, _, rfl⟩
    · rename_i named
      split
      · exact ⟨_, _, rfl⟩
      · rename_i given
        rcases refused with (unnamed | missing) | unknown
        · exact absurd unnamed named
        · exact absurd missing given
        · rw [if_pos unknown]
          exact ⟨_, _, rfl⟩

theorem handleCreateUser_accepted (req : CreateUserReq)
    (accepted : refusesCreateUser run db (.ok req) = false) :
    ∃ u, u.id = run.userID ∧ u.username = req.username ∧
      (handleCreateUser run db orgHeader (.ok req)).1.users = (putUser db run.putUser u).users ∧
      (handleCreateUser run db orgHeader (.ok req)).2 = .json statusCreated u := by
  simp only [refusesCreateUser, Bool.or_eq_false_iff, decide_eq_false_iff_not] at accepted
  obtain ⟨⟨named, given⟩, known⟩ := accepted
  refine ⟨newUser run req (requestedRole run db req), rfl, rfl, ?_, ?_⟩
  · simp [handleCreateUser, named, given, known]
  · simp [handleCreateUser, named, given, known]

/-- Creating a user leaves every account as it was and reports only users that can be found, exactly
when it is refused, or the username is free and the insert succeeds. -/
theorem createUser_iff (run : UserRun) (db : AccountDb) (orgHeader : String)
    (body : Except String CreateUserReq) (fresh : ∀ row ∈ db.users.rows, row.id ≠ run.userID) :
    (KeepsAccounts db (handleCreateUser run db orgHeader body).1 ∧
        ReportsStored (handleCreateUser run db orgHeader body).1
          (handleCreateUser run db orgHeader body).2) ↔
      refusesCreateUser run db body = true ∨ CreatesAccount run db body := by
  cases refused : refusesCreateUser run db body with
  | true =>
    obtain ⟨status, message, result⟩ := handleCreateUser_refused _ _ _ _ refused
    rw [result]
    refine ⟨fun _ => Or.inl rfl, fun _ => ⟨fun row stored => stored, ?_⟩⟩
    intro u created
    contradiction
  | false =>
    cases body with
    | error err => contradiction
    | ok req =>
      obtain ⟨u, drawn, named, users, response⟩ :=
        handleCreateUser_accepted run db orgHeader req refused
      have freeID : ∀ row ∈ db.users.rows, row.id ≠ u.id := by
        rw [drawn]
        exact fresh
      rw [response]
      constructor
      · rintro ⟨_, reports⟩
        obtain ⟨row, found, _⟩ := reports u rfl
        obtain ⟨stored, same⟩ := (getUserByID_eq_some _ _ _).mp found
        rw [users] at stored
        refine Or.inr ⟨?_, ?_⟩
        · by_contra failed
          exact putUser_taken _ _ u freeID (Or.inl failed) row stored same
        · rintro asked ⟨⟩ other present taken
          have conflict : ∃ row ∈ db.users.rows, row.username = u.username :=
            ⟨other, present, taken.trans named.symm⟩
          exact putUser_taken _ _ u freeID (Or.inr conflict) row stored same
      · rintro (no | ⟨succeeds, free⟩)
        · contradiction
        · have freeName : ∀ row ∈ db.users.rows, row.username ≠ u.username := by
            rw [named]
            exact free req rfl
          have rows := putUser_new _ u freeID freeName
          rw [← succeeds, ← users] at rows
          refine ⟨fun row stored => (rows row).mpr (Or.inr stored), ?_⟩
          intro created same
          obtain ⟨_, rfl⟩ := Response.json.inj same
          exact ⟨u, (getUserByID_eq_some _ _ _).mpr ⟨(rows u).mpr (Or.inl rfl), rfl⟩, rfl⟩

def memberCatalogue : RoleTables where
  roles := Table.single RoleRow.id ⟨"member", "Member", "", "global", false, false, true, true⟩
  permissions := Table.empty Permission.id
  rolePermissions := Table.empty RolePermission.key
  roleAssignments := Table.empty id
  roleKey := by simp [Table.empty]
  permissionKey := by simp [Table.empty]
  assignmentKey := by simp [Table.empty]

def adminAccount : UserRow where
  id := "00000000-0000-4000-8000-000000000001"
  username := "admin"
  role := "admin"
  email := "ops@example.org"
  notifyOptIn := true
  passwordHash := "hash of the administrator"
  salt := "salt of the administrator"

def adminDb : AccountDb where
  users := Table.single UserRow.username adminAccount
  userKey := List.nodup_singleton _
  roles := memberCatalogue
  orgs := []
  groups := Table.empty GroupRow.id
  teamMembers := Table.empty TeamMember.key
  collate := fun left right => decide (left ≤ right)

def adminRun : UserRun where
  salt := "00000000-0000-4000-8000-0000000000a1"
  userID := "00000000-0000-4000-8000-0000000000a2"
  groupID := "00000000-0000-4000-8000-0000000000a3"
  hashPassword := fun password salt => password ++ salt
  defaultRoleFails := false
  teamRoleFails := false
  roleFails := false
  putUser := none
  listGroupsFails := false
  putGroup := none
  addTeamMember := none

def userBody (username : String) : Except String CreateUserReq :=
  .ok ⟨username, "secret", "", "", false⟩

theorem createUser_iff_ana :
    KeepsAccounts adminDb (handleCreateUser adminRun adminDb "" (userBody "ana")).1 ∧
      ReportsStored (handleCreateUser adminRun adminDb "" (userBody "ana")).1
        (handleCreateUser adminRun adminDb "" (userBody "ana")).2 := by
  refine (createUser_iff _ _ "" (userBody "ana") (by decide)).mpr (Or.inr ⟨rfl, ?_⟩)
  rintro req ⟨⟩
  decide

theorem createUser_replaces_admin :
    ¬ (KeepsAccounts adminDb (handleCreateUser adminRun adminDb "" (userBody "admin")).1 ∧
      ReportsStored (handleCreateUser adminRun adminDb "" (userBody "admin")).1
        (handleCreateUser adminRun adminDb "" (userBody "admin")).2) := by
  rintro ⟨keeps, _⟩
  have kept : adminAccount ∈
      (handleCreateUser adminRun adminDb "" (userBody "admin")).1.users.rows :=
    keeps adminAccount (by decide)
  exact absurd kept (by decide)

end Porter.Api
