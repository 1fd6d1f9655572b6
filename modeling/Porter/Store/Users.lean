import Porter.Store.Permissions

/-!
# Accounts

The `users` table with its credentials, the tables of teams, and the statements on them. A user row
has two keys: its id and its username.
-/
namespace Porter.Store

open Sql

structure UserRow where
  id : String
  username : String
  role : String
  email : String
  notifyOptIn : Bool
  passwordHash : String
  salt : String
deriving DecidableEq

structure GroupRow where
  id : String
  orgID : String
  name : String

structure TeamMember where
  groupID : String
  userID : String
  role : String

def TeamMember.key (member : TeamMember) : String × String := (member.groupID, member.userID)

structure AccountDb where
  users : Table UserRow.username
  userKey : (users.rows.map UserRow.id).Nodup
  roles : RoleTables
  orgs : List String
  groups : Table GroupRow.id
  teamMembers : Table TeamMember.key
  collate : String → String → Bool

def UserRow.overwrite (new old : UserRow) : UserRow :=
  { new with id := old.id, username := old.username }

theorem UserRow.overwrite_username (new old : UserRow) :
    (new.overwrite old).username = old.username := rfl

variable (db : AccountDb) (u : UserRow)

theorem userKey_upsert
    (free : (∃ row ∈ db.users.rows, row.username = u.username) ∨
      ∀ row ∈ db.users.rows, row.id ≠ u.id) :
    ((db.users.upsert u u.overwrite u.overwrite_username).rows.map UserRow.id).Nodup := by
  unfold Table.upsert
  cases result : db.users.insert u with
  | some next =>
    have fresh : ∀ row ∈ db.users.rows, row.id ≠ u.id := by
      rcases free with ⟨row, stored, same⟩ | fresh
      · rw [(Table.insert_eq_none _ u).mpr ⟨row, stored, same⟩] at result
        contradiction
      · exact fresh
    unfold Table.insert at result
    split at result
    · contradiction
    · obtain rfl := Option.some.inj result
      simp only [List.map_append, List.map_cons, List.map_nil]
      rw [List.nodup_append]
      refine ⟨db.userKey, by simp, ?_⟩
      intro id member other single
      rw [List.mem_singleton] at single
      obtain ⟨row, stored, rfl⟩ := List.mem_map.mp member
      rw [single]
      exact fresh row stored
  | none =>
    have ids : ((db.users.updateWhere (fun row => row.username = u.username) u.overwrite
        u.overwrite_username).rows.map UserRow.id) = db.users.rows.map UserRow.id := by
      simp only [Table.updateWhere, List.map_map]
      apply List.map_congr_left
      intro row _
      by_cases chosen : row.username = u.username
      · simp [chosen, UserRow.overwrite]
      · simp [chosen]
    rw [ids]
    exact db.userKey

def refusesUser : Bool :=
  (db.users.find u.username).isNone && db.users.rows.any (·.id = u.id)

variable (fault : Option String)

def putUser (u : UserRow) : AccountDb :=
  if fault.isSome then db
  else if refused : refusesUser db u = true then db
  else { db with
    users := db.users.upsert u u.overwrite u.overwrite_username
    userKey := by
      apply userKey_upsert
      by_cases taken : (db.users.find u.username).isSome = true
      · obtain ⟨row, found⟩ := Option.isSome_iff_exists.mp taken
        obtain ⟨stored, same⟩ := (Table.find_eq_some _ _ _).mp found
        exact Or.inl ⟨row, stored, same⟩
      · refine Or.inr ?_
        intro row stored same
        apply refused
        simp only [Bool.not_eq_true, Option.isSome_eq_false_iff] at taken
        simp only [refusesUser, taken, Bool.true_and, List.any_eq_true, decide_eq_true_eq]
        exact ⟨row, stored, same⟩ }

def getUserByID (id : String) : Option UserRow :=
  db.users.rows.find? (fun row => row.id = id)

theorem getUserByID_eq_some (id : String) (row : UserRow) :
    getUserByID db id = some row ↔ row ∈ db.users.rows ∧ row.id = id := by
  let byID : Table UserRow.id := ⟨db.users.rows, db.userKey⟩
  exact byID.find_eq_some id row

theorem putUser_new (freeID : ∀ row ∈ db.users.rows, row.id ≠ u.id)
    (freeName : ∀ row ∈ db.users.rows, row.username ≠ u.username) (row : UserRow) :
    row ∈ (putUser db none u).users.rows ↔ row = u ∨ row ∈ db.users.rows := by
  have accepted : ¬ refusesUser db u = true := by
    intro refused
    simp only [refusesUser, Bool.and_eq_true, List.any_eq_true, decide_eq_true_eq] at refused
    obtain ⟨_, other, stored, same⟩ := refused
    exact freeID other stored same
  have free : db.users.find u.username = none := (Table.find_eq_none _ _).mpr freeName
  unfold putUser
  rw [if_neg (by simp), dif_neg accepted]
  by_cases same : row.username = u.username
  · have stored := Table.find_upsert_self db.users u u.overwrite u.overwrite_username
    rw [free] at stored
    constructor
    · intro member
      have found := (Table.find_eq_some _ _ _).mpr ⟨member, same⟩
      exact Or.inl (Option.some.inj (found.symm.trans stored))
    · rintro (rfl | old)
      · exact ((Table.find_eq_some _ _ _).mp stored).1
      · exact absurd same (freeName row old)
  · rw [Table.mem_upsert_of_ne _ _ _ _ _ same]
    constructor
    · exact Or.inr
    · rintro (rfl | old)
      · exact absurd rfl same
      · exact old

theorem putUser_taken (u : UserRow) (freeID : ∀ row ∈ db.users.rows, row.id ≠ u.id)
    (taken : fault ≠ none ∨ ∃ row ∈ db.users.rows, row.username = u.username) :
    ∀ row ∈ (putUser db fault u).users.rows, row.id ≠ u.id := by
  intro row stored
  unfold putUser at stored
  split at stored
  · exact freeID row stored
  · rename_i clean
    split at stored
    · exact freeID row stored
    · rcases taken with failed | ⟨old, present, same⟩
      · exact absurd (Option.isSome_iff_ne_none.mpr failed) clean
      · by_cases chosen : row.username = u.username
        · have merged := Table.find_upsert_self db.users u u.overwrite u.overwrite_username
          have found := (Table.find_eq_some _ _ _).mpr ⟨stored, chosen⟩
          rw [(Table.find_eq_some _ _ _).mpr ⟨present, same⟩] at merged
          obtain rfl := Option.some.inj (found.symm.trans merged)
          exact freeID old present
        · exact freeID row ((Table.mem_upsert_of_ne _ _ _ _ _ chosen).mp stored)

def defaultRoleID (fails : Bool) : String :=
  if fails then ""
  else
    (((db.roles.roles.rows.filter RoleRow.isDefault).insertionSort
      (fun left right => db.collate left.id right.id = true)).head?).elim "" RoleRow.id

def listGroups (fails : Bool) (orgID : String) : List GroupRow :=
  if fails then []
  else (db.groups.rows.filter (·.orgID = orgID)).insertionSort
    (fun left right => db.collate left.name right.name = true)

def putGroup (g : GroupRow) : Option AccountDb :=
  if fault.isSome || g.orgID ∉ db.orgs then none
  else (db.groups.insert g).map (fun groups => { db with groups := groups })

def addTeamMember (member : TeamMember) : AccountDb :=
  if fault.isSome then db
  else { db with
    teamMembers := db.teamMembers.upsert member (fun old => { old with role := member.role })
      (fun _ => rfl) }

end Porter.Store
