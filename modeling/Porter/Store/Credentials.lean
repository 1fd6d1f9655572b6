import Porter.Store.Users

/-!
# Credentials

The tables a bearer token is looked up in, and the statements on them. Both hold the hash of a
token.
-/
namespace Porter.Store

open Sql

structure APIKeyRow where
  id : String
  userID : String
  name : String
  tokenHash : String

structure SessionRow where
  principalType : String
  principalID : String
  tokenHash : String
  scopeType : String
  scopeID : String
  expiresAt : Int
  revokedAt : Option Nat

structure CredentialDb where
  accounts : AccountDb
  apiKeys : Table APIKeyRow.id
  sessions : Table SessionRow.tokenHash

def AccountDb.getUserByUsername (db : AccountDb) (username : String) : Option UserRow :=
  db.users.find username

def deleteUser (db : AccountDb) (fails : Bool) (id : String) : AccountDb :=
  if fails then db
  else { db with
    users := db.users.deleteWhere (fun row => row.id = id)
    userKey := (List.filter_sublist.map UserRow.id).nodup db.userKey }

theorem of_mem_deleteUser {db : AccountDb} {fails : Bool} {id : String} {row : UserRow}
    (stored : row ∈ (deleteUser db fails id).users.rows) : row ∈ db.users.rows := by
  unfold deleteUser at stored
  split at stored
  · exact stored
  · exact ((Table.mem_deleteWhere _ _ _).mp stored).1

theorem of_mem_putUser {db : AccountDb} {fault : Option String} {u row : UserRow}
    (stored : row ∈ (putUser db fault u).users.rows) :
    (∃ old ∈ db.users.rows, row.id = old.id ∧ row.username = old.username) ∨ row = u := by
  unfold putUser at stored
  split at stored
  · exact Or.inl ⟨row, stored, rfl, rfl⟩
  · split at stored
    · exact Or.inl ⟨row, stored, rfl, rfl⟩
    · rcases Table.of_mem_upsert stored with old | rfl | ⟨old, before, _, rfl⟩
      · exact Or.inl ⟨row, old, rfl, rfl⟩
      · exact Or.inr rfl
      · exact Or.inl ⟨old, before, rfl, rfl⟩

def putAPIKey (db : CredentialDb) (fails : Bool) (k : APIKeyRow) : CredentialDb :=
  if fails then db
  else { db with
    apiKeys := db.apiKeys.upsert k
      (fun old => { old with name := k.name, tokenHash := k.tokenHash }) (fun _ => rfl) }

def deleteAPIKey (db : CredentialDb) (fails : Bool) (id : String) : CredentialDb × Bool :=
  if fails then (db, false)
  else
    ({ db with apiKeys := db.apiKeys.deleteWhere (fun row => row.id = id) },
      db.apiKeys.rows.any (·.id = id))

def getAPIKeyByHash (db : CredentialDb) (hash : String) : Option APIKeyRow :=
  db.apiKeys.rows.find? (fun row => row.tokenHash = hash)

def getUserByToken (db : CredentialDb) (hash : String) : Option UserRow :=
  match getAPIKeyByHash db hash with
  | none => none
  | some k => if k.userID = "" ∨ k.userID = "*" then none else getUserByID db.accounts k.userID

theorem of_mem_putAPIKey {db : CredentialDb} {fails : Bool} {k row : APIKeyRow}
    (free : ∀ old ∈ db.apiKeys.rows, old.id ≠ k.id)
    (stored : row ∈ (putAPIKey db fails k).apiKeys.rows) : row ∈ db.apiKeys.rows ∨ row = k := by
  unfold putAPIKey at stored
  split at stored
  · exact Or.inl stored
  · rcases Table.of_mem_upsert stored with old | rfl | ⟨old, before, same, _⟩
    · exact Or.inl old
    · exact Or.inr rfl
    · exact absurd same (free old before)

variable (db : CredentialDb) (fails : Bool)

@[simp] theorem accounts_putAPIKey (k : APIKeyRow) :
    (putAPIKey db fails k).accounts = db.accounts := by
  unfold putAPIKey
  split
  · rfl
  · rfl

@[simp] theorem sessions_putAPIKey (k : APIKeyRow) :
    (putAPIKey db fails k).sessions = db.sessions := by
  unfold putAPIKey
  split
  · rfl
  · rfl

@[simp] theorem accounts_deleteAPIKey (id : String) :
    (deleteAPIKey db fails id).1.accounts = db.accounts := by
  unfold deleteAPIKey
  split
  · rfl
  · rfl

@[simp] theorem sessions_deleteAPIKey (id : String) :
    (deleteAPIKey db fails id).1.sessions = db.sessions := by
  unfold deleteAPIKey
  split
  · rfl
  · rfl

theorem of_mem_deleteAPIKey {db : CredentialDb} {fails : Bool} {id : String} {row : APIKeyRow}
    (stored : row ∈ (deleteAPIKey db fails id).1.apiKeys.rows) : row ∈ db.apiKeys.rows := by
  unfold deleteAPIKey at stored
  split at stored
  · exact stored
  · exact ((Table.mem_deleteWhere _ _ _).mp stored).1

theorem of_getUserByToken {db : CredentialDb} {hash : String} {u : UserRow}
    (found : getUserByToken db hash = some u) :
    u ∈ db.accounts.users.rows ∧ ∃ k ∈ db.apiKeys.rows, k.tokenHash = hash ∧ k.userID = u.id := by
  unfold getUserByToken at found
  split at found
  · contradiction
  · rename_i k held
    split at found
    · contradiction
    · have ⟨stored, same⟩ := (getUserByID_eq_some _ _ _).mp found
      exact ⟨stored, k, List.mem_of_find?_eq_some held, by simpa using List.find?_some held,
        same.symm⟩

def createSession (db : CredentialDb) (fails : Bool) (now : Nat)
    (principalType principalID tokenHash scopeType scopeID : String) (ttl : Int) :
    Option CredentialDb :=
  if fails then none
  else
    (db.sessions.insert {
      principalType := principalType
      principalID := principalID
      tokenHash := tokenHash
      scopeType := scopeType
      scopeID := scopeID
      expiresAt := now + ttl.tdiv 1000000000 * 1000000000
      revokedAt := none }).map (fun sessions => { db with sessions := sessions })

def SessionRow.Valid (sess : SessionRow) (now : Nat) : Prop :=
  sess.revokedAt = none ∧ (now : Int) ≤ sess.expiresAt

def getSessionByToken (db : CredentialDb) (now : Nat) (tokenHash : String) : Option SessionRow :=
  match db.sessions.find tokenHash with
  | none => none
  | some sess =>
    if sess.revokedAt ≠ none ∨ (now : Int) > sess.expiresAt then none else some sess

def revokeSession (db : CredentialDb) (fails : Bool) (now : Nat) (tokenHash : String) :
    CredentialDb :=
  if fails then db
  else { db with
    sessions := db.sessions.updateWhere (fun row => row.tokenHash = tokenHash)
      (fun row => { row with revokedAt := some now }) (fun _ => rfl) }

variable (now : Nat) (hash : String)

@[simp] theorem accounts_revokeSession :
    (revokeSession db fails now hash).accounts = db.accounts := by
  unfold revokeSession
  split
  · rfl
  · rfl

@[simp] theorem apiKeys_revokeSession : (revokeSession db fails now hash).apiKeys = db.apiKeys := by
  unfold revokeSession
  split
  · rfl
  · rfl

theorem getSessionByToken_eq_some (sess : SessionRow) :
    getSessionByToken db now hash = some sess ↔
      sess ∈ db.sessions.rows ∧ sess.tokenHash = hash ∧ sess.Valid now := by
  unfold getSessionByToken
  constructor
  · intro found
    split at found
    · contradiction
    · rename_i stored
      split at found
      · contradiction
      · rename_i valid
        obtain rfl := Option.some.inj found
        have ⟨member, same⟩ := (Table.find_eq_some _ _ _).mp stored
        push Not at valid
        exact ⟨member, same, valid⟩
  · rintro ⟨member, same, unrevoked, unexpired⟩
    rw [(Table.find_eq_some _ _ _).mpr ⟨member, same⟩]
    simp only
    rw [if_neg]
    push Not
    exact ⟨unrevoked, unexpired⟩

theorem of_mem_createSession {db next : CredentialDb} {fails : Bool} {now : Nat}
    {principalType principalID tokenHash scopeType scopeID : String} {ttl : Int}
    (created : createSession db fails now principalType principalID tokenHash scopeType scopeID
      ttl = some next) :
    next.accounts = db.accounts ∧ next.apiKeys = db.apiKeys ∧ ∀ row ∈ next.sessions.rows,
      row ∈ db.sessions.rows ∨ row.tokenHash = tokenHash ∧ row.principalID = principalID := by
  unfold createSession at created
  split at created
  · contradiction
  · obtain ⟨sessions, inserted, rfl⟩ := Option.map_eq_some_iff.mp created
    refine ⟨rfl, rfl, ?_⟩
    intro row stored
    rcases (Table.mem_insert inserted row).mp stored with old | rfl
    · exact Or.inl old
    · exact Or.inr ⟨rfl, rfl⟩

theorem of_mem_revokeSession {db : CredentialDb} {fails : Bool} {now : Nat} {hash : String}
    {row : SessionRow} (stored : row ∈ (revokeSession db fails now hash).sessions.rows) :
    ∃ old ∈ db.sessions.rows, row.tokenHash = old.tokenHash ∧
      row.principalID = old.principalID := by
  unfold revokeSession at stored
  split at stored
  · exact ⟨row, stored, rfl, rfl⟩
  · simp only [Table.mem_updateWhere] at stored
    obtain ⟨old, before, rfl⟩ := stored
    refine ⟨old, before, ?_⟩
    split
    · exact ⟨rfl, rfl⟩
    · exact ⟨rfl, rfl⟩

end Porter.Store
