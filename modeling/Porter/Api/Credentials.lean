import Porter.Api.Bearer
import Porter.Run.Guarded

/-!
# Credentials of deleted users

The service that issues credentials and deletes users, call by call, with the credentials it has
issued so far.
-/
namespace Porter.Api

open Sql Store Auth Run

structure LoginReq where
  username : String
  password : String

/-- The ids `NewID` draws for the token and for the row, and whether the row is not written. -/
structure KeyRun where
  first : String
  second : String
  keyID : String
  putFails : Bool

def verifyPassword (hashPassword : String → String → String) (password salt expected : String) :
    Bool :=
  if password = "" ∨ salt = "" ∨ expected = "" then false
  else hashPassword password salt = expected

def KeyRun.loginToken (run : KeyRun) : List UInt8 := utf8 (run.first ++ run.second)

def KeyRun.keyToken (run : KeyRun) : List UInt8 := utf8 run.first

variable (ring : Keyring) (db : CredentialDb)

def Keyring.issueUserToken (run : KeyRun) (user : UserRow) : CredentialDb × List UInt8 :=
  (putAPIKey db run.putFails ⟨run.keyID, user.id, "session", ring.hashToken run.loginToken⟩,
    run.loginToken)

def Keyring.handleLogin (hashPassword : String → String → String) (db : CredentialDb)
    (run : KeyRun) (body : Except String LoginReq) :
    CredentialDb × Response (List UInt8 × UserRow) :=
  let refused := (db, .error statusUnauthorized "invalid username or password")
  match body with
  | .error err => (db, badRequest err)
  | .ok req =>
    match db.accounts.getUserByUsername req.username with
    | none => refused
    | some user =>
      if verifyPassword hashPassword req.password user.salt user.passwordHash then
        let issued := ring.issueUserToken db run user
        (issued.1, .json statusOK (issued.2, user))
      else refused

def Keyring.handleCreateAPIKey (run : KeyRun) (me : String) (body : Except String String) :
    CredentialDb × Response (APIKeyRow × List UInt8) :=
  match body with
  | .error err => (db, badRequest err)
  | .ok name =>
    match db.accounts.getUserByUsername me with
    | none => (db, .error statusUnauthorized "authenticated user not found")
    | some user =>
      let k : APIKeyRow :=
        ⟨run.keyID, user.id, if name = "" then "default" else name, ring.hashToken run.keyToken⟩
      (putAPIKey db run.putFails k, .json statusCreated (k, run.keyToken))

def handleDeleteAPIKey (fails : Bool) (keyID : String) : CredentialDb × Response String :=
  let deleted := deleteAPIKey db fails keyID
  (deleted.1,
    if deleted.2 then .json statusOK "deleted" else .error statusNotFound "api key not found")

def handleDeleteUser (fails : Bool) (username : String) : CredentialDb × Response String :=
  match db.accounts.getUserByUsername username with
  | none => (db, .error statusNotFound "user not found")
  | some user =>
    ({ db with accounts := deleteUser db.accounts fails user.id }, .json statusOK "deleted")

inductive Credential where
  | apiKey (raw : List UInt8) (userID : String)
  | jwt (scopeID : List UInt8) (clock : Clock)
  | session (raw : List UInt8)

structure Issued where
  user : String
  credential : Credential

structure Service where
  db : CredentialDb
  clock : Clock
  issued : List Issued

structure SessionRun where
  principalType : String
  principalID : String
  raw : List UInt8
  scopeType : String
  scopeID : String
  ttl : Int
  fails : Bool

/-- A call of the service; requests with a bearer token are those `auth` lets through. -/
inductive CredentialCall where
  | tick (clock : Clock)
  | putUser (fault : Option String) (u : UserRow)
  | login (run : KeyRun) (body : Except String LoginReq)
  | createAPIKey (run : KeyRun) (tok tenantHeader : List UInt8) (body : Except String String)
  | deleteAPIKey (fails : Bool) (keyID : String)
  | mintToken (tok tenantHeader : List UInt8)
  | createSession (run : SessionRun)
  | revokeSession (fails : Bool) (raw : List UInt8)
  | deleteUser (fails : Bool) (username : String)

def Keyring.step (hashPassword : String → String → String) (s : Service) :
    CredentialCall → Service
  | .tick clock => { s with clock := clock }
  | .putUser fault u => { s with db.accounts := putUser s.db.accounts fault u }
  | .login run body =>
    match ring.handleLogin hashPassword s.db run body with
    | (db, .json _ (token, user)) =>
      { s with db := db, issued := ⟨user.username, .apiKey token user.id⟩ :: s.issued }
    | (db, .error _ _) => { s with db := db }
  | .createAPIKey run tok tenantHeader body =>
    match ring.authenticate s.db s.clock.nanos tok tenantHeader with
    | none => s
    | some (p, _) =>
      match ring.handleCreateAPIKey s.db run p.username body with
      | (db, .json _ (k, token)) =>
        { s with db := db, issued := ⟨p.username, .apiKey token k.userID⟩ :: s.issued }
      | (db, .error _ _) => { s with db := db }
  | .deleteAPIKey fails keyID => { s with db := (handleDeleteAPIKey s.db fails keyID).1 }
  | .mintToken tok tenantHeader =>
    match ring.authenticate s.db s.clock.nanos tok tenantHeader with
    | none => s
    | some (p, actx) =>
      match ring.handleMintToken p.username actx s.clock with
      | .json _ _ => { s with issued := ⟨p.username, .jwt actx.scopeID s.clock⟩ :: s.issued }
      | .error _ _ => s
  | .createSession run =>
    match Store.createSession s.db run.fails s.clock.nanos run.principalType run.principalID
        (ring.hashToken run.raw) run.scopeType run.scopeID run.ttl with
    | none => s
    | some db => { s with db := db, issued := ⟨run.principalID, .session run.raw⟩ :: s.issued }
  | .revokeSession fails raw =>
    { s with db := Store.revokeSession s.db fails s.clock.nanos (ring.hashToken raw) }
  | .deleteUser fails username => { s with db := (handleDeleteUser s.db fails username).1 }

variable (i : Issued)

def Issued.token : List UInt8 :=
  match i.credential with
  | .apiKey raw _ => raw
  | .jwt scopeID clock =>
    ring.jwtKey.mint ring.json ring.crypto (sessionCall i.user scopeID clock)
  | .session raw => raw

def Issued.call : Option MintCall :=
  match i.credential with
  | .jwt scopeID clock => some (sessionCall i.user scopeID clock)
  | _ => none

variable (s : Service)

def NewToken (raw : List UInt8) : Prop :=
  0x2E ∉ raw ∧ ∀ i ∈ s.issued, i.token ring ≠ raw

/-- The ids that are drawn are new; no key of another user has that of a user. -/
def Draws : CredentialCall → Prop
  | .putUser _ u => ∀ i ∈ s.issued, ∀ raw, i.credential = .apiKey raw u.id → i.user = u.username
  | .login run _ =>
    NewToken ring s run.loginToken ∧ ∀ k ∈ s.db.apiKeys.rows, k.id ≠ run.keyID
  | .createAPIKey run _ _ _ =>
    NewToken ring s run.keyToken ∧ ∀ k ∈ s.db.apiKeys.rows, k.id ≠ run.keyID
  | .createSession run => NewToken ring s run.raw
  | _ => True

def CollisionFree (issued : List Issued) : Prop :=
  ∀ i ∈ issued, ∀ j ∈ issued, ring.hashToken (i.token ring) = ring.hashToken (j.token ring) →
    i.token ring = j.token ring

def Issued.OfKey (k : APIKeyRow) : Prop :=
  ∃ raw, i.credential = .apiKey raw k.userID ∧ k.tokenHash = ring.hashToken raw

def Issued.OfSession (row : SessionRow) : Prop :=
  row.principalID = i.user ∧
    ∃ raw, i.credential = .session raw ∧ row.tokenHash = ring.hashToken raw

/-- A JWT is minted for a named user, and any other token has no dots and is its own. -/
def Issued.Sound (issued : List Issued) (i : Issued) : Prop :=
  match i.call with
  | some _ => ring.jwtKey.kid ≠ "" ∧ i.user ≠ ""
  | none => 0x2E ∉ i.token ring ∧ ∀ j ∈ issued, j.token ring = i.token ring → j = i

structure Recorded (ring : Keyring) (s : Service) : Prop where
  keys : ∀ k ∈ s.db.apiKeys.rows, ∃ i ∈ s.issued, i.OfKey ring k
  sessions : ∀ row ∈ s.db.sessions.rows, ∃ i ∈ s.issued, i.OfSession ring row
  sound : ∀ i ∈ s.issued, i.Sound ring s.issued
  owners : ∀ i ∈ s.issued, ∀ raw id, i.credential = .apiKey raw id →
    ∀ u ∈ s.db.accounts.users.rows, u.id = id → u.username = i.user

variable {issued : List Issued}

theorem Issued.Sound.cons {ring : Keyring} {i new : Issued}
    (holds : i.Sound ring issued) (apart : new.token ring = i.token ring → 0x2E ∈ i.token ring) :
    i.Sound ring (new :: issued) := by
  unfold Issued.Sound at holds ⊢
  split
  · simpa only [*] using holds
  · rename_i drawn
    rw [drawn] at holds
    refine ⟨holds.1, ?_⟩
    intro j member same
    rcases List.mem_cons.mp member with rfl | old
    · exact absurd (apart same) holds.1
    · exact holds.2 j old same

section

variable {ring : Keyring} {s : Service} {new : Issued} (holds : Recorded ring s)

include holds

theorem Recorded.issue (sound : new.Sound ring (new :: s.issued))
    (apart : ∀ i ∈ s.issued, new.token ring = i.token ring → 0x2E ∈ i.token ring)
    (owner : ∀ raw id, new.credential = .apiKey raw id →
      ∀ u ∈ s.db.accounts.users.rows, u.id = id → u.username = new.user) :
    Recorded ring { s with issued := new :: s.issued } where
  keys := by
    intro k member
    obtain ⟨i, known, ofKey⟩ := holds.keys k member
    exact ⟨i, List.mem_cons_of_mem _ known, ofKey⟩
  sessions := by
    intro row member
    obtain ⟨i, known, ofSession⟩ := holds.sessions row member
    exact ⟨i, List.mem_cons_of_mem _ known, ofSession⟩
  sound := by
    intro i member
    rcases List.mem_cons.mp member with rfl | old
    · exact sound
    · exact (holds.sound i old).cons (apart i old)
  owners := by
    intro i member
    rcases List.mem_cons.mp member with rfl | old
    · exact owner
    · exact holds.owners i old

theorem Recorded.draw (drawn : new.call = none) (fresh : NewToken ring s (new.token ring))
    (owner : ∀ raw id, new.credential = .apiKey raw id →
      ∀ u ∈ s.db.accounts.users.rows, u.id = id → u.username = new.user) :
    Recorded ring { s with issued := new :: s.issued } := by
  refine holds.issue ?_ (fun i member same => absurd same.symm (fresh.2 i member)) owner
  unfold Issued.Sound
  rw [drawn]
  refine ⟨fresh.1, ?_⟩
  intro j member same
  rcases List.mem_cons.mp member with rfl | old
  · rfl
  · exact absurd same (fresh.2 j old)

theorem Recorded.issueKey {user : UserRow} (stored : user ∈ s.db.accounts.users.rows)
    (fails : Bool) {keyID : String} (name : String) {raw : List UInt8}
    (fresh : NewToken ring s raw) (free : ∀ k ∈ s.db.apiKeys.rows, k.id ≠ keyID) :
    Recorded ring {
      s with
      db := putAPIKey s.db fails ⟨keyID, user.id, name, ring.hashToken raw⟩
      issued := ⟨user.username, .apiKey raw user.id⟩ :: s.issued } := by
  have issued : Recorded ring
      { s with issued := ⟨user.username, .apiKey raw user.id⟩ :: s.issued } := by
    refine holds.draw rfl fresh ?_
    -- the row with the id of the user is the row of the user
    rintro _ _ ⟨⟩ u present same
    rw [List.inj_on_of_nodup_map s.db.accounts.userKey present stored same]
  refine { issued with keys := ?_, sessions := ?_, owners := ?_ }
  · intro k member
    rcases of_mem_putAPIKey free member with old | rfl
    · exact issued.keys k old
    · exact ⟨_, List.mem_cons_self, raw, rfl, rfl⟩
  · rw [sessions_putAPIKey]
    exact issued.sessions
  · rw [accounts_putAPIKey]
    exact issued.owners

theorem Recorded.issueSession {next : CredentialDb} {run : SessionRun}
    (fresh : NewToken ring s run.raw)
    (created : Store.createSession s.db run.fails s.clock.nanos run.principalType run.principalID
      (ring.hashToken run.raw) run.scopeType run.scopeID run.ttl = some next) :
    Recorded ring {
      s with
      db := next
      issued := ⟨run.principalID, .session run.raw⟩ :: s.issued } := by
  obtain ⟨accounts, apiKeys, stored⟩ := of_mem_createSession created
  have issued :
      Recorded ring { s with issued := ⟨run.principalID, .session run.raw⟩ :: s.issued } :=
    holds.draw rfl fresh nofun
  refine { issued with keys := ?_, sessions := ?_, owners := ?_ }
  · rw [apiKeys]
    exact issued.keys
  · intro row member
    rcases stored row member with old | ⟨hash, principal⟩
    · exact issued.sessions row old
    · exact ⟨_, List.mem_cons_self, principal, run.raw, rfl, hash⟩
  · rw [accounts]
    exact issued.owners

theorem Recorded.issueJwt (configured : ring.jwtKey.kid ≠ "") {user : String} (named : user ≠ "")
    (scopeID : List UInt8) :
    Recorded ring { s with issued := ⟨user, .jwt scopeID s.clock⟩ :: s.issued } := by
  refine holds.issue ⟨configured, named⟩ ?_ nofun
  intro i member same
  rw [← same]
  exact dot_mem_mint _ _ _ _

end

theorem of_getUserByUsername {db : AccountDb} {username : String} {u : UserRow}
    (found : db.getUserByUsername username = some u) :
    u ∈ db.users.rows ∧ u.username = username :=
  (Table.find_eq_some _ _ _).mp found

variable (hashPassword : String → String → String)

theorem handleLogin_cases (db : CredentialDb) (run : KeyRun) (body : Except String LoginReq) :
    (∃ user ∈ db.accounts.users.rows, ring.handleLogin hashPassword db run body =
      (putAPIKey db run.putFails ⟨run.keyID, user.id, "session", ring.hashToken run.loginToken⟩,
        .json statusOK (run.loginToken, user))) ∨
    ∃ status err, ring.handleLogin hashPassword db run body = (db, .error status err) := by
  unfold Keyring.handleLogin
  cases body with
  | error err => exact Or.inr ⟨_, _, rfl⟩
  | ok req =>
    simp only
    cases found : db.accounts.getUserByUsername req.username with
    | none => exact Or.inr ⟨_, _, rfl⟩
    | some user =>
      simp only
      split
      · exact Or.inl ⟨user, (of_getUserByUsername found).1, rfl⟩
      · exact Or.inr ⟨_, _, rfl⟩

theorem handleCreateAPIKey_cases (run : KeyRun) (me : String) (body : Except String String) :
    (∃ user ∈ db.accounts.users.rows, ∃ name, user.username = me ∧
      ring.handleCreateAPIKey db run me body =
        (putAPIKey db run.putFails ⟨run.keyID, user.id, name, ring.hashToken run.keyToken⟩,
          .json statusCreated (⟨run.keyID, user.id, name, ring.hashToken run.keyToken⟩,
            run.keyToken))) ∨
    ∃ status err, ring.handleCreateAPIKey db run me body = (db, .error status err) := by
  unfold Keyring.handleCreateAPIKey
  cases body with
  | error err => exact Or.inr ⟨_, _, rfl⟩
  | ok name =>
    cases found : db.accounts.getUserByUsername me with
    | none => exact Or.inr ⟨_, _, rfl⟩
    | some user =>
      have ⟨stored, same⟩ := of_getUserByUsername found
      exact Or.inl ⟨user, stored, _, same, rfl⟩

theorem recorded_step (s : Service) (call : CredentialCall) (holds : Recorded ring s)
    (draws : Draws ring s call) : Recorded ring (ring.step hashPassword s call) := by
  cases call with
  | tick clock => exact { holds with }
  | putUser fault u =>
    refine { holds with owners := ?_ }
    intro i member raw id kind row stored same
    rcases of_mem_putUser stored with ⟨old, before, sameID, sameName⟩ | rfl
    · rw [sameName]
      exact holds.owners i member raw id kind old before (sameID.symm.trans same)
    · rw [← same] at kind
      exact (draws i member raw kind).symm
  | login run body =>
    simp only [Keyring.step]
    rcases handleLogin_cases _ _ _ _ body with
      ⟨user, stored, answer⟩ | ⟨_, _, answer⟩
    · rw [answer]
      exact holds.issueKey stored run.putFails "session" draws.1 draws.2
    · rw [answer]
      exact holds
  | createAPIKey run tok tenantHeader body =>
    simp only [Keyring.step]
    split
    · exact holds
    · rename_i p _ _
      rcases handleCreateAPIKey_cases _ _ _ _ body with
        ⟨user, stored, name, same, answer⟩ | ⟨_, _, answer⟩
      · rw [answer, ← same]
        exact holds.issueKey stored run.putFails name draws.1 draws.2
      · rw [answer]
        exact holds
  | deleteAPIKey fails keyID =>
    refine { holds with keys := ?_, sessions := ?_, owners := ?_ }
    · exact fun k stored => holds.keys k (of_mem_deleteAPIKey stored)
    · rw [Keyring.step, handleDeleteAPIKey, sessions_deleteAPIKey]
      exact holds.sessions
    · rw [Keyring.step, handleDeleteAPIKey, accounts_deleteAPIKey]
      exact holds.owners
  | mintToken tok tenantHeader =>
    simp only [Keyring.step]
    split
    · exact holds
    · rename_i p actx authenticated
      split
      · rename_i status body answered
        unfold Keyring.handleMintToken at answered
        split at answered
        · contradiction
        · rename_i configured
          exact holds.issueJwt configured (authenticate_named authenticated) actx.scopeID
      · exact holds
  | createSession run =>
    simp only [Keyring.step]
    split
    · exact holds
    · rename_i next created
      exact holds.issueSession draws created
  | revokeSession fails raw =>
    refine { holds with keys := ?_, sessions := ?_, owners := ?_ }
    · rw [Keyring.step, apiKeys_revokeSession]
      exact holds.keys
    · intro row stored
      obtain ⟨old, before, hash, principal⟩ := of_mem_revokeSession stored
      obtain ⟨i, member, same, raw, kind, hashed⟩ := holds.sessions old before
      exact ⟨i, member, principal.trans same, raw, kind, hash.trans hashed⟩
    · rw [Keyring.step, accounts_revokeSession]
      exact holds.owners
  | deleteUser fails username =>
    simp only [Keyring.step, handleDeleteUser]
    cases found : s.db.accounts.getUserByUsername username with
    | none => exact holds
    | some user =>
      refine { holds with owners := ?_ }
      exact fun i member raw id kind u stored =>
        holds.owners i member raw id kind u (of_mem_deleteUser stored)

def LockedOut (i : Issued) : Prop :=
  (ring.resolveBearer s.db s.clock.nanos (i.token ring)).1.username = ""

/-- The credential is worth nothing without its user: a key at once, a JWT or a session when it has
expired, never had a tenant or is revoked. -/
def Spent (i : Issued) : Prop :=
  match i.credential with
  | .apiKey _ _ => True
  | .jwt scopeID clock =>
    scopeID = [] ∨ (sessionCall i.user scopeID clock).expiry < unix s.clock.nanos
  | .session raw => ∀ row ∈ s.db.sessions.rows, row.tokenHash = ring.hashToken raw →
      ¬ row.Valid s.clock.nanos

section

variable {ring : Keyring} {s : Service} (holds : Recorded ring s)
  (apart : CollisionFree ring s.issued)

include holds apart

theorem issued_eq {i j : Issued} (here : i ∈ s.issued) (there : j ∈ s.issued)
    (drawn : j.call = none)
    (same : ring.hashToken (j.token ring) = ring.hashToken (i.token ring)) : i = j := by
  have sound := holds.sound j there
  unfold Issued.Sound at sound
  rw [drawn] at sound
  exact sound.2 i here (apart j there i here same).symm

theorem ofKey_of_hash {i : Issued} (member : i ∈ s.issued) {k : APIKeyRow}
    (stored : k ∈ s.db.apiKeys.rows) (same : k.tokenHash = ring.hashToken (i.token ring)) :
    i.OfKey ring k := by
  obtain ⟨j, known, raw, kind, hash⟩ := holds.keys k stored
  have drawn : j.call = none := by simp only [Issued.call, kind]
  have token : j.token ring = raw := by simp only [Issued.token, kind]
  rw [issued_eq holds apart member known drawn (by rw [token, ← hash, same])]
  exact ⟨raw, kind, hash⟩

theorem ofSession_of_hash {i : Issued} (member : i ∈ s.issued) {row : SessionRow}
    (stored : row ∈ s.db.sessions.rows) (same : row.tokenHash = ring.hashToken (i.token ring)) :
    i.OfSession ring row := by
  obtain ⟨j, known, principal, raw, kind, hash⟩ := holds.sessions row stored
  have drawn : j.call = none := by simp only [Issued.call, kind]
  have token : j.token ring = raw := by simp only [Issued.token, kind]
  rw [issued_eq holds apart member known drawn (by rw [token, ← hash, same])]
  exact ⟨principal, raw, kind, hash⟩

theorem getUserByToken_gone {i : Issued} (member : i ∈ s.issued)
    (gone : ∀ row ∈ s.db.accounts.users.rows, row.username ≠ i.user) :
    getUserByToken s.db (ring.hashToken (i.token ring)) = none := by
  cases found : getUserByToken s.db (ring.hashToken (i.token ring)) with
  | none => rfl
  | some u =>
    obtain ⟨present, k, stored, same, owner⟩ := of_getUserByToken found
    obtain ⟨raw, kind, _⟩ := ofKey_of_hash holds apart member stored same
    exact absurd (holds.owners i member raw k.userID kind u present owner.symm) (gone u present)

theorem getSessionByToken_other {i : Issued} (member : i ∈ s.issued)
    (other : ∀ raw, i.credential ≠ .session raw) :
    getSessionByToken s.db s.clock.nanos (ring.hashToken (i.token ring)) = none := by
  cases found : getSessionByToken s.db s.clock.nanos (ring.hashToken (i.token ring)) with
  | none => rfl
  | some sess =>
    obtain ⟨stored, same, _⟩ := (getSessionByToken_eq_some _ _ _ _).mp found
    obtain ⟨_, raw, session, _⟩ := ofSession_of_hash holds apart member stored same
    exact absurd session (other raw)

theorem resolveBearer_gone {i : Issued} (member : i ∈ s.issued)
    (gone : ∀ row ∈ s.db.accounts.users.rows, row.username ≠ i.user)
    (refused : ring.jwtClaims s.clock.nanos (i.token ring) = none) :
    (ring.resolveBearer s.db s.clock.nanos (i.token ring)).1.username =
      (getSessionByToken s.db s.clock.nanos (ring.hashToken (i.token ring))).elim ""
        SessionRow.principalID := by
  unfold Keyring.resolveBearer
  rw [refused, getUserByToken_gone holds apart member gone]
  cases getSessionByToken s.db s.clock.nanos (ring.hashToken (i.token ring)) with
  | none | some => rfl

end

theorem jwtClaims_drawn {ring : Keyring} {i : Issued} (drawn : i.call = none)
    (sound : i.Sound ring issued) (now : Nat) : ring.jwtClaims now (i.token ring) = none := by
  unfold Issued.Sound at sound
  rw [drawn] at sound
  unfold Keyring.jwtClaims
  rw [if_neg]
  rintro ⟨dots, _⟩
  rw [List.count_eq_zero.mpr sound.1] at dots
  contradiction

section

variable {ring : Keyring} {s : Service} (holds : Recorded ring s)
  (apart : CollisionFree ring s.issued) {i : Issued} (member : i ∈ s.issued)
  (gone : ∀ row ∈ s.db.accounts.users.rows, row.username ≠ i.user)

include holds apart member gone

theorem lockedOut_apiKey {raw : List UInt8} {id : String} (kind : i.credential = .apiKey raw id) :
    LockedOut ring s i := by
  have drawn : i.call = none := by simp only [Issued.call, kind]
  unfold LockedOut
  rw [resolveBearer_gone holds apart member gone (jwtClaims_drawn drawn (holds.sound i member) _),
    getSessionByToken_other holds apart member (by simp [kind])]
  rfl

theorem lockedOut_session (named : i.user ≠ "") {raw : List UInt8}
    (kind : i.credential = .session raw) :
    LockedOut ring s i ↔ ∀ row ∈ s.db.sessions.rows, row.tokenHash = ring.hashToken raw →
      ¬ row.Valid s.clock.nanos := by
  have drawn : i.call = none := by simp only [Issued.call, kind]
  have token : i.token ring = raw := by simp only [Issued.token, kind]
  unfold LockedOut
  rw [resolveBearer_gone holds apart member gone (jwtClaims_drawn drawn (holds.sound i member) _)]
  cases found : getSessionByToken s.db s.clock.nanos (ring.hashToken (i.token ring)) with
  | none =>
    simp only [Option.elim_none, true_iff]
    intro row stored same valid
    rw [(getSessionByToken_eq_some _ _ _ row).mpr ⟨stored, by rw [same, token], valid⟩] at found
    contradiction
  | some sess =>
    obtain ⟨stored, same, valid⟩ := (getSessionByToken_eq_some _ _ _ _).mp found
    have principal := (ofSession_of_hash holds apart member stored same).1
    constructor
    · intro empty
      exact absurd (principal.symm.trans empty) named
    · intro spent
      exact absurd valid (spent sess stored (by rw [same, token]))

theorem lockedOut_jwt
    (trusted : Trusted ring.jwtKey ring.json ring.crypto (s.issued.filterMap Issued.call))
    {scopeID : List UInt8} {clock : Clock} (kind : i.credential = .jwt scopeID clock) :
    LockedOut ring s i ↔
      scopeID = [] ∨ (sessionCall i.user scopeID clock).expiry < unix s.clock.nanos := by
  have token : i.token ring = ring.jwtKey.mint ring.json ring.crypto
      (sessionCall i.user scopeID clock) := by simp only [Issued.token, kind]
  have recorded : sessionCall i.user scopeID clock ∈ s.issued.filterMap Issued.call :=
    List.mem_filterMap.mpr ⟨i, member, by simp only [Issued.call, kind]⟩
  have sound := holds.sound i member
  unfold Issued.Sound at sound
  simp only [Issued.call, kind] at sound
  obtain ⟨configured, named⟩ := sound
  unfold LockedOut
  cases claimed : ring.jwtClaims s.clock.nanos (i.token ring) with
  | some claims =>
    have accepted := claimed
    rw [token] at accepted
    obtain ⟨subject, _, filled, current⟩ := jwtClaims_minted trusted recorded accepted
    unfold Keyring.resolveBearer
    rw [claimed]
    constructor
    · intro empty
      exact absurd (subject.symm.trans empty) named
    · rintro (empty | expired)
      · exact absurd empty filled
      · omega
  | none =>
    rw [resolveBearer_gone holds apart member gone claimed,
      getSessionByToken_other holds apart member (by simp [kind])]
    simp only [Option.elim_none, true_iff]
    by_contra alive
    push Not at alive
    obtain ⟨claims, accepted⟩ :=
      jwtClaims_accepts trusted recorded configured named alive.1 alive.2
    rw [← token, claimed] at accepted
    contradiction

theorem lockedOut_iff
    (trusted : Trusted ring.jwtKey ring.json ring.crypto (s.issued.filterMap Issued.call))
    (named : i.user ≠ "") : LockedOut ring s i ↔ Spent ring s i := by
  unfold Spent
  cases kind : i.credential with
  | apiKey raw id => exact iff_of_true (lockedOut_apiKey holds apart member gone kind) trivial
  | jwt scopeID clock => exact lockedOut_jwt holds apart member gone trusted kind
  | session raw => exact lockedOut_session holds apart member gone named kind

end

def Service.start (accounts : AccountDb) (clock : Clock) : Service :=
  ⟨⟨accounts, .empty _, .empty _⟩, clock, []⟩

theorem recorded_start (accounts : AccountDb) (clock : Clock) :
    Recorded ring (Service.start accounts clock) where
  keys := by simp [Service.start, Table.empty]
  sessions := by simp [Service.start, Table.empty]
  sound := by simp [Service.start]
  owners := by simp [Service.start]

theorem issued_step (s : Service) (call : CredentialCall) {i : Issued} (member : i ∈ s.issued) :
    i ∈ (ring.step hashPassword s call).issued := by
  cases call with
  | tick | putUser | deleteAPIKey | revokeSession | deleteUser => exact member
  | login run body =>
    simp only [Keyring.step]
    split
    · exact List.mem_cons_of_mem _ member
    · exact member
  | createAPIKey | mintToken =>
    simp only [Keyring.step]
    split
    · exact member
    · split
      · exact List.mem_cons_of_mem _ member
      · exact member
  | createSession run =>
    simp only [Keyring.step]
    split
    · exact member
    · exact List.mem_cons_of_mem _ member

/-- While no row has the name of a deleted user, the tokens issued before resolve to nobody exactly
when their credentials are spent. -/
theorem deleted_user_iff (ring : Keyring) (hashPassword : String → String → String)
    (accounts : AccountDb) (clock : Clock) (before after : List CredentialCall) (username : String)
    (final : Service)
    (ends : final = run (ring.step hashPassword) (Service.start accounts clock)
      (before ++ .deleteUser false username :: after))
    (named : username ≠ "")
    (draws : Guarded (ring.step hashPassword) (Draws ring) (Service.start accounts clock)
      (before ++ .deleteUser false username :: after))
    (apart : CollisionFree ring final.issued)
    (trusted : Trusted ring.jwtKey ring.json ring.crypto (final.issued.filterMap Issued.call))
    (gone : ∀ row ∈ final.db.accounts.users.rows, row.username ≠ username) :
    (∀ i ∈ (run (ring.step hashPassword) (Service.start accounts clock) before).issued,
      i.user = username → LockedOut ring final i) ↔
    ∀ i ∈ (run (ring.step hashPassword) (Service.start accounts clock) before).issued,
      i.user = username → Spent ring final i := by
  have holds : Recorded ring final := by
    rw [ends]
    exact run_invariant _ _ _ (recorded_step _ _) _ _
      (recorded_start ring accounts clock) draws
  have lasting : ∀ i ∈ (run (ring.step hashPassword) (Service.start accounts clock) before).issued,
      i ∈ final.issued := by
    intro i member
    rw [ends, run_append]
    exact run_preserved (ring.step hashPassword) (fun s => i ∈ s.issued)
      (fun s call => issued_step ring hashPassword s call) _ _ member
  have sharp : ∀ i ∈ (run (ring.step hashPassword) (Service.start accounts clock) before).issued,
      i.user = username → (LockedOut ring final i ↔ Spent ring final i) := by
    intro i member user
    refine lockedOut_iff holds apart (lasting i member) ?_ trusted ?_
    · rw [user]
      exact gone
    · rw [user]
      exact named
  constructor
  · intro locked i member user
    exact (sharp i member user).mp (locked i member user)
  · intro spent i member user
    exact (sharp i member user).mpr (spent i member user)

def plainHash (password salt : String) : String := salt ++ ":" ++ password

def loginAndMint : List CredentialCall :=
  [.login ⟨"t", "1", "k1", false⟩ (.ok ⟨"alice", "pw"⟩), .mintToken (utf8 "t1") (utf8 "acme")]

def loggedIn : Service := ⟨sampleDb, sampleClock, [⟨"alice", .apiKey (utf8 "t1") "u1"⟩]⟩

theorem login_sample : (sampleRing "acme").step plainHash (Service.start sampleAccounts sampleClock)
    (.login ⟨"t", "1", "k1", false⟩ (.ok ⟨"alice", "pw"⟩)) = loggedIn := rfl

theorem mint_sample : (sampleRing "acme").step plainHash loggedIn
    (.mintToken (utf8 "t1") (utf8 "acme")) =
      { loggedIn with issued := ⟨"alice", .jwt (utf8 "acme") sampleClock⟩ :: loggedIn.issued } := by
  simp only [Keyring.step]
  have authenticated := authenticate_sample "acme"
  rw [resolveScope_org (by decide) (by decide)] at authenticated
  have same : (sampleRing "acme").authenticate loggedIn.db loggedIn.clock.nanos (utf8 "t1")
      (utf8 "acme") = some (⟨"alice", "member"⟩, ⟨"user", "alice", "org", utf8 "acme"⟩) :=
    authenticated
  rw [same]
  rfl

variable (later : Clock)

def outlived : Service where
  db := { sampleDb with accounts := deleteUser sampleAccounts false "u1" }
  clock := later
  issued := [⟨"alice", .jwt (utf8 "acme") sampleClock⟩, ⟨"alice", .apiKey (utf8 "t1") "u1"⟩]

theorem run_loginAndMint : run ((sampleRing "acme").step plainHash)
    (Service.start sampleAccounts sampleClock) loginAndMint =
      { loggedIn with issued := ⟨"alice", .jwt (utf8 "acme") sampleClock⟩ :: loggedIn.issued } := by
  rw [loginAndMint, run_cons, run_cons, login_sample, mint_sample]
  rfl

theorem run_outlived : outlived later = run ((sampleRing "acme").step plainHash)
    (Service.start sampleAccounts sampleClock)
      (loginAndMint ++ .deleteUser false "alice" :: [.tick later]) := by
  rw [run_append, run_loginAndMint]
  rfl

theorem gone_outlived :
    ∀ row ∈ (outlived later).db.accounts.users.rows, row.username ≠ "alice" := by
  have none : (outlived later).db.accounts.users.rows = [] := rfl
  simp [none]

theorem trusted_outlived : Trusted (sampleRing "acme").jwtKey
    (sampleRing "acme").json (sampleRing "acme").crypto
      ((outlived later).issued.filterMap Issued.call) :=
  trusted_sample "acme"

def hourLater : Clock := ⟨1700003600000000000, by decide, by decide⟩

theorem jwt_outlives_user :
    ∃ final, final = run ((sampleRing "acme").step plainHash)
        (Service.start sampleAccounts sampleClock)
          (loginAndMint ++ .deleteUser false "alice" :: [.tick hourLater]) ∧
      (∀ row ∈ final.db.accounts.users.rows, row.username ≠ "alice") ∧
      ∃ i ∈ (run ((sampleRing "acme").step plainHash) (Service.start sampleAccounts sampleClock)
          loginAndMint).issued,
        i.user = "alice" ∧ ((sampleRing "acme").resolveBearer final.db final.clock.nanos
          (i.token (sampleRing "acme"))).1.username = "alice" := by
  refine ⟨outlived hourLater, run_outlived _, gone_outlived _,
    ⟨"alice", .jwt (utf8 "acme") sampleClock⟩, ?_, rfl, ?_⟩
  · rw [run_loginAndMint]
    exact List.mem_cons_self
  · have recorded : sessionCall "alice" (utf8 "acme") sampleClock ∈
        (outlived hourLater).issued.filterMap Issued.call := List.mem_singleton_self _
    have current : unix (outlived hourLater).clock.nanos ≤
        (sessionCall "alice" (utf8 "acme") sampleClock).expiry := by decide
    have token : Issued.token (sampleRing "acme") ⟨"alice", .jwt (utf8 "acme") sampleClock⟩ =
        (sampleRing "acme").jwtKey.mint (sampleRing "acme").json (sampleRing "acme").crypto
          (sessionCall "alice" (utf8 "acme") sampleClock) := rfl
    rw [token]
    exact resolveBearer_minted (trusted_outlived _) recorded (by decide) (by decide)
      (by decide) current _

def dayLater : Clock := ⟨1700086400000000000, by decide, by decide⟩

theorem deleted_user_iff_expired :
    LockedOut (sampleRing "acme") (outlived dayLater)
      ⟨"alice", .jwt (utf8 "acme") sampleClock⟩ := by
  refine (deleted_user_iff (sampleRing "acme") plainHash sampleAccounts sampleClock loginAndMint
    [.tick dayLater] "alice" (outlived dayLater) (run_outlived dayLater) (by decide) ?_ ?_
    (trusted_outlived dayLater) (gone_outlived dayLater)).mpr ?_ _ ?_ rfl
  · refine ⟨⟨⟨by decide, ?_⟩, ?_⟩, trivial, trivial, trivial, trivial⟩
    · simp [Service.start]
    · simp [Service.start, Table.empty]
  · intro i _ j _ same
    exact hashToken_sample "acme" same
  · rw [run_loginAndMint]
    intro i member _
    rcases List.mem_pair.mp member with rfl | rfl
    · exact Or.inr (by decide)
    · trivial
  · rw [run_loginAndMint]
    exact List.mem_cons_self

end Porter.Api
