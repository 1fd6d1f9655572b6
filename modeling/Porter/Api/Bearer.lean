import Porter.Api.Users
import Porter.Auth.Token
import Porter.Store.Credentials

/-!
# Bearer tokens

How `auth` maps a bearer token to a principal and a scope, and the handler that mints a token for
the principal of a request.
-/
namespace Porter.Api

open Sql Store Auth

/-- `AuthContext` without claims. The id of a scope may come from a header and is a byte string. -/
structure AuthContext where
  principalType : String
  principalID : String
  scopeType : String
  scopeID : List UInt8

structure BearerPrincipal where
  username : String
  role : String

structure Keyring where
  jwtKey : KeyPair
  json : Json
  crypto : Crypto

def hexEncode (bytes : List UInt8) : String :=
  String.ofList (bytes.flatMap fun byte =>
    [Nat.digitChar (byte.toNat / 16), Nat.digitChar (byte.toNat % 16)])

variable (ring : Keyring)

def Keyring.hashToken (raw : List UInt8) : String :=
  hexEncode (ring.crypto.sum256 raw)

def resolveScope (scopeType : String) (tenantHeader : List UInt8) : String × List UInt8 :=
  if tenantHeader = [] ∨ tenantHeader = utf8 "*" then ("platform", [])
  else if scopeType = "" then ("org", tenantHeader)
  else (scopeType, tenantHeader)

variable (db : CredentialDb)

def roleOf (username : String) : String :=
  (db.accounts.getUserByUsername username).elim "" UserRow.role

variable (now : Nat) (tok : List UInt8)

def Keyring.jwtClaims : Option Claims :=
  if tok.count 0x2E = 2 ∧ ring.jwtKey.kid ≠ "" then
    match ring.jwtKey.verify ring.json ring.crypto tok (utf8 "porter-api") now with
    | .error _ => none
    | .ok claims => if claims.subject ≠ "" then some claims else none
  else none

def Keyring.resolveBearer : BearerPrincipal × Option AuthContext :=
  match ring.jwtClaims now tok with
  | some claims =>
    let scope := resolveScope "" (utf8 claims.tenant)
    (⟨claims.subject, roleOf db claims.subject⟩, some ⟨"user", claims.subject, scope.1, scope.2⟩)
  | none =>
    match getSessionByToken db now (ring.hashToken tok) with
    | some sess =>
      (⟨sess.principalID, roleOf db sess.principalID⟩,
        some ⟨sess.principalType, sess.principalID, sess.scopeType, utf8 sess.scopeID⟩)
    | none =>
      match getUserByToken db (ring.hashToken tok) with
      | some u => if u.username ≠ "" then (⟨u.username, u.role⟩, none) else (⟨"", ""⟩, none)
      | none => (⟨"", ""⟩, none)

/-- What `auth` attaches to a request, if anything; the token's scope comes before the header's. -/
def Keyring.authenticate (tenantHeader : List UInt8) : Option (BearerPrincipal × AuthContext) :=
  if tok = [] then none
  else
    let resolved := ring.resolveBearer db now tok
    let p := resolved.1
    if p.username = "" then none
    else
      let scope := match resolved.2 with
        | some forcedScope => (forcedScope.scopeType, forcedScope.scopeID)
        | none => resolveScope "" tenantHeader
      some (p, ⟨"user", p.username, scope.1, scope.2⟩)

structure Clock where
  nanos : Nat
  started : 1000000000 ≤ nanos
  early : nanos < 2 ^ 52 * 1000000000

variable (me : String)

def sessionCall (scopeID : List UInt8) (clock : Clock) : MintCall where
  subject := utf8 me
  audience := utf8 "porter-api"
  scope := utf8 "session"
  tenant := scopeID
  ttl := 12 * 3600 * 1000000000
  now := clock.nanos
  started := clock.started

structure MintedToken where
  token : List UInt8
  scope : String
  tenant : List UInt8

def Keyring.handleMintToken (actx : AuthContext) (clock : Clock) : Response MintedToken :=
  if ring.jwtKey.kid = "" then
    .error statusServiceUnavailable "JWT authentication is not configured"
  else
    .json statusOK {
      token := ring.jwtKey.mint ring.json ring.crypto (sessionCall me actx.scopeID clock)
      scope := actx.scopeType
      tenant := actx.scopeID }

theorem exact_sessionCall (scopeID : List UInt8) (clock : Clock) :
    (sessionCall me scopeID clock).Exact where
  audience := ⟨"porter-api", rfl⟩
  expiry := by
    have early := clock.early
    unfold MintCall.expiry unix sessionCall
    simp only
    omega

section

variable {ring : Keyring} {history : List MintCall}
  (trusted : Trusted ring.jwtKey ring.json ring.crypto history)
  {me : String} {scopeID : List UInt8} {clock : Clock}
  (member : sessionCall me scopeID clock ∈ history)

include trusted member

theorem jwtClaims_minted {now : Nat} {claims : Claims}
    (accepted : ring.jwtClaims now
      (ring.jwtKey.mint ring.json ring.crypto (sessionCall me scopeID clock)) = some claims) :
    claims.subject = me ∧ ReadBack scopeID claims.tenant ∧ scopeID ≠ [] ∧
      unix now ≤ (sessionCall me scopeID clock).expiry := by
  have ⟨out, carries, read⟩ := verify_mint trusted member
  unfold Keyring.jwtClaims at accepted
  rw [read] at accepted
  split at accepted
  · split at accepted
    · contradiction
    · rename_i checked
      split at accepted
      · obtain rfl := Option.some.inj accepted
        have ⟨present, _, sub, _, tenant, _, current⟩ := checkClaims_ok checked
        rw [carries.expiry (exact_sessionCall _ _ clock).expiry] at current
        refine ⟨by rw [sub, carries.subject.eq], by rw [tenant]; exact carries.tenant, ?_, current⟩
        rintro rfl
        have empty : ReadBack (utf8 "") (str out "tenant") := carries.tenant
        exact present "tenant" (by decide) empty.eq
      · contradiction
  · contradiction

variable (configured : ring.jwtKey.kid ≠ "") (named : me ≠ "") (tenant : scopeID ≠ []) {now : Nat}
  (current : unix now ≤ (sessionCall me scopeID clock).expiry)

include configured named tenant current

theorem jwtClaims_accepts :
    ∃ claims, ring.jwtClaims now
      (ring.jwtKey.mint ring.json ring.crypto (sessionCall me scopeID clock)) = some claims := by
  have usable : (sessionCall me scopeID clock).Usable := {
    subject := fun empty => named (utf8_eq_nil.mp empty)
    audience := fun empty => absurd (utf8_eq_nil.mp empty) (by decide)
    scope := fun empty => absurd (utf8_eq_nil.mp empty) (by decide)
    tenant := tenant
    ttl := by simp [sessionCall] }
  have ⟨out, carries, read⟩ := verify_mint trusted member
  have ⟨claims, checked⟩ :=
    checkClaims_minted configured usable (exact_sessionCall me scopeID clock) current carries
  have ⟨present, _, sub, _⟩ := checkClaims_ok checked
  have subject : claims.subject ≠ "" := by
    rw [sub]
    exact present "sub" (by decide)
  refine ⟨claims, ?_⟩
  unfold Keyring.jwtClaims
  rw [if_pos ⟨count_mint _ _ _ _, configured⟩, read]
  have accepted : checkClaims out (utf8 "porter-api") now = .ok claims := checked
  rw [accepted]
  simp only
  rw [if_pos subject]

theorem resolveBearer_minted (db : CredentialDb) :
    (ring.resolveBearer db now
      (ring.jwtKey.mint ring.json ring.crypto (sessionCall me scopeID clock))).1.username = me := by
  obtain ⟨claims, accepted⟩ := jwtClaims_accepts trusted member configured named tenant current
  unfold Keyring.resolveBearer
  rw [accepted]
  exact (jwtClaims_minted trusted member accepted).1

end

def Unregistered (hash : String) : Prop :=
  (∀ sess ∈ db.sessions.rows, sess.tokenHash ≠ hash) ∧ ∀ k ∈ db.apiKeys.rows, k.tokenHash ≠ hash

theorem resolveBearer_unregistered {ring : Keyring} {db : CredentialDb} {now : Nat}
    {tok : List UInt8} (refused : ring.jwtClaims now tok = none)
    (unregistered : Unregistered db (ring.hashToken tok)) :
    ring.resolveBearer db now tok = (⟨"", ""⟩, none) := by
  have noSession : getSessionByToken db now (ring.hashToken tok) = none := by
    cases found : getSessionByToken db now (ring.hashToken tok) with
    | none => rfl
    | some sess =>
      have ⟨stored, same, _⟩ := (getSessionByToken_eq_some _ _ _ _).mp found
      exact absurd same (unregistered.1 sess stored)
  have noUser : getUserByToken db (ring.hashToken tok) = none := by
    cases found : getUserByToken db (ring.hashToken tok) with
    | none => rfl
    | some u =>
      have ⟨_, k, stored, same, _⟩ := of_getUserByToken found
      exact absurd same (unregistered.2 k stored)
  unfold Keyring.resolveBearer
  rw [refused, noSession, noUser]

def Keyring.StandsFor (token : List UInt8) (me : String) (actx : AuthContext) : Prop :=
  ∃ role ctx, ring.resolveBearer db now token = (⟨me, role⟩, some ctx) ∧
    ctx.scopeType = actx.scopeType ∧ ctx.scopeID = actx.scopeID

structure AuthContext.OrgScoped (actx : AuthContext) : Prop where
  scopeType : actx.scopeType = "org"
  named : actx.scopeID ≠ []
  single : actx.scopeID ≠ utf8 "*"
  valid : ValidUtf8 actx.scopeID

theorem resolveScope_org {tenant : List UInt8} (filled : tenant ≠ []) (single : tenant ≠ utf8 "*") :
    resolveScope "" tenant = ("org", tenant) := by
  simp [resolveScope, filled, single]

theorem resolveScope_cases (tenant : List UInt8) :
    resolveScope "" tenant = ("platform", []) ∨
      resolveScope "" tenant = ("org", tenant) ∧ tenant ≠ [] ∧ tenant ≠ utf8 "*" := by
  by_cases platform : tenant = [] ∨ tenant = utf8 "*"
  · exact Or.inl (by simp [resolveScope, platform])
  · push Not at platform
    exact Or.inr ⟨resolveScope_org platform.1 platform.2, platform⟩

theorem authenticate_named {ring : Keyring} {db : CredentialDb} {now : Nat}
    {tok tenantHeader : List UInt8} {p : BearerPrincipal} {actx : AuthContext}
    (authenticated : ring.authenticate db now tok tenantHeader = some (p, actx)) :
    p.username ≠ "" := by
  unfold Keyring.authenticate at authenticated
  split at authenticated
  · contradiction
  · simp only at authenticated
    split at authenticated
    · contradiction
    · rename_i named
      have same := congrArg Prod.fst (Option.some.inj authenticated)
      simp only at same
      rw [← same]
      exact named

theorem handleMintToken_ok {ring : Keyring} {me : String} {actx : AuthContext} {clock : Clock}
    {body : MintedToken} (answered : ring.handleMintToken me actx clock = .json statusOK body) :
    ring.jwtKey.kid ≠ "" ∧
      body.token = ring.jwtKey.mint ring.json ring.crypto (sessionCall me actx.scopeID clock) := by
  unfold Keyring.handleMintToken at answered
  split at answered
  · contradiction
  · rename_i configured
    refine ⟨configured, ?_⟩
    rw [← (Response.json.inj answered).2]

/-- A minted token stands for its caller exactly when they have the scope of an organisation. -/
theorem minted_token_iff (ring : Keyring) (db later : CredentialDb) (tok tenantHeader : List UInt8)
    (clock : Clock) (now : Nat) (p : BearerPrincipal) (actx : AuthContext) (body : MintedToken)
    (history : List MintCall)
    (authenticated : ring.authenticate db clock.nanos tok tenantHeader = some (p, actx))
    (answered : ring.handleMintToken p.username actx clock = .json statusOK body)
    (trusted : Trusted ring.jwtKey ring.json ring.crypto history)
    (recorded : sessionCall p.username actx.scopeID clock ∈ history)
    (unexpired : unix now ≤ (sessionCall p.username actx.scopeID clock).expiry)
    (unregistered : Unregistered later (ring.hashToken body.token)) :
    ring.StandsFor later now body.token p.username actx ↔ actx.OrgScoped := by
  have named := authenticate_named authenticated
  obtain ⟨configured, minted⟩ := handleMintToken_ok answered
  constructor
  · rintro ⟨role, ctx, resolved, sameType, sameID⟩
    cases claimed : ring.jwtClaims now body.token with
    | none =>
      rw [resolveBearer_unregistered claimed unregistered] at resolved
      exact absurd (congrArg Prod.snd resolved) (by simp)
    | some claims =>
      have back := claimed
      rw [minted] at back
      obtain ⟨_, _, filled, _⟩ := jwtClaims_minted trusted recorded back
      unfold Keyring.resolveBearer at resolved
      rw [claimed] at resolved
      have context := Option.some.inj (congrArg Prod.snd resolved)
      rw [← context] at sameType sameID
      rcases resolveScope_cases (utf8 claims.tenant) with platform | ⟨org, some_, single⟩
      · rw [platform] at sameID
        exact absurd sameID.symm filled
      · rw [org] at sameType sameID
        simp only at sameType sameID
        rw [sameID] at some_ single
        exact ⟨sameType.symm, some_, single, claims.tenant, sameID.symm⟩
  · intro bound
    obtain ⟨claims, accepted⟩ :=
      jwtClaims_accepts trusted recorded configured named bound.named unexpired
    obtain ⟨subject, tenant, _⟩ := jwtClaims_minted trusted recorded accepted
    have same : utf8 claims.tenant = actx.scopeID := tenant.same bound.valid
    refine ⟨roleOf later p.username, ⟨"user", p.username, "org", actx.scopeID⟩, ?_,
      bound.scopeType.symm, rfl⟩
    unfold Keyring.resolveBearer
    rw [minted, accepted]
    simp only [same, subject, resolveScope_org bound.named bound.single]

theorem byte_eq_of_digits {left right : UInt8}
    (high : Nat.digitChar (left.toNat / 16) = Nat.digitChar (right.toNat / 16))
    (low : Nat.digitChar (left.toNat % 16) = Nat.digitChar (right.toNat % 16)) : left = right := by
  have digits : ∀ m n : Fin 16, Nat.digitChar m = Nat.digitChar n → m = n := by decide
  have leftSmall := left.toNat_lt
  have rightSmall := right.toNat_lt
  have sameHigh := digits ⟨left.toNat / 16, by omega⟩ ⟨right.toNat / 16, by omega⟩ high
  have sameLow := digits ⟨left.toNat % 16, by omega⟩ ⟨right.toNat % 16, by omega⟩ low
  simp only [Fin.mk.injEq] at sameHigh sameLow
  apply UInt8.toNat_inj.mp
  omega

theorem hexEncode_injective : Function.Injective hexEncode := by
  intro left right same
  have digits := String.ofList_injective same
  induction left generalizing right with
  | nil =>
    cases right with
    | nil => rfl
    | cons byte rest => simp at digits
  | cons byte rest ih =>
    cases right with
    | nil => simp at digits
    | cons other rest' =>
      simp only [List.flatMap_cons, List.cons_append, List.nil_append, List.cons.injEq] at digits
      obtain ⟨high, low, tail⟩ := digits
      rw [byte_eq_of_digits high low, ih (congrArg String.ofList tail) tail]

theorem dot_mem_mint (k : KeyPair) (json : Json) (crypto : Crypto) (call : MintCall) :
    0x2E ∈ k.mint json crypto call := by
  rw [← List.count_pos_iff, count_mint]
  decide

variable (tenant : String)

def sampleRing : Keyring := ⟨sampleKey, sampleJson tenant, sampleCrypto tenant⟩

def sampleAccounts : AccountDb where
  users := .single UserRow.username ⟨"u1", "alice", "member", "", false, "salt:pw", "salt"⟩
  userKey := List.nodup_singleton _
  roles := memberCatalogue
  orgs := []
  groups := .empty _
  teamMembers := .empty _
  collate := fun left right => left ≤ right

def sampleDb : CredentialDb where
  accounts := sampleAccounts
  apiKeys := .single APIKeyRow.id ⟨"k1", "u1", "session", "7431"⟩
  sessions := .empty _

def sampleClock : Clock := ⟨sampleNow, sampleNow_started, by decide⟩

theorem hashToken_sample :
    Function.Injective (sampleRing tenant).hashToken := hexEncode_injective

theorem hashToken_sample_key : (sampleRing tenant).hashToken (utf8 "t1") = "7431" := by
  have digits : hexEncode (utf8 "t1") = "7431" := by decide
  exact digits

theorem unregistered_sample : Unregistered sampleDb ((sampleRing tenant).hashToken
    (sampleKey.mint (sampleJson tenant) (sampleCrypto tenant) (sampleCall tenant))) := by
  constructor
  · simp [sampleDb, Table.empty]
  · intro k stored same
    obtain rfl := List.mem_singleton.mp stored
    have tokens := hashToken_sample _ ((hashToken_sample_key _).trans same)
    have dots :=
      dot_mem_mint sampleKey (sampleJson tenant) (sampleCrypto tenant) (sampleCall tenant)
    rw [← tokens] at dots
    exact absurd dots (by decide)

theorem authenticate_sample :
    (sampleRing tenant).authenticate sampleDb sampleClock.nanos (utf8 "t1") (utf8 tenant) =
      some (⟨"alice", "member"⟩, ⟨"user", "alice", (resolveScope "" (utf8 tenant)).1,
        (resolveScope "" (utf8 tenant)).2⟩) := by
  have noJwt : (sampleRing tenant).jwtClaims sampleClock.nanos (utf8 "t1") = none := by
    unfold Keyring.jwtClaims
    rw [if_neg]
    rintro ⟨dots, _⟩
    exact absurd dots (by decide)
  have noSession : getSessionByToken sampleDb sampleClock.nanos "7431" = none := rfl
  have user : getUserByToken sampleDb "7431" =
      some ⟨"u1", "alice", "member", "", false, "salt:pw", "salt"⟩ := by decide
  have resolved : (sampleRing tenant).resolveBearer sampleDb sampleClock.nanos (utf8 "t1") =
      (⟨"alice", "member"⟩, none) := by
    unfold Keyring.resolveBearer
    rw [noJwt, hashToken_sample_key, noSession, user]
    rfl
  unfold Keyring.authenticate
  rw [if_neg (by decide), resolved]
  rfl

theorem platform_token_refused :
    ∃ p actx body,
      (sampleRing "").authenticate sampleDb sampleClock.nanos (utf8 "t1") [] = some (p, actx) ∧
      (sampleRing "").handleMintToken p.username actx sampleClock = .json statusOK body ∧
      unix 1700003600000000000 ≤ (sessionCall p.username actx.scopeID sampleClock).expiry ∧
      (sampleRing "").resolveBearer sampleDb 1700003600000000000 body.token =
        (⟨"", ""⟩, none) := by
  refine ⟨_, _, _, authenticate_sample "", rfl, by decide, ?_⟩
  apply resolveBearer_unregistered
  · cases accepted : (sampleRing "").jwtClaims 1700003600000000000
        (sampleKey.mint (sampleJson "") (sampleCrypto "") (sampleCall "")) with
    | none => exact accepted
    | some claims =>
      have recorded : sessionCall "alice" [] sampleClock ∈ [sampleCall ""] :=
        List.mem_singleton_self _
      have trusted : Trusted (sampleRing "").jwtKey (sampleRing "").json (sampleRing "").crypto
        [sampleCall ""] := trusted_sample ""
      exact absurd rfl (jwtClaims_minted trusted recorded accepted).2.2.1
  · exact unregistered_sample ""

theorem minted_token_iff_acme :
    (sampleRing "acme").StandsFor sampleDb 1700003600000000000
      (sampleKey.mint (sampleJson "acme") (sampleCrypto "acme") (sampleCall "acme")) "alice"
      ⟨"user", "alice", "org", utf8 "acme"⟩ := by
  have authenticated := authenticate_sample "acme"
  refine (minted_token_iff (sampleRing "acme") sampleDb sampleDb (utf8 "t1") (utf8 "acme")
    sampleClock 1700003600000000000 ⟨"alice", "member"⟩ _ ⟨_, "org", utf8 "acme"⟩
    [sampleCall "acme"] authenticated rfl (trusted_sample "acme") (List.mem_singleton_self _)
    (by decide) (unregistered_sample "acme")).mpr ?_
  exact ⟨rfl, by decide, by decide, "acme", rfl⟩

end Porter.Api
