import Mathlib.Data.List.Basic
import Porter.Crypto.Signer

/-!
# The SSH gateway

`internal/sshgw`: a connection is authenticated by the first certificate that `authorizeCert`
accepts and whose key the client holds; every shell request then runs in the VM named by the login
user.
-/
namespace Porter.Sshgw

open Crypto

variable {π σ : Type}

structure CertBody (π : Type) where
  key : π
  serial : UInt64
  keyID : String
  validPrincipals : List String
  validAfter : UInt64
  validBefore : UInt64
  signatureKey : π
deriving DecidableEq

structure Certificate (π σ : Type) extends CertBody π where
  signature : σ

inductive Offer (π σ : Type) where
  | plain (key : π)
  | certificate (cert : Certificate π σ)

structure Gateway (verify : π → CertBody π → σ → Bool) where
  hostKey : Signer verify
  caKey : Signer verify
  execer : Bool

structure Permissions where
  vm : String

def Certificate.signedBy (verify : π → CertBody π → σ → Bool) (cert : Certificate π σ) (key : π) :
    Bool :=
  verify key cert.toCertBody cert.signature

section

variable {verify : π → CertBody π → σ → Bool}

/-- Its type, whether accepting it succeeds, and the types of the requests sent on it. -/
structure Channel where
  channelType : String
  accepts : Bool
  requests : List String

inductive Event where
  | rejected (reason : String)
  | reply (ok : Bool)
  | exec (vmID : String)
deriving DecidableEq

def handleRequest (g : Gateway verify) (user request : String) : List Event :=
  if request = "shell" then .reply true :: (if g.execer then [.exec user] else [])
  else if request = "exec" then [.reply true]
  else if request = "pty-req" then [.reply true]
  else [.reply false]

def handleChannel (g : Gateway verify) (user : String) (channel : Channel) : List Event :=
  if channel.channelType ≠ "session" then [.rejected "unsupported channel"]
  else if channel.accepts = false then []
  else channel.requests.flatMap (handleRequest g user)

def RequestsShell (channels : List Channel) : Prop :=
  ∃ channel ∈ channels, channel.channelType = "session" ∧ channel.accepts = true ∧
    "shell" ∈ channel.requests

theorem exec_mem_handleRequest (g : Gateway verify) (user request vmID : String) :
    Event.exec vmID ∈ handleRequest g user request ↔
      request = "shell" ∧ g.execer = true ∧ vmID = user := by
  unfold handleRequest
  by_cases shell : request = "shell"
  · cases execer : g.execer with
    | false | true => simp [shell]
  · simp only [shell, if_false, false_and, iff_false]
    split
    · simp
    · split
      · simp
      · simp

theorem exec_mem_handleChannel (g : Gateway verify) (user vmID : String) (channel : Channel) :
    Event.exec vmID ∈ handleChannel g user channel ↔
      (channel.channelType = "session" ∧ channel.accepts = true ∧ "shell" ∈ channel.requests) ∧
        g.execer = true ∧ vmID = user := by
  unfold handleChannel
  by_cases session : channel.channelType = "session"
  · by_cases accepts : channel.accepts = true
    · simp only [session, accepts, ne_eq, not_true_eq_false, if_false, Bool.true_eq_false,
        List.mem_flatMap, exec_mem_handleRequest, true_and]
      constructor
      · rintro ⟨request, sent, rfl, execer, same⟩
        exact ⟨sent, execer, same⟩
      · rintro ⟨sent, execer, same⟩
        exact ⟨"shell", sent, rfl, execer, same⟩
    · simp [session, accepts]
  · simp [session]

/-- The certificate is signed by one of the gateway's keys and lists the VM. -/
def GenuineFor (g : Gateway verify) (cert : Certificate π σ) (vmID : String) : Prop :=
  (cert.signedBy verify g.hostKey.publicKey = true ∨
    cert.signedBy verify g.caKey.publicKey = true) ∧ vmID ∈ cert.validPrincipals

/-- `SignCertificate`: for one VM and ten minutes, signed with the host key, which it records. -/
def signCertificate (g : Gateway verify) (pubKey : Except String π) (vmID : String)
    (seconds nanoseconds : UInt64) : Except String (Certificate π σ) :=
  match pubKey with
  | .error err => .error ("parse public key: " ++ err)
  | .ok parsed =>
    let body : CertBody π :=
      { key := parsed, serial := nanoseconds, keyID := vmID, validPrincipals := [vmID],
        validAfter := seconds - 60, validBefore := seconds + 600,
        signatureKey := g.hostKey.publicKey }
    .ok { body with signature := g.hostKey.sign body }

end

section

variable [DecidableEq π] {verify : π → CertBody π → σ → Bool}

/-- `signedByCA`: despite its name it compares keys only. -/
def signedByCA (g : Gateway verify) (cert : Certificate π σ) : Bool :=
  cert.signatureKey = g.caKey.publicKey

def authorizeCert (g : Gateway verify) (user : String) (now : UInt64) (key : Offer π σ) :
    Except String Permissions :=
  match key with
  | .plain _ => .error "public key not a certificate"
  | .certificate cert =>
    if cert.signatureKey ≠ g.hostKey.publicKey ∧ signedByCA g cert = false then
      .error "certificate not signed by gateway CA"
    else if now > cert.validBefore ∨ now < cert.validAfter then
      .error "certificate expired or not yet valid"
    else .ok ⟨user⟩

/-- The login user, the key, whether the client proves to hold it, and the time of the offer. -/
structure Attempt (π σ : Type) where
  user : String
  offer : Offer π σ
  possession : Bool
  now : UInt64

def authenticates (g : Gateway verify) (attempt : Attempt π σ) : Bool :=
  match authorizeCert g attempt.user attempt.now attempt.offer with
  | .ok _ => attempt.possession
  | .error _ => false

def newServerConn (g : Gateway verify) (attempts : List (Attempt π σ)) : Option (Attempt π σ) :=
  attempts.find? (authenticates g)

def handleConn (g : Gateway verify) (attempts : List (Attempt π σ)) (channels : List Channel) :
    List Event :=
  match newServerConn g attempts with
  | none => []
  | some conn => channels.flatMap (handleChannel g conn.user)

variable (g : Gateway verify)

theorem authorizeCert_ok (user : String) (now : UInt64) (key : Offer π σ)
    (permissions : Permissions) :
    authorizeCert g user now key = .ok permissions ↔
      ∃ cert, key = .certificate cert ∧
        (cert.signatureKey = g.hostKey.publicKey ∨ cert.signatureKey = g.caKey.publicKey) ∧
        cert.validAfter ≤ now ∧ now ≤ cert.validBefore ∧ permissions = ⟨user⟩ := by
  cases key with
  | plain key => simp [authorizeCert]
  | certificate cert =>
    by_cases named : cert.signatureKey = g.hostKey.publicKey ∨
        cert.signatureKey = g.caKey.publicKey
    · have passes : ¬(cert.signatureKey ≠ g.hostKey.publicKey ∧ signedByCA g cert = false) := by
        rintro ⟨notHost, notCA⟩
        rcases named with host | ca
        · exact notHost host
        · simp [signedByCA, ca] at notCA
      simp only [authorizeCert, if_neg passes]
      by_cases outside : now > cert.validBefore ∨ now < cert.validAfter
      · rw [if_pos outside]
        constructor
        · intro impossible
          contradiction
        · rintro ⟨other, same, _, after, before, _⟩
          obtain rfl := Offer.certificate.inj same
          rcases outside with late | early
          · exact absurd before (UInt64.not_le.mpr late)
          · exact absurd after (UInt64.not_le.mpr early)
      · rw [if_neg outside]
        push Not at outside
        constructor
        · intro granted
          exact ⟨cert, rfl, named, UInt64.not_lt.mp outside.2, UInt64.not_lt.mp outside.1,
            (Except.ok.inj granted).symm⟩
        · rintro ⟨other, same, _, _, _, rfl⟩
          rfl
    · push Not at named
      have refused : cert.signatureKey ≠ g.hostKey.publicKey ∧ signedByCA g cert = false :=
        ⟨named.1, by simpa [signedByCA] using named.2⟩
      simp only [authorizeCert, if_pos refused]
      constructor
      · intro impossible
        contradiction
      · rintro ⟨other, same, listed, _⟩
        obtain rfl := Offer.certificate.inj same
        rcases listed with host | ca
        · exact absurd host named.1
        · exact absurd ca named.2

/-- The client holds the key of a certificate that names a gateway key and is inside its window. -/
def Presents (g : Gateway verify) (attempt : Attempt π σ) (cert : Certificate π σ) : Prop :=
  attempt.possession = true ∧ attempt.offer = .certificate cert ∧
    (cert.signatureKey = g.hostKey.publicKey ∨ cert.signatureKey = g.caKey.publicKey) ∧
    cert.validAfter ≤ attempt.now ∧ attempt.now ≤ cert.validBefore

def PresentsFirst (g : Gateway verify) (attempts : List (Attempt π σ)) (attempt : Attempt π σ)
    (cert : Certificate π σ) : Prop :=
  Presents g attempt cert ∧
    ∃ earlier later, attempts = earlier ++ attempt :: later ∧
      ∀ prior ∈ earlier, ∀ other, ¬Presents g prior other

theorem authenticates_iff (attempt : Attempt π σ) :
    authenticates g attempt = true ↔ ∃ cert, Presents g attempt cert := by
  unfold authenticates
  constructor
  · intro passed
    split at passed
    · rename_i permissions authorised
      obtain ⟨cert, offered, named, after, before, _⟩ :=
        (authorizeCert_ok g _ _ _ _).mp authorised
      exact ⟨cert, passed, offered, named, after, before⟩
    · contradiction
  · rintro ⟨cert, possession, offered, named, after, before⟩
    have authorised := (authorizeCert_ok g attempt.user attempt.now attempt.offer _).mpr
      ⟨cert, offered, named, after, before, rfl⟩
    rw [authorised]
    exact possession

theorem newServerConn_iff (attempts : List (Attempt π σ)) (conn : Attempt π σ)
    (cert : Certificate π σ) :
    newServerConn g attempts = some conn ∧ conn.offer = .certificate cert ↔
      PresentsFirst g attempts conn cert := by
  have refused : ∀ prior, (!authenticates g prior) = true ↔ ∀ other, ¬Presents g prior other := by
    intro prior
    rw [Bool.not_eq_true', ← Bool.not_eq_true, authenticates_iff, not_exists]
  unfold newServerConn PresentsFirst
  rw [List.find?_eq_some_iff_append, authenticates_iff]
  simp only [refused]
  constructor
  · rintro ⟨⟨⟨other, presented⟩, position⟩, offered⟩
    have same : other = cert := Offer.certificate.inj (presented.2.1.symm.trans offered)
    rw [same] at presented
    exact ⟨presented, position⟩
  · rintro ⟨presented, position⟩
    exact ⟨⟨⟨cert, presented⟩, position⟩, presented.2.1⟩

theorem exec_mem_handleConn (attempts : List (Attempt π σ)) (channels : List Channel)
    (vmID : String) :
    Event.exec vmID ∈ handleConn g attempts channels ↔
      ∃ conn, newServerConn g attempts = some conn ∧ RequestsShell channels ∧
        g.execer = true ∧ vmID = conn.user := by
  unfold handleConn
  cases newServerConn g attempts with
  | none => simp
  | some conn =>
    simp only [List.mem_flatMap, exec_mem_handleChannel, RequestsShell]
    constructor
    · rintro ⟨channel, opened, shell, execer, same⟩
      exact ⟨conn, rfl, ⟨channel, opened, shell⟩, execer, same⟩
    · rintro ⟨other, same, ⟨channel, opened, shell⟩, execer, named⟩
      obtain rfl := Option.some.inj same
      exact ⟨channel, opened, shell, execer, named⟩

/-- The certificate is signed by the gateway, lists the VM and is inside its window. -/
def SoundFor (g : Gateway verify) (attempts : List (Attempt π σ)) (vmID : String) : Prop :=
  ∃ conn cert, newServerConn g attempts = some conn ∧ conn.offer = .certificate cert ∧
    GenuineFor g cert vmID ∧ cert.validAfter ≤ conn.now ∧ conn.now ≤ cert.validBefore

/-- Every `Exec` of a connection is backed by a sound certificate exactly when no shell is served or
the first certificate that is presented is genuine for its login user. -/
theorem exec_sound_iff (g : Gateway verify) (attempts : List (Attempt π σ))
    (channels : List Channel) :
    (∀ vmID, Event.exec vmID ∈ handleConn g attempts channels → SoundFor g attempts vmID) ↔
      (g.execer = false ∨ ¬RequestsShell channels ∨
        ∀ attempt cert, PresentsFirst g attempts attempt cert →
          GenuineFor g cert attempt.user) := by
  constructor
  · intro sound
    by_cases execer : g.execer = true
    · by_cases shell : RequestsShell channels
      · refine Or.inr (Or.inr ?_)
        intro conn cert first
        obtain ⟨accepted, offered⟩ := (newServerConn_iff g attempts conn cert).mpr first
        have called : Event.exec conn.user ∈ handleConn g attempts channels :=
          (exec_mem_handleConn g attempts channels conn.user).mpr
            ⟨conn, accepted, shell, execer, rfl⟩
        obtain ⟨other, backing, same, backed, genuine, _⟩ := sound conn.user called
        rw [accepted] at same
        obtain rfl := Option.some.inj same
        rw [offered] at backed
        obtain rfl := Offer.certificate.inj backed
        exact genuine
      · exact Or.inr (Or.inl shell)
    · exact Or.inl (Bool.eq_false_iff.mpr execer)
  · intro condition vmID called
    obtain ⟨conn, accepted, shell, execer, rfl⟩ :=
      (exec_mem_handleConn g attempts channels vmID).mp called
    have passed : authenticates g conn = true := List.find?_some accepted
    obtain ⟨cert, presented⟩ := (authenticates_iff g conn).mp passed
    obtain ⟨_, offered, _, after, before⟩ := presented
    have first := (newServerConn_iff g attempts conn cert).mp ⟨accepted, offered⟩
    rcases condition with absent | unasked | genuine
    · rw [execer] at absent
      contradiction
    · exact absurd shell unasked
    · exact ⟨conn, cert, accepted, offered, genuine conn cert first, after, before⟩

end

def idealGateway : Gateway (idealVerify (π := String) (μ := CertBody String)) :=
  ⟨idealSigner "host", idealSigner "ca", true⟩

def forgedBody : CertBody String :=
  { key := "mallory", serial := 0, keyID := "", validPrincipals := [], validAfter := 0,
    validBefore := 18446744073709551615, signatureKey := "host" }

def forgedCert : Certificate String (String × CertBody String) :=
  { forgedBody with signature := ("mallory", forgedBody) }

def forgedAttempt : Attempt String (String × CertBody String) :=
  ⟨"vm-1", .certificate forgedCert, true, 1700000000⟩

theorem forged_certificate_runs :
    Event.exec "vm-1" ∈ handleConn idealGateway [forgedAttempt] [⟨"session", true, ["shell"]⟩] ∧
    forgedCert.signedBy idealVerify idealGateway.hostKey.publicKey = false ∧
    forgedCert.signedBy idealVerify idealGateway.caKey.publicKey = false ∧
    ¬SoundFor idealGateway [forgedAttempt] "vm-1" := by
  refine ⟨by decide, by decide, by decide, ?_⟩
  rintro ⟨conn, cert, accepted, offered, ⟨_, listed⟩, _⟩
  obtain rfl : forgedAttempt = conn := Option.some.inj accepted
  obtain rfl : forgedCert = cert := Offer.certificate.inj offered
  exact List.not_mem_nil listed

/-- A certificate the gateway has issued opens a shell from a minute before until ten minutes after,
in whatever VM the client logs in as; it vouches for that VM only if it was issued for it. -/
theorem issued_exec_iff [DecidableEq π] {verify : π → CertBody π → σ → Bool} (g : Gateway verify)
    (key : π) (vmID other : String) (seconds nanoseconds : UInt64) (cert : Certificate π σ)
    (attempt : Attempt π σ) (channels : List Channel) (early : 60 ≤ seconds)
    (late : seconds.toNat + 600 < UInt64.size)
    (issued : signCertificate g (.ok key) vmID seconds nanoseconds = .ok cert)
    (offered : attempt.offer = .certificate cert) :
    (Event.exec other ∈ handleConn g [attempt] channels ↔
      other = attempt.user ∧ attempt.possession = true ∧
        seconds.toNat ≤ attempt.now.toNat + 60 ∧ attempt.now.toNat ≤ seconds.toNat + 600 ∧
        RequestsShell channels ∧ g.execer = true) ∧
    (Event.exec other ∈ handleConn g [attempt] channels →
      (SoundFor g [attempt] other ↔ other = vmID)) := by
  obtain rfl := Except.ok.inj issued
  have after : seconds - 60 ≤ attempt.now ↔ seconds.toNat ≤ attempt.now.toNat + 60 := by
    rw [UInt64.le_iff_toNat_le, UInt64.toNat_sub_of_le _ _ early]
    exact Nat.sub_le_iff_le_add
  have before : attempt.now ≤ seconds + 600 ↔ attempt.now.toNat ≤ seconds.toNat + 600 := by
    rw [UInt64.le_iff_toNat_le, UInt64.toNat_add, UInt64.toNat_ofNat, Nat.mod_eq_of_lt late]
  have accepted : authenticates g attempt = true ↔ attempt.possession = true ∧
      seconds.toNat ≤ attempt.now.toNat + 60 ∧ attempt.now.toNat ≤ seconds.toNat + 600 := by
    rw [authenticates_iff, ← after, ← before]
    constructor
    · rintro ⟨cert, held, same, -, window⟩
      obtain rfl := Offer.certificate.inj (offered.symm.trans same)
      exact ⟨held, window⟩
    · rintro ⟨held, window⟩
      exact ⟨_, held, offered, Or.inl rfl, window⟩
  have first : ∀ conn, newServerConn g [attempt] = some conn ↔
      conn = attempt ∧ authenticates g attempt = true := by
    intro conn
    cases passes : authenticates g attempt with
    | false => simp [newServerConn, passes]
    | true => simp [newServerConn, passes, eq_comm]
  constructor
  · rw [exec_mem_handleConn]
    simp only [first, accepted]
    grind
  · intro runs
    obtain ⟨conn, opened, -, -, rfl⟩ := (exec_mem_handleConn _ _ _ _).mp runs
    obtain ⟨rfl, passed⟩ := (first conn).mp opened
    have window := (accepted.mp passed).2
    constructor
    · rintro ⟨other, cert, same, backing, ⟨-, listed⟩, -⟩
      obtain rfl := ((first other).mp same).1
      obtain rfl := Offer.certificate.inj (offered.symm.trans backing)
      exact List.mem_singleton.mp listed
    · intro named
      exact ⟨conn, _, opened, offered, ⟨Or.inl (g.hostKey.verifies _),
        List.mem_singleton.mpr named⟩, after.mpr window.1, before.mpr window.2⟩

theorem issued_exec_iff_other : ∃ cert : Certificate String (String × CertBody String),
    Event.exec "vm-2" ∈ handleConn idealGateway [⟨"vm-2", .certificate cert, true, 1600⟩]
      [⟨"session", true, ["shell"]⟩] ∧
    ¬SoundFor idealGateway [⟨"vm-2", .certificate cert, true, 1600⟩] "vm-2" := by
  have ⟨runs, sound⟩ := issued_exec_iff idealGateway "alice" "vm-1" "vm-2" 1000 0 _
    ⟨"vm-2", _, true, 1600⟩ [⟨"session", true, ["shell"]⟩] (by decide) (by decide) rfl rfl
  have called := runs.mpr ⟨rfl, rfl, by decide, by decide, ⟨_, List.mem_cons_self, by decide⟩, rfl⟩
  exact ⟨_, called, fun vouched => absurd ((sound called).mp vouched) (by decide)⟩

end Porter.Sshgw
