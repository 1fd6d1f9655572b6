import Porter.Go.Base64
import Porter.Go.Strings

/-!
# Tokens

The tokens of `internal/auth/token.go`: JWTs that are signed with Ed25519, minted and verified with
one key pair.
-/
namespace Porter.Auth

open Go

def utf8 (text : String) : List UInt8 := text.toList.flatMap String.utf8EncodeChar

def ValidUtf8 (bytes : List UInt8) : Prop := ∃ text : String, bytes = utf8 text

inductive Field where
  | string (text : List UInt8)
  | int (n : Int)
deriving DecidableEq

/-- A value that is unmarshalled into an `interface{}`. A text that is read is in UTF-8. -/
inductive Value where
  | string (text : String)
  | number (n : Int)
  | other
deriving DecidableEq

structure Json where
  marshal : List (String × Field) → List UInt8
  unmarshalStrings : List UInt8 → Except String (List (String × String))
  unmarshal : List UInt8 → Except String (List (String × Value))

/-- A text in UTF-8 is read back the same; other bytes are replaced and not dropped. -/
structure ReadBack (bytes : List UInt8) (text : String) : Prop where
  same : ValidUtf8 bytes → utf8 text = bytes
  filled : bytes ≠ [] → text ≠ ""

/-- What a value is read back as; a `float64` holds the integers below 2^53. -/
def Field.ReadAs : Field → Option Value → Prop
  | .string bytes, value => ∃ text, value = some (.string text) ∧ ReadBack bytes text
  | .int n, value => n.natAbs < 2 ^ 53 → value = some (.number n)

def Json.RoundTripsStrings (json : Json) (fields : List (String × Field)) : Prop :=
  ∃ out, json.unmarshalStrings (json.marshal fields) = .ok out ∧
    ∀ key bytes, (key, Field.string bytes) ∈ fields →
      ∃ text, out.lookup key = some text ∧ ReadBack bytes text

def Json.RoundTrips (json : Json) (fields : List (String × Field)) : Prop :=
  ∃ out, json.unmarshal (json.marshal fields) = .ok out ∧
    ∀ key field, (key, field) ∈ fields → field.ReadAs (out.lookup key)

structure Crypto where
  sum256 : List UInt8 → List UInt8
  newKeyFromSeed : List UInt8 → List UInt8
  publicKey : List UInt8 → List UInt8
  sign : List UInt8 → List UInt8 → List UInt8
  verify : List UInt8 → List UInt8 → List UInt8 → Bool

structure KeyPair where
  seed : List UInt8
  key : List UInt8
  kid : String
deriving DecidableEq

def keyPairFromSecret (crypto : Crypto) (secret : List UInt8) (issuer : String) : KeyPair :=
  let sum := crypto.sum256 (ascii "porter-jwt-v1:" ++ secret)
  let priv := crypto.newKeyFromSeed sum
  let kid := Base64.encode ((crypto.publicKey priv).take 8)
  ⟨sum, priv, issuer ++ ":" ++ String.ofList (chars kid)⟩

def issuerOf (kid : String) : String :=
  let i := kid.toList.findIdx (fun c => c = ':')
  if ':' ∈ kid.toList ∧ i > 0 then String.ofList (kid.toList.take i) else kid

structure MintCall where
  subject : List UInt8
  audience : List UInt8
  scope : List UInt8
  tenant : List UInt8
  ttl : Int
  now : Nat
  started : 1000000000 ≤ now

def unix (now : Nat) : Int := (now / 1000000000 : Nat)

def MintCall.expiry (call : MintCall) : Int :=
  (unix call.now * 1000000000 + call.ttl) / 1000000000

variable (k : KeyPair)

def KeyPair.header : List (String × Field) :=
  [("alg", .string (utf8 "EdDSA")), ("typ", .string (utf8 "JWT")), ("kid", .string (utf8 k.kid))]

def KeyPair.payload (call : MintCall) : List (String × Field) :=
  [("iss", .string (utf8 (issuerOf k.kid))), ("sub", .string call.subject),
    ("aud", .string call.audience), ("scope", .string call.scope), ("tenant", .string call.tenant),
    ("iat", .int (unix call.now)), ("exp", .int call.expiry)]

def KeyPair.signed (json : Json) (call : MintCall) : List UInt8 :=
  Base64.encode (json.marshal k.header) ++ 0x2E :: Base64.encode (json.marshal (k.payload call))

/-- `Mint`; neither map fails to marshal. -/
def KeyPair.mint (json : Json) (crypto : Crypto) (call : MintCall) : List UInt8 :=
  k.signed json call ++ 0x2E :: Base64.encode (crypto.sign k.key (k.signed json call))

inductive SegmentError where
  | base64
  | json (err : String)

inductive VerifyError where
  | malformed
  | badHeader (err : SegmentError)
  | unexpectedAlg (alg : String)
  | unknownKid
  | badPayload (err : SegmentError)
  | badSignature
  | invalidSignature
  | missingClaim (key : String)
  | audienceMismatch
  | expired

structure Claims where
  issuer : String
  subject : String
  audience : String
  scope : String
  tenant : String
  issuedAt : Int
  expiry : Int
  raw : List (String × Value)

def decodeSegment {α : Type} (unmarshal : List UInt8 → Except String α) (seg : List UInt8) :
    Except SegmentError α :=
  match Base64.decode seg with
  | none => .error .base64
  | some bytes => (unmarshal bytes).mapError .json

variable (payload : List (String × Value))

def str (key : String) : String :=
  match payload.lookup key with
  | some (.string text) => text
  | _ => ""

def num (key : String) : Int :=
  match payload.lookup key with
  | some (.number n) => n
  | _ => 0

def requiredClaims : List String := ["iss", "sub", "aud", "scope", "tenant"]

def checkClaims (audience : List UInt8) (now : Nat) : Except VerifyError Claims :=
  match requiredClaims.find? (fun key => str payload key = "") with
  | some key => .error (.missingClaim key)
  | none =>
    if utf8 (str payload "aud") ≠ audience then .error .audienceMismatch
    else if num payload "exp" = 0 ∨ unix now > num payload "exp" then .error .expired
    else
      .ok {
        issuer := str payload "iss"
        subject := str payload "sub"
        audience := str payload "aud"
        scope := str payload "scope"
        tenant := str payload "tenant"
        issuedAt := num payload "iat"
        expiry := num payload "exp"
        raw := payload }

def KeyPair.verifyParts (json : Json) (crypto : Crypto) (first second third audience : List UInt8)
    (now : Nat) : Except VerifyError Claims :=
  match decodeSegment json.unmarshalStrings first with
  | .error err => .error (.badHeader err)
  | .ok header =>
    let alg := (header.lookup "alg").getD ""
    let kid := (header.lookup "kid").getD ""
    if alg ≠ "EdDSA" then .error (.unexpectedAlg alg)
    else if kid ≠ k.kid then .error .unknownKid
    else
      match decodeSegment json.unmarshal second with
      | .error err => .error (.badPayload err)
      | .ok payload =>
        match Base64.decode third with
        | none => .error .badSignature
        | some sig =>
          if crypto.verify (crypto.publicKey k.key) (first ++ 0x2E :: second) sig = false then
            .error .invalidSignature
          else checkClaims payload audience now

def KeyPair.verify (json : Json) (crypto : Crypto) (token audience : List UInt8) (now : Nat) :
    Except VerifyError Claims :=
  match split token 0x2E with
  | [first, second, third] => k.verifyParts json crypto first second third audience now
  | _ => .error .malformed

theorem utf8_injective : Function.Injective utf8 := by
  intro left right same
  have bytes : left.toList.utf8Encode = right.toList.utf8Encode :=
    congrArg List.toByteArray same
  rw [String.utf8Encode_toList, String.utf8Encode_toList] at bytes
  exact String.toByteArray_inj.mp bytes

theorem utf8_eq_nil {text : String} : utf8 text = [] ↔ text = "" := by
  constructor
  · intro empty
    exact utf8_injective empty
  · rintro rfl
    rfl

theorem readBack_utf8 (text : String) : ReadBack (utf8 text) text where
  same := fun _ => rfl
  filled := fun filled empty => filled (utf8_eq_nil.mpr empty)

theorem ReadBack.eq {written read : String} (back : ReadBack (utf8 written) read) :
    read = written :=
  utf8_injective (back.same ⟨written, rfl⟩)

theorem issuerOf_ne_empty {kid : String} (filled : kid ≠ "") : issuerOf kid ≠ "" := by
  unfold issuerOf
  simp only
  split
  · rename_i inside
    intro empty
    have none := congrArg String.toList empty
    rw [String.toList_ofList, String.toList_empty, List.take_eq_nil_iff] at none
    rcases none with zero | nothing
    · omega
    · rw [nothing] at inside
      exact List.not_mem_nil inside.1
  · exact filled

theorem kid_ne_empty (crypto : Crypto) (secret : List UInt8) (issuer : String) :
    (keyPairFromSecret crypto secret issuer).kid ≠ "" := by
  intro empty
  have none := congrArg String.toList empty
  simp [keyPairFromSecret] at none

variable {k : KeyPair} {now : Nat} {call : MintCall} {json : Json} {crypto : Crypto}

variable {first second third audience : List UInt8} {claims : Claims}

theorem verifyParts_ok
    (ok : k.verifyParts json crypto first second third audience now = .ok claims) :
    ∃ payload sig, decodeSegment json.unmarshal second = .ok payload ∧
      crypto.verify (crypto.publicKey k.key) (first ++ 0x2E :: second) sig = true ∧
      checkClaims payload audience now = .ok claims := by
  unfold KeyPair.verifyParts at ok
  split at ok
  · contradiction
  · simp only at ok
    split at ok
    · contradiction
    · split at ok
      · contradiction
      · split at ok
        · contradiction
        · rename_i payload read
          split at ok
          · contradiction
          · rename_i sig _
            split at ok
            · contradiction
            · rename_i valid
              exact ⟨payload, sig, read, (Bool.not_eq_false _).mp valid, ok⟩

theorem checkClaims_ok {payload : List (String × Value)}
    (ok : checkClaims payload audience now = .ok claims) :
    (∀ key ∈ requiredClaims, str payload key ≠ "") ∧ utf8 (str payload "aud") = audience ∧
      claims.subject = str payload "sub" ∧ claims.scope = str payload "scope" ∧
      claims.tenant = str payload "tenant" ∧ claims.expiry = num payload "exp" ∧
      unix now ≤ num payload "exp" := by
  unfold checkClaims at ok
  split at ok
  · contradiction
  · rename_i present
    split at ok
    · contradiction
    · rename_i same
      split at ok
      · contradiction
      · rename_i current
        rw [← Except.ok.inj ok]
        refine ⟨?_, not_not.mp same, rfl, rfl, rfl, rfl, ?_⟩
        · intro key required
          simpa using List.find?_eq_none.mp present key required
        · by_contra late
          exact current (Or.inr (by omega))

theorem str_of_lookup {payload : List (String × Value)} {key : String} {text : String}
    (found : payload.lookup key = some (.string text)) : str payload key = text := by
  unfold str
  rw [found]

theorem num_of_lookup {payload : List (String × Value)} {key : String} {n : Int}
    (found : payload.lookup key = some (.number n)) : num payload key = n := by
  unfold num
  rw [found]

theorem decodeSegment_encode {α : Type} {unmarshal : List UInt8 → Except String α}
    {bytes : List UInt8} {out : α} (read : unmarshal bytes = .ok out) :
    decodeSegment unmarshal (Base64.encode bytes) = .ok out := by
  unfold decodeSegment
  rw [Base64.decode_encode]
  simp only [read]
  rfl

/-- Ed25519 accepts the signatures of the given calls and no others, and JSON gives back what they
wrote. -/
structure Trusted (k : KeyPair) (json : Json) (crypto : Crypto) (history : List MintCall) :
    Prop where
  correct : ∀ call ∈ history, crypto.verify (crypto.publicKey k.key) (k.signed json call)
    (crypto.sign k.key (k.signed json call)) = true
  unforgeable : ∀ message signature,
    crypto.verify (crypto.publicKey k.key) message signature = true →
      ∃ call ∈ history, message = k.signed json call
  header : json.RoundTripsStrings k.header
  payload : ∀ call ∈ history, json.RoundTrips (k.payload call)

theorem split_segments (one : 0x2E ∉ first) (two : 0x2E ∉ second) (three : 0x2E ∉ third) :
    split (first ++ 0x2E :: (second ++ 0x2E :: third)) 0x2E = [first, second, third] := by
  unfold split
  rw [List.splitOn_append_cons_self_of_not_mem one, List.splitOn_append_cons_self_of_not_mem two,
    List.splitOn_eq_singleton three]

theorem segments_of_signed {token a b : List UInt8}
    (parts : split token 0x2E = [first, second, third]) (one : 0x2E ∉ a) (two : 0x2E ∉ b)
    (same : first ++ 0x2E :: second = a ++ 0x2E :: b) :
    first = a ∧ second = b ∧ token = a ++ 0x2E :: (b ++ 0x2E :: third) := by
  have whole : token = first ++ 0x2E :: (second ++ 0x2E :: third) := by
    have joined : [0x2E].intercalate (token.splitOn 0x2E) = token := List.intercalate_splitOn _
    unfold split at parts
    rw [parts] at joined
    rw [← joined]
    simp [List.intercalate, List.intersperse]
  have front : split first 0x2E ++ split second 0x2E = [a, b] := by
    have left := List.splitOn_append_cons_self (a := (0x2E : UInt8)) first second
    rw [same, List.splitOn_append_cons_self_of_not_mem one, List.splitOn_eq_singleton two] at left
    exact left.symm
  have all : split first 0x2E ++ (split second 0x2E ++ split third 0x2E) =
      [first, second, third] := by
    rw [← parts, whole]
    unfold split
    rw [List.splitOn_append_cons_self, List.splitOn_append_cons_self]
  rw [← List.append_assoc, front] at all
  have ⟨here, rest⟩ := List.cons.inj all
  have ⟨there, _⟩ := List.cons.inj rest
  exact ⟨here.symm, there.symm, by rw [whole, ← here, ← there]⟩

structure Carries (k : KeyPair) (call : MintCall) (out : List (String × Value)) : Prop where
  issuer : str out "iss" = issuerOf k.kid
  subject : ReadBack call.subject (str out "sub")
  audience : ReadBack call.audience (str out "aud")
  scope : ReadBack call.scope (str out "scope")
  tenant : ReadBack call.tenant (str out "tenant")
  expiry : call.expiry.natAbs < 2 ^ 53 → num out "exp" = call.expiry

variable {out : List (String × Value)}

theorem readBack_str {key : String} {bytes : List UInt8}
    (read : (Field.string bytes).ReadAs (out.lookup key)) : ReadBack bytes (str out key) := by
  obtain ⟨text, found, back⟩ := read
  rw [str_of_lookup found]
  exact back

theorem carries_of_roundTrips
    (read : ∀ key field, (key, field) ∈ k.payload call → field.ReadAs (out.lookup key)) :
    Carries k call out where
  issuer := (readBack_str (read "iss" (.string _) (by simp [KeyPair.payload]))).eq
  subject := readBack_str (read "sub" (.string _) (by simp [KeyPair.payload]))
  audience := readBack_str (read "aud" (.string _) (by simp [KeyPair.payload]))
  scope := readBack_str (read "scope" (.string _) (by simp [KeyPair.payload]))
  tenant := readBack_str (read "tenant" (.string _) (by simp [KeyPair.payload]))
  expiry := fun small => num_of_lookup (read "exp" (.int _) (by simp [KeyPair.payload]) small)

structure Agrees (call : MintCall) (claims : Claims) (audience : List UInt8) (now : Nat) :
    Prop where
  audience : ValidUtf8 call.audience → call.audience = audience
  subject : ReadBack call.subject claims.subject
  scope : ReadBack call.scope claims.scope
  tenant : ReadBack call.tenant claims.tenant
  expiry : call.expiry.natAbs < 2 ^ 53 → claims.expiry = call.expiry ∧ unix now ≤ call.expiry

variable {history : List MintCall}

theorem verify_sound (trusted : Trusted k json crypto history) {token : List UInt8}
    (ok : k.verify json crypto token audience now = .ok claims) :
    ∃ call ∈ history, (∃ signature, token = k.signed json call ++ 0x2E :: signature) ∧
      Agrees call claims audience now := by
  unfold KeyPair.verify at ok
  split at ok
  · rename_i first second third parts
    have ⟨payload, sig, read, valid, checked⟩ := verifyParts_ok ok
    have ⟨call, member, same⟩ := trusted.unforgeable _ _ valid
    have ⟨_, payloadSegment, whole⟩ := segments_of_signed parts (Base64.dot_notMem_encode _)
      (Base64.dot_notMem_encode _) same
    have ⟨out, written, exact⟩ := trusted.payload call member
    rw [payloadSegment, decodeSegment_encode written] at read
    obtain rfl := Except.ok.inj read
    have carries := carries_of_roundTrips exact
    have ⟨_, aud, sub, scope, tenant, exp, current⟩ := checkClaims_ok checked
    refine ⟨call, member, ⟨third, ?_⟩, ?_, ?_, ?_, ?_, ?_⟩
    · rw [whole, KeyPair.signed, List.append_assoc, List.cons_append]
    · intro valid
      rw [← aud, carries.audience.same valid]
    · rw [sub]
      exact carries.subject
    · rw [scope]
      exact carries.scope
    · rw [tenant]
      exact carries.tenant
    · intro small
      rw [carries.expiry small] at exp current
      exact ⟨exp, current⟩
  · contradiction

structure MintCall.Usable (call : MintCall) : Prop where
  subject : call.subject ≠ []
  audience : call.audience ≠ []
  scope : call.scope ≠ []
  tenant : call.tenant ≠ []
  ttl : 0 < call.ttl

structure MintCall.Exact (call : MintCall) : Prop where
  audience : ValidUtf8 call.audience
  expiry : call.expiry.natAbs < 2 ^ 53

theorem expiry_pos (ttl : 0 < call.ttl) : 0 < call.expiry := by
  have started := call.started
  have second : 1 ≤ unix call.now := by
    unfold unix
    omega
  unfold MintCall.expiry
  omega

theorem checkClaims_minted (filled : k.kid ≠ "") (usable : call.Usable) (exact : call.Exact)
    (current : unix now ≤ call.expiry)
    (carries : Carries k call out) : ∃ claims, checkClaims out call.audience now = .ok claims := by
  have issued := issuerOf_ne_empty filled
  rw [← carries.issuer] at issued
  have present : requiredClaims.find? (fun key => str out key = "") = none := by
    simp [requiredClaims, issued, carries.subject.filled usable.subject,
      carries.audience.filled usable.audience, carries.scope.filled usable.scope,
      carries.tenant.filled usable.tenant]
  have positive := expiry_pos usable.ttl
  unfold checkClaims
  rw [present]
  rw [if_neg (not_not.mpr (carries.audience.same exact.audience)), carries.expiry exact.expiry,
    if_neg (by omega)]
  exact ⟨_, rfl⟩

theorem count_mint (k : KeyPair) (json : Json) (crypto : Crypto) (call : MintCall) :
    (k.mint json crypto call).count 0x2E = 2 := by
  have none : ∀ bytes, (Base64.encode bytes).count 0x2E = 0 := fun bytes =>
    List.count_eq_zero.mpr (Base64.dot_notMem_encode bytes)
  simp [KeyPair.mint, KeyPair.signed, none]

theorem verify_mint (trusted : Trusted k json crypto history) (member : call ∈ history) :
    ∃ out, Carries k call out ∧ ∀ audience now,
      k.verify json crypto (k.mint json crypto call) audience now =
        checkClaims out audience now := by
  have ⟨header, readHeader, inHeader⟩ := trusted.header
  have ⟨payload, readPayload, inPayload⟩ := trusted.payload call member
  have ⟨alg, algFound, algRead⟩ := inHeader "alg" (utf8 "EdDSA") (by simp [KeyPair.header])
  have ⟨kid, kidFound, kidRead⟩ := inHeader "kid" (utf8 k.kid) (by simp [KeyPair.header])
  rw [algRead.eq] at algFound
  rw [kidRead.eq] at kidFound
  refine ⟨payload, carries_of_roundTrips inPayload, ?_⟩
  intro audience now
  have valid := trusted.correct call member
  unfold KeyPair.signed at valid
  unfold KeyPair.verify
  rw [KeyPair.mint, KeyPair.signed, List.append_assoc, List.cons_append,
    split_segments (Base64.dot_notMem_encode _) (Base64.dot_notMem_encode _)
      (Base64.dot_notMem_encode _)]
  simp only [KeyPair.verifyParts]
  rw [decodeSegment_encode readHeader]
  simp only [algFound, kidFound, Option.getD_some, ne_eq, not_true_eq_false, if_false]
  rw [decodeSegment_encode readPayload]
  simp only [Base64.decode_encode]
  rw [valid]
  simp only [Bool.true_eq_false, if_false]

/-- A token is accepted only if it was minted for the audience with what it says, and every usable
token that was minted is accepted until it expires. -/
theorem token_sound_complete (crypto : Crypto) (json : Json) (secret : List UInt8)
    (issuer : String) (history : List MintCall)
    (trusted : Trusted (keyPairFromSecret crypto secret issuer) json crypto history)
    (audience : List UInt8) (now : Nat) :
    (∀ token claims,
      (keyPairFromSecret crypto secret issuer).verify json crypto token audience now = .ok claims →
      ∃ call ∈ history,
        (∃ signature, token =
          (keyPairFromSecret crypto secret issuer).signed json call ++ 0x2E :: signature) ∧
        Agrees call claims audience now) ∧
    ∀ call ∈ history, call.Usable → call.Exact → call.audience = audience →
      unix now ≤ call.expiry →
      ∃ claims, (keyPairFromSecret crypto secret issuer).verify json crypto
        ((keyPairFromSecret crypto secret issuer).mint json crypto call) audience now =
          .ok claims := by
  constructor
  · intro token claims ok
    exact verify_sound trusted ok
  · intro call member usable exact same current
    have ⟨out, carries, read⟩ := verify_mint trusted member
    rw [← same, read]
    exact checkClaims_minted (kid_ne_empty _ _ _) usable exact current carries

def sampleKey : KeyPair :=
  ⟨ascii "porter-jwt-v1:secret", [1, 2, 3, 4, 5, 6, 7, 8], "porter:AQIDBAUGBwg"⟩

def sampleNow : Nat := 1700000000000000000

theorem sampleNow_started : 1000000000 ≤ sampleNow := by decide

variable (tenant : String)

def sampleCall : MintCall where
  subject := utf8 "alice"
  audience := utf8 "porter-api"
  scope := utf8 "session"
  tenant := utf8 tenant
  ttl := 43200000000000
  now := sampleNow
  started := sampleNow_started

def sampleHeader : List UInt8 :=
  ascii "\x7b\"alg\":\"EdDSA\",\"kid\":\"porter:AQIDBAUGBwg\",\"typ\":\"JWT\"\x7d"

def samplePayload : List UInt8 :=
  ascii ("\x7b\"aud\":\"porter-api\",\"exp\":1700043200,\"iat\":1700000000,\"iss\":\"porter\"," ++
    "\"scope\":\"session\",\"sub\":\"alice\",\"tenant\":\"" ++ tenant ++ "\"\x7d")

def readHeader : List (String × String) :=
  [("alg", "EdDSA"), ("kid", "porter:AQIDBAUGBwg"), ("typ", "JWT")]

def readPayload : List (String × Value) :=
  [("aud", .string "porter-api"), ("exp", .number 1700043200), ("iat", .number 1700000000),
    ("iss", .string "porter"), ("scope", .string "session"), ("sub", .string "alice"),
    ("tenant", .string tenant)]

def sampleJson : Json where
  marshal := fun fields =>
    if fields = sampleKey.header then sampleHeader
    else if fields = sampleKey.payload (sampleCall tenant) then samplePayload tenant
    else []
  unmarshalStrings := fun text =>
    if text = sampleHeader then .ok readHeader else .error "unexpected end of JSON input"
  unmarshal := fun text =>
    if text = samplePayload tenant then .ok (readPayload tenant)
    else .error "unexpected end of JSON input"

def sampleCrypto : Crypto where
  sum256 := id
  newKeyFromSeed := fun _ => [1, 2, 3, 4, 5, 6, 7, 8]
  publicKey := id
  sign := fun key message => key ++ message
  verify := fun key message signature =>
    message = sampleKey.signed (sampleJson tenant) (sampleCall tenant) && signature = key ++ message

theorem marshal_samplePayload :
    (sampleJson tenant).marshal (sampleKey.payload (sampleCall tenant)) = samplePayload tenant := by
  have other : sampleKey.payload (sampleCall tenant) ≠ sampleKey.header := by
    simp [KeyPair.payload, KeyPair.header]
  simp only [sampleJson, if_neg other, if_true]

theorem unix_sampleNow : unix sampleNow = 1700000000 := by decide

theorem expiry_sampleCall : (sampleCall tenant).expiry = 1700043200 := by
  have ends : (unix sampleNow * 1000000000 + 43200000000000) / 1000000000 = 1700043200 := by decide
  exact ends

theorem trusted_sample :
    Trusted sampleKey (sampleJson tenant) (sampleCrypto tenant) [sampleCall tenant] where
  correct := by
    intro call member
    rw [List.mem_singleton.mp member]
    simp [sampleCrypto]
  unforgeable := by
    intro message signature valid
    refine ⟨sampleCall tenant, List.mem_singleton_self _, ?_⟩
    rw [sampleCrypto, Bool.and_eq_true] at valid
    exact of_decide_eq_true valid.1
  header := by
    refine ⟨readHeader, ?_, ?_⟩
    · simp only [sampleJson, if_true]
    · intro key bytes member
      simp only [KeyPair.header, List.mem_cons, Prod.mk.injEq, Field.string.injEq, List.not_mem_nil,
        or_false] at member
      rcases member with ⟨rfl, rfl⟩ | ⟨rfl, rfl⟩ | ⟨rfl, rfl⟩
      · exact ⟨_, rfl, readBack_utf8 _⟩
      · exact ⟨_, rfl, readBack_utf8 _⟩
      · exact ⟨_, rfl, readBack_utf8 _⟩
  payload := by
    intro call member
    rw [List.mem_singleton.mp member]
    refine ⟨readPayload tenant, ?_, ?_⟩
    · rw [marshal_samplePayload]
      simp only [sampleJson, if_true]
    · intro key field member
      simp only [KeyPair.payload, List.mem_cons, Prod.mk.injEq, List.not_mem_nil,
        or_false] at member
      rcases member with ⟨rfl, rfl⟩ | ⟨rfl, rfl⟩ | ⟨rfl, rfl⟩ | ⟨rfl, rfl⟩ | ⟨rfl, rfl⟩ |
        ⟨rfl, rfl⟩ | ⟨rfl, rfl⟩
      · exact ⟨_, rfl, readBack_utf8 _⟩
      · exact ⟨_, rfl, readBack_utf8 _⟩
      · exact ⟨_, rfl, readBack_utf8 _⟩
      · exact ⟨_, rfl, readBack_utf8 _⟩
      · exact ⟨_, rfl, readBack_utf8 _⟩
      · intro _
        have second : unix (sampleCall tenant).now = 1700000000 := unix_sampleNow
        rw [second]
        rfl
      · intro _
        rw [expiry_sampleCall]
        rfl

theorem usable_sampleCall : (sampleCall "acme").Usable := by
  constructor <;> decide

theorem exact_sampleCall : (sampleCall "acme").Exact where
  audience := ⟨"porter-api", rfl⟩
  expiry := by decide

theorem token_sound_complete_sample :
    Trusted (keyPairFromSecret (sampleCrypto "acme") (ascii "secret") "porter") (sampleJson "acme")
      (sampleCrypto "acme") [sampleCall "acme"] ∧
    ∃ claims, (keyPairFromSecret (sampleCrypto "acme") (ascii "secret") "porter").verify
      (sampleJson "acme") (sampleCrypto "acme")
      ((keyPairFromSecret (sampleCrypto "acme") (ascii "secret") "porter").mint (sampleJson "acme")
        (sampleCrypto "acme") (sampleCall "acme"))
      (utf8 "porter-api") 1700003600000000000 = .ok claims := by
  have trusted := trusted_sample "acme"
  exact ⟨trusted, (token_sound_complete (sampleCrypto "acme") (sampleJson "acme") (ascii "secret")
    "porter" [sampleCall "acme"] trusted (utf8 "porter-api") 1700003600000000000).2
    (sampleCall "acme") (List.mem_singleton_self _) usable_sampleCall exact_sampleCall rfl
    (by decide)⟩

end Porter.Auth
