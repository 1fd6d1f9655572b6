import Mathlib.Data.List.AList
import Porter.Go.Strings

/-!
# The lines of a compose file

The loop of `ParseCompose` in `internal/compose/compose.go`, a hand-written parser that goes by the
indentation of lines.
-/
namespace Porter.Compose

open Go

abbrev Text := List UInt8

structure Port where
  containerPort : Int
  hostPort : Int
  protocol : Text

structure Healthcheck where
  type : Text
  intervalSec : Int

structure ComposeService where
  name : Text
  image : Text
  ports : List Port
  env : AList (fun _ : Text => Text)
  replicas : Int
  dependsOn : List Text
  networks : List Text
  healthcheck : Option Healthcheck
  restart : Text

def ComposeService.new (name : Text) : ComposeService where
  name := name
  image := []
  ports := []
  env := ∅
  replicas := 1
  dependsOn := []
  networks := []
  healthcheck := none
  restart := []

abbrev Services := AList (fun _ : Text => ComposeService)

inductive LineError where
  | expectedServiceName (got : Text)
  | emptyServiceName
  | outsideService
  | invalidPort (item : Text)
  | invalidEntry (item : Text)
  | replicas

inductive ParseError where
  | line (number : Nat) (err : LineError)
  | build (service : Text)
  | noServices
  | circular (path : List Text) (name : Text)
  | unknownService (parent name : Text)
  | missingImage (service : Text)

inductive Stop (ε : Type) where
  | error (err : ε)
  | panicked
  | unfinished

def Stop.map {ε ε' : Type} (f : ε → ε') : Stop ε → Stop ε'
  | .error err => .error (f err)
  | .panicked => .panicked
  | .unfinished => .unfinished

def index {ε α : Type} (xs : List α) (i : Nat) : Except (Stop ε) α :=
  match xs[i]? with
  | some x => .ok x
  | none => .error .panicked

def regexSpace (b : UInt8) : Bool := b ∈ ([0x09, 0x0A, 0x0C, 0x0D, 0x20] : List UInt8)

/-- The text up to the first `#` behind white space, without either. -/
def stripBehindSpace : Text → Text
  | [] => []
  | b :: rest =>
    if regexSpace b && rest.head? == some 0x23 then [] else b :: stripBehindSpace rest

/-- `commentRe.ReplaceAllString(raw, "")` for `(^|\s)#.*$`, on a text without line ends. -/
def stripComment (raw : Text) : Text :=
  if raw.head? = some 0x23 then [] else stripBehindSpace raw

def quotes : Text := ascii "\"'"

variable (item : Text)

def parsePort : Except (Stop LineError) Port := do
  let item := trim quotes item
  let (item, proto) := (cut item 0x2F).getD (item, ascii "tcp")
  let parts := split item 0x3A
  let portStr ← index parts (parts.length - 1)
  match atoi portStr with
  | none => .error (.error (.invalidPort item))
  | some p =>
    if parts.length > 1 then
      let first ← index parts 0
      return ⟨p, (atoi first).getD 0, proto⟩
    else return ⟨p, 0, proto⟩

def parseKV : Except (Stop LineError) (Text × Text) :=
  let item := trim quotes item
  match cut item 0x3D with
  | some (k, v) => .ok (trimSpace k, trimSpace v)
  | none =>
    match cut item 0x3A with
    | some (k, v) => .ok (trimSpace k, trim quotes (trimSpace v))
    | none => .error (.error (.invalidEntry item))

def parseDurationSeconds (s : Text) : Int :=
  let s := trimSpace s
  if hasSuffix s (ascii "s") then atoiAnyway (trimSuffix s (ascii "s")) else atoiAnyway s

inductive Section where
  | ports | environment | dependsOn | networks | deploy | healthcheck

def Section.ofKey (key : Text) : Option Section :=
  if key = ascii "ports" then some .ports
  else if key = ascii "environment" then some .environment
  else if key = ascii "depends_on" then some .dependsOn
  else if key = ascii "networks" then some .networks
  else if key = ascii "deploy" then some .deploy
  else if key = ascii "healthcheck" then some .healthcheck
  else none

def addCheck (check : Option Healthcheck) (item : Text) : Healthcheck :=
  let (k, v) := cutAnyway item 0x3A
  let k := trimSpace k
  let v := trim quotes (trimSpace v)
  let check := check.getD ⟨ascii "tcp", 0⟩
  if k = ascii "test" then { check with type := ascii "http" }
  else if k = ascii "interval" then { check with intervalSec := parseDurationSeconds v }
  else check

variable (svc : ComposeService)

def addItem (item : Text) :
    Section → Except (Stop LineError) ComposeService
  | .ports => do
    let p ← parsePort item
    return { svc with ports := svc.ports ++ [p] }
  | .environment => do
    let (k, v) ← parseKV item
    return { svc with env := svc.env.insert k v }
  | .dependsOn => .ok { svc with dependsOn := svc.dependsOn ++ [item] }
  | .networks => .ok { svc with networks := svc.networks ++ [item] }
  | .deploy =>
    match cut item 0x3A with
    | none => .ok svc
    | some (k, v) =>
      if trimSpace k = ascii "replicas" then
        match atoi (trimSpace v) with
        | none => .error (.error .replicas)
        | some n => .ok { svc with replicas := n }
      else .ok svc
  | .healthcheck => .ok { svc with healthcheck := some (addCheck svc.healthcheck item) }

structure Parser where
  inServices : Bool
  servicesIndent : Int
  svc : Option ComposeService
  svcIndent : Int
  sect : Option Section
  sectionIndent : Int
  services : Services
  order : List Text

def Parser.start : Parser where
  inServices := false
  servicesIndent := -1
  svc := none
  svcIndent := -1
  sect := none
  sectionIndent := -1
  services := ∅
  order := []

variable (p : Parser)

def Parser.fill (svc : ComposeService) : Parser :=
  { p with svc := some svc, services := p.services.insert svc.name svc }

def Parser.declare (indent : Int) (trimmed : Text) : Except (Stop LineError) Parser :=
  if !hasSuffix trimmed (ascii ":") then .error (.error (.expectedServiceName trimmed))
  else
    let name := trimSuffix trimmed (ascii ":")
    if name = [] then .error (.error .emptyServiceName)
    else
      .ok { p with
        svcIndent := indent
        svc := some (.new name)
        services := p.services.insert name (.new name)
        order := p.order ++ [name]
        sect := none
        sectionIndent := -1 }

def Parser.setKey (svc : ComposeService) (indent : Int) (trimmed : Text) :
    Except (Stop ParseError) Parser :=
  let (key, val) := cutAnyway trimmed 0x3A
  let key := trimSpace key
  let val := trim quotes (trimSpace val)
  if key = ascii "image" then .ok (p.fill { svc with image := val })
  else if key = ascii "restart" then .ok (p.fill { svc with restart := val })
  else if key = ascii "build" then .error (.error (.build svc.name))
  else
    match Section.ofKey key with
    | some sect => .ok { p with sect := some sect, sectionIndent := indent }
    | none => .ok p

def atLine {α : Type} (lineNo : Nat) (result : Except (Stop LineError) α) :
    Except (Stop ParseError) α :=
  result.mapError (Stop.map (.line (lineNo + 1)))

def Parser.within (indent : Int) : Option Section :=
  if indent > p.sectionIndent then p.sect else none

def Parser.line (p : Parser) (lineNo : Nat) (raw : Text) :
    Except (Stop ParseError) (Option Parser) :=
  let line := stripComment raw
  let trimmed := trimSpace line
  let indent : Int := line.length - (trimLeft (ascii " ") line).length
  if trimmed = [] then .ok (some p)
  else if !p.inServices then
    if trimmed = ascii "services:" then
      .ok (some { p with inServices := true, servicesIndent := indent })
    else .ok (some p)
  else if indent ≤ p.servicesIndent && trimmed ≠ ascii "services:" then .ok none
  else if p.svcIndent = -1 || indent = p.svcIndent then
    (atLine lineNo (p.declare indent trimmed)).map some
  else
    match p.svc with
    | none => atLine lineNo (.error (.error .outsideService))
    | some svc =>
      match p.within indent with
      | some sect =>
        (atLine lineNo (addItem svc (trimPrefix trimmed (ascii "- ")) sect)).map (some ∘ p.fill)
      | none => (p.setKey svc indent trimmed).map some

def Parser.scan (p : Parser) (lineNo : Nat) : List Text → Except (Stop ParseError) Parser
  | [] => .ok p
  | raw :: rest =>
    match p.line lineNo raw with
    | .error stop => .error stop
    | .ok none => .ok p
    | .ok (some next) => next.scan (lineNo + 1) rest

variable (yamlText : Text)

def lines : List Text := split (replaceAll yamlText 0x09 (ascii "    ")) 0x0A

def declarations : Except (Stop ParseError) (Services × List Text) :=
  (Parser.start.scan 0 (lines yamlText)).map (fun p => (p.services, p.order))

def Orderly {ε α : Type} (result : Except (Stop ε) α) (property : α → Prop) : Prop :=
  match result with
  | .ok value => property value
  | .error (.error _) => True
  | .error .panicked => False
  | .error .unfinished => False

namespace Orderly

variable {ε ε' α β : Type} {result : Except (Stop ε) α} {property : α → Prop}

theorem mono (orderly : Orderly result property) {weaker : α → Prop}
    (implied : ∀ value, property value → weaker value) : Orderly result weaker := by
  unfold Orderly at *
  split
  · exact implied _ orderly
  · trivial
  · exact orderly
  · exact orderly

theorem bind (orderly : Orderly result property) {next : α → Except (Stop ε) β}
    {later : β → Prop} (continues : ∀ value, property value → Orderly (next value) later) :
    Orderly (result >>= next) later := by
  cases result with
  | ok value => exact continues value orderly
  | error stop => cases stop <;> exact orderly

theorem map (orderly : Orderly result property) {f : α → β} {later : β → Prop}
    (kept : ∀ value, property value → later (f value)) : Orderly (result.map f) later := by
  cases result with
  | ok value => exact kept value orderly
  | error stop => cases stop <;> exact orderly

theorem atLine {result : Except (Stop LineError) α} (orderly : Orderly result property)
    (lineNo : Nat) : Orderly (Compose.atLine lineNo result) property := by
  cases result with
  | ok value => exact orderly
  | error stop => cases stop <;> exact orderly

end Orderly

theorem orderly_index {ε α : Type} (xs : List α) {i : Nat} (bound : i < xs.length) :
    Orderly (index xs i : Except (Stop ε) α) (fun _ => True) := by
  unfold index
  rw [List.getElem?_eq_getElem bound]
  trivial

theorem orderly_parsePort : Orderly (parsePort item) (fun _ => True) := by
  have filled : ∀ text, 0 < (split text 0x3A).length :=
    fun text => List.length_pos_of_ne_nil (split_ne_nil text 0x3A)
  unfold parsePort
  simp only
  refine (orderly_index _ (Nat.sub_lt (filled _) Nat.one_pos)).bind ?_
  intro portStr _
  split
  · trivial
  · split
    · refine (orderly_index _ (filled _)).bind ?_
      intro first _
      exact trivial
    · exact trivial

theorem orderly_parseKV : Orderly (parseKV item) (fun _ => True) := by
  unfold parseKV
  simp only
  split
  · trivial
  · split <;> trivial

theorem orderly_addItem (item : Text) (sect : Section) :
    Orderly (addItem svc item sect) (fun after => after.name = svc.name) := by
  cases sect with
  | ports => exact (orderly_parsePort item).bind (fun _ _ => rfl)
  | environment => exact (orderly_parseKV item).bind (fun _ _ => rfl)
  | dependsOn | networks | healthcheck => exact rfl
  | deploy =>
    unfold addItem
    simp only
    split
    · exact rfl
    · split
      · split
        · trivial
        · exact rfl
      · exact rfl

structure Parser.Sound (p : Parser) : Prop where
  declared : ∀ name, name ∈ p.order ↔ name ∈ p.services
  named : ∀ name svc, p.services.lookup name = some svc → svc.name = name
  current : ∀ svc, p.svc = some svc → svc.name ∈ p.services

theorem sound_start : Parser.start.Sound where
  declared := fun name =>
    ⟨fun member => (List.not_mem_nil member).elim,
      fun member => (AList.notMem_empty name member).elim⟩
  named := nofun
  current := nofun

theorem named_insert {services : Services}
    (named : ∀ name found, services.lookup name = some found → found.name = name) :
    ∀ name found, (services.insert svc.name svc).lookup name = some found → found.name = name := by
  intro name found present
  by_cases same : name = svc.name
  · rw [same, AList.lookup_insert] at present
    rw [same, Option.some.inj present]
  · rw [AList.lookup_insert_ne same] at present
    exact named name found present

theorem Parser.Sound.fill {p : Parser} (sound : p.Sound) {svc after : ComposeService}
    (current : p.svc = some svc) (same : after.name = svc.name) : (p.fill after).Sound where
  declared := by
    intro name
    show name ∈ p.order ↔ name ∈ p.services.insert after.name after
    rw [sound.declared, AList.mem_insert]
    constructor
    · exact Or.inr
    · rintro (rfl | old)
      · rw [same]
        exact sound.current svc current
      · exact old
  named := named_insert after sound.named
  current := by
    intro found here
    obtain rfl := Option.some.inj here
    exact (AList.mem_insert _).mpr (Or.inl rfl)

theorem Parser.Sound.declare {p : Parser} (sound : p.Sound) (indent : Int) (trimmed : Text) :
    Orderly (p.declare indent trimmed) Parser.Sound := by
  unfold Parser.declare
  split
  · trivial
  · simp only
    split
    · trivial
    · refine ⟨?_, named_insert (.new _) sound.named, ?_⟩
      · intro name
        rw [List.mem_append, List.mem_singleton, AList.mem_insert, sound.declared, or_comm]
      · intro found here
        obtain rfl := Option.some.inj here
        exact (AList.mem_insert _).mpr (Or.inl rfl)

theorem Parser.Sound.setKey {p : Parser} (sound : p.Sound) {svc : ComposeService}
    (current : p.svc = some svc) (indent : Int) (trimmed : Text) :
    Orderly (p.setKey svc indent trimmed) Parser.Sound := by
  unfold Parser.setKey
  simp only
  split
  · exact sound.fill current rfl
  · split
    · exact sound.fill current rfl
    · split
      · trivial
      · split
        · exact ⟨sound.declared, sound.named, sound.current⟩
        · exact sound

theorem Parser.Sound.line {p : Parser} (sound : p.Sound) (lineNo : Nat) (raw : Text) :
    Orderly (p.line lineNo raw) (fun next => ∀ after, next = some after → after.Sound) := by
  have keeps : ∀ after, some p = some after → after.Sound := by
    intro after same
    rw [← Option.some.inj same]
    exact sound
  have taken : ∀ q : Parser, q.Sound → ∀ after, some q = some after → after.Sound := by
    intro q known after same
    rw [← Option.some.inj same]
    exact known
  unfold Parser.line
  simp only
  split
  · exact keeps
  · split
    · split
      · exact taken _ ⟨sound.declared, sound.named, sound.current⟩
      · exact keeps
    · split
      · exact nofun
      · split
        · exact ((sound.declare _ _).atLine lineNo).map taken
        · split
          · trivial
          · rename_i svc current
            split
            · refine ((orderly_addItem svc _ _).atLine lineNo).map ?_
              intro after same
              exact taken _ (sound.fill current same)
            · exact (sound.setKey current _ _).map taken

theorem Parser.Sound.scan {p : Parser} (sound : p.Sound) (lineNo : Nat) (rest : List Text) :
    Orderly (p.scan lineNo rest) Parser.Sound := by
  induction rest generalizing p lineNo with
  | nil => exact sound
  | cons raw rest recurse =>
    have line := sound.line lineNo raw
    unfold Parser.scan
    cases read : p.line lineNo raw with
    | error stop =>
      rw [read] at line
      cases stop <;> exact line
    | ok next =>
      rw [read] at line
      cases next with
      | none => exact sound
      | some after => exact recurse (line after rfl) (lineNo + 1)

structure Declared (services : Services) (order : List Text) : Prop where
  all : ∀ name, name ∈ order ↔ name ∈ services
  named : ∀ name svc, services.lookup name = some svc → svc.name = name

theorem orderly_declarations :
    Orderly (declarations yamlText) (fun found => Declared found.1 found.2) :=
  (sound_start.scan 0 (lines yamlText)).map (fun _ sound => ⟨sound.declared, sound.named⟩)

end Porter.Compose
