import Mathlib.Data.List.Infix
import Porter.Go.Net

/-!
# Names of services

`internal/dns/dns.go` resolves `<svc>.<project>.local`, and the server of `internal/dns/server.go`
the names below its base domain.
-/
namespace Porter.Dns

open Go

/-- The lower case of a rune, and the rune for all that `EqualFold` takes for equal. -/
structure Casing where
  lower : Char → Char
  fold : Char → Char
  lower_ascii : ∀ c : Char, c.toNat < 128 → lower c = c.toLower
  fold_ascii : ∀ c : Char, c.toNat < 128 → fold c.toLower = fold c

structure NamedVM where
  serviceName : String
  projectID : String
  name : String
  ipAddress : String

variable (casing : Casing) (vms : List (Option NamedVM)) (svc project : List Char)

def Casing.EqualFold (left right : List Char) : Prop := left.map casing.fold = right.map casing.fold

instance (casing : Casing) (left right : List Char) : Decidable (casing.EqualFold left right) :=
  inferInstanceAs (Decidable (_ = _))

def selects (vm : NamedVM) : Bool :=
  casing.EqualFold vm.serviceName.toList svc &&
    (project = [] || project <:+: vm.projectID.toList.map casing.lower ||
      project <:+: vm.name.toList.map casing.lower)

def addresses (read : String → Option IP) (vms : List (Option NamedVM)) : List IP :=
  (vms.filterMap id).filterMap fun vm =>
    if selects casing svc project vm then read vm.ipAddress else none

def isLabel (label : List Char) : Bool :=
  label ≠ [] && label.all (fun c => ('a' ≤ c && c ≤ 'z') || ('0' ≤ c && c ≤ '9') || c = '-')

def zonePattern (host : List Char) : Option (List Char × List Char) :=
  match host.splitOn '.' with
  | [svc, project, zone] =>
    if isLabel svc && isLabel project && zone = "local".toList then some (svc, project) else none
  | _ => none

def trimSuffix (text ending : List Char) : List Char :=
  if ending <:+ text then text.take (text.length - ending.length) else text

def hostText (host : List Char) : List Char := (trimSuffix host ['.']).map casing.lower

def lookupIP (host : List Char) : Except String (List IP) :=
  match zonePattern (hostText casing host) with
  | none =>
    .error ("dns: " ++ String.ofList (hostText casing host) ++ " is not a .local service name")
  | some (svc, project) =>
    match addresses casing svc project parseIP vms with
    | [] => .error ("dns: no VM for " ++ String.ofList (hostText casing host))
    | out => .ok out

def hostOf (ip : String) : Option NamedVM :=
  vms.findSome? fun vm => vm.filter (fun vm => vm.ipAddress = ip)

def projectName (vm : NamedVM) : String := if vm.projectID = "" then "default" else vm.projectID

def lookupHost (ip : String) : Except String String :=
  match hostOf vms ip with
  | some vm => .ok (vm.serviceName ++ "." ++ projectName vm ++ ".local")
  | none => .error ("dns: no VM with ip " ++ ip)

def isFqdn (name : List Char) : Bool :=
  match name.reverse with
  | '.' :: before => (before.takeWhile (· = '\\')).length % 2 = 0
  | _ => false

def fqdn (name : List Char) : List Char := if isFqdn name then name else name ++ ['.']

structure Server where
  baseDomain : List Char
  gatewayIP : Option IP

def newServer (baseDomain : List Char) (gatewayIP : Option IP) : Server :=
  ⟨(trimSuffix baseDomain ['.']).map casing.lower, gatewayIP⟩

structure ARecord where
  name : List Char
  ttl : Nat
  a : IP

structure Reply where
  authoritative : Bool
  rcode : Nat
  answer : List ARecord

def nameError : Nat := 3

def parseIPTo4 (text : String) : Option IP := (parseIP text).bind to4

def resolveVM (m : Reply) (question : List Char) : Reply :=
  { m with
    answer := m.answer ++
      (addresses casing svc project parseIPTo4 vms).map (fun a => ⟨question, 30, a⟩) }

def Server.handleA (s : Server) (m : Reply) (question name : List Char) : Reply :=
  let zone := fqdn s.baseDomain
  if ¬ zone <:+ name ∧ name ≠ zone then { m with authoritative := false, rcode := nameError }
  else
    let subdomain := trimSuffix (trimSuffix name zone) ['.']
    match subdomain.span (· ≠ '.') with
    | (svc, _ :: project) => resolveVM casing vms svc project m question
    | _ =>
      match s.gatewayIP with
      | some ip => { m with answer := m.answer ++ [⟨name, 300, ip⟩] }
      | none => m

def Server.handleDNS (s : Server) (question : List Char) : Reply :=
  s.handleA casing vms ⟨true, 0, []⟩ question (fqdn (question.map casing.lower))

def InZone (zone name : List Char) : Prop := name = zone ∨ '.' :: zone <:+ name

/-- Only names of the zone are answered, or with authority; for others there is no such name. -/
structure KeepsToZone (zone name : List Char) (reply : Reply) : Prop where
  answers : reply.answer ≠ [] ∨ reply.authoritative = true → InZone zone name
  refuses : ¬ InZone zone name → reply.rcode = nameError ∧ reply.answer = []

theorem authoritative_handleA (s : Server) (m : Reply) (question name : List Char)
    (ends : fqdn s.baseDomain <:+ name) :
    (s.handleA casing vms m question name).authoritative = m.authoritative := by
  unfold Server.handleA
  rw [if_neg (fun refused => refused.1 ends)]
  simp only
  split
  · rfl
  · cases s.gatewayIP <;> rfl

def ascii : Casing where
  lower := Char.toLower
  fold := Char.toLower
  lower_ascii := fun _ _ => rfl
  fold_ascii := by
    have each : ∀ n : Fin 128, (Char.ofNat n.val).toLower.toLower = (Char.ofNat n.val).toLower := by
      decide +kernel
    intro c small
    have lowered := each ⟨c.toNat, small⟩
    rwa [Char.ofNat_toNat] at lowered

def OfTenant (vm : NamedVM) : Prop :=
  casing.EqualFold vm.serviceName.toList svc ∧ casing.EqualFold vm.projectID.toList project

def Stray (vm : NamedVM) : Prop :=
  selects casing svc project vm = true ∧ ¬ casing.EqualFold vm.projectID.toList project

def AddressOf (read : String → Option IP) (vms : List (Option NamedVM)) (property : NamedVM → Prop)
    (ip : IP) : Prop :=
  ∃ vm, some vm ∈ vms ∧ property vm ∧ read vm.ipAddress = some ip

variable {casing vms svc project} {read : String → Option IP}

theorem mem_addresses {ip : IP} :
    ip ∈ addresses casing svc project read vms ↔
      AddressOf read vms (fun vm => selects casing svc project vm = true) ip := by
  simp [addresses, AddressOf, List.mem_filterMap]

theorem addresses_tenant_iff :
    (∀ ip ∈ addresses casing svc project read vms,
        AddressOf read vms (OfTenant casing svc project) ip) ↔
      ∀ ip, AddressOf read vms (Stray casing svc project) ip →
        AddressOf read vms (OfTenant casing svc project) ip := by
  constructor
  · rintro own ip ⟨vm, listed, stray, found⟩
    exact own ip (mem_addresses.mpr ⟨vm, listed, stray.1, found⟩)
  · intro strays ip member
    obtain ⟨vm, listed, chosen, found⟩ := mem_addresses.mp member
    by_cases same : casing.EqualFold vm.projectID.toList project
    · have service : casing.EqualFold vm.serviceName.toList svc := by
        simpa using (Bool.and_eq_true_iff.mp chosen).1
      exact ⟨vm, listed, ⟨service, same⟩, found⟩
    · exact strays ip ⟨vm, listed, ⟨chosen, same⟩, found⟩

theorem lookupIP_eq {host : List Char}
    (label : zonePattern (hostText casing host) = some (svc, project)) :
    (lookupIP casing vms host).toOption.getD [] = addresses casing svc project parseIP vms := by
  unfold lookupIP
  rw [label]
  simp only
  split
  · rename_i none
    exact none.symm
  · rfl

/-- The resolver, asked for a service of a project, and the server answer with addresses of theirs
exactly if the addresses of strays are such too. -/
theorem tenancy_iff (casing : Casing) (vms : List (Option NamedVM))
    (svc project question : List Char) :
    (∀ host, zonePattern (hostText casing host) = some (svc, project) →
      ((∀ ip ∈ (lookupIP casing vms host).toOption.getD [],
          AddressOf parseIP vms (OfTenant casing svc project) ip) ↔
        ∀ ip, AddressOf parseIP vms (Stray casing svc project) ip →
          AddressOf parseIP vms (OfTenant casing svc project) ip)) ∧
    ((∀ record ∈ (resolveVM casing vms svc project ⟨true, 0, []⟩ question).answer,
        AddressOf parseIPTo4 vms (OfTenant casing svc project) record.a) ↔
      ∀ ip, AddressOf parseIPTo4 vms (Stray casing svc project) ip →
        AddressOf parseIPTo4 vms (OfTenant casing svc project) ip) := by
  constructor
  · intro host label
    rw [lookupIP_eq label]
    exact addresses_tenant_iff
  · rw [← addresses_tenant_iff]
    simp [resolveVM]

def twoTenants : List (Option NamedVM) :=
  [some ⟨"web", "app", "web-0", "10.42.0.10"⟩, some ⟨"web", "app2", "web-0", "10.42.1.10"⟩]

theorem stray_answered :
    (lookupIP ascii twoTenants "web.app.local".toList).map (·.map (·.drop 12)) =
        .ok [[10, 42, 0, 10], [10, 42, 1, 10]] ∧
      (resolveVM ascii twoTenants "web".toList "app".toList ⟨true, 0, []⟩ []).answer.map ARecord.a =
        [[10, 42, 0, 10], [10, 42, 1, 10]] ∧
      (twoTenants.map fun vm => vm.map fun vm =>
        (vm.ipAddress, decide (ascii.EqualFold vm.projectID.toList "app".toList))) =
        [some ("10.42.0.10", true), some ("10.42.1.10", false)] := by
  decide +kernel

def Hostname (name : String) : Prop :=
  name ≠ "" ∧ ∀ c ∈ name.toList, c.toNat < 128 ∧ (c.isAlphanum = true ∨ c = '-')

theorem Hostname.lower {name : String} (hostname : Hostname name) (casing : Casing) :
    isLabel (name.toList.map casing.lower) = true ∧ '.' ∉ name.toList.map casing.lower ∧
      casing.EqualFold name.toList (name.toList.map casing.lower) := by
  have each : ∀ n : Fin 128, ((Char.ofNat n.val).isAlphanum = true ∨ Char.ofNat n.val = '-') →
      isLabel [(Char.ofNat n.val).toLower] = true ∧ (Char.ofNat n.val).toLower ≠ '.' := by
    decide +kernel
  have letter : ∀ c ∈ name.toList, isLabel [casing.lower c] = true ∧ casing.lower c ≠ '.' ∧
      casing.fold (casing.lower c) = casing.fold c := by
    intro c member
    obtain ⟨small, kind⟩ := hostname.2 c member
    have known := each ⟨c.toNat, small⟩
    rw [Char.ofNat_toNat] at known
    rw [casing.lower_ascii c small]
    exact ⟨(known kind).1, (known kind).2, casing.fold_ascii c small⟩
  refine ⟨?_, ?_, ?_⟩
  · have filled : name.toList.map casing.lower ≠ [] := by simpa using hostname.1
    refine Bool.and_eq_true_iff.mpr ⟨decide_eq_true filled, List.all_eq_true.mpr ?_⟩
    intro c member
    obtain ⟨big, within, rfl⟩ := List.mem_map.mp member
    simpa [isLabel] using (letter big within).1
  · intro member
    obtain ⟨big, within, same⟩ := List.mem_map.mp member
    exact (letter big within).2.1 same
  · unfold Casing.EqualFold
    rw [List.map_map]
    exact List.map_congr_left fun c member => (letter c member).2.2.symm

theorem zonePattern_host {service project : String} (named : Hostname service)
    (owned : Hostname project) (casing : Casing) :
    zonePattern (hostText casing (service ++ "." ++ project ++ ".local").toList) =
      some (service.toList.map casing.lower, project.toList.map casing.lower) := by
  have kept : trimSuffix (service ++ "." ++ project ++ ".local").toList ['.'] =
      (service ++ "." ++ project ++ ".local").toList := by
    have last : (service ++ "." ++ project ++ ".local").toList =
        (service ++ "." ++ project ++ ".loca").toList ++ ['l'] := by simp
    refine if_neg ?_
    rintro ⟨front, same⟩
    rw [last, List.append_singleton_inj] at same
    exact absurd same.2 (by decide)
  have text : hostText casing (service ++ "." ++ project ++ ".local").toList =
      ['.'].intercalate [service.toList.map casing.lower, project.toList.map casing.lower,
        "local".toList] := by
    unfold hostText
    rw [kept]
    simp [List.intercalate, casing.lower_ascii]
  obtain ⟨label, apart, -⟩ := named.lower casing
  obtain ⟨label', apart', -⟩ := owned.lower casing
  unfold zonePattern
  rw [text, List.splitOn_intercalate '.' (by simp [apart, apart']) (List.cons_ne_nil _ _)]
  simp [label, label']

/-- The address of a VM leads to its name, and the name back to the address. -/
theorem lookupIP_lookupHost (casing : Casing) (vms : List (Option NamedVM)) (ip : String)
    (vm : NamedVM) (address : IP) (found : hostOf vms ip = some vm)
    (service : Hostname vm.serviceName) (project : Hostname vm.projectID)
    (parsed : parseIP ip = some address) :
    ∃ name out, lookupHost vms ip = .ok name ∧ lookupIP casing vms name.toList = .ok out ∧
      address ∈ out := by
  have name : projectName vm = vm.projectID := if_neg project.1
  have named : lookupHost vms ip = .ok (vm.serviceName ++ "." ++ vm.projectID ++ ".local") := by
    unfold lookupHost
    rw [found, ← name]
  obtain ⟨entry, listed, held⟩ := List.exists_of_findSome?_eq_some found
  obtain ⟨rfl, same⟩ := Option.filter_eq_some_iff.mp held
  rw [decide_eq_true_eq] at same
  have chosen : selects casing (vm.serviceName.toList.map casing.lower)
      (vm.projectID.toList.map casing.lower) vm = true := by
    simp [selects, (service.lower casing).2.2]
  have answered : address ∈ addresses casing (vm.serviceName.toList.map casing.lower)
      (vm.projectID.toList.map casing.lower) parseIP vms :=
    mem_addresses.mpr ⟨vm, listed, chosen, same ▸ parsed⟩
  refine ⟨_, _, named, ?_, answered⟩
  unfold lookupIP
  rw [zonePattern_host service project casing]
  simp only
  split
  · rename_i none
    rw [none] at answered
    cases answered
  · rfl

theorem lookupIP_lookupHost_web :
    ∃ name out, lookupHost twoTenants "10.42.1.10" = .ok name ∧
      lookupIP ascii twoTenants name.toList = .ok out ∧ v4InV6 ++ [10, 42, 1, 10] ∈ out :=
  lookupIP_lookupHost ascii twoTenants "10.42.1.10" ⟨"web", "app2", "web-0", "10.42.1.10"⟩ _
    (by rfl) ⟨by decide, List.forall_iff_forall_mem.mp (by decide)⟩
    ⟨by decide, List.forall_iff_forall_mem.mp (by decide)⟩ (by decide)

end Porter.Dns
