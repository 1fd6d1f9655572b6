import Porter.Go.Net
import Porter.Store.Domains
import Porter.Store.Projects

/-!
# The HTTP gateway

`internal/gateway/gateway.go`: the replicas that may serve a host, the choice by cookie or by turn,
the firewall and the address.
-/
namespace Porter.Gateway

open Go Store

structure VM where
  id : String
  projectID : String
  state : VMState
  healthStatus : HealthStatus
  ipAddress : String
  ports : List Port
  deploymentID : String
  deploymentVersion : String
deriving DecidableEq

structure GatewayStore where
  getVM : String → Option VM
  listVMs : List VM
  listDomains : String → List Domain
  listFirewallRules : String → List (Option FirewallRule)
  listDeployments : Option (String → List Deployment)

/-- The resolver, if one is attached, and the case folding of runes `strings.EqualFold` uses. -/
structure Config where
  dns : Option (String → Option (List String))
  fold : Char → Char

structure Request where
  host : String
  remoteAddr : String
  cookie : Option String

def isHealthy (vm : VM) : Bool := vm.state = .running && vm.healthStatus ≠ .unhealthy

def equalFold (fold : Char → Char) (left right : String) : Bool :=
  left.toList.map fold = right.toList.map fold

def weightOf (d : Deployment) : Int := if d.routeWeight ≤ 0 then d.rolloutPercent else d.routeWeight

def repeatsOf (weight : Int) : Nat :=
  let repeats := weight.tdiv 10
  let repeats := if repeats < 1 then 1 else repeats
  let repeats := if repeats > 10 then 10 else repeats
  repeats.toNat

variable (store : GatewayStore)

def deploymentBackends (d : Deployment) : List VM :=
  if weightOf d ≤ 0 ∨ d.buildStatus = "failed" ∨ d.vmIDs = [] then []
  else
    d.vmIDs.flatMap (fun id =>
      match store.getVM id with
      | none => []
      | some vm => if isHealthy vm then List.replicate (repeatsOf (weightOf d)) vm else [])

variable (projectID : String)

def weightedDeploymentBackends (fallback : VM) : List VM :=
  match store.listDeployments with
  | none => [fallback]
  | some listDeployments =>
    let out := (listDeployments projectID).flatMap (deploymentBackends store)
    if out = [] then [fallback] else out

variable (config : Config)

def domainMatch (store : GatewayStore) (host : String) : Option VM :=
  store.listVMs.find? (fun vm => isHealthy vm &&
    (store.listDomains vm.id).any (fun d => equalFold config.fold d.domain host))

def isLocal (host : String) : Bool := ".local".toList.isSuffixOf host.toList

def dnsMatch (store : GatewayStore) (host : String) : Option VM :=
  match config.dns with
  | none => none
  | some lookupIP =>
    if isLocal host then
      match lookupIP host with
      | none => none
      | some ips => store.listVMs.find? (fun vm => isHealthy vm &&
          ips.any (fun ip => vm.ipAddress ≠ "" && vm.ipAddress = ip))
    else none

def backendsFor (store : GatewayStore) (host : String) : List VM :=
  match domainMatch config store host with
  | some vm => weightedDeploymentBackends store vm.projectID vm
  | none =>
    match dnsMatch config store host with
    | some vm => [vm]
    | none => store.listVMs.filter isHealthy

def sourceMatches (source ip : String) : Bool :=
  if source = "" ∨ source = "*" ∨ source = "0.0.0.0/0" then true
  else if source = ip then true
  else
    match parseCIDR source with
    | some cidr =>
      match parseIP ip with
      | some parsed => cidr.contains parsed
      | none => false
    | none => false

variable (remoteAddr : String)

def sourceIP : String :=
  match splitHostPort remoteAddr with
  | some (host, _) => host
  | none => remoteAddr

/-- The current rule is exchanged for every later one of a smaller priority. -/
def settle (current : FirewallRule) : List FirewallRule → FirewallRule × List FirewallRule
  | [] => (current, [])
  | next :: rest =>
    if next.priority < current.priority then
      let (least, later) := settle next rest
      (least, current :: later)
    else
      let (least, later) := settle current rest
      (least, next :: later)

def exchangeSort : Nat → List FirewallRule → List FirewallRule
  | rounds + 1, current :: rest =>
    let (least, later) := settle current rest
    least :: exchangeSort rounds later
  | _, rules => rules

def denyRules (rules : List (Option FirewallRule)) : List FirewallRule :=
  rules.filterMap (fun rule =>
    rule.filter (fun fr => fr.active && fr.action = "deny"))

def blockedByFirewall : Option FirewallRule :=
  if projectID = "" then none
  else
    let best := denyRules (store.listFirewallRules projectID)
    (exchangeSort best.length best).find? (fun fr => sourceMatches fr.source (sourceIP remoteAddr))

def targetAddress (vm : VM) : Option String :=
  if vm.ipAddress = "" then none
  else
    let port :=
      match vm.ports with
      | port :: _ => if port.containerPort ≠ 0 then port.containerPort else 80
      | [] => 80
    some (vm.ipAddress ++ ":" ++ toString port)

def sticky (vms : List VM) (cookie : Option String) : Option VM :=
  match cookie with
  | none => none
  | some value => vms.find? (fun vm => vm.deploymentID = value || vm.deploymentVersion = value)

/-- `vms[int(counter) % len(vms)]`; a negative index panics. -/
def roundRobin (vms : List VM) (counter : UInt64) : Option VM :=
  let index := counter.toInt64.toInt.tmod vms.length
  if index < 0 then none else vms[index.toNat]?

inductive Outcome where
  | refused (status : Nat) (message : String)
  | panicked
  | forwarded (vm : VM) (target : String)
deriving DecidableEq

structure Served where
  outcome : Outcome
  counter : UInt64
  setCookie : Option String

def forward (vm : VM) : Outcome :=
  match blockedByFirewall store vm.projectID remoteAddr with
  | some _ => .refused 403 "blocked by firewall"
  | none =>
    match targetAddress vm with
    | none => .refused 503 "vm has no address"
    | some target => .forwarded vm target

def hostName (host : String) : String := String.ofList (host.toList.takeWhile (· ≠ ':'))

def serveHTTP (store : GatewayStore) (counter : UInt64) (r : Request) : Served :=
  let host := hostName r.host
  let vms := backendsFor config store host
  if vms = [] then ⟨.refused 503 ("no healthy backend for " ++ host), counter, none⟩
  else
    match sticky vms r.cookie with
    | some vm => ⟨forward store r.remoteAddr vm, counter, none⟩
    | none =>
      match roundRobin vms (counter + 1) with
      | none => ⟨.panicked, counter + 1, none⟩
      | some vm =>
        ⟨forward store r.remoteAddr vm, counter + 1,
          if vm.deploymentVersion ≠ "" then some vm.deploymentVersion else none⟩

theorem settle_perm (current : FirewallRule) (rules : List FirewallRule) :
    ((settle current rules).1 :: (settle current rules).2).Perm (current :: rules) := by
  induction rules generalizing current with
  | nil => exact List.Perm.refl _
  | cons next rest recurse =>
    unfold settle
    split
    · exact (List.Perm.swap _ _ _).trans ((recurse next).cons current)
    · exact ((List.Perm.swap _ _ _).trans ((recurse current).cons next)).trans
        (List.Perm.swap _ _ _)

theorem exchangeSort_perm (rounds : Nat) (rules : List FirewallRule) :
    (exchangeSort rounds rules).Perm rules := by
  induction rounds generalizing rules with
  | zero => exact List.Perm.refl _
  | succ rounds recurse =>
    cases rules with
    | nil => exact List.Perm.refl _
    | cons current rest =>
      exact ((recurse _).cons _).trans (settle_perm _ _)

theorem mem_denyRules (rules : List (Option FirewallRule)) (fr : FirewallRule) :
    fr ∈ denyRules rules ↔ some fr ∈ rules ∧ fr.active = true ∧ fr.action = "deny" := by
  simp only [denyRules, List.mem_filterMap, Option.filter_eq_some_iff, Bool.and_eq_true,
    decide_eq_true_eq]
  constructor
  · rintro ⟨rule, listed, rfl, denies⟩
    exact ⟨listed, denies⟩
  · rintro ⟨listed, denies⟩
    exact ⟨some fr, listed, rfl, denies⟩

theorem blockedByFirewall_eq_none (project : projectID ≠ "") :
    blockedByFirewall store projectID remoteAddr = none ↔
      ∀ fr, some fr ∈ store.listFirewallRules projectID → fr.active = true → fr.action = "deny" →
        sourceMatches fr.source (sourceIP remoteAddr) = false := by
  unfold blockedByFirewall
  simp only [if_neg project, List.find?_eq_none, (exchangeSort_perm _ _).mem_iff, mem_denyRules,
    Bool.not_eq_true, and_imp]

variable {vm : VM} {store : GatewayStore} {config : Config}

theorem healthy_of_deploymentBackends {d : Deployment} (listed : vm ∈ deploymentBackends store d) :
    isHealthy vm = true := by
  unfold deploymentBackends at listed
  split at listed
  · cases listed
  · obtain ⟨id, -, entry⟩ := List.mem_flatMap.mp listed
    split at entry
    · cases entry
    · split at entry
      · rwa [(List.mem_replicate.mp entry).2]
      · cases entry

theorem healthy_of_weighted {projectID : String} {fallback : VM}
    (healthy : isHealthy fallback = true)
    (listed : vm ∈ weightedDeploymentBackends store projectID fallback) : isHealthy vm = true := by
  unfold weightedDeploymentBackends at listed
  split at listed
  · rwa [List.mem_singleton.mp listed]
  · simp only at listed
    split at listed
    · rwa [List.mem_singleton.mp listed]
    · obtain ⟨d, -, entry⟩ := List.mem_flatMap.mp listed
      exact healthy_of_deploymentBackends entry

variable {host : String}

theorem domainMatch_healthy (found : domainMatch config store host = some vm) :
    isHealthy vm = true := by
  have matched := List.find?_some found
  simp only [Bool.and_eq_true] at matched
  exact matched.1

theorem dnsMatch_healthy (found : dnsMatch config store host = some vm) : isHealthy vm = true := by
  unfold dnsMatch at found
  split at found
  · cases found
  · split at found
    · split at found
      · cases found
      · have matched := List.find?_some found
        simp only [Bool.and_eq_true] at matched
        exact matched.1
    · cases found

theorem healthy_of_backendsFor (listed : vm ∈ backendsFor config store host) :
    isHealthy vm = true := by
  unfold backendsFor at listed
  split at listed
  · rename_i found
    exact healthy_of_weighted (domainMatch_healthy found) listed
  · split at listed
    · rename_i found
      rw [List.mem_singleton.mp listed]
      exact dnsMatch_healthy found
    · exact (List.mem_filter.mp listed).2

theorem mem_of_sticky {vms : List VM} {cookie : Option String}
    (chosen : sticky vms cookie = some vm) : vm ∈ vms := by
  unfold sticky at chosen
  split at chosen
  · cases chosen
  · exact List.mem_of_find?_eq_some chosen

theorem mem_of_roundRobin {vms : List VM} {counter : UInt64}
    (chosen : roundRobin vms counter = some vm) : vm ∈ vms := by
  unfold roundRobin at chosen
  simp only at chosen
  split at chosen
  · cases chosen
  · exact List.mem_of_getElem? chosen

theorem forward_eq_forwarded {remoteAddr target : String} {chosen : VM} :
    forward store remoteAddr chosen = .forwarded vm target ↔
      chosen = vm ∧ blockedByFirewall store vm.projectID remoteAddr = none ∧
        targetAddress vm = some target := by
  unfold forward
  constructor
  · intro result
    split at result
    · cases result
    · rename_i passes
      split at result
      · cases result
      · rename_i addressed
        cases result
        exact ⟨rfl, passes, addressed⟩
  · rintro ⟨rfl, passes, addressed⟩
    simp [passes, addressed]

theorem serveHTTP_forwarded {counter : UInt64} {r : Request} {target : String}
    (result : (serveHTTP config store counter r).outcome = .forwarded vm target) :
    vm ∈ backendsFor config store (hostName r.host) ∧
      blockedByFirewall store vm.projectID r.remoteAddr = none ∧
      targetAddress vm = some target := by
  unfold serveHTTP at result
  simp only at result
  split at result
  · cases result
  · split at result
    · rename_i chosen
      obtain ⟨rfl, passes, addressed⟩ := forward_eq_forwarded.mp result
      exact ⟨mem_of_sticky chosen, passes, addressed⟩
    · split at result
      · cases result
      · rename_i chosen
        obtain ⟨rfl, passes, addressed⟩ := forward_eq_forwarded.mp result
        exact ⟨mem_of_roundRobin chosen, passes, addressed⟩

theorem targetAddress_ne {target : String} (addressed : targetAddress vm = some target) :
    vm.ipAddress ≠ "" := by
  intro empty
  simp [targetAddress, empty] at addressed

/-- A request is forwarded only to a running replica that is not unhealthy and has an address, with
no active deny rule of its project that matches the source. -/
theorem forwards_to_healthy_unblocked (config : Config) (store : GatewayStore) (counter : UInt64)
    (r : Request) (vm : VM) (target : String)
    (forwarded : (serveHTTP config store counter r).outcome = .forwarded vm target) :
    vm.state = .running ∧ vm.healthStatus ≠ .unhealthy ∧ vm.ipAddress ≠ "" ∧
      (vm.projectID ≠ "" → ∀ fr, some fr ∈ store.listFirewallRules vm.projectID →
        fr.active = true → fr.action = "deny" →
        sourceMatches fr.source (sourceIP r.remoteAddr) = false) := by
  obtain ⟨listed, passes, addressed⟩ := serveHTTP_forwarded forwarded
  have healthy := healthy_of_backendsFor listed
  simp only [isHealthy, Bool.and_eq_true, decide_eq_true_eq] at healthy
  refine ⟨healthy.1, healthy.2, targetAddress_ne addressed, ?_⟩
  intro project
  exact (blockedByFirewall_eq_none _ _ _ project).mp passes

def exampleVM (id projectID ipAddress : String) : VM where
  id := id
  projectID := projectID
  state := .running
  healthStatus := .healthy
  ipAddress := ipAddress
  ports := []
  deploymentID := ""
  deploymentVersion := ""

def exampleStore : GatewayStore where
  getVM := fun _ => none
  listVMs := [exampleVM "v1" "p1" "10.0.0.2"]
  listDomains := fun _ => []
  listFirewallRules := fun _ =>
    [none, some ⟨"f1", "p1", "ingress", "deny", "", "", "10.9.0.0/16", 1, true⟩]
  listDeployments := none

theorem forwards_to_healthy_unblocked_example :
    (serveHTTP ⟨none, id⟩ exampleStore 0 ⟨"shop.example.com:80", "10.8.0.1:5000", none⟩).outcome =
        .forwarded (exampleVM "v1" "p1" "10.0.0.2") "10.0.0.2:80" ∧
      sourceMatches "10.9.0.0/16" "10.8.0.1" = false := by
  have forwarded : (serveHTTP ⟨none, id⟩ exampleStore 0
      ⟨"shop.example.com:80", "10.8.0.1:5000", none⟩).outcome =
        .forwarded (exampleVM "v1" "p1" "10.0.0.2") "10.0.0.2:80" := by decide +kernel
  have source : sourceIP "10.8.0.1:5000" = "10.8.0.1" := by decide +kernel
  have spared := (forwards_to_healthy_unblocked _ _ _ _ _ _ forwarded).2.2.2 (by decide)
    ⟨"f1", "p1", "ingress", "deny", "", "", "10.9.0.0/16", 1, true⟩ (by simp [exampleStore])
    rfl rfl
  rw [source] at spared
  exact ⟨forwarded, spared⟩

def versioned : GatewayStore :=
  { exampleStore with listVMs := [{ exampleVM "v1" "p1" "10.0.0.2" with
    deploymentVersion := "7" }] }

end Porter.Gateway
