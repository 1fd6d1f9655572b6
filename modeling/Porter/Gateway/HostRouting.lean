import Porter.Gateway.Proxy

/-!
# Host routing on the PostgreSQL store

The gateway asks the store for the domains of a replica, and the store answers with the domains of
the project of that id.
-/
namespace Porter.Gateway

open Go Sql Store

structure GatewayDb where
  state : ProjectDb
  ipAddress : String → String
  domains : DomainDb
  firewallRules : Table FirewallRule.id

variable (db : GatewayDb)

def GatewayDb.backend (vm : Store.VM) : VM where
  id := vm.id
  projectID := vm.projectID
  state := vm.state
  healthStatus := vm.healthStatus
  ipAddress := db.ipAddress vm.id
  ports := vm.ports
  deploymentID := vm.deploymentID
  deploymentVersion := vm.deploymentVersion

variable (projectID : String)

/-- `ListFirewallRules`; an empty project is written as `NULL` and matches no row. -/
def listFirewallRules (table : Table FirewallRule.id) (projectID : String) : List FirewallRule :=
  if projectID = "" then []
  else (table.rows.filter (·.projectID = projectID)).insertionSort (·.priority ≤ ·.priority)

def postgres : GatewayStore where
  getVM := fun id => (getVM db.state id).map db.backend
  listVMs := db.state.replicas.rows.map db.backend
  listDomains := listDomains db.domains .clean
  listFirewallRules := fun projectID => (listFirewallRules db.firewallRules projectID).map some
  listDeployments := some (listDeployments db.state .clean)

/-- The replica is healthy, and the project of the replica's id has a domain of the host's name. -/
def NamedByHost (config : Config) (db : GatewayDb) (host : String) (vm : VM) : Prop :=
  isHealthy vm = true ∧ ∃ row ∈ db.domains.domains.rows, row.projectID = some vm.id ∧
    equalFold config.fold row.doc.domain host = true

def Resolved (config : Config) (host : String) (vm : VM) : Prop :=
  isHealthy vm = true ∧ vm.ipAddress ≠ "" ∧ isLocal host = true ∧
    ∃ lookupIP ips, config.dns = some lookupIP ∧ lookupIP host = some ips ∧ vm.ipAddress ∈ ips

def Oldest (p : VM → Prop) (vm : VM) : Prop :=
  p vm ∧ ∃ older newer, db.state.replicas.rows.map db.backend = older ++ vm :: newer ∧
    ∀ other ∈ older, ¬ p other

def Deployed (vm : VM) : Prop :=
  isHealthy vm = true ∧ ∃ d ∈ listDeployments db.state .clean projectID,
    0 < weightOf d ∧ d.buildStatus ≠ "failed" ∧
      ∃ id ∈ d.vmIDs, ∃ row ∈ db.state.replicas.rows, row.id = id ∧ db.backend row = vm

inductive Candidate (config : Config) (db : GatewayDb) (host : String) : VM → Prop where
  /-- The deployments of the project of the oldest replica that is named by the host. -/
  | deployed (named vm : VM) (first : Oldest db (NamedByHost config db host) named)
      (listed : Deployed db named.projectID vm) : Candidate config db host vm
  /-- That replica, if its project has no deployment with a healthy replica. -/
  | named (vm : VM) (first : Oldest db (NamedByHost config db host) vm)
      (none : ∀ other, ¬ Deployed db vm.projectID other) : Candidate config db host vm
  /-- If no replica is named by the host, the oldest one the resolver finds. -/
  | resolved (vm : VM)
      (unnamed : ∀ row ∈ db.state.replicas.rows, ¬ NamedByHost config db host (db.backend row))
      (first : Oldest db (Resolved config host) vm) : Candidate config db host vm
  /-- If there is none either, every healthy replica. -/
  | any (row : Store.VM) (stored : row ∈ db.state.replicas.rows)
      (healthy : isHealthy (db.backend row) = true)
      (unnamed : ∀ row ∈ db.state.replicas.rows, ¬ NamedByHost config db host (db.backend row))
      (unresolved : ∀ row ∈ db.state.replicas.rows, ¬ Resolved config host (db.backend row)) :
      Candidate config db host (db.backend row)

variable (db : GatewayDb)

theorem find_eq_oldest (matches? : VM → Bool) (p : VM → Prop)
    (same : ∀ vm, matches? vm = true ↔ p vm) (vm : VM) :
    (db.state.replicas.rows.map db.backend).find? matches? = some vm ↔ Oldest db p vm := by
  rw [List.find?_eq_some_iff_append]
  simp only [Oldest, same, Bool.not_eq_true', ← Bool.not_eq_true]

theorem find_eq_none_oldest (matches? : VM → Bool) (p : VM → Prop)
    (same : ∀ vm, matches? vm = true ↔ p vm) :
    (db.state.replicas.rows.map db.backend).find? matches? = none ↔
      ∀ row ∈ db.state.replicas.rows, ¬ p (db.backend row) := by
  simp only [List.find?_eq_none, List.mem_map, forall_exists_index, and_imp,
    forall_apply_eq_imp_iff₂, same]

variable (config : Config)

theorem namedByHost_iff (db : GatewayDb) (host : String) (vm : VM) :
    (isHealthy vm && ((postgres db).listDomains vm.id).any
      (fun d => equalFold config.fold d.domain host)) = true ↔ NamedByHost config db host vm := by
  simp only [Bool.and_eq_true, List.any_eq_true, postgres, listDomains, RowsFault.delivered_clean,
    List.mem_map, List.mem_filter, decide_eq_true_eq, NamedByHost]
  refine and_congr Iff.rfl ⟨?_, ?_⟩
  · rintro ⟨-, ⟨row, ⟨stored, belongs⟩, rfl⟩, same⟩
    exact ⟨row, stored, belongs, same⟩
  · rintro ⟨row, stored, belongs, same⟩
    exact ⟨_, ⟨row, ⟨stored, belongs⟩, rfl⟩, same⟩

theorem domainMatch_eq_some (db : GatewayDb) (host : String) (vm : VM) :
    domainMatch config (postgres db) host = some vm ↔
      Oldest db (NamedByHost config db host) vm :=
  find_eq_oldest db _ _ (namedByHost_iff config db host) vm

theorem domainMatch_eq_none (db : GatewayDb) (host : String) :
    domainMatch config (postgres db) host = none ↔
      ∀ row ∈ db.state.replicas.rows, ¬ NamedByHost config db host (db.backend row) :=
  find_eq_none_oldest db _ _ (namedByHost_iff config db host)

theorem dnsMatch_eq_find (db : GatewayDb) (host : String) :
    dnsMatch config (postgres db) host =
      (db.state.replicas.rows.map db.backend).find? (fun vm => isHealthy vm && isLocal host &&
        (((config.dns.bind (· host)).getD []).any
          (fun ip => vm.ipAddress ≠ "" && vm.ipAddress = ip))) := by
  unfold dnsMatch
  cases resolver : config.dns with
  | none => simp [List.find?_eq_none]
  | some lookupIP =>
    by_cases localHost : isLocal host = true
    · cases answer : lookupIP host with
      | none => simp [answer, localHost, List.find?_eq_none]
      | some ips => simp [answer, localHost, postgres]
    · simp [localHost, List.find?_eq_none]

theorem resolved_iff (host : String) (vm : VM) :
    (isHealthy vm && isLocal host && (((config.dns.bind (· host)).getD []).any
      (fun ip => vm.ipAddress ≠ "" && vm.ipAddress = ip))) = true ↔ Resolved config host vm := by
  unfold Resolved
  cases resolver : config.dns with
  | none => simp
  | some lookupIP =>
    cases answer : lookupIP host with
    | none => simp [answer]
    | some ips =>
      simp [answer]
      tauto

theorem repeatsOf_pos (weight : Int) : 0 < repeatsOf weight := by
  unfold repeatsOf
  simp only
  split <;> split <;> omega

theorem mem_deploymentBackends (d : Deployment) (vm : VM) :
    vm ∈ deploymentBackends (postgres db) d ↔
      isHealthy vm = true ∧ 0 < weightOf d ∧ d.buildStatus ≠ "failed" ∧
        ∃ id ∈ d.vmIDs, ∃ row ∈ db.state.replicas.rows, row.id = id ∧ db.backend row = vm := by
  constructor
  · intro listed
    have healthy := healthy_of_deploymentBackends listed
    unfold deploymentBackends at listed
    split at listed
    · cases listed
    · rename_i routed
      push Not at routed
      obtain ⟨id, member, entry⟩ := List.mem_flatMap.mp listed
      split at entry
      · cases entry
      · rename_i found
        obtain ⟨row, stored, rfl⟩ := Option.map_eq_some_iff.mp found
        obtain ⟨kept, key⟩ := (Table.find_eq_some _ _ _).mp stored
        split at entry
        · obtain rfl := (List.mem_replicate.mp entry).2
          exact ⟨healthy, routed.1, routed.2.1, id, member, row, kept, key, rfl⟩
        · cases entry
  · rintro ⟨healthy, weighted, built, id, member, row, stored, key, rfl⟩
    have found : (postgres db).getVM id = some (db.backend row) :=
      Option.map_eq_some_iff.mpr ⟨row, (Table.find_eq_some _ _ _).mpr ⟨stored, key⟩, rfl⟩
    have routed : ¬ (weightOf d ≤ 0 ∨ d.buildStatus = "failed" ∨ d.vmIDs = []) := by
      push Not
      exact ⟨weighted, built, List.ne_nil_of_mem member⟩
    unfold deploymentBackends
    rw [if_neg routed, List.mem_flatMap]
    refine ⟨id, member, ?_⟩
    rw [found]
    simp [healthy, (repeatsOf_pos (weightOf d)).ne']

theorem mem_deployed (vm : VM) :
    vm ∈ (listDeployments db.state .clean projectID).flatMap (deploymentBackends (postgres db)) ↔
      Deployed db projectID vm := by
  simp only [List.mem_flatMap, mem_deploymentBackends, Deployed]
  constructor
  · rintro ⟨d, listed, healthy, rest⟩
    exact ⟨healthy, d, listed, rest⟩
  · rintro ⟨healthy, d, listed, rest⟩
    exact ⟨d, listed, healthy, rest⟩

theorem mem_weighted (fallback vm : VM) :
    vm ∈ weightedDeploymentBackends (postgres db) projectID fallback ↔
      Deployed db projectID vm ∨
        vm = fallback ∧ ∀ other, ¬ Deployed db projectID other := by
  have emptiness : (listDeployments db.state .clean projectID).flatMap
      (deploymentBackends (postgres db)) = [] ↔ ∀ other, ¬ Deployed db projectID other := by
    simp only [List.eq_nil_iff_forall_not_mem, mem_deployed]
  show vm ∈ (if (listDeployments db.state .clean projectID).flatMap
      (deploymentBackends (postgres db)) = [] then [fallback]
    else (listDeployments db.state .clean projectID).flatMap
      (deploymentBackends (postgres db))) ↔ _
  split
  · rename_i none
    have nobody := emptiness.mp none
    simp [nobody]
  · rename_i some
    rw [mem_deployed]
    exact ⟨Or.inl, fun either => either.resolve_right (fun other => some (emptiness.mpr other.2))⟩

theorem candidate_of_named {config : Config} {db : GatewayDb} {host : String} {first : VM}
    (oldest : Oldest db (NamedByHost config db host) first) (vm : VM) :
    Candidate config db host vm ↔
      Deployed db first.projectID vm ∨
        vm = first ∧ ∀ other, ¬ Deployed db first.projectID other := by
  have found := (domainMatch_eq_some _ _ _ _).mpr oldest
  have unique : ∀ other, Oldest db (NamedByHost config db host) other → other = first := by
    intro other too
    exact Option.some.inj (((domainMatch_eq_some _ _ _ _).mpr too).symm.trans found)
  have contradicts : ¬ ∀ row ∈ db.state.replicas.rows,
      ¬ NamedByHost config db host (db.backend row) := by
    intro unnamed
    simp [(domainMatch_eq_none config db host).mpr unnamed] at found
  constructor
  · intro candidate
    cases candidate with
    | deployed named vm too listed =>
      obtain rfl := unique named too
      exact Or.inl listed
    | named vm too nobody =>
      obtain rfl := unique vm too
      exact Or.inr ⟨rfl, nobody⟩
    | resolved vm unnamed => exact absurd unnamed contradicts
    | any row stored healthy unnamed => exact absurd unnamed contradicts
  · rintro (listed | ⟨rfl, nobody⟩)
    · exact .deployed first vm oldest listed
    · exact .named vm oldest nobody

theorem candidate_of_unnamed {config : Config} {db : GatewayDb} {host : String}
    (unnamed : ∀ row ∈ db.state.replicas.rows, ¬ NamedByHost config db host (db.backend row))
    (vm : VM) :
    Candidate config db host vm ↔
      Oldest db (Resolved config host) vm ∨
        (∀ row ∈ db.state.replicas.rows, ¬ Resolved config host (db.backend row)) ∧
          ∃ row ∈ db.state.replicas.rows, isHealthy (db.backend row) = true ∧
            db.backend row = vm := by
  have nothing : ∀ first, ¬ Oldest db (NamedByHost config db host) first := by
    intro first oldest
    have found := (domainMatch_eq_some _ _ _ _).mpr oldest
    simp [(domainMatch_eq_none config db host).mpr unnamed] at found
  constructor
  · intro candidate
    cases candidate with
    | deployed named vm first => exact absurd first (nothing named)
    | named vm first => exact absurd first (nothing vm)
    | resolved vm _ first => exact Or.inl first
    | any row stored healthy _ unresolved => exact Or.inr ⟨unresolved, row, stored, healthy, rfl⟩
  · rintro (first | ⟨unresolved, row, stored, healthy, rfl⟩)
    · exact .resolved vm unnamed first
    · exact .any row stored healthy unnamed unresolved

theorem mem_backendsFor (db : GatewayDb) (host : String) (vm : VM) :
    vm ∈ backendsFor config (postgres db) host ↔ Candidate config db host vm := by
  unfold backendsFor
  cases named : domainMatch config (postgres db) host with
  | some first =>
    simp only [mem_weighted,
      candidate_of_named ((domainMatch_eq_some config db host first).mp named)]
  | none =>
    rw [candidate_of_unnamed ((domainMatch_eq_none _ _ _).mp named),
      ← find_eq_oldest db _ _ (resolved_iff config host) vm,
      ← find_eq_none_oldest db _ _ (resolved_iff config host), ← dnsMatch_eq_find]
    cases resolved : dnsMatch config (postgres db) host with
    | some first =>
      simp only [List.mem_singleton, Option.some.injEq, reduceCtorEq, false_and, or_false]
      exact eq_comm
    | none =>
      simp only [postgres, List.mem_filter, List.mem_map, reduceCtorEq, true_and, false_or]
      constructor
      · rintro ⟨⟨row, stored, rfl⟩, healthy⟩
        exact ⟨row, stored, healthy, rfl⟩
      · rintro ⟨row, stored, healthy, rfl⟩
        exact ⟨⟨row, stored, rfl⟩, healthy⟩

theorem roundRobin_reaches {vms : List VM} {vm : VM} (listed : vm ∈ vms)
    (fits : vms.length < 2 ^ 63) : ∃ counter, roundRobin vms (counter + 1) = some vm := by
  obtain ⟨index, inside, rfl⟩ := List.mem_iff_getElem.mp listed
  refine ⟨UInt64.ofNat index - 1, ?_⟩
  have turn : (UInt64.ofNat index - 1 + 1).toInt64.toInt = index := by
    rw [show UInt64.ofNat index - 1 + 1 = UInt64.ofNat index by simp, UInt64.toInt64_ofNat',
      Int64.toInt_ofNat_of_lt (by omega)]
  have place : (index : Int).tmod vms.length = index :=
    Int.tmod_eq_of_lt (by omega) (by omega)
  unfold roundRobin
  rw [turn, place]
  simp [inside]

def Open (db : GatewayDb) (projectID : String) : Prop :=
  ∃ remoteAddr, blockedByFirewall (postgres db) projectID remoteAddr = none

theorem forwarded_iff (db : GatewayDb) (host : String)
    (fits : (backendsFor config (postgres db) (hostName host)).length < 2 ^ 63) (vm : VM) :
    (∃ counter r target, r.host = host ∧
      (serveHTTP config (postgres db) counter r).outcome = .forwarded vm target) ↔
      Candidate config db (hostName host) vm ∧ vm.ipAddress ≠ "" ∧ Open db vm.projectID := by
  constructor
  · rintro ⟨counter, r, target, rfl, result⟩
    obtain ⟨listed, passes, addressed⟩ := serveHTTP_forwarded result
    exact ⟨(mem_backendsFor config db _ vm).mp listed, targetAddress_ne addressed,
      r.remoteAddr, passes⟩
  · rintro ⟨candidate, address, remoteAddr, passes⟩
    have listed := (mem_backendsFor _ db _ vm).mpr candidate
    obtain ⟨counter, turn⟩ := roundRobin_reaches listed fits
    have addressed : ∃ target, targetAddress vm = some target := by
      simp [targetAddress, address]
    obtain ⟨target, addressed⟩ := addressed
    refine ⟨counter, ⟨host, remoteAddr, none⟩, target, rfl, ?_⟩
    have some : backendsFor config (postgres db) (hostName host) ≠ [] := List.ne_nil_of_mem listed
    have sent := forward_eq_forwarded.mpr ⟨rfl, passes, addressed⟩
    simp [serveHTTP, some, sticky, turn, sent]

/-- Whatever the cookie, client and counter, a request goes to replicas of the project only. -/
def StaysInProject (config : Config) (db : GatewayDb) (host projectID : String) : Prop :=
  ∀ counter r vm target, r.host = host →
    (serveHTTP config (postgres db) counter r).outcome = .forwarded vm target →
    vm.projectID = projectID

def exampleReplica (id projectID : String) : Store.VM where
  id := id
  name := ""
  projectID := projectID
  serviceName := "web"
  state := .running
  healthStatus := .healthy
  image := ""
  replicaIndex := 0
  vcpus := 1
  memMiB := 128
  ports := []
  env := GoMap.nil
  volumeID := ""
  deploymentID := ""
  deploymentVersion := ""
  deploymentEnv := ""
  guestBase := ""
  rootfsPath := ""
  kernel := ""
  error := ""

def exampleTables (replicas : Table Store.VM.id) : GatewayDb where
  state := { ProjectDb.empty with replicas := replicas }
  ipAddress := fun id => if id = "v1" then "10.0.0.2" else "10.0.1.2"
  domains :=
    { projects := ["p1", "p2"]
      domains := Table.single _ (newDomainRow "p1" ⟨"p1", "shop.example.com", "custom", ""⟩)
      owned := by decide }
  firewallRules := Table.empty _

def twoTenants : Table Store.VM.id where
  rows := [exampleReplica "v1" "p1", exampleReplica "v2" "p2"]
  unique := by decide

end Porter.Gateway
