import Mathlib.Algebra.GroupWithZero.Nat
import Mathlib.Data.List.Count
import Mathlib.Data.List.Rotate
import Porter.Gateway.HostRouting

/-!
# The shares of a weighted pool

`weightedDeploymentBackends` lists every healthy replica once for each ten percent of its
deployment's weight, and `ServeHTTP` goes through the list by turns.
-/
namespace Porter.Gateway

open Go Store

variable {store : GatewayStore} {config : Config} {counter : UInt64} {d : Deployment}
  {vms : List VM}

def Eligible (d : Deployment) : Prop := 0 < weightOf d ∧ d.buildStatus ≠ "failed"

instance (d : Deployment) : Decidable (Eligible d) := inferInstanceAs (Decidable (_ ∧ _))

def listings (store : GatewayStore) (d : Deployment) (vm : VM) : Nat :=
  d.vmIDs.countP (fun id => store.getVM id = some vm)

def healthyListings (store : GatewayStore) (d : Deployment) : Nat :=
  d.vmIDs.countP (fun id => (store.getVM id).any isHealthy)

def clampedShare (weight : Int) : Nat := (max 1 (min 10 (weight / 10))).toNat

theorem repeatsOf_eq_clampedShare {weight : Int} (positive : 0 < weight) :
    repeatsOf weight = clampedShare weight := by
  have quotient : weight.tdiv 10 = weight / 10 := Int.tdiv_eq_ediv_of_nonneg (by omega)
  unfold repeatsOf clampedShare
  simp only
  split <;> split <;> omega

theorem deploymentBackends_ineligible (not : ¬ Eligible d) : deploymentBackends store d = [] := by
  unfold deploymentBackends
  rw [if_pos]
  by_contra routed
  push Not at routed
  exact not ⟨routed.1, routed.2.1⟩

theorem countP_deploymentBackends (store : GatewayStore) (eligible : Eligible d) (p : VM → Bool) :
    (deploymentBackends store d).countP p =
      d.vmIDs.countP (fun id => (store.getVM id).any (fun vm => isHealthy vm && p vm)) *
        clampedShare (weightOf d) := by
  have share := repeatsOf_eq_clampedShare eligible.1
  unfold deploymentBackends
  by_cases listsNone : d.vmIDs = []
  · simp [listsNone]
  · have routed : ¬ (weightOf d ≤ 0 ∨ d.buildStatus = "failed" ∨ d.vmIDs = []) := by
      push Not
      exact ⟨eligible.1, eligible.2, listsNone⟩
    rw [if_neg routed, share]
    -- One position after the other: it adds the clamped share, or nothing.
    induction d.vmIDs with
    | nil => simp
    | cons id rest recurse =>
      rw [List.flatMap_cons, List.countP_append, recurse, List.countP_cons]
      cases store.getVM id with
      | none => simp
      | some vm =>
        by_cases healthy : isHealthy vm = true
        · by_cases holds : p vm = true
          · simp [healthy, holds, List.countP_replicate, Nat.add_mul, Nat.add_comm]
          · simp [healthy, holds, List.countP_replicate]
        · simp [healthy]

theorem length_deploymentBackends (store : GatewayStore) (eligible : Eligible d) :
    (deploymentBackends store d).length = healthyListings store d * clampedShare (weightOf d) := by
  have all := countP_deploymentBackends store eligible (fun _ => true)
  simp only [List.countP_true, Bool.and_true] at all
  exact all

theorem count_deploymentBackends (store : GatewayStore) (d : Deployment) {vm : VM}
    (healthy : isHealthy vm = true) :
    (deploymentBackends store d).count vm =
      if Eligible d then listings store d vm * clampedShare (weightOf d) else 0 := by
  split
  · rename_i eligible
    have same : ∀ id, (store.getVM id).any (fun other => isHealthy other && other == vm) =
        decide (store.getVM id = some vm) := by
      intro id
      cases store.getVM id with
      | none => rfl
      | some other =>
        by_cases equal : other = vm
        · simp [equal, healthy]
        · simp [equal]
    unfold List.count listings
    simp only [countP_deploymentBackends store eligible, same]
  · rename_i not
    rw [deploymentBackends_ineligible not, List.count_nil]

theorem weightedDeploymentBackends_eq {projectID : String}
    {listDeployments : String → List Deployment}
    (lists : store.listDeployments = some listDeployments) {fallback : VM}
    (some : (listDeployments projectID).flatMap (deploymentBackends store) ≠ []) :
    weightedDeploymentBackends store projectID fallback =
      (listDeployments projectID).flatMap (deploymentBackends store) := by
  unfold weightedDeploymentBackends
  rw [lists]
  exact if_neg some

def Stepped (weight : Int) : Prop := ∃ steps : Nat, 1 ≤ steps ∧ steps ≤ 10 ∧ weight = 10 * steps

theorem clampedShare_stepped {weight : Int} (stepped : Stepped weight) :
    10 * (clampedShare weight : Int) = weight := by
  obtain ⟨steps, least, most, rfl⟩ := stepped
  unfold clampedShare
  omega

theorem tenfold_length (store : GatewayStore) (eligible : Eligible d)
    (stepped : Stepped (weightOf d)) :
    10 * ((deploymentBackends store d).length : Int) = healthyListings store d * weightOf d := by
  rw [length_deploymentBackends _ eligible, Int.natCast_mul, ← Int.mul_assoc,
    Int.mul_comm 10, Int.mul_assoc, clampedShare_stepped stepped]

theorem proportional_iff {e : Deployment} (eligible : Eligible d) (other : Eligible e)
    (stepped : Stepped (weightOf d)) (otherStepped : Stepped (weightOf e)) :
    (deploymentBackends store d).length * weightOf e =
        (deploymentBackends store e).length * weightOf d ↔
      healthyListings store d = healthyListings store e := by
  have left : 10 * ((deploymentBackends store d).length * weightOf e) =
      weightOf d * weightOf e * healthyListings store d := by
    rw [← Int.mul_assoc, tenfold_length _ eligible stepped]
    ac_rfl
  have right : 10 * ((deploymentBackends store e).length * weightOf d) =
      weightOf d * weightOf e * healthyListings store e := by
    rw [← Int.mul_assoc, tenfold_length _ other otherStepped]
    ac_rfl
  have ten : (10 : Int) ≠ 0 := by decide
  have weights : weightOf d * weightOf e ≠ 0 :=
    Int.ne_of_gt (Int.mul_pos eligible.1 other.1)
  rw [← Int.mul_eq_mul_left_iff ten, left, right, Int.mul_eq_mul_left_iff weights,
    Int.natCast_inj]

/-- Each deployment is routed to, with a weight in steps of ten, and lists a healthy replica. -/
structure SharesByWeight (store : GatewayStore) (ds : List Deployment) : Prop where
  eligible : ∀ d ∈ ds, Eligible d
  stepped : ∀ d ∈ ds, Stepped (weightOf d)
  healthy : ∀ d ∈ ds, 1 ≤ healthyListings store d

theorem SharesByWeight.contributes {ds : List Deployment} (shared : SharesByWeight store ds)
    (some : ds ≠ []) : ds.flatMap (deploymentBackends store) ≠ [] := by
  obtain ⟨d, member⟩ := List.exists_mem_of_ne_nil ds some
  have length := tenfold_length store (shared.eligible d member) (shared.stepped d member)
  have positive : 0 < (healthyListings store d : Int) * weightOf d :=
    Int.mul_pos (Int.natCast_pos.mpr (shared.healthy d member)) (shared.eligible d member).1
  intro none
  rw [List.flatMap_eq_nil_iff.mp none d member] at length
  simp only [List.length_nil, Int.natCast_zero, Int.mul_zero] at length
  omega

/-- Where deployments share by weight, the pool is what they contribute, and the contributions of
any two are in the ratio of their weights exactly when all list equally many healthy replicas. -/
theorem weighted_shares_iff (store : GatewayStore) (projectID : String) (fallback : VM)
    (listDeployments : String → List Deployment)
    (lists : store.listDeployments = some listDeployments)
    (shared : SharesByWeight store (listDeployments projectID)) :
    (listDeployments projectID ≠ [] → weightedDeploymentBackends store projectID fallback =
      (listDeployments projectID).flatMap (deploymentBackends store)) ∧
    ((∀ d ∈ listDeployments projectID, ∀ e ∈ listDeployments projectID,
        (deploymentBackends store d).length * weightOf e =
          (deploymentBackends store e).length * weightOf d) ↔
      ∀ d ∈ listDeployments projectID, ∀ e ∈ listDeployments projectID,
        healthyListings store d = healthyListings store e) := by
  refine ⟨fun some => weightedDeploymentBackends_eq lists (shared.contributes some), ?_⟩
  refine forall₂_congr (fun d member => forall₂_congr (fun e other => ?_))
  exact proportional_iff (shared.eligible d member) (shared.eligible e other)
    (shared.stepped d member) (shared.stepped e other)

def weighted (id : String) (weight : Int) (vmIDs : List String) : Deployment where
  id := id
  projectID := "p1"
  buildStatus := "live"
  imageDigest := ""
  rollbackTo := ""
  gitURL := ""
  gitCommit := ""
  checks := []
  rolloutPercent := 0
  versionLabel := ""
  guestBase := ""
  environment := ""
  isProduction := false
  routeWeight := weight
  vmIDs := vmIDs

def weightedStore (ds : List Deployment) : GatewayStore where
  getVM := fun id => some (exampleVM id "p1" "10.0.0.2")
  listVMs := [exampleVM "v1" "p1" "10.0.0.2"]
  listDomains := fun _ => [⟨"p1", "shop.example.com", "custom", ""⟩]
  listFirewallRules := fun _ => []
  listDeployments := some (fun _ => ds)

def canary : List Deployment := [weighted "d1" 90 ["v1"], weighted "d2" 10 ["v2"]]

theorem weighted_shares_iff_canary :
    (deploymentBackends (weightedStore canary) (weighted "d1" 90 ["v1"])).length * 10 =
      (deploymentBackends (weightedStore canary) (weighted "d2" 10 ["v2"])).length * 90 := by
  have shared : SharesByWeight (weightedStore canary) canary :=
    { eligible := by decide
      stepped := by
        intro d member
        rcases List.mem_pair.mp member with rfl | rfl
        · exact ⟨9, by decide⟩
        · exact ⟨1, by decide⟩
      healthy := by decide }
  have shares :=
    weighted_shares_iff (weightedStore canary) "p1" (exampleVM "v1" "p1" "") _ rfl shared
  exact Int.natCast_inj.mp
    (shares.2.mpr (by decide) (weighted "d1" 90 ["v1"]) (by decide) (weighted "d2" 10 ["v2"])
      (by decide))

def wideCanary : List Deployment :=
  [weighted "d1" 90 ["v1"],
    weighted "d2" 10 ["v2", "v3", "v4", "v5", "v6", "v7", "v8", "v9", "v10"]]

theorem wide_canary_shares_equally :
    ¬ (∀ d ∈ wideCanary, ∀ e ∈ wideCanary,
      (deploymentBackends (weightedStore wideCanary) d).length * weightOf e =
        (deploymentBackends (weightedStore wideCanary) e).length * weightOf d) := by
  decide

def selected (config : Config) (store : GatewayStore) (counter : UInt64) (r : Request) :
    Option VM :=
  let vms := backendsFor config store (hostName r.host)
  match sticky vms r.cookie with
  | some vm => some vm
  | none => roundRobin vms (counter + 1)

theorem serveHTTP_outcome {r : Request} (filled : backendsFor config store (hostName r.host) ≠ []) :
    (serveHTTP config store counter r).outcome =
      match selected config store counter r with
      | none => .panicked
      | some vm => forward store r.remoteAddr vm := by
  unfold serveHTTP selected
  simp only [if_neg filled]
  cases sticky (backendsFor config store (hostName r.host)) r.cookie with
  | some vm => rfl
  | none => cases roundRobin (backendsFor config store (hostName r.host)) (counter + 1) <;> rfl

def selections (config : Config) (store : GatewayStore) : UInt64 → List Request → List (Option VM)
  | _, [] => []
  | counter, r :: rest =>
    selected config store counter r ::
      selections config store (serveHTTP config store counter r).counter rest

theorem serveHTTP_counter {r : Request} (filled : backendsFor config store (hostName r.host) ≠ [])
    (unmatched : sticky (backendsFor config store (hostName r.host)) r.cookie = none) :
    (serveHTTP config store counter r).counter = counter + 1 := by
  unfold serveHTTP
  simp only [if_neg filled, unmatched]
  split <;> rfl

theorem roundRobin_eq (below : counter.toNat < 2 ^ 63) :
    roundRobin vms counter = vms[counter.toNat % vms.length]? := by
  have value : counter.toInt64.toInt = counter.toNat := by
    rw [← UInt64.ofNat_toNat (x := counter), UInt64.toInt64_ofNat',
      Int64.toInt_ofNat_of_lt (by omega)]
    simp
  have index : (counter.toNat : Int).tmod vms.length = (counter.toNat % vms.length : Nat) := rfl
  have natural : ¬ ((counter.toNat % vms.length : Nat) : Int) < 0 := by omega
  unfold roundRobin
  simp only [value, index, if_neg natural, Int.toNat_natCast]

section Unmatched

variable {host : String} (backends : backendsFor config store host = vms) {requests : List Request}
  (unmatched : ∀ r ∈ requests, hostName r.host = host ∧ sticky vms r.cookie = none)
  (below : counter.toNat + requests.length < 2 ^ 63)

include backends unmatched below

theorem selections_eq (filled : vms ≠ []) :
    selections config store counter requests =
      (List.range requests.length).map
        (fun turn => vms[(turn + (counter.toNat + 1)) % vms.length]?) := by
  induction requests generalizing counter with
  | nil => rfl
  | cons r rest recurse =>
    obtain ⟨⟨sameHost, noCookie⟩, others⟩ := List.forall_mem_cons.mp unmatched
    rw [List.length_cons] at below
    have one : (1 : UInt64).toNat = 1 := rfl
    have next : (counter + 1).toNat = counter.toNat + 1 := by
      rw [UInt64.toNat_add, one]
      exact Nat.mod_eq_of_lt (by omega)
    have first : selected config store counter r =
        vms[(counter.toNat + 1) % vms.length]? := by
      unfold selected
      rw [sameHost, backends]
      simp only [noCookie]
      rw [roundRobin_eq (by omega), next]
    have counted : (serveHTTP config store counter r).counter = counter + 1 :=
      serveHTTP_counter (by rwa [sameHost, backends]) (by rwa [sameHost, backends])
    rw [selections, first, counted, recurse others (by omega), next, List.length_cons,
      List.range_succ_eq_map, List.map_cons, List.map_map, Nat.zero_add]
    congr 1
    apply List.map_congr_left
    intro turn _
    simp only [Function.comp_apply, Nat.succ_eq_add_one, Nat.add_assoc, Nat.add_comm 1]

theorem selections_window (window : requests.length = vms.length) :
    selections config store counter requests = (vms.rotate (counter.toNat + 1)).map some := by
  by_cases filled : vms = []
  · have none : requests = [] := by
      rw [filled] at window
      exact List.eq_nil_of_length_eq_zero window
    rw [none, filled]
    rfl
  · rw [selections_eq backends unmatched below filled]
    apply List.ext_getElem?
    intro turn
    rw [List.getElem?_map, List.getElem?_map]
    by_cases inside : turn < vms.length
    · have entry := List.getElem?_rotate (n := counter.toNat + 1) inside
      rw [entry, List.getElem?_range (by omega)]
      have bound : (turn + (counter.toNat + 1)) % vms.length < vms.length :=
        Nat.mod_lt _ (by omega)
      simp only [Option.map_some, List.getElem?_eq_getElem bound]
    · rw [List.getElem?_eq_none (by simp; omega), List.getElem?_eq_none (by simp; omega)]
      rfl

end Unmatched

theorem backendsFor_weighted {host : String} {first : VM}
    {listDeployments : String → List Deployment}
    (found : domainMatch config store host = some first)
    (lists : store.listDeployments = some listDeployments)
    (serves : ∃ d ∈ listDeployments first.projectID, Eligible d ∧ 1 ≤ healthyListings store d) :
    backendsFor config store host =
      (listDeployments first.projectID).flatMap (deploymentBackends store) := by
  unfold backendsFor
  rw [found]
  apply weightedDeploymentBackends_eq lists
  obtain ⟨d, listed, eligible, healthy⟩ := serves
  intro none
  have length := length_deploymentBackends store eligible
  have share : 0 < clampedShare (weightOf d) := by
    unfold clampedShare
    omega
  rw [List.flatMap_eq_nil_iff.mp none d listed, List.length_nil] at length
  exact absurd length.symm (Nat.mul_pos healthy share).ne'

theorem count_flatMap_deploymentBackends (store : GatewayStore) (ds : List Deployment) {vm : VM}
    (healthy : isHealthy vm = true) :
    (ds.flatMap (deploymentBackends store)).count vm =
      (ds.map (fun d =>
        if Eligible d then listings store d vm * clampedShare (weightOf d) else 0)).sum := by
  induction ds with
  | nil => rfl
  | cons d rest recurse =>
    rw [List.flatMap_cons, List.count_append, recurse, count_deploymentBackends _ d healthy,
      List.map_cons, List.sum_cons]

theorem listed_of_deploymentBackends {vm : VM} (entry : vm ∈ deploymentBackends store d) :
    Eligible d ∧ 1 ≤ listings store d vm := by
  have healthy := healthy_of_deploymentBackends entry
  have counted := List.count_pos_iff.mpr entry
  rw [count_deploymentBackends _ d healthy] at counted
  split at counted
  · rename_i eligible
    exact ⟨eligible, Nat.pos_of_mul_pos_right counted⟩
  · cases counted

/-- Over as many requests as the list of a host has entries, without a matching cookie, every
replica is selected as often as it is listed. -/
theorem roundRobin_realises (config : Config) (store : GatewayStore) (host : String)
    (counter : UInt64) (requests : List Request)
    (window : requests.length = (backendsFor config store host).length)
    (unmatched : ∀ r ∈ requests,
      hostName r.host = host ∧ sticky (backendsFor config store host) r.cookie = none)
    (below : counter.toNat + requests.length < 2 ^ 63) :
    (none ∉ selections config store counter requests ∧
      ∀ vm, (selections config store counter requests).count (some vm) =
        (backendsFor config store host).count vm) ∧
    ∀ first listDeployments, domainMatch config store host = some first →
      store.listDeployments = some listDeployments →
      (∃ d ∈ listDeployments first.projectID, Eligible d ∧ 1 ≤ healthyListings store d) →
      (∀ vm, some vm ∈ selections config store counter requests → isHealthy vm = true ∧
        ∃ d ∈ listDeployments first.projectID, Eligible d ∧ 1 ≤ listings store d vm) ∧
      ∀ vm, isHealthy vm = true → (selections config store counter requests).count (some vm) =
        ((listDeployments first.projectID).map (fun d =>
          if Eligible d then listings store d vm * clampedShare (weightOf d) else 0)).sum := by
  have turns := selections_window rfl unmatched below window
  have counts : ∀ vm, (selections config store counter requests).count (some vm) =
      (backendsFor config store host).count vm := by
    intro vm
    rw [turns, List.count_map_of_injective _ _ (Option.some_injective VM)]
    exact (List.rotate_perm _ _).count_eq vm
  refine ⟨⟨?_, counts⟩, ?_⟩
  · rw [turns]
    simp
  · intro first listDeployments found lists serves
    have backends := backendsFor_weighted found lists serves
    constructor
    · intro vm chosen
      have listed : vm ∈ backendsFor config store host := by
        rw [← List.count_pos_iff, ← counts]
        exact List.count_pos_iff.mpr chosen
      rw [backends] at listed
      obtain ⟨d, member, entry⟩ := List.mem_flatMap.mp listed
      exact ⟨healthy_of_deploymentBackends entry, d, member, listed_of_deploymentBackends entry⟩
    · intro vm healthy
      rw [counts, backends]
      exact count_flatMap_deploymentBackends _ _ healthy

theorem roundRobin_realises_canary :
    (selections ⟨none, Char.toLower⟩ (weightedStore canary) 41
      (List.replicate 10 ⟨"shop.example.com", "203.0.113.9:5000", none⟩)).count
        (some (exampleVM "v2" "p1" "10.0.0.2")) = 1 := by
  have unmatched : ∀ r ∈ List.replicate 10
      (⟨"shop.example.com", "203.0.113.9:5000", none⟩ : Request),
      hostName r.host = "shop.example.com" ∧ sticky (backendsFor ⟨none, Char.toLower⟩
        (weightedStore canary) "shop.example.com") r.cookie = none := by
    intro r member
    rw [(List.mem_replicate.mp member).2]
    exact ⟨by decide +kernel, rfl⟩
  have realised := roundRobin_realises ⟨none, Char.toLower⟩ (weightedStore canary)
    "shop.example.com" 41 _ (by decide +kernel) unmatched (by decide)
  have counted := (realised.2 (exampleVM "v1" "p1" "10.0.0.2") (fun _ => canary)
    (by decide +kernel) rfl (by decide)).2 (exampleVM "v2" "p1" "10.0.0.2") (by decide)
  exact counted.trans (by decide)

end Porter.Gateway
