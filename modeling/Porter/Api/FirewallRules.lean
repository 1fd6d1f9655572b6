import Porter.Api.Resources
import Porter.Gateway.Firewall
import Porter.Gateway.RoundRobin

/-!
# The direction of a firewall rule

The API stores a rule with a direction, and the gateway decides about inbound requests by the other
fields.
-/
namespace Porter.Gateway

open Store

def Egress (fr : FirewallRule) : Prop := fr.direction = "egress"

instance (fr : FirewallRule) : Decidable (Egress fr) := inferInstanceAs (Decidable (_ = _))

def GatewayStore.withoutEgress (store : GatewayStore) : GatewayStore :=
  { store with
    listFirewallRules := fun projectID =>
      (store.listFirewallRules projectID).filter (·.all (¬ Egress ·)) }

variable {store : GatewayStore}

theorem mem_withoutEgress {projectID : String} {fr : FirewallRule} :
    some fr ∈ store.withoutEgress.listFirewallRules projectID ↔
      some fr ∈ store.listFirewallRules projectID ∧ ¬ Egress fr := by
  simp [GatewayStore.withoutEgress]

def Directed (store : GatewayStore) (projectID remoteAddr : String) : Prop :=
  projectID = "" ∨
    (∃ fr, some fr ∈ store.listFirewallRules projectID ∧ ¬ Egress fr ∧
      Denies fr (sourceIP remoteAddr)) ∨
    ∀ fr, some fr ∈ store.listFirewallRules projectID → Egress fr →
      ¬ Denies fr (sourceIP remoteAddr)

theorem blocked_withoutEgress_iff (store : GatewayStore) (projectID remoteAddr : String) :
    ((blockedByFirewall store.withoutEgress projectID remoteAddr).isSome = true ↔
      (blockedByFirewall store projectID remoteAddr).isSome = true) ↔
      Directed store projectID remoteAddr := by
  by_cases project : projectID = ""
  · simp [blockedByFirewall, Directed, project]
  · rw [blockedByFirewall_isSome store projectID remoteAddr project,
      blockedByFirewall_isSome store.withoutEgress projectID remoteAddr project]
    simp only [mem_withoutEgress, Directed, project, false_or]
    constructor
    · intro same
      by_cases denied : ∃ fr, some fr ∈ store.listFirewallRules projectID ∧ Egress fr ∧
          Denies fr (sourceIP remoteAddr)
      · obtain ⟨fr, listed, -, denies⟩ := denied
        obtain ⟨other, ⟨otherListed, inbound⟩, otherDenies⟩ := same.mpr ⟨fr, listed, denies⟩
        exact Or.inl ⟨other, otherListed, inbound, otherDenies⟩
      · refine Or.inr (fun fr listed outbound denies => ?_)
        exact denied ⟨fr, listed, outbound, denies⟩
    · rintro (⟨other, otherListed, inbound, otherDenies⟩ | spared)
      · exact ⟨fun _ => ⟨other, otherListed, otherDenies⟩,
          fun _ => ⟨other, ⟨otherListed, inbound⟩, otherDenies⟩⟩
      · constructor
        · rintro ⟨fr, ⟨listed, -⟩, denies⟩
          exact ⟨fr, listed, denies⟩
        · rintro ⟨fr, listed, denies⟩
          exact ⟨fr, ⟨listed, fun outbound => spared fr listed outbound denies⟩, denies⟩

def Blocks (config : Config) (store : GatewayStore) (counter : UInt64) (r : Request) : Prop :=
  (serveHTTP config store counter r).outcome = .refused 403 "blocked by firewall"

theorem forward_eq_blocked {remoteAddr : String} {vm : VM} :
    forward store remoteAddr vm = .refused 403 "blocked by firewall" ↔
      (blockedByFirewall store vm.projectID remoteAddr).isSome = true := by
  unfold forward
  cases blockedByFirewall store vm.projectID remoteAddr with
  | some fr => simp
  | none => cases targetAddress vm <;> simp

theorem blocks_iff {config : Config} {counter : UInt64} {r : Request} :
    Blocks config store counter r ↔ ∃ vm, selected config store counter r = some vm ∧
      (blockedByFirewall store vm.projectID r.remoteAddr).isSome = true := by
  unfold Blocks
  by_cases empty : backendsFor config store (hostName r.host) = []
  · have nobody : selected config store counter r = none := by
      unfold selected sticky
      rw [empty]
      cases r.cookie <;> simp [roundRobin]
    simp [serveHTTP, empty, nobody]
  · rw [serveHTTP_outcome empty]
    cases selected config store counter r with
    | none => simp
    | some vm => simp [forward_eq_blocked]

/-- Without the outbound rules the gateway blocks a request as with them exactly when the firewall
of the selected replica's project does. -/
theorem direction_respected_iff (config : Config) (store : GatewayStore) (counter : UInt64)
    (r : Request) :
    (Blocks config store.withoutEgress counter r ↔ Blocks config store counter r) ↔
      ∀ vm, selected config store counter r = some vm →
        Directed store vm.projectID r.remoteAddr := by
  have same : selected config store.withoutEgress counter r = selected config store counter r := rfl
  rw [blocks_iff, blocks_iff, same]
  cases selected config store counter r with
  | none => simp
  | some vm =>
    simp only [Option.some.injEq, exists_eq_left', forall_eq']
    exact blocked_withoutEgress_iff store vm.projectID r.remoteAddr

end Porter.Gateway

namespace Porter.Api

open Gateway Store

def egressRule : FirewallRule :=
  newFirewallRule "f1" "p1" ⟨"egress", "deny", "tcp", "443", "203.0.113.0/24", 10⟩

def guardedStore (rules : List (Option FirewallRule)) : GatewayStore :=
  { exampleStore with listFirewallRules := fun _ => rules }

theorem egress_rule_blocks_inbound :
    Blocks ⟨none, id⟩ (guardedStore [some egressRule]) 0
        ⟨"shop.example.com", "203.0.113.9:5000", none⟩ ∧
      ¬ Blocks ⟨none, id⟩ (guardedStore [some egressRule]).withoutEgress 0
        ⟨"shop.example.com", "203.0.113.9:5000", none⟩ := by
  unfold Blocks
  decide +kernel

end Porter.Api
