import Porter.Gateway.Proxy

/-!
# The decision of the firewall

`blockedByFirewall` sorts the active deny rules of a project with two nested loops and returns the
first that matches the source.
-/
namespace Porter.Gateway

open Go Store

def Denies (fr : FirewallRule) (ip : String) : Prop :=
  fr.active = true ∧ fr.action = "deny" ∧ sourceMatches fr.source ip = true

instance (fr : FirewallRule) (ip : String) : Decidable (Denies fr ip) :=
  inferInstanceAs (Decidable (_ ∧ _ ∧ _))

theorem settle_least (current : FirewallRule) (rules : List FirewallRule) :
    (settle current rules).1.priority ≤ current.priority ∧
      ∀ other ∈ (settle current rules).2, (settle current rules).1.priority ≤ other.priority := by
  induction rules generalizing current with
  | nil => exact ⟨Int.le_refl _, nofun⟩
  | cons next rest recurse =>
    unfold settle
    split
    · rename_i smaller
      obtain ⟨least, later⟩ := recurse next
      have below : (settle next rest).1.priority ≤ current.priority := by omega
      refine ⟨below, ?_⟩
      intro other member
      rcases List.mem_cons.mp member with rfl | behind
      · exact below
      · exact later other behind
    · rename_i larger
      obtain ⟨least, later⟩ := recurse current
      refine ⟨least, ?_⟩
      intro other member
      rcases List.mem_cons.mp member with rfl | behind
      · show (settle current rest).1.priority ≤ other.priority
        omega
      · exact later other behind

theorem length_settle (current : FirewallRule) (rules : List FirewallRule) :
    (settle current rules).2.length = rules.length :=
  Nat.succ.inj (settle_perm current rules).length_eq

theorem exchangeSort_sorted (rounds : Nat) (rules : List FirewallRule)
    (enough : rules.length ≤ rounds) :
    (exchangeSort rounds rules).Pairwise (fun first later => first.priority ≤ later.priority) := by
  induction rounds generalizing rules with
  | zero =>
    have none : rules = [] := List.eq_nil_of_length_eq_zero (Nat.le_zero.mp enough)
    rw [none]
    exact List.Pairwise.nil
  | succ rounds recurse =>
    cases rules with
    | nil => exact List.Pairwise.nil
    | cons current rest =>
      have shorter : (settle current rest).2.length ≤ rounds := by
        rw [length_settle]
        exact Nat.le_of_succ_le_succ enough
      refine List.pairwise_cons.mpr ⟨?_, recurse _ shorter⟩
      intro other member
      -- The later rounds only permute what the first one has left behind the least rule.
      have behind : other ∈ (settle current rest).2 :=
        (exchangeSort_perm rounds _).mem_iff.mp member
      exact (settle_least current rest).2 other behind

variable {fr : FirewallRule}

theorem find_least {rules : List FirewallRule} {matches? : FirewallRule → Bool}
    (sorted : rules.Pairwise (fun first later => first.priority ≤ later.priority))
    (found : rules.find? matches? = some fr) :
    ∀ other ∈ rules, matches? other = true → fr.priority ≤ other.priority := by
  intro other member matched
  obtain ⟨-, before, after, rfl, earlier⟩ := List.find?_eq_some_iff_append.mp found
  rcases List.mem_append.mp member with passed | rest
  · have missed := earlier other passed
    rw [matched] at missed
    cases missed
  · rcases List.mem_cons.mp rest with rfl | behind
    · exact Int.le_refl _
    · have ordered := (List.pairwise_append.mp sorted).2.1
      exact (List.pairwise_cons.mp ordered).1 other behind

theorem mem_sorted {store : GatewayStore} {projectID : String} :
    fr ∈ exchangeSort (denyRules (store.listFirewallRules projectID)).length
        (denyRules (store.listFirewallRules projectID)) ↔
      some fr ∈ store.listFirewallRules projectID ∧ fr.active = true ∧ fr.action = "deny" := by
  rw [(exchangeSort_perm _ _).mem_iff, mem_denyRules]

theorem blockedByFirewall_eq_some {store : GatewayStore} {projectID remoteAddr : String}
    (blocked : blockedByFirewall store projectID remoteAddr = some fr) :
    some fr ∈ store.listFirewallRules projectID ∧ Denies fr (sourceIP remoteAddr) ∧
      ∀ other, some other ∈ store.listFirewallRules projectID →
        Denies other (sourceIP remoteAddr) → fr.priority ≤ other.priority := by
  unfold blockedByFirewall at blocked
  split at blocked
  · cases blocked
  · have found : (exchangeSort (denyRules (store.listFirewallRules projectID)).length
        (denyRules (store.listFirewallRules projectID))).find?
        (fun fr => sourceMatches fr.source (sourceIP remoteAddr)) = some fr := blocked
    have matched := List.find?_some found
    obtain ⟨listed, active, denies⟩ := mem_sorted.mp (List.mem_of_find?_eq_some found)
    refine ⟨listed, ⟨active, denies, matched⟩, ?_⟩
    intro other member ⟨otherActive, otherDenies, otherMatched⟩
    exact find_least (exchangeSort_sorted _ _ (Nat.le_refl _)) found other
      (mem_sorted.mpr ⟨member, otherActive, otherDenies⟩) otherMatched

theorem blockedByFirewall_isSome (store : GatewayStore) (projectID remoteAddr : String)
    (project : projectID ≠ "") :
    (blockedByFirewall store projectID remoteAddr).isSome = true ↔
      ∃ fr, some fr ∈ store.listFirewallRules projectID ∧ Denies fr (sourceIP remoteAddr) := by
  constructor
  · intro blocked
    obtain ⟨fr, found⟩ := Option.isSome_iff_exists.mp blocked
    obtain ⟨listed, denies, -⟩ := blockedByFirewall_eq_some found
    exact ⟨fr, listed, denies⟩
  · rintro ⟨fr, listed, active, denies, matched⟩
    rw [Option.isSome_iff_ne_none]
    intro passes
    have spared :=
      (blockedByFirewall_eq_none store projectID remoteAddr project).mp passes fr listed
      active denies
    rw [matched] at spared
    cases spared

/-- No rule is returned exactly if no active deny rule matches the source, and a rule that is
returned is a matching one of the least priority. -/
theorem firewall_decision (store : GatewayStore) (projectID remoteAddr : String)
    (project : projectID ≠ "") :
    (blockedByFirewall store projectID remoteAddr = none ↔
      ∀ fr, some fr ∈ store.listFirewallRules projectID → ¬ Denies fr (sourceIP remoteAddr)) ∧
    ∀ fr, blockedByFirewall store projectID remoteAddr = some fr →
      some fr ∈ store.listFirewallRules projectID ∧ Denies fr (sourceIP remoteAddr) ∧
        ∀ other, some other ∈ store.listFirewallRules projectID →
          Denies other (sourceIP remoteAddr) → fr.priority ≤ other.priority := by
  constructor
  · have blocked := blockedByFirewall_isSome store projectID remoteAddr project
    rw [Option.isSome_iff_ne_none] at blocked
    rw [← not_iff_not]
    push Not
    exact blocked
  · exact fun fr => blockedByFirewall_eq_some

def exampleRule (id source : String) (priority : Int) : FirewallRule where
  id := id
  projectID := "p1"
  direction := "ingress"
  action := "deny"
  proto := ""
  ports := ""
  source := source
  priority := priority
  active := true

def ruleStore (rules : List (Option FirewallRule)) : GatewayStore where
  getVM := fun _ => none
  listVMs := []
  listDomains := fun _ => []
  listFirewallRules := fun _ => rules
  listDeployments := none

def exampleRules : List (Option FirewallRule) :=
  [some (exampleRule "f1" "10.0.0.0/8" 30), none, some (exampleRule "f2" "10.8.0.0/16" 20),
    some (exampleRule "f3" "192.168.0.0/16" 10)]

theorem firewall_decision_networks :
    blockedByFirewall (ruleStore exampleRules) "p1" "10.8.0.1:5000" =
        some (exampleRule "f2" "10.8.0.0/16" 20) ∧
      ∀ other, some other ∈ exampleRules → Denies other (sourceIP "10.8.0.1:5000") →
        20 ≤ other.priority := by
  have blocked : blockedByFirewall (ruleStore exampleRules) "p1" "10.8.0.1:5000" =
      some (exampleRule "f2" "10.8.0.0/16" 20) := by decide +kernel
  have decided := firewall_decision (ruleStore exampleRules) "p1" "10.8.0.1:5000" (by decide)
  exact ⟨blocked, (decided.2 _ blocked).2.2⟩

end Porter.Gateway
