import Porter.Runtime.Launch

/-!
# The addresses of the runtime

`NetworkManager` of `internal/runtime/network.go` derives the addresses of a replica from a hash of
its project and its index.
-/
namespace Porter.Runtime

open Go Netmgr

def fnv32a (bytes : List UInt8) : UInt32 :=
  bytes.foldl (fun hash byte => (hash ^^^ byte.toUInt32) * 16777619) 2166136261

structure BridgedSpec extends ReplicaNetworkSpec where
  bridge : String

structure NetworkManager where
  bridge : String
  base : String

def newNetworkManager (bridge base : String) : NetworkManager :=
  ⟨if bridge = "" then "porter-br0" else bridge, if base = "" then "10.42" else base⟩

def replicaHash (projectID : String) (replicaIndex : Int) : UInt32 :=
  fnv32a (projectID ++ ":" ++ toString replicaIndex).toUTF8.data.toList

def thirdOf (projectID : String) (replicaIndex : Int) : Nat :=
  (replicaHash projectID replicaIndex).toNat % 253

def NetworkManager.allocateVMNetwork (m : NetworkManager) (projectID : String) (replicaIndex : Int)
    (vmID : String) : Except String BridgedSpec :=
  if replicaIndex < 0 ∨ replicaIndex > 245 then
    .error ("runtime: replica index " ++ toString replicaIndex ++ " out of range (0..245)")
  else
    let third := m.base ++ "." ++ toString (thirdOf projectID replicaIndex)
    .ok {
      subnet := third ++ ".0.0/24"
      ipAddress := third ++ "." ++ toString (10 + replicaIndex.toNat)
      gateway := third ++ "." ++ toString 1
      mac := deterministicMAC vmID
      bridge := m.bridge
      tapName := "tap" ++
        String.ofList (Nat.toDigits 16 (replicaHash projectID replicaIndex).toNat) }

/-- Address and gateway are in the network; the address is not its first, last or gateway. -/
def UsableIn (network : IPNet) (spec : BridgedSpec) : Prop :=
  ∃ address gateway, parseAddr spec.ipAddress.toList = some address ∧
    parseAddr spec.gateway.toList = some gateway ∧ network.contains address = true ∧
    network.contains gateway = true ∧ address ≠ network.ip ∧ address ≠ network.broadcast ∧
    address ≠ gateway

def network24 (n : Nat) : IPNet := ⟨quad 10 42 n 0, [255, 255, 255, 0]⟩

theorem parseCIDR_five (n : Nat) : parseCIDR ("10.42." ++ toString n ++ ".0.0/24") = none := by
  have absent : ∀ sign : Char, sign.isDigit = false → sign ∉ digits n :=
    fun sign letter member => ne_of_mem_digits member sign letter rfl
  have text : ("10.42." ++ toString n ++ ".0.0/24").toList =
      ['.'].intercalate [['1', '0'], ['4', '2'], digits n, ['0'], ['0']] ++ "/24".toList := by
    simp [digits, List.intercalate, List.intersperse]
  have before : ("10.42." ++ toString n ++ ".0.0/24").toList.takeWhile (· ≠ '/') =
      ['.'].intercalate [['1', '0'], ['4', '2'], digits n, ['0'], ['0']] := by
    rw [text, List.takeWhile_append_of_pos]
    · simp
    · intro sign member
      refine decide_eq_true (fun same => ?_)
      subst same
      simp [List.intercalate, absent] at member
  have fields : (['.'].intercalate [['1', '0'], ['4', '2'], digits n, ['0'], ['0']]).splitOn '.' =
      [['1', '0'], ['4', '2'], digits n, ['0'], ['0']] :=
    List.splitOn_intercalate '.' (by simp [absent]) (List.cons_ne_nil _ _)
  have refused : parseIPv4 (['.'].intercalate [['1', '0'], ['4', '2'], digits n, ['0'], ['0']]) =
      none := by
    unfold parseIPv4
    rw [fields]
  have separator : (['.'].intercalate [['1', '0'], ['4', '2'], digits n, ['0'], ['0']]).find?
      (fun c => c = '.' || c = ':') = some '.' := by
    simp [List.intercalate]
  unfold parseCIDR parseAddr
  simp only [before, separator, refused, ite_self]
  simp

theorem usableIn_network24 {n host : Nat} {spec : BridgedSpec} (small : n ≤ 255)
    (range : 10 ≤ host ∧ host ≤ 255) (address : spec.ipAddress = dotted 10 42 n host)
    (gateway : spec.gateway = dotted 10 42 n 1) : UsableIn (network24 n) spec ↔ host ≠ 255 := by
  have inside : ∀ d, (network24 n).contains (quad 10 42 n d) = true := by
    intro d
    simp [network24, contains_of_length, quad, masked]
  have full : ~~~(255 : UInt8) = 0 := by decide
  have last : (network24 n).broadcast = quad 10 42 n 255 := by
    simp only [network24, IPNet.broadcast, quad, List.zipWith_cons_cons, List.zipWith_nil_left,
      full, UInt8.or_zero]
    rfl
  have apart : ∀ d ≤ 255, quad 10 42 n host = quad 10 42 n d → host = d :=
    fun d limit same => (quad_inj (by omega) (by omega) same).2.2.2
  unfold UsableIn
  rw [address, gateway, parseAddr_dotted (by decide) (by decide) small range.2,
    parseAddr_dotted (by decide) (by decide) small (by decide), last]
  constructor
  · rintro ⟨_, _, ⟨⟩, -, -, -, -, below, -⟩ same
    exact below (by rw [same])
  · intro below
    refine ⟨_, _, rfl, rfl, inside host, inside 1, fun same => ?_, fun same => ?_, fun same => ?_⟩
    · have zero := apart 0 (by decide) same
      omega
    · exact below (apart 255 (by decide) same)
    · have one := apart 1 (by decide) same
      omega

variable {bridge projectID vmID : String} {i : Int} {spec : BridgedSpec}

theorem allocateVMNetwork_ok
    (given : (newNetworkManager bridge "").allocateVMNetwork projectID i vmID = .ok spec) :
    (0 ≤ i ∧ i ≤ 245) ∧ thirdOf projectID i ≤ 255 ∧
      spec.subnet = "10.42." ++ toString (thirdOf projectID i) ++ ".0.0/24" ∧
      spec.ipAddress = dotted 10 42 (thirdOf projectID i) (10 + i.toNat) ∧
      spec.gateway = dotted 10 42 (thirdOf projectID i) 1 := by
  have below : thirdOf projectID i < 253 := Nat.mod_lt _ (by decide)
  have start : toString 10 ++ "." ++ toString 42 = "10.42" := by decide
  unfold NetworkManager.allocateVMNetwork at given
  split at given
  · cases given
  · rename_i range
    obtain rfl := Except.ok.inj given
    unfold dotted
    rw [start]
    exact ⟨by omega, by omega, rfl, rfl, rfl⟩

/-- No subnet that is returned is a network. -/
theorem subnet_unreadable (bridge projectID vmID otherID : String) (i j : Int)
    (spec other : BridgedSpec)
    (first : (newNetworkManager bridge "").allocateVMNetwork projectID i vmID = .ok spec)
    (second : (newNetworkManager bridge "").allocateVMNetwork projectID j otherID = .ok other) :
    parseCIDR spec.subnet = none ∧
      (UsableIn (network24 (thirdOf projectID i)) spec ↔ i ≠ 245) ∧
      (spec.subnet = other.subnet ↔ thirdOf projectID i = thirdOf projectID j) := by
  obtain ⟨range, small, subnet, address, gateway⟩ := allocateVMNetwork_ok first
  obtain ⟨-, small', subnet', -, -⟩ := allocateVMNetwork_ok second
  rw [subnet, subnet']
  refine ⟨parseCIDR_five _, ?_, fun same => ?_, fun same => by rw [same]⟩
  · rw [usableIn_network24 small (by omega) address gateway]
    omega
  · have texts : toString (thirdOf projectID i) = toString (thirdOf projectID j) := by
      simpa using same
    have numbers := congrArg (fun text : String => decimal text.toList) texts
    exact ((decimal_digits small).2.symm.trans numbers).trans (decimal_digits small').2

theorem subnet_unreadable_pair :
    ∃ spec other, (newNetworkManager "" "").allocateVMNetwork "p" 0 "vm-1" = .ok spec ∧
      (newNetworkManager "" "").allocateVMNetwork "p" 245 "vm-2" = .ok other ∧
      parseCIDR spec.subnet = none ∧
      (UsableIn (network24 (thirdOf "p" 0)) spec ↔ (0 : Int) ≠ 245) ∧
      (spec.subnet = other.subnet ↔ thirdOf "p" 0 = thirdOf "p" 245) :=
  ⟨_, _, rfl, rfl, subnet_unreadable "" "p" "vm-1" "vm-2" 0 245 _ _ rfl rfl⟩

theorem subnets_apart :
    ((newNetworkManager "" "").allocateVMNetwork "p" 0 "vm-1").map
        (fun spec => (spec.subnet, spec.ipAddress)) = .ok ("10.42.198.0.0/24", "10.42.198.10") ∧
      ((newNetworkManager "" "").allocateVMNetwork "p" 245 "vm-2").map
        (fun spec => (spec.subnet, spec.ipAddress)) = .ok ("10.42.89.0.0/24", "10.42.89.255") ∧
      (parseCIDR "10.42.198.0.0/24").isNone = true := by
  decide +kernel

end Porter.Runtime
