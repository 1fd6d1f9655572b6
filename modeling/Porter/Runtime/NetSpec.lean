import Porter.Go.Heap
import Porter.Netmgr.NetManager
import Porter.Run.Guarded

/-!
# Guest addresses

`VMManager.NetSpec`: the subnet of a project is allocated at the first request for one of its VMs,
and the index of a VM decides its address in it.
-/
namespace Porter.Runtime

open Go Netmgr Run Sql

structure NetVM where
  id : String
  projectID : String
  replicaIndex : Int

structure VMManager where
  net : NetManager
  subs : GoMap String String
  useNetwork30 : Bool

def newVMManager (useNetwork30 : Bool) : VMManager := ⟨newNetManager, GoMap.nil, useNetwork30⟩

def VMManager.subnetFor (m : VMManager) (projectID : String) : VMManager × String :=
  match m.subs.find projectID with
  | some entry => (m, entry.2)
  | none =>
    let (net, subnet) := m.net.allocateProjectSubnet
    ({ m with net := net, subs := m.subs.set (projectID, subnet) }, subnet)

def thirdFormat : List Directive := "10.42.".toList.map .literal ++ [.int, .literal '.']

def VMManager.netSpec (m : VMManager) (run : TapRun) (vm : NetVM) :
    VMManager × Except String BootSpec :=
  let (m, subnet) := m.subnetFor vm.projectID
  (m,
    if m.useNetwork30 ∧ 0 ≤ vm.replicaIndex ∧ vm.replicaIndex ≤ 63 then
      match sscanf thirdFormat subnet.toList with
      | .ok numbers => allocateVMNetwork30 (numbers.getD 0 0) vm.replicaIndex vm.id
      | .error _ => allocateVMNetwork run subnet vm.replicaIndex vm.id
    else allocateVMNetwork run subnet vm.replicaIndex vm.id)

def ipFromCIDR (cidr : String) : String := String.ofList (cidr.toList.takeWhile (· ≠ '/'))

def guestOf (spec : BootSpec) : Option IP := parseAddr (ipFromCIDR spec.cidr).toList

/-- The address is neither the first nor the last of its subnet nor the gateway. -/
def Usable (spec : BootSpec) : Prop :=
  ∃ guest network gateway, guestOf spec = some guest ∧ parseCIDR spec.cidr = some network ∧
    parseAddr spec.gatewayAddr.toList = some gateway ∧
    guest ≠ network.ip ∧ guest ≠ network.broadcast ∧ guest ≠ gateway

inductive Addressed (use30 : Bool) (n : Nat) (index : Int) (spec : BootSpec) : Prop where
  | beside (i : Nat) (same : index = i) (small : i ≤ 245) (mode : use30 = true → 63 < i)
      (cidr : spec.cidr = dotted 10 42 n (10 + i) ++ "/24")
      (gateway : spec.gatewayAddr = dotted 10 42 n 1)
  | own (i : Nat) (same : index = i) (small : i ≤ 63) (mode : use30 = true)
      (cidr : spec.cidr = dotted 10 42 n (i * 4 + 2) ++ "/30")
      (gateway : spec.gatewayAddr = dotted 10 42 n (i * 4 + 1))

variable {n : Nat} {spec : BootSpec} {index : Int} {use30 : Bool} {m : VMManager}

theorem scan_third (small : n ≤ 255) : sscanf thirdFormat (subnetText n).toList = .ok [n] := by
  have text : (subnetText n).toList = "10.42.".toList ++ (digits n ++ '.' :: "0/24".toList) := by
    simp [subnetText, digits]
  unfold thirdFormat
  rw [text, sscanf_literals, sscanf_digits small _ _ _ (by decide), sscanf, if_pos rfl, sscanf]
  rfl

theorem addressed_beside {run : TapRun} (small : n ≤ 255) {id : String}
    (mode : use30 = true → 0 ≤ index → 63 < index)
    (given : allocateVMNetwork run (subnetText n) index id = .ok spec) :
    Addressed use30 n index spec := by
  unfold allocateVMNetwork at given
  rw [sscanf_subnetText small] at given
  by_cases linux : run.goos = "linux"
  · by_cases range : index < 0 ∨ index > 245
    · simp [linux, range] at given
    · simp only [linux, ne_eq, not_true_eq_false, if_false, range] at given
      cases tap : setUpTap run (dotted 10 42 n 1) ("tap-" ++ bootShortID id) with
      | some err =>
        simp [tap] at given
      | none =>
        simp only [List.getD_cons_zero, List.getD_cons_succ, tap, Except.ok.injEq] at given
        rw [← given]
        refine .beside index.toNat (by omega) (by omega) ?_ rfl rfl
        intro on
        have above := mode on (by omega)
        omega
  · simp [linux] at given

theorem addressed_own {id : String} (given : allocateVMNetwork30 n index id = .ok spec) :
    Addressed true n index spec := by
  unfold allocateVMNetwork30 at given
  by_cases octet : n > 252
  · simp [octet] at given
  · by_cases range : index < 0 ∨ index > 63
    · simp [octet, range] at given
    · simp only [octet, if_false, range, Except.ok.injEq] at given
      rw [← given]
      exact .own index.toNat (by omega) (by omega) rfl rfl rfl

theorem netSpec_ok {run : TapRun} {vm : NetVM} (small : n ≤ 255)
    (subnet : (m.subnetFor vm.projectID).2 = subnetText n)
    (given : (m.netSpec run vm).2 = .ok spec) :
    Addressed (m.subnetFor vm.projectID).1.useNetwork30 n vm.replicaIndex spec := by
  unfold VMManager.netSpec at given
  simp only [subnet, scan_third small] at given
  by_cases own : (m.subnetFor vm.projectID).1.useNetwork30 = true ∧ 0 ≤ vm.replicaIndex ∧
      vm.replicaIndex ≤ 63
  · rw [if_pos own] at given
    rw [own.1]
    exact addressed_own given
  · rw [if_neg own] at given
    apply addressed_beside small _ given
    intro mode positive
    by_contra below
    exact own ⟨mode, positive, by omega⟩

def hostOf (use30 : Bool) (index : Int) : Nat :=
  if use30 ∧ index ≤ 63 then index.toNat * 4 + 2 else 10 + index.toNat

theorem guestOf_dotted {a b c d ones : Nat} (ha : a ≤ 255) (hb : b ≤ 255) (hc : c ≤ 255)
    (hd : d ≤ 255) (cidr : spec.cidr = dotted a b c d ++ "/" ++ toString ones) :
    guestOf spec = some (quad a b c d) := by
  unfold guestOf ipFromCIDR
  rw [cidr, takeWhile_network, String.toList_ofList]
  exact parseAddr_dotted ha hb hc hd

theorem slash_24 (address : String) : address ++ "/24" = address ++ "/" ++ toString 24 := by
  have tail : "/24" = "/" ++ toString 24 := by decide
  rw [tail, String.append_assoc]

theorem slash_30 (address : String) : address ++ "/30" = address ++ "/" ++ toString 30 := by
  have tail : "/30" = "/" ++ toString 30 := by decide
  rw [tail, String.append_assoc]

theorem Addressed.guest (addressed : Addressed use30 n index spec) (small : n ≤ 255) :
    hostOf use30 index ≤ 255 ∧ guestOf spec = some (quad 10 42 n (hostOf use30 index)) := by
  cases addressed with
  | beside i same limit mode cidr gateway =>
    have host : hostOf use30 index = 10 + i := by
      unfold hostOf
      rw [same, if_neg (fun ⟨on, below⟩ => by have above := mode on; omega)]
      rfl
    rw [slash_24] at cidr
    rw [host]
    exact ⟨by omega, guestOf_dotted (by decide) (by decide) small (by omega) cidr⟩
  | own i same limit mode cidr gateway =>
    have host : hostOf use30 index = i * 4 + 2 := by
      unfold hostOf
      rw [same, if_pos ⟨mode, by omega⟩]
      rfl
    rw [slash_30] at cidr
    rw [host]
    exact ⟨by omega, guestOf_dotted (by decide) (by decide) small (by omega) cidr⟩

theorem mask_30 {i : Nat} (small : i ≤ 63) :
    UInt8.ofNat (i * 4 + 2) &&& 252 = UInt8.ofNat (i * 4) ∧
      (UInt8.ofNat (i * 4) ||| ~~~252) = UInt8.ofNat (i * 4 + 3) := by
  have each : ∀ i : Fin 64, UInt8.ofNat (i.val * 4 + 2) &&& 252 = UInt8.ofNat (i.val * 4) ∧
      (UInt8.ofNat (i.val * 4) ||| ~~~252) = UInt8.ofNat (i.val * 4 + 3) := by decide +kernel
  exact each ⟨i, Nat.lt_succ_of_le small⟩

theorem quad_apart {host other : Nat} (small : n ≤ 255) (hHost : host ≤ 255)
    (hOther : other ≤ 255) (apart : host ≠ other) : quad 10 42 n host ≠ quad 10 42 n other := by
  intro same
  exact apart (quad_inj (by omega) (by omega) same).2.2.2

theorem usable_dotted {host gate first last ones : Nat} {mask : UInt8} (small : n ≤ 255)
    (cidr : spec.cidr = dotted 10 42 n host ++ "/" ++ toString ones)
    (gateway : spec.gatewayAddr = dotted 10 42 n gate) (short : ones ≤ 32)
    (bytes : cidrMask ones 4 = [255, 255, 255, mask])
    (low : UInt8.ofNat host &&& mask = UInt8.ofNat first)
    (high : (UInt8.ofNat first ||| ~~~mask) = UInt8.ofNat last)
    (limits : host ≤ 255 ∧ gate ≤ 255 ∧ first ≤ 255 ∧ last ≤ 255)
    (apart : host ≠ first ∧ host ≠ last ∧ host ≠ gate) : Usable spec := by
  obtain ⟨limit, within, below, above⟩ := limits
  have read := parseCIDR_dotted (by decide : 10 ≤ 255) (by decide : 42 ≤ 255) small limit short
  have guest := guestOf_dotted (by decide) (by decide) small limit cidr
  have gate := parseAddr_dotted (by decide : 10 ≤ 255) (by decide : 42 ≤ 255) small within
  refine ⟨_, _, _, guest, by rw [cidr, read], by rw [gateway, gate], ?_, ?_,
    quad_apart small limit within apart.2.2⟩
  · have zero : masked (quad 10 42 n host) (cidrMask ones 4) = quad 10 42 n first := by
      simp [bytes, masked, quad, byte_and_255, low]
    rw [zero]
    exact quad_apart small limit below apart.1
  · have full : ~~~(255 : UInt8) = 0 := by decide
    have top : IPNet.broadcast ⟨masked (quad 10 42 n host) (cidrMask ones 4), cidrMask ones 4⟩ =
        quad 10 42 n last := by
      simp [IPNet.broadcast, bytes, masked, quad, byte_and_255, full, low, high]
    rw [top]
    exact quad_apart small limit above apart.2.1

theorem Addressed.usable (addressed : Addressed use30 n index spec) (small : n ≤ 255)
    (inside : index ≠ 245) : Usable spec := by
  cases addressed with
  | beside i same limit mode cidr gateway =>
    rw [slash_24] at cidr
    have low : UInt8.ofNat (10 + i) &&& 0 = UInt8.ofNat 0 := by simp
    exact usable_dotted small cidr gateway (by decide) (by decide) low
      (by decide : _ = UInt8.ofNat 255) (by omega) (by omega)
  | own i same limit mode cidr gateway =>
    rw [slash_30] at cidr
    exact usable_dotted small cidr gateway (by decide) (by decide) (mask_30 limit).1
      (mask_30 limit).2 (by omega) (by omega)

def Numbered (m : VMManager) : Prop := ∀ entry ∈ m.subs.rows, ∃ n ≤ 255, entry.2 = subnetText n

@[simp] theorem useNetwork30_subnetFor (m : VMManager) (projectID : String) :
    (m.subnetFor projectID).1.useNetwork30 = m.useNetwork30 := by
  unfold VMManager.subnetFor
  cases m.subs.find projectID with
  | none | some => rfl

theorem mem_subnetFor (m : VMManager) (projectID : String) :
    (projectID, (m.subnetFor projectID).2) ∈ (m.subnetFor projectID).1.subs.rows ∧
      ∀ entry ∈ m.subs.rows, entry ∈ (m.subnetFor projectID).1.subs.rows := by
  unfold VMManager.subnetFor
  cases found : m.subs.find projectID with
  | some entry =>
    have ⟨stored, key⟩ := (Table.find_eq_some _ _ _).mp found
    rw [← key]
    exact ⟨stored, fun entry member => member⟩
  | none =>
    have absent := (Table.find_eq_none _ _).mp found
    constructor
    · exact (GoMap.mem_set _ _ _).mpr (Or.inl rfl)
    · intro entry member
      exact (GoMap.mem_set _ _ _).mpr (Or.inr ⟨member, absent entry member⟩)

theorem Numbered.subnetFor (numbered : Numbered m) (projectID : String) :
    Numbered (m.subnetFor projectID).1 ∧ ∃ n ≤ 255, (m.subnetFor projectID).2 = subnetText n := by
  unfold VMManager.subnetFor
  cases found : m.subs.find projectID with
  | some entry => exact ⟨numbered, numbered entry ((Table.find_eq_some _ _ _).mp found).1⟩
  | none =>
    have given := allocateProjectSubnet_subnet m.net
    refine ⟨?_, given⟩
    intro entry member
    rcases (GoMap.mem_set _ _ _).mp member with new | ⟨old, _⟩
    · rw [new]
      exact given
    · exact numbered entry old

structure Dealt (m : VMManager) : Prop where
  limit : m.net.nextSubnet ≤ 256
  below : ∀ entry ∈ m.subs.rows, ∃ n < m.net.nextSubnet, entry.2 = subnetText n
  apart : ∀ first ∈ m.subs.rows, ∀ second ∈ m.subs.rows, first.2 = second.2 → first.1 = second.1

theorem Dealt.numbered (dealt : Dealt m) : Numbered m := by
  intro entry member
  have ⟨n, below, same⟩ := dealt.below entry member
  have limit := dealt.limit
  exact ⟨n, by omega, same⟩

theorem Dealt.subnetFor (dealt : Dealt m) (projectID : String)
    (available : m.subs.has projectID = true ∨ m.net.nextSubnet ≤ 255) :
    Dealt (m.subnetFor projectID).1 := by
  unfold VMManager.subnetFor
  cases found : m.subs.find projectID with
  | some entry => exact dealt
  | none =>
    have left : m.net.nextSubnet ≤ 255 := by
      cases available with
      | inl present =>
        unfold GoMap.has at present
        rw [found] at present
        cases present
      | inr left => exact left
    simp only [allocateProjectSubnet_left left]
    -- No project has the text of the next number.
    have unused : ∀ entry ∈ m.subs.rows, entry.2 ≠ subnetText m.net.nextSubnet := by
      intro entry member same
      have ⟨n, below, text⟩ := dealt.below entry member
      have equal := subnetText_inj (by omega) left (text.symm.trans same)
      omega
    constructor
    · exact Nat.succ_le_succ left
    · intro entry member
      rcases (GoMap.mem_set _ _ _).mp member with new | ⟨old, _⟩
      · rw [new]
        exact ⟨_, Nat.lt_succ_self _, rfl⟩
      · have ⟨n, below, text⟩ := dealt.below entry old
        exact ⟨n, Nat.lt_succ_of_lt below, text⟩
    · intro first member second other same
      rcases (GoMap.mem_set _ _ _).mp member with new | ⟨old, _⟩
      · rcases (GoMap.mem_set _ _ _).mp other with new' | ⟨old', _⟩
        · rw [new, new']
        · rw [new] at same
          exact absurd same.symm (unused second old')
      · rcases (GoMap.mem_set _ _ _).mp other with new' | ⟨old', _⟩
        · rw [new'] at same
          exact absurd same (unused first old)
        · exact dealt.apart first old second old' same

structure Allocations where
  manager : VMManager
  given : List (NetVM × BootSpec)

def Allocations.step (s : Allocations) (call : NetVM × TapRun) : Allocations :=
  match s.manager.netSpec call.2 call.1 with
  | (m, .error _) => { s with manager := m }
  | (m, .ok spec) => ⟨m, s.given ++ [(call.1, spec)]⟩

def Allocations.start (useNetwork30 : Bool) : Allocations := ⟨newVMManager useNetwork30, []⟩

structure Separate (given : List (NetVM × BootSpec)) : Prop where
  distinct : ∀ a ∈ given, ∀ b ∈ given,
    (a.1.projectID, a.1.replicaIndex) ≠ (b.1.projectID, b.1.replicaIndex) →
      guestOf a.2 ≠ guestOf b.2
  usable : ∀ a ∈ given, Usable a.2

/-- The address is not the last of the subnet, nor in the network of a small index. -/
def Spaced (use30 : Bool) (index : Int) : Prop :=
  index ≠ 245 ∧ (use30 = true → 64 ≤ index → index ≤ 245 → index % 4 ≠ 0)

instance (use30 : Bool) (index : Int) : Decidable (Spaced use30 index) :=
  inferInstanceAs (Decidable (_ ∧ _))

def Available (s : Allocations) (call : NetVM × TapRun) : Prop :=
  (s.manager.subs.has call.1.projectID = true ∨ s.manager.net.nextSubnet ≤ 255) ∧
    Spaced s.manager.useNetwork30 call.1.replicaIndex

instance (s : Allocations) (call : NetVM × TapRun) : Decidable (Available s call) :=
  inferInstanceAs (Decidable (_ ∧ _))

structure Known (useNetwork30 : Bool) (s : Allocations) : Prop where
  mode : s.manager.useNetwork30 = useNetwork30
  dealt : Dealt s.manager
  given : ∀ a ∈ s.given, ∃ n ≤ 255, (a.1.projectID, subnetText n) ∈ s.manager.subs.rows ∧
    Addressed useNetwork30 n a.1.replicaIndex a.2 ∧ Spaced useNetwork30 a.1.replicaIndex

theorem step_cases (s : Allocations) (call : NetVM × TapRun) :
    (s.step call).manager = (s.manager.subnetFor call.1.projectID).1 ∧
      ((s.step call).given = s.given ∨
        ∃ spec, (s.manager.netSpec call.2 call.1).2 = .ok spec ∧
          (s.step call).given = s.given ++ [(call.1, spec)]) := by
  have manager : (s.manager.netSpec call.2 call.1).1 =
      (s.manager.subnetFor call.1.projectID).1 := rfl
  unfold Allocations.step
  cases result : (s.manager.netSpec call.2 call.1).2 with
  | error err =>
    have pair : s.manager.netSpec call.2 call.1 =
        ((s.manager.subnetFor call.1.projectID).1, .error err) := Prod.ext manager result
    rw [pair]
    exact ⟨rfl, Or.inl rfl⟩
  | ok spec =>
    have pair : s.manager.netSpec call.2 call.1 =
        ((s.manager.subnetFor call.1.projectID).1, .ok spec) := Prod.ext manager result
    rw [pair]
    exact ⟨rfl, Or.inr ⟨spec, rfl, rfl⟩⟩

variable {useNetwork30 : Bool}

theorem known_step (s : Allocations) (call : NetVM × TapRun)
    (known : Known useNetwork30 s) (available : Available s call) :
    Known useNetwork30 (s.step call) := by
  have ⟨recorded, stays⟩ := mem_subnetFor s.manager call.1.projectID
  have ⟨n, small, subnet⟩ := (known.dealt.numbered.subnetFor call.1.projectID).2
  have ⟨manager, result⟩ := step_cases s call
  constructor
  · rw [manager, useNetwork30_subnetFor]
    exact known.mode
  · rw [manager]
    exact known.dealt.subnetFor call.1.projectID available.1
  · have old : ∀ a ∈ s.given, ∃ n ≤ 255,
        (a.1.projectID, subnetText n) ∈ (s.step call).manager.subs.rows ∧
        Addressed useNetwork30 n a.1.replicaIndex a.2 ∧
        Spaced useNetwork30 a.1.replicaIndex := by
      intro a member
      have ⟨n, small, stored, rest⟩ := known.given a member
      exact ⟨n, small, by rw [manager]; exact stays _ stored, rest⟩
    cases result with
    | inl same =>
      rw [same]
      exact old
    | inr success =>
      have ⟨spec, ok, grown⟩ := success
      rw [grown]
      intro a member
      rcases List.mem_append.mp member with before | new
      · exact old a before
      · rw [List.mem_singleton.mp new]
        have addressed := netSpec_ok small subnet ok
        rw [useNetwork30_subnetFor, known.mode] at addressed
        refine ⟨n, small, ?_, addressed, known.mode ▸ available.2⟩
        rw [manager, ← subnet]
        exact recorded

theorem hostOf_inj {i j : Int} (hi : 0 ≤ i ∧ i ≤ 245) (hj : 0 ≤ j ∧ j ≤ 245)
    (left : Spaced useNetwork30 i) (right : Spaced useNetwork30 j)
    (same : hostOf useNetwork30 i = hostOf useNetwork30 j) : i = j := by
  unfold hostOf at same
  cases useNetwork30 with
  | false =>
    simp only [Bool.false_eq_true, false_and, if_false] at same
    omega
  | true =>
    have leftOn := left.2 rfl
    have rightOn := right.2 rfl
    simp only [true_and] at same
    split at same <;> split at same <;> omega

theorem Addressed.range (addressed : Addressed use30 n index spec) : 0 ≤ index ∧ index ≤ 245 := by
  cases addressed with
  | beside | own => omega

theorem Known.separate {s : Allocations} (known : Known useNetwork30 s) :
    Separate s.given := by
  constructor
  · intro a first b second different meet
    have ⟨m, smallM, storedM, addressedM, spacedM⟩ := known.given a first
    have ⟨n, smallN, storedN, addressedN, spacedN⟩ := known.given b second
    have ⟨limitM, guestM⟩ := addressedM.guest smallM
    have ⟨limitN, guestN⟩ := addressedN.guest smallN
    rw [guestM, guestN] at meet
    have ⟨_, _, third, last⟩ := quad_inj (by omega) (by omega) (Option.some.inj meet)
    have index := hostOf_inj addressedM.range addressedN.range spacedM spacedN last
    have project : a.1.projectID = b.1.projectID :=
      known.dealt.apart _ storedM _ storedN (congrArg subnetText third)
    exact different (Prod.ext project index)
  · intro a member
    have ⟨n, small, _, addressed, spaced⟩ := known.given a member
    exact addressed.usable small spaced.1

/-- VMs of different projects or indices get different, usable addresses from calls that meet the
condition. -/
theorem separate_of_available (useNetwork30 : Bool) (calls : List (NetVM × TapRun))
    (guarded : Guarded Allocations.step Available (Allocations.start useNetwork30) calls) :
    Separate (run Allocations.step (Allocations.start useNetwork30) calls).given := by
  have start : Known useNetwork30 (Allocations.start useNetwork30) := by
    refine ⟨rfl, ⟨Nat.zero_le _, ?_, ?_⟩, ?_⟩
    · intro entry member
      cases member
    · intro first member
      cases member
    · intro a member
      cases member
  exact (run_invariant _ _ _ known_step _ calls start guarded).separate

def callsFor (indices : List Int) : List (NetVM × TapRun) :=
  indices.map (fun index => (⟨"vm-" ++ toString index, "p", index⟩, TapRun.linux))

theorem separate_of_available_three :
    Guarded Allocations.step Available (Allocations.start true) (callsFor [0, 18, 65]) ∧
      Separate (run Allocations.step (Allocations.start true) (callsFor [0, 18, 65])).given ∧
      (run Allocations.step (Allocations.start true) (callsFor [0, 18, 65])).given.map
          (fun a => guestOf a.2) =
        [some [10, 42, 0, 2], some [10, 42, 0, 74], some [10, 42, 0, 75]] := by
  have guarded : Guarded Allocations.step Available (Allocations.start true)
      (callsFor [0, 18, 65]) := by decide +kernel
  exact ⟨guarded, separate_of_available _ _ guarded, by decide +kernel⟩

theorem not_usable_of_broadcast {address : IP} (guest : guestOf spec = some address)
    (last : (parseCIDR spec.cidr).map IPNet.broadcast = some address) : ¬ Usable spec := by
  intro ⟨other, network, _, given, read, _, _, apart, _⟩
  rw [read] at last
  rw [given] at guest
  exact apart (Option.some.inj (guest.trans last.symm))

theorem not_separate_of_broadcast {given : List (NetVM × BootSpec)} {address : IP}
    (last : given.map (fun a => (guestOf a.2, (parseCIDR a.2.cidr).map IPNet.broadcast)) =
      [(some address, some address)]) : ¬ Separate given := by
  intro separate
  have ⟨a, member, same⟩ := List.mem_map.mp (last ▸ List.mem_singleton_self _)
  simp only [Prod.mk.injEq] at same
  exact not_usable_of_broadcast same.1 same.2 (separate.usable a member)

theorem not_separate_of_shared {given : List (NetVM × BootSpec)} {projectID : String}
    {first second : Int} {address : Option IP} (apart : first ≠ second)
    (shared : given.map (fun a => (a.1.projectID, a.1.replicaIndex, guestOf a.2)) =
      [(projectID, first, address), (projectID, second, address)]) : ¬ Separate given := by
  intro separate
  have ⟨a, memberA, sameA⟩ := List.mem_map.mp (shared ▸ List.mem_cons_self)
  have ⟨b, memberB, sameB⟩ := List.mem_map.mp
    (shared ▸ List.mem_cons_of_mem _ (List.mem_singleton_self _))
  simp only [Prod.mk.injEq] at sameA sameB
  have guests : guestOf a.2 = guestOf b.2 := sameA.2.2.trans sameB.2.2.symm
  apply separate.distinct a memberA b memberB _ guests
  intro equal
  have indices := congrArg Prod.snd equal
  simp only [sameA.2.1, sameB.2.1] at indices
  exact apart indices

theorem guest_addresses_collide :
    (run Allocations.step (Allocations.start false) (callsFor [245])).given.map
        (fun a => (guestOf a.2, (parseCIDR a.2.cidr).map IPNet.broadcast)) =
        [(some [10, 42, 0, 255], some [10, 42, 0, 255])] ∧
      ¬ Separate (run Allocations.step (Allocations.start false) (callsFor [245])).given ∧
      (run Allocations.step (Allocations.start true) (callsFor [18, 64])).given.map
          (fun a => (a.1.projectID, a.1.replicaIndex, guestOf a.2)) =
        [("p", 18, some [10, 42, 0, 74]), ("p", 64, some [10, 42, 0, 74])] ∧
      ¬ Separate (run Allocations.step (Allocations.start true) (callsFor [18, 64])).given := by
  have last : (run Allocations.step (Allocations.start false) (callsFor [245])).given.map
      (fun a => (guestOf a.2, (parseCIDR a.2.cidr).map IPNet.broadcast)) =
      [(some [10, 42, 0, 255], some [10, 42, 0, 255])] := by decide +kernel
  have shared : (run Allocations.step (Allocations.start true) (callsFor [18, 64])).given.map
      (fun a => (a.1.projectID, a.1.replicaIndex, guestOf a.2)) =
      [("p", 18, some [10, 42, 0, 74]), ("p", 64, some [10, 42, 0, 74])] := by decide +kernel
  exact ⟨last, not_separate_of_broadcast last, shared, not_separate_of_shared (by decide) shared⟩

end Porter.Runtime
