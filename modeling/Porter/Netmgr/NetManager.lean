import Porter.Go.Dotted

/-!
# Subnets and addresses of VMs

`internal/netmgr/netmgr.go`: a counter hands out the `/24` networks of `10.42.0.0/16`, and the index
of a replica gives its address, next to the others or in a `/30` of its own.
-/
namespace Porter.Netmgr

open Go

structure BootSpec where
  macAddress : String
  hostDevName : String
  cidr : String
  gatewayAddr : String

structure NetManager where
  nextSubnet : Nat

def newNetManager : NetManager := ⟨0⟩

def subnetText (n : Nat) : String := "10.42." ++ toString n ++ ".0/24"

namespace NetManager

def allocateSubnet (n : NetManager) : NetManager × Except String IPNet :=
  if n.nextSubnet > 255 then (n, .error "netmgr: exhausted 10.42.0.0/16 (255 subnets)")
  else
    let sub := subnetText n.nextSubnet
    match parseCIDR sub with
    | none =>
      (⟨n.nextSubnet + 1⟩, .error ("netmgr: parse " ++ sub ++ ": invalid CIDR address: " ++ sub))
    | some ipnet => (⟨n.nextSubnet + 1⟩, .ok ipnet)

def allocateProjectSubnet (n : NetManager) : NetManager × String :=
  match n.allocateSubnet with
  | (n, .error _) => (n, "10.42.0.0/24")
  | (n, .ok ipnet) => (n, ipnet.text)

end NetManager

def fnv64a (bytes : List UInt8) : UInt64 :=
  bytes.foldl (fun hash byte => (hash ^^^ byte.toUInt64) * 1099511628211) 14695981039346656037

def hexByte (byte : UInt8) : String :=
  String.ofList [Nat.digitChar (byte.toNat / 16), Nat.digitChar (byte.toNat % 16)]

def deterministicMAC (vmID : String) : String :=
  let sum := fnv64a vmID.toUTF8.data.toList
  ":".intercalate
    ([(0x06 : UInt8), (sum >>> 40).toUInt8, (sum >>> 32).toUInt8, (sum >>> 24).toUInt8,
      (sum >>> 16).toUInt8, (sum >>> 8).toUInt8].map hexByte)

def bootShortID (vmID : String) : String := String.ofList (vmID.toList.take 8)

structure TapRun where
  goos : String
  add : Option String
  addr : Option String
  up : Option String

def TapRun.linux : TapRun := ⟨"linux", none, none, none⟩

def setUpTap (run : TapRun) (gw tapName : String) : Option String :=
  match run.add with
  | some err => some ("netmgr: create TAP " ++ tapName ++ ": " ++ err)
  | none =>
    match run.addr with
    | some err => some ("netmgr: assign gateway " ++ gw ++ " to TAP " ++ tapName ++ ": " ++ err)
    | none => run.up.map (fun err => "netmgr: bring TAP " ++ tapName ++ " up: " ++ err)

def subnetFormat : List Directive :=
  [.int, .literal '.', .int, .literal '.', .int, .literal '.']

def allocateVMNetwork (run : TapRun) (subnetCIDR : String) (replicaIndex : Int) (vmID : String) :
    Except String BootSpec :=
  if run.goos ≠ "linux" then
    .error ("netmgr: TAP creation requires Linux (running on " ++ run.goos ++
      ": control plane works, host networking does not)")
  else
    match sscanf subnetFormat subnetCIDR.toList with
    | .error err => .error ("netmgr: invalid project subnet \"" ++ subnetCIDR ++ "\": " ++ err)
    | .ok numbers =>
      if replicaIndex < 0 ∨ replicaIndex > 245 then
        .error ("netmgr: replica index " ++ toString replicaIndex ++ " out of range")
      else
        let (a, b, c) := (numbers.getD 0 0, numbers.getD 1 0, numbers.getD 2 0)
        let ip := dotted a b c (10 + replicaIndex.toNat)
        let gw := dotted a b c 1
        let tapName := "tap-" ++ bootShortID vmID
        match setUpTap run gw tapName with
        | some err => .error err
        | none => .ok ⟨deterministicMAC vmID, tapName, ip ++ "/24", gw⟩

def allocateVMNetwork30 (baseThirdOctet : Nat) (replicaIndex : Int) (vmID : String) :
    Except String BootSpec :=
  if baseThirdOctet > 252 then
    .error ("netmgr: base third octet " ++ toString baseThirdOctet ++ " out of range")
  else if replicaIndex < 0 ∨ replicaIndex > 63 then
    .error ("netmgr: /30 replica index " ++ toString replicaIndex ++
      " out of range (0..63 per /24)")
  else
    let base4 := replicaIndex.toNat * 4
    .ok ⟨deterministicMAC vmID, "tap-" ++ bootShortID vmID,
      dotted 10 42 baseThirdOctet (base4 + 2) ++ "/30",
      dotted 10 42 baseThirdOctet (base4 + 1)⟩

theorem byte_and_255 (byte : UInt8) : byte &&& 255 = byte := by
  have each : ∀ n : Fin 256, UInt8.ofNat n.val &&& 255 = UInt8.ofNat n.val := by decide +kernel
  have here := each ⟨byte.toNat, byte.toNat_lt⟩
  simpa using here

theorem subnetText_eq (n : Nat) : subnetText n = dotted 10 42 n 0 ++ "/" ++ toString 24 := by
  have before : "10.42." = toString 10 ++ "." ++ toString 42 ++ "." := by decide
  have after : ".0/24" = "." ++ toString 0 ++ "/" ++ toString 24 := by decide
  unfold subnetText dotted
  rw [before, after]
  simp only [String.append_assoc]

theorem parseCIDR_subnetText {n : Nat} (small : n ≤ 255) :
    parseCIDR (subnetText n) = some ⟨quad 10 42 n 0, [255, 255, 255, 0]⟩ := by
  rw [subnetText_eq, parseCIDR_dotted (by decide) (by decide) small (by decide) (by decide)]
  have mask : cidrMask 24 4 = [255, 255, 255, 0] := by decide
  rw [mask]
  simp [masked, quad, byte_and_255]

theorem text_subnet {n : Nat} (small : n ≤ 255) :
    IPNet.text ⟨quad 10 42 n 0, [255, 255, 255, 0]⟩ = subnetText n := by
  have value : (UInt8.ofNat n).toNat = n := by
    rw [UInt8.toNat_ofNat']
    omega
  have ones : maskLength [255, 255, 255, 0] = 24 := by decide
  rw [subnetText_eq]
  unfold IPNet.text
  simp only [quad, to4, List.length_cons, List.length_nil, if_true, value, ones]
  rfl

variable {net : NetManager}

theorem allocateSubnet_left (left : net.nextSubnet ≤ 255) :
    net.allocateSubnet =
      (⟨net.nextSubnet + 1⟩, .ok ⟨quad 10 42 net.nextSubnet 0, [255, 255, 255, 0]⟩) := by
  unfold NetManager.allocateSubnet
  simp only [if_neg (Nat.not_lt.mpr left), parseCIDR_subnetText left]

theorem allocateSubnet_exhausted (exhausted : 255 < net.nextSubnet) :
    net.allocateSubnet = (net, .error "netmgr: exhausted 10.42.0.0/16 (255 subnets)") :=
  if_pos exhausted

theorem allocateProjectSubnet_left (left : net.nextSubnet ≤ 255) :
    net.allocateProjectSubnet = (⟨net.nextSubnet + 1⟩, subnetText net.nextSubnet) := by
  unfold NetManager.allocateProjectSubnet
  simp only [allocateSubnet_left left, text_subnet left]

theorem allocateProjectSubnet_exhausted (exhausted : 255 < net.nextSubnet) :
    net.allocateProjectSubnet = (net, subnetText 0) := by
  have first : subnetText 0 = "10.42.0.0/24" := by decide
  unfold NetManager.allocateProjectSubnet
  rw [allocateSubnet_exhausted exhausted, first]

theorem allocateProjectSubnet_subnet (net : NetManager) :
    ∃ n ≤ 255, net.allocateProjectSubnet.2 = subnetText n := by
  by_cases left : net.nextSubnet ≤ 255
  · exact ⟨net.nextSubnet, left, by rw [allocateProjectSubnet_left left]⟩
  · exact ⟨0, Nat.zero_le _, by rw [allocateProjectSubnet_exhausted (Nat.lt_of_not_le left)]⟩

theorem subnetText_inj {m n : Nat} (hm : m ≤ 255) (hn : n ≤ 255)
    (same : subnetText m = subnetText n) : m = n := by
  have networks := congrArg parseCIDR same
  rw [parseCIDR_subnetText hm, parseCIDR_subnetText hn] at networks
  have bytes := congrArg IPNet.ip (Option.some.inj networks)
  exact (quad_inj (by omega) (by omega) bytes).2.2.1

theorem sscanf_subnetText {n : Nat} (small : n ≤ 255) :
    sscanf subnetFormat (subnetText n).toList = .ok [10, 42, n] := by
  have text : (subnetText n).toList = digits 10 ++ '.' ::
      (digits 42 ++ '.' :: (digits n ++ '.' :: (digits 0 ++ '/' :: digits 24))) := by
    simp [subnetText_eq, dotted, digits]
  unfold subnetFormat
  rw [text, sscanf_digits (by decide) _ _ _ (by decide), sscanf, if_pos rfl,
    sscanf_digits (by decide) _ _ _ (by decide), sscanf, if_pos rfl,
    sscanf_digits small _ _ _ (by decide), sscanf, if_pos rfl, sscanf]
  rfl

end Porter.Netmgr
