import Porter.Run.Interrupted
import Porter.Runtime.FcClient
import Porter.Runtime.NetSpec
import Porter.Runtime.Volumes

/-!
# Starting a guest

What `VMManager.Boot` has `CreateAndStartVM` do: the process, the calls to the API of Firecracker,
and the boot arguments.
-/
namespace Porter.Runtime

open Go Netmgr Run Run.Program

structure ReplicaNetworkSpec where
  subnet : String
  ipAddress : String
  gateway : String
  mac : String
  tapName : String

structure LaunchConfig extends FCVMConfig where
  networkSpec : Option ReplicaNetworkSpec
  mmdsData : List (String × String)
  jailer : List String
  balloonMiB : Int
  vsockUDSPath : String
  vsockGuestCID : Int
  rxBandwidthKbps : Int
  txBandwidthKbps : Int
  rxOpsPerSec : Int
  txOpsPerSec : Int

structure FCConfig where
  firecrackerBin : String
  socketDir : String
  jailerBin : String
  enableJailer : Bool
  cgroupVersion : String
  vsockUDSPath : String
  balloonMiB : Int

def jailArgs (jailerBin vmID fcBin socketDir cgroupVer : String) : List String :=
  if jailerBin = "" then []
  else
    let cgroupVer := if cgroupVer = "" then "v2" else cgroupVer
    let sock := socketDir ++ "/" ++ vmID ++ ".sock"
    ["--id", vmID, "--exec-file", fcBin, "--api-sock", sock, "--cgroup-version", cgroupVer,
      "--", "--api-sock", sock, "--config-file", "/dev/null"]

def bootConfig (fc : FCConfig) (config : FCVMConfig) (spec : BootSpec)
    (payload : List (String × String)) : LaunchConfig :=
  { config with
    networkSpec := some ⟨spec.cidr, ipFromCIDR spec.cidr, spec.gatewayAddr, spec.macAddress,
      spec.hostDevName⟩
    mmdsData := payload
    jailer := if fc.enableJailer then jailArgs fc.jailerBin config.vmID fc.firecrackerBin
      fc.socketDir fc.cgroupVersion else []
    balloonMiB := fc.balloonMiB
    vsockUDSPath := fc.vsockUDSPath
    vsockGuestCID := 3
    rxBandwidthKbps := 0, txBandwidthKbps := 0, rxOpsPerSec := 0, txOpsPerSec := 0 }

structure Command where
  path : String
  args : List String

variable (fc : FCConfig)

def directCommand (vmID : String) : Command :=
  let socketPath := Path.clean (if fc.socketDir = "" then vmID ++ ".sock"
    else fc.socketDir ++ "/" ++ vmID ++ ".sock")
  ⟨fc.firecrackerBin, ["--api-sock", socketPath.render, "--config-file", "/dev/null"]⟩

def startCommand (cfg : LaunchConfig) : Command :=
  match cfg.jailer with
  | path :: args => ⟨path, args⟩
  | [] => directCommand fc cfg.vmID

def Jails (vmID : String) (command : Command) : Prop :=
  command.path = fc.jailerBin ∧ vmID ∈ command.args ∧
    ["--exec-file", fc.firecrackerBin] <:+: command.args

inductive Launch where
  | boot (config : FCVMConfig) (spec : BootSpec) (payload : List (String × String))
  | restore (vmID : String)

def Launch.vmID : Launch → String
  | .boot config _ _ => config.vmID
  | .restore vmID => vmID

def Launch.command : Launch → Command
  | .boot config spec payload => startCommand fc (bootConfig fc config spec payload)
  | .restore vmID => directCommand fc vmID

/-- With the jailer enabled, a boot runs it exactly if it is called like the first of its arguments.
-/
theorem jailer_used_iff (fc : FCConfig) (enabled : fc.enableJailer = true) :
    (fc.jailerBin ≠ "" → ∀ config spec payload,
        Jails fc config.vmID ((Launch.boot config spec payload).command fc) ↔
          fc.jailerBin = "--id") ∧
      ∀ launch : Launch, launch.command fc = directCommand fc launch.vmID ↔
        fc.jailerBin = "" ∨ ∃ vmID, launch = .restore vmID := by
  constructor
  · intro named config spec payload
    simp only [Launch.command, startCommand, bootConfig, enabled, jailArgs, named, if_true,
      if_false]
    constructor
    · exact fun jails => jails.1.symm
    · exact fun first => ⟨first.symm, List.mem_cons_self, [config.vmID], _, rfl⟩
  · intro launch
    cases launch with
    | restore vmID => simp [Launch.command, Launch.vmID]
    | boot config spec payload =>
      by_cases unnamed : fc.jailerBin = ""
      · simp [Launch.command, Launch.vmID, startCommand, bootConfig, jailArgs, unnamed]
      · simp [Launch.command, Launch.vmID, startCommand, bootConfig, jailArgs, enabled, unnamed,
          directCommand]

def jailedHost (jailerBin : String) : FCConfig :=
  ⟨"/usr/bin/firecracker", "/run/porter", jailerBin, true, "", "", 0⟩

def webBoot : Launch :=
  .boot ⟨"web-0", 1, 256, "/vmlinux", "/web.ext4", []⟩
    ⟨"06:00:00:00:00:01", "tap-web-0", "10.42.0.10/24", "10.42.0.1"⟩ []

theorem jailer_used_iff_named :
    (jailedHost "/usr/bin/jailer").enableJailer = true ∧
      (webBoot.command (jailedHost "/usr/bin/jailer") =
          directCommand (jailedHost "/usr/bin/jailer") "web-0" ↔
        (jailedHost "/usr/bin/jailer").jailerBin = "" ∨ ∃ vmID, webBoot = .restore vmID) :=
  ⟨rfl, (jailer_used_iff (jailedHost "/usr/bin/jailer") rfl).2 webBoot⟩

theorem jailer_not_run :
    (webBoot.command (jailedHost "/usr/bin/jailer")).path = "--id" ∧
      webBoot.command (jailedHost "") = directCommand (jailedHost "") "web-0" ∧
      (Launch.restore "web-0").command (jailedHost "/usr/bin/jailer") =
        directCommand (jailedHost "/usr/bin/jailer") "web-0" :=
  ⟨rfl, rfl, rfl⟩

structure Bucket where
  bandwidth : Option Int
  ops : Option Int
deriving DecidableEq

def bucket (bw ops : Int) : Bucket :=
  ⟨if 0 < bw then some ((bw * 1024).bmod (2 ^ 64)) else none, if 0 < ops then some ops else none⟩

inductive ApiCall where
  | bootSource (kernelImagePath bootArgs : String)
  | drive (id pathOnHost : String) (isRootDevice : Bool)
  | networkInterface (guestMAC hostDevName : String)
  | mmdsConfig (data : List (String × String))
  | vsock (guestCID : Int) (udsPath : String)
  | balloon (amountMiB : Int)
  | rateLimiter (rx tx : Bucket)
  | machineConfig (vcpuCount memSizeMiB : Int)
  | instanceStart
deriving DecidableEq

inductive Step where
  | part (part : Fc.Part)
  | call (call : ApiCall)

def put (call : ApiCall) : Program (List (Step × Outcome)) := attempt (.call call)

variable (cfg : LaunchConfig)

def buildBootArgs : String :=
  cfg.networkSpec.elim "" fun spec =>
    " ip=" ++ spec.ipAddress ++ "::" ++ spec.gateway ++ ":255.255.255.0::eth0:off"

def bootSource : ApiCall :=
  .bootSource cfg.kernelPath
    ("console=ttyS0 reboot=k panic=1 pci=off nomodules ro root=/dev/vda " ++ buildBootArgs cfg)

def vsock : ApiCall :=
  .vsock (if cfg.vsockGuestCID < 3 then 3 else cfg.vsockGuestCID) cfg.vsockUDSPath

def rx : Bucket := bucket cfg.rxBandwidthKbps cfg.rxOpsPerSec

def tx : Bucket := bucket cfg.txBandwidthKbps cfg.txOpsPerSec

def limited : Bool :=
  0 < (cfg.rxBandwidthKbps + cfg.txBandwidthKbps + cfg.rxOpsPerSec + cfg.txOpsPerSec).bmod
    (2 ^ 64) && !(rx cfg = ⟨none, none⟩ && tx cfg = ⟨none, none⟩)

def configureVM : Program (List (Step × Outcome)) :=
  seq (put (bootSource cfg)) <|
  seq (put (.drive "rootfs" cfg.rootfsPath true)) <|
  seq (cfg.networkSpec.elim skip fun spec => put (.networkInterface spec.mac spec.tapName)) <|
  seq (forEach (fun d => put (.drive d.id d.path false)) cfg.dataDrives) <|
  seq (if cfg.mmdsData ≠ [] then put (.mmdsConfig cfg.mmdsData) else skip) <|
  seq (if cfg.vsockUDSPath ≠ "" then put (vsock cfg) else skip) <|
  seq (if cfg.balloonMiB > 0 then put (.balloon cfg.balloonMiB) else skip) <|
  seq (if limited cfg then put (.rateLimiter (rx cfg) (tx cfg)) else skip) <|
  put (.machineConfig cfg.vcpus cfg.memMiB)

def createAndStartVM : Program (List (Step × Outcome)) :=
  seq (forEach (fun part => attempt (.part part)) [.host, .socketDir, .start, .socket]) <|
  seq (configureVM cfg) <|
  put .instanceStart

def configuration : List ApiCall :=
  [bootSource cfg, .drive "rootfs" cfg.rootfsPath true] ++
    (cfg.networkSpec.map fun spec => .networkInterface spec.mac spec.tapName).toList ++
    cfg.dataDrives.map (fun d => .drive d.id d.path false) ++
    (if cfg.mmdsData ≠ [] then [.mmdsConfig cfg.mmdsData] else []) ++
    (if cfg.vsockUDSPath ≠ "" then [vsock cfg] else []) ++
    (if cfg.balloonMiB > 0 then [.balloon cfg.balloonMiB] else []) ++
    (if limited cfg then [.rateLimiter (rx cfg) (tx cfg)] else []) ++
    [.machineConfig cfg.vcpus cfg.memMiB]

def Step.call? : Step → Option ApiCall
  | .call c => some c
  | .part _ => none

def sent (trace : List (Step × Outcome)) : List ApiCall :=
  (trace.filter (fun entry => entry.2 ≠ .failed)).filterMap (fun entry => entry.1.call?)

theorem configureVM_follows :
    Follows (configureVM cfg) ((configuration cfg).map .call) := by
  have each := fun call => Follows.attempt (Step.call call)
  have script : Follows (configureVM cfg) _ := (each _).seq <| (each _).seq <|
    (Follows.elim (fun _ => each _) _).seq <| (Follows.forEach (fun _ => each _) _).seq <|
    (Follows.ite (each _)).seq <| (Follows.ite (each _)).seq <| (Follows.ite (each _)).seq <|
    (Follows.ite (each _)).seq (each _)
  convert script using 1
  cases interface : cfg.networkSpec <;>
    simp [configuration, interface, apply_ite (List.map Step.call), Function.comp_def]

theorem createAndStartVM_follows :
    Follows (createAndStartVM cfg)
      ([.part .host, .part .socketDir, .part .start, .part .socket] ++
        (configuration cfg).map .call ++ [.call .instanceStart]) := by
  exact (Follows.forEach (fun part => Follows.attempt (Step.part part)) _).seq
    ((configureVM_follows cfg).seq (Follows.attempt _))

theorem instanceStart_notMem : .instanceStart ∉ configuration cfg := by
  cases interface : cfg.networkSpec <;> simp [configuration, interface, bootSource, vsock]

/-- The calls `CreateAndStartVM` has sent are the first of the configuration and the start of the
instance, which follows the process, the socket and every other call. -/
theorem createAndStartVM_calls (cfg : LaunchConfig) (outcomes : List Outcome) :
    sent (createAndStartVM cfg [] outcomes).1 <+: configuration cfg ++ [.instanceStart] ∧
      (.instanceStart ∈ sent (createAndStartVM cfg [] outcomes).1 →
        (.part .start, .ok) ∈ (createAndStartVM cfg [] outcomes).1 ∧
          (.part .socket, .ok) ∈ (createAndStartVM cfg [] outcomes).1 ∧
          ∀ call ∈ configuration cfg,
            (.call call, .ok) ∈ (createAndStartVM cfg [] outcomes).1) := by
  have along := (createAndStartVM_follows cfg).along outcomes
  generalize (createAndStartVM cfg [] outcomes).1 = trace at along
  have reached : sent trace <+: (trace.map Prod.fst).filterMap Step.call? := by
    rw [List.filterMap_map]
    exact (along.filter_prefix (by simp)).filterMap _
  constructor
  · have calls := reached.trans (along.order.filterMap Step.call?)
    rw [List.filterMap_append, List.filterMap_append, List.filterMap_map] at calls
    have configured : (configuration cfg).filterMap (Step.call? ∘ Step.call) = configuration cfg :=
      List.filterMap_some
    rwa [configured] at calls
  · intro started
    have attempted : Step.call .instanceStart ∈ trace.map Prod.fst := by
      obtain ⟨step, member, same⟩ := List.mem_filterMap.mp (reached.subset started)
      cases step with
      | part part => cases same
      | call c => exact Option.some.inj same ▸ member
    have earlier : ∀ what ∈ _, (what, Outcome.ok) ∈ trace :=
      fun _ => along.complete attempted (by simp [instanceStart_notMem])
    exact ⟨earlier _ (by simp), earlier _ (by simp),
      fun call member => earlier _ (by simp [member])⟩

/-- `client:server:gateway:netmask:hostname:device:autoconf` of the kernel parameter `ip`. -/
def ipFields (bootArgs : String) : List (List Char) := (bootArgs.toList.drop 4).splitOn ':'

variable {spec : BootSpec} {n host gate ones : Nat} (config : FCVMConfig)
  (payload : List (String × String))

theorem ipFields_dotted (cidr : spec.cidr = dotted 10 42 n host ++ "/" ++ toString ones)
    (gateway : spec.gatewayAddr = dotted 10 42 n gate) :
    ipFields (buildBootArgs (bootConfig fc config spec payload)) =
      [(dotted 10 42 n host).toList, [], (dotted 10 42 n gate).toList, "255.255.255.0".toList, [],
        "eth0".toList, "off".toList] := by
  have client : ipFromCIDR spec.cidr = dotted 10 42 n host := by
    rw [ipFromCIDR, cidr, takeWhile_network, String.ofList_toList]
  have text : (buildBootArgs (bootConfig fc config spec payload)).toList.drop 4 =
      [':'].intercalate [(dotted 10 42 n host).toList, [], (dotted 10 42 n gate).toList,
        "255.255.255.0".toList, [], "eth0".toList, "off".toList] := by
    simp [buildBootArgs, bootConfig, client, gateway, List.intercalate]
  have apart : ∀ d, ':' ∉ (dotted 10 42 n d).toList :=
    fun d => notMem_dotted 10 42 n d ':' (by decide) (by decide)
  rw [ipFields, text]
  apply List.splitOn_intercalate ':' _ (List.cons_ne_nil _ _)
  intro field member
  simp only [List.mem_cons, List.not_mem_nil, or_false] at member
  rcases member with rfl | rfl | rfl | rfl | rfl | rfl | rfl
  · exact apart host
  · exact List.not_mem_nil
  · exact apart gate
  · decide
  · exact List.not_mem_nil
  · decide
  · decide

structure Told (bootArgs : String) (spec : BootSpec) (masks : Prop) : Prop where
  gateway : ∃ network gateway, parseCIDR spec.cidr = some network ∧
    (ipFields bootArgs)[2]?.bind parseAddr = some gateway ∧ network.contains gateway = true
  netmask : (∃ network, parseCIDR spec.cidr = some network ∧
    (ipFields bootArgs)[3]?.bind parseAddr = some network.mask) ↔ masks

theorem told_dotted {masks : Prop} (mask : UInt8) (small : n ≤ 255) (guest : host ≤ 255)
    (gates : gate ≤ 255) (short : ones ≤ 32)
    (cidr : spec.cidr = dotted 10 42 n host ++ "/" ++ toString ones)
    (gateway : spec.gatewayAddr = dotted 10 42 n gate)
    (bytes : cidrMask ones 4 = [255, 255, 255, mask])
    (inside : UInt8.ofNat host &&& mask &&& mask = UInt8.ofNat gate &&& mask)
    (told : mask = 0 ↔ masks) :
    Told (buildBootArgs (bootConfig fc config spec payload)) spec masks := by
  have network : parseCIDR spec.cidr = some ⟨_, _⟩ :=
    cidr ▸ parseCIDR_dotted (by decide) (by decide) small guest short
  have fields := ipFields_dotted fc config payload cidr gateway
  have written : parseAddr "255.255.255.0".toList = some [255, 255, 255, 0] := by decide
  constructor
  · refine ⟨_, quad 10 42 n gate, network, ?_, ?_⟩
    · rw [fields]
      exact parseAddr_dotted (by decide) (by decide) small gates
    · rw [contains_of_length (by simp [masked, quad, bytes]) (by simp [bytes]) rfl]
      simp [masked, quad, bytes, byte_and_255, inside]
  · have masked : some [255, 255, 255, 0] = some (cidrMask ones 4) ↔ mask = 0 := by
      simp [bytes, eq_comm]
    rw [network, fields, ← told, ← masked, ← written]
    constructor
    · rintro ⟨other, found, same⟩
      rw [← Option.some.inj found] at same
      exact same
    · exact fun same => ⟨_, rfl, same⟩

/-- For every guest with a network the boot arguments name a gateway in its subnet, and the netmask
of the subnet unless the guest has a `/30` of its own. -/
theorem bootArgs_told_iff (m : VMManager) (run : TapRun) (vm : NetVM) (spec : BootSpec)
    (numbered : Numbered m) (given : (m.netSpec run vm).2 = .ok spec) (fc : FCConfig)
    (config : FCVMConfig) (payload : List (String × String)) :
    Told (buildBootArgs (bootConfig fc config spec payload)) spec
      (¬ (m.useNetwork30 = true ∧ vm.replicaIndex ≤ 63)) := by
  obtain ⟨n, small, subnet⟩ := (numbered.subnetFor vm.projectID).2
  have addressed := netSpec_ok small subnet given
  rw [useNetwork30_subnetFor] at addressed
  cases addressed with
  | beside i same limit mode cidr gateway =>
    rw [slash_24] at cidr
    refine told_dotted fc config payload 0 small (by omega) (by decide) (by decide) cidr gateway
      (by decide) (by simp) ?_
    refine ⟨fun _ own => ?_, fun _ => rfl⟩
    have above := mode own.1
    omega
  | own i same limit mode cidr gateway =>
    rw [slash_30] at cidr
    have inside : ∀ i : Fin 64, UInt8.ofNat (i.val * 4 + 2) &&& 252 &&& 252 =
        UInt8.ofNat (i.val * 4 + 1) &&& 252 := by decide +kernel
    refine told_dotted fc config payload 252 small (by omega) (by omega) (by decide) cidr gateway
      (by decide) (inside ⟨i, Nat.lt_succ_of_le limit⟩) ?_
    exact ⟨fun never => absurd never (by decide), fun other => absurd ⟨mode, by omega⟩ other⟩

def webVM : NetVM := ⟨"web-0", "p", 0⟩

def webSpec : BootSpec := ⟨"06:c1:2e:09:5c:20", "tap-web-0", "10.42.0.2/30", "10.42.0.1"⟩

theorem webSpec_given : ((newVMManager true).netSpec .linux webVM).2 = .ok webSpec := rfl

theorem bootArgs_told_iff_web :
    Told (buildBootArgs (bootConfig (jailedHost "") ⟨"web-0", 1, 256, "", "", []⟩ webSpec []))
      webSpec (¬ ((newVMManager true).useNetwork30 = true ∧ webVM.replicaIndex ≤ 63)) :=
  bootArgs_told_iff _ .linux webVM webSpec (fun _ stored => absurd stored List.not_mem_nil)
    webSpec_given _ _ _

theorem netmask_of_other_network :
    ((newVMManager true).netSpec .linux webVM).2 = .ok webSpec ∧
      (parseCIDR webSpec.cidr).map IPNet.mask = some [255, 255, 255, 252] ∧
      buildBootArgs (bootConfig (jailedHost "") ⟨"web-0", 1, 256, "", "", []⟩ webSpec []) =
        " ip=10.42.0.2::10.42.0.1:255.255.255.0::eth0:off" :=
  ⟨webSpec_given, by decide +kernel, by decide +kernel⟩

end Porter.Runtime
