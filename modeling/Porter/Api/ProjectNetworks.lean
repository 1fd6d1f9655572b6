import Porter.Api.DeploymentWrites
import Porter.Api.SecretRuns
import Porter.Runtime.NetSpec

/-!
# Recorded and real networks

A project is created with a subnet of the API's allocator, recorded in its document; its VMs get
addresses in a subnet that `VMManager` allocates by a counter of its own.
-/
namespace Porter.Api.Projects.Networks

open Go Netmgr Run Porter.Runtime Sql Store

def allocate (net : Option NetManager) : Option NetManager × Option String :=
  match net with
  | none => (none, none)
  | some net =>
    match net.allocateSubnet with
    | (net, .error _) => (some net, none)
    | (net, .ok subnet) => (some net, some subnet.text)

structure Service where
  name : String
  image : String
  replicas : Int
  healthcheck : Option Healthcheck
  env : Option EnvMap
  ports : List Port

def composeProject (run : ProjectRun) (orgID stack : String) (svc : Service) (env : Option Ref) :
    Project Ref where
  id := run.newID
  orgID := orgID
  name := stack ++ "/" ++ svc.name
  source := "compose"
  image := svc.image
  network := run.subnet.getD "10.42.0.0/16"
  vmIDs := []
  hostMountPath := ""
  replicasDesired := svc.replicas
  restartPolicy := "on-failure"
  healthcheck := svc.healthcheck
  env := env
  tags := []
  sshEnabled := false
  replicas := svc.replicas
  createdBy := ""

def composeService (server : Server) (run : ProjectRun) (s : Session) (orgID stack : String)
    (svc : Service) : Session :=
  let (s, env) := s.decode svc.env
  let proj := composeProject run orgID stack svc env
  let spec := { replicaReq proj.name svc.image svc.replicas env svc.ports with
    orgID := orgID, healthcheck := svc.healthcheck }
  (bootReplicas server run (fun _ => spec) ⟨s.put run proj, proj, none⟩
    (List.range svc.replicas.toNat)).session

/-- The store, the two allocators, and the addresses given with the network recorded at that
time. -/
structure World where
  db : ProjectDb
  net : Option NetManager
  manager : VMManager
  given : List (String × BootSpec)

inductive Event where
  | create (server : Server) (run : ProjectRun) (req : CreateProjectReq EnvMap) (creator : String)
  | compose (server : Server) (run : ProjectRun) (orgID stack : String) (svc : Service)
  | netSpec (host : TapRun) (vm : NetVM)
  | restart (allocates useNetwork30 : Bool)

def recorded (db : ProjectDb) (projectID : String) : Option String :=
  (getProject db false projectID).map (·.network)

variable (w : World)

def World.giveAddress (host : TapRun) (vm : NetVM) : World :=
  match w.manager.netSpec host vm with
  | (manager, .error _) => { w with manager := manager }
  | (manager, .ok spec) =>
    { w with
      manager := manager
      given := w.given ++ (recorded w.db vm.projectID).toList.map (fun network => (network, spec)) }

variable (event : Event)

def step : World :=
  match event with
  | .create server run req creator =>
    let (net, subnet) := allocate w.net
    { w with
      db := (createProjectFrom server { run with subnet := subnet } (Session.start w.db []) req
        creator).1.db
      net := if (refusesCreate server req).isNone then net else w.net }
  | .compose server run orgID stack svc =>
    let (net, subnet) := allocate w.net
    { w with
      db := (composeService server { run with subnet := subnet } (Session.start w.db []) orgID
        stack svc).db
      net := net }
  | .netSpec host vm => w.giveAddress host vm
  | .restart allocates useNetwork30 =>
    { w with
      net := if allocates then some newNetManager else none
      manager := newVMManager useNetwork30 }

def start (allocates useNetwork30 : Bool) : World :=
  ⟨ProjectDb.empty, if allocates then some newNetManager else none, newVMManager useNetwork30, []⟩

def Inside (network : String) (spec : BootSpec) : Prop :=
  ∃ net guest, parseCIDR network = some net ∧ guestOf spec = some guest ∧ net.contains guest = true

def Agree : Prop := ∀ given ∈ w.given, Inside given.1 given.2

/-- A VM gets an address only if the manager's subnet is the recorded one, or none was. -/
def Matching : Prop :=
  ∀ host vm spec network, event = .netSpec host vm → (w.manager.netSpec host vm).2 = .ok spec →
    recorded w.db vm.projectID = some network →
      network = (w.manager.subnetFor vm.projectID).2 ∨ network = "10.42.0.0/16"

def AllNetworks (allowed : String → Prop) (db : ProjectDb) : Prop :=
  ∀ row ∈ db.projects.rows, allowed row.doc.network

section Writes

variable {allowed : String → Prop} {s : Session}

theorem AllNetworks.put (all : AllNetworks allowed s.db) (run : ProjectRun) (proj : Project Ref)
    (network : allowed proj.network) : AllNetworks allowed (s.put run proj).db := by
  intro row member
  rcases mem_putProject _ _ _ _ member with new | old
  · rw [new]
    exact network
  · exact all row old

theorem AllNetworks.of_projects {before after : ProjectDb} (all : AllNetworks allowed before)
    (same : after.projects = before.projects) : AllNetworks allowed after := by
  intro row member
  rw [same] at member
  exact all row member

theorem AllNetworks.bootReplica {boot : Boot} (all : AllNetworks allowed boot.session.db)
    (network : allowed boot.proj.network) (server : Server) (run : ProjectRun)
    (req : CreateProjectReq Ref) (idx : Nat) :
    AllNetworks allowed (bootReplica server run boot req idx).session.db := by
  have stored : ∀ vm, AllNetworks allowed
      ((injectSecrets server run boot req.env idx).1.putVM run vm).db := by
    intro vm
    have same := @db_injectSecrets run server boot req.env idx
    unfold Session.putVM
    rw [same]
    exact all.of_projects (sameProjects_putVM _ _ _).1
  rw [bootReplica_eq]
  cases bootError server (preparedVM server run boot req idx) with
  | some error => exact stored _
  | none =>
    unfold joinPool
    cases boot.deployment with
    | none => exact (stored _).put run _ network
    | some d =>
      have written : AllNetworks allowed
          (((injectSecrets server run boot req.env idx).1.putVM run
            (preparedVM server run boot req idx)).createDeployment run
              { d with vmIDs := d.vmIDs ++ [(preparedVM server run boot req idx).id] }).1.db :=
        (stored _).of_projects (sameProjects_createDeployment _ _ _).1
      exact written.put run _ network

theorem AllNetworks.bootReplicas {boot : Boot} (all : AllNetworks allowed boot.session.db)
    (network : allowed boot.proj.network) (server : Server) (run : ProjectRun)
    (req : Boot → CreateProjectReq Ref) (indices : List Nat) :
    AllNetworks allowed (bootReplicas server run req boot indices).session.db := by
  induction indices generalizing boot with
  | nil => exact all
  | cons idx rest recurse =>
    have ⟨ids, same⟩ := proj_bootReplica server run boot (req boot) idx
    apply recurse (all.bootReplica network server run (req boot) idx)
    rw [same]
    exact network

theorem AllNetworks.createProjectFrom (all : AllNetworks allowed s.db) {run : ProjectRun}
    (network : allowed (run.subnet.getD "10.42.0.0/16")) (server : Server)
    (req : CreateProjectReq EnvMap) (creator : String) :
    AllNetworks allowed (createProjectFrom server run s req creator).1.db := by
  unfold Projects.createProjectFrom
  cases refusesCreate server req with
  | some refusal => exact all
  | none =>
    have decoded : AllNetworks allowed (s.decode req.env).1.db := by
      rw [db_decode]
      exact all
    have booted : AllNetworks allowed (bootCreated server run
        ((s.decode req.env).1.put run
          (newProject run (acceptedReq server req (s.decode req.env).2) creator))
        (newProject run (acceptedReq server req (s.decode req.env).2) creator)
        (acceptedReq server req (s.decode req.env).2)).session.db :=
      AllNetworks.bootReplicas (decoded.put run _ network) network server run _ _
    exact booted.of_projects (sameProjects_createDeployment _ _ _).1

theorem AllNetworks.composeService (all : AllNetworks allowed s.db) {run : ProjectRun}
    (network : allowed (run.subnet.getD "10.42.0.0/16")) (server : Server) (orgID stack : String)
    (svc : Service) : AllNetworks allowed (composeService server run s orgID stack svc).db := by
  have decoded : AllNetworks allowed (s.decode svc.env).1.db := by
    rw [db_decode]
    exact all
  exact AllNetworks.bootReplicas (decoded.put run _ network) network server run _ _

end Writes

def Recordable (network : String) : Prop :=
  network = "10.42.0.0/16" ∨ ∃ n ≤ 255, network = subnetText n

theorem recordable_allocate (net : Option NetManager) :
    Recordable ((allocate net).2.getD "10.42.0.0/16") := by
  cases net with
  | none => exact Or.inl rfl
  | some net =>
    unfold allocate
    by_cases left : net.nextSubnet ≤ 255
    · simp only [allocateSubnet_left left, text_subnet left]
      exact Or.inr ⟨net.nextSubnet, left, rfl⟩
    · simp only [allocateSubnet_exhausted (Nat.lt_of_not_le left)]
      exact Or.inl rfl

theorem parseCIDR_range :
    parseCIDR "10.42.0.0/16" = some ⟨[10, 42, 0, 0], [255, 255, 0, 0]⟩ := by
  have text : "10.42.0.0/16" = dotted 10 42 0 0 ++ "/" ++ toString 16 := by decide
  rw [text, parseCIDR_dotted (by decide) (by decide) (by decide) (by decide) (by decide)]
  rfl

variable {spec : BootSpec}

theorem inside_range {use30 : Bool} {n : Nat} {index : Int} (small : n ≤ 255)
    (addressed : Addressed use30 n index spec) : Inside "10.42.0.0/16" spec := by
  have ⟨_, guest⟩ := addressed.guest small
  refine ⟨_, _, parseCIDR_range, guest, ?_⟩
  rw [contains_of_length rfl rfl rfl]
  simp [quad, masked]

theorem inside_subnet {use30 : Bool} {m n : Nat} {index : Int} (smallM : m ≤ 255)
    (smallN : n ≤ 255) (addressed : Addressed use30 n index spec) :
    Inside (subnetText m) spec ↔ m = n := by
  have guest := (addressed.guest smallN).2
  have contained : IPNet.contains ⟨quad 10 42 m 0, [255, 255, 255, 0]⟩
      (quad 10 42 n (hostOf use30 index)) = true ↔ UInt8.ofNat m = UInt8.ofNat n := by
    rw [contains_of_length rfl rfl rfl]
    simp [masked, quad, byte_and_255]
  unfold Inside
  rw [parseCIDR_subnetText smallM, guest]
  constructor
  · rintro ⟨net, address, read, same, inside⟩
    cases read
    cases same
    exact ofNat_inj smallM smallN (contained.mp inside)
  · intro same
    exact ⟨_, _, rfl, rfl, contained.mpr (congrArg UInt8.ofNat same)⟩

structure Formed (w : World) : Prop where
  networks : AllNetworks Recordable w.db
  subnets : Numbered w.manager

theorem giveAddress_cases (host : TapRun) (vm : NetVM) :
    (w.giveAddress host vm).db = w.db ∧
      (w.giveAddress host vm).manager = (w.manager.subnetFor vm.projectID).1 ∧
      ((∃ err, (w.manager.netSpec host vm).2 = .error err) ∧
          (w.giveAddress host vm).given = w.given ∨
        ∃ spec, (w.manager.netSpec host vm).2 = .ok spec ∧
          (w.giveAddress host vm).given =
            w.given ++
              (recorded w.db vm.projectID).toList.map (fun network => (network, spec))) := by
  have manager : (w.manager.netSpec host vm).1 = (w.manager.subnetFor vm.projectID).1 := rfl
  unfold World.giveAddress
  cases result : (w.manager.netSpec host vm).2 with
  | error err =>
    have pair : w.manager.netSpec host vm =
        ((w.manager.subnetFor vm.projectID).1, .error err) := Prod.ext manager result
    rw [pair]
    exact ⟨rfl, rfl, Or.inl ⟨⟨err, rfl⟩, rfl⟩⟩
  | ok spec =>
    have pair : w.manager.netSpec host vm =
        ((w.manager.subnetFor vm.projectID).1, .ok spec) := Prod.ext manager result
    rw [pair]
    exact ⟨rfl, rfl, Or.inr ⟨spec, rfl, rfl⟩⟩

theorem formed_step (formed : Formed w) : Formed (step w event) := by
  have recordable := recordable_allocate w.net
  cases event with
  | create server run req creator =>
    exact ⟨formed.networks.createProjectFrom recordable server req creator, formed.subnets⟩
  | compose server run orgID stack svc =>
    exact ⟨formed.networks.composeService recordable server orgID stack svc, formed.subnets⟩
  | restart allocates useNetwork30 =>
    refine ⟨formed.networks, ?_⟩
    intro entry member
    cases member
  | netSpec host vm =>
    have ⟨db, manager, _⟩ := giveAddress_cases w host vm
    constructor
    · show AllNetworks Recordable (w.giveAddress host vm).db
      rw [db]
      exact formed.networks
    · show Numbered (w.giveAddress host vm).manager
      rw [manager]
      exact (formed.subnets.subnetFor vm.projectID).1

variable {network : String}

theorem recordable_of_recorded {db : ProjectDb} (networks : AllNetworks Recordable db)
    {projectID : String} (stored : recorded db projectID = some network) :
    Recordable network := by
  have ⟨doc, found, same⟩ := Option.map_eq_some_iff.mp stored
  have ⟨row, member, _, document⟩ := getProject_eq_some found
  have recordable := networks row member
  rw [document, same] at recordable
  exact recordable

theorem inside_iff {w : World} (formed : Formed w) {host : TapRun} {vm : NetVM}
    (given : (w.manager.netSpec host vm).2 = .ok spec)
    (stored : recorded w.db vm.projectID = some network) :
    Inside network spec ↔
      network = (w.manager.subnetFor vm.projectID).2 ∨ network = "10.42.0.0/16" := by
  have ⟨n, small, subnet⟩ := (formed.subnets.subnetFor vm.projectID).2
  have addressed := netSpec_ok small subnet given
  rw [subnet]
  rcases recordable_of_recorded formed.networks stored with whole | ⟨m, smallM, same⟩
  · rw [whole]
    exact iff_of_true (inside_range small addressed) (Or.inr rfl)
  · have narrow : subnetText m ≠ "10.42.0.0/16" := by
      intro equal
      have masks := congrArg (fun text => (parseCIDR text).map IPNet.mask) equal
      simp [parseCIDR_subnetText smallM, parseCIDR_range] at masks
    rw [same, inside_subnet smallM small addressed]
    constructor
    · intro equal
      rw [equal]
      exact Or.inl rfl
    · intro either
      cases either with
      | inl equal => exact subnetText_inj smallM small equal
      | inr whole => exact absurd whole narrow

theorem agree_giveAddress {w : World} (formed : Formed w) (agree : Agree w) (host : TapRun)
    (vm : NetVM) : Agree (w.giveAddress host vm) ↔ Matching w (.netSpec host vm) := by
  have ⟨_, _, result⟩ := giveAddress_cases w host vm
  rcases result with ⟨⟨err, failed⟩, same⟩ | ⟨spec, given, grown⟩
  · constructor
    · intro _ _ _ spec network event succeeded
      cases event
      rw [failed] at succeeded
      cases succeeded
    · intro _ entry member
      rw [same] at member
      exact agree entry member
  · constructor
    · intro after _ _ _ network event succeeded stored
      cases event
      rw [given] at succeeded
      cases succeeded
      apply (inside_iff formed given stored).mp
      apply after (network, spec)
      rw [grown, stored]
      simp
    · intro matching entry member
      rw [grown] at member
      rcases List.mem_append.mp member with old | new
      · exact agree entry old
      · have ⟨network, stored, same⟩ := List.mem_map.mp new
        rw [Option.mem_toList] at stored
        rw [← same]
        exact (inside_iff formed given stored).mpr (matching host vm spec network rfl given stored)

theorem agree_step {w : World} (formed : Formed w) (agree : Agree w) (event : Event) :
    Agree (step w event) ↔ Matching w event := by
  cases event with
  | netSpec host vm => exact agree_giveAddress formed agree host vm
  | create | compose | restart =>
    refine iff_of_true agree ?_
    intro _ _ _ _ same
    cases same

/-- Every address lies in the recorded network exactly in the histories in which the manager's
subnet is the recorded one whenever a VM gets an address. -/
theorem agree_iff_matching (allocates useNetwork30 : Bool) (events : List Event) :
    (∀ before after, events = before ++ after →
        Agree (run step (start allocates useNetwork30) before)) ↔
      Guarded step Matching (start allocates useNetwork30) events := by
  have fresh : Formed (start allocates useNetwork30) := by
    constructor
    · intro row member
      cases member
    · intro entry member
      cases member
  have none : Agree (start allocates useNetwork30) := by
    intro entry member
    cases member
  have sharp : ∀ w event, Agree w ∧ Formed w → (Agree (step w event) ↔ Matching w event) ∧
      (Matching w event → Agree (step w event) ∧ Formed (step w event)) := by
    rintro w event ⟨agree, formed⟩
    have kept := agree_step formed agree event
    exact ⟨kept, fun matching => ⟨kept.mpr matching, formed_step w _ formed⟩⟩
  exact (guarded_iff_shown _ _ _ (fun _ known => known.1) sharp _ events
    ⟨none, fresh⟩).symm

def crossedEvents : List Event :=
  [.create shopServer (ProjectRun.plain "p0" "a-") { shopReq none with name := "front" } "ana",
    .create shopServer (ProjectRun.plain "p1" "b-") { shopReq none with name := "back" } "ana",
    .netSpec TapRun.linux ⟨"b-0", "p1", 0⟩]

theorem not_agree_of_outside {w : World} {address : IP}
    (given : w.given.map (fun given => (given.1, guestOf given.2)) = [(network, some address)])
    (outside : (parseCIDR network).map (·.contains address) = some false) : ¬ Agree w := by
  intro agree
  have ⟨entry, member, same⟩ := List.mem_map.mp (given ▸ List.mem_singleton_self _)
  simp only [Prod.mk.injEq] at same
  have ⟨net, guest, read, known, inside⟩ := agree entry member
  rw [same.1] at read
  rw [same.2] at known
  rw [read, Option.some.inj known, Option.map_some, inside] at outside
  contradiction

theorem address_outside_network :
    (run step (start true false) crossedEvents).given.map
        (fun given => (given.1, guestOf given.2)) =
        [("10.42.1.0/24", some [10, 42, 0, 10])] ∧
      ¬ Agree (run step (start true false) crossedEvents) := by
  have given : (run step (start true false) crossedEvents).given.map
      (fun given => (given.1, guestOf given.2)) = [("10.42.1.0/24", some [10, 42, 0, 10])] := by
    decide +kernel
  exact ⟨given, not_agree_of_outside given (by decide +kernel)⟩

end Porter.Api.Projects.Networks
