import Porter.Api.ProjectEnv

/-!
# Booting replicas

The handlers that boot replicas: creating, scaling and redeploying a project, creating a deployment
and promoting one.
-/
namespace Porter.Api.Projects

open Sql Go Store

structure GoldenImage where
  name : String
  image : String
  rootfs : String
  kernel : String
  vcpus : Int
  memMiB : Int

structure ImageManifest where
  id : String
  name : String
  image : String
  rootfs : String
  kernel : String
  vcpus : Int
  memMiB : Int

structure HostConfig where
  baseImageRef : String
  kernelImage : String
  guestBaseDefault : String

structure Server where
  box : Secretbox
  secretKeyMaterial : String
  hostConfig : Option HostConfig
  goldenImages : List GoldenImage
  catalog : Option (List ImageManifest)
  validateArtifacts : String → String → Option String
  resolveGuestBase : String → String → Except String String
  baseDomain : String
  orgs : List String
  etagOf : Project EnvMap → String

variable (text : String)

def hasPrefix (start : String) : Bool := start.toList.isPrefixOf text.toList

def contains (part : String) : Bool := text.toList.tails.any part.toList.isPrefixOf

def trimPrefix (start : String) : String :=
  if hasPrefix text start then String.ofList (text.toList.drop start.toList.length) else text

variable (server : Server)

def knownDirectImage (ref : String) : Bool :=
  if hasPrefix ref "docker://" || hasPrefix ref "oci://" || contains ref "@sha256:" then false
  else
    server.goldenImages.any (fun gi => gi.image = ref || gi.name = ref) ||
      (server.catalog.getD []).any (fun m => m.image = ref || m.id = ref || m.name = ref)

variable (vm : VM)

def withImage (rootfs kernel : String) (vcpus memMiB : Int) : VM :=
  { vm with
    rootfsPath := rootfs
    kernel := kernel
    vcpus := if vm.vcpus = 0 then vcpus else vm.vcpus
    memMiB := if vm.memMiB = 0 then memMiB else vm.memMiB }

def applyImageManifest : VM :=
  match server.goldenImages.find? (fun gi =>
    gi.image = vm.image || gi.name = vm.image ||
      gi.image = "custom://" ++ trimPrefix vm.image "custom://") with
  | some gi => withImage vm gi.rootfs gi.kernel gi.vcpus gi.memMiB
  | none =>
    match (server.catalog.getD []).find? (fun m =>
      m.image = vm.image || m.id = vm.image || m.name = vm.image) with
    | some m => withImage vm m.rootfs m.kernel m.vcpus m.memMiB
    | none => vm

def withKernel : VM :=
  match server.hostConfig with
  | some config => if vm.kernel = "" then { vm with kernel := config.kernelImage } else vm
  | none => vm

structure CreateProjectReq (μ : Type) where
  name : String
  image : String
  gitURL : String
  orgID : String
  vcpus : Int
  memMiB : Int
  env : Option μ
  ports : List Port
  replicas : Int
  hostMountPath : String
  volumeID : String
  healthcheck : Option Healthcheck
  restartPolicy : String
  sshEnabled : Bool

def replicaReq (name image : String) (replicas : Int) (env : Option Ref) (ports : List Port) :
    CreateProjectReq Ref where
  name := name
  image := image
  gitURL := ""
  orgID := ""
  vcpus := 0
  memMiB := 0
  env := env
  ports := ports
  replicas := replicas
  hostMountPath := ""
  volumeID := ""
  healthcheck := none
  restartPolicy := ""
  sshEnabled := false

def decryptSecret (blob : List UInt8) : Except String String :=
  server.box.openBox (server.box.key server.secretKeyMaterial) blob

def openSecret (secret : Secret) : Option (String × String) :=
  match decryptSecret server secret.valueEncrypted with
  | .ok value => some (secret.name, value)
  | .error _ => none

variable (run : ProjectRun) (s : Session)

def openSecrets (projectID : String) (idx : Nat) : List (String × String) :=
  (listSecrets s.db (run.secretRows idx) projectID).filterMap (openSecret server)

variable (proj : Project Ref)

/-- `secretsEnv`: a new map with the environment of the project and its decrypted secrets. -/
def secretsEnv (idx : Nat) : Session × EnvMap :=
  let merged := GoMap.nil.setAll
    (run.order.visit (proj.env.elim [] (fun ref => (s.heap.read ref).rows)))
  let opened := openSecrets server run s proj.id idx
  ({ s with decrypted := s.decrypted ++ opened.map (fun pair => (proj.id, pair)) },
    merged.setAll opened)

structure Boot where
  session : Session
  proj : Project Ref
  deployment : Option Deployment

def Session.putVM (run : ProjectRun) (s : Session) (vm : VM) : Session :=
  { s with db := Store.putVM s.db (run.write s.writes) vm, writes := s.writes + 1 }

def Session.deleteReplicasByProject (run : ProjectRun) (s : Session) (projectID : String) :
    Session :=
  { s with
    db := Store.deleteReplicasByProject s.db (run.write s.writes) projectID
    writes := s.writes + 1 }

def Session.deleteVM (run : ProjectRun) (s : Session) (id : String) : Session :=
  { s with db := Store.deleteVM s.db (run.write s.writes) id, writes := s.writes + 1 }

def Session.createDeployment (run : ProjectRun) (s : Session) (d : Deployment) :
    Session × Deployment :=
  ({ s with
      db := Store.createDeployment s.db (run.write s.writes) d
      writes := s.writes + 1 },
    d.withWeights)

def replicaEnv (env : Option Ref) : Session × Ref :=
  match env with
  | some ref => (s, ref)
  | none =>
    let (heap, ref) := s.heap.alloc GoMap.nil
    ({ s with heap := heap }, ref)

variable (boot : Boot)

def newReplica (req : CreateProjectReq Ref) (env : EnvMap) (idx : Nat) : VM where
  id := run.vmID idx
  name := boot.proj.name ++ "-" ++ toString idx
  projectID := boot.proj.id
  serviceName := "web"
  state := .pending
  healthStatus := .checking
  image := req.image
  replicaIndex := idx
  vcpus := req.vcpus
  memMiB := req.memMiB
  ports := req.ports
  env := env
  volumeID := req.volumeID
  deploymentID := boot.deployment.elim "" (·.id)
  deploymentVersion := boot.deployment.elim "" (·.versionLabel)
  deploymentEnv := boot.deployment.elim "" (·.environment)
  guestBase := boot.deployment.elim "" (·.guestBase)
  rootfsPath := ""
  kernel := ""
  error := ""

def bootError : Option String :=
  if vm.rootfsPath = "" || vm.kernel = "" then
    some ("direct Firecracker deploy requires a registered image with readable rootfs.ext4 " ++
      "and vmlinux artifacts")
  else
    (server.validateArtifacts vm.rootfsPath vm.kernel).map
      ("image artifact validation failed: " ++ ·)

def joinPool (s : Session) (vmID : String) : Boot :=
  match boot.deployment with
  | some d =>
    let (s, d) := s.createDeployment run { d with vmIDs := d.vmIDs ++ [vmID] }
    ⟨s.put run boot.proj, boot.proj, some d⟩
  | none =>
    let proj := { boot.proj with vmIDs := boot.proj.vmIDs ++ [vmID] }
    ⟨s.put run proj, proj, none⟩

/-- The session after `bootReplica` has collected the environment, and the map it is in. -/
def injectSecrets (env : Option Ref) (idx : Nat) : Session × Ref :=
  let (s, ref) := replicaEnv boot.session env
  let (s, merged) := secretsEnv server run s boot.proj idx
  ({ s with heap := s.heap.modify ref (·.fillMissing (run.order.visit merged.rows)) }, ref)

def bootReplica (req : CreateProjectReq Ref) (idx : Nat) : Boot :=
  let (s, env) := injectSecrets server run boot req.env idx
  let vm := withKernel server
    (applyImageManifest server (newReplica run boot req (s.heap.read env) idx))
  match bootError server vm with
  | some error =>
    { boot with session := s.putVM run { vm with state := .failed, error := error } }
  | none => joinPool run boot (s.putVM run vm) vm.id

def bootReplicas (req : Boot → CreateProjectReq Ref) (boot : Boot) (indices : List Nat) : Boot :=
  indices.foldl (fun boot idx => bootReplica server run boot (req boot) idx) boot

def projPorts (db : ProjectDb) (proj : Project Ref) : List Port :=
  (proj.vmIDs.findSome? (getVM db)).elim [] (·.ports)

def ownReq (replicas : Int) (boot : Boot) : CreateProjectReq Ref :=
  replicaReq boot.proj.name boot.proj.image replicas boot.proj.env
    (projPorts boot.session.db boot.proj)

variable (id : String)

def handleScale (body : Except String Int) : Session × Response ProjectReply :=
  match body with
  | .error err => (s, badRequest err)
  | .ok replicas =>
    match getProject s.db run.getFails id with
    | none => (s, projectNotFound)
    | some doc =>
      let (s, proj) := s.load doc
      let wanted := replicas.toNat
      let cur := proj.vmIDs.length
      let boot := bootReplicas server run (ownReq 1) ⟨s, proj, none⟩
        (List.range' cur (wanted - cur))
      let kept := if wanted < cur then boot.proj.vmIDs.take wanted else boot.proj.vmIDs
      let proj := { boot.proj with vmIDs := kept, replicasDesired := (wanted : Int) }
      (boot.session.put run proj, .json statusOK (.scale wanted kept.length))

def handleRedeployProject : Session × Response ProjectReply :=
  match getProject s.db run.getFails id with
  | none => (s, projectNotFound)
  | some doc =>
    let (s, proj) := s.load doc
    let s := s.deleteReplicasByProject run proj.id
    let boot := bootReplicas server run (fun boot => ownReq boot.proj.replicasDesired boot)
      ⟨s, { proj with vmIDs := [] }, none⟩ (List.range proj.replicasDesired.toNat)
    let s := boot.session.put run boot.proj
    (s, .json statusAccepted (.rollout (s.row boot.proj).doc "redeploying"))

def newProject (req : CreateProjectReq Ref) (creator : String) :
    Project Ref where
  id := run.newID
  orgID := req.orgID
  name := req.name
  source := if req.gitURL ≠ "" then "git" else "image"
  image := req.image
  network := run.subnet.getD "10.42.0.0/16"
  vmIDs := []
  hostMountPath := req.hostMountPath
  replicasDesired := req.replicas
  restartPolicy := req.restartPolicy
  healthcheck := req.healthcheck
  env := req.env
  tags := []
  sshEnabled := req.sshEnabled
  replicas := req.replicas
  createdBy := creator

def firstDeployment (buildStatus image gitURL : String) : Deployment where
  id := run.deploymentID
  projectID := run.newID
  buildStatus := buildStatus
  imageDigest := image
  rollbackTo := ""
  gitURL := gitURL
  gitCommit := ""
  checks := []
  rolloutPercent := 0
  versionLabel := ""
  guestBase := ""
  environment := ""
  isProduction := false
  routeWeight := 0
  vmIDs := []

def requestedImage (req : CreateProjectReq EnvMap) : String :=
  if req.image = "" && req.gitURL = "" then server.hostConfig.elim "" (·.baseImageRef)
  else req.image

def refusesCreate (req : CreateProjectReq EnvMap) : Option (Response ProjectReply) :=
  if req.name = "" then some (.error statusBadRequest "name is required")
  else if req.gitURL = "" && requestedImage server req = "" then
    some (.error statusBadRequest
      "image is required; choose a registered base:// or custom:// microVM image")
  else if req.gitURL = "" && !knownDirectImage server (requestedImage server req) then
    some (.error statusUnprocessableEntity
      ("image is not a registered direct Firecracker manifest; Docker/OCI references are " ++
        "not bootable"))
  else none

def acceptedReq (req : CreateProjectReq EnvMap) (env : Option Ref) :
    CreateProjectReq Ref where
  name := req.name
  image := requestedImage server req
  gitURL := req.gitURL
  orgID := if req.orgID = "" then server.orgs.headD "" else req.orgID
  vcpus := req.vcpus
  memMiB := req.memMiB
  env := env
  ports := req.ports
  replicas := if req.replicas < 1 then 1 else req.replicas
  hostMountPath := req.hostMountPath
  volumeID := req.volumeID
  healthcheck := req.healthcheck
  restartPolicy := if req.restartPolicy = "" then "on-failure" else req.restartPolicy
  sshEnabled := req.sshEnabled

def builtImage (req : CreateProjectReq Ref) : String :=
  if req.gitURL ≠ "" then run.build.1 else req.image

def bootCreated (req : CreateProjectReq Ref) : Boot :=
  bootReplicas server run (fun _ => { req with image := builtImage run req }) ⟨s, proj, none⟩
    (if req.gitURL ≠ "" && builtImage run req = "" then [] else List.range req.replicas.toNat)

def createProjectFrom (req : CreateProjectReq EnvMap) (creator : String) :
    Session × Response ProjectReply :=
  match refusesCreate server req with
  | some refusal => (s, refusal)
  | none =>
    let (s, env) := s.decode req.env
    let req := acceptedReq server req env
    let proj := newProject run req creator
    let boot := bootCreated server run (s.put run proj) proj req
    let git := req.gitURL ≠ ""
    let (s, _) := boot.session.createDeployment run
      (firstDeployment run (if git then run.build.2 else "ready") (builtImage run req) req.gitURL)
    (s, .json statusAccepted
      (.rollout (s.row boot.proj).doc (if git then "building" else "deploying")))

def handleCreateProject (orgHeader creator : String)
    (body : Except String (CreateProjectReq EnvMap)) : Session × Response ProjectReply :=
  match body with
  | .error err => (s, badRequest err)
  | .ok req =>
    let req := if req.orgID = "" then { req with orgID := orgHeader } else req
    createProjectFrom server run s req creator

structure DeploymentReq where
  image : String
  env : Option EnvMap
  tag : String
  commit : String
  gitURL : String
  trafficPct : Int
  replicas : Int
  guestBase : String

def currentRollout (ds : List Deployment) : String := (ds.getLast?).elim "" (·.id)

variable (req : DeploymentReq)

def deploymentReplicas (proj : Project Ref) : Int :=
  if req.replicas < 1 then (if proj.replicasDesired < 1 then 1 else proj.replicasDesired)
  else req.replicas

def deploymentTag : String :=
  if req.tag = "" then "rev-" ++ run.randHex.toLower else req.tag

def deploymentPreview (tag name : String) : String :=
  if server.baseDomain ≠ "" then tag ++ "." ++ name ++ ".preview." ++ server.baseDomain
  else "http://" ++ tag ++ "-" ++ name ++ ".preview.local"

def defaultGuestBase : String :=
  let configured := server.hostConfig.elim "" (·.guestBaseDefault)
  if configured = "" then "alpine" else configured

def newDeployment (base : String) : Deployment where
  id := run.deploymentID
  projectID := proj.id
  buildStatus := "preview"
  imageDigest := req.image
  rollbackTo := currentRollout (listDeployments s.db (run.deploymentRows 0) proj.id)
  gitURL := req.gitURL
  gitCommit := req.commit
  checks := []
  rolloutPercent := req.trafficPct
  versionLabel := deploymentTag run req
  guestBase := base
  environment := "preview"
  isProduction := false
  routeWeight := req.trafficPct
  vmIDs := []

def deploymentImage (proj : Project Ref) : String :=
  if req.image = "" then proj.image else req.image

variable (d : Deployment)

def bootDeployment (req : DeploymentReq) (env : Option Ref) : Boot :=
  bootReplicas server run
    (fun _ => replicaReq (proj.name ++ "-" ++ deploymentTag run req) (deploymentImage req proj)
      (deploymentReplicas req proj) env (projPorts s.db proj))
    ⟨s, proj, some d⟩ (List.range (deploymentReplicas req proj).toNat)

def launchDeployment (req : DeploymentReq) : Session × Response ProjectReply :=
  if !knownDirectImage server (deploymentImage req proj) then
    ((s.createDeployment run { d with buildStatus := "failed" }).1,
      .error statusUnprocessableEntity
        "deployment image is not a registered direct Firecracker image")
  else
    let (s, env) := s.decode req.env
    let boot := bootDeployment server run s proj d req env
    let (s, d) := boot.session.createDeployment run
      { boot.deployment.getD d with buildStatus := "ready" }
    (s, .json statusAccepted (.deployment d
      (deploymentPreview server (deploymentTag run req) proj.name) "preview"))

def handleCreateDeployment (body : Except String DeploymentReq) : Session × Response ProjectReply :=
  match body with
  | .error err => (s, badRequest err)
  | .ok req =>
    match getProject s.db run.getFails id with
    | none => (s, projectNotFound)
    | some doc =>
      if req.trafficPct < 0 || req.trafficPct > 100 then
        (s, .error statusBadRequest "traffic_pct must be between 0 and 100")
      else
        match server.resolveGuestBase req.guestBase (defaultGuestBase server) with
        | .error err => (s, .error statusBadRequest err)
        | .ok base =>
          let (s, proj) := s.load doc
          let d := newDeployment run s proj req base
          match createDeploymentError s.db (run.write s.writes) d with
          | some err => (s, .error statusInternalServerError err)
          | none =>
            let (s, d) := s.createDeployment run d
            launchDeployment server run s proj d req

def liveDeployment : Deployment :=
  { d with
    buildStatus := "live"
    isProduction := true
    environment := "production"
    routeWeight := 100
    rolloutPercent := 100 }

variable (target : String)

def promoteOne (d : Deployment) : Deployment :=
  let d := { d with isProduction := d.id = target }
  if d.id = target then
    { d with environment := "production", routeWeight := 100, rolloutPercent := 100,
             buildStatus := "live" }
  else if d.isProduction then { d with routeWeight := 0, isProduction := false }
  else d

theorem vmIDs_promoteOne (d : Deployment) : (promoteOne target d).vmIDs = d.vmIDs := by
  unfold promoteOne
  simp only
  split
  · rfl
  · split <;> rfl

def promoteAll (s : Session) (ds : List Deployment) : Session :=
  ds.foldl (fun s d => (s.createDeployment run (promoteOne target d)).1) s

def bootPromoted : Boot :=
  bootReplicas server run
    (fun _ => replicaReq (proj.name ++ "-" ++ d.versionLabel) proj.image proj.replicasDesired
      proj.env (projPorts s.db proj))
    ⟨s, proj, some d⟩
    (if d.vmIDs.isEmpty then List.range proj.replicasDesired.toNat else [])

def previewURL (project : String) : String :=
  let short := String.ofList (id.toList.take 8)
  if server.baseDomain ≠ "" then short ++ "." ++ project ++ ".preview." ++ server.baseDomain
  else "http://" ++ short ++ "." ++ project ++ ".preview.local"

variable (keepOld : Bool)

def promote : Session × Response ProjectReply :=
  let old := proj.vmIDs
  let boot := bootPromoted server run s { proj with image := d.imageDigest } d
  let d := boot.deployment.getD d
  let proj := { boot.proj with vmIDs := d.vmIDs }
  let s := promoteAll run d.id boot.session
    (listDeployments boot.session.db (run.deploymentRows 1) proj.id)
  let s := if keepOld then s else old.foldl (Session.deleteVM run) s
  let (s, _) := (s.put run proj).createDeployment run (liveDeployment d)
  (s, .json statusOK (.promoted d.id (previewURL server d.id proj.name)))

def handlePromoteDeployment : Session × Response ProjectReply :=
  match getProject s.db run.getFails id with
  | none => (s, projectNotFound)
  | some doc =>
    match (listDeployments s.db (run.deploymentRows 0) doc.id).find? (·.id = target) with
    | none => (s, .error statusNotFound "deployment not found or has no image")
    | some d =>
      if d.imageDigest = "" then
        (s, .error statusNotFound "deployment not found or has no image")
      else if !allChecksPassed d then
        (s, .error statusConflict
          "deployment has pending/failed checks; complete checks before promoting")
      else
        let (s, proj) := s.load doc
        promote server run s proj d keepOld

theorem handleCreateDeployment_cases (body : Except String DeploymentReq) :
    ((handleCreateDeployment server run s id body).1.db = s.db ∧
      (handleCreateDeployment server run s id body).2.succeeded = false) ∨
    ∃ req doc base d, body = .ok req ∧ getProject s.db run.getFails id = some doc ∧
      newDeployment run (s.load doc).1 (s.load doc).2 req base = d ∧
      createDeploymentError s.db (run.write (s.load doc).1.writes) d = none ∧
      handleCreateDeployment server run s id body =
        launchDeployment server run ((s.load doc).1.createDeployment run d).1 (s.load doc).2
          ((s.load doc).1.createDeployment run d).2 req := by
  unfold handleCreateDeployment
  cases body with
  | error err => exact Or.inl ⟨rfl, rfl⟩
  | ok req =>
    cases found : getProject s.db run.getFails id with
    | none => exact Or.inl ⟨rfl, rfl⟩
    | some doc =>
      simp only
      split
      · exact Or.inl ⟨rfl, rfl⟩
      · cases server.resolveGuestBase req.guestBase (defaultGuestBase server) with
        | error err => exact Or.inl ⟨rfl, rfl⟩
        | ok base =>
          simp only
          split
          · exact Or.inl ⟨db_load s doc, rfl⟩
          · rename_i accepted
            rw [db_load] at accepted
            exact Or.inr ⟨req, doc, base, _, rfl, rfl, rfl, accepted, rfl⟩

theorem handlePromoteDeployment_cases :
    ((handlePromoteDeployment server run s id target keepOld).1 = s ∧
      (handlePromoteDeployment server run s id target keepOld).2.succeeded = false) ∨
    ∃ doc d, getProject s.db run.getFails id = some doc ∧
      (listDeployments s.db (run.deploymentRows 0) doc.id).find? (·.id = target) = some d ∧
      (d.imageDigest ≠ "" ∧ allChecksPassed d = true) ∧
      handlePromoteDeployment server run s id target keepOld =
        promote server run (s.load doc).1 (s.load doc).2 d keepOld := by
  unfold handlePromoteDeployment
  cases found : getProject s.db run.getFails id with
  | none => exact Or.inl ⟨rfl, rfl⟩
  | some doc =>
    simp only
    cases listed : (listDeployments s.db (run.deploymentRows 0) doc.id).find? (·.id = target) with
    | none => exact Or.inl ⟨rfl, rfl⟩
    | some d =>
      simp only
      split
      · exact Or.inl ⟨rfl, rfl⟩
      · rename_i image
        split
        · exact Or.inl ⟨rfl, rfl⟩
        · rename_i passed
          exact Or.inr ⟨doc, d, rfl, listed, ⟨image, by simpa using passed⟩, rfl⟩

end Porter.Api.Projects
