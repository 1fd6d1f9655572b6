import Porter.Api.Http
import Porter.Go.Path
import Porter.Store.Projects

/-!
# Volumes and data drives

A volume is provisioned as a directory with an image in it, recorded under the path of the
directory, and attached by `VMManager.Boot` as a drive of that path.
-/
namespace Porter.Runtime

open Api Go Sql Store

def sanitizeID (id : String) : String :=
  String.ofList (id.toList.map (fun r =>
    if ('a' ≤ r ∧ r ≤ 'z') ∨ ('A' ≤ r ∧ r ≤ 'Z') ∨ ('0' ≤ r ∧ r ≤ '9') ∨ r = '-' ∨ r = '_' then r
    else '-'))

structure Provisioned where
  path : String
  image : String
  sizeMiB : Int

structure ProvisionFaults where
  ensureRoot : Option String
  mkdir : Option String
  openImage : Option String
  truncate : Option String
  marker : Option String

def ProvisionFaults.clean : ProvisionFaults := ⟨none, none, none, none, none⟩

def createVolume (dir : Path) (faults : ProvisionFaults) (volumeID : String) (sizeMiB : Int) :
    Except String Provisioned :=
  let sizeMiB := if sizeMiB ≤ 0 then 1024 else sizeMiB
  let path := dir.join (Path.clean volumeID)
  let image := path.join ⟨false, ["data.img"]⟩
  match faults.ensureRoot, faults.mkdir, faults.openImage, faults.truncate, faults.marker with
  | some err, _, _, _, _ => .error ("volumes: ensure root: " ++ err)
  | none, some err, _, _, _ => .error ("volumes: mkdir " ++ path.render ++ ": " ++ err)
  | none, none, some err, _, _ => .error ("volumes: create image: " ++ err)
  | none, none, none, some err, _ => .error ("volumes: truncate " ++ image.render ++ ": " ++ err)
  | none, none, none, none, some err => .error ("volumes: write marker: " ++ err)
  | none, none, none, none, none => .ok ⟨path.render, image.render, sizeMiB⟩

/-- The table with the projects it refers to, and what was provisioned for each volume. -/
structure VolumeState where
  projects : List String
  volumes : Table Volume.id
  provisioned : List (String × Provisioned)

/-- `PutVolume`: a volume of the name in the project keeps its id and gets the new size and path. -/
def putVolume (state : VolumeState) (fault : Option String) (v : Volume) : VolumeState :=
  if fault.isSome || v.projectID ∉ state.projects then state
  else if state.volumes.rows.any (fun row => row.projectID = v.projectID && row.name = v.name) then
    { state with
      volumes := state.volumes.updateWhere
        (fun row => row.projectID = v.projectID && row.name = v.name)
        (fun row => { row with sizeMiB := v.sizeMiB, path := v.path }) (fun _ => rfl) }
  else { state with volumes := state.volumes.insertIgnore v }

structure CreateVolumeReq where
  name : String
  sizeMiB : Int
  mountPath : String

def handleCreateVolume (volMgr : Option Path) (faults : ProvisionFaults) (fault : Option String)
    (newID projectID : String) (state : VolumeState) (body : Except String CreateVolumeReq) :
    VolumeState × Response Volume :=
  match body with
  | .error err => (state, badRequest err)
  | .ok req =>
    let sizeMiB := if req.sizeMiB ≤ 0 then 1024 else req.sizeMiB
    match volMgr with
    | none =>
      let v : Volume := ⟨newID, projectID, req.name, sizeMiB, req.mountPath⟩
      (putVolume state fault v, .json statusCreated v)
    | some dir =>
      match createVolume dir faults (sanitizeID newID) sizeMiB with
      | .error err =>
        (state, .error statusInternalServerError ("failed to provision volume: " ++ err))
      | .ok made =>
        let v : Volume := ⟨newID, projectID, req.name, sizeMiB, made.path⟩
        (putVolume { state with provisioned := state.provisioned ++ [(newID, made)] } fault v,
          .json statusCreated v)

structure FCDataDrive where
  id : String
  path : String
deriving DecidableEq

structure FCVMConfig where
  vmID : String
  vcpus : Int
  memMiB : Int
  kernelPath : String
  rootfsPath : String
  dataDrives : List FCDataDrive

/-- The default artifacts, the error of `RequireMicroVMHost`, the volumes, and if their lookup
fails. -/
structure BootHost where
  kernelImage : String
  rootfsPath : String
  hostError : Option String
  state : VolumeState
  getFails : Bool

variable (host : BootHost)

def getVolume (id : String) : Option Volume :=
  if host.getFails then none else host.state.volumes.find id

def dataDrives (volumeID : String) : List FCDataDrive :=
  if volumeID = "" then []
  else
    match getVolume host volumeID with
    | some vol => if vol.path = "" then [] else [⟨"vdb", vol.path⟩]
    | none => []

def boot (vm : VM) : Except String FCVMConfig :=
  match host.hostError with
  | some err => .error err
  | none => .ok {
      vmID := vm.id
      vcpus := vm.vcpus
      memMiB := vm.memMiB
      kernelPath := if vm.kernel = "" then host.kernelImage else vm.kernel
      rootfsPath := if vm.rootfsPath = "" then host.rootfsPath else vm.rootfsPath
      dataDrives := dataDrives host vm.volumeID }

theorem boot_dataDrives (vm : VM) (p : List FCDataDrive → Prop) :
    (∀ config, boot host vm = .ok config → p config.dataDrives) ↔
      (host.hostError.isSome = true ∨ p (dataDrives host vm.volumeID)) := by
  unfold boot
  cases host.hostError <;> simp

def IsImageOf (state : VolumeState) (projectID path : String) : Prop :=
  ∃ volume ∈ state.volumes.rows, volume.projectID = projectID ∧
    ∃ entry ∈ state.provisioned, entry.1 = volume.id ∧ entry.2.image = path

instance (state : VolumeState) (projectID path : String) :
    Decidable (IsImageOf state projectID path) :=
  inferInstanceAs (Decidable (∃ volume ∈ state.volumes.rows, _ ∧
    ∃ entry ∈ state.provisioned, _ ∧ _))

theorem mem_dataDrives (volumeID : String) (drive : FCDataDrive) :
    drive ∈ dataDrives host volumeID ↔
      volumeID ≠ "" ∧ ∃ vol, getVolume host volumeID = some vol ∧ vol.path ≠ "" ∧
        drive = ⟨"vdb", vol.path⟩ := by
  unfold dataDrives
  by_cases unnamed : volumeID = ""
  · simp [unnamed]
  · cases found : getVolume host volumeID with
    | none => simp [unnamed]
    | some vol =>
      by_cases pathless : vol.path = "" <;> simp [unnamed, pathless]

end Porter.Runtime
