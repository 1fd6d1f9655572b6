import Porter.Api.Runner
import Porter.Api.SecretRuns
import Porter.Runtime.Volumes

/-!
# The drives of a new project

A create request may name a volume, and `bootReplica` copies the name into every replica without
asking whose volume it is.
-/
namespace Porter.Api.Projects

open Sql Go Store Porter.Runtime

def createdFrom (server : Server) (run : ProjectRun) (s : Session)
    (req : CreateProjectReq EnvMap) (creator : String) : List VM :=
  match refusesCreate server req with
  | some _ => []
  | none =>
    let (s, env) := s.decode req.env
    let req := acceptedReq server req env
    let proj := newProject run req creator
    bootCalls server run (fun _ => { req with image := builtImage run req })
      ⟨s.put run proj, proj, none⟩
      (if req.gitURL ≠ "" && builtImage run req = "" then [] else List.range req.replicas.toNat)

def createdVMs (server : Server) (run : ProjectRun) (s : Session) (orgHeader creator : String)
    (body : Except String (CreateProjectReq EnvMap)) : List VM :=
  match body with
  | .error _ => []
  | .ok req =>
    let req := if req.orgID = "" then { req with orgID := orgHeader } else req
    createdFrom server run s req creator

/-- The create request is accepted, and its image, or that of its build, is bootable. -/
def bootsReplicas (server : Server) (run : ProjectRun)
    (body : Except String (CreateProjectReq EnvMap)) : Bool :=
  match body with
  | .error _ => false
  | .ok req =>
    (refusesCreate server req).isNone &&
      (if req.gitURL ≠ "" then run.build.1 ≠ "" && bootable server run.build.1
        else bootable server (requestedImage server req))

variable (server : Server) (run : ProjectRun)

theorem mem_bootCalls {server : Server} {run : ProjectRun} {req : CreateProjectReq Ref}
    {boot : Boot} {indices : List Nat} {vm : VM}
    (called : vm ∈ bootCalls server run (fun _ => req) boot indices) :
    vm.volumeID = req.volumeID ∧ vm.projectID = boot.proj.id := by
  refine bootCalls_forall (fun other => other.proj.id = boot.proj.id)
    (fun vm => vm.volumeID = req.volumeID ∧ vm.projectID = boot.proj.id) ?_ ?_ rfl vm called
  · intro other idx _ same
    rw [proj_id_bootReplica, same]
  · intro other idx _ same
    exact ⟨preparedVM_volumeID .., (preparedVM_projectID ..).trans same⟩

theorem bootCalls_ne_nil (req : CreateProjectReq Ref) (boot : Boot) (indices : List Nat) :
    bootCalls server run (fun _ => req) boot indices ≠ [] ↔
      indices ≠ [] ∧ bootable server req.image = true := by
  rw [ne_eq, bootCalls_eq_nil_iff (fun _ _ => rfl), not_or, Bool.not_eq_false]

theorem mem_createdFrom {server : Server} {run : ProjectRun} {s : Session}
    {req : CreateProjectReq EnvMap} {creator : String} {vm : VM}
    (created : vm ∈ createdFrom server run s req creator) :
    vm.volumeID = req.volumeID ∧ vm.projectID = run.newID := by
  unfold createdFrom at created
  split at created
  · cases created
  · exact mem_bootCalls created

theorem mem_createdVMs {server : Server} {run : ProjectRun} {s : Session}
    {orgHeader creator : String} {req : CreateProjectReq EnvMap} {vm : VM}
    (created : vm ∈ createdVMs server run s orgHeader creator (.ok req)) :
    vm.volumeID = req.volumeID ∧ vm.projectID = run.newID := by
  unfold createdVMs at created
  simp only at created
  split at created
  · have kept := mem_createdFrom created
    exact kept
  · exact mem_createdFrom created

theorem createdFrom_ne_nil (s : Session) (req : CreateProjectReq EnvMap) (creator : String) :
    createdFrom server run s req creator ≠ [] ↔ bootsReplicas server run (.ok req) = true := by
  unfold createdFrom bootsReplicas
  cases refused : refusesCreate server req with
  | some refusal => simp [refused]
  | none =>
    simp only [bootCalls_ne_nil, refused, Option.isNone_none, Bool.true_and]
    have positive : (if req.replicas < 1 then (1 : Int) else req.replicas).toNat ≠ 0 := by
      split <;> omega
    by_cases git : req.gitURL = ""
    · simp [acceptedReq, builtImage, git, positive]
    · by_cases built : run.build.1 = "" <;>
        simp [acceptedReq, builtImage, git, built, positive]

theorem createdVMs_ne_nil (s : Session) (orgHeader creator : String)
    (body : Except String (CreateProjectReq EnvMap)) :
    createdVMs server run s orgHeader creator body ≠ [] ↔
      bootsReplicas server run body = true := by
  cases body with
  | error err => simp [createdVMs, bootsReplicas]
  | ok req =>
    unfold createdVMs
    simp only
    split
    · exact createdFrom_ne_nil _ _ s { req with orgID := orgHeader } creator
    · exact createdFrom_ne_nil _ _ s _ _

theorem mem_getVolume (host : BootHost) (volumeID : String) (vol : Volume) :
    getVolume host volumeID = some vol ↔
      host.getFails = false ∧ vol ∈ host.state.volumes.rows ∧ vol.id = volumeID := by
  unfold getVolume
  split
  · simp_all
  · simp_all [Table.find_eq_some]

theorem dataDrives_isolated_iff (host : BootHost) (volumeID projectID : String) :
    (∀ drive ∈ dataDrives host volumeID, IsImageOf host.state projectID drive.path) ↔
      host.getFails = true ∨ volumeID = "" ∨
        ∀ vol ∈ host.state.volumes.rows, vol.id = volumeID →
          vol.path = "" ∨ IsImageOf host.state projectID vol.path := by
  constructor
  · intro isolated
    by_cases fails : host.getFails = true
    · exact Or.inl fails
    · by_cases unnamed : volumeID = ""
      · exact Or.inr (Or.inl unnamed)
      · refine Or.inr (Or.inr fun vol stored named => ?_)
        by_cases pathless : vol.path = ""
        · exact Or.inl pathless
        · have found := (mem_getVolume _ _ _).mpr ⟨by simpa using fails, stored, named⟩
          exact Or.inr (isolated ⟨"vdb", vol.path⟩
            ((mem_dataDrives _ _ _).mpr ⟨unnamed, vol, found, pathless, rfl⟩))
  · intro safe drive attached
    obtain ⟨unnamed, vol, found, pathless, rfl⟩ := (mem_dataDrives _ _ _).mp attached
    obtain ⟨reads, stored, named⟩ := (mem_getVolume _ _ _).mp found
    rcases safe with fails | empty | backed
    · simp [reads] at fails
    · exact absurd empty unnamed
    · exact (backed vol stored named).resolve_left pathless

def acmeID : String := "3f333df6-90a4-4fda-8dd3-9485d27cee36"

def acmeVolume : String := "c56a4180-65aa-42ec-a945-5fd21dec0538"

def acmeHost : BootHost where
  kernelImage := "/images/vmlinux"
  rootfsPath := ""
  hostError := none
  state := (handleCreateVolume (some (Path.clean "/var/lib/porter/volumes")) ProvisionFaults.clean
    none acmeVolume acmeID ⟨[acmeID], Table.empty _, []⟩ (.ok ⟨"data", 1024, ""⟩)).1
  getFails := false

theorem putVolume_iff {state : VolumeState} {v : Volume} (owned : v.projectID ∈ state.projects)
    (fresh : ∀ row ∈ state.volumes.rows, row.id ≠ v.id) (p : Volume → Prop) :
    (∃ row ∈ (putVolume state none v).volumes.rows, row.id = v.id ∧ p row) ↔
      p v ∧ ∀ row ∈ state.volumes.rows, ¬(row.projectID = v.projectID ∧ row.name = v.name) := by
  unfold putVolume
  rw [if_neg (by simp [owned])]
  split
  · next taken =>
    obtain ⟨other, stored, same⟩ := List.any_eq_true.mp taken
    simp only [Bool.and_eq_true, decide_eq_true_eq] at same
    refine iff_of_false ?_ fun free => free.2 other stored same
    rintro ⟨row, member, named, -⟩
    obtain ⟨old, before, rfl⟩ := List.mem_map.mp member
    refine fresh old before ?_
    split at named <;> exact named
  · next free =>
    have unnamed : ∀ row ∈ state.volumes.rows,
        ¬(row.projectID = v.projectID ∧ row.name = v.name) := by simpa using free
    simp only [Table.mem_insertIgnore]
    constructor
    · rintro ⟨row, old | ⟨rfl, -⟩, named, holds⟩
      · exact absurd named (fresh row old)
      · exact ⟨holds, unnamed⟩
    · exact fun holds => ⟨v, Or.inr ⟨rfl, fresh⟩, rfl, holds.1⟩

theorem putSecret_iff {db next : ProjectDb} {secret : Secret}
    (stored : putSecret db none secret = .ok next)
    (fresh : ∀ row ∈ db.secrets.rows, row.id ≠ secret.id) :
    (∃ row ∈ next.secrets.rows, row.id = secret.id) ↔
      ∀ row ∈ db.secrets.rows, row.slot ≠ secret.slot := by
  have table : next.secrets = db.secrets.upsert secret secret.reseal secret.reseal_slot := by
    unfold putSecret at stored
    simp only at stored
    split at stored
    · contradiction
    · split at stored
      · obtain rfl := Except.ok.inj stored
        rfl
      · contradiction
  rw [table, ← Table.find_eq_none]
  have found := Table.find_upsert_self db.secrets secret secret.reseal secret.reseal_slot
  cases held : db.secrets.find secret.slot with
  | none =>
    rw [held] at found
    exact iff_of_true ⟨secret, ((Table.find_eq_some _ _ _).mp found).1, rfl⟩ rfl
  | some old =>
    refine iff_of_false ?_ (Option.some_ne_none old)
    have before := ((Table.find_eq_some _ _ _).mp held).1
    rintro ⟨row, member, named⟩
    rcases Table.of_mem_upsert member with kept | rfl | ⟨other, stored, -, rfl⟩
    · exact fresh row kept named
    · have same := (Table.find_eq_some _ _ _).mpr ⟨member, rfl⟩
      rw [found, held, Option.map_some, Option.getD_some] at same
      have ids : (row.reseal old).id = row.id := congrArg Secret.id (Option.some.inj same)
      exact fresh old before ids
    · exact fresh other stored named

theorem handleCreateVolume_created {volMgr : Option Path} {faults : ProvisionFaults}
    {newID projectID : String} {state next : VolumeState} {body : Except String CreateVolumeReq}
    {v : Volume} (answered : handleCreateVolume volMgr faults none newID projectID state body =
      (next, .json statusCreated v)) :
    (∃ made, next = putVolume { state with provisioned := made } none v) ∧ v.id = newID ∧
      v.projectID = projectID ∧ ∀ dir, volMgr = some dir →
        v.path = (dir.join (Path.clean (sanitizeID v.id))).render := by
  unfold handleCreateVolume at answered
  split at answered
  · exact nomatch (Prod.mk.inj answered).2
  · dsimp only at answered
    split at answered
    · obtain ⟨rfl, rest⟩ := Prod.mk.inj answered
      obtain ⟨-, rfl⟩ := Response.json.inj rest
      exact ⟨⟨_, rfl⟩, rfl, rfl, nofun⟩
    · split at answered
      · exact nomatch (Prod.mk.inj answered).2
      · next dir _ made provisioned =>
        obtain ⟨rfl, rest⟩ := Prod.mk.inj answered
        obtain ⟨-, rfl⟩ := Response.json.inj rest
        refine ⟨⟨_, rfl⟩, rfl, rfl, ?_⟩
        rintro _ ⟨⟩
        obtain ⟨_ | _, _ | _, _ | _, _ | _, _ | _⟩ := faults <;> cases provisioned
        rfl

/-- A created id is that of a row, and a volume's row has the directory provisioned for the id,
exactly if the project has no volume or secret of the name yet. -/
theorem created_ids_iff (volMgr : Option Path) (faults : ProvisionFaults)
    (newID projectID : String) (state : VolumeState) (body : Except String CreateVolumeReq)
    (owned : projectID ∈ state.projects) (fresh : ∀ row ∈ state.volumes.rows, row.id ≠ newID)
    (box : Secretbox) (key : String) (run : ProjectRun) (s : Session)
    (clean : run.write s.writes = none) (unused : ∀ row ∈ s.db.secrets.rows, row.id ≠ run.newID)
    (secretBody : Except String (String × String)) :
    (∀ next v, handleCreateVolume volMgr faults none newID projectID state body =
        (next, .json statusCreated v) →
      ((∃ row ∈ next.volumes.rows, row.id = v.id ∧ ∀ dir, volMgr = some dir →
          row.path = (dir.join (Path.clean (sanitizeID v.id))).render) ↔
        ∀ row ∈ state.volumes.rows, ¬(row.projectID = projectID ∧ row.name = v.name))) ∧
    ∀ next id name, handleCreateSecret box key run s projectID secretBody =
        (next, .json statusCreated (.secret id name)) →
      ((∃ row ∈ next.db.secrets.rows, row.id = id) ↔
        ∀ row ∈ s.db.secrets.rows, ¬(row.projectID = projectID ∧ row.name = name)) := by
  constructor
  · intro next v answered
    obtain ⟨⟨made, rfl⟩, rfl, rfl, path⟩ := handleCreateVolume_created answered
    exact (putVolume_iff (by exact owned) (by exact fresh) _).trans (and_iff_right path)
  · intro next id name answered
    unfold handleCreateSecret at answered
    split at answered
    · exact nomatch (Prod.mk.inj answered).2
    · split at answered
      · exact nomatch (Prod.mk.inj answered).2
      · split at answered
        · exact nomatch (Prod.mk.inj answered).2
        · split at answered
          · exact nomatch (Prod.mk.inj answered).2
          · split at answered
            · exact nomatch (Prod.mk.inj answered).2
            · next stored =>
              obtain ⟨rfl, rest⟩ := Prod.mk.inj answered
              obtain ⟨rfl, rfl⟩ := ProjectReply.secret.inj (Response.json.inj rest).2
              rw [clean] at stored
              rw [putSecret_iff stored unused]
              simp [Secret.slot]

theorem created_ids_iff_acme :
    ∃ row ∈ acmeHost.state.volumes.rows, row.id = acmeVolume := by
  have created := (created_ids_iff (some (Path.clean "/var/lib/porter/volumes")) .clean acmeVolume
    acmeID ⟨[acmeID], .empty _, []⟩ (.ok ⟨"data", 1024, ""⟩) (by simp) nofun shopServer.box ""
    shopRun (Session.start ProjectDb.empty []) rfl nofun (.error "")).1 _ _ rfl
  obtain ⟨row, member, named, -⟩ := created.mpr nofun
  exact ⟨row, member, named⟩

/-- A second volume of the name is answered with an id that no row has. -/
theorem created_volume_missing :
    let (after, answer) := handleCreateVolume none .clean none shopID acmeID acmeHost.state
      (.ok ⟨"data", 1024, "/data"⟩)
    answer = .json statusCreated ⟨shopID, acmeID, "data", 1024, "/data"⟩ ∧
      after.volumes.find shopID = none := by
  decide +kernel

end Porter.Api.Projects
