import Porter.Api.Secrecy

/-!
# The replica `bootReplica` prepares

Between the request and the runner a replica gets the artifacts of its image.
-/
namespace Porter.Api.Projects

open Sql Go Store

variable (server : Server)

def preparedVM (run : ProjectRun) (boot : Boot) (req : CreateProjectReq Ref) (idx : Nat) : VM :=
  let (s, env) := injectSecrets server run boot req.env idx
  withKernel server (applyImageManifest server (newReplica run boot req (s.heap.read env) idx))

variable (image : String)

def registered : String × String :=
  match server.goldenImages.find? (fun gi =>
    gi.image = image || gi.name = image ||
      gi.image = "custom://" ++ trimPrefix image "custom://") with
  | some gi => (gi.rootfs, gi.kernel)
  | none =>
    match (server.catalog.getD []).find? (fun m =>
      m.image = image || m.id = image || m.name = image) with
    | some m => (m.rootfs, m.kernel)
    | none => ("", "")

def artifacts : String × String :=
  let found := registered server image
  (found.1, if found.2 = "" then server.hostConfig.elim "" (·.kernelImage) else found.2)

def bootable : Bool :=
  (artifacts server image).1 ≠ "" && (artifacts server image).2 ≠ "" &&
    (server.validateArtifacts (artifacts server image).1 (artifacts server image).2).isNone

variable (server : Server) (run : ProjectRun) (boot : Boot) (req : CreateProjectReq Ref) (idx : Nat)

theorem bootReplica_eq :
    bootReplica server run boot req idx =
      match bootError server (preparedVM server run boot req idx) with
      | some error =>
        { boot with
          session := (injectSecrets server run boot req.env idx).1.putVM run
            { preparedVM server run boot req idx with state := .failed, error := error } }
      | none =>
        joinPool run boot
          ((injectSecrets server run boot req.env idx).1.putVM run
            (preparedVM server run boot req idx))
          (preparedVM server run boot req idx).id := rfl

variable (vm : VM)

theorem applyImageManifest_artifacts (rootless : vm.rootfsPath = "") (kernelless : vm.kernel = "") :
    ((applyImageManifest server vm).rootfsPath, (applyImageManifest server vm).kernel) =
      registered server vm.image := by
  unfold applyImageManifest registered
  cases server.goldenImages.find? (fun gi => gi.image = vm.image || gi.name = vm.image ||
    gi.image = "custom://" ++ trimPrefix vm.image "custom://") with
  | some gi => rfl
  | none =>
    cases (server.catalog.getD []).find? (fun m => m.image = vm.image || m.id = vm.image ||
      m.name = vm.image) with
    | some m => rfl
    | none => exact Prod.ext rootless kernelless

theorem withKernel_artifacts :
    (withKernel server vm).rootfsPath = vm.rootfsPath ∧
      (withKernel server vm).kernel =
        if vm.kernel = "" then server.hostConfig.elim "" (·.kernelImage) else vm.kernel := by
  unfold withKernel
  cases server.hostConfig with
  | none | some => by_cases missing : vm.kernel = "" <;> simp [missing]

theorem booted_artifacts (rootless : vm.rootfsPath = "") (kernelless : vm.kernel = "") :
    (withKernel server (applyImageManifest server vm)).rootfsPath =
        (artifacts server vm.image).1 ∧
      (withKernel server (applyImageManifest server vm)).kernel =
        (artifacts server vm.image).2 := by
  have found := applyImageManifest_artifacts server vm rootless kernelless
  rw [Prod.ext_iff] at found
  have kept := withKernel_artifacts server (applyImageManifest server vm)
  have kernel : (applyImageManifest server vm).kernel = (registered server vm.image).2 := found.2
  refine ⟨kept.1.trans found.1, kept.2.trans ?_⟩
  rw [kernel]
  rfl

theorem preparedVM_eq :
    ∃ rootfs kernel vcpus memMiB, preparedVM server run boot req idx =
      { newReplica run boot req ((injectSecrets server run boot req.env idx).1.heap.read
          (injectSecrets server run boot req.env idx).2) idx with
        rootfsPath := rootfs, kernel := kernel, vcpus := vcpus, memMiB := memMiB } := by
  have imaged : ∀ vm : VM, ∃ rootfs kernel vcpus memMiB, applyImageManifest server vm =
      { vm with rootfsPath := rootfs, kernel := kernel, vcpus := vcpus, memMiB := memMiB } := by
    intro vm
    unfold applyImageManifest withImage
    split
    · exact ⟨_, _, _, _, rfl⟩
    · split
      · exact ⟨_, _, _, _, rfl⟩
      · exact ⟨vm.rootfsPath, vm.kernel, vm.vcpus, vm.memMiB, rfl⟩
  obtain ⟨rootfs, kernel, vcpus, memMiB, found⟩ := imaged (newReplica run boot req
    ((injectSecrets server run boot req.env idx).1.heap.read
      (injectSecrets server run boot req.env idx).2) idx)
  unfold preparedVM
  simp only [found]
  unfold withKernel
  split
  · split
    · exact ⟨rootfs, _, vcpus, memMiB, rfl⟩
    · exact ⟨rootfs, kernel, vcpus, memMiB, rfl⟩
  · exact ⟨rootfs, kernel, vcpus, memMiB, rfl⟩

@[simp] theorem preparedVM_volumeID :
    (preparedVM server run boot req idx).volumeID = req.volumeID := by
  obtain ⟨rootfs, kernel, vcpus, memMiB, same⟩ := preparedVM_eq _ _ _ _ _
  rw [same]
  rfl

@[simp] theorem preparedVM_projectID :
    (preparedVM server run boot req idx).projectID = boot.proj.id := by
  obtain ⟨rootfs, kernel, vcpus, memMiB, same⟩ := preparedVM_eq _ _ _ _ _
  rw [same]
  rfl

@[simp] theorem preparedVM_id : (preparedVM server run boot req idx).id = run.vmID idx := by
  obtain ⟨rootfs, kernel, vcpus, memMiB, same⟩ := preparedVM_eq _ _ _ _ _
  rw [same]
  rfl

@[simp] theorem preparedVM_replicaIndex :
    (preparedVM server run boot req idx).replicaIndex = idx := by
  obtain ⟨rootfs, kernel, vcpus, memMiB, same⟩ := preparedVM_eq _ _ _ _ _
  rw [same]
  rfl

theorem bootError_preparedVM :
    bootError server (preparedVM server run boot req idx) = none ↔
      bootable server req.image = true := by
  have found : (preparedVM server run boot req idx).rootfsPath = (artifacts server req.image).1 ∧
      (preparedVM server run boot req idx).kernel = (artifacts server req.image).2 :=
    booted_artifacts server (newReplica run boot req _ idx) rfl rfl
  unfold bootError bootable
  rw [found.1, found.2]
  by_cases missing : (artifacts server req.image).1 = "" ∨ (artifacts server req.image).2 = ""
  · rcases missing with missing | missing <;> simp [missing]
  · rw [not_or] at missing
    simp [missing.1, missing.2]

def Boot.pool (boot : Boot) : List String := boot.deployment.elim boot.proj.vmIDs (·.vmIDs)

theorem pool_joinPool (s : Session) (id : String) :
    (joinPool run boot s id).pool = boot.pool ++ [id] := by
  obtain ⟨session, proj, deployment⟩ := boot
  cases deployment with
  | none => rfl
  | some d => exact vmIDs_withWeights _

theorem proj_bootReplica :
    ∃ ids, (bootReplica server run boot req idx).proj = { boot.proj with vmIDs := ids } := by
  unfold bootReplica
  simp only
  split
  · exact ⟨boot.proj.vmIDs, rfl⟩
  · unfold joinPool
    split
    · exact ⟨boot.proj.vmIDs, rfl⟩
    · exact ⟨_, rfl⟩

theorem proj_id_bootReplica : (bootReplica server run boot req idx).proj.id = boot.proj.id := by
  obtain ⟨ids, same⟩ := proj_bootReplica _ _ _ _ _
  rw [same]

theorem deployment_bootReplica :
    (bootReplica server run boot req idx).deployment.isSome = boot.deployment.isSome := by
  unfold bootReplica
  simp only
  split
  · rfl
  · unfold joinPool
    split
    · rename_i shared
      rw [shared]
      rfl
    · rename_i shared
      rw [shared]

theorem bootReplicas_keeps (req : Boot → CreateProjectReq Ref) (boot : Boot) (indices : List Nat) :
    (∃ ids, (bootReplicas server run req boot indices).proj = { boot.proj with vmIDs := ids }) ∧
      (bootReplicas server run req boot indices).deployment.isSome = boot.deployment.isSome := by
  induction indices generalizing boot with
  | nil => exact ⟨⟨boot.proj.vmIDs, rfl⟩, rfl⟩
  | cons idx rest recurse =>
    obtain ⟨⟨ids, later⟩, shared⟩ := recurse (bootReplica server run boot (req boot) idx)
    obtain ⟨first, here⟩ := proj_bootReplica _ _ _ (req boot) idx
    refine ⟨⟨ids, later.trans ?_⟩, shared.trans (deployment_bootReplica ..)⟩
    rw [here]

end Porter.Api.Projects
