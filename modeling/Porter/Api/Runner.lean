import Porter.Api.DeploymentWrites

/-!
# The calls to the VM runner

Handlers ask the VM runner to boot, stop, restart and delete virtual machines.
-/
namespace Porter.Api.Projects

open Sql Go Store

inductive RunnerCall where
  | boot (vm : VM)
  | stop (vm : VM)
  | restart (vm : VM)
  | delete (vm : VM)

def RunnerCall.vm : RunnerCall → VM
  | .boot vm | .stop vm | .restart vm | .delete vm => vm

def bootCall (server : Server) (run : ProjectRun) (boot : Boot) (req : CreateProjectReq Ref)
    (idx : Nat) : Option VM :=
  match bootError server (preparedVM server run boot req idx) with
  | some _ => none
  | none => some (preparedVM server run boot req idx)

def bootCalls (server : Server) (run : ProjectRun) (req : Boot → CreateProjectReq Ref) :
    Boot → List Nat → List VM
  | _, [] => []
  | boot, idx :: rest =>
    (bootCall server run boot (req boot) idx).toList ++
      bootCalls server run req (bootReplica server run boot (req boot) idx) rest

def storedVM (server : Server) (run : ProjectRun) (boot : Boot) (req : CreateProjectReq Ref)
    (idx : Nat) : VM :=
  match bootError server (preparedVM server run boot req idx) with
  | some error => { preparedVM server run boot req idx with state := .failed, error := error }
  | none => preparedVM server run boot req idx

section One

variable (server : Server) (run : ProjectRun) (boot : Boot) (req : CreateProjectReq Ref) (idx : Nat)

@[simp] theorem preparedVM_ports : (preparedVM server run boot req idx).ports = req.ports := by
  obtain ⟨rootfs, kernel, vcpus, memMiB, same⟩ := preparedVM_eq server run boot req idx
  rw [same]
  rfl

theorem storedVM_eq : ∃ state error,
    storedVM server run boot req idx =
      { preparedVM server run boot req idx with state := state, error := error } := by
  unfold storedVM
  split
  · exact ⟨_, _, rfl⟩
  · exact ⟨(preparedVM server run boot req idx).state,
      (preparedVM server run boot req idx).error, rfl⟩

@[simp] theorem storedVM_id : (storedVM server run boot req idx).id = run.vmID idx := by
  obtain ⟨state, error, same⟩ := storedVM_eq server run boot req idx
  rw [same]
  exact preparedVM_id server run boot req idx

@[simp] theorem storedVM_projectID :
    (storedVM server run boot req idx).projectID = boot.proj.id := by
  obtain ⟨state, error, same⟩ := storedVM_eq server run boot req idx
  rw [same]
  exact preparedVM_projectID server run boot req idx

@[simp] theorem storedVM_replicaIndex : (storedVM server run boot req idx).replicaIndex = idx := by
  obtain ⟨state, error, same⟩ := storedVM_eq server run boot req idx
  rw [same]
  exact preparedVM_replicaIndex server run boot req idx

@[simp] theorem storedVM_ports : (storedVM server run boot req idx).ports = req.ports := by
  obtain ⟨state, error, same⟩ := storedVM_eq server run boot req idx
  rw [same]
  exact preparedVM_ports server run boot req idx

theorem replicas_bootReplica : ∃ n, (bootReplica server run boot req idx).session.db.replicas =
    (Store.putVM boot.session.db (run.write n) (storedVM server run boot req idx)).replicas := by
  have same := @db_injectSecrets run server boot req.env idx
  refine ⟨(injectSecrets server run boot req.env idx).1.writes, ?_⟩
  rw [bootReplica_eq]
  unfold storedVM
  cases bootError server (preparedVM server run boot req idx) with
  | some error =>
    simp only [Session.putVM, same]
  | none =>
    simp only
    unfold joinPool
    split
    · rw [← same]
      exact (replicas_putProject _ _ _).trans (replicas_createDeployment _ _ _)
    · rw [← same]
      exact replicas_putProject _ _ _

theorem hasProject_bootReplica {projectID : String}
    (stored : boot.session.db.hasProject projectID = true) :
    (bootReplica server run boot req idx).session.db.hasProject projectID = true :=
  (bootReplica_statements server run boot req idx).1.grows.projects projectID stored

theorem bootCall_eq : bootCall server run boot req idx =
    if bootable server req.image then some (preparedVM server run boot req idx) else none := by
  have decides := bootError_preparedVM server run boot req idx
  unfold bootCall
  cases failed : bootError server (preparedVM server run boot req idx) with
  | some error =>
    rw [failed] at decides
    have unbootable : ¬ bootable server req.image = true := fun boots => nomatch decides.mpr boots
    rw [if_neg unbootable]
  | none => rw [if_pos (decides.mp failed)]

end One

section Loop

variable {server : Server} {run : ProjectRun} {req : Boot → CreateProjectReq Ref}

theorem bootReplicas_cons (boot : Boot) (idx : Nat) (rest : List Nat) :
    bootReplicas server run req boot (idx :: rest) =
      bootReplicas server run req (bootReplica server run boot (req boot) idx) rest := rfl

theorem isSome_getVM_bootReplicas (boot : Boot) (indices : List Nat) {id : String}
    (stored : (getVM boot.session.db id).isSome = true) :
    (getVM (bootReplicas server run req boot indices).session.db id).isSome = true := by
  induction indices generalizing boot with
  | nil => exact stored
  | cons idx rest recurse =>
    apply recurse (bootReplica server run boot (req boot) idx)
    obtain ⟨n, written⟩ := replicas_bootReplica server run boot (req boot) idx
    unfold getVM
    rw [written]
    exact isSome_getVM_putVM _ _ stored

variable {indices : List Nat} {boot : Boot}

theorem bootCalls_forall (inv : Boot → Prop) (holds : VM → Prop)
    (keeps : ∀ boot, ∀ idx ∈ indices, inv boot → inv (bootReplica server run boot (req boot) idx))
    (gives : ∀ boot, ∀ idx ∈ indices, inv boot → holds (preparedVM server run boot (req boot) idx))
    (start : inv boot) : ∀ vm ∈ bootCalls server run req boot indices, holds vm := by
  induction indices generalizing boot with
  | nil =>
    intro vm member
    cases member
  | cons idx rest recurse =>
    intro vm member
    rcases List.mem_append.mp member with here | later
    · rw [bootCall_eq] at here
      split at here
      · rw [Option.toList_some, List.mem_singleton] at here
        rw [here]
        exact gives boot idx List.mem_cons_self start
      · cases here
    · exact recurse (fun boot i listed => keeps boot i (List.mem_cons_of_mem idx listed))
        (fun boot i listed => gives boot i (List.mem_cons_of_mem idx listed))
        (keeps boot idx List.mem_cons_self start) vm later

theorem of_mem_bootCalls {vm : VM} (member : vm ∈ bootCalls server run req boot indices) :
    vm.projectID = boot.proj.id ∧ ∃ idx ∈ indices, vm.id = run.vmID idx := by
  refine bootCalls_forall (fun other => other.proj.id = boot.proj.id)
    (fun vm => vm.projectID = boot.proj.id ∧ ∃ idx ∈ indices, vm.id = run.vmID idx)
    ?_ ?_ rfl vm member
  · intro other idx _ same
    rw [proj_id_bootReplica, same]
  · intro other idx listed same
    exact ⟨(preparedVM_projectID ..).trans same, idx, listed, preparedVM_id ..⟩

theorem bootCalls_eq_nil_iff {image : String}
    (reqs : ∀ other : Boot, other.proj.image = boot.proj.image → (req other).image = image) :
    bootCalls server run req boot indices = [] ↔
      indices = [] ∨ bootable server image = false := by
  induction indices generalizing boot with
  | nil => simp [bootCalls]
  | cons idx rest recurse =>
    obtain ⟨ids, proj⟩ := proj_bootReplica server run boot (req boot) idx
    have later : bootCalls server run req (bootReplica server run boot (req boot) idx) rest = [] ↔
        rest = [] ∨ bootable server image = false :=
      recurse (fun other same => reqs other (by rw [same, proj]))
    rw [bootCalls, bootCall_eq, reqs boot rfl, List.append_eq_nil_iff, later]
    cases bootable server image with
    | true | false => simp

end Loop

end Porter.Api.Projects
