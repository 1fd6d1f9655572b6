import Porter.Controller.Replicas
import Porter.Runtime.NetSpec

/-!
# What the replica controller records

A cycle writes the address of a VM it has booted into its row, as the network the runtime gave it.
-/
namespace Porter.Controller

open Go Netmgr Run Porter.Runtime Sql Store

variable {out : Outcomes} {vm : Replica} {db : ReplicaDb}

def Bare (address : String) : Prop := (parseIP address).isSome = true

def NetSpecAnswers (out : Outcomes) (vm : Replica) : Prop :=
  ∃ m run, Numbered m ∧
    out.netSpec = (VMManager.netSpec m run ⟨vm.id, vm.projectID, vm.replicaIndex⟩).2

theorem not_bare_cidr {spec : BootSpec} (answers : NetSpecAnswers out vm)
    (given : out.netSpec = .ok spec) : ¬ Bare spec.cidr := by
  obtain ⟨m, run, numbered, same⟩ := answers
  obtain ⟨n, small, subnet⟩ := (numbered.subnetFor vm.projectID).2
  have addressed := netSpec_ok small subnet (same ▸ given)
  have refused : parseIP spec.cidr = none := by
    cases addressed with
    | beside i same limit mode cidr gateway => rw [cidr, slash_24, parseIP_network]
    | own i same limit mode cidr gateway => rw [cidr, slash_30, parseIP_network]
  simp [Bare, refused]

theorem bare_lastWritten (answers : NetSpecAnswers out vm) (before : vm.state ≠ .running)
    (after : (lastWritten vm (reconcile out vm)).state = .running) :
    Bare (lastWritten vm (reconcile out vm)).ipAddress ↔
      vm.state ≠ .pending ∧ Bare vm.ipAddress := by
  by_cases pending : vm.state = .pending
  · have course : reconcile out vm = reconcilePending out vm := by simp only [reconcile, pending]
    rw [course] at after ⊢
    unfold reconcilePending at after ⊢
    cases given : out.netSpec with
    | error err =>
      rw [given] at after
      cases after
    | ok spec =>
      rw [given] at after
      cases failed : out.boot with
      | some err =>
        rw [failed] at after
        cases after
      | none =>
        refine iff_of_false (not_bare_cidr answers given) ?_
        exact fun other => other.1 pending
  · have course := reconcile_course out vm
    generalize reconcile out vm = actions at course after
    cases course with
    | promoted => exact (and_iff_right pending).symm
    | restored => exact (and_iff_right pending).symm
    | unallocated | unbooted | unhealthy | stopped | retried | unrestored => cases after
    | booted cidr state => exact absurd state pending
    | healthy state check => exact absurd state before
    | unstopped | deleted | idle => exact absurd after before

/-- A VM that a cycle makes running has an address to dial exactly if the cycle has not booted it
and it had one before. -/
theorem running_address_iff (db : ReplicaDb) (listing : RowsFault) (outcomes : String → Outcomes)
    (vm row : Replica) (stored : db.replicas.find vm.id = some vm) (before : vm.state ≠ .running)
    (answers : NetSpecAnswers (outcomes vm.id) vm)
    (written : (reconcileAll db listing outcomes).replicas.find vm.id = some row)
    (after : row.state = .running) :
    Bare row.ipAddress ↔ vm.state ≠ .pending ∧ Bare vm.ipAddress := by
  rcases find_reconcileAll _ _ _ _ with same | ⟨old, found, reconciled⟩
  · rw [same, stored] at written
    exact absurd (Option.some.inj written ▸ after) before
  · obtain rfl : vm = old := Option.some.inj (stored.symm.trans found)
    obtain rfl := Option.some.inj (reconciled.symm.trans written)
    exact bare_lastWritten answers before after

def networked : Outcomes :=
  { sound with netSpec := ((newVMManager false).netSpec .linux ⟨"vm-1", "p", 0⟩).2 }

theorem networked_answers : NetSpecAnswers networked createdVM :=
  ⟨newVMManager false, .linux, fun _ stored => absurd stored List.not_mem_nil, rfl⟩

def bootedVM : Replica := { createdVM with state := .running, ipAddress := "10.42.0.10/24" }

theorem find_bootedVM :
    (reconcileAll createdDb .clean (fun _ => networked)).replicas.find "vm-1" = some bootedVM := rfl

theorem running_address_iff_booted :
    Bare bootedVM.ipAddress ↔ createdVM.state ≠ .pending ∧ Bare createdVM.ipAddress :=
  running_address_iff createdDb .clean (fun _ => networked) createdVM bootedVM (by decide)
    (by decide) networked_answers find_bootedVM rfl

theorem booted_address_not_bare :
    NetSpecAnswers networked createdVM ∧ stateOf createdDb "vm-1" = some .pending ∧
      (reconcileAll createdDb .clean (fun _ => networked)).replicas.find "vm-1" = some bootedVM ∧
      bootedVM.state = .running ∧ parseIP bootedVM.ipAddress = none :=
  ⟨networked_answers, by decide, find_bootedVM, rfl, by decide⟩

/-- The state in `micro_vms` after `Reconcile`: `UpsertMicroVM` after a boot, `SetMicroVMState`
after a failed probe or a stop, and `DeleteMicroVM`. -/
def microAfter (out : Outcomes) (vm : Replica) (micro : Option VMState) : Option VMState :=
  match vm.state with
  | .pending =>
    match out.netSpec, out.boot with
    | .ok _, none => some .running
    | _, _ => micro
  | .running =>
    if vm.healthcheck.isNone then micro
    else if !probes out vm then micro.map (fun _ => .failed)
    else micro
  | .stopping => if out.stop.isNone then micro.map (fun _ => .stopped) else micro
  | .deleting | .deleted => none
  | .booting | .stopped | .failed => micro

structure Records where
  db : ReplicaDb
  micro : String → Option VMState

def microOne (outcomes : String → Outcomes) (micro : String → Option VMState) (vm : Replica) :
    String → Option VMState :=
  Function.update micro vm.id (microAfter (outcomes vm.id) vm (micro vm.id))

def Records.pass (s : Records) (listing : RowsFault) (outcomes : String → Outcomes) : Records where
  db := reconcileAll s.db listing outcomes
  micro := (s.db.listVMs listing).foldl (microOne outcomes) s.micro

def WritesMicro (out : Outcomes) (vm : Replica) : Prop :=
  vm.state = .pending ∧ (∃ spec, out.netSpec = .ok spec) ∧ out.boot = none ∨
    vm.state = .running ∧ vm.healthcheck.isNone = false ∧ probes out vm = false ∨
    vm.state = .stopping ∧ out.stop = none

def Compared (state : VMState) : Prop := state = .running ∨ state = .stopped ∨ state = .failed

theorem microAfter_eq_iff {micro : VMState}
    (settled : Compared (lastWritten vm (reconcile out vm)).state) :
    microAfter out vm (some micro) = some (lastWritten vm (reconcile out vm)).state ↔
      WritesMicro out vm ∨ micro = (lastWritten vm (reconcile out vm)).state := by
  unfold reconcile microAfter WritesMicro at *
  cases state : vm.state with
  | pending =>
    simp only [state, reconcilePending] at settled ⊢
    cases out.netSpec with
    | error err => simp [lastWritten]
    | ok spec => cases out.boot <;> simp [lastWritten]
  | running =>
    simp only [state, reconcileRunning] at settled ⊢
    cases checked : vm.healthcheck.isNone with
    | true => simp [lastWritten, state]
    | false =>
      cases probed : probes out vm with
      | false => simp [lastWritten]
      | true => by_cases healthy : vm.healthStatus = .healthy <;> simp [lastWritten, state, healthy]
  | stopping =>
    simp only [state, reconcileStopping] at settled ⊢
    cases out.stop <;> simp [lastWritten]
  | booting | stopped | failed => simp
  | deleting | deleted => simp [state, reconcileDelete, lastWritten, Compared] at settled

theorem micro_fold_of_ne (outcomes : String → Outcomes) {listed : List Replica} {id : String}
    (apart : ∀ other ∈ listed, other.id ≠ id) (micro : String → Option VMState) :
    listed.foldl (microOne outcomes) micro id = micro id := by
  induction listed generalizing micro with
  | nil => rfl
  | cons head rest recurse =>
    rw [List.foldl_cons, recurse fun other later => apart other (List.mem_cons_of_mem head later)]
    exact Function.update_of_ne (apart head List.mem_cons_self).symm _ _

theorem micro_fold (outcomes : String → Outcomes) {listed : List Replica}
    (distinct : (listed.map Replica.id).Nodup) (member : vm ∈ listed)
    (micro : String → Option VMState) :
    listed.foldl (microOne outcomes) micro vm.id =
      microAfter (outcomes vm.id) vm (micro vm.id) := by
  induction listed generalizing micro with
  | nil => cases member
  | cons head rest recurse =>
    rw [List.map_cons, List.nodup_cons] at distinct
    have apart : ∀ other ∈ rest, other.id ≠ head.id :=
      fun other later same => distinct.1 (same ▸ List.mem_map_of_mem later)
    rw [List.foldl_cons]
    rcases List.mem_cons.mp member with rfl | later
    · rw [micro_fold_of_ne _ apart]
      exact Function.update_self ..
    · rw [recurse distinct.2 later, microOne, Function.update_of_ne (apart vm later)]

def snapshotVM : Replica :=
  { createdVM with snapshotStatus := "ready", snapshotPath := "/snapshots/vm-1.snap" }

def unprobed : Records :=
  ((Records.mk (.single snapshotVM (by decide)) (fun _ => none)).pass .clean (fun _ => sound)).pass
    .clean (fun _ => { sound with probe := false })

def unprobedVM : Replica :=
  { snapshotVM with
    state := .failed, healthStatus := .unhealthy, ipAddress := "10.42.0.10/24"
    error := "healthcheck failed" }

end Porter.Controller
