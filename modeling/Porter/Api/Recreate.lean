import Porter.Api.Deployments
import Porter.Api.Runner
import Porter.Run.Since

/-!
# Recreating a pool

`handleRedeployProject` and `handleRollbackDeployment` delete every replica row of the project and
boot a new pool.
-/
namespace Porter.Api.Projects

open Sql Go Store Run

inductive Recreation where
  | redeploy
  | rollback (deployID : String)

variable (server : Server) (run : ProjectRun) (s : Session) (doc : Project EnvMap)

namespace Recreation

def serve (id : String) :
    Recreation → Option Session
  | .redeploy =>
    let (after, response) := handleRedeployProject server run s id
    if response.succeeded then some after else none
  | .rollback deployID =>
    let (after, response) := handleRollbackDeployment server run s id deployID
    if response.succeeded then some after else none

def image (run : ProjectRun) (s : Session) (doc : Project EnvMap) : Recreation → Option String
  | .redeploy => some doc.image
  | .rollback deployID =>
    (rollbackOf (listDeployments s.db (run.deploymentRows 0) doc.id) deployID).map (·.imageDigest)

def req (start : Boot) : Recreation → Boot → CreateProjectReq Ref
  | .redeploy, boot => ownReq boot.proj.replicasDesired boot
  | .rollback _, _ => ownReq start.proj.replicasDesired start

def deleted : Recreation → List VM
  | .redeploy => doc.vmIDs.filterMap (getVM s.db)
  | .rollback _ => []

end Recreation

variable (image : String)

def emptied : Boot where
  session := (s.load doc).1.deleteReplicasByProject run (s.load doc).2.id
  proj := { (s.load doc).2 with image := image, vmIDs := [] }
  deployment := none

variable (call : Recreation)

namespace Recreation

def refilled : Boot :=
  bootReplicas server run (call.req (emptied run s doc image)) (emptied run s doc image)
    (List.range doc.replicasDesired.toNat)

def booted : List VM :=
  bootCalls server run (call.req (emptied run s doc image)) (emptied run s doc image)
    (List.range doc.replicasDesired.toNat)

def calls (id : String) (call : Recreation) : List RunnerCall :=
  match getProject s.db run.getFails id with
  | none => []
  | some doc =>
    match call.image run s doc with
    | none => []
    | some image =>
      (call.deleted s doc).map .delete ++ (call.booted server run s doc image).map .boot

end Recreation

theorem emptied_own :
    emptied run s doc doc.image =
      ⟨(s.load doc).1.deleteReplicasByProject run (s.load doc).2.id,
        { (s.load doc).2 with vmIDs := [] }, none⟩ := by
  unfold emptied
  rw [← image_load s _]

namespace Recreation

theorem serve_eq_some {server : Server} {run : ProjectRun} {s after : Session} {id : String}
    {call : Recreation} (served : call.serve server run s id = some after) :
    ∃ doc image, getProject s.db run.getFails id = some doc ∧ call.image run s doc = some image ∧
      after = (call.refilled server run s doc image).session.put run
        (call.refilled server run s doc image).proj := by
  cases call with
  | redeploy =>
    unfold serve handleRedeployProject at served
    cases found : getProject s.db run.getFails id with
    | none => simp [found, projectNotFound, Response.succeeded] at served
    | some doc =>
      refine ⟨doc, doc.image, rfl, rfl, ?_⟩
      unfold refilled
      rw [emptied_own, ← replicasDesired_load s _]
      rw [found] at served
      exact (Option.some.inj served).symm
  | rollback deployID =>
    unfold serve handleRollbackDeployment at served
    cases found : getProject s.db run.getFails id with
    | none => simp [found, Response.succeeded] at served
    | some doc =>
      rw [found] at served
      cases target : rollbackOf (listDeployments s.db (run.deploymentRows 0) doc.id) deployID with
      | none => simp [target, Response.succeeded] at served
      | some previous =>
        refine ⟨doc, previous.imageDigest, rfl, by rw [image, target]; rfl, ?_⟩
        unfold refilled
        rw [← replicasDesired_load s _]
        simp only [target] at served
        exact (Option.some.inj served).symm

end Recreation

theorem isSome_getVM_iff (db : ProjectDb) (id : String) :
    (getVM db id).isSome = true ↔ ∃ row ∈ db.replicas.rows, row.id = id := by
  rw [Option.isSome_iff_exists]
  simp only [getVM, Table.find_eq_some]

/-- While a pool is refilled: its rows have smaller indices, and the other ids with a row are those
of other projects and those drawn so far. -/
structure Refilling (run : ProjectRun) (before : ProjectDb) (projectID : String) (next : Nat)
    (boot : Boot) : Prop where
  project : boot.proj.id = projectID
  stored : boot.session.db.hasProject projectID = true
  below : ∀ row ∈ boot.session.db.replicas.rows, row.projectID = projectID →
    row.replicaIndex < next
  ids : ∀ id, (getVM boot.session.db id).isSome = true ↔
    (∃ row ∈ before.replicas.rows, row.id = id ∧ row.projectID ≠ projectID) ∨
      ∃ i < next, run.vmID i = id

section Refilling

variable {server : Server} {run : ProjectRun} {before : ProjectDb} {projectID : String} {next : Nat}
  {boot : Boot}

theorem Refilling.admits (refilling : Refilling run before projectID next boot)
    (req : CreateProjectReq Ref) :
    refusesVM boot.session.db (storedVM server run boot req next) = false := by
  unfold refusesVM
  rw [storedVM_projectID, refilling.project, refilling.stored, storedVM_replicaIndex]
  simp only [Bool.not_true, Bool.and_false, Bool.false_or, List.any_eq_false, Bool.and_eq_true,
    decide_eq_true_eq]
  intro row stored conflict
  have smaller := refilling.below row stored conflict.1.1.2
  omega

theorem Refilling.bootReplica (reaches : ∀ n, run.write n = none)
    (refilling : Refilling run before projectID next boot) (req : CreateProjectReq Ref) :
    Refilling run before projectID (next + 1) (bootReplica server run boot req next) := by
  obtain ⟨n, written⟩ := replicas_bootReplica _ _ _ _ _
  rw [reaches] at written
  have rows : ∀ row,
      row ∈ (Projects.bootReplica server run boot req next).session.db.replicas.rows ↔
      row = storedVM server run boot req next ∨
        row ∈ boot.session.db.replicas.rows ∧ row.id ≠ run.vmID next := by
    intro row
    rw [written, mem_putVM_admitted (refilling.admits req), storedVM_id]
  constructor
  · rw [proj_id_bootReplica, refilling.project]
  · exact hasProject_bootReplica _ _ _ _ _ refilling.stored
  · intro row stored own
    rcases (rows row).mp stored with rfl | ⟨old, -⟩
    · rw [storedVM_replicaIndex]
      omega
    · have smaller := refilling.below row old own
      omega
  · intro id
    have earlier := refilling.ids id
    rw [isSome_getVM_iff] at earlier ⊢
    constructor
    · rintro ⟨row, stored, named⟩
      rcases (rows row).mp stored with rfl | ⟨old, -⟩
      · rw [storedVM_id] at named
        exact Or.inr ⟨next, by omega, named⟩
      · rcases earlier.mp ⟨row, old, named⟩ with foreign | ⟨i, smaller, drawn⟩
        · exact Or.inl foreign
        · exact Or.inr ⟨i, by omega, drawn⟩
    · intro either
      by_cases here : run.vmID next = id
      · exact ⟨_, (rows _).mpr (Or.inl rfl), (storedVM_id ..).trans here⟩
      · have old : ∃ row ∈ boot.session.db.replicas.rows, row.id = id := by
          rw [earlier]
          rcases either with foreign | ⟨i, smaller, drawn⟩
          · exact Or.inl foreign
          · have before : i ≠ next := fun same => here (same ▸ drawn)
            exact Or.inr ⟨i, by omega, drawn⟩
        obtain ⟨row, stored, named⟩ := old
        exact ⟨row,
          (rows row).mpr (Or.inr ⟨stored, fun same => here (same.symm.trans named)⟩), named⟩

theorem Refilling.bootReplicas (reaches : ∀ n, run.write n = none)
    (refilling : Refilling run before projectID next boot) (req : Boot → CreateProjectReq Ref)
    (count : Nat) :
    Refilling run before projectID (next + count)
      (bootReplicas server run req boot (List.range' next count)) := by
  induction count generalizing boot next with
  | zero => exact refilling
  | succ count recurse =>
    rw [List.range'_succ, bootReplicas_cons, Nat.add_comm count 1, ← Nat.add_assoc]
    exact recurse (refilling.bootReplica reaches (req boot))

end Refilling

theorem refilling_emptied {run : ProjectRun} (reaches : ∀ n, run.write n = none) {s : Session}
    {id : String} {doc : Project EnvMap} (found : getProject s.db run.getFails id = some doc)
    (image : String) : Refilling run s.db doc.id 0 (emptied run s doc image) := by
  have rows : ∀ row, row ∈ (emptied run s doc image).session.db.replicas.rows ↔
      row ∈ s.db.replicas.rows ∧ row.projectID ≠ doc.id := by
    unfold emptied Session.deleteReplicasByProject Store.deleteReplicasByProject deleteReplicas
    simp [reaches]
  constructor
  · exact id_load s _
  · obtain ⟨row, stored, named, same⟩ := getProject_eq_some found
    have kept : (emptied run s doc image).session.db.projects = s.db.projects :=
      (sameProjects_deleteReplicas _ _ _).1.trans (by rw [db_load])
    rw [hasProject_of_projects kept, ProjectDb.hasProject_eq_true]
    exact ⟨row, stored, by rw [← same]; rfl⟩
  · intro row stored own
    exact absurd own ((rows row).mp stored).2
  · intro other
    rw [isSome_getVM_iff]
    simp only [rows, Nat.not_lt_zero, false_and, exists_false, or_false]
    constructor
    · rintro ⟨row, ⟨stored, foreign⟩, named⟩
      exact ⟨row, stored, named, foreign⟩
    · rintro ⟨row, stored, named, foreign⟩
      exact ⟨row, ⟨stored, foreign⟩, named⟩

theorem Recreation.isSome_getVM_refilled {server : Server} {run : ProjectRun}
    (reaches : ∀ n, run.write n = none) {s : Session} {id : String} {doc : Project EnvMap}
    (found : getProject s.db run.getFails id = some doc) (image : String) (call : Recreation)
    (other : String) :
    (getVM ((call.refilled server run s doc image).session.put run
        (call.refilled server run s doc image).proj).db other).isSome = true ↔
      (∃ row ∈ s.db.replicas.rows, row.id = other ∧ row.projectID ≠ doc.id) ∨
        ∃ i < doc.replicasDesired.toNat, run.vmID i = other := by
  have refilled : Refilling run s.db doc.id (0 + doc.replicasDesired.toNat)
      (call.refilled server run s doc image) := by
    unfold Recreation.refilled
    rw [List.range_eq_range']
    exact (refilling_emptied reaches found image).bootReplicas reaches _ _
  rw [Nat.zero_add] at refilled
  have kept : ((call.refilled server run s doc image).session.put run
      (call.refilled server run s doc image).proj).db.replicas =
      (call.refilled server run s doc image).session.db.replicas := replicas_putProject _ _ _
  unfold getVM
  rw [kept]
  exact refilled.ids other

/-- The VM was booted for the project, and nobody has asked to stop or delete it since. -/
def Up (projectID id : String) (history : List RunnerCall) : Prop :=
  Since (fun call => ∃ vm, call = .boot vm ∧ vm.id = id ∧ vm.projectID = projectID)
    (fun call => ∃ vm, (call = .stop vm ∨ call = .delete vm) ∧ vm.id = id) history

def NoOrphans (projectID : String) (history : List RunnerCall) (db : ProjectDb) : Prop :=
  ∀ id, Up projectID id history → (getVM db id).isSome = true

theorem up_append_iff {projectID id : String} {history : List RunnerCall}
    {deleted booted : List VM} :
    Up projectID id (history ++ (deleted.map .delete ++ booted.map .boot)) ↔
      (∃ vm ∈ booted, vm.id = id ∧ vm.projectID = projectID) ∨
        Up projectID id history ∧ id ∉ deleted.map VM.id := by
  unfold Up
  rw [since_append, since_append, since_iff_of_lasting (by simp)]
  have never : ¬ Since (fun call => ∃ vm, call = .boot vm ∧ vm.id = id ∧ vm.projectID = projectID)
      (fun call => ∃ vm, (call = .stop vm ∨ call = .delete vm) ∧ vm.id = id)
      (deleted.map RunnerCall.delete) := not_since (by simp)
  simp only [never, false_and, or_false, List.mem_append, List.mem_map]
  constructor
  · rintro (⟨_, ⟨vm, member, rfl⟩, other, same, holds⟩ | ⟨up, spared⟩)
    · cases same
      exact Or.inl ⟨vm, member, holds⟩
    · refine Or.inr ⟨up, ?_⟩
      rintro ⟨vm, member, named⟩
      exact spared _ (Or.inl ⟨vm, member, rfl⟩) ⟨vm, Or.inr rfl, named⟩
  · rintro (⟨vm, member, holds⟩ | ⟨up, spared⟩)
    · exact Or.inl ⟨_, ⟨vm, member, rfl⟩, vm, rfl, holds⟩
    · refine Or.inr ⟨up, ?_⟩
      rintro call (⟨vm, member, rfl⟩ | ⟨vm, member, rfl⟩) ⟨other, same, named⟩
      · rcases same with impossible | same
        · cases impossible
        · cases same
          exact spared ⟨vm, member, named⟩
      · rcases same with impossible | impossible
        · cases impossible
        · cases impossible

/-- Where every statement succeeds, recreating a pool leaves no orphan exactly when every VM that
was up is deleted by the request, its id is drawn again, or a row of another project has it. -/
theorem recreation_no_orphans_iff (server : Server) (run : ProjectRun) (s after : Session)
    (id : String) (call : Recreation) (history : List RunnerCall)
    (reaches : ∀ n, run.write n = none) (served : call.serve server run s id = some after) :
    NoOrphans id (history ++ call.calls server run s id) after.db ↔
      ∃ doc, getProject s.db run.getFails id = some doc ∧
        ∀ other, Up id other history →
          other ∈ (call.deleted s doc).map VM.id ∨
            (∃ i < doc.replicasDesired.toNat, run.vmID i = other) ∨
            ∃ row ∈ s.db.replicas.rows, row.id = other ∧ row.projectID ≠ id := by
  obtain ⟨doc, image, found, imaged, rfl⟩ := Recreation.serve_eq_some served
  have named : doc.id = id := by
    obtain ⟨row, -, keyed, same⟩ := getProject_eq_some found
    rw [← same]
    exact keyed
  have made : call.calls server run s id =
      (call.deleted s doc).map .delete ++ (call.booted server run s doc image).map .boot := by
    unfold Recreation.calls
    simp only [found, imaged]
  have drawn : ∀ vm ∈ call.booted server run s doc image,
      ∃ i < doc.replicasDesired.toNat, run.vmID i = vm.id := by
    intro vm member
    obtain ⟨-, i, listed, same⟩ := of_mem_bootCalls member
    exact ⟨i, List.mem_range.mp listed, same.symm⟩
  unfold NoOrphans
  simp only [made, up_append_iff, Recreation.isSome_getVM_refilled reaches found, named]
  constructor
  · intro none
    refine ⟨doc, found, fun other up => ?_⟩
    by_cases removed : other ∈ (call.deleted s doc).map VM.id
    · exact Or.inl removed
    · exact Or.inr ((none other (Or.inr ⟨up, removed⟩)).symm)
  · rintro ⟨again, same, covered⟩ other (⟨vm, member, rfl, -⟩ | ⟨up, spared⟩)
    · exact Or.inr (drawn vm member)
    · obtain rfl : doc = again := Option.some.inj (found.symm.trans same)
      rcases covered other up with removed | kept
      · exact absurd removed spared
      · exact kept.symm

def shopBooted (vmID : String) (index : Int) : List RunnerCall := [.boot (shopReplica vmID index)]

theorem up_shopBooted {vmID other : String} {index : Int} :
    Up shopID other (shopBooted vmID index) ↔ other = vmID := by
  simp [Up, Since, shopBooted, shopReplica, eq_comm]

theorem recreation_no_orphans_iff_listed :
    ∃ after, Recreation.redeploy.serve shopServer shopRun (.start (shopDb true) []) shopID =
        some after ∧
      NoOrphans shopID (shopBooted "vm-1" 0 ++
        Recreation.redeploy.calls shopServer shopRun (.start (shopDb true) []) shopID)
        after.db := by
  refine ⟨_, rfl, ?_⟩
  refine (recreation_no_orphans_iff _ _ _ _ _ .redeploy _ (fun _ => rfl)
    rfl).mpr ⟨shopRow.doc, rfl, ?_⟩
  intro other up
  rw [up_shopBooted.mp up]
  exact Or.inl (by decide)

theorem recreation_leaves_orphans :
    ((handleRollbackDeployment shopServer shopRun (.start (shopDb true) []) shopID
        "v2").2.succeeded = true ∧
      ¬ NoOrphans shopID (shopBooted "vm-1" 0 ++
        (Recreation.rollback "v2").calls shopServer shopRun (.start (shopDb true) []) shopID)
        (handleRollbackDeployment shopServer shopRun (.start (shopDb true) []) shopID "v2").1.db) ∧
    (handleRedeployProject shopServer shopRun (.start (shopDb true) []) shopID).2.succeeded = true ∧
      ¬ NoOrphans shopID (shopBooted "vm-2" 1 ++
        Recreation.redeploy.calls shopServer shopRun (.start (shopDb true) []) shopID)
        (handleRedeployProject shopServer shopRun (.start (shopDb true) []) shopID).1.db := by
  refine ⟨⟨by decide, ?_⟩, by decide, ?_⟩
  · intro none
    refine absurd (none "vm-1" (up_append_iff.mpr (Or.inr ⟨up_shopBooted.mpr rfl, ?_⟩))) ?_
    · decide
    · decide
  · intro none
    refine absurd (none "vm-2" (up_append_iff.mpr (Or.inr ⟨up_shopBooted.mpr rfl, ?_⟩))) ?_
    · decide
    · decide

/-- While a pool is refilled, no id that was drawn has a row with ports. -/
structure Portless (run : ProjectRun) (boot : Boot) : Prop where
  own : boot.deployment = none
  listed : ∀ id ∈ boot.proj.vmIDs, ∃ i, run.vmID i = id
  rows : ∀ i, ∀ row ∈ boot.session.db.replicas.rows, row.id = run.vmID i → row.ports = []

section Portless

variable {server : Server} {run : ProjectRun} {boot : Boot}

theorem Portless.projPorts (portless : Portless run boot) :
    projPorts boot.session.db boot.proj = [] := by
  unfold Projects.projPorts
  cases found : boot.proj.vmIDs.findSome? (getVM boot.session.db) with
  | none => rfl
  | some vm =>
    obtain ⟨id, listed, stored⟩ := List.exists_of_findSome?_eq_some found
    obtain ⟨member, named⟩ := (Table.find_eq_some _ _ _).mp stored
    obtain ⟨i, drawn⟩ := portless.listed id listed
    exact portless.rows i vm member (named.trans drawn.symm)

theorem proj_vmIDs_bootReplica (own : boot.deployment = none) (req : CreateProjectReq Ref)
    (idx : Nat) {id : String}
    (listed : id ∈ (bootReplica server run boot req idx).proj.vmIDs) :
    id ∈ boot.proj.vmIDs ∨ id = run.vmID idx := by
  rw [bootReplica_eq] at listed
  split at listed
  · exact Or.inl listed
  · unfold joinPool at listed
    rw [own, preparedVM_id] at listed
    rcases List.mem_append.mp listed with old | new
    · exact Or.inl old
    · exact Or.inr (List.mem_singleton.mp new)

theorem Portless.bootReplica (portless : Portless run boot) {req : CreateProjectReq Ref}
    (none : req.ports = []) (idx : Nat) : Portless run (bootReplica server run boot req idx) := by
  constructor
  · have kept := deployment_bootReplica server run boot req idx
    rw [portless.own] at kept
    exact Option.not_isSome_iff_eq_none.mp (by rw [kept]; exact Bool.false_ne_true)
  · intro id listed
    rcases proj_vmIDs_bootReplica portless.own req idx listed with old | rfl
    · exact portless.listed id old
    · exact ⟨idx, rfl⟩
  · intro i row stored named
    obtain ⟨n, written⟩ := replicas_bootReplica _ _ _ _ _
    rw [written] at stored
    rcases of_mem_putVM stored with rfl | old
    · rw [storedVM_ports, none]
    · exact portless.rows i row old named

theorem portless_emptied {s : Session} (fresh : ∀ i, getVM s.db (run.vmID i) = none)
    (doc : Project EnvMap) (image : String) : Portless run (emptied run s doc image) := by
  refine ⟨rfl, nofun, ?_⟩
  intro i row stored named
  have old : row ∈ s.db.replicas.rows := by
    unfold emptied Session.deleteReplicasByProject Store.deleteReplicasByProject deleteReplicas
      at stored
    rw [db_load] at stored
    split at stored
    · exact stored
    · exact ((Table.mem_deleteWhere _ _ _).mp stored).1
  exact absurd named ((Table.find_eq_none _ _).mp (fresh i) row old)

end Portless

namespace Recreation

variable {server : Server} {run : ProjectRun} {s : Session}

theorem req_ports {start boot : Boot} (first : Portless run start) (portless : Portless run boot)
    (call : Recreation) : (call.req start boot).ports = [] := by
  cases call with
  | redeploy => exact portless.projPorts
  | rollback deployID => exact first.projPorts

theorem booted_ports (fresh : ∀ i, getVM s.db (run.vmID i) = none) (doc : Project EnvMap)
    (image : String) (call : Recreation) :
    ∀ vm ∈ call.booted server run s doc image, vm.ports = [] := by
  have start := portless_emptied fresh doc image
  refine bootCalls_forall (Portless run) (fun vm => vm.ports = []) ?_ ?_ start
  · intro boot idx _ portless
    exact portless.bootReplica (call.req_ports start portless) idx
  · intro boot idx _ portless
    rw [preparedVM_ports, call.req_ports start portless]

theorem booted_eq_nil_iff :
    call.booted server run s doc image = [] ↔
      doc.replicasDesired ≤ 0 ∨ bootable server image = false := by
  have imaged : ∀ other : Boot, other.proj.image = (emptied run s doc image).proj.image →
      (call.req (emptied run s doc image) other).image = image := by
    intro other same
    cases call with
    | redeploy => exact same
    | rollback deployID => rfl
  unfold booted
  rw [bootCalls_eq_nil_iff imaged, List.range_eq_nil, Int.toNat_eq_zero]

end Recreation

def FirstListed (db : ProjectDb) (doc : Project EnvMap) (ports : List Port) : Prop :=
  ∃ first, doc.vmIDs.findSome? (getVM db) = some first ∧ first.ports = ports

/-- With fresh ids, recreating a pool keeps the ports of its first replica exactly when there are
none, or nothing is booted. -/
theorem recreation_ports_iff (server : Server) (run : ProjectRun) (s after : Session) (id : String)
    (call : Recreation) (doc : Project EnvMap)
    (served : call.serve server run s id = some after)
    (found : getProject s.db run.getFails id = some doc)
    (fresh : ∀ i, getVM s.db (run.vmID i) = none) :
    (∀ ports, FirstListed s.db doc ports →
      ∀ vm, .boot vm ∈ call.calls server run s id → vm.ports = ports) ↔
      (∀ ports, FirstListed s.db doc ports → ports = []) ∨ doc.replicasDesired ≤ 0 ∨
        ∃ image, call.image run s doc = some image ∧ bootable server image = false := by
  obtain ⟨again, image, same, imaged, -⟩ := Recreation.serve_eq_some served
  obtain rfl : doc = again := Option.some.inj (found.symm.trans same)
  have made : ∀ vm, .boot vm ∈ call.calls server run s id ↔
      vm ∈ call.booted server run s doc image := by
    unfold Recreation.calls
    simp [found, imaged]
  have silent : ∀ vm ∈ call.booted server run s doc image, vm.ports = [] :=
    call.booted_ports fresh doc image
  have nobody : call.booted server run s doc image = [] ↔
      doc.replicasDesired ≤ 0 ∨ bootable server image = false :=
    call.booted_eq_nil_iff doc image
  constructor
  · intro kept
    by_cases empty : call.booted server run s doc image = []
    · rcases nobody.mp empty with none | unbootable
      · exact Or.inr (Or.inl none)
      · exact Or.inr (Or.inr ⟨image, imaged, unbootable⟩)
    · obtain ⟨vm, member⟩ := List.exists_mem_of_ne_nil _ empty
      refine Or.inl (fun ports listed => ?_)
      rw [← kept ports listed vm ((made vm).mpr member)]
      exact silent vm member
  · rintro either ports listed vm booted
    have member := (made vm).mp booted
    rcases either with none | none | ⟨other, chosen, unbootable⟩
    · rw [silent vm member, none ports listed]
    · rw [nobody.mpr (Or.inl none)] at member
      cases member
    · obtain rfl : image = other := Option.some.inj (imaged.symm.trans chosen)
      rw [nobody.mpr (Or.inr unbootable)] at member
      cases member

def publishedDb (ports : List Port) : ProjectDb :=
  { shopDb true with replicas := Table.single _ { shopReplica "vm-1" 0 with ports := ports } }

theorem publishedDb_fresh (ports : List Port) (i : Nat) :
    getVM (publishedDb ports) (shopRun.vmID i) = none := by
  rw [getVM, Table.find_eq_none]
  intro row stored named
  rw [List.mem_singleton.mp stored] at named
  have letters := congrArg (fun id => id.toList.head?) named
  simp [shopReplica, shopRun, ProjectRun.plain] at letters

theorem recreation_ports_iff_none :
    FirstListed (publishedDb []) shopRow.doc [] ∧
      ∀ vm, .boot vm ∈ Recreation.redeploy.calls shopServer shopRun (.start (publishedDb []) [])
        shopID → vm.ports = [] := by
  have listed : FirstListed (publishedDb []) shopRow.doc [] := ⟨_, rfl, rfl⟩
  have alone : ∀ ports, FirstListed (publishedDb []) shopRow.doc ports → ports = [] := by
    rintro ports ⟨first, found, rfl⟩
    cases found
    rfl
  exact ⟨listed, (recreation_ports_iff _ _ (.start (publishedDb []) []) _ shopID
    .redeploy shopRow.doc rfl rfl (publishedDb_fresh [])).mpr (Or.inl alone) [] listed⟩

theorem recreation_drops_ports :
    FirstListed (publishedDb [⟨80, 8080, "tcp"⟩]) shopRow.doc [⟨80, 8080, "tcp"⟩] ∧
      ∀ call ∈ [Recreation.redeploy, .rollback "v2"],
        (call.serve shopServer shopRun (.start (publishedDb [⟨80, 8080, "tcp"⟩]) [])
            shopID).isSome = true ∧
          ∃ vm, .boot vm ∈ call.calls shopServer shopRun
              (.start (publishedDb [⟨80, 8080, "tcp"⟩]) []) shopID ∧ vm.ports = [] := by
  refine ⟨⟨_, rfl, rfl⟩, ?_⟩
  intro call member
  rcases List.mem_pair.mp member with rfl | rfl
  · exact ⟨by decide, _, List.mem_cons_of_mem _ List.mem_cons_self, rfl⟩
  · exact ⟨by decide, _, List.mem_cons_self, rfl⟩

end Porter.Api.Projects
