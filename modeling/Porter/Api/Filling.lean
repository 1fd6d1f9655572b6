import Porter.Api.Pools

/-!
# Filling a pool

The loop that boots replicas keeps a list of ids beside the rows it writes.
-/
namespace Porter.Api.Projects

open Sql Go Store Run

def Apart (db : ProjectDb) (projectID : String) (ids : List String) : Prop :=
  ∀ id ∈ ids, (∀ d ∈ db.deployments.rows, id ∉ d.vmIDs) ∧
    ∀ row ∈ db.projects.rows, row.id ≠ projectID → id ∉ row.doc.vmIDs

theorem unlisted_eq_true (db : ProjectDb) (projectID id : String) :
    unlisted db projectID id = true ↔
      (∀ d ∈ db.deployments.rows, id ∉ d.vmIDs) ∧
        ∀ row ∈ db.projects.rows, row.id ≠ projectID → id ∉ row.doc.vmIDs := by
  simp only [unlisted, Bool.and_eq_true, List.all_eq_true, decide_eq_true_eq, Bool.or_eq_true]
  refine and_congr_right fun _ => forall₂_congr fun row _ => ?_
  by_cases same : row.id = projectID <;> simp [same]

structure Filling (leaving : List String) (boot : Boot) : Prop where
  placed : PoolsPlaced boot.session.db
  project : Placed boot.session.db boot.proj.vmIDs
  deployment : ∀ d, boot.deployment = some d → Placed boot.session.db d.vmIDs
  owner : boot.session.db.hasProject boot.proj.id = true
  named : ∀ row ∈ boot.session.db.projects.rows, row.doc.name = boot.proj.name →
    row.id = boot.proj.id
  stored : ∀ id ∈ leaving, ∃ vm ∈ boot.session.db.replicas.rows, vm.id = id
  apart : Apart boot.session.db boot.proj.id leaving
  outside : ∀ d, boot.deployment = some d → ∀ id ∈ leaving, id ∉ d.vmIDs

variable {s : Session} {proj : Project Ref} {boot : Boot}

section Loop

variable (server : Server) {run : ProjectRun} {leaving : List String}

theorem replicas_put (s : Session) (proj : Project Ref) :
    (s.put run proj).db.replicas = s.db.replicas :=
  replicas_putProject _ _ _

variable {deployment : Option Deployment}

variable (filling : Filling leaving ⟨s, proj, deployment⟩)

include filling

theorem Filling.put : Filling leaving ⟨s.put run proj, proj, deployment⟩ := by
  have rows : (s.put run proj).db.replicas = s.db.replicas := replicas_put s _
  have keeps : ∀ ids, Placed s.db ids → Placed (s.put run proj).db ids :=
    fun _ placed => placed.of_replicas rows
  refine ⟨filling.placed.putProject _ filling.project, keeps _ filling.project,
    fun d given => keeps _ (filling.deployment d given),
    hasProject_putProject _ _ _ _ filling.owner, ?_, ?_, ?_, filling.outside⟩
  · intro row listed same
    rcases mem_putProject _ _ _ _ listed with rfl | old
    · rfl
    · exact filling.named row old same
  · intro id member
    obtain ⟨vm, kept, named⟩ := filling.stored id member
    exact ⟨vm, by rwa [rows], named⟩
  · intro id member
    refine ⟨?_, ?_⟩
    · intro d listed
      have same : (s.put run proj).db.deployments = s.db.deployments :=
        deployments_putProject _ _ _
      rw [same] at listed
      exact (filling.apart id member).1 d listed
    · intro row listed other
      rcases mem_putProject _ _ _ _ listed with rfl | old
      · exact absurd rfl other
      · exact (filling.apart id member).2 row old other

omit filling in
theorem replicas_createDeployment_session (s : Session) (d : Deployment) :
    (s.createDeployment run d).1.db.replicas = s.db.replicas :=
  replicas_createDeployment _ _ _

theorem Filling.createDeployment {d : Deployment} (own : Placed s.db d.vmIDs)
    (outside : ∀ id ∈ leaving, id ∉ d.vmIDs) :
    Filling leaving ⟨(s.createDeployment run d).1, proj, deployment⟩ := by
  have rows : (s.createDeployment run d).1.db.replicas = s.db.replicas :=
    replicas_createDeployment _ _ _
  have projects : (s.createDeployment run d).1.db.projects = s.db.projects :=
    (sameProjects_createDeployment _ _ _).1
  have keeps : ∀ ids, Placed s.db ids → Placed (s.createDeployment run d).1.db ids :=
    fun _ placed => placed.of_replicas rows
  refine ⟨filling.placed.createDeployment _ own, keeps _ filling.project,
    fun other given => keeps _ (filling.deployment other given), ?_, ?_, ?_, ?_, filling.outside⟩
  · exact (hasProject_of_projects projects _).trans filling.owner
  · rw [projects]
    exact filling.named
  · intro id member
    obtain ⟨vm, kept, named⟩ := filling.stored id member
    exact ⟨vm, by rwa [rows], named⟩
  · intro id member
    refine ⟨?_, ?_⟩
    · intro new listed
      rcases mem_createDeployment listed with same | old
      · rw [same]
        exact outside id member
      · exact (filling.apart id member).1 new old
    · rw [projects]
      exact (filling.apart id member).2

theorem Filling.into (d : Deployment) (own : Placed s.db d.vmIDs)
    (outside : ∀ id ∈ leaving, id ∉ d.vmIDs) : Filling leaving ⟨s, proj, some d⟩ := by
  refine { filling with deployment := ?_, outside := ?_ }
  · intro other given
    obtain rfl := Option.some.inj given
    exact own
  · intro other given
    obtain rfl := Option.some.inj given
    exact outside

omit filling

theorem Filling.createOwn {d : Deployment} (filling : Filling leaving ⟨s, proj, some d⟩) :
    Filling leaving ⟨(s.createDeployment run d).1, proj, some (s.createDeployment run d).2⟩ := by
  have own := filling.deployment d rfl
  have outside := filling.outside d rfl
  have lists : (s.createDeployment run d).2.vmIDs = d.vmIDs := vmIDs_withWeights d
  refine (filling.createDeployment own outside).into _ ?_ ?_
  · rw [lists]
    exact own.of_replicas (replicas_createDeployment_session s d)
  · rw [lists]
    exact outside

theorem Filling.putVM (works : ∀ position, run.write position = none)
    (filling : Filling leaving boot) (same : s.db = boot.session.db) (vm : VM)
    (project : vm.projectID = boot.proj.id)
    (vacant : Vacant boot.session.db vm.id boot.proj.id vm.replicaIndex) :
    Filling leaving { boot with session := s.putVM run vm } ∧
      ∀ row, row ∈ (s.putVM run vm).db.replicas.rows ↔
        row = vm ∨ row ∈ boot.session.db.replicas.rows := by
  have after : (s.putVM run vm).db = Store.putVM boot.session.db none vm := by
    rw [← same]
    exact congrArg (Store.putVM s.db · vm) (works s.writes)
  have rows : ∀ row, row ∈ (s.putVM run vm).db.replicas.rows ↔
      row = vm ∨ row ∈ boot.session.db.replicas.rows := by
    rw [after]
    rw [← project] at vacant
    exact mem_putVM vacant (project ▸ filling.owner)
  have projects : (s.putVM run vm).db.projects = boot.session.db.projects := by
    rw [after]
    exact (sameProjects_putVM _ _ _).1
  have deployments : (s.putVM run vm).db.deployments = boot.session.db.deployments := by
    rw [after]
    exact deployments_putVM _ _ _
  have keeps : ∀ ids, Placed boot.session.db ids → Placed (s.putVM run vm).db ids := by
    intro ids placed
    exact placed.of_rows fun row stored _ => (rows row).mpr (Or.inr stored)
  refine ⟨⟨?_, keeps _ filling.project, fun d given => keeps _ (filling.deployment d given),
    ?_, ?_, ?_, ?_, filling.outside⟩, rows⟩
  · have grows : ∀ row ∈ boot.session.db.replicas.rows,
        row ∈ (Store.putVM boot.session.db none vm).replicas.rows := by
      rw [← after]
      exact fun row stored => (rows row).mpr (Or.inr stored)
    change PoolsPlaced (s.putVM run vm).db
    rw [after]
    exact filling.placed.putVM grows
  · exact (hasProject_of_projects projects _).trans filling.owner
  · change ∀ row ∈ (s.putVM run vm).db.projects.rows, _
    rw [projects]
    exact filling.named
  · intro id member
    obtain ⟨row, kept, named⟩ := filling.stored id member
    exact ⟨row, (rows row).mpr (Or.inr kept), named⟩
  · intro id member
    change (∀ d ∈ (s.putVM run vm).db.deployments.rows, id ∉ d.vmIDs) ∧
      ∀ row ∈ (s.putVM run vm).db.projects.rows, row.id ≠ boot.proj.id → id ∉ row.doc.vmIDs
    rw [deployments, projects]
    exact filling.apart id member

theorem Filling.joinPool {vm : VM} (filling : Filling leaving { boot with session := s })
    (kept : vm ∈ s.db.replicas.rows) (next : boot.pool.length = vm.replicaIndex)
    (apart : vm.id ∉ leaving) : Filling leaving (joinPool run boot s vm.id) := by
  obtain ⟨session, proj, deployment⟩ := boot
  cases deployment with
  | none =>
    have joined : Placed s.db (proj.vmIDs ++ [vm.id]) := filling.project.concat kept next.symm
    have grown : Filling leaving ⟨s, { proj with vmIDs := proj.vmIDs ++ [vm.id] }, none⟩ :=
      { filling with project := joined }
    exact grown.put
  | some d =>
    have joined : Placed s.db (d.vmIDs ++ [vm.id]) :=
      (filling.deployment d rfl).concat kept next.symm
    have grown := filling.into { d with vmIDs := d.vmIDs ++ [vm.id] } joined (by
      intro id member listed
      rcases List.mem_append.mp listed with old | new
      · exact filling.outside d rfl id member old
      · exact apart (List.mem_singleton.mp new ▸ member))
    exact grown.createOwn.put

theorem replicas_joinPool (boot : Boot) (s : Session) (id : String) :
    (Projects.joinPool run boot s id).session.db.replicas = s.db.replicas := by
  unfold Projects.joinPool
  split
  · exact (replicas_putProject _ _ _).trans (replicas_createDeployment _ _ _)
  · exact replicas_putProject _ _ _

theorem Filling.bootReplica (works : ∀ position, run.write position = none)
    (filling : Filling leaving boot) (req : CreateProjectReq Ref) (idx : Nat)
    (vacant : Vacant boot.session.db (run.vmID idx) boot.proj.id idx)
    (next : bootable server req.image = true → boot.pool.length = idx) :
    Filling leaving (bootReplica server run boot req idx) ∧
      (∀ row ∈ (bootReplica server run boot req idx).session.db.replicas.rows,
        row.id = run.vmID idx ∧ row.replicaIndex = idx ∨ row ∈ boot.session.db.replicas.rows) ∧
      (bootable server req.image = true →
        (bootReplica server run boot req idx).pool = boot.pool ++ [run.vmID idx]) := by
  have fresh : run.vmID idx ∉ leaving := by
    intro member
    obtain ⟨vm, stored, named⟩ := filling.stored _ member
    exact (vacant vm stored).1 named
  have opened := @db_injectSecrets run server boot req.env idx
  have free : ∀ vm : VM, vm.id = run.vmID idx → vm.replicaIndex = idx →
      Vacant boot.session.db vm.id boot.proj.id vm.replicaIndex := by
    intro vm named index
    rwa [named, index]
  rw [bootReplica_eq]
  have decides := bootError_preparedVM server run boot req idx
  split
  · rename_i error failed
    have unbootable : ¬ bootable server req.image = true := by
      rw [← decides, failed]
      exact nofun
    obtain ⟨kept, rows⟩ := filling.putVM works opened
      { preparedVM server run boot req idx with state := .failed, error := error }
      (preparedVM_projectID ..) (free _ (preparedVM_id ..) (preparedVM_replicaIndex ..))
    refine ⟨kept, fun row stored => ?_, fun boots => absurd boots unbootable⟩
    rcases (rows row).mp stored with rfl | old
    · exact Or.inl ⟨preparedVM_id .., preparedVM_replicaIndex ..⟩
    · exact Or.inr old
  · rename_i boots
    obtain ⟨kept, rows⟩ := filling.putVM works opened (preparedVM server run boot req idx)
      (preparedVM_projectID ..) (free _ (preparedVM_id ..) (preparedVM_replicaIndex ..))
    have length : boot.pool.length = (preparedVM server run boot req idx).replicaIndex := by
      rw [preparedVM_replicaIndex, next (decides.mp boots)]
    refine ⟨kept.joinPool ((rows _).mpr (Or.inl rfl)) length (by rwa [preparedVM_id]), ?_, ?_⟩
    · intro row stored
      rw [replicas_joinPool] at stored
      rcases (rows row).mp stored with rfl | old
      · exact Or.inl ⟨preparedVM_id .., preparedVM_replicaIndex ..⟩
      · exact Or.inr old
    · intro _
      rw [pool_joinPool, preparedVM_id]

theorem room_eq_true (db : ProjectDb) (projectID : String) (indices : List Nat) :
    room db run projectID indices = true ↔
      (indices.map run.vmID).Nodup ∧ ∀ i ∈ indices, Vacant db (run.vmID i) projectID i := by
  simp [room]

theorem room_of_replicas {before after : ProjectDb} (same : after.replicas = before.replicas)
    (projectID : String) (indices : List Nat) :
    room after run projectID indices = room before run projectID indices := by
  rw [Bool.eq_iff_iff, room_eq_true, room_eq_true]
  unfold Vacant
  rw [same]

theorem Filling.bootReplicas (works : ∀ position, run.write position = none)
    (filling : Filling leaving boot) (req : Boot → CreateProjectReq Ref) (image : String)
    (start count : Nat)
    (reqs : ∀ other : Boot, other.proj.image = boot.proj.image → (req other).image = image)
    (free : room boot.session.db run boot.proj.id (List.range' start count) = true)
    (next : bootable server image = true → boot.pool.length = start) :
    Filling leaving (bootReplicas server run req boot (List.range' start count)) := by
  induction count generalizing boot start with
  | zero => exact filling
  | succ count recurse =>
    obtain ⟨distinct, vacant⟩ := (room_eq_true _ _ _).mp free
    rw [List.range'_succ] at distinct vacant ⊢
    have imaged : (req boot).image = image := reqs boot rfl
    obtain ⟨filled, rows, pool⟩ := filling.bootReplica server works (req boot) start
      (vacant start List.mem_cons_self) (by rwa [imaged])
    obtain ⟨ids, proj⟩ := proj_bootReplica _ _ _ (req boot) start
    refine recurse filled (start + 1) ?_ ?_ ?_
    · intro other same
      exact reqs other (by rw [same, proj])
    · rw [room_eq_true]
      have later := (List.nodup_cons.mp distinct)
      refine ⟨later.2, fun i member row stored => ?_⟩
      rw [proj]
      rcases rows row stored with ⟨named, index⟩ | old
      · rw [named, index]
        have above := (List.mem_range'_1.mp member).1
        refine ⟨fun same => later.1 (same ▸ List.mem_map_of_mem member), fun taken => ?_⟩
        omega
      · exact vacant i (List.mem_cons_of_mem _ member) row old
    · intro boots
      rw [pool (by rwa [imaged]), List.length_append, next boots]
      rfl

end Loop

end Porter.Api.Projects
