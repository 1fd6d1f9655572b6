import Porter.Api.Filling
import Porter.Api.SecretRuns

/-!
# Pools along a run

Handlers that find the rows as they expect them keep the lists in agreement with the rows.
-/
namespace Porter.Api.Projects

open Sql Go Store Run

section Handlers

variable (server : Server) {run : ProjectRun} {leaving : List String} {s : Session} {id : String}
  {proj : Project Ref} {boot : Boot} {d : Deployment} {deployment : Option Deployment}

theorem name_load (s : Session) (doc : Project EnvMap) : (s.load doc).2.name = doc.name := by
  unfold Session.load
  split <;> rfl

theorem filling_load {fails : Bool} {doc : Project EnvMap} (placed : PoolsPlaced s.db)
    (found : getProject s.db fails id = some doc) :
    Filling [] ⟨(s.load doc).1, (s.load doc).2, none⟩ := by
  obtain ⟨row, stored, named, rfl⟩ := getProject_eq_some found
  refine ⟨?_, ?_, nofun, ?_, ?_, nofun, nofun, nofun⟩
  · rwa [db_load]
  · rw [db_load, vmIDs_load]
    exact placed.projects row stored
  · rw [db_load, id_load, ProjectDb.hasProject_eq_true]
    exact ⟨row, stored, rfl⟩
  · rw [db_load, id_load, name_load]
    exact fun other member same => placed.named other member row stored same

theorem Filling.poolsPlaced_put (filling : Filling leaving boot)
    (own : Placed boot.session.db proj.vmIDs) : PoolsPlaced (boot.session.put run proj).db :=
  filling.placed.putProject _ own

theorem Filling.placed_kept (filling : Filling leaving boot) (wanted cur : Nat) :
    Placed boot.session.db
      (if wanted < cur then boot.proj.vmIDs.take wanted else boot.proj.vmIDs) := by
  split
  · exact filling.project.take wanted
  · exact filling.project

theorem filling_grown {fails : Bool} {doc : Project EnvMap}
    (works : ∀ position, run.write position = none) (placed : PoolsPlaced s.db)
    (found : getProject s.db fails id = some doc) (req : Boot → CreateProjectReq Ref)
    (image : String) (wanted : Nat)
    (reqs : ∀ other : Boot, other.proj.image = (s.load doc).2.image → (req other).image = image)
    (free : room s.db run doc.id (growth doc wanted) = true) :
    Filling [] (bootReplicas server run req ⟨(s.load doc).1, (s.load doc).2, none⟩
      (List.range' (s.load doc).2.vmIDs.length (wanted - (s.load doc).2.vmIDs.length))) := by
  apply (filling_load placed found).bootReplicas server works req image _ _ reqs
  · simpa [growth] using free
  · exact fun _ => rfl

section Scale

variable {body : Except String Int} (works : ∀ position, run.write position = none)
  (placed : PoolsPlaced s.db)
  (free : ∀ replicas doc, body = .ok replicas → getProject s.db run.getFails id = some doc →
    room s.db run doc.id (growth doc replicas.toNat) = true)

include works placed free

theorem poolsPlaced_handleScale :
    PoolsPlaced (handleScale server run s id body).1.db := by
  unfold handleScale
  split
  · exact placed
  · rename_i replicas
    split
    · exact placed
    · rename_i doc found
      have grown := filling_grown server works placed found (ownReq 1) (s.load doc).2.image
        replicas.toNat (fun _ same => same) (free replicas doc rfl found)
      exact grown.poolsPlaced_put (grown.placed_kept _ _)

theorem poolsPlaced_handleScaleService {service : String} :
    PoolsPlaced (handleScaleService server run s id service body).1.db := by
  unfold handleScaleService
  split
  · exact placed
  · rename_i replicas
    split
    · exact placed
    · rename_i doc found
      split
      · exact placed
      · have grown := filling_grown server works placed found
          (fun _ => ownReq 1 ⟨(s.load doc).1, (s.load doc).2, none⟩) (s.load doc).2.image
          replicas.toNat (fun _ _ => rfl) (free replicas doc rfl found)
        exact grown.poolsPlaced_put (grown.placed_kept _ _)

end Scale

theorem filling_created (placed : PoolsPlaced s.db) (works : ∀ position, run.write position = none)
    (empty : proj.vmIDs = []) (admitted : refusesProject s.db (s.row proj) = false) :
    Filling [] ⟨s.put run proj, proj, none⟩ := by
  have nothing : ∀ db, Placed db proj.vmIDs := by
    intro db
    rw [empty]
    exact placed_nil db
  refine ⟨placed.putProject _ (nothing _), nothing _, nofun, ?_, ?_, nofun, nofun, nofun⟩
  · rw [ProjectDb.hasProject_eq_true]
    refine ⟨s.row proj, ?_, rfl⟩
    change s.row proj ∈ (putProject s.db (run.write s.writes) (s.row proj)).projects.rows
    rw [works, mem_putProject_stored _ _ _ admitted]
    exact Or.inl rfl
  · intro row stored same
    rcases mem_putProject _ _ _ row stored with rfl | old
    · rfl
    · exact ((refusesProject_eq_false _ _).mp admitted).1 row old same

theorem Filling.bootCreated {req : CreateProjectReq Ref}
    (works : ∀ position, run.write position = none) (filling : Filling [] ⟨s, proj, none⟩)
    (empty : proj.vmIDs = [])
    (free : room s.db run proj.id (List.range req.replicas.toNat) = true) :
    Filling [] (bootCreated server run s proj req) := by
  unfold Projects.bootCreated
  split
  · exact filling
  · rw [List.range_eq_range'] at free ⊢
    exact filling.bootReplicas server works _ (builtImage run req) 0 _ (fun _ _ => rfl) free
      (fun _ => by simp [Boot.pool, empty])

theorem poolsPlaced_createProjectFrom {req : CreateProjectReq EnvMap} {creator : String}
    (works : ∀ position, run.write position = none) (placed : PoolsPlaced s.db)
    (unused : (refusesCreate server req).isNone = true →
      ∀ row ∈ s.db.projects.rows, row.doc.name ≠ req.name)
    (free : (refusesCreate server req).isNone = true → room s.db run run.newID
      (List.range (if req.replicas < 1 then 1 else req.replicas).toNat) = true) :
    PoolsPlaced (createProjectFrom server run s req creator).1.db := by
  unfold createProjectFrom
  cases refused : refusesCreate server req with
  | some refusal => exact placed
  | none =>
    simp only [refused, Option.isNone_none, forall_const] at unused free
    have decoded : PoolsPlaced (s.decode req.env).1.db := by rwa [db_decode]
    have admitted : refusesProject (s.decode req.env).1.db ((s.decode req.env).1.row
        (newProject run (acceptedReq server req (s.decode req.env).2) creator)) = false := by
      rw [refusesProject_eq_false, db_decode]
      refine ⟨fun other stored same => absurd same (unused other stored), ?_⟩
      change 0 ≤ if req.replicas < 1 then 1 else req.replicas
      split <;> omega
    have filling := filling_created decoded works rfl admitted
    have space : room ((s.decode req.env).1.put run
        (newProject run (acceptedReq server req (s.decode req.env).2) creator)).db run run.newID
        (List.range (acceptedReq server req (s.decode req.env).2).replicas.toNat) = true := by
      rw [room_of_replicas (replicas_put _ _), db_decode]
      exact free
    have grown := filling.bootCreated server works rfl space
    exact grown.placed.createDeployment _ (placed_nil _)

theorem poolsPlaced_handleCreateProject {orgHeader creator : String}
    {body : Except String (CreateProjectReq EnvMap)} (works : ∀ position, run.write position = none)
    (placed : PoolsPlaced s.db)
    (free : ∀ req, body = .ok req → (refusesCreate server req).isSome = true ∨
      (∀ row ∈ s.db.projects.rows, row.doc.name ≠ req.name) ∧ room s.db run run.newID
        (List.range (if req.replicas < 1 then 1 else req.replicas).toNat) = true) :
    PoolsPlaced (handleCreateProject server run s orgHeader creator body).1.db := by
  unfold handleCreateProject
  split
  · exact placed
  · rename_i req
    have created : ∀ org, PoolsPlaced
        (createProjectFrom server run s { req with orgID := org } creator).1.db := by
      intro org
      rcases free req rfl with refused | ⟨unused, space⟩
      · have none : ¬ (refusesCreate server req).isNone = true := by
          rw [Option.isSome_iff_ne_none] at refused
          simpa using refused
        exact poolsPlaced_createProjectFrom server works placed
          (fun accepted => absurd accepted none) (fun accepted => absurd accepted none)
      · exact poolsPlaced_createProjectFrom server works placed (fun _ => unused) (fun _ => space)
    split
    · exact created orgHeader
    · exact created req.orgID

theorem poolsPlaced_createDeployment (placed : PoolsPlaced s.db) (own : Placed s.db d.vmIDs) :
    PoolsPlaced (s.createDeployment run d).1.db :=
  placed.createDeployment _ own

theorem Filling.of_db {before after : Session}
    (filling : Filling leaving ⟨before, proj, deployment⟩) (same : after.db = before.db) :
    Filling leaving ⟨after, proj, deployment⟩ := by
  obtain ⟨db, heap, writes, decrypted⟩ := after
  subst same
  exact ⟨filling.placed, filling.project, filling.deployment, filling.owner, filling.named,
    filling.stored, filling.apart, filling.outside⟩

theorem Filling.getD (filling : Filling leaving boot) (shared : boot.deployment.isSome = true)
    (d : Deployment) :
    Placed boot.session.db (boot.deployment.getD d).vmIDs ∧
      ∀ id ∈ leaving, id ∉ (boot.deployment.getD d).vmIDs := by
  obtain ⟨filled, into⟩ := Option.isSome_iff_exists.mp shared
  rw [into]
  exact ⟨filling.deployment filled into, filling.outside filled into⟩

theorem poolsPlaced_launchDeployment {req : DeploymentReq}
    (works : ∀ position, run.write position = none) (filling : Filling [] ⟨s, proj, some d⟩)
    (empty : d.vmIDs = [])
    (free : room s.db run proj.id (List.range (deploymentReplicas req proj).toNat) = true) :
    PoolsPlaced (launchDeployment server run s proj d req).1.db := by
  unfold launchDeployment
  split
  · exact poolsPlaced_createDeployment filling.placed (filling.deployment d rfl)
  · have decoded := filling.of_db (db_decode s req.env)
    have grown : Filling [] (bootDeployment server run (s.decode req.env).1 proj d req
        (s.decode req.env).2) := by
      unfold bootDeployment
      rw [List.range_eq_range'] at free ⊢
      refine decoded.bootReplicas server works _ (deploymentImage req proj) 0 _ (fun _ _ => rfl) ?_
        (fun _ => by simp [Boot.pool, empty])
      rwa [db_decode]
    have shared := (bootReplicas_keeps server run
      (fun _ => replicaReq (proj.name ++ "-" ++ deploymentTag run req) (deploymentImage req proj)
        (deploymentReplicas req proj) (s.decode req.env).2
        (projPorts (s.decode req.env).1.db proj))
      ⟨(s.decode req.env).1, proj, some d⟩
      (List.range (deploymentReplicas req proj).toNat)).2
    exact poolsPlaced_createDeployment grown.placed (grown.getD shared d).1

theorem poolsPlaced_handleCreateDeployment {body : Except String DeploymentReq}
    (works : ∀ position, run.write position = none) (placed : PoolsPlaced s.db)
    (free : ∀ req doc, body = .ok req → getProject s.db run.getFails id = some doc →
      room s.db run doc.id
        (List.range (deploymentReplicas req (withEnv doc none)).toNat) = true) :
    PoolsPlaced (handleCreateDeployment server run s id body).1.db := by
  rcases handleCreateDeployment_cases server run s id body with
    ⟨same, -⟩ | ⟨req, doc, base, _, given, found, rfl, -, same⟩
  · rwa [same]
  · rw [same]
    have new := (filling_load placed found).into
      (newDeployment run (s.load doc).1 (s.load doc).2 req base) (placed_nil _) nofun
    apply poolsPlaced_launchDeployment server works new.createOwn (vmIDs_withWeights _)
    rw [room_of_replicas (replicas_createDeployment_session _ _), db_load, id_load]
    have wanted : deploymentReplicas req (s.load doc).2 =
        deploymentReplicas req (withEnv doc none) := by
      unfold deploymentReplicas
      rw [replicasDesired_load]
      rfl
    rw [wanted]
    exact free req doc given found

theorem Filling.promoteAll (filling : Filling leaving ⟨s, proj, deployment⟩) (target : String)
    (ds : List Deployment) (owns : ∀ d ∈ ds, Placed s.db d.vmIDs)
    (outside : ∀ d ∈ ds, ∀ id ∈ leaving, id ∉ d.vmIDs) :
    Filling leaving ⟨promoteAll run target s ds, proj, deployment⟩ := by
  induction ds generalizing s with
  | nil => exact filling
  | cons d rest recurse =>
    have stored : Filling leaving
        ⟨(s.createDeployment run (promoteOne target d)).1, proj, deployment⟩ := by
      apply filling.createDeployment
      · rw [vmIDs_promoteOne]
        exact owns d List.mem_cons_self
      · rw [vmIDs_promoteOne]
        exact outside d List.mem_cons_self
    refine recurse stored ?_ (fun other member => outside other (List.mem_cons_of_mem _ member))
    intro other member
    exact (owns other (List.mem_cons_of_mem _ member)).of_replicas
      (replicas_createDeployment_session _ _)

theorem foldl_deleteVM (run : ProjectRun) (s : Session) (gone : List String) :
    (gone.foldl (Session.deleteVM run) s).db.projects = s.db.projects ∧
      (gone.foldl (Session.deleteVM run) s).db.deployments = s.db.deployments ∧
      ∀ ids, Placed s.db ids → (∀ id ∈ gone, id ∉ ids) →
        Placed (gone.foldl (Session.deleteVM run) s).db ids := by
  induction gone generalizing s with
  | nil => exact ⟨rfl, rfl, fun ids placed _ => placed⟩
  | cons id rest recurse =>
    obtain ⟨projects, deployments, lists⟩ := recurse (s.deleteVM run id)
    refine ⟨projects.trans (sameProjects_deleteReplicas _ _ _).1,
      deployments.trans (deployments_deleteReplicas _ _ _), fun ids placed apart => ?_⟩
    apply lists ids (placed.deleteVM _ (apart id List.mem_cons_self))
    exact fun other member => apart other (List.mem_cons_of_mem _ member)

theorem Filling.retire (works : ∀ position, run.write position = none)
    (filling : Filling leaving ⟨s, proj, deployment⟩) (wanted : 0 ≤ proj.replicasDesired)
    (outside : ∀ id ∈ leaving, id ∉ proj.vmIDs) :
    PoolsPlaced ((leaving.foldl (Session.deleteVM run) s).put run proj).db ∧
      ∀ ids, Placed s.db ids → (∀ id ∈ leaving, id ∉ ids) →
        Placed ((leaving.foldl (Session.deleteVM run) s).put run proj).db ids := by
  obtain ⟨projects, deployments, lists⟩ := foldl_deleteVM run s leaving
  have keeps : ∀ ids, Placed s.db ids → (∀ id ∈ leaving, id ∉ ids) →
      Placed ((leaving.foldl (Session.deleteVM run) s).put run proj).db ids := by
    intro ids placed apart
    exact (lists ids placed apart).of_replicas (replicas_put _ _)
  have admits : ∀ row : ProjectRow, row.id = proj.id → row.doc.name = proj.name →
      row.doc.replicasDesired = proj.replicasDesired → refusesProject s.db row = false := by
    intro row id name desired
    rw [refusesProject_eq_false, desired]
    refine ⟨fun other member same => ?_, wanted⟩
    rw [id]
    exact filling.named other member (same.trans name)
  refine ⟨?_, keeps⟩
  apply filling.placed.put_of ((leaving.foldl (Session.deleteVM run) s).row proj)
  · intro row member
    have admitted : refusesProject (leaving.foldl (Session.deleteVM run) s).db
        ((leaving.foldl (Session.deleteVM run) s).row proj) = false := by
      unfold refusesProject
      rw [projects]
      exact admits _ rfl rfl rfl
    change row ∈ (putProject (leaving.foldl (Session.deleteVM run) s).db (run.write _)
      ((leaving.foldl (Session.deleteVM run) s).row proj)).projects.rows at member
    rw [works, mem_putProject_stored _ _ _ admitted, projects] at member
    exact member
  · exact admits _ rfl rfl rfl
  · exact keeps _ filling.project outside
  · intro row member other
    exact keeps _ (filling.placed.projects row member)
      fun id leaves => (filling.apart id leaves).2 row member other
  · intro d member
    have same : ((leaving.foldl (Session.deleteVM run) s).put run proj).db.deployments =
        s.db.deployments := (deployments_putProject _ _ _).trans deployments
    rw [same] at member
    exact keeps _ (filling.placed.deployments d member)
      fun id leaves => (filling.apart id leaves).1 d member

theorem bootPromoted_keeps (run : ProjectRun) (s : Session) (proj : Project Ref) (d : Deployment) :
    (∃ ids, (bootPromoted server run s proj d).proj = { proj with vmIDs := ids }) ∧
      (bootPromoted server run s proj d).deployment.isSome = true :=
  bootReplicas_keeps server run _ ⟨s, proj, some d⟩ _

theorem Filling.bootPromoted (works : ∀ position, run.write position = none)
    (filling : Filling leaving ⟨s, proj, some d⟩)
    (free : room s.db run proj.id
      (if d.vmIDs.isEmpty then List.range proj.replicasDesired.toNat else []) = true) :
    Filling leaving (bootPromoted server run s proj d) := by
  unfold Projects.bootPromoted
  split
  · rename_i empty
    rw [if_pos empty, List.range_eq_range'] at free
    rw [List.range_eq_range']
    exact filling.bootReplicas server works _ proj.image 0 _ (fun _ _ => rfl) free
      (fun _ => by simpa [Boot.pool] using empty)
  · exact filling

theorem Filling.poolsPlaced_promoted (works : ∀ position, run.write position = none)
    (filling : Filling leaving boot) (wanted : 0 ≤ boot.proj.replicasDesired) {new : Deployment}
    (own : Placed boot.session.db new.vmIDs) (outside : ∀ id ∈ leaving, id ∉ new.vmIDs) :
    PoolsPlaced (((leaving.foldl (Session.deleteVM run) (Projects.promoteAll run new.id boot.session
      (listDeployments boot.session.db (run.deploymentRows 1) boot.proj.id))).put run
        { boot.proj with vmIDs := new.vmIDs }).createDeployment run (liveDeployment new)).1.db := by
  have turned : Filling leaving
      ⟨boot.session, { boot.proj with vmIDs := new.vmIDs }, boot.deployment⟩ :=
    { filling with project := own }
  have promoted : Filling leaving ⟨Projects.promoteAll run new.id boot.session
      (listDeployments boot.session.db (run.deploymentRows 1) boot.proj.id),
      { boot.proj with vmIDs := new.vmIDs }, boot.deployment⟩ := by
    apply turned.promoteAll
    · intro other member
      obtain ⟨row, stored, -, lists⟩ := mem_listDeployments _ _ _ other member
      rw [← lists]
      exact filling.placed.deployments row stored
    · intro other member id leaves
      obtain ⟨row, stored, -, lists⟩ := mem_listDeployments _ _ _ other member
      rw [← lists]
      exact (filling.apart id leaves).1 row stored
  obtain ⟨placed, keeps⟩ := promoted.retire works wanted outside
  exact placed.createDeployment _ (keeps _ promoted.project outside)

theorem poolsPlaced_promote {keepOld : Bool} (works : ∀ position, run.write position = none)
    (filling : Filling (if keepOld then [] else proj.vmIDs) ⟨s, proj, some d⟩)
    (wanted : 0 ≤ proj.replicasDesired)
    (free : room s.db run proj.id
      (if d.vmIDs.isEmpty then List.range proj.replicasDesired.toNat else []) = true) :
    PoolsPlaced (promote server run s proj d keepOld).1.db := by
  have imaged : Filling (if keepOld then [] else proj.vmIDs)
      ⟨s, { proj with image := d.imageDigest }, some d⟩ :=
    ⟨filling.placed, filling.project, filling.deployment, filling.owner, filling.named,
      filling.stored, filling.apart, filling.outside⟩
  have grown := imaged.bootPromoted server works free
  obtain ⟨⟨ids, same⟩, shared⟩ := bootPromoted_keeps server run s
    { proj with image := d.imageDigest } d
  have desired : 0 ≤ (bootPromoted server run s
      { proj with image := d.imageDigest } d).proj.replicasDesired := by
    rw [same]
    exact wanted
  obtain ⟨own, outside⟩ := grown.getD shared d
  have done := grown.poolsPlaced_promoted works desired own outside
  cases keepOld with
  | true | false => exact done

theorem Filling.leave (filling : Filling [] boot) (ids : List String)
    (alone : boot.deployment = none)
    (stored : ∀ id ∈ ids, ∃ vm ∈ boot.session.db.replicas.rows, vm.id = id)
    (unlisted : ∀ id ∈ ids, unlisted boot.session.db boot.proj.id id = true) :
    Filling ids boot := by
  refine { filling with stored := stored, apart := ?_, outside := ?_ }
  · exact fun id member => (unlisted_eq_true _ _ _).mp (unlisted id member)
  · intro d given
    rw [alone] at given
    contradiction

theorem poolsPlaced_handlePromoteDeployment {target : String} {keepOld : Bool}
    (works : ∀ position, run.write position = none) (placed : PoolsPlaced s.db)
    (free : ∀ doc d, getProject s.db run.getFails id = some doc →
      (listDeployments s.db (run.deploymentRows 0) doc.id).find? (·.id = target) = some d →
      room s.db run doc.id
          (if d.vmIDs.isEmpty then List.range doc.replicasDesired.toNat else []) = true ∧
        (keepOld = true ∨ ∀ id ∈ doc.vmIDs, unlisted s.db doc.id id = true)) :
    PoolsPlaced (handlePromoteDeployment server run s id target keepOld).1.db := by
  rcases handlePromoteDeployment_cases server run s id target keepOld with
    ⟨same, -⟩ | ⟨doc, d, found, chosen, -, same⟩
  · rwa [same]
  · rw [same]
    obtain ⟨space, old⟩ := free doc d found chosen
    obtain ⟨row, stored, -, lists⟩ :=
      mem_listDeployments _ _ _ d (List.mem_of_find?_eq_some chosen)
    have filling := filling_load placed found
    have leaving := filling.leave (if keepOld then [] else (s.load doc).2.vmIDs) rfl
      (by
        intro id member
        split at member
        · contradiction
        · obtain ⟨i, listed⟩ := List.mem_iff_getElem?.mp member
          obtain ⟨vm, kept, named, -⟩ := filling.project i id listed
          exact ⟨vm, kept, named⟩)
      (by
        intro id member
        rw [db_load, id_load]
        split at member
        · contradiction
        · rename_i drops
          rw [vmIDs_load] at member
          exact (old.resolve_left drops) id member)
    have into := leaving.into d
      (by rw [db_load, ← lists]; exact placed.deployments row stored)
      (by
        intro id member
        rw [← lists]
        refine (leaving.apart id member).1 row ?_
        rwa [db_load])
    apply poolsPlaced_promote server works into
    · rw [replicasDesired_load]
      obtain ⟨stored, member, -, rfl⟩ := getProject_eq_some found
      exact placed.wanted stored member
    · rwa [db_load, id_load, replicasDesired_load]

theorem poolsPlaced_handleReplicaDelete {n : String} (placed : PoolsPlaced s.db)
    (last : ∀ doc, getProject s.db run.getFails id = some doc →
      replicaIndex n < 0 ∨ (doc.vmIDs.length : Int) ≤ replicaIndex n + 1) :
    PoolsPlaced (handleReplicaDelete run s id n).1.db := by
  unfold handleReplicaDelete
  split
  · exact placed
  · rename_i doc found
    have filling := filling_load placed found
    have final := last doc found
    simp only
    split
    · exact filling.placed
    · rename_i inside
      have bounds : 0 ≤ replicaIndex n ∧ replicaIndex n < (s.load doc).2.vmIDs.length := by
        simpa [not_or] using inside
      apply filling.poolsPlaced_put
      have shortened : (s.load doc).2.vmIDs.eraseIdx (replicaIndex n).toNat =
          (s.load doc).2.vmIDs.take (replicaIndex n).toNat := by
        rw [vmIDs_load] at bounds ⊢
        rw [List.eraseIdx_eq_take_drop_succ, List.drop_eq_nil_of_le (by omega), List.append_nil]
      rw [shortened]
      exact filling.project.take _

theorem Filling.shorten (filling : Filling leaving ⟨s, proj, deployment⟩) (id : String)
    (last : id ∈ proj.vmIDs → proj.vmIDs.getLast? = some id) :
    Filling leaving
      ⟨s, { proj with vmIDs := proj.vmIDs.filter (· ≠ id) }, deployment⟩ := by
  have shorter : Placed s.db (proj.vmIDs.filter (· ≠ id)) := by
    rw [filling.project.filter_last id last]
    exact filling.project.take _
  exact { filling with project := shorter }

theorem load_deleteVM (s : Session) (id : String) (doc : Project EnvMap) :
    (s.deleteVM run id).load doc = ((s.load doc).1.deleteVM run id, (s.load doc).2) := by
  unfold Session.load
  cases doc.env <;> rfl

theorem poolsPlaced_deleteVM (placed : PoolsPlaced s.db)
    (deployments : ∀ d ∈ s.db.deployments.rows, id ∉ d.vmIDs)
    (projects : ∀ row ∈ s.db.projects.rows, id ∉ row.doc.vmIDs) :
    PoolsPlaced (s.deleteVM run id).db := by
  apply placed.of_projects (sameProjects_deleteReplicas _ _ _).1
  · exact fun row member => (placed.projects row member).deleteVM _ (projects row member)
  · rw [deployments_deleteReplicas]
    exact fun d member => (placed.deployments d member).deleteVM _ (deployments d member)

theorem poolsPlaced_handleVMCompatDelete {replicaID : String} (succeeds : Succeeds run)
    (placed : PoolsPlaced s.db)
    (free : ∀ vm, getVM s.db replicaID = some vm →
      unlisted s.db vm.projectID vm.id = true ∧
        ∀ doc, getProject s.db run.getFails vm.projectID = some doc →
          vm.id ∈ doc.vmIDs → doc.vmIDs.getLast? = some vm.id) :
    PoolsPlaced (handleVMCompatDelete run s replicaID).1.db := by
  unfold handleVMCompatDelete
  split
  · exact placed
  · rename_i vm chosen
    obtain ⟨alone, last⟩ := free vm chosen
    obtain ⟨stored, -⟩ := (Table.find_eq_some _ _ _).mp chosen
    obtain ⟨deployments, projects⟩ := (unlisted_eq_true _ _ _).mp alone
    have reads : getProject (s.deleteVM run vm.id).db run.getFails vm.projectID =
        getProject s.db run.getFails vm.projectID := by
      have same : (s.deleteVM run vm.id).db.projects = s.db.projects :=
        (sameProjects_deleteReplicas _ _ _).1
      unfold getProject
      rw [same]
    simp only [reads]
    split
    · rename_i missing
      apply poolsPlaced_deleteVM placed deployments
      intro row member
      apply projects row member
      simp only [getProject, succeeds.1, Bool.false_eq_true, if_false, Option.map_eq_none_iff,
        Table.find_eq_none] at missing
      exact missing row member
    · rename_i doc found
      have filling := filling_load placed found
      have ends : vm.id ∈ (s.load doc).2.vmIDs → (s.load doc).2.vmIDs.getLast? = some vm.id := by
        rw [vmIDs_load]
        exact last doc found
      obtain ⟨row, member, owner, rfl⟩ := getProject_eq_some found
      have leaving := (filling.shorten vm.id ends).leave [vm.id] rfl
        (by
          intro id member
          obtain rfl := List.mem_singleton.mp member
          exact ⟨vm, by rwa [db_load], rfl⟩)
        (by
          intro id member
          obtain rfl := List.mem_singleton.mp member
          have same : (s.load row.doc).2.id = vm.projectID := (id_load s row.doc).trans owner
          rw [db_load]
          rwa [same])
      rw [load_deleteVM]
      refine (leaving.retire succeeds.2 ?_ ?_).1
      · rw [replicasDesired_load]
        exact placed.wanted row member
      · simp

end Handlers

@[simp] theorem db_start (db : ProjectDb) (decrypted : List ProjectPair) :
    (Session.start db decrypted).db = db := rfl

theorem poolsPlaced_poolStep (server : Server) {db : ProjectDb} (call : ProjectRun × PoolCall)
    (placed : PoolsPlaced db) (succeeds : Succeeds call.1)
    (finds : findsRoom server db call = true) : PoolsPlaced (poolStep server db call) := by
  obtain ⟨run, call⟩ := call
  have works := succeeds.2
  cases call with
  | createProject orgHeader creator body =>
    refine poolsPlaced_handleCreateProject server works placed ?_
    rintro req rfl
    simpa [findsRoom] using finds
  | scale id body =>
    refine poolsPlaced_handleScale server works placed ?_
    rintro replicas doc rfl found
    rw [db_start] at found ⊢
    simpa only [findsRoom, found, Option.all_some] using finds
  | scaleService id service body =>
    refine poolsPlaced_handleScaleService server works placed ?_
    rintro replicas doc rfl found
    rw [db_start] at found ⊢
    simpa only [findsRoom, found, Option.all_some] using finds
  | createDeployment id body =>
    refine poolsPlaced_handleCreateDeployment server works placed ?_
    rintro req doc rfl found
    rw [db_start] at found ⊢
    simpa only [findsRoom, found, Option.all_some] using finds
  | promote id target keepOld =>
    refine poolsPlaced_handlePromoteDeployment server works placed ?_
    intro doc d found chosen
    rw [db_start] at found chosen ⊢
    simpa only [findsRoom, found, chosen, Option.all_some, Bool.and_eq_true, Bool.or_eq_true,
      List.all_eq_true] using finds
  | deleteReplica id n =>
    refine poolsPlaced_handleReplicaDelete placed ?_
    intro doc found
    rw [db_start] at found
    simpa only [findsRoom, found, Option.all_some, Bool.or_eq_true, decide_eq_true_eq] using finds
  | deleteVM replicaID =>
    refine poolsPlaced_handleVMCompatDelete succeeds placed ?_
    intro vm chosen
    rw [db_start] at chosen ⊢
    simp only [findsRoom, chosen, Option.all_some, Bool.and_eq_true] at finds
    refine ⟨finds.1, fun doc found listed => ?_⟩
    have ends := finds.2
    simp only [found, Option.all_some, Bool.or_eq_true, decide_eq_true_eq] at ends
    exact ends.resolve_left (absurd listed)

/-- Along every run of requests whose statements succeed on rows as they expect them, the lists of
all projects and deployments agree with the rows. -/
theorem pools_consistent (server : Server) (calls : List (ProjectRun × PoolCall))
    (succeed : ∀ call ∈ calls, Succeeds call.1)
    (guarded : Guarded (poolStep server) (fun db call => findsRoom server db call = true)
      ProjectDb.empty calls) :
    PoolsConsistent (run (poolStep server) ProjectDb.empty calls) := by
  have both : Guarded (poolStep server)
      (fun db call => findsRoom server db call = true ∧ Succeeds call.1) ProjectDb.empty calls := by
    rw [guarded_iff] at guarded ⊢
    rintro before call after rfl
    exact ⟨guarded before call after rfl, succeed call (by simp)⟩
  have placed := run_invariant (poolStep server)
    (fun db call => findsRoom server db call = true ∧ Succeeds call.1) PoolsPlaced
    (fun _ call placed asked => poolsPlaced_poolStep server call placed asked.2 asked.1)
    ProjectDb.empty calls poolsPlaced_empty both
  exact placed.consistent

def poolRun (vmStem : String) : ProjectRun := ProjectRun.plain "p" vmStem

def poolDeployment : DeploymentReq where
  image := "base://alpine"
  env := none
  tag := "v2"
  commit := ""
  gitURL := ""
  trafficPct := 0
  replicas := 1
  guestBase := ""

def poolCalls : List (ProjectRun × PoolCall) :=
  [(poolRun "a", .createProject "" "ana" (.ok (shopReq none))),
    (poolRun "b", .scale "p" (.ok 2)),
    (poolRun "c", .scaleService "p" "web" (.ok 3)),
    (poolRun "", .deleteVM "c2"),
    (poolRun "", .deleteReplica "p" "1"),
    (poolRun "", .deleteVM "b1"),
    (poolRun "", .deleteVM "a0"),
    ({ poolRun "d" with deploymentID := "d" }, .createDeployment "p" (.ok poolDeployment)),
    (poolRun "", .promote "p" "d" false)]

theorem pools_consistent_example :
    Guarded (poolStep shopServer) (fun db call => findsRoom shopServer db call = true)
        ProjectDb.empty poolCalls ∧
      PoolsConsistent (run (poolStep shopServer) ProjectDb.empty poolCalls) := by
  have guarded : Guarded (poolStep shopServer)
      (fun db call => findsRoom shopServer db call = true) ProjectDb.empty poolCalls := by
    decide +kernel
  refine ⟨guarded, pools_consistent _ _ ?_ guarded⟩
  intro call member
  simp only [poolCalls, List.mem_cons, List.not_mem_nil, or_false] at member
  rcases member with rfl | rfl | rfl | rfl | rfl | rfl | rfl | rfl | rfl <;>
    exact ⟨rfl, fun _ => rfl⟩

def rescaleCalls : List (ProjectRun × PoolCall) :=
  [(poolRun "a", .createProject "" "ana" (.ok (shopReq none))),
    (poolRun "b", .scale "p" (.ok 0)),
    (poolRun "c", .scale "p" (.ok 1))]

theorem rescaled_pool_lists_missing_row :
    ¬ PoolsConsistent (run (poolStep shopServer) ProjectDb.empty rescaleCalls) := by
  rintro ⟨consistent, -⟩
  have listed : ∃ row ∈ (run (poolStep shopServer) ProjectDb.empty rescaleCalls).projects.rows,
      "c0" ∈ row.doc.vmIDs := by
    decide +kernel
  have missing : ∀ vm ∈ (run (poolStep shopServer) ProjectDb.empty rescaleCalls).replicas.rows,
      vm.id ≠ "c0" := by
    decide +kernel
  obtain ⟨row, stored, listed⟩ := listed
  obtain ⟨vm, kept, named⟩ := (consistent row stored).stored "c0" listed
  exact missing vm kept named

end Porter.Api.Projects
