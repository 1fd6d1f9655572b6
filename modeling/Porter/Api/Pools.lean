import Mathlib.Algebra.Group.Int.Defs
import Porter.Api.Boots
import Porter.Run.Guarded
import Porter.Store.Pools

/-!
# Requests on replica pools

The remaining handlers that change a pool: scaling a service, deleting a replica by its position and
deleting a VM by its id.
-/
namespace Porter.Api.Projects

open Sql Go Store

structure ServiceScale where
  service : String
  desired : Int
  current : Int
  status : String

variable (server : Server) (run : ProjectRun) (s : Session)

/-- `handleScaleService`. The request of the new replicas is built once, before the loop. -/
def handleScaleService (id service : String) (body : Except String Int) :
    Session × Response ServiceScale :=
  match body with
  | .error err => (s, badRequest err)
  | .ok replicas =>
    match getProject s.db run.getFails id with
    | none => (s, .error statusNotFound "project not found")
    | some doc =>
      if replicas < 0 then (s, .error statusBadRequest "replicas must be >= 0")
      else
        let (s, proj) := s.load doc
        let wanted := replicas.toNat
        let cur := proj.vmIDs.length
        let spec := ownReq 1 ⟨s, proj, none⟩
        let boot := bootReplicas server run (fun _ => spec) ⟨s, proj, none⟩
          (List.range' cur (wanted - cur))
        let kept := if wanted < cur then boot.proj.vmIDs.take wanted else boot.proj.vmIDs
        let proj := { boot.proj with
          vmIDs := kept, replicasDesired := (wanted : Int), replicas := (wanted : Int) }
        (boot.session.put run proj, .json statusOK ⟨service, wanted, kept.length, "applied"⟩)

def atoi (text : String) : Option Int :=
  let (negative, digits) := match text.toList with
    | '-' :: rest => (true, rest)
    | '+' :: rest => (false, rest)
    | all => (false, all)
  if digits.isEmpty || !digits.all Char.isDigit then none
  else
    let size := digits.foldl (fun n c => n * 10 + (c.toNat - '0'.toNat)) 0
    let value : Int := if negative then -size else size
    if -2 ^ 63 ≤ value && value < 2 ^ 63 then some value else none

def replicaIndex (n : String) : Int := (atoi n).getD (-1)

/-- `handleReplicaDelete`. The replica leaves the list of the project, and its row stays. -/
def handleReplicaDelete (id n : String) : Session × Response ProjectReply :=
  match getProject s.db run.getFails id with
  | none => (s, projectNotFound)
  | some doc =>
    let (s, proj) := s.load doc
    let idx := replicaIndex n
    if idx < 0 || idx ≥ proj.vmIDs.length then (s, .error statusNotFound "replica not found")
    else
      let proj := { proj with vmIDs := proj.vmIDs.eraseIdx idx.toNat }
      (s.put run proj, .json statusOK (.status "deleted"))

/-- `handleVMCompatDelete`. The row goes, and the id leaves the list of the project. -/
def handleVMCompatDelete (replicaID : String) : Session × Response ProjectReply :=
  match getVM s.db replicaID with
  | none => (s, .error statusNotFound "replica not found")
  | some vm =>
    let s := s.deleteVM run vm.id
    match getProject s.db run.getFails vm.projectID with
    | none => (s, .json statusOK (.status "deleted"))
    | some doc =>
      let (s, proj) := s.load doc
      let proj := { proj with vmIDs := proj.vmIDs.filter (· ≠ vm.id) }
      (s.put run proj, .json statusOK (.status "deleted"))

inductive PoolCall where
  | createProject (orgHeader creator : String) (body : Except String (CreateProjectReq EnvMap))
  | scale (id : String) (body : Except String Int)
  | scaleService (id service : String) (body : Except String Int)
  | createDeployment (id : String) (body : Except String DeploymentReq)
  | promote (id target : String) (keepOld : Bool)
  | deleteReplica (id n : String)
  | deleteVM (replicaID : String)

variable (db : ProjectDb)

def poolStep (call : ProjectRun × PoolCall) : ProjectDb :=
  let s := Session.start db []
  match call.2 with
  | .createProject orgHeader creator body =>
    (handleCreateProject server call.1 s orgHeader creator body).1.db
  | .scale id body => (handleScale server call.1 s id body).1.db
  | .scaleService id service body => (handleScaleService server call.1 s id service body).1.db
  | .createDeployment id body => (handleCreateDeployment server call.1 s id body).1.db
  | .promote id target keepOld => (handlePromoteDeployment server call.1 s id target keepOld).1.db
  | .deleteReplica id n => (handleReplicaDelete call.1 s id n).1.db
  | .deleteVM replicaID => (handleVMCompatDelete call.1 s replicaID).1.db

def Succeeds : Prop :=
  run.getFails = false ∧ ∀ position, run.write position = none

/-- The replicas get ids of their own, and no row of the project has one of the indices. -/
def room (run : ProjectRun) (projectID : String) (indices : List Nat) : Bool :=
  (indices.map run.vmID).Nodup && indices.all (fun i => Vacant db (run.vmID i) projectID i)

def growth (doc : Project EnvMap) (wanted : Nat) : List Nat :=
  List.range' doc.vmIDs.length (wanted - doc.vmIDs.length)

def unlisted (projectID id : String) : Bool :=
  db.deployments.rows.all (fun d => id ∉ d.vmIDs) &&
    db.projects.rows.all (fun row => row.id = projectID || id ∉ row.doc.vmIDs)

def findsRoom (call : ProjectRun × PoolCall) : Bool :=
  let run := call.1
  match call.2 with
  | .createProject _ _ (.ok req) =>
    (refusesCreate server req).isSome ||
      db.projects.rows.all (fun row => row.doc.name ≠ req.name) &&
        room db run run.newID (List.range (if req.replicas < 1 then 1 else req.replicas).toNat)
  | .scale id (.ok replicas) | .scaleService id _ (.ok replicas) =>
    (getProject db run.getFails id).all (fun doc =>
      room db run doc.id (growth doc replicas.toNat))
  | .createDeployment id (.ok req) =>
    (getProject db run.getFails id).all (fun doc =>
      room db run doc.id (List.range (deploymentReplicas req (withEnv doc none)).toNat))
  | .promote id target keepOld =>
    (getProject db run.getFails id).all (fun doc =>
      ((listDeployments db (run.deploymentRows 0) doc.id).find? (·.id = target)).all (fun d =>
        room db run doc.id
            (if d.vmIDs.isEmpty then List.range doc.replicasDesired.toNat else []) &&
          (keepOld || doc.vmIDs.all (unlisted db doc.id))))
  | .deleteReplica id n =>
    (getProject db run.getFails id).all (fun doc =>
      replicaIndex n < 0 || (doc.vmIDs.length : Int) ≤ replicaIndex n + 1)
  | .deleteVM replicaID =>
    (getVM db replicaID).all (fun vm =>
      unlisted db vm.projectID vm.id &&
        (getProject db run.getFails vm.projectID).all (fun doc =>
          vm.id ∉ doc.vmIDs || doc.vmIDs.getLast? = some vm.id))
  | _ => true

end Porter.Api.Projects
