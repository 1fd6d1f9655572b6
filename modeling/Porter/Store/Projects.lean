import Mathlib.Data.List.Sort
import Porter.Go.Heap
import Porter.Sql.Rows
import Porter.Store.Resources

/-!
# Projects, replicas, deployments and secrets

The rows behind the deployment routes and the statements on them.
-/
namespace Porter.Store

open Sql Go

abbrev EnvMap := GoMap String String

structure Healthcheck where
  kind : String
  path : String
  port : Int
  intervalSec : Int
deriving DecidableEq

/-- `types.Project`, with environments `μ`: references in memory, contents in a document. -/
structure Project (μ : Type) where
  id : String
  orgID : String
  name : String
  source : String
  image : String
  network : String
  vmIDs : List String
  hostMountPath : String
  replicasDesired : Int
  restartPolicy : String
  healthcheck : Option Healthcheck
  env : Option μ
  tags : List String
  sshEnabled : Bool
  replicas : Int
  createdBy : String

structure Port where
  containerPort : Int
  hostPort : Int
  protocol : String
deriving DecidableEq

inductive VMState where
  | pending | booting | running | stopping | stopped | failed | deleting | deleted
deriving DecidableEq

inductive HealthStatus where
  | healthy | unhealthy | checking | unknown | degraded
deriving DecidableEq

/-- `types.VM` as stored in `replicas`, with the contents of its environment. -/
structure VM where
  id : String
  name : String
  projectID : String
  serviceName : String
  state : VMState
  healthStatus : HealthStatus
  image : String
  replicaIndex : Int
  vcpus : Int
  memMiB : Int
  ports : List Port
  env : EnvMap
  volumeID : String
  deploymentID : String
  deploymentVersion : String
  deploymentEnv : String
  guestBase : String
  rootfsPath : String
  kernel : String
  error : String

structure DeploymentCheck where
  name : String
  status : String
  detail : String
deriving DecidableEq

/-- `types.Deployment`. The statements do not write `Revision`: the column is a sequence. -/
structure Deployment where
  id : String
  projectID : String
  buildStatus : String
  imageDigest : String
  rollbackTo : String
  gitURL : String
  gitCommit : String
  checks : List DeploymentCheck
  rolloutPercent : Int
  versionLabel : String
  guestBase : String
  environment : String
  isProduction : Bool
  routeWeight : Int
  vmIDs : List String
deriving DecidableEq

structure ProjectRow where
  doc : Project EnvMap
  env : Option EnvMap

def ProjectRow.id (row : ProjectRow) : String := row.doc.id

variable (new old : ProjectRow)

def ProjectRow.overwrite : ProjectRow :=
  { new with doc := { new.doc with id := old.doc.id } }

theorem ProjectRow.overwrite_id : (new.overwrite old).id = old.id := rfl

theorem ProjectRow.overwrite_eq (same : old.id = new.id) : new.overwrite old = new := by
  have ids : old.doc.id = new.doc.id := same
  simp [ProjectRow.overwrite, ids]

def Secret.slot (secret : Secret) : String × String := (secret.projectID, secret.name)

structure ProjectDb where
  projects : Table ProjectRow.id
  secrets : Table Secret.slot
  replicas : Table VM.id
  deployments : Table Deployment.id
  owned : ∀ secret ∈ secrets.rows, ∃ row ∈ projects.rows, row.id = secret.projectID

variable (db : ProjectDb)

namespace ProjectDb

def empty : ProjectDb where
  projects := Table.empty ProjectRow.id
  secrets := Table.empty Secret.slot
  replicas := Table.empty VM.id
  deployments := Table.empty Deployment.id
  owned := by simp [Table.empty]

def hasProject (db : ProjectDb) (id : String) : Bool := (db.projects.find id).isSome

theorem hasProject_eq_true (id : String) :
    db.hasProject id = true ↔ ∃ row ∈ db.projects.rows, row.id = id := by
  unfold hasProject
  rw [Option.isSome_iff_exists]
  simp only [Table.find_eq_some]

theorem no_secrets (id : String) (absent : db.projects.find id = none) (secret : Secret)
    (stored : secret ∈ db.secrets.rows) : secret.projectID ≠ id := by
  obtain ⟨row, member, owner⟩ := db.owned secret stored
  rw [← owner]
  exact (Table.find_eq_none _ _).mp absent row member

end ProjectDb

def getProject (db : ProjectDb) (fails : Bool) (id : String) : Option (Project EnvMap) :=
  if fails then none else (db.projects.find id).map ProjectRow.doc

theorem getProject_eq_some {db : ProjectDb} {fails : Bool} {id : String} {doc : Project EnvMap}
    (found : getProject db fails id = some doc) :
    ∃ row ∈ db.projects.rows, row.id = id ∧ row.doc = doc := by
  unfold getProject at found
  split at found
  · contradiction
  · obtain ⟨row, stored, same⟩ := Option.map_eq_some_iff.mp found
    obtain ⟨member, keyed⟩ := (Table.find_eq_some _ _ _).mp stored
    exact ⟨row, member, keyed, same⟩

def refusesProject (db : ProjectDb) (row : ProjectRow) : Bool :=
  db.projects.rows.any (fun other => other.doc.name = row.doc.name && other.id ≠ row.id) ||
    row.doc.replicasDesired < 0

def putProject (db : ProjectDb) (fault : Option String) (row : ProjectRow) : ProjectDb :=
  if fault.isSome || refusesProject db row then db
  else { db with
    projects := db.projects.upsert row row.overwrite row.overwrite_id
    owned := by
      intro secret stored
      obtain ⟨owner, member, same⟩ := db.owned secret stored
      obtain ⟨after, kept, id⟩ := db.projects.key_upsert row row.overwrite row.overwrite_id member
      exact ⟨after, kept, id.trans same⟩ }

variable (fault : Option String)

theorem mem_putProject (row : ProjectRow) (member : row ∈ (putProject db fault new).projects.rows) :
    row = new ∨ row ∈ db.projects.rows := by
  unfold putProject at member
  split at member
  · exact Or.inr member
  · rcases (Table.mem_upsert _ _ _ _ (ProjectRow.overwrite_eq new) row).mp member with rfl | old
    · exact Or.inl rfl
    · exact Or.inr old.1

@[simp] theorem secrets_putProject (row : ProjectRow) :
    (putProject db fault row).secrets = db.secrets := by
  unfold putProject
  split <;> rfl

def Secret.reseal (new old : Secret) : Secret := { old with valueEncrypted := new.valueEncrypted }

theorem Secret.reseal_slot (new old : Secret) : (new.reseal old).slot = old.slot := rfl

def secretOwnerMissing : String :=
  "ERROR: insert or update on table \"secrets\" violates foreign key constraint " ++
    "\"secrets_project_id_fkey\" (SQLSTATE 23503)"

def secretIDTaken : String :=
  "ERROR: duplicate key value violates unique constraint \"secrets_pkey\" (SQLSTATE 23505)"

/-- `PutSecret`. The conflict on project and name is looked for before the other constraints. -/
def putSecret (db : ProjectDb) (fault : Option String) (secret : Secret) :
    Except String ProjectDb :=
  match fault with
  | some err => .error err
  | none =>
    if (db.secrets.find secret.slot).isNone && db.secrets.rows.any (·.id = secret.id) then
      .error secretIDTaken
    else if owner : db.hasProject secret.projectID = true then
      .ok { db with
        secrets := db.secrets.upsert secret secret.reseal secret.reseal_slot
        owned := by
          intro stored member
          by_cases same : stored.slot = secret.slot
          · have project : stored.projectID = secret.projectID := congrArg Prod.fst same
            rw [project]
            exact (db.hasProject_eq_true _).mp owner
          · exact db.owned stored ((Table.mem_upsert_of_ne _ _ _ _ stored same).mp member) }
    else .error secretOwnerMissing

theorem projects_putSecret {db next : ProjectDb} {fault : Option String} {secret : Secret}
    (stored : putSecret db fault secret = .ok next) : next.projects = db.projects := by
  unfold putSecret at stored
  split at stored
  · contradiction
  · split at stored
    · contradiction
    · split at stored
      · obtain rfl := Except.ok.inj stored
        rfl
      · contradiction

def listSecrets (db : ProjectDb) (fault : RowsFault) (projectID : String) : List Secret :=
  fault.delivered
    ((db.secrets.rows.filter (·.projectID = projectID)).insertionSort (·.name ≤ ·.name))

theorem mem_listSecrets (fault : RowsFault) (projectID : String) (secret : Secret)
    (member : secret ∈ listSecrets db fault projectID) :
    secret ∈ db.secrets.rows ∧ secret.projectID = projectID := by
  have listed := fault.delivered_subset _ member
  simpa using listed

def deleteSecret (db : ProjectDb) (secretID : String) : ProjectDb :=
  { db with
    secrets := db.secrets.deleteWhere (·.id = secretID)
    owned := by
      intro secret member
      exact db.owned secret ((Table.mem_deleteWhere _ _ _).mp member).1 }

def VM.overwrite (new old : VM) : VM := { new with id := old.id }

theorem VM.overwrite_id (new old : VM) : (new.overwrite old).id = old.id := rfl

def refusesVM (db : ProjectDb) (vm : VM) : Bool :=
  vm.projectID ≠ "" && !db.hasProject vm.projectID ||
    db.replicas.rows.any (fun other =>
      vm.projectID ≠ "" && other.projectID = vm.projectID &&
        other.replicaIndex = vm.replicaIndex && other.id ≠ vm.id)

def putVM (db : ProjectDb) (fault : Option String) (vm : VM) : ProjectDb :=
  if fault.isSome || refusesVM db vm then db
  else { db with replicas := db.replicas.upsert vm vm.overwrite vm.overwrite_id }

def getVM (db : ProjectDb) (id : String) : Option VM := db.replicas.find id

def deleteReplicas (db : ProjectDb) (fault : Option String) (p : VM → Bool) : ProjectDb :=
  if fault.isSome then db else { db with replicas := db.replicas.deleteWhere p }

def deleteVM (db : ProjectDb) (fault : Option String) (id : String) : ProjectDb :=
  deleteReplicas db fault (·.id = id)

def deleteReplicasByProject (db : ProjectDb) (fault : Option String) (projectID : String) :
    ProjectDb :=
  deleteReplicas db fault (·.projectID = projectID)

/-- `DO UPDATE SET …`, which leaves the project and the guest base alone. -/
def Deployment.overwrite (new old : Deployment) : Deployment :=
  { new with id := old.id, projectID := old.projectID, guestBase := old.guestBase }

theorem Deployment.overwrite_id (new old : Deployment) : (new.overwrite old).id = old.id := rfl

variable (d : Deployment)

def Deployment.withWeights : Deployment :=
  let d := if d.routeWeight = 0 && d.rolloutPercent ≠ 0 then
    { d with routeWeight := d.rolloutPercent } else d
  if d.rolloutPercent = 0 then { d with rolloutPercent := d.routeWeight } else d

@[simp] theorem vmIDs_withWeights : d.withWeights.vmIDs = d.vmIDs := by
  unfold Deployment.withWeights
  simp only
  split <;> split <;> rfl

def buildStatuses : List String :=
  ["pending", "building", "queued", "ready", "failed", "preview", "live"]

def Deployment.nullColumn : Option String :=
  if d.projectID = "" then some "project_id"
  else if d.versionLabel = "" then some "version_label"
  else if d.guestBase = "" then some "guest_base"
  else if d.environment = "" then some "environment"
  else none

def refusesDeployment (db : ProjectDb) (d : Deployment) : Option String :=
  match d.nullColumn with
  | some column =>
    some ("ERROR: null value in column \"" ++ column ++
      "\" of relation \"deployments\" violates not-null constraint (SQLSTATE 23502)")
  | none =>
    if d.buildStatus ∉ buildStatuses then
      some ("ERROR: new row for relation \"deployments\" violates check constraint " ++
        "\"deployments_build_status_check\" (SQLSTATE 23514)")
    else if !db.hasProject d.projectID then
      some ("ERROR: insert or update on table \"deployments\" violates foreign key constraint " ++
        "\"deployments_project_id_fkey\" (SQLSTATE 23503)")
    else if d.rollbackTo ≠ "" && (db.deployments.find d.rollbackTo).isNone then
      some ("ERROR: insert or update on table \"deployments\" violates foreign key constraint " ++
        "\"deployments_rollback_to_fkey\" (SQLSTATE 23503)")
    else none

def createDeploymentError (db : ProjectDb) (fault : Option String) (d : Deployment) :
    Option String :=
  match fault with
  | some err => some err
  | none => refusesDeployment db d.withWeights

/-- The tables after `CreateDeployment`, which also updates the weights of its argument. -/
def createDeployment (db : ProjectDb) (fault : Option String) (d : Deployment) : ProjectDb :=
  match createDeploymentError db fault d with
  | some _ => db
  | none =>
    { db with deployments :=
        db.deployments.upsert d.withWeights d.withWeights.overwrite d.withWeights.overwrite_id }

def storeDeployment (db : ProjectDb) (d : Deployment) : ProjectDb :=
  { db with deployments :=
      db.deployments.upsert d.withWeights d.withWeights.overwrite d.withWeights.overwrite_id }

/-- `SELECT … ORDER BY revision DESC`: rows are stored in the order of the sequence. -/
def listDeployments (db : ProjectDb) (fault : RowsFault) (projectID : String) : List Deployment :=
  if projectID = "" then []
  else
    (fault.delivered (db.deployments.rows.filter (·.projectID = projectID)).reverse).map
      (fun d => if d.routeWeight = 0 then { d with routeWeight := d.rolloutPercent } else d)

theorem mem_listDeployments (fault : RowsFault) (projectID : String) (d : Deployment)
    (member : d ∈ listDeployments db fault projectID) :
    ∃ row ∈ db.deployments.rows, row.id = d.id ∧ row.vmIDs = d.vmIDs := by
  unfold listDeployments at member
  split at member
  · contradiction
  · obtain ⟨row, listed, same⟩ := List.mem_map.mp member
    have stored := fault.delivered_subset _ listed
    simp only [List.mem_reverse, List.mem_filter] at stored
    refine ⟨row, stored.1, ?_⟩
    split at same
    · subst same
      exact ⟨rfl, rfl⟩
    · subst same
      exact ⟨rfl, rfl⟩

def allChecksPassed : Bool := d.checks.all (·.status = "passed")

def SameProjects (before after : ProjectDb) : Prop :=
  after.projects = before.projects ∧ after.secrets = before.secrets

theorem SameProjects.refl : SameProjects db db := ⟨rfl, rfl⟩

theorem SameProjects.trans {first second third : ProjectDb} (left : SameProjects first second)
    (right : SameProjects second third) : SameProjects first third :=
  ⟨right.1.trans left.1, right.2.trans left.2⟩

theorem sameProjects_putVM (vm : VM) : SameProjects db (putVM db fault vm) := by
  unfold putVM
  split
  · exact SameProjects.refl db
  · exact ⟨rfl, rfl⟩

theorem sameProjects_deleteReplicas (p : VM → Bool) :
    SameProjects db (deleteReplicas db fault p) := by
  unfold deleteReplicas
  split
  · exact SameProjects.refl db
  · exact ⟨rfl, rfl⟩

theorem sameProjects_createDeployment : SameProjects db (createDeployment db fault d) := by
  unfold createDeployment
  split
  · exact SameProjects.refl db
  · exact ⟨rfl, rfl⟩

end Porter.Store
