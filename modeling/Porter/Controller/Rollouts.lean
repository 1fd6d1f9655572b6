import Porter.Api.Deployments
import Porter.Api.PoolRuns

/-!
# The deployment controller

`internal/controller/deployment_controller.go`: a cycle lists the deployments of all projects and
reconciles each as it was listed.
-/
namespace Porter.Controller.Rollouts

open Api.Projects Run Sql Store

structure Build where
  id : String
  buildStatus : String
  image : String

inductive Phase where
  | building | rolling | promoting | failed | ready
deriving DecidableEq

def phase (d : Deployment) : Phase :=
  if d.buildStatus ∈ ["", "pending", "building"] then .building
  else if d.buildStatus = "failed" then .failed
  else if d.buildStatus ∈ ["completed", "success"] then
    if d.routeWeight > 0 ∧ d.routeWeight < 100 then .rolling
    else if d.isProduction = true ∧ d.routeWeight = 100 then .promoting
    else .ready
  else .building

def vmIDsByDeployment (vms : List VM) (deploymentID : String) : List String :=
  (vms.filter (·.deploymentID = deploymentID)).map VM.id

def copyCount (d : Deployment) : Int := if d.vmIDs.isEmpty then 1 else d.vmIDs.length

structure Reads where
  target : Option Deployment
  build : Option Build
  project : Option (Project EnvMap)
  counted : List VM
  observed : List VM

def reconcileBuilding (build : Option Build) (d : Deployment) : Option Deployment :=
  match build with
  | none => none
  | some build =>
    if build.buildStatus ∈ ["completed", "success"] then
      some { d with
        buildStatus := "completed"
        imageDigest := if build.image ≠ "" then build.image else d.imageDigest }
    else if build.buildStatus = "failed" then some { d with buildStatus := "failed" }
    else none

def reconcilePromoting (d : Deployment) : Deployment :=
  { d with routeWeight := 100, rolloutPercent := 100 }

def desiredReplicas (project : Option (Project EnvMap)) (d : Deployment) : Int :=
  match project with
  | none => copyCount d
  | some proj => if proj.replicasDesired > 0 then proj.replicasDesired else copyCount d

def reconcileRolling (reads : Reads) (d : Deployment) : Deployment :=
  let running : Int :=
    (reads.counted.filter (fun vm => vm.deploymentID = d.id && vm.state = .running)).length
  let desired := desiredReplicas reads.project d
  let d := { d with vmIDs := vmIDsByDeployment reads.observed d.id }
  if running ≥ desired then reconcilePromoting d
  else
    let weight := if desired > 0 then running * 100 / desired else 0
    if weight ≠ d.routeWeight then { d with routeWeight := weight, rolloutPercent := weight }
    else d

def reconcileFailed (d : Deployment) : Deployment := { d with buildStatus := "failed" }

def reconcileRollback (target : Option Deployment) (d : Deployment) : Deployment :=
  match target with
  | none => { d with rollbackTo := "" }
  | some target =>
    { d with
      imageDigest := target.imageDigest
      guestBase := target.guestBase
      environment := target.environment
      routeWeight := target.routeWeight
      buildStatus := "completed"
      rollbackTo := "" }

def reconcile (reads : Reads) (d : Deployment) : Option Deployment :=
  if d.rollbackTo ≠ "" then some (reconcileRollback reads.target d)
  else
    match phase d with
    | .building => reconcileBuilding reads.build d
    | .rolling => some (reconcileRolling reads d)
    | .promoting => some (reconcilePromoting d)
    | .failed => some (reconcileFailed d)
    | .ready => none

def listReplicas (db : ProjectDb) (fault : RowsFault) (projectID : String) : List VM :=
  fault.delivered
    ((db.replicas.rows.filter (·.projectID = projectID)).insertionSort
      (·.replicaIndex ≤ ·.replicaIndex))

structure State where
  db : ProjectDb
  builds : Table Build.id
  projects : List String
  listed : List Deployment
  pending : Option Deployment

structure ReadFaults where
  target : RowsFault
  build : Bool
  project : Bool
  counted : RowsFault
  observed : RowsFault

def ReadFaults.clean : ReadFaults := ⟨.clean, false, false, .clean, .clean⟩

def State.reads (state : State) (faults : ReadFaults) (d : Deployment) : Reads where
  target := getDeployment state.db faults.target d.projectID d.rollbackTo
  build := readRow faults.build (state.builds.find d.id)
  project := getProject state.db faults.project d.projectID
  counted := listReplicas state.db faults.counted d.projectID
  observed := listReplicas state.db faults.observed d.projectID

inductive Event where
  | request (run : ProjectRun) (call : ProjectCall)
  | deployment (run : ProjectRun) (call : DeploymentCall)
  | elsewhere (tables : ProjectDb)
  | builds (builds : Table Build.id)
  | listProjects (fault : RowsFault)
  | listDeployments (fault : RowsFault)
  | reconcile (faults : ReadFaults)
  | write (fault : Option String)

def step (server : Server) (state : State) (event : Event) : State :=
  match event with
  | .request run call =>
    { state with db := (handle server run (.start state.db []) call).1.db }
  | .deployment run call =>
    { state with db := (handleDeployment server run (.start state.db []) call).1.db }
  | .elsewhere tables => { state with db := { tables with deployments := state.db.deployments } }
  | .builds builds => { state with builds := builds }
  | .listProjects fault =>
    if state.projects.isEmpty && state.listed.isEmpty && state.pending.isNone then
      { state with projects := (fault.delivered state.db.projects.rows).map ProjectRow.id }
    else state
  | .listDeployments fault =>
    match state.projects with
    | [] => state
    | projectID :: rest =>
      { state with
        projects := rest
        listed := state.listed ++ Store.listDeployments state.db fault projectID }
  | .reconcile faults =>
    match state.projects, state.listed, state.pending with
    | [], d :: rest, none =>
      { state with listed := rest, pending := reconcile (state.reads faults d) d }
    | _, _, _ => state
  | .write fault =>
    match state.pending with
    | none => state
    | some d => { state with db := createDeployment state.db fault d, pending := none }

theorem sameVersion_reconcileRolling (reads : Reads) (d : Deployment) :
    SameVersion d (reconcileRolling reads d) := by
  unfold reconcileRolling
  simp only
  generalize (if desiredReplicas reads.project d > 0 then _ else (0 : Int)) = weight
  split
  · exact ⟨_, _, _, rfl⟩
  · split
    · exact ⟨_, _, _, rfl⟩
    · exact ⟨_, _, _, rfl⟩

theorem reconcileRollback_image (target : Option Deployment) (d : Deployment) :
    (reconcileRollback target d).id = d.id ∧
      ((reconcileRollback target d).imageDigest = d.imageDigest ∨
        (reconcileRollback target d).buildStatus = "completed") := by
  cases target with
  | none => exact ⟨rfl, Or.inl rfl⟩
  | some target => exact ⟨rfl, Or.inr rfl⟩

theorem reconcileBuilding_image {build : Option Build} {d x : Deployment}
    (written : reconcileBuilding build d = some x) :
    x.id = d.id ∧ (x.imageDigest = d.imageDigest ∨ x.buildStatus = "completed") := by
  unfold reconcileBuilding at written
  cases build with
  | none => cases written
  | some build =>
    simp only at written
    split at written
    · rw [← Option.some.inj written]
      exact ⟨rfl, Or.inr rfl⟩
    · split at written
      · rw [← Option.some.inj written]
        exact ⟨rfl, Or.inl rfl⟩
      · cases written

theorem reconcile_image {reads : Reads} {d x : Deployment} (written : reconcile reads d = some x) :
    x.id = d.id ∧ (x.imageDigest = d.imageDigest ∨ x.buildStatus = "completed") := by
  unfold reconcile at written
  split at written
  · rw [← Option.some.inj written]
    exact reconcileRollback_image _ d
  · cases stage : phase d with
    | building =>
      rw [stage] at written
      exact reconcileBuilding_image written
    | rolling =>
      rw [stage] at written
      have same := sameVersion_reconcileRolling reads d
      rw [← Option.some.inj written]
      exact ⟨same.id, Or.inl same.imageDigest⟩
    | promoting | failed =>
      rw [stage] at written
      rw [← Option.some.inj written]
      exact ⟨rfl, Or.inl rfl⟩
    | ready =>
      rw [stage] at written
      cases written

theorem createDeployment_completed {d : Deployment} (completed : d.buildStatus = "completed")
    (db : ProjectDb) (fault : Option String) : createDeployment db fault d = db := by
  apply createDeployment_of_status
  rw [completed]
  decide

/-- All that is stored, listed or about to be written under the id has the image. -/
structure Keeps (id image : String) (state : State) : Prop where
  stored : Deploys id image state.db
  listed : ∀ d ∈ state.listed, d.Deploys id image
  pending : ∀ d, state.pending = some d → d.Deploys id image ∨ d.buildStatus = "completed"

section Steps

variable {id image : String} {state : State}

theorem keeps_listDeployments (keeps : Keeps id image state) (server : Server)
    (fault : RowsFault) : Keeps id image (step server state (.listDeployments fault)) := by
  simp only [step]
  cases state.projects with
  | nil => exact keeps
  | cons projectID rest =>
    refine { keeps with listed := ?_ }
    intro d member
    cases List.mem_append.mp member with
    | inl before => exact keeps.listed d before
    | inr now => exact keeps.stored.listed fault projectID d now

theorem keeps_reconcile (keeps : Keeps id image state) (server : Server) (faults : ReadFaults) :
    Keeps id image (step server state (.reconcile faults)) := by
  simp only [step]
  split
  · rename_i d rest projects listed pending
    have read := keeps.listed d (by rw [listed]; exact List.mem_cons_self)
    constructor
    · exact keeps.stored
    · intro later member
      exact keeps.listed later (by rw [listed]; exact List.mem_cons_of_mem d member)
    · intro x written
      have spec := reconcile_image written
      cases spec.2 with
      | inl same =>
        left
        intro own
        rw [same]
        exact read (spec.1.symm.trans own)
      | inr completed => exact Or.inr completed
  · exact keeps

theorem keeps_write (keeps : Keeps id image state) (server : Server) (fault : Option String) :
    Keeps id image (step server state (.write fault)) := by
  simp only [step]
  cases pending : state.pending with
  | none => exact keeps
  | some d =>
    have stored : Deploys id image (createDeployment state.db fault d) := by
      cases keeps.pending d pending with
      | inl image => exact keeps.stored.createDeployment fault image
      | inr completed =>
        rw [createDeployment_completed completed]
        exact keeps.stored
    exact ⟨stored, keeps.listed, fun x impossible => by cases impossible⟩

end Steps

def Event.createdID : Event → Option String
  | .request run call => call.createdID run
  | .deployment run call => call.createdID run
  | _ => none

def Event.Creates (id image : String) (event : Event) : Prop :=
  event.createdID = some id → ∃ run projectID req,
    event = .request run (.createDeployment projectID (.ok req)) ∧ req.image = image

variable {state : State}

theorem keeps_step {id image : String} (keeps : Keeps id image state) (server : Server)
    {event : Event} (drawn : event.Creates id image) :
    Keeps id image (step server state event) := by
  cases event with
  | request run call =>
    refine { keeps with stored := deploys_handle keeps.stored server ?_ }
    intro own
    have ⟨_, projectID, req, same, deployed⟩ := drawn own
    cases same
    exact ⟨projectID, req, rfl, deployed⟩
  | deployment run call =>
    refine { keeps with stored := deploys_handleDeployment keeps.stored server ?_ }
    intro own
    have ⟨_, _, _, impossible, _⟩ := drawn own
    cases impossible
  | elsewhere tables => exact { keeps with stored := keeps.stored }
  | builds builds => exact { keeps with }
  | listProjects fault =>
    simp only [step]
    split
    · exact { keeps with }
    · exact keeps
  | listDeployments fault => exact keeps_listDeployments keeps server fault
  | reconcile faults => exact keeps_reconcile keeps server faults
  | write fault => exact keeps_write keeps server fault

theorem run_keeps (server : Server) {id image : String} (keeps : Keeps id image state)
    {events : List Event} (drawn : ∀ event ∈ events, event.Creates id image) :
    Keeps id image (run (step server) state events) := by
  apply run_invariant (step server) (fun _ event => event.Creates id image) (Keeps id image)
    (fun _ _ known meets => keeps_step known server meets) state events keeps
  rw [guarded_iff]
  intro before event after split
  exact drawn event (by rw [split]; exact List.mem_append_right before List.mem_cons_self)

def Deployed (id image : String) (state : State) : Prop :=
  ∀ row, state.db.deployments.find id = some row →
    row.imageDigest = image ∨
      ∃ build, state.builds.find id = some build ∧ row.imageDigest = build.image

def Unknown (id : String) (state : State) : Prop :=
  state.db.deployments.find id = none ∧ (∀ d ∈ state.listed, d.id ≠ id) ∧
    ∀ d, state.pending = some d → d.id ≠ id

theorem keeps_of_unknown {id : String} (unknown : Unknown id state) (image : String) :
    Keeps id image state := by
  have ⟨stored, listed, pending⟩ := unknown
  constructor
  · intro row member own
    exact absurd own ((Table.find_eq_none _ _).mp stored row member)
  · intro d member own
    exact absurd own (listed d member)
  · intro d given
    left
    intro own
    exact absurd own (pending d given)

/-- In every history a deployment keeps the image of the request that created it. -/
theorem deployed_image_kept (server : Server) (start : State) (run : ProjectRun)
    (projectID : String) (req : DeploymentReq) (unknown : Unknown run.deploymentID start)
    (before after : List Event)
    (fresh : ∀ event ∈ before ++ after, event.createdID ≠ some run.deploymentID) :
    Deployed run.deploymentID req.image
      (Run.run (step server) start
        (before ++ .request run (.createDeployment projectID (.ok req)) :: after)) := by
  have creates : ∀ event ∈ before ++ .request run (.createDeployment projectID (.ok req)) :: after,
      event.Creates run.deploymentID req.image := by
    intro event member own
    rw [List.mem_append, List.mem_cons] at member
    rcases member with first | same | last
    · exact absurd own (fresh event (List.mem_append_left _ first))
    · exact ⟨run, projectID, req, same, rfl⟩
    · exact absurd own (fresh event (List.mem_append_right _ last))
  have keeps := run_keeps server (keeps_of_unknown unknown req.image) creates
  intro row found
  have ⟨stored, own⟩ := (Table.find_eq_some _ _ _).mp found
  exact Or.inl (keeps.stored row stored own)

def shopState : State := ⟨shopDb true, Table.empty _, [], [], none⟩

def thirdVersion : DeploymentReq := { poolDeployment with image := "alpine", tag := "v3" }

def thirdEvents : List Event :=
  [.request { shopRun with deploymentID := "v3" } (.createDeployment shopID (.ok thirdVersion)),
    .listProjects .clean, .listDeployments .clean, .reconcile .clean]

theorem deployed_image_kept_third :
    (run (step shopServer) shopState thirdEvents).pending.map Deployment.imageDigest =
        some "base://alpine" ∧
      ((run (step shopServer) shopState (thirdEvents ++ [.write none])).db.deployments.find
        "v3").map Deployment.imageDigest = some "alpine" ∧
      Deployed "v3" "alpine" (run (step shopServer) shopState (thirdEvents ++ [.write none])) := by
  have unknown : Unknown "v3" shopState := by
    refine ⟨by decide, ?_, ?_⟩
    · intro d listed
      cases listed
    · intro d pending
      cases pending
  refine ⟨by decide +kernel, by decide +kernel, ?_⟩
  have events : thirdEvents ++ [.write none] =
      [] ++ .request { shopRun with deploymentID := "v3" } (.createDeployment shopID
        (.ok thirdVersion)) :: (thirdEvents.tail ++ [.write none]) := rfl
  rw [events]
  apply deployed_image_kept _ _ { shopRun with deploymentID := "v3" } shopID
    thirdVersion unknown
  intro event member
  simp only [List.nil_append, thirdEvents, List.tail_cons, List.cons_append, List.mem_cons,
    List.not_mem_nil, or_false] at member
  rcases member with rfl | rfl | rfl | rfl <;> exact nofun

end Porter.Controller.Rollouts
