import Porter.Api.Promotion

/-!
# The image of a deployment

The other handlers of the deployment routes, and what requests do to the image that is stored for a
deployment.
-/
namespace Porter.Api.Projects

open Go Sql Store

inductive DeploymentReply where
  | checks (deployment : String) (checks : List DeploymentCheck) (allPassed : Bool)
      (rolloutPct : Int)
  | check (deployment check status : String) (allPassed : Bool)
  | rollout (deployment : String) (rolloutPct : Int)
  | rolledBack (deployment : String)
  | created (d : Deployment)
  | deleted (deployment tag : String)
  | projectDeleted

variable (run : ProjectRun) (s : Session) (id deployID : String)

def updateDeployment (change : Deployment → Except (Response DeploymentReply) Deployment)
    (reply : Deployment → DeploymentReply) : Session × Response DeploymentReply :=
  match getProject s.db run.getFails id with
  | none => (s, .error statusNotFound "project not found")
  | some doc =>
    match getDeployment s.db (run.deploymentRows 0) doc.id deployID with
    | none => (s, .error statusNotFound "deployment not found")
    | some d =>
      match change d with
      | .error refusal => (s, refusal)
      | .ok d =>
        match createDeploymentError s.db (run.write s.writes) d with
        | some err => (s, .error statusInternalServerError err)
        | none =>
          let (s, d) := s.createDeployment run d
          (s, .json statusOK (reply d))

def handleUpsertDeploymentChecks (body : Except String (List DeploymentCheck)) :
    Session × Response DeploymentReply :=
  updateDeployment run s id deployID
    (fun d =>
      match body with
      | .error err => .error (badRequest err)
      | .ok checks => .ok { d with checks := checks })
    (fun d => .checks d.id d.checks (allChecksPassed d) d.rolloutPercent)

def setCheck (name status detail : String) : List DeploymentCheck → Option (List DeploymentCheck)
  | [] => none
  | check :: rest =>
    if check.name = name then some ({ check with status := status, detail := detail } :: rest)
    else (setCheck name status detail rest).map (check :: ·)

def handleSetDeploymentCheck (name : String) (body : Except String (String × String)) :
    Session × Response DeploymentReply :=
  updateDeployment run s id deployID
    (fun d =>
      match body with
      | .error err => .error (badRequest err)
      | .ok (status, detail) =>
        match setCheck name status detail d.checks with
        | none => .error (.error statusNotFound ("check not found: " ++ name))
        | some checks => .ok { d with checks := checks })
    (fun d => .check d.id name (body.toOption.elim "" (·.1)) (allChecksPassed d))

def handleSetDeploymentRollout (body : Except String Int) : Session × Response DeploymentReply :=
  updateDeployment run s id deployID
    (fun d =>
      match body with
      | .error err => .error (badRequest err)
      | .ok percent =>
        if percent < 0 || percent > 100 then
          .error (.error statusBadRequest "percent must be 0-100")
        else .ok { d with rolloutPercent := percent })
    (fun d => .rollout d.id d.rolloutPercent)

def rollbackFrom (deps : List Deployment) (id : String) : List Deployment → Option Deployment
  | [] => none
  | d :: rest =>
    if d.id ≠ id then rollbackFrom deps id rest
    else if d.rollbackTo ≠ "" then
      (deps.find? (·.id = d.rollbackTo)).or rest.head?
    else rest.head?

def rollbackOf (deps : List Deployment) (id : String) : Option Deployment :=
  rollbackFrom deps id deps

def handleRollbackDeployment (server : Server) (run : ProjectRun) (s : Session)
    (id deployID : String) : Session × Response DeploymentReply :=
  match getProject s.db run.getFails id with
  | none => (s, .error statusNotFound "project not found")
  | some doc =>
    match rollbackOf (listDeployments s.db (run.deploymentRows 0) doc.id) deployID with
    | none => (s, .error statusNotFound "no rollback target for this deployment")
    | some target =>
      let (s, proj) := s.load doc
      let proj := { proj with image := target.imageDigest, vmIDs := [] }
      let s := s.deleteReplicasByProject run proj.id
      let spec := replicaReq proj.name proj.image proj.replicasDesired proj.env
        (projPorts s.db proj)
      let boot := bootReplicas server run (fun _ => spec) ⟨s, proj, none⟩
        (List.range proj.replicasDesired.toNat)
      (boot.session.put run boot.proj, .json statusOK (.rolledBack target.id))

def isSpace (c : Char) : Bool :=
  c.toNat ∈ [0x09, 0x0a, 0x0b, 0x0c, 0x0d, 0x20, 0x85, 0xa0, 0x1680, 0x2028, 0x2029, 0x202f,
    0x205f, 0x3000] || 0x2000 ≤ c.toNat && c.toNat ≤ 0x200a

def trimSpace (text : String) : String :=
  String.ofList (((text.toList.dropWhile isSpace).reverse.dropWhile isSpace).reverse)

def safeGitURL (raw : String) : Option String :=
  let u := trimSpace raw
  if u = "" || hasPrefix u "-" then none
  else if hasPrefix u "git@" then some u
  else if !hasPrefix u "https://" && !hasPrefix u "http://" then none
  else some u

def gitDeployment (projectID : String) : Deployment where
  id := run.deploymentID
  projectID := projectID
  buildStatus := "building"
  imageDigest := ""
  rollbackTo := ""
  gitURL := ""
  gitCommit := ""
  checks := []
  rolloutPercent := 0
  versionLabel := ""
  guestBase := ""
  environment := ""
  isProduction := false
  routeWeight := 0
  vmIDs := []

def handleDeployGit (body : Except String String) : Session × Response DeploymentReply :=
  match body with
  | .error err => (s, badRequest err)
  | .ok repository =>
    if repository = "" then (s, .error statusBadRequest "repository is required")
    else
      match safeGitURL repository with
      | none => (s, .error statusBadRequest "repository must be an https:// or git@ URL")
      | some _ =>
        match getProject s.db run.getFails id with
        | none => (s, .error statusNotFound "project not found")
        | some doc =>
          let (s, d) := s.createDeployment run (gitDeployment run doc.id)
          (s, .json statusAccepted (.created d))

def stopPool (run : ProjectRun) (stop : String → Option String) (s : Session) :
    List String → Session × Option (Response DeploymentReply)
  | [] => (s, none)
  | vmID :: rest =>
    match getVM s.db vmID with
    | none => stopPool run stop s rest
    | some _ =>
      match stop vmID with
      | some err =>
        (s, some (.error statusConflict ("stop deployment VM " ++ vmID ++ ": " ++ err)))
      | none => stopPool run stop (s.deleteVM run vmID) rest

def handleDeleteDeployment (stop : String → Option String) (s : Session) (id deployID : String) :
    Session × Response DeploymentReply :=
  match getDeployment s.db (run.deploymentRows 0) id deployID with
  | none => (s, .error statusNotFound "deployment not found")
  | some d =>
    if d.isProduction || d.environment = "production" then
      (s, .error statusConflict
        "cannot delete the production deployment; promote another version first")
    else
      match stopPool run stop s d.vmIDs with
      | (s, some refusal) => (s, refusal)
      | (s, none) =>
        match run.write s.writes with
        | some err => (s, .error statusInternalServerError err)
        | none =>
          ({ s with db := deleteDeployment s.db none id d.id },
            .json statusOK (.deleted d.id d.versionLabel))

def handleDeleteProject : Session × Response DeploymentReply :=
  ({ s with db := deleteProject s.db (run.write s.writes) id }, .json statusOK .projectDeleted)

inductive DeploymentCall where
  | upsertChecks (id deployID : String) (body : Except String (List DeploymentCheck))
  | setCheck (id deployID name : String) (body : Except String (String × String))
  | setRollout (id deployID : String) (body : Except String Int)
  | rollback (id deployID : String)
  | deployGit (id : String) (body : Except String String)
  | deleteDeployment (id deployID : String) (stop : String → Option String)
  | deleteProject (id : String)

def handleDeployment (server : Server) (run : ProjectRun) (s : Session) :
    DeploymentCall → Session × Response DeploymentReply
  | .upsertChecks id deployID body => handleUpsertDeploymentChecks run s id deployID body
  | .setCheck id deployID name body => handleSetDeploymentCheck run s id deployID name body
  | .setRollout id deployID body => handleSetDeploymentRollout run s id deployID body
  | .rollback id deployID => handleRollbackDeployment server run s id deployID
  | .deployGit id body => handleDeployGit run s id body
  | .deleteDeployment id deployID stop => handleDeleteDeployment run stop s id deployID
  | .deleteProject id => handleDeleteProject run s id

variable (run : ProjectRun) (s : Session)

theorem deployments_put (proj : Project Ref) : (s.put run proj).db.deployments = s.db.deployments :=
  deployments_putProject s.db _ _

variable (id : String)

theorem deployments_handleSetEnv (body : Except String (String × String)) :
    (handleSetEnv run s id body).1.db.deployments = s.db.deployments := by
  unfold handleSetEnv
  cases body with
  | error err => rfl
  | ok pair =>
    simp only
    split
    · rfl
    · cases getProject s.db run.getFails id with
      | none => rfl
      | some doc => simp [deployments_put]

theorem deployments_handleSetEnvBulk (body : Except String EnvMap) :
    (handleSetEnvBulk run s id body).1.db.deployments = s.db.deployments := by
  unfold handleSetEnvBulk
  cases body with
  | error err => rfl
  | ok pairs =>
    cases getProject s.db run.getFails id with
    | none => rfl
    | some doc => simp [deployments_put]

theorem deployments_handlePatchEnv (envID : String) (body : Except String String) :
    (handlePatchEnv run s id envID body).1.db.deployments = s.db.deployments := by
  unfold handlePatchEnv
  cases body with
  | error err => rfl
  | ok value =>
    cases getProject s.db run.getFails id with
    | none => rfl
    | some doc =>
      simp only
      split
      · simp [deployments_put]
      · simp

theorem deployments_handleDeleteEnv (envID : String) :
    (handleDeleteEnv run s id envID).1.db.deployments = s.db.deployments := by
  unfold handleDeleteEnv
  cases getProject s.db run.getFails id with
  | none => rfl
  | some doc => simp [deployments_put]

theorem db_mergeEnv (proj : Project Ref) (env : Option EnvMap) :
    (mergeEnv run s proj env).1.db = s.db := by
  unfold mergeEnv
  cases env with
  | none => rfl
  | some pairs => simp

theorem deployments_handlePatchProject (etagOf : Project EnvMap → String) (run : ProjectRun)
    (s : Session) (id ifMatch : String) (body : Except String ProjectPatch) :
    (handlePatchProject etagOf run s id ifMatch body).1.db.deployments = s.db.deployments := by
  unfold handlePatchProject
  cases getProject s.db run.getFails id with
  | none => rfl
  | some doc =>
    simp only
    split
    · rfl
    · cases body with
      | error err => rfl
      | ok patch => simp [deployments_put, db_mergeEnv]

theorem deployments_putSecret {db after : ProjectDb} {fault : Option String} {secret : Secret}
    (stored : putSecret db fault secret = .ok after) : after.deployments = db.deployments := by
  unfold putSecret at stored
  cases fault with
  | some err => cases stored
  | none =>
    simp only at stored
    split at stored
    · cases stored
    · split at stored
      · rw [← Except.ok.inj stored]
      · cases stored

theorem deployments_handleCreateSecret (box : Secretbox) (material : String) (run : ProjectRun)
    (s : Session) (id : String) (body : Except String (String × String)) :
    (handleCreateSecret box material run s id body).1.db.deployments = s.db.deployments := by
  unfold handleCreateSecret
  cases body with
  | error err => rfl
  | ok pair =>
    simp only
    split
    · rfl
    · split
      · rfl
      · split
        · rfl
        · split
          · rfl
          · rename_i stored
            exact deployments_putSecret stored

theorem deployments_handleDeleteSecret (secretID : String) :
    (handleDeleteSecret run s secretID).1.db.deployments = s.db.deployments := by
  unfold handleDeleteSecret
  cases run.write s.writes with
  | some | none => rfl

variable {s : Session} {run : ProjectRun}

section Images

variable {id image : String}

theorem deploys_bootReplicas {boot : Boot} (own : boot.deployment = none)
    (deploys : Deploys id image boot.session.db) (server : Server) (run : ProjectRun)
    (req : Boot → CreateProjectReq Ref) (indices : List Nat) :
    Deploys id image (bootReplicas server run req boot indices).session.db := by
  apply ((bootReplicas_statements _ _ _ _ _).1.mono _).deploys deploys
  intro x ⟨d, shared, _⟩
  rw [own] at shared
  cases shared

variable {d : Deployment}

theorem SameVersion.deploys {x : Deployment} (same : SameVersion d x)
    (deploys : d.Deploys id image) : x.Deploys id image := by
  intro own
  rw [same.imageDigest]
  exact deploys (same.id.symm.trans own)

variable (deploys : Deploys id image s.db)

include deploys

theorem deploys_put (run : ProjectRun) (proj : Project Ref) :
    Deploys id image (s.put run proj).db :=
  deploys.of_deployments (deployments_put run s proj)

theorem deploys_load (doc : Project EnvMap) : Deploys id image (s.load doc).1.db := by
  rw [db_load]
  exact deploys

theorem deploys_decode (env : Option EnvMap) : Deploys id image (s.decode env).1.db := by
  rw [db_decode]
  exact deploys

variable (server : Server)

theorem deploys_recreate (run : ProjectRun) (req : Boot → CreateProjectReq Ref) (projectID : String)
    (proj : Project Ref) (indices : List Nat) (final : Project Ref) :
    Deploys id image ((bootReplicas server run req
      ⟨s.deleteReplicasByProject run projectID, proj, none⟩ indices).session.put run final).db := by
  apply deploys_put
  apply deploys_bootReplicas rfl
  exact deploys.of_deployments (deployments_deleteReplicas _ _ _)

theorem deploys_handleScale (run : ProjectRun) (projectID : String) (body : Except String Int) :
    Deploys id image (handleScale server run s projectID body).1.db := by
  unfold handleScale
  cases body with
  | error err => exact deploys
  | ok replicas =>
    cases getProject s.db run.getFails projectID with
    | none => exact deploys
    | some doc =>
      apply deploys_put
      exact deploys_bootReplicas rfl (deploys_load deploys doc) server run _ _

theorem deploys_handleRedeployProject (run : ProjectRun) (projectID : String) :
    Deploys id image (handleRedeployProject server run s projectID).1.db := by
  unfold handleRedeployProject
  cases getProject s.db run.getFails projectID with
  | none => exact deploys
  | some doc =>
    exact deploys_recreate (deploys_load deploys doc) server run _ _ _ _ _

theorem deploys_createProjectFrom (other : run.deploymentID ≠ id)
    (server : Server) (req : CreateProjectReq EnvMap) (creator : String) :
    Deploys id image (createProjectFrom server run s req creator).1.db := by
  unfold createProjectFrom
  cases refusesCreate server req with
  | some refusal => exact deploys
  | none =>
    apply Deploys.createDeployment
    · exact deploys_bootReplicas rfl (deploys_put (deploys_decode deploys req.env) run _) server run
        _ _
    · intro own
      exact absurd own other

theorem deploys_launchDeployment (run : ProjectRun) (proj : Project Ref) (new : d.Deploys id image)
    (req : DeploymentReq) : Deploys id image (launchDeployment server run s proj d req).1.db := by
  unfold launchDeployment
  split
  · exact deploys.createDeployment _ new
  · simp only
    unfold bootDeployment
    generalize replicaReq _ _ _ _ _ = spec
    generalize List.range _ = indices
    have started := deploys_decode deploys req.env
    generalize (s.decode req.env).1 = decoded at started
    have ⟨written, _⟩ := bootReplicas_statements server run (fun _ => spec)
      ⟨decoded, proj, some d⟩ indices
    have ⟨x, booted, same⟩ := bootReplicas_version server run (fun _ => spec)
      ⟨decoded, proj, some d⟩ indices d rfl
    rw [booted]
    apply Deploys.createDeployment
    · apply (written.mono _).deploys started
      intro y ⟨first, shared, version⟩
      cases shared
      exact version.deploys new
    · exact same.deploys new

theorem deploys_handleCreateDeployment (projectID : String) {body : Except String DeploymentReq}
    (drawn : ∀ req, body = .ok req → run.deploymentID = id → req.image = image) :
    Deploys id image (handleCreateDeployment server run s projectID body).1.db := by
  rcases handleCreateDeployment_cases _ _ s _ _ with
    ⟨same, -⟩ | ⟨req, doc, base, d, given, -, rfl, -, same⟩
  · rwa [same]
  · have new : (newDeployment run (s.load doc).1 (s.load doc).2 req base).Deploys id image :=
      drawn req given
    rw [same]
    exact deploys_launchDeployment ((deploys_load deploys doc).createDeployment _ new) server run _
      (deploys_withWeights new) req

omit deploys in
theorem deploys_promoteOne (deploys : d.Deploys id image) (target : String) :
    (promoteOne target d).Deploys id image := by
  unfold promoteOne
  simp only
  split
  · exact deploys
  · split
    · exact deploys
    · exact deploys

theorem deploys_promote (run : ProjectRun) (proj : Project Ref) (read : d.Deploys id image)
    (keepOld : Bool) : Deploys id image (promote server run s proj d keepOld).1.db := by
  have ⟨written, ⟨x, version, same⟩, _⟩ := bootPromoted_spec server run s
    { proj with image := d.imageDigest } d
  have booted := (written.mono fun y sameVersion => sameVersion.deploys read).deploys deploys
  have target := same.deploys read
  unfold promote
  simp only
  generalize bootPromoted server run s { proj with image := d.imageDigest } d = boot
    at version booted
  rw [version, Option.getD_some]
  apply Deploys.createDeployment
  · apply deploys_put
    have looped : Deploys id image (promoteAll run x.id boot.session
        (listDeployments boot.session.db (run.deploymentRows 1) boot.proj.id)).db := by
      apply ((promoteAll_statements _ _ _ _).mono _).deploys booted
      intro y ⟨listed, member, rewritten⟩
      rw [rewritten]
      exact deploys_promoteOne (booted.listed _ _ listed member) x.id
    split
    · exact looped
    · apply ((deleteAll_statements _ _ _).mono _).deploys looped
      intro y impossible
      exact impossible.elim
  · exact target

theorem deploys_handlePromoteDeployment (run : ProjectRun) (projectID target : String)
    (keepOld : Bool) :
    Deploys id image (handlePromoteDeployment server run s projectID target keepOld).1.db := by
  rcases handlePromoteDeployment_cases _ _ s _ _ _ with
    ⟨same, -⟩ | ⟨doc, d, -, chosen, -, same⟩
  · rwa [same]
  · rw [same]
    exact deploys_promote (deploys_load deploys doc) server run _
      (deploys.listed _ _ d (List.mem_of_find?_eq_some chosen)) keepOld

def ProjectCall.createdID (run : ProjectRun) : ProjectCall → Option String
  | .createProject .. | .createDeployment .. => some run.deploymentID
  | _ => none

theorem deploys_handle {call : ProjectCall} (drawn : call.createdID run = some id →
      ∃ projectID req, call = .createDeployment projectID (.ok req) ∧ req.image = image) :
    Deploys id image (handle server run s call).1.db := by
  cases call with
  | listEnv projectID => exact deploys
  | setEnv projectID body =>
    exact deploys.of_deployments (deployments_handleSetEnv run s projectID body)
  | setEnvBulk projectID body =>
    exact deploys.of_deployments (deployments_handleSetEnvBulk run s projectID body)
  | patchEnv projectID envID body =>
    exact deploys.of_deployments (deployments_handlePatchEnv _ s projectID envID body)
  | deleteEnv projectID envID =>
    exact deploys.of_deployments (deployments_handleDeleteEnv run s projectID envID)
  | patchProject projectID ifMatch body =>
    exact deploys.of_deployments
      (deployments_handlePatchProject server.etagOf run s projectID ifMatch body)
  | createSecret projectID body =>
    exact deploys.of_deployments
      (deployments_handleCreateSecret server.box server.secretKeyMaterial run s projectID body)
  | deleteSecret secretID =>
    exact deploys.of_deployments (deployments_handleDeleteSecret run s secretID)
  | createProject orgHeader creator body =>
    have other : run.deploymentID ≠ id := by
      intro own
      have ⟨_, _, impossible, _⟩ := drawn (congrArg some own)
      cases impossible
    cases body with
    | error err => exact deploys
    | ok req => exact deploys_createProjectFrom deploys other server _ creator
  | scale projectID body => exact deploys_handleScale deploys server run projectID body
  | redeploy projectID => exact deploys_handleRedeployProject deploys server run projectID
  | createDeployment projectID body =>
    apply deploys_handleCreateDeployment deploys server projectID
    intro req given own
    have ⟨_, other, same, deployed⟩ := drawn (congrArg some own)
    rw [given] at same
    cases same
    exact deployed
  | promote projectID target keepOld =>
    exact deploys_handlePromoteDeployment deploys server run projectID target keepOld

theorem deploys_updateDeployment (run : ProjectRun) (projectID deployID : String)
    {change : Deployment → Except (Response DeploymentReply) Deployment}
    (keeps : ∀ d x, change d = .ok x → x.id = d.id ∧ x.imageDigest = d.imageDigest)
    (reply : Deployment → DeploymentReply) :
    Deploys id image (updateDeployment run s projectID deployID change reply).1.db := by
  unfold updateDeployment
  cases getProject s.db run.getFails projectID with
  | none => exact deploys
  | some doc =>
    simp only
    cases found : getDeployment s.db (run.deploymentRows 0) doc.id deployID with
    | none => exact deploys
    | some d =>
      simp only
      cases changed : change d with
      | error refusal => exact deploys
      | ok x =>
        simp only
        cases createDeploymentError s.db (run.write s.writes) x with
        | some err => exact deploys
        | none =>
          have ⟨sameID, sameImage⟩ := keeps d x changed
          have read := deploys.listed _ _ d (mem_of_getDeployment found)
          apply deploys.createDeployment
          intro own
          rw [sameImage]
          exact read (sameID.symm.trans own)

theorem deploys_stopPool (run : ProjectRun) (stop : String → Option String) (ids : List String) :
    Deploys id image (stopPool run stop s ids).1.db := by
  induction ids generalizing s with
  | nil => exact deploys
  | cons vmID rest recurse =>
    unfold stopPool
    cases getVM s.db vmID with
    | none => exact recurse deploys
    | some vm =>
      cases stop vmID with
      | some err => exact deploys
      | none => exact recurse (deploys.of_deployments (deployments_deleteReplicas s.db _ _))

theorem deploys_handleDeleteDeployment (run : ProjectRun)
    (stop : String → Option String) (projectID deployID : String) :
    Deploys id image (handleDeleteDeployment run stop s projectID deployID).1.db := by
  unfold handleDeleteDeployment
  cases getDeployment s.db (run.deploymentRows 0) projectID deployID with
  | none => exact deploys
  | some d =>
    simp only
    split
    · exact deploys
    · have stopped := deploys_stopPool deploys run stop d.vmIDs
      generalize stopPool run stop s d.vmIDs = result at stopped
      have ⟨after, refusal⟩ := result
      cases refusal with
      | some response => exact stopped
      | none =>
        simp only
        cases run.write after.writes with
        | some err => exact stopped
        | none => exact stopped.deleteDeployment none projectID d.id

theorem deploys_handleRollbackDeployment (run : ProjectRun) (projectID deployID : String) :
    Deploys id image (handleRollbackDeployment server run s projectID deployID).1.db := by
  unfold handleRollbackDeployment
  cases getProject s.db run.getFails projectID with
  | none => exact deploys
  | some doc =>
    simp only
    cases rollbackOf (listDeployments s.db (run.deploymentRows 0) doc.id) deployID with
    | none => exact deploys
    | some target =>
      exact deploys_recreate (deploys_load deploys doc) server run _ _ _ _ _

theorem deploys_handleDeployGit (other : run.deploymentID ≠ id)
    (projectID : String) (body : Except String String) :
    Deploys id image (handleDeployGit run s projectID body).1.db := by
  unfold handleDeployGit
  cases body with
  | error err => exact deploys
  | ok repository =>
    simp only
    split
    · exact deploys
    · cases safeGitURL repository with
      | none => exact deploys
      | some url =>
        cases getProject s.db run.getFails projectID with
        | none => exact deploys
        | some doc =>
          apply deploys.createDeployment
          intro own
          exact absurd own other

def DeploymentCall.createdID (run : ProjectRun) : DeploymentCall → Option String
  | .deployGit .. => some run.deploymentID
  | _ => none

theorem deploys_handleDeployment {call : DeploymentCall} (other : call.createdID run ≠ some id) :
    Deploys id image (handleDeployment server run s call).1.db := by
  cases call with
  | upsertChecks projectID deployID body =>
    apply deploys_updateDeployment deploys
    intro d x changed
    cases body with
    | error err => cases changed
    | ok checks =>
      rw [← Except.ok.inj changed]
      exact ⟨rfl, rfl⟩
  | setCheck projectID deployID name body =>
    apply deploys_updateDeployment deploys
    intro d x changed
    cases body with
    | error err => cases changed
    | ok verdict =>
      simp only at changed
      cases updated : setCheck name verdict.1 verdict.2 d.checks with
      | none =>
        rw [updated] at changed
        cases changed
      | some checks =>
        rw [updated] at changed
        rw [← Except.ok.inj changed]
        exact ⟨rfl, rfl⟩
  | setRollout projectID deployID body =>
    apply deploys_updateDeployment deploys
    intro d x changed
    cases body with
    | error err => cases changed
    | ok percent =>
      simp only at changed
      split at changed
      · cases changed
      · rw [← Except.ok.inj changed]
        exact ⟨rfl, rfl⟩
  | rollback projectID deployID =>
    exact deploys_handleRollbackDeployment deploys server run projectID deployID
  | deployGit projectID body =>
    exact deploys_handleDeployGit deploys (fun own => other (congrArg some own)) projectID body
  | deleteDeployment projectID deployID stop =>
    exact deploys_handleDeleteDeployment deploys run stop projectID deployID
  | deleteProject projectID => exact deploys.deleteProject _ projectID

end Images

end Porter.Api.Projects
