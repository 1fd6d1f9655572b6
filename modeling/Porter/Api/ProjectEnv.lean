import Porter.Api.Session

/-!
# The environment and the secrets of a project

The handlers that set a project's variables, and those that create and delete its secrets.
-/
namespace Porter.Api.Projects

open Sql Go Store

structure Secretbox where
  key : String → List UInt8
  sealBox : List UInt8 → Nat → String → Except String (List UInt8)
  openBox : List UInt8 → List UInt8 → Except String String

inductive ProjectReply where
  | entries (pairs : List (String × String))
  | entry (key value : String)
  | set (count : Nat)
  | status (text : String)
  | secret (id name : String)
  | project (doc : Project EnvMap)
  | rollout (doc : Project EnvMap) (status : String)
  | scale (desired current : Int)
  | deployment (d : Deployment) (previewURL status : String)
  | promoted (deployment preview : String)

def projectNotFound : Response ProjectReply := .error statusNotFound "project not found"

variable (run : ProjectRun)

def handleListEnv (db : ProjectDb) (id : String) : Response ProjectReply :=
  match getProject db run.getFails id with
  | none => projectNotFound
  | some doc =>
    .json statusOK (.entries
      ((run.order.visit (doc.env.elim [] Table.rows)).insertionSort (·.1 ≤ ·.1)))

variable (s : Session)

def handleSetEnv (id : String) (body : Except String (String × String)) :
    Session × Response ProjectReply :=
  match body with
  | .error err => (s, badRequest err)
  | .ok pair =>
    if pair.1 = "" then (s, .error statusBadRequest "key is required")
    else
      match getProject s.db run.getFails id with
      | none => (s, projectNotFound)
      | some doc =>
        let (s, proj) := s.load doc
        let (s, proj) := s.ensureEnv proj
        let s := s.changeEnv proj (·.set pair)
        (s.put run proj, .json statusOK (.entry pair.1 pair.2))

def handleSetEnvBulk (id : String) (body : Except String EnvMap) :
    Session × Response ProjectReply :=
  match body with
  | .error err => (s, badRequest err)
  | .ok pairs =>
    match getProject s.db run.getFails id with
    | none => (s, projectNotFound)
    | some doc =>
      let (s, proj) := s.load doc
      let (s, proj) := s.ensureEnv proj
      let s := s.changeEnv proj (·.setAll (run.order.visit pairs.rows))
      (s.put run proj, .json statusOK (.set pairs.rows.length))

def handlePatchEnv (id envID : String) (body : Except String String) :
    Session × Response ProjectReply :=
  match body with
  | .error err => (s, badRequest err)
  | .ok value =>
    match getProject s.db run.getFails id with
    | none => (s, projectNotFound)
    | some doc =>
      let (s, proj) := s.load doc
      let s := if proj.env.isSome then (s.changeEnv proj (·.set (envID, value))).put run proj else s
      (s, .json statusOK (.entry envID value))

def handleDeleteEnv (id envID : String) : Session × Response ProjectReply :=
  match getProject s.db run.getFails id with
  | none => (s, projectNotFound)
  | some doc =>
    let (s, proj) := s.load doc
    let s := s.changeEnv proj (·.delete envID)
    (s.put run proj, .json statusOK (.status "deleted"))

structure ProjectPatch where
  tags : Option (List String)
  hostMountPath : String
  replicasDesired : Int
  restartPolicy : String
  healthcheck : Option Healthcheck
  env : Option EnvMap
  sshEnabled : Option Bool

def ProjectPatch.apply (patch : ProjectPatch) (proj : Project Ref) : Project Ref :=
  { proj with
    tags := patch.tags.getD proj.tags
    hostMountPath := if patch.hostMountPath ≠ "" then patch.hostMountPath else proj.hostMountPath
    replicasDesired :=
      if patch.replicasDesired ≥ 1 then patch.replicasDesired else proj.replicasDesired
    restartPolicy := if patch.restartPolicy ≠ "" then patch.restartPolicy else proj.restartPolicy
    healthcheck := patch.healthcheck.or proj.healthcheck
    sshEnabled := patch.sshEnabled.getD proj.sshEnabled }

def mergeEnv (proj : Project Ref) (env : Option EnvMap) : Session × Project Ref :=
  match env with
  | none => (s, proj)
  | some pairs =>
    let (s, proj) := s.ensureEnv proj
    (s.changeEnv proj (·.setAll (run.order.visit pairs.rows)), proj)

def checkIfMatch (want etag : String) : Bool := want = "" || want = "*" || etag = want

def handlePatchProject (etagOf : Project EnvMap → String) (run : ProjectRun) (s : Session)
    (id ifMatch : String) (body : Except String ProjectPatch) : Session × Response ProjectReply :=
  match getProject s.db run.getFails id with
  | none => (s, projectNotFound)
  | some doc =>
    if !checkIfMatch ifMatch (etagOf doc) then
      (s, .error statusPreconditionFailed "resource changed (ETag mismatch; refetch and retry)")
    else
      match body with
      | .error err => (s, badRequest err)
      | .ok patch =>
        let (s, proj) := s.load doc
        let (s, proj) := mergeEnv run s (patch.apply proj) patch.env
        (s.put run proj, .json statusOK (.project (s.row proj).doc))

def handleCreateSecret (box : Secretbox) (secretKeyMaterial : String) (run : ProjectRun)
    (s : Session) (id : String) (body : Except String (String × String)) :
    Session × Response ProjectReply :=
  match body with
  | .error err => (s, badRequest err)
  | .ok (name, value) =>
    if name = "" then (s, .error statusBadRequest "name is required")
    else if secretKeyMaterial = "" then
      (s, .error statusServiceUnavailable
        "project secret encryption is not configured; set PORTER_SECRET_KEY")
    else
      match box.sealBox (box.key secretKeyMaterial) run.nonce value with
      | .error err => (s, .error statusInternalServerError ("encrypt secret: " ++ err))
      | .ok enc =>
        match putSecret s.db (run.write s.writes) ⟨run.newID, id, name, enc⟩ with
        | .error err => (s, .error statusInternalServerError err)
        | .ok db => ({ s with db := db }, .json statusCreated (.secret run.newID name))

def handleDeleteSecret (secretID : String) : Session × Response ProjectReply :=
  match run.write s.writes with
  | some err => (s, .error statusInternalServerError err)
  | none => ({ s with db := deleteSecret s.db secretID }, .json statusOK (.status "deleted"))

end Porter.Api.Projects
