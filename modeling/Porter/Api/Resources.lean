import Porter.Api.Http
import Porter.Store.Resources

/-!
# Handlers of the project resource routes

The routes `/projects/{projectId}/<kind>/{id}`, and the bulk route for redirects.
-/
namespace Porter.Api

open Store Sql

/-- The bodies of the handlers. One that prints columns of a row carries the row. -/
inductive ResourceReply where
  | status (status : String)
  | environment (e : Environment)
  | envBranch (e : Environment)
  | envDomain (e : Environment)
  | envRange (envID : String) (ranges : List String)
  | cron (c : Cron)
  | jobBooted (c : Cron) (vmID : String)
  | firewallRule (r : FirewallRule)
  | volume (v : Volume)
  | resized (sizeMiB : Int)
  | usage (v : Volume) (usedBytes limitBytes : Int) (path : String)
  | applied (count : Nat)

def ResourceReply.projects : ResourceReply → List String
  | .environment e | .envBranch e | .envDomain e => [e.projectID]
  | .cron c | .jobBooted c _ => [c.projectID]
  | .firewallRule r => [r.projectID]
  | .volume v | .usage v _ _ _ => [v.projectID]
  | .status _ | .envRange _ _ | .resized _ | .applied _ => []

def Response.projects : Response ResourceReply → List String
  | .error _ _ => []
  | .json _ body => body.projects

section

variable {ρ : Type} {key : ρ → String}

def getHandler (table : Table key) (fault : StmtFault) (id notFound : String)
    (reply : ρ → ResourceReply) : Response ResourceReply :=
  match getRow table fault.read id with
  | some row => .json statusOK (reply row)
  | none => .error statusNotFound notFound

def deleteHandler (table : Table key) (fault : StmtFault) (id notFound : String) :
    Table key × Response ResourceReply :=
  let (next, deleted) := deleteRow table (fault.write 0) id
  if deleted then (next, .json statusOK (.status "deleted"))
  else (next, .error statusNotFound notFound)

def patchHandler {β : Type} (table : Table key) (fault : StmtFault) (id notFound : String)
    (body : Except String β) (merge : ρ → β → ρ)
    (put : Table key → Option String → ρ → Table key) (reply : ρ → ResourceReply) :
    Table key × Response ResourceReply :=
  match getRow table fault.read id with
  | none => (table, .error statusNotFound notFound)
  | some row =>
    match body with
    | .error err => (table, badRequest err)
    | .ok req => (put table (fault.write 0) (merge row req), .json statusOK (reply (merge row req)))

end

variable (db : ResourceDb)

variable (fault : StmtFault)

/-- `handleDeleteSecret`, which reports the database error and never a missing row. -/
def handleDeleteSecret (secretID : String) : ResourceDb × Response ResourceReply :=
  match fault.write 0 with
  | some err => (db, .error statusInternalServerError err)
  | none =>
    ({ db with secrets := (deleteRow db.secrets none secretID).1 },
      .json statusOK (.status "deleted"))

def handleGetEnvironment (envID : String) : Response ResourceReply :=
  getHandler db.environments fault envID "environment not found" .environment

structure EnvironmentPatch where
  branch : String
  url : String
  envDomain : String

def EnvironmentPatch.merge (e : Environment) (req : EnvironmentPatch) : Environment :=
  { e with
    branch := if req.branch ≠ "" then req.branch else e.branch
    url := if req.url ≠ "" then req.url else e.url
    envDomain := if req.envDomain ≠ "" then req.envDomain else e.envDomain }

def handlePatchEnvironment (envID : String) (body : Except String EnvironmentPatch) :
    ResourceDb × Response ResourceReply :=
  let (environments, response) := patchHandler db.environments fault envID
    "environment not found" body EnvironmentPatch.merge putEnvironment .environment
  ({ db with environments }, response)

def handleDeleteEnvironment (envID : String) : ResourceDb × Response ResourceReply :=
  let (environments, response) :=
    deleteHandler db.environments fault envID "environment not found"
  ({ db with environments }, response)

/-- `handleEnvBranch`, which also stores an empty branch. -/
def handleEnvBranch (envID : String) (body : Except String String) :
    ResourceDb × Response ResourceReply :=
  let (environments, response) := patchHandler db.environments fault envID
    "environment not found" body (fun e branch => { e with branch }) putEnvironment .envBranch
  ({ db with environments }, response)

/-- `handleEnvDomain`, which also stores an empty domain. -/
def handleEnvDomain (envID : String) (body : Except String String) :
    ResourceDb × Response ResourceReply :=
  let (environments, response) := patchHandler db.environments fault envID
    "environment not found" body (fun e envDomain => { e with envDomain }) putEnvironment
    .envDomain
  ({ db with environments }, response)

/-- `handleEnvRange`, which reads no row. -/
def handleEnvRange (envID : String) : Response ResourceReply :=
  .json statusOK (.envRange envID ["production", "preview"])

def handleGetCron (cronID : String) : Response ResourceReply :=
  getHandler db.crons fault cronID "cron not found" .cron

structure CronPatch where
  schedule : String
  active : Option Bool

def CronPatch.merge (c : Cron) (req : CronPatch) : Cron :=
  { c with
    schedule := if req.schedule ≠ "" then req.schedule else c.schedule
    active := req.active.getD c.active }

def handlePatchCron (cronID : String) (body : Except String CronPatch) :
    ResourceDb × Response ResourceReply :=
  let (crons, response) := patchHandler db.crons fault cronID "cron not found" body
    CronPatch.merge putCron .cron
  ({ db with crons }, response)

def handleDeleteCron (cronID : String) : ResourceDb × Response ResourceReply :=
  let (crons, response) := deleteHandler db.crons fault cronID "cron not found"
  ({ db with crons }, response)

def handleRunCron (cronID : String) (now : Int) (vmID : String) :
    ResourceDb × Response ResourceReply :=
  match getRow db.crons fault.read cronID with
  | none => (db, .error statusNotFound "cron not found")
  | some c =>
    ({ db with
      crons := touchCron db.crons (fault.write 0) c.id now
      cronJobs := db.cronJobs ++ [{
        id := vmID, name := c.name ++ "-job", projectID := c.projectID, serviceName := "cron",
        image := c.jobImage, replicaIndex := -1 }]
      daemonLog := db.daemonLog ++ ["cron " ++ c.name ++ " triggered job " ++ c.jobImage] },
      .json statusAccepted (.jobBooted c vmID))

structure FirewallRuleRequest where
  direction : String
  action : String
  proto : String
  ports : String
  source : String
  priority : Int

def newFirewallRule (newID projectID : String) (req : FirewallRuleRequest) : FirewallRule where
  id := newID
  projectID := projectID
  direction := req.direction
  action := req.action
  proto := req.proto
  ports := req.ports
  source := req.source
  priority := req.priority
  active := true

def handleCreateFirewallRule (newID projectID : String) (body : Except String FirewallRuleRequest) :
    ResourceDb × Response ResourceReply :=
  match body with
  | .error err => (db, badRequest err)
  | .ok req =>
    let fr := newFirewallRule newID projectID req
    ({ db with firewallRules := putFirewallRule db.firewallRules (fault.write 0) fr },
      .json statusCreated (.firewallRule fr))

def handleGetFirewallRule (ruleID : String) : Response ResourceReply :=
  getHandler db.firewallRules fault ruleID "firewall rule not found" .firewallRule

structure FirewallRulePatch where
  action : String
  active : Option Bool
  priority : Int

def FirewallRulePatch.merge (fr : FirewallRule) (req : FirewallRulePatch) : FirewallRule :=
  { fr with
    action := if req.action ≠ "" then req.action else fr.action
    active := req.active.getD fr.active
    priority := if req.priority ≠ 0 then req.priority else fr.priority }

def handlePatchFirewallRule (ruleID : String) (body : Except String FirewallRulePatch) :
    ResourceDb × Response ResourceReply :=
  let (firewallRules, response) := patchHandler db.firewallRules fault ruleID
    "firewall rule not found" body FirewallRulePatch.merge putFirewallRule .firewallRule
  ({ db with firewallRules }, response)

def handleDeleteFirewallRule (ruleID : String) : ResourceDb × Response ResourceReply :=
  let (firewallRules, response) :=
    deleteHandler db.firewallRules fault ruleID "firewall rule not found"
  ({ db with firewallRules }, response)

structure VolumeManager where
  usage : String → Int
  path : String → String

def handleGetVolume (volumeID : String) : Response ResourceReply :=
  getHandler db.volumes fault volumeID "volume not found" .volume

/-- `handleDeleteVolume`; the backing directory is outside the store. -/
def handleDeleteVolume (volumeID : String) : ResourceDb × Response ResourceReply :=
  let (volumes, response) := deleteHandler db.volumes fault volumeID "volume not found"
  ({ db with volumes }, response)

def handleResizeVolume (volumeID : String) (body : Except String Int) :
    ResourceDb × Response ResourceReply :=
  match body with
  | .error err => (db, badRequest err)
  | .ok sizeMiB =>
    let (volumes, resized) := resizeVolume db.volumes (fault.write 0) volumeID sizeMiB
    if resized then ({ db with volumes }, .json statusOK (.resized sizeMiB))
    else ({ db with volumes }, .error statusNotFound "volume not found")

def handleVolumeUsage (volMgr : Option VolumeManager) (volumeID : String) :
    Response ResourceReply :=
  match getRow db.volumes fault.read volumeID with
  | none => .error statusNotFound "volume not found"
  | some v =>
    let used := (volMgr.map (fun manager => manager.usage v.id)).getD 0
    let path := if v.path = "" then (volMgr.map (fun manager => manager.path v.id)).getD v.path
      else v.path
    .json statusOK (.usage v used (v.sizeMiB * 1024 * 1024) path)

def handleDeleteRedirect (redirectID : String) : ResourceDb × Response ResourceReply :=
  let (redirects, response) := deleteHandler db.redirects fault redirectID "redirect not found"
  ({ db with redirects }, response)

/-- A missing id is filled in, and the project is that of the path. -/
def bulkEntry (projectID : String) (newID : Nat → String) (index : Nat) (rd : Redirect) :
    Redirect :=
  { rd with id := if rd.id = "" then newID index else rd.id, projectID }

def bulkEntries (projectID : String) (newID : Nat → String) (fault : StmtFault)
    (redirects : List Redirect) : List (Option String × Redirect) :=
  redirects.mapIdx (fun index rd => (fault.write index, bulkEntry projectID newID index rd))

def handleBulkRedirects (projectID : String) (newID : Nat → String)
    (body : Except String (List Redirect)) : ResourceDb × Response ResourceReply :=
  match body with
  | .error err => (db, badRequest err)
  | .ok redirects =>
    ({ db with
      redirects := (bulkEntries projectID newID fault redirects).foldl
        (fun table entry => putRedirect table entry.1 entry.2) db.redirects },
      .json statusOK (.applied redirects.length))

end Porter.Api
