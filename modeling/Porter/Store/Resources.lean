import Porter.Sql.Table

/-!
# Project resources

The tables of the resources a project owns and the statements the project routes run on them.
-/
namespace Porter.Store

open Sql

structure Secret where
  id : String
  projectID : String
  name : String
  valueEncrypted : List UInt8
deriving DecidableEq

structure Environment where
  id : String
  projectID : String
  name : String
  branch : String
  url : String
  envDomain : String
deriving DecidableEq

structure Cron where
  id : String
  projectID : String
  name : String
  schedule : String
  jobImage : String
  active : Bool
  lastRun : Option Int
deriving DecidableEq

structure FirewallRule where
  id : String
  projectID : String
  direction : String
  action : String
  proto : String
  ports : String
  source : String
  priority : Int
  active : Bool
deriving DecidableEq

structure Volume where
  id : String
  projectID : String
  name : String
  sizeMiB : Int
  path : String
deriving DecidableEq

structure Redirect where
  id : String
  projectID : String
  source : String
  target : String
  permanent : Bool

structure CronJob where
  id : String
  name : String
  projectID : String
  serviceName : String
  image : String
  replicaIndex : Int

structure ResourceDb where
  secrets : Table Secret.id
  environments : Table Environment.id
  crons : Table Cron.id
  firewallRules : Table FirewallRule.id
  volumes : Table Volume.id
  redirects : Table Redirect.id
  cronJobs : List CronJob
  daemonLog : List String

structure StmtFault where
  read : Option String
  write : Nat → Option String

def StmtFault.clean : StmtFault := ⟨none, fun _ => none⟩

def getRow {ρ : Type} {key : ρ → String} (table : Table key) (fault : Option String)
    (id : String) : Option ρ :=
  match fault with
  | some _ => none
  | none => table.find id

def deleteRow {ρ : Type} {key : ρ → String} (table : Table key) (fault : Option String)
    (id : String) : Table key × Bool :=
  match fault with
  | some _ => (table, false)
  | none => (table.deleteWhere (fun row => key row = id), (table.find id).isSome)

def updateRow {ρ : Type} {key : ρ → String} (table : Table key) (fault : Option String)
    (id : String) (f : ρ → ρ) (keeps : ∀ row, key (f row) = key row) : Table key × Bool :=
  match fault with
  | some _ => (table, false)
  | none => (table.updateWhere (fun row => key row = id) f keeps, (table.find id).isSome)

def putEnvironment (table : Table Environment.id) (fault : Option String) (e : Environment) :
    Table Environment.id :=
  match fault with
  | some _ => table
  | none =>
    if table.rows.any (fun row => row.projectID = e.projectID && row.name = e.name) then
      table.updateWhere (fun row => row.projectID = e.projectID && row.name = e.name)
        (fun row => { row with branch := e.branch, url := e.url, envDomain := e.envDomain })
        (fun _ => rfl)
    else (table.insert e).getD table

def putCron (table : Table Cron.id) (fault : Option String) (c : Cron) : Table Cron.id :=
  match fault with
  | some _ => table
  | none => table.upsert { c with lastRun := none }
      (fun old => { old with name := c.name, schedule := c.schedule, jobImage := c.jobImage,
                             active := c.active })
      (fun _ => rfl)

def touchCron (table : Table Cron.id) (fault : Option String) (id : String) (now : Int) :
    Table Cron.id :=
  (updateRow table fault id (fun row => { row with lastRun := some now }) (fun _ => rfl)).1

def putFirewallRule (table : Table FirewallRule.id) (fault : Option String) (r : FirewallRule) :
    Table FirewallRule.id :=
  match fault with
  | some _ => table
  | none => table.upsert r
      (fun old => { old with direction := r.direction, action := r.action, proto := r.proto,
                             ports := r.ports, source := r.source, priority := r.priority,
                             active := r.active })
      (fun _ => rfl)

def resizeVolume (table : Table Volume.id) (fault : Option String) (id : String) (sizeMiB : Int) :
    Table Volume.id × Bool :=
  updateRow table fault id (fun row => { row with sizeMiB := sizeMiB }) (fun _ => rfl)

def Redirect.overwrite (old new : Redirect) : Redirect :=
  { old with source := new.source, target := new.target, permanent := new.permanent }

theorem Redirect.overwrite_id (old new : Redirect) : (old.overwrite new).id = old.id := rfl

def putRedirect (table : Table Redirect.id) (fault : Option String) (r : Redirect) :
    Table Redirect.id :=
  match fault with
  | some _ => table
  | none => table.upsert r (fun old => old.overwrite r) (fun old => old.overwrite_id r)

end Porter.Store
