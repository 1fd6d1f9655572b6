import Mathlib.Data.List.Induction
import Porter.Api.Resources
import Porter.Sql.Spares

/-!
# Isolation of the project resource routes

A request on a route of one project should neither print nor alter a row of another.
-/
namespace Porter.Api

open Store Sql

/-- What the path and the body of a request name, and what its handler gets from outside. -/
inductive ResourceRequest where
  | deleteSecret (secretID : String)
  | getEnvironment (envID : String)
  | patchEnvironment (envID : String) (body : Except String EnvironmentPatch)
  | deleteEnvironment (envID : String)
  | envBranch (envID : String) (body : Except String String)
  | envDomain (envID : String) (body : Except String String)
  | envRange (envID : String)
  | getCron (cronID : String)
  | patchCron (cronID : String) (body : Except String CronPatch)
  | deleteCron (cronID : String)
  | runCron (cronID : String) (now : Int) (vmID : String)
  | getFirewallRule (ruleID : String)
  | patchFirewallRule (ruleID : String) (body : Except String FirewallRulePatch)
  | deleteFirewallRule (ruleID : String)
  | getVolume (volumeID : String)
  | deleteVolume (volumeID : String)
  | resizeVolume (volumeID : String) (body : Except String Int)
  | volumeUsage (volumeID : String) (volMgr : Option VolumeManager)
  | deleteRedirect (redirectID : String)
  | bulkRedirects (newID : Nat → String) (body : Except String (List Redirect))

def resourceHandler (db : ResourceDb) (fault : StmtFault) (projectID : String) :
    ResourceRequest → ResourceDb × Response ResourceReply
  | .deleteSecret secretID => handleDeleteSecret db fault secretID
  | .getEnvironment envID => (db, handleGetEnvironment db fault envID)
  | .patchEnvironment envID body => handlePatchEnvironment db fault envID body
  | .deleteEnvironment envID => handleDeleteEnvironment db fault envID
  | .envBranch envID body => handleEnvBranch db fault envID body
  | .envDomain envID body => handleEnvDomain db fault envID body
  | .envRange envID => (db, handleEnvRange envID)
  | .getCron cronID => (db, handleGetCron db fault cronID)
  | .patchCron cronID body => handlePatchCron db fault cronID body
  | .deleteCron cronID => handleDeleteCron db fault cronID
  | .runCron cronID now vmID => handleRunCron db fault cronID now vmID
  | .getFirewallRule ruleID => (db, handleGetFirewallRule db fault ruleID)
  | .patchFirewallRule ruleID body => handlePatchFirewallRule db fault ruleID body
  | .deleteFirewallRule ruleID => handleDeleteFirewallRule db fault ruleID
  | .getVolume volumeID => (db, handleGetVolume db fault volumeID)
  | .deleteVolume volumeID => handleDeleteVolume db fault volumeID
  | .resizeVolume volumeID body => handleResizeVolume db fault volumeID body
  | .volumeUsage volumeID volMgr => (db, handleVolumeUsage db fault volMgr volumeID)
  | .deleteRedirect redirectID => handleDeleteRedirect db fault redirectID
  | .bulkRedirects newID body => handleBulkRedirects db fault projectID newID body

structure Isolated (projectID : String) (before : ResourceDb)
    (result : ResourceDb × Response ResourceReply) : Prop where
  secrets : Table.Spares (fun row => row.projectID ≠ projectID) before.secrets result.1.secrets
  environments : Table.Spares (fun row => row.projectID ≠ projectID) before.environments
    result.1.environments
  crons : Table.Spares (fun row => row.projectID ≠ projectID) before.crons result.1.crons
  firewallRules : Table.Spares (fun row => row.projectID ≠ projectID) before.firewallRules
    result.1.firewallRules
  volumes : Table.Spares (fun row => row.projectID ≠ projectID) before.volumes result.1.volumes
  redirects : Table.Spares (fun row => row.projectID ≠ projectID) before.redirects
    result.1.redirects
  response : ∀ owner ∈ result.2.projects, owner = projectID

def OwnRow {ρ : Type} {key : ρ → String} (owner : ρ → String) (projectID : String)
    (table : Table key) (id : String) : Prop :=
  ∀ row, table.find id = some row → owner row = projectID

def lastPut (entries : List (Option String × Redirect)) (id : String) : Option Redirect :=
  ((entries.filter (fun entry => entry.1.isNone && entry.2.id = id)).getLast?).map Prod.snd

def Harmless (db : ResourceDb) (fault : StmtFault) (projectID : String) : ResourceRequest → Prop
  | .deleteSecret id => (fault.write 0).isSome ∨ OwnRow Secret.projectID projectID db.secrets id
  | .getEnvironment id =>
    fault.read.isSome ∨ OwnRow Environment.projectID projectID db.environments id
  | .patchEnvironment id body =>
    fault.read.isSome ∨ (∃ err, body = .error err) ∨
      OwnRow Environment.projectID projectID db.environments id
  | .deleteEnvironment id =>
    (fault.write 0).isSome ∨ OwnRow Environment.projectID projectID db.environments id
  | .envBranch id body =>
    fault.read.isSome ∨ (∃ err, body = .error err) ∨
      OwnRow Environment.projectID projectID db.environments id
  | .envDomain id body =>
    fault.read.isSome ∨ (∃ err, body = .error err) ∨
      OwnRow Environment.projectID projectID db.environments id
  | .envRange _ => True
  | .getCron id => fault.read.isSome ∨ OwnRow Cron.projectID projectID db.crons id
  | .patchCron id body =>
    fault.read.isSome ∨ (∃ err, body = .error err) ∨
      OwnRow Cron.projectID projectID db.crons id
  | .deleteCron id => (fault.write 0).isSome ∨ OwnRow Cron.projectID projectID db.crons id
  | .runCron id _ _ => fault.read.isSome ∨ OwnRow Cron.projectID projectID db.crons id
  | .getFirewallRule id =>
    fault.read.isSome ∨ OwnRow FirewallRule.projectID projectID db.firewallRules id
  | .patchFirewallRule id body =>
    fault.read.isSome ∨ (∃ err, body = .error err) ∨
      OwnRow FirewallRule.projectID projectID db.firewallRules id
  | .deleteFirewallRule id =>
    (fault.write 0).isSome ∨ OwnRow FirewallRule.projectID projectID db.firewallRules id
  | .getVolume id => fault.read.isSome ∨ OwnRow Volume.projectID projectID db.volumes id
  | .deleteVolume id => (fault.write 0).isSome ∨ OwnRow Volume.projectID projectID db.volumes id
  | .resizeVolume id body =>
    (fault.write 0).isSome ∨ (∃ err, body = .error err) ∨
      ∀ row, db.volumes.find id = some row →
        row.projectID = projectID ∨ body = .ok row.sizeMiB
  | .volumeUsage id _ => fault.read.isSome ∨ OwnRow Volume.projectID projectID db.volumes id
  | .deleteRedirect id =>
    (fault.write 0).isSome ∨ OwnRow Redirect.projectID projectID db.redirects id
  | .bulkRedirects newID body =>
    ∀ redirects, body = .ok redirects → ∀ row ∈ db.redirects.rows, row.projectID ≠ projectID →
      ∀ last, lastPut (bulkEntries projectID newID fault redirects) row.id = some last →
        row.overwrite last = row

section

theorem ownRow_of_found {ρ : Type} {key : ρ → String} {owner : ρ → String} {projectID : String}
    {table : Table key} {id : String} {row : ρ} (found : table.find id = some row)
    (own : owner row = projectID) : OwnRow owner projectID table (key row) := by
  intro other same
  have named : key row = id := ((Table.find_eq_some _ id row).mp found).2
  rw [named, found] at same
  rw [← Option.some.inj same]
  exact own

variable {ρ : Type} {key : ρ → String} (owner : ρ → String) (projectID : String)

def TableIsolated (table : Table key) (result : Table key × Response ResourceReply) : Prop :=
  Table.Spares (fun row => owner row ≠ projectID) table result.1 ∧
    ∀ other ∈ result.2.projects, other = projectID

variable (table : Table key) (fault : StmtFault) (id notFound : String)

theorem getHandler_iff (reply : ρ → ResourceReply)
    (prints : ∀ row, (reply row).projects = [owner row]) :
    (∀ other ∈ (getHandler table fault id notFound reply).projects, other = projectID) ↔
      fault.read.isSome = true ∨ OwnRow owner projectID table id := by
  unfold getHandler getRow OwnRow
  cases fault.read with
  | some err => simp [Response.projects]
  | none =>
    cases found : table.find id with
    | none => simp [Response.projects]
    | some row => simp [Response.projects, prints]

theorem deleteHandler_iff :
    TableIsolated owner projectID table (deleteHandler table fault id notFound) ↔
      (fault.write 0).isSome = true ∨ OwnRow owner projectID table id := by
  have next : (deleteHandler table fault id notFound).1 =
      (deleteRow table (fault.write 0) id).1 := by
    simp only [deleteHandler]
    split
    · rfl
    · rfl
  have silent : (deleteHandler table fault id notFound).2.projects = [] := by
    simp only [deleteHandler]
    split
    · rfl
    · rfl
  simp only [TableIsolated, next, silent, List.not_mem_nil, false_implies, implies_true, and_true]
  unfold deleteRow
  cases fault.write 0 with
  | some err => simp [Table.Spares.refl]
  | none =>
    simp only [Option.isSome_none, Bool.false_eq_true, false_or]
    rw [Table.spares_deleteWhere_iff]
    simp only [OwnRow, ne_eq, not_not]

theorem patchHandler_iff {β : Type} (body : Except String β) (merge : ρ → β → ρ)
    (put : Table key → Option String → ρ → Table key) (reply : ρ → ResourceReply)
    (prints : ∀ row, (reply row).projects = [owner row])
    (keeps : ∀ row req, owner (merge row req) = owner row)
    (puts : ∀ row req, table.find id = some row → owner row = projectID →
      Table.Spares (fun row => owner row ≠ projectID) table
        (put table (fault.write 0) (merge row req))) :
    TableIsolated owner projectID table
        (patchHandler table fault id notFound body merge put reply) ↔
      fault.read.isSome = true ∨ (∃ err, body = .error err) ∨
        OwnRow owner projectID table id := by
  unfold TableIsolated patchHandler getRow OwnRow
  cases fault.read with
  | some err => simp [Response.projects, Table.Spares.refl]
  | none =>
    cases found : table.find id with
    | none => simp [Response.projects, Table.Spares.refl]
    | some row =>
      cases body with
      | error err => simp [Response.projects, badRequest, Table.Spares.refl]
      | ok req =>
        simp only [Response.projects, prints, keeps, List.mem_singleton, forall_eq,
          Option.isSome_none, Bool.false_eq_true, reduceCtorEq, exists_false, false_or,
          Option.some.injEq]
        constructor
        · intro isolated other same
          rw [← same]
          exact isolated.2
        · intro own
          exact ⟨puts row req found (own row rfl), own row rfl⟩

end

variable (projectID : String)

theorem putEnvironment_spares (table : Table Environment.id) (fault : Option String)
    (e : Environment) (own : e.projectID = projectID) :
    Table.Spares (fun row => row.projectID ≠ projectID) table (putEnvironment table fault e) := by
  unfold putEnvironment
  cases fault with
  | some err => exact Table.Spares.refl _ table
  | none =>
    simp only
    split
    · apply Table.spares_updateWhere
      intro row selected foreign
      simp only [Bool.and_eq_true, decide_eq_true_eq] at selected
      exact foreign (selected.1.trans own)
    · intro row stored _
      cases inserted : table.insert e with
      | none => exact stored
      | some next => exact (Table.mem_insert inserted row).mpr (Or.inl stored)

theorem putCron_spares (table : Table Cron.id) (fault : Option String) (c : Cron)
    (own : OwnRow Cron.projectID projectID table c.id) :
    Table.Spares (fun row => row.projectID ≠ projectID) table (putCron table fault c) := by
  cases fault with
  | some err => exact Table.Spares.refl _ table
  | none =>
    apply Table.spares_upsert
    intro row found foreign
    exact foreign (own row found)

theorem putFirewallRule_spares (table : Table FirewallRule.id) (fault : Option String)
    (r : FirewallRule) (own : OwnRow FirewallRule.projectID projectID table r.id) :
    Table.Spares (fun row => row.projectID ≠ projectID) table (putFirewallRule table fault r) := by
  cases fault with
  | some err => exact Table.Spares.refl _ table
  | none =>
    apply Table.spares_upsert
    intro row found foreign
    exact foreign (own row found)

theorem updateRow_iff {ρ : Type} {key : ρ → String} (foreign : ρ → Prop) (table : Table key)
    (fault : Option String) (id : String) (f : ρ → ρ) (keeps : ∀ row, key (f row) = key row) :
    Table.Spares foreign table (updateRow table fault id f keeps).1 ↔
      fault.isSome = true ∨ ∀ row, table.find id = some row → foreign row → f row = row := by
  unfold updateRow
  cases fault with
  | some err => simp [Table.Spares.refl]
  | none =>
    simp only [Option.isSome_none, Bool.false_eq_true, false_or]
    exact Table.spares_updateWhere_iff _ _ id f keeps

theorem touchCron_spares (table : Table Cron.id) (fault : Option String) (id : String) (now : Int)
    (own : OwnRow Cron.projectID projectID table id) :
    Table.Spares (fun row => row.projectID ≠ projectID) table (touchCron table fault id now) := by
  unfold touchCron
  rw [updateRow_iff]
  refine Or.inr ?_
  intro row found foreign
  exact absurd (own row found) foreign

theorem resizeVolume_iff (table : Table Volume.id) (fault : Option String) (id : String)
    (sizeMiB : Int) :
    Table.Spares (fun row => row.projectID ≠ projectID) table
        (resizeVolume table fault id sizeMiB).1 ↔
      fault.isSome = true ∨ ∀ row, table.find id = some row →
        row.projectID = projectID ∨ sizeMiB = row.sizeMiB := by
  unfold resizeVolume
  rw [updateRow_iff]
  apply or_congr_right
  apply forall_congr'
  intro row
  apply imp_congr_right
  intro _
  have kept : { row with sizeMiB := sizeMiB } = row ↔ sizeMiB = row.sizeMiB := by
    constructor
    · intro same
      exact congrArg Volume.sizeMiB same
    · intro same
      rw [same]
  rw [kept, ne_eq, or_iff_not_imp_left]

theorem lastPut_append (entries : List (Option String × Redirect))
    (entry : Option String × Redirect) (id : String) :
    lastPut (entries ++ [entry]) id =
      if entry.1.isNone && entry.2.id = id then some entry.2 else lastPut entries id := by
  unfold lastPut
  split
  · rename_i chosen
    simp [chosen]
  · rename_i skipped
    simp [skipped]

theorem find_bulk (table : Table Redirect.id) (entries : List (Option String × Redirect))
    (row : Redirect) (found : table.find row.id = some row) :
    (entries.foldl (fun table entry => putRedirect table entry.1 entry.2) table).find row.id =
      some (((lastPut entries row.id).map row.overwrite).getD row) := by
  induction entries using List.reverseRecOn with
  | nil => simpa [lastPut] using found
  | append_singleton entries entry recurse =>
    obtain ⟨failed, rd⟩ := entry
    rw [List.foldl_append, lastPut_append]
    simp only [List.foldl_cons, List.foldl_nil]
    cases failed with
    | some err => simpa [putRedirect] using recurse
    | none =>
      by_cases named : rd.id = row.id
      · have written := Table.find_upsert_self
          (entries.foldl (fun table entry => putRedirect table entry.1 entry.2) table) rd
          (fun old => old.overwrite rd) (fun old => old.overwrite_id rd)
        rw [named, recurse] at written
        rw [putRedirect, written]
        cases lastPut entries row.id with
        | none => simp [named]
        | some last => simp [named, Redirect.overwrite]
      · have untouched := Table.find_upsert_of_ne
          (entries.foldl (fun table entry => putRedirect table entry.1 entry.2) table) rd
          (fun old => old.overwrite rd) (fun old => old.overwrite_id rd) row.id
          (fun same => named same.symm)
        rw [putRedirect, untouched, recurse]
        simp [named]

theorem bulk_spares_iff (table : Table Redirect.id) (entries : List (Option String × Redirect)) :
    Table.Spares (fun row => row.projectID ≠ projectID) table
        (entries.foldl (fun table entry => putRedirect table entry.1 entry.2) table) ↔
      ∀ row ∈ table.rows, row.projectID ≠ projectID →
        ∀ last, lastPut entries row.id = some last → row.overwrite last = row := by
  rw [Table.spares_iff_find]
  apply forall_congr'
  intro row
  apply imp_congr_right
  intro stored
  have found := (Table.find_eq_some table row.id row).mpr ⟨stored, rfl⟩
  rw [find_bulk table entries row found]
  cases lastPut entries row.id with
  | none | some => simp

section

variable (projectID : String) (db : ResourceDb)

theorem isolated_read (response : Response ResourceReply) :
    Isolated projectID db (db, response) ↔
      ∀ owner ∈ response.projects, owner = projectID :=
  ⟨fun isolated => isolated.response, fun own =>
    ⟨.refl _ _, .refl _ _, .refl _ _, .refl _ _, .refl _ _, .refl _ _, own⟩⟩

theorem isolated_secrets (result : Table Secret.id × Response ResourceReply) :
    Isolated projectID db ({ db with secrets := result.1 }, result.2) ↔
      TableIsolated Secret.projectID projectID db.secrets result :=
  ⟨fun isolated => ⟨isolated.secrets, isolated.response⟩, fun own =>
    ⟨own.1, .refl _ _, .refl _ _, .refl _ _, .refl _ _, .refl _ _, own.2⟩⟩

theorem isolated_environments (result : Table Environment.id × Response ResourceReply) :
    Isolated projectID db ({ db with environments := result.1 }, result.2) ↔
      TableIsolated Environment.projectID projectID db.environments result :=
  ⟨fun isolated => ⟨isolated.environments, isolated.response⟩, fun own =>
    ⟨.refl _ _, own.1, .refl _ _, .refl _ _, .refl _ _, .refl _ _, own.2⟩⟩

theorem isolated_crons (result : Table Cron.id × Response ResourceReply)
    (jobs : List CronJob) (log : List String) :
    Isolated projectID db
        ({ db with crons := result.1, cronJobs := jobs, daemonLog := log }, result.2) ↔
      TableIsolated Cron.projectID projectID db.crons result :=
  ⟨fun isolated => ⟨isolated.crons, isolated.response⟩, fun own =>
    ⟨.refl _ _, .refl _ _, own.1, .refl _ _, .refl _ _, .refl _ _, own.2⟩⟩

theorem isolated_firewallRules (result : Table FirewallRule.id × Response ResourceReply) :
    Isolated projectID db ({ db with firewallRules := result.1 }, result.2) ↔
      TableIsolated FirewallRule.projectID projectID db.firewallRules result :=
  ⟨fun isolated => ⟨isolated.firewallRules, isolated.response⟩, fun own =>
    ⟨.refl _ _, .refl _ _, .refl _ _, own.1, .refl _ _, .refl _ _, own.2⟩⟩

theorem isolated_volumes (result : Table Volume.id × Response ResourceReply) :
    Isolated projectID db ({ db with volumes := result.1 }, result.2) ↔
      TableIsolated Volume.projectID projectID db.volumes result :=
  ⟨fun isolated => ⟨isolated.volumes, isolated.response⟩, fun own =>
    ⟨.refl _ _, .refl _ _, .refl _ _, .refl _ _, own.1, .refl _ _, own.2⟩⟩

theorem isolated_redirects (result : Table Redirect.id × Response ResourceReply) :
    Isolated projectID db ({ db with redirects := result.1 }, result.2) ↔
      TableIsolated Redirect.projectID projectID db.redirects result :=
  ⟨fun isolated => ⟨isolated.redirects, isolated.response⟩, fun own =>
    ⟨.refl _ _, .refl _ _, .refl _ _, .refl _ _, .refl _ _, own.1, own.2⟩⟩

end

variable (db : ResourceDb)

variable (fault : StmtFault)

theorem handleDeleteSecret_iff (projectID id : String) :
    Isolated projectID db (handleDeleteSecret db fault id) ↔
      (fault.write 0).isSome = true ∨ OwnRow Secret.projectID projectID db.secrets id := by
  unfold handleDeleteSecret
  cases fault.write 0 with
  | some err => simp [isolated_read, Response.projects]
  | none =>
    refine (isolated_secrets _ _
      ((deleteRow db.secrets none id).1, .json statusOK (.status "deleted"))).trans ?_
    simp only [TableIsolated, deleteRow, Option.isSome_none, Bool.false_eq_true, false_or]
    rw [Table.spares_deleteWhere_iff]
    simp [OwnRow, Response.projects, ResourceReply.projects]

theorem handleRunCron_iff (projectID id : String) (now : Int) (vmID : String) :
    Isolated projectID db (handleRunCron db fault id now vmID) ↔
      fault.read.isSome = true ∨ OwnRow Cron.projectID projectID db.crons id := by
  unfold handleRunCron getRow OwnRow
  cases fault.read with
  | some err => simp [isolated_read, Response.projects]
  | none =>
    cases found : db.crons.find id with
    | none => simp [isolated_read, Response.projects]
    | some c =>
      refine (isolated_crons _ _ (touchCron db.crons (fault.write 0) c.id now,
        .json statusAccepted (.jobBooted c vmID)) _ _).trans ?_
      simp only [TableIsolated, Response.projects, ResourceReply.projects, List.mem_singleton,
        forall_eq, Option.isSome_none, Bool.false_eq_true, false_or, Option.some.injEq]
      constructor
      · intro isolated row same
        rw [← same]
        exact isolated.2
      · intro own
        refine ⟨?_, own c rfl⟩
        apply touchCron_spares
        exact ownRow_of_found found (own c rfl)

theorem handleResizeVolume_iff (projectID id : String) (body : Except String Int) :
    Isolated projectID db (handleResizeVolume db fault id body) ↔
      (fault.write 0).isSome = true ∨ (∃ err, body = .error err) ∨
        ∀ row, db.volumes.find id = some row →
          row.projectID = projectID ∨ body = .ok row.sizeMiB := by
  cases body with
  | error err => simp [handleResizeVolume, isolated_read, Response.projects, badRequest]
  | ok sizeMiB =>
    have sized := resizeVolume_iff projectID db.volumes (fault.write 0) id sizeMiB
    have silent : ∀ response : Response ResourceReply, response.projects = [] →
        (Isolated projectID db
          ({ db with volumes := (resizeVolume db.volumes (fault.write 0) id sizeMiB).1 },
            response) ↔
          Table.Spares (fun row => row.projectID ≠ projectID) db.volumes
            (resizeVolume db.volumes (fault.write 0) id sizeMiB).1) := by
      intro response none
      refine (isolated_volumes _ _ (_, response)).trans ?_
      simp [TableIsolated, none]
    simp only [reduceCtorEq, exists_false, false_or, Except.ok.injEq]
    rw [← sized]
    simp only [handleResizeVolume]
    split
    · exact silent _ rfl
    · exact silent _ rfl

theorem handleVolumeUsage_iff (projectID id : String) (volMgr : Option VolumeManager) :
    (∀ owner ∈ (handleVolumeUsage db fault volMgr id).projects, owner = projectID) ↔
      fault.read.isSome = true ∨ OwnRow Volume.projectID projectID db.volumes id := by
  unfold handleVolumeUsage getRow OwnRow
  cases fault.read with
  | some err => simp [Response.projects]
  | none =>
    cases found : db.volumes.find id with
    | none => simp [Response.projects]
    | some v => simp [Response.projects, ResourceReply.projects]

theorem handleBulkRedirects_iff (projectID : String) (newID : Nat → String)
    (body : Except String (List Redirect)) :
    Isolated projectID db (handleBulkRedirects db fault projectID newID body) ↔
      ∀ redirects, body = .ok redirects → ∀ row ∈ db.redirects.rows, row.projectID ≠ projectID →
        ∀ last, lastPut (bulkEntries projectID newID fault redirects) row.id = some last →
          row.overwrite last = row := by
  unfold handleBulkRedirects
  cases body with
  | error err => simp [isolated_read, Response.projects, badRequest]
  | ok redirects =>
    refine (isolated_redirects _ _
      ((bulkEntries projectID newID fault redirects).foldl
        (fun table entry => putRedirect table entry.1 entry.2) db.redirects,
        .json statusOK (.applied redirects.length))).trans ?_
    rw [TableIsolated, bulk_spares_iff]
    simp [Response.projects, ResourceReply.projects]

theorem patchEnvironment_iff {β : Type} (projectID id : String) (body : Except String β)
    (merge : Environment → β → Environment) (reply : Environment → ResourceReply)
    (prints : ∀ e, (reply e).projects = [e.projectID])
    (keeps : ∀ e req, (merge e req).projectID = e.projectID) :
    Isolated projectID db
        ({ db with environments := (patchHandler db.environments fault id "environment not found"
            body merge putEnvironment reply).1 },
          (patchHandler db.environments fault id "environment not found" body merge
            putEnvironment reply).2) ↔
      fault.read.isSome = true ∨ (∃ err, body = .error err) ∨
        OwnRow Environment.projectID projectID db.environments id := by
  rw [isolated_environments]
  apply patchHandler_iff _ _ _ _ id _ body merge
    putEnvironment reply prints keeps
  intro row req _ own
  exact putEnvironment_spares _ _ _ _ ((keeps row req).trans own)

theorem handlePatchCron_iff (projectID id : String) (body : Except String CronPatch) :
    Isolated projectID db (handlePatchCron db fault id body) ↔
      fault.read.isSome = true ∨ (∃ err, body = .error err) ∨
        OwnRow Cron.projectID projectID db.crons id := by
  refine (isolated_crons projectID db (patchHandler db.crons fault id "cron not found" body
    CronPatch.merge putCron .cron) db.cronJobs db.daemonLog).trans ?_
  apply patchHandler_iff Cron.projectID projectID db.crons fault id _ body CronPatch.merge putCron
    .cron (fun _ => rfl) (fun _ _ => rfl)
  intro row req found own
  have stored : OwnRow Cron.projectID projectID db.crons row.id := ownRow_of_found found own
  exact putCron_spares projectID _ _ (CronPatch.merge row req) stored

theorem handlePatchFirewallRule_iff (projectID id : String)
    (body : Except String FirewallRulePatch) :
    Isolated projectID db (handlePatchFirewallRule db fault id body) ↔
      fault.read.isSome = true ∨ (∃ err, body = .error err) ∨
        OwnRow FirewallRule.projectID projectID db.firewallRules id := by
  refine (isolated_firewallRules _ _ (patchHandler db.firewallRules fault id
    "firewall rule not found" body FirewallRulePatch.merge putFirewallRule .firewallRule)).trans ?_
  apply patchHandler_iff _ _ _ _ id _ body
    FirewallRulePatch.merge putFirewallRule .firewallRule (fun _ => rfl) (fun _ _ => rfl)
  intro row req found own
  have stored : OwnRow FirewallRule.projectID projectID db.firewallRules row.id :=
    ownRow_of_found found own
  exact putFirewallRule_spares _ _ _ (FirewallRulePatch.merge row req) stored

/-- A request on the routes of a project leaves the rows of all others unseen and unaltered exactly
when it is harmless. -/
theorem resource_isolated_iff (db : ResourceDb) (fault : StmtFault) (projectID : String)
    (request : ResourceRequest) :
    Isolated projectID db (resourceHandler db fault projectID request) ↔
      Harmless db fault projectID request := by
  cases request with
  | deleteSecret id => exact handleDeleteSecret_iff db fault projectID id
  | getEnvironment | getCron | getFirewallRule | getVolume =>
    exact (isolated_read _ _ _).trans (getHandler_iff _ _ _ _ _ _ _ (fun _ => rfl))
  | patchEnvironment | envBranch | envDomain =>
    exact patchEnvironment_iff _ _ _ _ _ _ _ (fun _ => rfl) (fun _ _ => rfl)
  | deleteEnvironment id =>
    exact (isolated_environments _ _ _).trans (deleteHandler_iff _ _ _ _ _ _)
  | envRange id =>
    refine (isolated_read _ _ _).trans ?_
    simp [handleEnvRange, Response.projects, ResourceReply.projects, Harmless]
  | patchCron id body => exact handlePatchCron_iff db fault projectID id body
  | deleteCron id =>
    exact (isolated_crons _ _ _ _ _).trans (deleteHandler_iff _ _ _ _ _ _)
  | runCron id now vmID => exact handleRunCron_iff db fault projectID id now vmID
  | patchFirewallRule id body => exact handlePatchFirewallRule_iff db fault projectID id body
  | deleteFirewallRule id =>
    exact (isolated_firewallRules _ _ _).trans (deleteHandler_iff _ _ _ _ _ _)
  | deleteVolume id =>
    exact (isolated_volumes _ _ _).trans (deleteHandler_iff _ _ _ _ _ _)
  | resizeVolume id body => exact handleResizeVolume_iff db fault projectID id body
  | volumeUsage id volMgr =>
    exact (isolated_read _ _ _).trans (handleVolumeUsage_iff _ _ _ id volMgr)
  | deleteRedirect id =>
    exact (isolated_redirects _ _ _).trans (deleteHandler_iff _ _ _ _ _ _)
  | bulkRedirects newID body => exact handleBulkRedirects_iff db fault projectID newID body

def neighbourDb : ResourceDb where
  secrets := .single _ ⟨"00000000-0000-4000-8000-0000000000b1",
    "00000000-0000-4000-8000-00000000000b", "API_TOKEN", [7, 7]⟩
  environments := .empty _
  crons := .empty _
  firewallRules := .empty _
  volumes := .empty _
  redirects := .empty _
  cronJobs := []
  daemonLog := []

theorem delete_foreign_secret :
    ∃ row ∈ neighbourDb.secrets.rows, row.projectID = "00000000-0000-4000-8000-00000000000b" ∧
      row ∉ (resourceHandler neighbourDb .clean "00000000-0000-4000-8000-00000000000a"
        (.deleteSecret "00000000-0000-4000-8000-0000000000b1")).1.secrets.rows := by
  decide

end Porter.Api
