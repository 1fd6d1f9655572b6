import Porter.Api.Deploy

/-!
# Decrypted secrets and stored environments

`bootReplica` adds the decrypted secrets of a project to the map it is given.
-/
namespace Porter.Api.Projects

open Sql Go Store

variable {env : Option Ref} {boot : Boot} {s : Session}

variable (run : ProjectRun)

section Boot

variable (server : Server) (allowed : String → String × String → Prop)

def Covered (db : ProjectDb) (id : String) (contents : EnvMap) : Prop :=
  ∀ secret ∈ db.secrets.rows, secret.projectID = id →
    ∀ pair, openSecret server secret = some pair → contents.has pair.1 = true ∨ allowed id pair

/-- While replicas are booted into `env`: all environments are allowed, and if `env` is the
project's own map, its secrets are covered. -/
structure Booting (env : Option Ref) (boot : Boot) : Prop where
  within : Within allowed boot.session.db
  loaded : EnvWithin allowed boot.session.heap boot.proj
  valid : ∀ ref, env = some ref → boot.session.heap.Valid ref
  covered : ∀ ref, env = some ref → boot.proj.env = some ref →
    Covered server allowed boot.session.db boot.proj.id (boot.session.heap.read ref)

variable {server allowed}

theorem Covered.of_same {before after : ProjectDb} {id : String} {contents : EnvMap}
    (covered : Covered server allowed before id contents) (same : SameProjects before after) :
    Covered server allowed after id contents := by
  intro secret stored
  rw [same.2] at stored
  exact covered secret stored

theorem mem_secretsEnv (s : Session) (proj : Project Ref) (idx : Nat) (pair : String × String)
    (member : pair ∈ (secretsEnv server run s proj idx).2.rows) :
    (∃ ref, proj.env = some ref ∧ pair ∈ (s.heap.read ref).rows) ∨
      ∃ secret ∈ s.db.secrets.rows, secret.projectID = proj.id ∧
        openSecret server secret = some pair := by
  rcases GoMap.mem_setAll _ _ _ member with own | opened
  · rcases GoMap.mem_setAll _ _ _ own with impossible | visited
    · exact absurd impossible (List.not_mem_nil)
    · have held := (run.order.mem_visit _ _).mp visited
      cases env : proj.env with
      | none => simp [env] at held
      | some ref => exact Or.inl ⟨ref, rfl, by simpa [env] using held⟩
  · obtain ⟨secret, listed, opens⟩ := List.mem_filterMap.mp opened
    obtain ⟨stored, owner⟩ := mem_listSecrets _ _ _ _ listed
    exact Or.inr ⟨secret, stored, owner, opens⟩

theorem fill_allowed (s : Session) (proj : Project Ref) (idx : Nat) (ref : Ref)
    (own : proj.env = some ref) (loaded : EnvWithin allowed s.heap proj)
    (covered : Covered server allowed s.db proj.id (s.heap.read ref)) (pair : String × String)
    (member : pair ∈ ((s.heap.read ref).fillMissing
      (run.order.visit (secretsEnv server run s proj idx).2.rows)).rows) :
    allowed proj.id pair := by
  rcases GoMap.mem_fillMissing _ _ pair member with old | ⟨visited, missing⟩
  · exact (loaded ref own).2 pair old
  · have merged := (run.order.mem_visit _ _).mp visited
    rcases mem_secretsEnv _ s _ _ _ merged with ⟨held, env, inside⟩ | opened
    · exact (loaded held env).2 pair inside
    · obtain ⟨secret, stored, owner, opens⟩ := opened
      rcases covered secret stored owner pair opens with present | fine
      · rw [missing] at present
        contradiction
      · exact fine

@[simp] theorem db_injectSecrets (boot : Boot) (env : Option Ref) (idx : Nat) :
    (injectSecrets server run boot env idx).1.db = boot.session.db := by
  cases env with
  | none | some => rfl

theorem inject_fresh (boot : Boot) (idx : Nat)
    (loaded : EnvWithin allowed boot.session.heap boot.proj) :
    EnvWithin allowed (injectSecrets server run boot none idx).1.heap boot.proj := by
  intro ref own
  have held := loaded ref own
  have other := boot.session.heap.alloc_ne GoMap.nil held.1
  exact (held.alloc GoMap.nil).modify_of_ne _ _ other

theorem read_inject (boot : Boot) (given : Ref) (idx : Nat)
    (valid : boot.session.heap.Valid given) :
    (injectSecrets server run boot (some given) idx).1.heap.read given =
      (boot.session.heap.read given).fillMissing
        (run.order.visit (secretsEnv server run boot.session boot.proj idx).2.rows) :=
  boot.session.heap.read_modify_self given _ valid

theorem inject_given (boot : Boot) (given : Ref) (idx : Nat)
    (booting : Booting server allowed (some given) boot) :
    EnvWithin allowed (injectSecrets server run boot (some given) idx).1.heap boot.proj := by
  intro ref own
  have held := booting.loaded ref own
  by_cases same : given = ref
  · subst same
    refine ⟨(boot.session.heap.valid_modify _ given _).mpr held.1, ?_⟩
    rw [read_inject _ _ _ _ held.1]
    exact fill_allowed _ _ _ _ given own booting.loaded
      (booting.covered given rfl own)
  · exact held.modify_of_ne _ _ same

theorem Booting.inject (idx : Nat) (booting : Booting server allowed env boot) :
    Booting server allowed env
      { boot with session := (injectSecrets server run boot env idx).1 } where
  within := by
    simp only [db_injectSecrets]
    exact booting.within
  loaded := by
    cases env with
    | none => exact inject_fresh run boot idx booting.loaded
    | some given => exact inject_given run boot given idx booting
  valid := by
    rintro ref rfl
    exact (boot.session.heap.valid_modify _ _ _).mpr (booting.valid ref rfl)
  covered := by
    rintro ref rfl own secret stored owner pair opens
    rcases booting.covered ref rfl own secret stored owner pair opens with present | fine
    · rw [read_inject _ _ _ _ (booting.valid ref rfl)]
      exact Or.inl (GoMap.has_fillMissing _ _ _ present)
    · exact Or.inr fine

theorem Booting.of_same (booting : Booting server allowed env boot) (next : Session)
    (heap : next.heap = boot.session.heap) (same : SameProjects boot.session.db next.db)
    (deployment : Option Deployment) :
    Booting server allowed env ⟨next, boot.proj, deployment⟩ where
  within := booting.within.of_projects same.1
  loaded := by
    simp only [heap]
    exact booting.loaded
  valid := by
    simp only [heap]
    exact booting.valid
  covered := by
    intro ref given own
    simp only [heap]
    exact (booting.covered ref given own).of_same same

theorem Booting.putVM (vm : VM) (booting : Booting server allowed env boot) :
    Booting server allowed env { boot with session := boot.session.putVM run vm } :=
  booting.of_same (boot.session.putVM run vm) rfl (sameProjects_putVM _ _ _) boot.deployment

theorem Booting.put (booting : Booting server allowed env boot) (run : ProjectRun)
    (proj : Project Ref) (id : proj.id = boot.proj.id) (own : proj.env = boot.proj.env) :
    Booting server allowed env ⟨boot.session.put run proj, proj, boot.deployment⟩ := by
  have loaded : EnvWithin allowed boot.session.heap proj := by
    intro ref held
    rw [id]
    exact booting.loaded ref (own ▸ held)
  refine ⟨booting.within.put run loaded, loaded, booting.valid, ?_⟩
  intro ref given held secret stored owner
  simp only [Session.put, secrets_putProject] at stored
  have before := booting.covered ref given (own ▸ held) secret stored (owner.trans id)
  rw [← id] at before
  exact before

theorem Booting.joinPool (vmID : String)
    (booting : Booting server allowed env { boot with session := s }) :
    Booting server allowed env (joinPool run boot s vmID) := by
  unfold Projects.joinPool
  cases found : boot.deployment with
  | none =>
    rw [found] at booting
    exact booting.put run { boot.proj with vmIDs := boot.proj.vmIDs ++ [vmID] } rfl rfl
  | some d =>
    let grown : Deployment := { d with vmIDs := d.vmIDs ++ [vmID] }
    have written := booting.of_same (s.createDeployment run grown).1 rfl
      (sameProjects_createDeployment _ _ grown) (some grown.withWeights)
    exact written.put run boot.proj rfl rfl

theorem Booting.bootReplica (req : CreateProjectReq Ref) (idx : Nat)
    (booting : Booting server allowed req.env boot) :
    Booting server allowed req.env (bootReplica server run boot req idx) := by
  have injected := booting.inject run idx
  unfold Projects.bootReplica
  dsimp only
  split
  · exact injected.putVM run _
  · exact (injected.putVM run _).joinPool run _

@[simp] theorem env_joinPool (boot : Boot) (s : Session) (vmID : String) :
    (joinPool run boot s vmID).proj.env = boot.proj.env := by
  unfold joinPool
  split <;> rfl

@[simp] theorem env_bootReplica (boot : Boot) (req : CreateProjectReq Ref) (idx : Nat) :
    (bootReplica server run boot req idx).proj.env = boot.proj.env := by
  unfold bootReplica
  dsimp only
  split
  · rfl
  · exact env_joinPool ..

theorem Booting.bootReplicas (req : Boot → CreateProjectReq Ref) (boot : Boot) (indices : List Nat)
    (carries : ∀ later : Boot, later.proj.env = boot.proj.env → (req later).env = env)
    (booting : Booting server allowed env boot) :
    Booting server allowed env (bootReplicas server run req boot indices) := by
  induction indices generalizing boot with
  | nil => exact booting
  | cons idx rest recurse =>
    have given : (req boot).env = env := carries boot rfl
    have next : Booting server allowed env
        (Projects.bootReplica server run boot (req boot) idx) := by
      rw [← given] at booting ⊢
      exact booting.bootReplica run (req boot) idx
    apply recurse _ _ next
    intro later same
    exact carries later (same.trans (env_bootReplica _ _ (req boot) idx))

end Boot

section Handlers

variable {server : Server} {allowed : String → String × String → Prop}

section Put

variable {proj : Project Ref} (within : Within allowed s.db)
  (loaded : EnvWithin allowed s.heap proj) (change : EnvMap → EnvMap)
  (adds : ∀ contents : EnvMap, ∀ pair ∈ (change contents).rows,
    pair ∈ contents.rows ∨ allowed proj.id pair)

include within loaded adds

theorem Within.change_put :
    Within allowed ((s.changeEnv proj change).put run proj).db := by
  apply Within.put run _ (loaded.changeEnv adds)
  rw [db_changeEnv]
  exact within

theorem Within.ensure_put :
    Within allowed (((s.ensureEnv proj).1.changeEnv (s.ensureEnv proj).2 change).put run
      (s.ensureEnv proj).2).db := by
  have rows : Within allowed (s.ensureEnv proj).1.db := by
    rw [db_ensureEnv]
    exact within
  apply rows.change_put _ loaded.ensureEnv
  rw [id_ensureEnv]
  exact adds

end Put

theorem Within.createDeployment (d : Deployment) (within : Within allowed s.db) :
    Within allowed (s.createDeployment run d).1.db :=
  within.of_projects (sameProjects_createDeployment _ _ d).1

theorem set_adds {id : String} {pair : String × String} (given : allowed id pair)
    (contents : EnvMap) (entry : String × String) (member : entry ∈ (contents.set pair).rows) :
    entry ∈ contents.rows ∨ allowed id entry := by
  rcases (contents.mem_set _ _).mp member with rfl | ⟨old, _⟩
  · exact Or.inr given
  · exact Or.inl old

theorem setAll_adds {id : String} {pairs : EnvMap} (given : ∀ pair ∈ pairs.rows, allowed id pair)
    (contents : EnvMap) (entry : String × String)
    (member : entry ∈ (contents.setAll (run.order.visit pairs.rows)).rows) :
    entry ∈ contents.rows ∨ allowed id entry := by
  rcases contents.mem_setAll _ _ member with old | visited
  · exact Or.inl old
  · exact Or.inr (given entry ((run.order.mem_visit _ _).mp visited))

theorem within_handleSetEnv (s : Session) (id : String) (body : Except String (String × String))
    (within : Within allowed s.db)
    (given : (handleSetEnv run s id body).2.succeeded = true →
      ∀ pair, body = .ok pair → allowed id pair) :
    Within allowed (handleSetEnv run s id body).1.db := by
  revert given
  unfold handleSetEnv
  cases body with
  | error err => exact fun _ => within
  | ok pair =>
    dsimp only
    split
    · exact fun _ => within
    · split
      · exact fun _ => within
      · rename_i doc found
        intro given
        obtain ⟨rfl, rows, loaded⟩ := within.load found
        apply rows.ensure_put _ loaded
        rw [id_load]
        exact set_adds (given rfl pair rfl)

theorem within_handleSetEnvBulk (s : Session) (id : String) (body : Except String EnvMap)
    (within : Within allowed s.db)
    (given : (handleSetEnvBulk run s id body).2.succeeded = true →
      ∀ pairs, body = .ok pairs → ∀ pair ∈ pairs.rows, allowed id pair) :
    Within allowed (handleSetEnvBulk run s id body).1.db := by
  revert given
  unfold handleSetEnvBulk
  cases body with
  | error err => exact fun _ => within
  | ok pairs =>
    dsimp only
    split
    · exact fun _ => within
    · rename_i doc found
      intro given
      obtain ⟨rfl, rows, loaded⟩ := within.load found
      apply rows.ensure_put _ loaded
      rw [id_load]
      exact setAll_adds run (given rfl pairs rfl)

theorem within_handlePatchEnv (s : Session) (id envID : String) (body : Except String String)
    (within : Within allowed s.db)
    (given : (handlePatchEnv run s id envID body).2.succeeded = true →
      ∀ value, body = .ok value → allowed id (envID, value)) :
    Within allowed (handlePatchEnv run s id envID body).1.db := by
  revert given
  unfold handlePatchEnv
  cases body with
  | error err => exact fun _ => within
  | ok value =>
    dsimp only
    split
    · exact fun _ => within
    · rename_i doc found
      intro given
      obtain ⟨rfl, rows, loaded⟩ := within.load found
      split
      · apply rows.change_put _ loaded
        rw [id_load]
        exact set_adds (given rfl value rfl)
      · exact rows

theorem within_handleDeleteEnv (s : Session) (id envID : String) (within : Within allowed s.db) :
    Within allowed (handleDeleteEnv run s id envID).1.db := by
  unfold handleDeleteEnv
  split
  · exact within
  · rename_i doc found
    obtain ⟨rfl, rows, loaded⟩ := within.load found
    apply rows.change_put _ loaded
    intro contents pair member
    exact Or.inl ((Table.mem_deleteWhere _ _ _).mp member).1

theorem within_handlePatchProject (etagOf : Project EnvMap → String) (run : ProjectRun)
    (s : Session) (id ifMatch : String) (body : Except String ProjectPatch)
    (within : Within allowed s.db)
    (given : (handlePatchProject etagOf run s id ifMatch body).2.succeeded = true →
      ∀ patch pairs, body = .ok patch → patch.env = some pairs →
        ∀ pair ∈ pairs.rows, allowed id pair) :
    Within allowed (handlePatchProject etagOf run s id ifMatch body).1.db := by
  revert given
  unfold handlePatchProject
  split
  · exact fun _ => within
  · rename_i doc found
    obtain ⟨rfl, rows, loaded⟩ := within.load found
    split
    · exact fun _ => within
    · cases body with
      | error err => exact fun _ => within
      | ok patch =>
        intro given
        have applied : EnvWithin allowed (s.load doc).1.heap (patch.apply (s.load doc).2) := loaded
        dsimp only [mergeEnv]
        cases env : patch.env with
        | none => exact rows.put run applied
        | some pairs =>
          apply rows.ensure_put _ applied
          have same : (patch.apply (s.load doc).2).id = doc.id := id_load s doc
          rw [same]
          exact setAll_adds run (given rfl patch pairs rfl env)

theorem within_handleCreateSecret (s : Session) (id : String)
    (body : Except String (String × String)) (within : Within allowed s.db) :
    Within allowed
      (handleCreateSecret server.box server.secretKeyMaterial run s id body).1.db := by
  unfold handleCreateSecret
  split
  · exact within
  · split
    · exact within
    · split
      · exact within
      · split
        · exact within
        · split
          · exact within
          · rename_i stored
            exact within.of_projects (projects_putSecret stored)

theorem within_handleDeleteSecret (s : Session) (secretID : String) (within : Within allowed s.db) :
    Within allowed (handleDeleteSecret run s secretID).1.db := by
  unfold handleDeleteSecret
  split
  · exact within
  · exact within.of_projects rfl

def SafeDoc (server : Server) (allowed : String → String × String → Prop) (db : ProjectDb)
    (doc : Project EnvMap) : Prop :=
  ∀ contents, doc.env = some contents → Covered server allowed db doc.id contents

theorem boot_own (server : Server) (run : ProjectRun) (req : Boot → CreateProjectReq Ref)
    (boot : Boot) (indices : List Nat) (within : Within allowed boot.session.db)
    (loaded : EnvWithin allowed boot.session.heap boot.proj)
    (carries : ∀ later : Boot, later.proj.env = boot.proj.env → (req later).env = boot.proj.env)
    (safe : indices = [] ∨ ∀ ref, boot.proj.env = some ref →
      Covered server allowed boot.session.db boot.proj.id (boot.session.heap.read ref)) :
    Within allowed (bootReplicas server run req boot indices).session.db ∧
      EnvWithin allowed (bootReplicas server run req boot indices).session.heap
        (bootReplicas server run req boot indices).proj := by
  rcases safe with rfl | covered
  · exact ⟨within, loaded⟩
  · have booting : Booting server allowed boot.proj.env boot :=
      ⟨within, loaded, fun ref own => (loaded ref own).1, fun ref own _ => covered ref own⟩
    have after := booting.bootReplicas run req boot indices carries
    exact ⟨after.within, after.loaded⟩

theorem covered_load {doc : Project EnvMap} (safe : SafeDoc server allowed s.db doc) (ref : Ref)
    (own : (s.load doc).2.env = some ref) :
    Covered server allowed (s.load doc).1.db (s.load doc).2.id ((s.load doc).1.heap.read ref) := by
  revert own
  unfold Session.load
  cases env : doc.env with
  | none =>
    intro own
    contradiction
  | some contents =>
    intro own
    have same : (s.heap.alloc contents).2 = ref := Option.some.inj own
    rw [← same, Heap.read_alloc_self]
    exact safe contents env

theorem within_handleScale (s : Session) (id : String) (body : Except String Int)
    (within : Within allowed s.db)
    (safe : ∀ replicas doc, body = .ok replicas → getProject s.db run.getFails id = some doc →
      replicas.toNat ≤ doc.vmIDs.length ∨ SafeDoc server allowed s.db doc) :
    Within allowed (handleScale server run s id body).1.db := by
  unfold handleScale
  cases body with
  | error err => exact within
  | ok replicas =>
    dsimp only
    split
    · exact within
    · rename_i doc found
      obtain ⟨rfl, rows, loaded⟩ := within.load found
      have after := boot_own _ run (ownReq 1) ⟨(s.load doc).1, (s.load doc).2, none⟩
        (List.range' (s.load doc).2.vmIDs.length (replicas.toNat - (s.load doc).2.vmIDs.length))
        rows loaded (fun later same => same) (by
          rcases safe replicas doc rfl found with few | safe
          · refine Or.inl ?_
            rw [vmIDs_load, Nat.sub_eq_zero_of_le few]
            rfl
          · exact Or.inr (covered_load safe))
      exact after.1.put run after.2

theorem within_handleRedeployProject (s : Session) (id : String) (within : Within allowed s.db)
    (safe : ∀ doc, getProject s.db run.getFails id = some doc →
      doc.replicasDesired ≤ 0 ∨ SafeDoc server allowed s.db doc) :
    Within allowed (handleRedeployProject server run s id).1.db := by
  unfold handleRedeployProject
  split
  · exact within
  · rename_i doc found
    obtain ⟨rfl, rows, loaded⟩ := within.load found
    have same : SameProjects (s.load doc).1.db
        ((s.load doc).1.deleteReplicasByProject run (s.load doc).2.id).db :=
      sameProjects_deleteReplicas _ _ _
    have after := boot_own server run (fun boot => ownReq boot.proj.replicasDesired boot)
      ⟨(s.load doc).1.deleteReplicasByProject run (s.load doc).2.id,
        { (s.load doc).2 with vmIDs := [] }, none⟩
      (List.range (s.load doc).2.replicasDesired.toNat)
      (rows.of_projects same.1) loaded (fun later own => own) (by
        rcases safe doc found with none | safe
        · refine Or.inl ?_
          rw [replicasDesired_load, Int.toNat_of_nonpos none]
          rfl
        · exact Or.inr fun ref own => (covered_load safe ref own).of_same same)
    exact after.1.put run after.2

theorem within_createProjectFrom (s : Session) (req : CreateProjectReq EnvMap) (creator : String)
    (within : Within allowed s.db) (unused : s.db.projects.find run.newID = none)
    (given : (createProjectFrom server run s req creator).2.succeeded = true →
      ∀ pairs, req.env = some pairs → ∀ pair ∈ pairs.rows, allowed run.newID pair) :
    Within allowed (createProjectFrom server run s req creator).1.db := by
  revert given
  unfold createProjectFrom
  split
  · exact fun _ => within
  · intro given
    let accepted := acceptedReq server req (s.decode req.env).2
    let proj := newProject run accepted creator
    have rows : Within allowed (s.decode req.env).1.db := by simpa using within
    have loaded : EnvWithin allowed (s.decode req.env).1.heap proj :=
      mapWithin_decode s req.env run.newID (given rfl)
    have secretless : ∀ secret ∈ ((s.decode req.env).1.put run proj).db.secrets.rows,
        secret.projectID ≠ run.newID := by
      simp only [Session.put, secrets_putProject, db_decode]
      exact s.db.no_secrets _ unused
    apply Within.createDeployment
    refine (boot_own _ _ _ _ _ (rows.put run loaded) loaded (fun _ _ => rfl) ?_).1
    exact Or.inr fun _ _ secret stored owner => absurd owner (secretless secret stored)

theorem boot_deployment (server : Server) (run : ProjectRun) (s : Session) (proj : Project Ref)
    (d : Deployment) (req : DeploymentReq) (within : Within allowed s.db)
    (loaded : EnvWithin allowed s.heap proj) :
    Within allowed (bootDeployment server run (s.decode req.env).1 proj d req
      (s.decode req.env).2).session.db := by
  have rows : Within allowed (s.decode req.env).1.db := by
    rw [db_decode]
    exact within
  have booting : Booting server allowed (s.decode req.env).2
      ⟨(s.decode req.env).1, proj, some d⟩ :=
    { within := rows
      loaded := fun ref own => (loaded ref own).decode req.env
      valid := valid_decode s req.env
      covered := fun ref decoded own => absurd decoded (decode_ne (loaded ref own).1 req.env) }
  exact (booting.bootReplicas run _ _ _ (fun _ _ => rfl)).within

theorem within_launchDeployment (s : Session) (proj : Project Ref) (d : Deployment)
    (req : DeploymentReq) (within : Within allowed s.db) (loaded : EnvWithin allowed s.heap proj) :
    Within allowed (launchDeployment server run s proj d req).1.db := by
  unfold launchDeployment
  split
  · exact within.createDeployment run _
  · have booted := boot_deployment server run s proj d req within loaded
    exact booted.createDeployment run _

theorem within_handleCreateDeployment (s : Session) (id : String)
    (body : Except String DeploymentReq) (within : Within allowed s.db) :
    Within allowed (handleCreateDeployment server run s id body).1.db := by
  rcases handleCreateDeployment_cases _ _ s id body with
    ⟨same, -⟩ | ⟨req, doc, base, d, -, found, -, -, same⟩
  · rwa [same]
  · obtain ⟨_, rows, loaded⟩ := within.load found
    rw [same]
    exact within_launchDeployment _ _ _ _ _ (rows.createDeployment run _) loaded

theorem same_promoteAll (target : String) (s : Session) (ds : List Deployment) :
    SameProjects s.db (promoteAll run target s ds).db ∧
      (promoteAll run target s ds).heap = s.heap := by
  induction ds generalizing s with
  | nil => exact ⟨SameProjects.refl s.db, rfl⟩
  | cons d rest recurse =>
    obtain ⟨rows, heap⟩ := recurse (s.createDeployment run (promoteOne target d)).1
    exact ⟨(sameProjects_createDeployment _ _ _).trans rows, heap⟩

theorem same_deleteVMs (s : Session) (ids : List String) :
    SameProjects s.db (ids.foldl (Session.deleteVM run) s).db ∧
      (ids.foldl (Session.deleteVM run) s).heap = s.heap := by
  induction ids generalizing s with
  | nil => exact ⟨SameProjects.refl s.db, rfl⟩
  | cons id rest recurse =>
    obtain ⟨rows, heap⟩ := recurse (s.deleteVM run id)
    exact ⟨(sameProjects_deleteReplicas _ _ _).trans rows, heap⟩

theorem within_promote (s : Session) (proj : Project Ref) (d : Deployment) (keepOld : Bool)
    (within : Within allowed s.db) (loaded : EnvWithin allowed s.heap proj)
    (safe : d.vmIDs.isEmpty = false ∨ proj.replicasDesired ≤ 0 ∨ ∀ ref, proj.env = some ref →
      Covered server allowed s.db proj.id (s.heap.read ref)) :
    Within allowed (promote server run s proj d keepOld).1.db := by
  let booted := bootPromoted server run s { proj with image := d.imageDigest } d
  have ⟨rows, own⟩ : Within allowed booted.session.db ∧
      EnvWithin allowed booted.session.heap booted.proj := by
    refine boot_own _ _ _ _ _ within loaded (fun _ _ => rfl) ?_
    rcases safe with warm | none | covered
    · exact Or.inl (by simp [warm])
    · exact Or.inl (by simp [Int.toNat_of_nonpos none])
    · exact Or.inr covered
  apply Within.createDeployment
  obtain ⟨same, heap⟩ := same_promoteAll run _ _ _
  cases keepOld with
  | true =>
    apply (rows.of_projects same.1).put
    rw [heap]
    exact own
  | false =>
    obtain ⟨deleted, kept⟩ := same_deleteVMs run _ _
    apply (rows.of_projects (same.trans deleted).1).put
    rw [kept, heap]
    exact own

theorem within_handlePromoteDeployment (s : Session) (id target : String) (keepOld : Bool)
    (within : Within allowed s.db)
    (safe : ∀ doc, getProject s.db run.getFails id = some doc →
      (∀ d ∈ listDeployments s.db (run.deploymentRows 0) doc.id, d.id = target →
        d.vmIDs.isEmpty = false) ∨
      doc.replicasDesired ≤ 0 ∨ SafeDoc server allowed s.db doc) :
    Within allowed (handlePromoteDeployment server run s id target keepOld).1.db := by
  rcases handlePromoteDeployment_cases _ run s id target keepOld with
    ⟨same, -⟩ | ⟨doc, d, found, chosen, -, same⟩
  · rwa [same]
  · obtain ⟨_, rows, loaded⟩ := within.load found
    rw [same]
    apply within_promote _ _ _ d _ rows loaded
    rcases safe doc found with warm | none | safe
    · have named : d.id = target := by simpa using List.find?_some chosen
      exact Or.inl (warm d (List.mem_of_find?_eq_some chosen) named)
    · exact Or.inr (Or.inl (by rwa [replicasDesired_load]))
    · exact Or.inr (Or.inr (covered_load safe))

end Handlers

end Porter.Api.Projects
