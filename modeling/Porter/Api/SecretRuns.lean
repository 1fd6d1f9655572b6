import Porter.Api.Secrecy
import Porter.Run.Guarded

/-!
# Secrets along runs of requests

A service takes one request after another.
-/
namespace Porter.Api.Projects

open Sql Go Store Run

inductive ProjectCall where
  | listEnv (id : String)
  | setEnv (id : String) (body : Except String (String × String))
  | setEnvBulk (id : String) (body : Except String EnvMap)
  | patchEnv (id envID : String) (body : Except String String)
  | deleteEnv (id envID : String)
  | patchProject (id ifMatch : String) (body : Except String ProjectPatch)
  | createSecret (id : String) (body : Except String (String × String))
  | deleteSecret (secretID : String)
  | createProject (orgHeader creator : String) (body : Except String (CreateProjectReq EnvMap))
  | scale (id : String) (body : Except String Int)
  | redeploy (id : String)
  | createDeployment (id : String) (body : Except String DeploymentReq)
  | promote (id target : String) (keepOld : Bool)

def handle (server : Server) (run : ProjectRun) (s : Session) :
    ProjectCall → Session × Response ProjectReply
  | .listEnv id => (s, handleListEnv run s.db id)
  | .setEnv id body => handleSetEnv run s id body
  | .setEnvBulk id body => handleSetEnvBulk run s id body
  | .patchEnv id envID body => handlePatchEnv run s id envID body
  | .deleteEnv id envID => handleDeleteEnv run s id envID
  | .patchProject id ifMatch body => handlePatchProject server.etagOf run s id ifMatch body
  | .createSecret id body =>
    handleCreateSecret server.box server.secretKeyMaterial run s id body
  | .deleteSecret secretID => handleDeleteSecret run s secretID
  | .createProject orgHeader creator body =>
    handleCreateProject server run s orgHeader creator body
  | .scale id body => handleScale server run s id body
  | .redeploy id => handleRedeployProject server run s id
  | .createDeployment id body => handleCreateDeployment server run s id body
  | .promote id target keepOld => handlePromoteDeployment server run s id target keepOld

def pairsFor (id : String) (env : Option EnvMap) : List ProjectPair :=
  (env.elim [] Table.rows).map (fun pair => (id, pair))

def sets (run : ProjectRun) : ProjectCall → List ProjectPair
  | .setEnv id (.ok pair) => [(id, pair)]
  | .setEnvBulk id (.ok pairs) => pairsFor id (some pairs)
  | .patchEnv id envID (.ok value) => [(id, (envID, value))]
  | .patchProject id _ (.ok patch) => pairsFor id patch.env
  | .createProject _ _ (.ok req) => pairsFor run.newID req.env
  | _ => []

structure Service where
  db : ProjectDb
  decrypted : List ProjectPair
  assigned : List ProjectPair

def Service.empty : Service := ⟨ProjectDb.empty, [], []⟩

def step (server : Server) (state : Service) (call : ProjectRun × ProjectCall) : Service :=
  let (s, response) := handle server call.1 (Session.start state.db state.decrypted) call.2
  ⟨s.db, s.decrypted, state.assigned ++ if response.succeeded then sets call.1 call.2 else []⟩

def Leaked (state : Service) (id : String) (pair : String × String) : Prop :=
  (∃ owner, (owner, pair) ∈ state.decrypted) ∧ (id, pair) ∉ state.assigned

def listed : Response ProjectReply → List (String × String)
  | .json _ (.entries pairs) => pairs
  | _ => []

def Sealed (state : Service) : Prop :=
  (∀ row ∈ state.db.projects.rows, ∀ pair ∈ rowPairs row, ¬ Leaked state row.id pair) ∧
    ∀ run id, ∀ pair ∈ listed (handleListEnv run state.db id), ¬ Leaked state id pair

def FromApi (state : Service) : Prop :=
  Within (fun id pair => (id, pair) ∈ state.assigned) state.db

theorem mem_listed (run : ProjectRun) (db : ProjectDb) (id : String) (pair : String × String)
    (member : pair ∈ listed (handleListEnv run db id)) :
    ∃ row ∈ db.projects.rows, row.id = id ∧ pair ∈ rowPairs row := by
  unfold handleListEnv at member
  cases found : getProject db run.getFails id with
  | none =>
    rw [found] at member
    exact absurd member List.not_mem_nil
  | some doc =>
    simp only [found, listed, List.mem_insertionSort, MapOrder.mem_visit] at member
    obtain ⟨row, stored, same, rfl⟩ := getProject_eq_some found
    exact ⟨row, stored, same, List.mem_append_left _ member⟩

theorem FromApi.sealed {state : Service} (fromApi : FromApi state) : Sealed state := by
  constructor
  · intro row stored pair held leaked
    exact leaked.2 (fromApi row stored pair held)
  · intro run id pair shown leaked
    obtain ⟨row, stored, rfl, held⟩ := mem_listed _ _ id pair shown
    exact leaked.2 (fromApi row stored pair held)

/-- There are no variables, or each secret is hidden by one of its name or was set as it is. -/
def secretsCovered (server : Server) (state : Service) (row : ProjectRow) : Bool :=
  match row.doc.env with
  | none => true
  | some contents =>
    state.db.secrets.rows.all (fun secret =>
      secret.projectID ≠ row.id ||
        (openSecret server secret).all (fun pair =>
          contents.has pair.1 || (row.id, pair) ∈ state.assigned))

def ownMapSafe (server : Server) (state : Service) (id : String)
    (boots : Project EnvMap → Bool) : Bool :=
  match state.db.projects.find id with
  | none => true
  | some row => !boots row.doc || secretsCovered server state row

/-- A new project draws an unused id, and replicas booted into its own map find secrets covered. -/
def harmless (server : Server) (state : Service) (call : ProjectRun × ProjectCall) : Bool :=
  match call.2 with
  | .createProject _ _ _ => (state.db.projects.find call.1.newID).isNone
  | .scale id (.ok replicas) =>
    ownMapSafe server state id (fun doc => doc.vmIDs.length < replicas.toNat)
  | .redeploy id => ownMapSafe server state id (fun doc => 0 < doc.replicasDesired)
  | .promote id target _ =>
    ownMapSafe server state id (fun doc =>
      0 < doc.replicasDesired && (state.db.deployments.find target).any (·.vmIDs.isEmpty))
  | _ => true

section Step

variable {server : Server} {allowed : String → String × String → Prop} {state : Service}

theorem SafeDoc.of_covered {row : ProjectRow}
    (kept : ∀ entry ∈ state.assigned, allowed entry.1 entry.2)
    (covered : secretsCovered server state row = true) :
    SafeDoc server allowed state.db row.doc := by
  intro contents env secret stored owner pair opens
  simp only [secretsCovered, env, List.all_eq_true] at covered
  have fine := covered secret stored
  have same : secret.projectID = row.id := owner
  simp only [same, opens, ne_eq, not_true_eq_false, decide_false, Bool.false_or, Option.all_some,
    Bool.or_eq_true, decide_eq_true_eq] at fine
  rcases fine with present | given
  · exact Or.inl present
  · exact Or.inr (kept _ given)

theorem safe_of_ownMapSafe {fails : Bool} {id : String} {boots : Project EnvMap → Bool}
    {doc : Project EnvMap} (kept : ∀ entry ∈ state.assigned, allowed entry.1 entry.2)
    (safe : ownMapSafe server state id boots = true)
    (found : getProject state.db fails id = some doc) :
    boots doc = false ∨ SafeDoc server allowed state.db doc := by
  obtain ⟨row, member, same, rfl⟩ := getProject_eq_some found
  have stored := (Table.find_eq_some state.db.projects id row).mpr ⟨member, same⟩
  simp only [ownMapSafe, stored, Bool.or_eq_true, Bool.not_eq_true'] at safe
  exact safe.imp_right (SafeDoc.of_covered kept)

theorem mem_pairsFor {id : String} {env : Option EnvMap} {pairs : EnvMap}
    {pair : String × String} (given : env = some pairs) (member : pair ∈ pairs.rows) :
    (id, pair) ∈ pairsFor id env := by
  subst given
  exact List.mem_map.mpr ⟨pair, member, rfl⟩

theorem handle_createProject_within (run : ProjectRun) (s : Session) (orgHeader creator : String)
    (body : Except String (CreateProjectReq EnvMap)) (within : Within allowed s.db)
    (unused : s.db.projects.find run.newID = none)
    (given : (handleCreateProject server run s orgHeader creator body).2.succeeded = true →
      ∀ entry ∈ sets run (.createProject orgHeader creator body), allowed entry.1 entry.2) :
    Within allowed (handleCreateProject server run s orgHeader creator body).1.db := by
  cases body with
  | error err => exact within
  | ok req =>
    refine within_createProjectFrom _ s _ _ within unused ?_
    intro accepted pairs env pair member
    have asked : req.env = some pairs := by
      split at env <;> exact env
    exact given accepted _ (mem_pairsFor asked member)

theorem handle_within (run : ProjectRun) (call : ProjectCall) (within : Within allowed state.db)
    (kept : ∀ entry ∈ state.assigned, allowed entry.1 entry.2)
    (safe : harmless server state (run, call) = true)
    (given : (handle server run (Session.start state.db state.decrypted) call).2.succeeded = true →
      ∀ entry ∈ sets run call, allowed entry.1 entry.2) :
    Within allowed (handle server run (Session.start state.db state.decrypted) call).1.db := by
  cases call with
  | listEnv id => exact within
  | setEnv id body =>
    refine within_handleSetEnv run _ id body within ?_
    rintro accepted pair rfl
    exact given accepted _ (List.mem_singleton_self _)
  | setEnvBulk id body =>
    refine within_handleSetEnvBulk run _ id body within ?_
    rintro accepted pairs rfl pair member
    exact given accepted _ (mem_pairsFor rfl member)
  | patchEnv id envID body =>
    refine within_handlePatchEnv run _ id envID body within ?_
    rintro accepted value rfl
    exact given accepted _ (List.mem_singleton_self _)
  | deleteEnv id envID => exact within_handleDeleteEnv run _ id envID within
  | patchProject id ifMatch body =>
    refine within_handlePatchProject _ run _ id ifMatch body within ?_
    rintro accepted patch pairs rfl env pair member
    exact given accepted _ (mem_pairsFor env member)
  | createSecret id body => exact within_handleCreateSecret run _ id body within
  | deleteSecret secretID => exact within_handleDeleteSecret run _ secretID within
  | createProject orgHeader creator body =>
    have unused : state.db.projects.find run.newID = none := by simpa [harmless] using safe
    exact handle_createProject_within run _ orgHeader creator body within unused given
  | scale id body =>
    refine within_handleScale run _ id body within ?_
    rintro replicas doc rfl found
    dsimp only [harmless] at safe
    rcases safe_of_ownMapSafe kept safe found with few | covered
    · exact Or.inl (by simpa using few)
    · exact Or.inr covered
  | redeploy id =>
    refine within_handleRedeployProject run _ id within ?_
    intro doc found
    dsimp only [harmless] at safe
    rcases safe_of_ownMapSafe kept safe found with none | covered
    · exact Or.inl (by simpa using none)
    · exact Or.inr covered
  | createDeployment id body => exact within_handleCreateDeployment run _ id body within
  | promote id target keepOld =>
    refine within_handlePromoteDeployment run _ id target keepOld within ?_
    intro doc found
    dsimp only [harmless] at safe
    rcases safe_of_ownMapSafe kept safe found with none | covered
    · rcases Bool.and_eq_false_iff.mp none with none | warm
      · exact Or.inr (Or.inl (by simpa using none))
      · refine Or.inl ?_
        intro d listing named
        obtain ⟨row, stored, same, pool⟩ := mem_listDeployments _ _ _ d listing
        have chosen := (Table.find_eq_some state.db.deployments target row).mpr
          ⟨stored, same.trans named⟩
        simpa [chosen, pool] using warm
    · exact Or.inr (Or.inr covered)

theorem FromApi.step (fromApi : FromApi state) (call : ProjectRun × ProjectCall)
    (safe : harmless server state call = true) : FromApi (step server state call) := by
  refine handle_within _ _ ?_ ?_ safe ?_
  · intro row stored pair held
    exact List.mem_append_left _ (fromApi row stored pair held)
  · intro entry member
    exact List.mem_append_left _ member
  · intro accepted entry member
    have kept : entry ∈ state.assigned ++ sets call.1 call.2 := List.mem_append_right _ member
    simpa only [Projects.step, accepted, if_true] using kept

end Step

/-- Along every run of harmless requests no decrypted pair that was never set is stored in a
projects row or listed. -/
theorem secrets_sealed (server : Server) (state : Service)
    (calls : List (ProjectRun × ProjectCall)) (fromApi : FromApi state)
    (guarded : Guarded (step server) (fun state call => harmless server state call = true)
      state calls) :
    Sealed (run (step server) state calls) := by
  have invariant := run_invariant (step server)
    (fun state call => harmless server state call = true) FromApi
    (fun _ call fromApi safe => fromApi.step call safe) state calls fromApi guarded
  exact invariant.sealed

def shopServer : Server where
  box := {
    key := fun _ => []
    sealBox := fun _ _ value => .ok (value.toList.map (fun c => UInt8.ofNat c.toNat))
    openBox := fun _ blob => .ok (String.ofList (blob.map (fun byte => Char.ofNat byte.toNat))) }
  secretKeyMaterial := "key material"
  hostConfig := some ⟨"base://alpine", "/images/vmlinux", "alpine"⟩
  goldenImages :=
    [⟨"alpine", "base://alpine", "/images/rootfs.ext4", "/images/vmlinux", 1, 256⟩]
  catalog := none
  validateArtifacts := fun _ _ => none
  resolveGuestBase := fun _ base => .ok base
  baseDomain := ""
  orgs := []
  etagOf := fun doc => doc.name

def shopID : String := "7c9e6679-7425-40de-944b-e07fc1f90ae7"

def shopRun : ProjectRun := ProjectRun.plain shopID "00000000-0000-4000-8000-00000000000"

def shopReq (env : Option EnvMap) : CreateProjectReq EnvMap where
  name := "shop"
  image := "base://alpine"
  gitURL := ""
  orgID := ""
  vcpus := 0
  memMiB := 0
  env := env
  ports := []
  replicas := 1
  hostMountPath := ""
  volumeID := ""
  healthcheck := none
  restartPolicy := ""
  sshEnabled := false

def shopCalls (env : Option EnvMap) : List (ProjectRun × ProjectCall) :=
  [(shopRun, .createProject "" "ana" (.ok (shopReq env))),
    (shopRun, .createSecret shopID (.ok ("DB_PASSWORD", "hunter2"))),
    (shopRun, .scale shopID (.ok 2))]

theorem secrets_sealed_shop :
    Guarded (step shopServer) (fun state call => harmless shopServer state call = true)
        Service.empty (shopCalls none) ∧
      Sealed (run (step shopServer) Service.empty (shopCalls none)) := by
  have guarded : Guarded (step shopServer)
      (fun state call => harmless shopServer state call = true) Service.empty
      (shopCalls none) := by decide
  have fromApi : FromApi Service.empty := by
    intro row stored
    exact absurd stored List.not_mem_nil
  exact ⟨guarded, secrets_sealed _ _ (shopCalls none) fromApi guarded⟩

theorem scaled_project_lists_secret :
    ¬ Sealed (run (step shopServer) Service.empty
      (shopCalls (some (Table.single Prod.fst ("MODE", "live"))))) := by
  intro holds
  have shown : ("DB_PASSWORD", "hunter2") ∈ listed (handleListEnv shopRun
      (run (step shopServer) Service.empty
        (shopCalls (some (Table.single Prod.fst ("MODE", "live"))))).db shopID) := by decide
  apply holds.2 shopRun shopID ("DB_PASSWORD", "hunter2") shown
  refine ⟨⟨shopID, ?_⟩, ?_⟩
  · decide
  · decide

end Porter.Api.Projects
