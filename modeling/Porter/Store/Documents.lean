import Porter.Go.Json
import Porter.Store.Domains
import Porter.Store.Pools

/-!
# Documents of projects

`PutProject` and `GetProject` of `internal/store/store.go` with all fields of a project and all
columns they write.
-/
namespace Porter.Store.Documents

open Go Go.Json Sql

structure ServicePool where
  desired : Int
  healthy : Int
  vms : List String
deriving DecidableEq

/-- `types.AutoscalePolicy`, with numbers of type `ν`: those of a document are finite. -/
structure AutoscalePolicy (ν : Type) where
  minReplicas : Int
  maxReplicas : Int
  targetCPU : ν
  scaleDownCPU : ν
  cooldownSec : Int
  enabled : Bool
deriving DecidableEq

structure Project where
  id : String
  orgID : String
  name : String
  source : String
  image : String
  network : String
  vmIDs : List String
  servicePools : GoMap String (Option ServicePool)
  composeYAML : String
  hostMountPath : String
  replicasDesired : Int
  restartPolicy : String
  healthcheck : Option Healthcheck
  env : EnvMap
  tags : List String
  sshEnabled : Bool
  replicas : Int
  stackID : String
  composeService : String
  model : String
  gpu : String
  networks : List String
  autoscale : Option (AutoscalePolicy Float64)
  createdBy : String
  createdAt : Int
deriving DecidableEq

/-- The members of the JSON object of a project. `ComposeYAML` has the tag `json:"-"`. -/
structure Document where
  id : Option String
  orgID : Option String
  name : Option String
  source : Option String
  image : Option String
  network : Option String
  vmIDs : Option (List String)
  servicePools : Option (GoMap String (Option ServicePool))
  hostMountPath : Option String
  replicasDesired : Option Int
  restartPolicy : Option String
  healthcheck : Option Healthcheck
  env : Option EnvMap
  tags : Option (List String)
  sshEnabled : Option Bool
  replicas : Option Int
  stackID : Option String
  composeService : Option String
  model : Option String
  gpu : Option String
  networks : Option (List String)
  autoscale : Option (AutoscalePolicy Rat)
  createdBy : Option String
  createdAt : Option Stamp
deriving DecidableEq

def Document.empty : Document :=
  ⟨none, none, none, none, none, none, none, none, none, none, none, none, none, none, none, none,
    none, none, none, none, none, none, none, none⟩

def AutoscalePolicy.encode (a : AutoscalePolicy Float64) : Option (AutoscalePolicy Rat) :=
  match a.targetCPU.encode, a.scaleDownCPU.encode with
  | some target, some scaleDown => some { a with targetCPU := target, scaleDownCPU := scaleDown }
  | _, _ => none

def AutoscalePolicy.decode (a : AutoscalePolicy Rat) : AutoscalePolicy Float64 :=
  { a with targetCPU := .finite a.targetCPU, scaleDownCPU := .finite a.scaleDownCPU }

variable (p : Project)

def Project.members (autoscale : Option (AutoscalePolicy Rat)) (createdAt : Stamp) :
    Document where
  id := some p.id
  orgID := omitempty "" p.orgID
  name := some p.name
  source := some p.source
  image := omitempty "" p.image
  network := some p.network
  vmIDs := some p.vmIDs
  servicePools := omitempty GoMap.nil p.servicePools
  hostMountPath := omitempty "" p.hostMountPath
  replicasDesired := omitempty 0 p.replicasDesired
  restartPolicy := omitempty "" p.restartPolicy
  healthcheck := p.healthcheck
  env := omitempty GoMap.nil p.env
  tags := omitempty [] p.tags
  sshEnabled := omitempty false p.sshEnabled
  replicas := omitempty 0 p.replicas
  stackID := omitempty "" p.stackID
  composeService := omitempty "" p.composeService
  model := omitempty "" p.model
  gpu := omitempty "" p.gpu
  networks := omitempty [] p.networks
  autoscale := autoscale
  createdBy := omitempty "" p.createdBy
  createdAt := some createdAt

def encodePolicy : Option (AutoscalePolicy Float64) → Option (Option (AutoscalePolicy Rat))
  | none => some none
  | some a => a.encode.map some

def marshal : Option Document :=
  match encodePolicy p.autoscale, encodeTime p.createdAt with
  | some autoscale, some createdAt => some (p.members autoscale createdAt)
  | _, _ => none

def mustJSON : Document := (marshal p).getD .empty

def unmarshal (doc : Document) : Project where
  id := doc.id.getD ""
  orgID := doc.orgID.getD ""
  name := doc.name.getD ""
  source := doc.source.getD ""
  image := doc.image.getD ""
  network := doc.network.getD ""
  vmIDs := doc.vmIDs.getD []
  servicePools := doc.servicePools.getD GoMap.nil
  composeYAML := ""
  hostMountPath := doc.hostMountPath.getD ""
  replicasDesired := doc.replicasDesired.getD 0
  restartPolicy := doc.restartPolicy.getD ""
  healthcheck := doc.healthcheck
  env := doc.env.getD GoMap.nil
  tags := doc.tags.getD []
  sshEnabled := doc.sshEnabled.getD false
  replicas := doc.replicas.getD 0
  stackID := doc.stackID.getD ""
  composeService := doc.composeService.getD ""
  model := doc.model.getD ""
  gpu := doc.gpu.getD ""
  networks := doc.networks.getD []
  autoscale := doc.autoscale.map AutoscalePolicy.decode
  createdBy := doc.createdBy.getD ""
  createdAt := doc.createdAt.getD zeroTime

def Project.Encodes : Prop := (marshal p).isSome

instance (p : Project) : Decidable p.Encodes := inferInstanceAs (Decidable (_ = true))

theorem AutoscalePolicy.encode_eq_some {a : AutoscalePolicy Float64} {b : AutoscalePolicy Rat} :
    a.encode = some b ↔ a = b.decode := by
  obtain ⟨minReplicas, maxReplicas, targetCPU, scaleDownCPU, cooldownSec, enabled⟩ := a
  cases b
  cases targetCPU with
  | finite target =>
    cases scaleDownCPU with
    | finite | infinite | nan => simp [encode, decode, Float64.encode]
  | infinite | nan => simp [encode, decode, Float64.encode]

theorem encodePolicy_eq_some {a : Option (AutoscalePolicy Float64)}
    {b : Option (AutoscalePolicy Rat)} :
    encodePolicy a = some b ↔ a = b.map AutoscalePolicy.decode := by
  cases a with
  | none =>
    cases b with
    | none => exact iff_of_true rfl rfl
    | some policy => exact iff_of_false nofun nofun
  | some given =>
    cases b with
    | none => simp [encodePolicy]
    | some policy => simp [encodePolicy, AutoscalePolicy.encode_eq_some]

theorem marshal_eq_some {p : Project} {doc : Document} :
    marshal p = some doc ↔ ∃ autoscale createdAt,
      p.autoscale = autoscale.map AutoscalePolicy.decode ∧ p.createdAt = createdAt.val ∧
        p.members autoscale createdAt = doc := by
  unfold marshal
  constructor
  · intro encoded
    split at encoded
    · next autoscale createdAt policy time =>
      exact ⟨autoscale, createdAt, encodePolicy_eq_some.mp policy, encodeTime_eq_some.mp time,
        Option.some.inj encoded⟩
    · contradiction
  · rintro ⟨autoscale, createdAt, policy, time, same⟩
    rw [encodePolicy_eq_some.mpr policy, encodeTime_eq_some.mpr time]
    exact congrArg some same

theorem unmarshal_marshal {p : Project} {doc : Document} (encoded : marshal p = some doc) :
    unmarshal doc = { p with composeYAML := "" } := by
  have ⟨autoscale, createdAt, policy, time, same⟩ := marshal_eq_some.mp encoded
  rw [← same]
  simp [unmarshal, Project.members, policy, time]

theorem unmarshal_mustJSON {p : Project} (encodes : p.Encodes) :
    unmarshal (mustJSON p) = { p with composeYAML := "" } := by
  have ⟨doc, encoded⟩ := Option.isSome_iff_exists.mp encodes
  unfold mustJSON
  rw [encoded]
  exact unmarshal_marshal encoded

theorem encodes_unmarshal (doc : Document) : (unmarshal doc).Encodes :=
  Option.isSome_iff_exists.mpr
    ⟨_, marshal_eq_some.mpr ⟨doc.autoscale, doc.createdAt.getD zeroTime, rfl, rfl, rfl⟩⟩

theorem Project.Encodes.congr {p q : Project} (encodes : p.Encodes)
    (autoscale : q.autoscale = p.autoscale) (createdAt : q.createdAt = p.createdAt) :
    q.Encodes := by
  have ⟨doc, encoded⟩ := Option.isSome_iff_exists.mp encodes
  have ⟨policy, stamp, given, time, _⟩ := marshal_eq_some.mp encoded
  exact Option.isSome_iff_exists.mpr
    ⟨_, marshal_eq_some.mpr ⟨policy, stamp, autoscale.trans given, createdAt.trans time, rfl⟩⟩

theorem unmarshal_mustJSON_eq_iff :
    unmarshal (mustJSON p) = p ↔ p.composeYAML = "" ∧ p.Encodes := by
  constructor
  · intro same
    refine ⟨?_, ?_⟩
    · rw [← same]
      rfl
    · rw [← same]
      exact encodes_unmarshal (mustJSON p)
  · intro ⟨plain, encodes⟩
    rw [unmarshal_mustJSON encodes, ← plain]

inductive Kind where
  | compose | singleImage
deriving DecidableEq

inductive Status where
  | pending | deploying | running
deriving DecidableEq

def statusFromProject : Status :=
  if p.vmIDs.length = 0 then .pending
  else if p.source = "compose" then .deploying
  else .running

structure Row where
  id : String
  name : String
  kind : Kind
  composeYAML : Option String
  image : Option String
  orgID : Option String
  hostMountPath : Option String
  replicasDesired : Int
  restartPolicy : String
  healthcheck : Option Healthcheck
  env : EnvMap
  status : Status
  data : Document
  createdBy : String
deriving DecidableEq

def Project.row : Row where
  id := p.id
  name := p.name
  kind := if p.source = "compose" then .compose else .singleImage
  composeYAML := nullableStr p.composeYAML
  image := nullableStr p.image
  orgID := nullableStr p.orgID
  hostMountPath := nullableStr p.hostMountPath
  replicasDesired := p.replicasDesired
  restartPolicy := p.restartPolicy
  healthcheck := p.healthcheck
  env := p.env
  status := statusFromProject p
  data := mustJSON p
  createdBy := p.createdBy

def Row.overwrite (new old : Row) : Row := { new with id := old.id }

theorem Row.overwrite_id (new old : Row) : (new.overwrite old).id = old.id := rfl

structure Tables where
  projects : Table Row.id
  orgs : List String

variable (db : Tables)

/-- The schema refuses an empty id, a name that is taken, a number of replicas that is negative or
too large, and a missing organisation. -/
def refuses (row : Row) : Bool :=
  row.id = "" || db.projects.rows.any (fun other => other.name = row.name && other.id ≠ row.id) ||
    row.replicasDesired < 0 || row.replicasDesired > 2147483647 ||
    row.orgID.any (fun orgID => orgID ∉ db.orgs)

def accepts (fault : Option String) (p : Project) : Bool :=
  fault.isNone && !refuses db p.row

def putProject (fault : Option String) (p : Project) : Tables :=
  if accepts db fault p then
    { db with projects := db.projects.upsert p.row p.row.overwrite p.row.overwrite_id }
  else db

def getProject (fails : Bool) (id : String) : Option Project :=
  if fails then none else (db.projects.find id).map (fun row => unmarshal row.data)

section Statements

variable {db : Tables} {fault : Option String} {p : Project}

theorem find_putProject_self (accepted : accepts db fault p = true) :
    (putProject db fault p).projects.find p.id = some p.row := by
  unfold putProject
  rw [if_pos accepted]
  apply Table.find_upsert_assigned
  intro old own
  rw [Row.overwrite, own]

theorem find_putProject_of_ne {id : String} (other : id ≠ p.id) :
    (putProject db fault p).projects.find id = db.projects.find id := by
  unfold putProject
  split
  · exact Table.find_upsert_of_ne _ _ _ _ id other
  · rfl

theorem getProject_putProject (accepted : accepts db fault p = true) :
    getProject (putProject db fault p) false p.id = some (unmarshal (mustJSON p)) := by
  unfold getProject
  rw [find_putProject_self accepted]
  rfl

theorem exists_of_getProject {fails : Bool} {id : String} (read : getProject db fails id = some p) :
    ∃ row, db.projects.find id = some row ∧ unmarshal row.data = p := by
  unfold getProject at read
  split at read
  · contradiction
  · exact Option.map_eq_some_iff.mp read

theorem composeYAML_of_getProject {fails : Bool} {id : String}
    (read : getProject db fails id = some p) : p.composeYAML = "" := by
  have ⟨row, _, same⟩ := exists_of_getProject read
  rw [← same]
  rfl

def Project.brief (p : Project) : Store.Project EnvMap where
  id := p.id
  orgID := p.orgID
  name := p.name
  source := p.source
  image := p.image
  network := p.network
  vmIDs := p.vmIDs
  hostMountPath := p.hostMountPath
  replicasDesired := p.replicasDesired
  restartPolicy := p.restartPolicy
  healthcheck := p.healthcheck
  env := omitempty GoMap.nil p.env
  tags := p.tags
  sshEnabled := p.sshEnabled
  replicas := p.replicas
  createdBy := p.createdBy

theorem brief_getProject (accepted : accepts db fault p = true) (encodes : p.Encodes)
    {base : ProjectDb} {env : Option EnvMap}
    (admitted : refusesProject base ⟨p.brief, env⟩ = false) :
    (getProject (putProject db fault p) false p.id).map Project.brief =
      Store.getProject (Store.putProject base none ⟨p.brief, env⟩) false p.id := by
  have stored : (Store.putProject base none ⟨p.brief, env⟩).projects.find p.id =
      some ⟨p.brief, env⟩ :=
    (Table.find_eq_some _ _ _).mpr
      ⟨(mem_putProject_stored base _ _ admitted).mpr (Or.inl rfl), rfl⟩
  unfold Store.getProject
  rw [getProject_putProject accepted, unmarshal_mustJSON encodes, stored]
  rfl

end Statements

end Porter.Store.Documents
