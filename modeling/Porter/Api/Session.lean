import Porter.Api.Http
import Porter.Store.Projects

/-!
# One request on a project

A handler reads a project into memory, changes it there and writes it back.
-/
namespace Porter.Api.Projects

open Sql Go Store

structure ProjectRun where
  getFails : Bool
  write : Nat → Option String
  secretRows : Nat → RowsFault
  deploymentRows : Nat → RowsFault
  order : MapOrder (String × String)
  newID : String
  deploymentID : String
  vmID : Nat → String
  nonce : Nat
  randHex : String
  subnet : Option String
  build : String × String

def ProjectRun.plain (newID vmStem : String) : ProjectRun where
  getFails := false
  write := fun _ => none
  secretRows := fun _ => RowsFault.clean
  deploymentRows := fun _ => RowsFault.clean
  order := MapOrder.insertion
  newID := newID
  deploymentID := ""
  vmID := fun index => vmStem ++ toString index
  nonce := 0
  randHex := ""
  subnet := none
  build := ("", "failed")

abbrev ProjectPair := String × (String × String)

structure Session where
  db : ProjectDb
  heap : Heap String String
  writes : Nat
  decrypted : List ProjectPair

def Session.start (db : ProjectDb) (decrypted : List ProjectPair) : Session :=
  ⟨db, Heap.fresh, 0, decrypted⟩

def withEnv {μ ν : Type} (proj : Project μ) (env : Option ν) : Project ν where
  id := proj.id
  orgID := proj.orgID
  name := proj.name
  source := proj.source
  image := proj.image
  network := proj.network
  vmIDs := proj.vmIDs
  hostMountPath := proj.hostMountPath
  replicasDesired := proj.replicasDesired
  restartPolicy := proj.restartPolicy
  healthcheck := proj.healthcheck
  env := env
  tags := proj.tags
  sshEnabled := proj.sshEnabled
  replicas := proj.replicas
  createdBy := proj.createdBy

def omitEmpty (env : Option EnvMap) : Option EnvMap := env.filter (fun m => !m.rows.isEmpty)

namespace Session

def row (s : Session) (proj : Project Ref) : ProjectRow where
  doc := withEnv proj (omitEmpty (proj.env.map s.heap.read))
  env := proj.env.map s.heap.read

def put (run : ProjectRun) (s : Session) (proj : Project Ref) : Session :=
  { s with
    db := putProject s.db (run.write s.writes) (s.row proj)
    writes := s.writes + 1 }

def load (s : Session) (doc : Project EnvMap) : Session × Project Ref :=
  match doc.env with
  | none => (s, withEnv doc none)
  | some contents =>
    let (heap, ref) := s.heap.alloc contents
    ({ s with heap := heap }, withEnv doc (some ref))

def decode (s : Session) (env : Option EnvMap) : Session × Option Ref :=
  match env with
  | none => (s, none)
  | some contents =>
    let (heap, ref) := s.heap.alloc contents
    ({ s with heap := heap }, some ref)

def ensureEnv (s : Session) (proj : Project Ref) : Session × Project Ref :=
  match proj.env with
  | some _ => (s, proj)
  | none =>
    let (heap, ref) := s.heap.alloc GoMap.nil
    ({ s with heap := heap }, withEnv proj (some ref))

def changeEnv (s : Session) (proj : Project Ref) (change : EnvMap → EnvMap) : Session :=
  match proj.env with
  | some ref => { s with heap := s.heap.modify ref change }
  | none => s

end Session

def rowPairs (row : ProjectRow) : List (String × String) :=
  (row.doc.env.elim [] Table.rows) ++ (row.env.elim [] Table.rows)

variable {s : Session} {id : String} {ref : Ref}

section Within

variable (allowed : String → String × String → Prop)

def Within (db : ProjectDb) : Prop :=
  ∀ row ∈ db.projects.rows, ∀ pair ∈ rowPairs row, allowed row.id pair

def MapWithin (heap : Heap String String) (id : String) (ref : Ref) : Prop :=
  heap.Valid ref ∧ ∀ pair ∈ (heap.read ref).rows, allowed id pair

def EnvWithin (heap : Heap String String) (proj : Project Ref) : Prop :=
  ∀ ref, proj.env = some ref → MapWithin allowed heap proj.id ref

variable {allowed}

theorem Within.of_projects {before after : ProjectDb} (within : Within allowed before)
    (same : after.projects = before.projects) : Within allowed after := by
  intro row stored
  rw [same] at stored
  exact within row stored

theorem mem_rowPairs_row (s : Session) (proj : Project Ref) (pair : String × String)
    (member : pair ∈ rowPairs (s.row proj)) :
    ∃ ref, proj.env = some ref ∧ pair ∈ (s.heap.read ref).rows := by
  cases env : proj.env with
  | none => simp [rowPairs, Session.row, env, omitEmpty, withEnv] at member
  | some ref =>
    refine ⟨ref, rfl, ?_⟩
    simp only [rowPairs, Session.row, env, omitEmpty, withEnv, Option.map_some, List.mem_append,
      Option.elim_some] at member
    rcases member with inDocument | inColumn
    · cases kept : (some (s.heap.read ref)).filter (fun m => !m.rows.isEmpty) with
      | none =>
        rw [kept] at inDocument
        exact absurd inDocument (List.not_mem_nil)
      | some contents =>
        rw [kept] at inDocument
        have same := Option.some.inj (Option.filter_eq_some_iff.mp kept).1
        rw [same]
        exact inDocument
    · exact inColumn

variable {proj : Project Ref}

theorem Within.put (run : ProjectRun) (within : Within allowed s.db)
    (loaded : EnvWithin allowed s.heap proj) : Within allowed (s.put run proj).db := by
  intro row stored pair member
  rcases mem_putProject _ _ _ _ stored with rfl | old
  · obtain ⟨ref, env, held⟩ := mem_rowPairs_row s _ _ member
    exact (loaded ref env).2 pair held
  · exact within row old pair member

theorem MapWithin.alloc {heap : Heap String String} (within : MapWithin allowed heap id ref)
    (contents : EnvMap) : MapWithin allowed (heap.alloc contents).1 id ref := by
  refine ⟨heap.valid_alloc _ within.1, ?_⟩
  rw [heap.read_alloc _ within.1]
  exact within.2

theorem MapWithin.modify_of_ne {heap : Heap String String}
    (within : MapWithin allowed heap id ref) (changed : Ref) (change : EnvMap → EnvMap)
    (other : changed ≠ ref) : MapWithin allowed (heap.modify changed change) id ref := by
  refine ⟨(heap.valid_modify _ _ change).mpr within.1, ?_⟩
  rw [heap.read_modify_of_ne _ _ _ other]
  exact within.2

theorem mapWithin_alloc_self (heap : Heap String String) (id : String) (contents : EnvMap)
    (given : ∀ pair ∈ contents.rows, allowed id pair) :
    MapWithin allowed (heap.alloc contents).1 id (heap.alloc contents).2 := by
  refine ⟨heap.valid_alloc_self _, ?_⟩
  rw [heap.read_alloc_self]
  exact given

theorem EnvWithin.changeEnv {change : EnvMap → EnvMap} (loaded : EnvWithin allowed s.heap proj)
    (adds : ∀ contents : EnvMap, ∀ pair ∈ (change contents).rows,
      pair ∈ contents.rows ∨ allowed proj.id pair) :
    EnvWithin allowed (s.changeEnv proj change).heap proj := by
  intro ref env
  have held := loaded ref env
  simp only [Session.changeEnv, env]
  refine ⟨(s.heap.valid_modify _ _ change).mpr held.1, ?_⟩
  rw [s.heap.read_modify_self _ _ held.1]
  intro pair member
  rcases adds _ pair member with old | new
  · exact held.2 pair old
  · exact new

@[simp] theorem db_changeEnv (s : Session) (proj : Project Ref) (change : EnvMap → EnvMap) :
    (s.changeEnv proj change).db = s.db := by
  unfold Session.changeEnv
  split <;> rfl

@[simp] theorem db_ensureEnv (s : Session) (proj : Project Ref) :
    (s.ensureEnv proj).1.db = s.db := by
  unfold Session.ensureEnv
  split <;> rfl

@[simp] theorem id_ensureEnv (s : Session) (proj : Project Ref) :
    (s.ensureEnv proj).2.id = proj.id := by
  unfold Session.ensureEnv
  split <;> rfl

theorem EnvWithin.ensureEnv (loaded : EnvWithin allowed s.heap proj) :
    EnvWithin allowed (s.ensureEnv proj).1.heap (s.ensureEnv proj).2 := by
  unfold Session.ensureEnv
  cases env : proj.env with
  | some _ => exact loaded
  | none =>
    intro ref same
    obtain rfl := Option.some.inj same
    exact mapWithin_alloc_self _ _ _ (by simp [GoMap.nil, Table.empty])

@[simp] theorem db_decode (s : Session) (env : Option EnvMap) : (s.decode env).1.db = s.db := by
  unfold Session.decode
  split <;> rfl

theorem valid_decode (s : Session) (env : Option EnvMap) (ref : Ref)
    (decoded : (s.decode env).2 = some ref) : (s.decode env).1.heap.Valid ref := by
  cases env with
  | none => contradiction
  | some pairs =>
    have same : (s.heap.alloc pairs).2 = ref := Option.some.inj decoded
    rw [← same]
    exact s.heap.valid_alloc_self _

theorem mapWithin_decode (s : Session) (env : Option EnvMap) (id : String)
    (given : ∀ pairs, env = some pairs → ∀ pair ∈ pairs.rows, allowed id pair) (ref : Ref)
    (decoded : (s.decode env).2 = some ref) : MapWithin allowed (s.decode env).1.heap id ref := by
  cases env with
  | none => contradiction
  | some pairs =>
    have same : (s.heap.alloc pairs).2 = ref := Option.some.inj decoded
    rw [← same]
    exact mapWithin_alloc_self _ id pairs (given pairs rfl)

theorem MapWithin.decode (within : MapWithin allowed s.heap id ref) (env : Option EnvMap) :
    MapWithin allowed (s.decode env).1.heap id ref := by
  cases env with
  | none => exact within
  | some pairs => exact within.alloc pairs

theorem decode_ne (valid : s.heap.Valid ref) (env : Option EnvMap) :
    (s.decode env).2 ≠ some ref := by
  cases env with
  | none => exact nofun
  | some pairs => exact fun same => s.heap.alloc_ne pairs valid (Option.some.inj same)

@[simp] theorem db_load (s : Session) (doc : Project EnvMap) : (s.load doc).1.db = s.db := by
  unfold Session.load
  split <;> rfl

@[simp] theorem id_load (s : Session) (doc : Project EnvMap) : (s.load doc).2.id = doc.id := by
  unfold Session.load
  split <;> rfl

@[simp] theorem vmIDs_load (s : Session) (doc : Project EnvMap) :
    (s.load doc).2.vmIDs = doc.vmIDs := by
  unfold Session.load
  split <;> rfl

@[simp] theorem replicasDesired_load (s : Session) (doc : Project EnvMap) :
    (s.load doc).2.replicasDesired = doc.replicasDesired := by
  unfold Session.load
  split <;> rfl

@[simp] theorem image_load (s : Session) (doc : Project EnvMap) :
    (s.load doc).2.image = doc.image := by
  unfold Session.load
  split <;> rfl

theorem Within.load {fails : Bool} {doc : Project EnvMap} (within : Within allowed s.db)
    (found : getProject s.db fails id = some doc) :
    doc.id = id ∧ Within allowed (s.load doc).1.db ∧
      EnvWithin allowed (s.load doc).1.heap (s.load doc).2 := by
  obtain ⟨row, member, same, rfl⟩ := getProject_eq_some found
  have rows : Within allowed (s.load row.doc).1.db := by
    rw [db_load]
    exact within
  refine ⟨same, rows, ?_⟩
  unfold Session.load
  cases env : row.doc.env with
  | none =>
    intro ref absent
    contradiction
  | some contents =>
    intro ref same
    obtain rfl := Option.some.inj same
    apply mapWithin_alloc_self
    intro pair held
    apply within row member pair
    simp [rowPairs, env, held]

end Within

end Porter.Api.Projects
