import Porter.Run.Guarded
import Porter.Store.Documents

/-!
# Projects read, changed and written back

Most requests on a project read it, change a field and write the whole back.
-/
namespace Porter.Store.Documents

open Go Run Sql

structure Round where
  id : String
  fails : Bool
  change : Project → Project
  fault : Option String

namespace Round

def apply (db : Tables) (r : Round) : Tables :=
  match getProject db r.fails r.id with
  | none => db
  | some p => putProject db r.fault (r.change p)

def Writes (r : Round) (id : String) (db : Tables) : Prop :=
  ∃ p, getProject db r.fails r.id = some p ∧ (r.change p).id = id ∧
    accepts db r.fault (r.change p) = true

def KeepsCompose (r : Round) : Prop := ∀ p, (r.change p).composeYAML = p.composeYAML

section Steps

variable {r : Round} {id : String} {db : Tables}

theorem find_apply_of_not_writes (kept : ¬r.Writes id db) :
    (r.apply db).projects.find id = db.projects.find id := by
  unfold apply
  split
  · rfl
  · next p read =>
    by_cases same : (r.change p).id = id
    · have refused : ¬accepts db r.fault (r.change p) = true :=
        fun accepted => kept ⟨p, read, same, accepted⟩
      unfold putProject
      rw [if_neg refused]
    · exact find_putProject_of_ne fun equal => same equal.symm

theorem find_apply_of_writes (writes : r.Writes id db) :
    ∃ p, getProject db r.fails r.id = some p ∧ (r.change p).id = id ∧
      (r.apply db).projects.find id = some (r.change p).row := by
  have ⟨p, read, same, accepted⟩ := writes
  refine ⟨p, read, same, ?_⟩
  unfold apply
  rw [read, ← same]
  exact find_putProject_self accepted

end Steps

end Round

def composeColumn (db : Tables) (id : String) : Option (Option String) :=
  (db.projects.find id).map Row.composeYAML

section Compose

variable {r : Round} {id : String} {db : Tables}

theorem composeColumn_of_writes (keeps : r.KeepsCompose) (writes : r.Writes id db) :
    composeColumn (r.apply db) id = some none := by
  have ⟨p, read, _, found⟩ := Round.find_apply_of_writes writes
  have plain := (keeps p).trans (composeYAML_of_getProject read)
  unfold composeColumn
  rw [found]
  show some (nullableStr (r.change p).composeYAML) = some none
  rw [plain]
  rfl

theorem composeColumn_of_not_writes (kept : ¬r.Writes id db) :
    composeColumn (r.apply db) id = composeColumn db id := by
  unfold composeColumn
  rw [Round.find_apply_of_not_writes kept]

theorem cleared_apply (keeps : r.KeepsCompose) (cleared : composeColumn db id = some none) :
    composeColumn (r.apply db) id = some none := by
  by_cases writes : r.Writes id db
  · exact composeColumn_of_writes keeps writes
  · rw [composeColumn_of_not_writes writes]
    exact cleared

theorem cleared_run {rounds : List Round} (keep : ∀ r ∈ rounds, r.KeepsCompose)
    (cleared : composeColumn db id = some none) :
    composeColumn (run Round.apply db rounds) id = some none := by
  induction rounds generalizing db with
  | nil => exact cleared
  | cons r rest recurse =>
    rw [run_cons]
    exact recurse (fun other member => keep other (List.mem_cons_of_mem _ member))
      (cleared_apply (keep r List.mem_cons_self) cleared)

theorem composeColumn_run_iff {rounds : List Round} (keep : ∀ r ∈ rounds, r.KeepsCompose)
    {compose : Option String} (stored : composeColumn db id = some compose) :
    composeColumn (run Round.apply db rounds) id = some compose ↔
      compose = none ∨ Guarded Round.apply (fun db r => ¬r.Writes id db) db rounds := by
  cases compose with
  | none => exact iff_of_true (cleared_run keep stored) (Or.inl rfl)
  | some yaml =>
    induction rounds generalizing db with
    | nil => exact iff_of_true stored (Or.inr trivial)
    | cons r rest recurse =>
      have others : ∀ r ∈ rest, r.KeepsCompose :=
        fun other member => keep other (List.mem_cons_of_mem _ member)
      rw [run_cons]
      by_cases writes : r.Writes id db
      · have cleared := cleared_run others
          (composeColumn_of_writes (keep r List.mem_cons_self) writes)
        rw [cleared]
        refine iff_of_false nofun ?_
        rintro (impossible | guarded)
        · contradiction
        · exact guarded.1 writes
      · have same := recurse others ((composeColumn_of_not_writes writes).trans stored)
        rw [same]
        constructor
        · rintro (impossible | guarded)
          · contradiction
          · exact Or.inr ⟨writes, guarded⟩
        · rintro (impossible | guarded)
          · contradiction
          · exact Or.inr guarded.2

end Compose

theorem nullableStr_eq_none (s : String) : nullableStr s = none ↔ s = "" := by
  unfold nullableStr
  split
  · next empty => exact iff_of_true rfl empty
  · next given => exact iff_of_false nofun given

/-- After a write that has succeeded a project is read as it was written exactly if it has a
document and no compose file. -/
theorem getProject_putProject_iff {db : Tables} {fault : Option String} {p : Project}
    (accepted : accepts db fault p = true) :
    (getProject (putProject db fault p) false p.id = some p ↔
      p.composeYAML = "" ∧ p.Encodes) ∧
    ∀ rounds : List Round, (∀ r ∈ rounds, r.KeepsCompose) →
      (composeColumn (run Round.apply (putProject db fault p) rounds) p.id =
          composeColumn (putProject db fault p) p.id ↔
        p.composeYAML = "" ∨
          Guarded Round.apply (fun db r => ¬r.Writes p.id db) (putProject db fault p) rounds) := by
  constructor
  · rw [getProject_putProject accepted, Option.some.injEq]
    exact unmarshal_mustJSON_eq_iff p
  · intro rounds keep
    have stored : composeColumn (putProject db fault p) p.id =
        some (nullableStr p.composeYAML) := by
      unfold composeColumn
      rw [find_putProject_self accepted]
      rfl
    rw [stored, composeColumn_run_iff keep stored, nullableStr_eq_none]

def emptyTables : Tables := ⟨Table.empty Row.id, []⟩

def webID : String := "6b1f3a52-0c4d-4e8a-9f27-d1a5c3b7e900"

def webProject (source composeYAML : String) : Project where
  id := webID
  orgID := ""
  name := "web"
  source := source
  image := "nginx"
  network := "bridge"
  vmIDs := []
  servicePools := GoMap.nil
  composeYAML := composeYAML
  hostMountPath := ""
  replicasDesired := 1
  restartPolicy := "always"
  healthcheck := none
  env := GoMap.nil
  tags := []
  sshEnabled := false
  replicas := 0
  stackID := ""
  composeService := ""
  model := ""
  gpu := ""
  networks := []
  autoscale := none
  createdBy := "admin"
  createdAt := 0

def enableSSH : Round := ⟨webID, false, fun p => { p with sshEnabled := true }, none⟩

theorem getProject_putProject_image :
    getProject (putProject emptyTables none (webProject "image" "")) false webID =
      some (webProject "image" "") := by
  have accepted : accepts emptyTables none (webProject "image" "") = true := by decide
  exact (getProject_putProject_iff accepted).1.mpr ⟨rfl, by decide⟩

theorem getProject_putProject_compose :
    accepts emptyTables none (webProject "compose" "services:") = true ∧
      getProject (putProject emptyTables none (webProject "compose" "services:")) false webID ≠
        some (webProject "compose" "services:") ∧
      enableSSH.KeepsCompose ∧
      composeColumn (putProject emptyTables none (webProject "compose" "services:")) webID =
        some (some "services:") ∧
      composeColumn (enableSSH.apply
        (putProject emptyTables none (webProject "compose" "services:"))) webID = some none := by
  refine ⟨by decide, by decide, fun _ => rfl, by decide, by decide⟩

end Porter.Store.Documents
