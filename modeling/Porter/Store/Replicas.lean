import Porter.Store.Projects

/-!
# Replicas and their constraints

The table `replicas` as the controllers use it, with the part of `types.VM` they read and write.
-/
namespace Porter.Store

open Sql

structure Replica where
  id : String
  projectID : String
  replicaIndex : Int
  state : VMState
  healthStatus : HealthStatus
  ipAddress : String
  healthcheck : Option Healthcheck
  restart : String
  error : String
  snapshotStatus : String
  snapshotPath : String
  snapshotMemPath : String
deriving DecidableEq

def Replica.Checked (vm : Replica) : Prop :=
  vm.state ∈ [.pending, .booting, .running, .stopping, .stopped, .failed] ∧
    vm.healthStatus ∈ [.healthy, .unhealthy, .checking]

instance (vm : Replica) : Decidable vm.Checked := inferInstanceAs (Decidable (_ ∧ _))

def Replica.SameSlot (vm other : Replica) : Prop :=
  vm.projectID ≠ "" ∧ other.projectID = vm.projectID ∧ other.replicaIndex = vm.replicaIndex

instance (vm other : Replica) : Decidable (vm.SameSlot other) :=
  inferInstanceAs (Decidable (_ ∧ _))

structure ReplicaDb where
  projects : List String
  replicas : Table Replica.id
  checked : ∀ vm ∈ replicas.rows, vm.Checked
  owned : ∀ vm ∈ replicas.rows, vm.projectID = "" ∨ vm.projectID ∈ projects
  slots : ∀ vm ∈ replicas.rows, ∀ other ∈ replicas.rows, vm.SameSlot other → other.id = vm.id

def ReplicaDb.single (vm : Replica) (checked : vm.Checked) : ReplicaDb where
  projects := [vm.projectID]
  replicas := Table.single Replica.id vm
  checked := by
    intro row member
    rw [List.mem_singleton.mp member]
    exact checked
  owned := by
    intro row member
    rw [List.mem_singleton.mp member]
    exact Or.inr List.mem_cons_self
  slots := by
    intro row member other member' _
    rw [List.mem_singleton.mp member, List.mem_singleton.mp member']

variable (db : ReplicaDb)

def Admitted (vm : Replica) : Prop :=
  vm.Checked ∧ (vm.projectID = "" ∨ vm.projectID ∈ db.projects) ∧
    ∀ other ∈ db.replicas.rows, vm.SameSlot other → other.id = vm.id

instance (db : ReplicaDb) (vm : Replica) : Decidable (Admitted db vm) :=
  inferInstanceAs (Decidable (_ ∧ _))

variable (new old : Replica)

def Replica.overwrite : Replica := { new with id := old.id }

theorem Replica.overwrite_id : (new.overwrite old).id = old.id := rfl

theorem Replica.overwrite_eq (same : old.id = new.id) : new.overwrite old = new := by
  unfold Replica.overwrite
  rw [same]

theorem mem_upsert_replica (vm row : Replica) :
    row ∈ (db.replicas.upsert vm vm.overwrite vm.overwrite_id).rows ↔
      row = vm ∨ row ∈ db.replicas.rows ∧ row.id ≠ vm.id :=
  Table.mem_upsert _ _ _ _ (Replica.overwrite_eq vm) row

variable (fails : Bool)

namespace ReplicaDb

def upsert (db : ReplicaDb) (vm : Replica) (admitted : Admitted db vm) : ReplicaDb where
  projects := db.projects
  replicas := db.replicas.upsert vm vm.overwrite vm.overwrite_id
  checked := by
    intro row member
    rcases (mem_upsert_replica db vm row).mp member with new | ⟨old, _⟩
    · rw [new]
      exact admitted.1
    · exact db.checked row old
  owned := by
    intro row member
    rcases (mem_upsert_replica db vm row).mp member with new | ⟨old, _⟩
    · rw [new]
      exact admitted.2.1
    · exact db.owned row old
  slots := by
    intro row member other member' same
    rcases (mem_upsert_replica db vm row).mp member with new | ⟨old, _⟩
    · rcases (mem_upsert_replica db vm other).mp member' with new' | ⟨old', _⟩
      · rw [new, new']
      · rw [new] at same ⊢
        exact admitted.2.2 other old' same
    · rcases (mem_upsert_replica db vm other).mp member' with new' | ⟨old', _⟩
      · rw [new'] at same ⊢
        have turned : vm.SameSlot row := ⟨same.2.1 ▸ same.1, same.2.1.symm, same.2.2.symm⟩
        exact (admitted.2.2 row old turned).symm
      · exact db.slots row old other old' same

def deleteWhere (db : ReplicaDb) (p : Replica → Bool) : ReplicaDb where
  projects := db.projects
  replicas := db.replicas.deleteWhere p
  checked := fun vm member => db.checked vm ((Table.mem_deleteWhere _ _ _).mp member).1
  owned := fun vm member => db.owned vm ((Table.mem_deleteWhere _ _ _).mp member).1
  slots := fun vm member other member' =>
    db.slots vm ((Table.mem_deleteWhere _ _ _).mp member).1 other
      ((Table.mem_deleteWhere _ _ _).mp member').1

def putVM (vm : Replica) : ReplicaDb :=
  if fails then db
  else if admitted : Admitted db vm then db.upsert vm admitted else db

def deleteVM (id : String) : ReplicaDb :=
  if fails then db else db.deleteWhere (·.id = id)

def deleteReplicasByProject (projectID : String) : ReplicaDb :=
  if fails then db else db.deleteWhere (·.projectID = projectID)

def deleteProject (projectID : String) : ReplicaDb :=
  if fails then db
  else
    { projects := db.projects.filter (fun id => id ≠ projectID)
      replicas := db.replicas.deleteWhere
        (fun vm => vm.projectID ≠ "" && vm.projectID = projectID)
      checked := fun vm member => db.checked vm ((Table.mem_deleteWhere _ _ _).mp member).1
      owned := by
        intro vm member
        have ⟨stored, other⟩ := (Table.mem_deleteWhere _ _ _).mp member
        by_cases owner : vm.projectID = ""
        · exact Or.inl owner
        · have kept : vm.projectID ∈ db.projects := (db.owned vm stored).resolve_left owner
          have apart : vm.projectID ≠ projectID := by simpa [owner] using other
          exact Or.inr (List.mem_filter.mpr ⟨kept, by simpa using apart⟩)
      slots := fun vm member other member' =>
        db.slots vm ((Table.mem_deleteWhere _ _ _).mp member).1 other
          ((Table.mem_deleteWhere _ _ _).mp member').1 }

def listVMs (fault : RowsFault) : List Replica := fault.delivered db.replicas.rows

theorem find_putVM_of_ne (vm : Replica) (id : String) (other : id ≠ vm.id) :
    (db.putVM fails vm).replicas.find id = db.replicas.find id := by
  unfold putVM
  split
  · rfl
  · split
    · exact Table.find_upsert_of_ne _ _ _ _ id other
    · rfl

theorem find_putVM_self {db : ReplicaDb} {vm : Replica} (admitted : Admitted db vm) :
    (db.putVM false vm).replicas.find vm.id = some vm := by
  unfold putVM
  rw [if_neg Bool.false_ne_true, dif_pos admitted, Table.find_eq_some]
  exact ⟨(mem_upsert_replica db vm vm).mpr (Or.inl rfl), rfl⟩

theorem admitted_rewrite {db : ReplicaDb} {old new : Replica}
    (stored : db.replicas.find old.id = some old) (id : new.id = old.id)
    (project : new.projectID = old.projectID) (index : new.replicaIndex = old.replicaIndex)
    (checked : new.Checked) : Admitted db new := by
  have member := ((Table.find_eq_some _ _ _).mp stored).1
  refine ⟨checked, by rw [project]; exact db.owned old member, ?_⟩
  intro other present same
  rw [id]
  unfold Replica.SameSlot at same
  rw [project, index] at same
  exact db.slots old member other present same

theorem find_deleteVM_of_ne (gone id : String) (other : id ≠ gone) :
    (db.deleteVM fails gone).replicas.find id = db.replicas.find id := by
  unfold deleteVM
  split
  · rfl
  · apply Table.find_congr
    intro row keyed
    have apart : row.id ≠ gone := by
      rw [keyed]
      exact other
    simp [deleteWhere, apart]

end ReplicaDb

end Porter.Store
