import Porter.Store.Projects

/-!
# Replica pools in the tables

A project and a deployment list the ids of their replicas; the rows are in `replicas`.
-/
namespace Porter.Store

open Sql

variable {db before after : ProjectDb} {ids : List String} {vm : VM}

def Placed (db : ProjectDb) (ids : List String) : Prop :=
  ∀ (i : Nat) (id : String), ids[i]? = some id →
    ∃ vm ∈ db.replicas.rows, vm.id = id ∧ vm.replicaIndex = i

theorem placed_nil (db : ProjectDb) : Placed db [] := by
  intro i id listed
  simp at listed

theorem Placed.nodup (placed : Placed db ids) : ids.Nodup := by
  rw [List.nodup_iff_getElem?_ne_getElem?]
  intro i j before bounded same
  obtain ⟨id, listed⟩ : ∃ id, ids[j]? = some id := ⟨_, List.getElem?_eq_getElem bounded⟩
  obtain ⟨first, stored, named, index⟩ := placed i id (same.trans listed)
  obtain ⟨second, kept, called, position⟩ := placed j id listed
  have one : first = second := db.replicas.row_eq_of_key stored kept (named.trans called.symm)
  subst one
  omega

theorem Placed.take (placed : Placed db ids) (n : Nat) : Placed db (ids.take n) := by
  intro i id listed
  rw [List.getElem?_take] at listed
  split at listed
  · exact placed i id listed
  · contradiction

theorem Placed.of_rows (placed : Placed before ids)
    (kept : ∀ vm ∈ before.replicas.rows, vm.id ∈ ids → vm ∈ after.replicas.rows) :
    Placed after ids := by
  intro i id listed
  obtain ⟨vm, stored, rfl, index⟩ := placed i id listed
  exact ⟨vm, kept vm stored (List.mem_of_getElem? listed), rfl, index⟩

theorem Placed.of_replicas (placed : Placed before ids) (same : after.replicas = before.replicas) :
    Placed after ids :=
  placed.of_rows fun vm stored _ => by rwa [same]

theorem Placed.concat (placed : Placed db ids) (stored : vm ∈ db.replicas.rows)
    (next : vm.replicaIndex = ids.length) : Placed db (ids ++ [vm.id]) := by
  intro i id listed
  by_cases earlier : i < ids.length
  · rw [List.getElem?_append_left earlier] at listed
    exact placed i id listed
  · rw [List.getElem?_append_right (Nat.le_of_not_lt earlier)] at listed
    have only : i - ids.length = 0 ∧ vm.id = id := by
      simpa [List.getElem?_singleton] using listed
    exact ⟨vm, stored, only.2, by omega⟩

theorem Placed.filter_last (placed : Placed db ids) (gone : String)
    (last : gone ∈ ids → ids.getLast? = some gone) :
    ids.filter (· ≠ gone) = ids.take (ids.filter (· ≠ gone)).length := by
  by_cases listed : gone ∈ ids
  · obtain ⟨front, rfl⟩ := List.getLast?_eq_some_iff.mp (last listed)
    have apart : gone ∉ front := by
      have distinct := placed.nodup
      rw [List.nodup_append] at distinct
      exact fun member => distinct.2.2 gone member gone (List.mem_singleton_self gone) rfl
    have whole : front.filter (· ≠ gone) = front :=
      List.filter_eq_self.mpr fun id member => by
        simpa using fun same : id = gone => apart (same ▸ member)
    rw [List.filter_append, whole]
    simp
  · have whole : ids.filter (· ≠ gone) = ids :=
      List.filter_eq_self.mpr fun id member => by
        simpa using fun same : id = gone => listed (same ▸ member)
    rw [whole, List.take_length]

/-- Every listed id has a row, none is listed twice, and the row has the index of the position. -/
structure PoolConsistent (db : ProjectDb) (ids : List String) : Prop where
  stored : ∀ id ∈ ids, ∃ vm ∈ db.replicas.rows, vm.id = id
  distinct : ids.Nodup
  indexed : ∀ (i : Nat) (id : String), ids[i]? = some id →
    ∀ vm ∈ db.replicas.rows, vm.id = id → vm.replicaIndex = i

theorem poolConsistent_iff (db : ProjectDb) (ids : List String) :
    PoolConsistent db ids ↔ Placed db ids := by
  constructor
  · intro consistent i id listed
    obtain ⟨vm, stored, named⟩ := consistent.stored id (List.mem_of_getElem? listed)
    exact ⟨vm, stored, named, consistent.indexed i id listed vm stored named⟩
  · intro placed
    refine ⟨?_, placed.nodup, ?_⟩
    · intro id member
      obtain ⟨i, listed⟩ := List.mem_iff_getElem?.mp member
      obtain ⟨vm, stored, named, -⟩ := placed i id listed
      exact ⟨vm, stored, named⟩
    · intro i id listed vm stored named
      obtain ⟨row, kept, called, index⟩ := placed i id listed
      rw [db.replicas.row_eq_of_key stored kept (named.trans called.symm), index]

def PoolsConsistent (db : ProjectDb) : Prop :=
  (∀ row ∈ db.projects.rows, PoolConsistent db row.doc.vmIDs) ∧
    ∀ d ∈ db.deployments.rows, PoolConsistent db d.vmIDs

structure PoolsPlaced (db : ProjectDb) : Prop where
  projects : ∀ row ∈ db.projects.rows, Placed db row.doc.vmIDs
  deployments : ∀ d ∈ db.deployments.rows, Placed db d.vmIDs
  named : ∀ first ∈ db.projects.rows, ∀ second ∈ db.projects.rows,
    first.doc.name = second.doc.name → first.id = second.id
  wanted : ∀ row ∈ db.projects.rows, 0 ≤ row.doc.replicasDesired

theorem poolsPlaced_empty : PoolsPlaced ProjectDb.empty := by
  constructor <;> simp [ProjectDb.empty, Table.empty]

theorem PoolsPlaced.consistent (placed : PoolsPlaced db) : PoolsConsistent db :=
  ⟨fun row stored => (poolConsistent_iff db _).mpr (placed.projects row stored),
    fun d stored => (poolConsistent_iff db _).mpr (placed.deployments d stored)⟩

theorem PoolsPlaced.of_projects (placed : PoolsPlaced before)
    (same : after.projects = before.projects)
    (projects : ∀ row ∈ before.projects.rows, Placed after row.doc.vmIDs)
    (deployments : ∀ d ∈ after.deployments.rows, Placed after d.vmIDs) : PoolsPlaced after := by
  refine ⟨?_, deployments, ?_, ?_⟩
  · rwa [same]
  · rw [same]
    exact placed.named
  · rw [same]
    exact placed.wanted

theorem hasProject_of_projects (same : after.projects = before.projects) (id : String) :
    after.hasProject id = before.hasProject id := by
  unfold ProjectDb.hasProject
  rw [same]

theorem replicas_putProject (db : ProjectDb) (fault : Option String) (row : ProjectRow) :
    (putProject db fault row).replicas = db.replicas := by
  unfold putProject
  split <;> rfl

theorem deployments_putProject (db : ProjectDb) (fault : Option String) (row : ProjectRow) :
    (putProject db fault row).deployments = db.deployments := by
  unfold putProject
  split <;> rfl

theorem refusesProject_eq_false (db : ProjectDb) (row : ProjectRow) :
    refusesProject db row = false ↔
      (∀ other ∈ db.projects.rows, other.doc.name = row.doc.name → other.id = row.id) ∧
        0 ≤ row.doc.replicasDesired := by
  simp [refusesProject]

theorem mem_putProject_stored (db : ProjectDb) (new row : ProjectRow)
    (admitted : refusesProject db new = false) :
    row ∈ (putProject db none new).projects.rows ↔
      row = new ∨ row ∈ db.projects.rows ∧ row.id ≠ new.id := by
  unfold putProject
  rw [admitted]
  exact Table.mem_upsert _ _ _ _ (ProjectRow.overwrite_eq _) row

theorem hasProject_putProject (db : ProjectDb) (fault : Option String) (row : ProjectRow)
    (id : String) (stored : db.hasProject id = true) :
    (putProject db fault row).hasProject id = true := by
  rw [ProjectDb.hasProject_eq_true] at stored ⊢
  unfold putProject
  split
  · exact stored
  · obtain ⟨old, member, rfl⟩ := stored
    exact db.projects.key_upsert _ _ _ member

theorem PoolsPlaced.put_of (placed : PoolsPlaced before) (new : ProjectRow)
    (rows : ∀ row ∈ after.projects.rows, row = new ∨ row ∈ before.projects.rows ∧ row.id ≠ new.id)
    (admitted : refusesProject before new = false) (own : Placed after new.doc.vmIDs)
    (others : ∀ row ∈ before.projects.rows, row.id ≠ new.id → Placed after row.doc.vmIDs)
    (deployments : ∀ d ∈ after.deployments.rows, Placed after d.vmIDs) : PoolsPlaced after := by
  obtain ⟨names, wanted⟩ := (refusesProject_eq_false _ _).mp admitted
  constructor
  · intro row stored
    rcases rows row stored with rfl | ⟨old, other⟩
    · exact own
    · exact others row old other
  · exact deployments
  · intro first stored second kept same
    rcases rows first stored with rfl | ⟨old, -⟩
    · rcases rows second kept with rfl | ⟨older, -⟩
      · rfl
      · exact (names second older same.symm).symm
    · rcases rows second kept with rfl | ⟨older, -⟩
      · exact names first old same
      · exact placed.named first old second older same
  · intro row stored
    rcases rows row stored with rfl | ⟨old, -⟩
    · exact wanted
    · exact placed.wanted row old

theorem PoolsPlaced.putProject (placed : PoolsPlaced db) (fault : Option String) {new : ProjectRow}
    (own : Placed db new.doc.vmIDs) : PoolsPlaced (putProject db fault new) := by
  have keeps : ∀ ids, Placed db ids → Placed (Store.putProject db fault new) ids :=
    fun _ old => old.of_replicas (replicas_putProject db fault new)
  cases refused : fault.isSome || refusesProject db new with
  | true =>
    have same : Store.putProject db fault new = db := by simp [Store.putProject, refused]
    rwa [same]
  | false =>
    obtain ⟨working, admitted⟩ := Bool.or_eq_false_iff.mp refused
    obtain rfl : fault = none := by simpa using working
    apply placed.put_of _ _ admitted (keeps _ own)
    · intro row member _
      exact keeps _ (placed.projects row member)
    · intro d member
      rw [deployments_putProject] at member
      exact keeps _ (placed.deployments d member)
    · intro row member
      exact (mem_putProject_stored _ _ _ admitted).mp member

variable {fault : Option String}

theorem mem_createDeployment {new d : Deployment}
    (member : d ∈ (createDeployment db fault new).deployments.rows) :
    d.vmIDs = new.vmIDs ∨ d ∈ db.deployments.rows := by
  unfold createDeployment at member
  split at member
  · exact Or.inr member
  · by_cases same : d.id = new.withWeights.id
    · have found := (Table.find_eq_some _ _ _).mpr ⟨member, same⟩
      rw [Table.find_upsert_self] at found
      have stored := Option.some.inj found
      cases old : db.deployments.find new.withWeights.id with
      | none | some =>
        rw [old] at stored
        rw [← stored]
        exact Or.inl (vmIDs_withWeights _)
    · exact Or.inr ((Table.mem_upsert_of_ne _ _ _ _ d same).mp member)

theorem replicas_createDeployment (db : ProjectDb) (fault : Option String) (d : Deployment) :
    (createDeployment db fault d).replicas = db.replicas := by
  unfold createDeployment
  split <;> rfl

theorem PoolsPlaced.createDeployment (placed : PoolsPlaced db) (fault : Option String)
    {new : Deployment} (own : Placed db new.vmIDs) :
    PoolsPlaced (createDeployment db fault new) := by
  have keeps : ∀ ids, Placed db ids → Placed (Store.createDeployment db fault new) ids :=
    fun _ old => old.of_replicas (replicas_createDeployment db fault new)
  apply placed.of_projects (sameProjects_createDeployment _ _ new).1
  · exact fun row member => keeps _ (placed.projects row member)
  · intro d member
    rcases mem_createDeployment member with listed | old
    · rw [listed]
      exact keeps _ own
    · exact keeps _ (placed.deployments d old)

def Vacant (db : ProjectDb) (id projectID : String) (index : Int) : Prop :=
  ∀ vm ∈ db.replicas.rows, vm.id ≠ id ∧ ¬ (vm.projectID = projectID ∧ vm.replicaIndex = index)

instance (db : ProjectDb) (id projectID : String) (index : Int) :
    Decidable (Vacant db id projectID index) :=
  inferInstanceAs (Decidable (∀ vm ∈ db.replicas.rows, _))

theorem mem_putVM_admitted (admitted : refusesVM db vm = false) (row : VM) :
    row ∈ (putVM db none vm).replicas.rows ↔
      row = vm ∨ row ∈ db.replicas.rows ∧ row.id ≠ vm.id := by
  have assigns : ∀ old : VM, old.id = vm.id → vm.overwrite old = vm := by
    intro old same
    simp [VM.overwrite, same]
  unfold putVM
  rw [admitted]
  simp only [Option.isSome_none, Bool.or_self, Bool.false_eq_true, if_false]
  exact Table.mem_upsert _ _ _ _ assigns row

theorem of_mem_putVM {row : VM}
    (stored : row ∈ (putVM db fault vm).replicas.rows) : row = vm ∨ row ∈ db.replicas.rows := by
  unfold putVM at stored
  split at stored
  · exact Or.inr stored
  · rename_i reached
    simp only [Bool.or_eq_true, not_or, Bool.not_eq_true] at reached
    have admitted : row ∈ (putVM db none vm).replicas.rows := by
      unfold putVM
      rw [reached.2]
      exact stored
    rcases (mem_putVM_admitted reached.2 row).mp admitted with same | old
    · exact Or.inl same
    · exact Or.inr old.1

theorem isSome_getVM_putVM (fault : Option String) (vm : VM) {id : String}
    (stored : (getVM db id).isSome = true) : (getVM (putVM db fault vm) id).isSome = true := by
  unfold putVM
  split
  · exact stored
  · obtain ⟨row, found⟩ := Option.isSome_iff_exists.mp stored
    obtain ⟨member, keyed⟩ := (Table.find_eq_some _ _ _).mp found
    obtain ⟨after, kept, same⟩ :=
      Table.key_upsert db.replicas vm vm.overwrite vm.overwrite_id member
    exact Option.isSome_iff_exists.mpr
      ⟨after, (Table.find_eq_some _ _ _).mpr ⟨kept, same.trans keyed⟩⟩

theorem mem_putVM (vacant : Vacant db vm.id vm.projectID vm.replicaIndex)
    (owner : db.hasProject vm.projectID = true) (row : VM) :
    row ∈ (putVM db none vm).replicas.rows ↔ row = vm ∨ row ∈ db.replicas.rows := by
  have admitted : refusesVM db vm = false := by
    simp only [refusesVM, owner, Bool.not_true, Bool.and_false, Bool.false_or, List.any_eq_false]
    intro other stored
    have apart := (vacant other stored).2
    simp only [Bool.and_eq_true, decide_eq_true_eq]
    exact fun conflict => apart ⟨conflict.1.1.2, conflict.1.2⟩
  rw [mem_putVM_admitted admitted]
  constructor
  · rintro (rfl | old)
    · exact Or.inl rfl
    · exact Or.inr old.1
  · rintro (rfl | old)
    · exact Or.inl rfl
    · exact Or.inr ⟨old, (vacant row old).1⟩

theorem deployments_putVM (db : ProjectDb) (fault : Option String) (vm : VM) :
    (putVM db fault vm).deployments = db.deployments := by
  unfold putVM
  split <;> rfl

theorem PoolsPlaced.putVM (placed : PoolsPlaced db)
    (grows : ∀ row ∈ db.replicas.rows, row ∈ (putVM db fault vm).replicas.rows) :
    PoolsPlaced (putVM db fault vm) := by
  apply placed.of_projects (sameProjects_putVM _ _ _).1
  · exact fun row member => (placed.projects row member).of_rows fun vm stored _ => grows vm stored
  · rw [deployments_putVM]
    exact fun d member => (placed.deployments d member).of_rows fun vm stored _ => grows vm stored

theorem deployments_deleteReplicas (db : ProjectDb) (fault : Option String) (p : VM → Bool) :
    (deleteReplicas db fault p).deployments = db.deployments := by
  unfold deleteReplicas
  split <;> rfl

theorem Placed.deleteVM (placed : Placed db ids) (fault : Option String) {id : String}
    (apart : id ∉ ids) : Placed (deleteVM db fault id) ids := by
  apply placed.of_rows
  intro vm stored listed
  unfold Store.deleteVM deleteReplicas
  split
  · exact stored
  · rw [Table.mem_deleteWhere]
    exact ⟨stored, by simpa using fun same : vm.id = id => apart (same ▸ listed)⟩

end Porter.Store
