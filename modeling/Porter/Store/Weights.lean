import Porter.Store.Deployments

/-!
# Weights through the store

A deployment has two weights, and the store fills in either from the other: `CreateDeployment` when
it writes a zero, `ListDeployments` when it reads one.
-/
namespace Porter.Store

open Sql

variable (d : Deployment)

theorem withWeights_weights :
    d.withWeights =
      { d with
        routeWeight := if d.routeWeight = 0 then d.rolloutPercent else d.routeWeight
        rolloutPercent := if d.rolloutPercent = 0 then d.routeWeight else d.rolloutPercent } := by
  unfold Deployment.withWeights
  by_cases route : d.routeWeight = 0
  · by_cases rollout : d.rolloutPercent = 0
    · simp [route, rollout]
    · simp [route, rollout]
  · simp [route]
    split
    · rfl
    · rfl

theorem readBack_withWeights : d.withWeights.readBack = d.withWeights := by
  rw [withWeights_weights]
  unfold Deployment.readBack
  by_cases route : d.routeWeight = 0
  · simp only [route, if_true]
    split
    · next zero => simp [zero]
    · rfl
  · simp [route]

variable (base : String)

theorem readBack_guestBase :
    { d with guestBase := base }.readBack = { d.readBack with guestBase := base } := by
  unfold Deployment.readBack
  split
  · rfl
  · rfl

variable (db : ProjectDb)

theorem getDeployment_clean {projectID : String} (given : projectID ≠ "") (id : String) :
    getDeployment db .clean projectID id =
      ((db.deployments.find id).filter (·.projectID = projectID)).map Deployment.readBack := by
  apply Option.ext
  intro x
  have listed := Table.find_eq_some
    (⟨listDeployments db .clean projectID, nodup_listDeployments db projectID⟩ :
      Table Deployment.id) id x
  have read : getDeployment db .clean projectID id = some x ↔
      x ∈ listDeployments db .clean projectID ∧ x.id = id := listed
  rw [read, mem_listDeployments_clean _ _ given]
  simp only [Option.map_eq_some_iff, Option.filter_eq_some_iff, decide_eq_true_eq]
  constructor
  · rintro ⟨⟨row, found, owner, same⟩, own⟩
    rw [same, id_readBack] at own
    rw [own] at found
    exact ⟨row, ⟨found, owner⟩, same.symm⟩
  · rintro ⟨row, ⟨found, owner⟩, same⟩
    have own := ((Table.find_eq_some _ _ _).mp found).2
    rw [← same]
    refine ⟨⟨row, ?_, owner, rfl⟩, ?_⟩
    · rw [own]
      exact found
    · rw [id_readBack]
      exact own

/-- Two deployments agree in what a caller of `GetDeployment` looks at. -/
structure Agrees (d x : Deployment) : Prop where
  imageDigest : x.imageDigest = d.imageDigest
  guestBase : x.guestBase = d.guestBase
  environment : x.environment = d.environment
  isProduction : x.isProduction = d.isProduction
  routeWeight : x.routeWeight = d.routeWeight
  rolloutPercent : x.rolloutPercent = d.rolloutPercent
  rollbackTo : x.rollbackTo = d.rollbackTo
  vmIDs : x.vmIDs = d.vmIDs

def keptBase (d : Deployment) : String :=
  ((db.deployments.find d.id).map Deployment.guestBase).getD d.guestBase

theorem keptBase_eq_iff :
    keptBase db d = d.guestBase ↔
      ∀ row, db.deployments.find d.id = some row → row.guestBase = d.guestBase := by
  unfold keptBase
  cases db.deployments.find d.id with
  | none => exact iff_of_true rfl nofun
  | some row =>
    constructor
    · intro same other found
      rw [← Option.some.inj found]
      exact same
    · intro same
      exact same row rfl

theorem getDeployment_createDeployment {db : ProjectDb} {fault : Option String} {d : Deployment}
    (accepted : createDeploymentError db fault d = none) (x : Deployment) :
    getDeployment (createDeployment db fault d) .clean d.projectID d.id = some x ↔
      (∀ row, db.deployments.find d.id = some row → row.projectID = d.projectID) ∧
        x = { d.withWeights with guestBase := keptBase db d } := by
  have fits := fits_of_accepted accepted
  have ⟨route, rollout, same⟩ := withWeights_eq d
  have given : d.projectID ≠ "" := by
    rw [same] at fits
    exact fits.projectID
  have read := readBack_withWeights d
  have based := readBack_guestBase d.withWeights (keptBase db d)
  unfold keptBase at based ⊢
  rw [getDeployment_clean _ given, find_createDeployment_self accepted]
  rw [same] at read based ⊢
  rw [read] at based
  cases old : db.deployments.find d.id with
  | none =>
    rw [Option.map_none, Option.getD_none, Option.filter_some, if_pos (decide_eq_true rfl),
      Option.map_some, read, Option.some.injEq]
    constructor
    · intro equal
      exact ⟨fun _ none => (nomatch none), equal.symm⟩
    · intro ⟨_, equal⟩
      exact equal.symm
  | some row =>
    have own : row.id = d.id := ((Table.find_eq_some _ _ _).mp old).2
    rw [old] at based
    simp only [Option.map_some, Option.getD_some] at based ⊢
    simp only [Option.filter_some, Deployment.overwrite, decide_eq_true_eq, Option.some.injEq,
      forall_eq']
    by_cases owner : row.projectID = d.projectID
    · rw [if_pos owner, Option.map_some, own, owner, based, Option.some.injEq]
      constructor
      · intro equal
        exact ⟨rfl, equal.symm⟩
      · intro ⟨_, equal⟩
        exact equal.symm
    · rw [if_neg owner]
      exact iff_of_false nofun fun both => owner both.1

theorem agrees_guestBase_iff : Agrees d { d with guestBase := base } ↔ base = d.guestBase := by
  constructor
  · intro agrees
    exact agrees.guestBase
  · intro same
    exact ⟨rfl, same, rfl, rfl, rfl, rfl, rfl, rfl⟩

theorem agrees_withWeights_iff :
    Agrees d { d.withWeights with guestBase := base } ↔
      base = d.guestBase ∧ (d.routeWeight = 0 ↔ d.rolloutPercent = 0) := by
  rw [withWeights_weights]
  constructor
  · intro agrees
    have route := agrees.routeWeight
    have rollout := agrees.rolloutPercent
    refine ⟨agrees.guestBase, ?_⟩
    simp only at route rollout
    constructor
    · intro zero
      rw [if_pos zero, zero] at route
      exact route
    · intro zero
      rw [if_pos zero, zero] at rollout
      exact rollout
  · intro ⟨same, both⟩
    refine ⟨rfl, same, rfl, rfl, ?_, ?_, rfl, rfl⟩
    · show (if d.routeWeight = 0 then d.rolloutPercent else d.routeWeight) = d.routeWeight
      split
      · next zero => rw [zero, both.mp zero]
      · rfl
    · show (if d.rolloutPercent = 0 then d.routeWeight else d.rolloutPercent) = d.rolloutPercent
      split
      · next zero => rw [zero, both.mpr zero]
      · rfl

/-- After a write that has succeeded `GetDeployment` returns what the call has left exactly if no
row of another project or guest base was there, and what it was given exactly if moreover both
weights were zero or neither was. -/
theorem getDeployment_agrees_iff {db : ProjectDb} {fault : Option String} {d : Deployment}
    (accepted : createDeploymentError db fault d = none) :
    ((∃ x, getDeployment (createDeployment db fault d) .clean d.projectID d.id = some x ∧
        Agrees d.withWeights x) ↔
      ∀ row, db.deployments.find d.id = some row →
        row.projectID = d.projectID ∧ row.guestBase = d.guestBase) ∧
    ((∃ x, getDeployment (createDeployment db fault d) .clean d.projectID d.id = some x ∧
        Agrees d x) ↔
      (∀ row, db.deployments.find d.id = some row →
        row.projectID = d.projectID ∧ row.guestBase = d.guestBase) ∧
      (d.routeWeight = 0 ↔ d.rolloutPercent = 0)) := by
  have base : d.withWeights.guestBase = d.guestBase := by rw [withWeights_weights]
  have left := agrees_guestBase_iff d.withWeights (keptBase db d)
  have given := agrees_withWeights_iff d (keptBase db d)
  rw [base, keptBase_eq_iff] at left
  rw [keptBase_eq_iff] at given
  simp only [getDeployment_createDeployment accepted, and_assoc, exists_and_left, exists_eq_left,
    left, given, forall_and]
  exact ⟨trivial, trivial⟩

def shopTables : ProjectDb :=
  { ProjectDb.empty with
    projects := Table.single ProjectRow.id
      ⟨⟨"shop", "", "shop", "", "", "", [], "", 1, "", none, none, [], false, 0, ""⟩, none⟩
    owned := nofun }

def shopRelease (guestBase : String) : Deployment :=
  ⟨"release", "shop", "ready", "", "", "", "", [], 10, "v1", guestBase, "preview", false, 10, []⟩

def shopDeployed : ProjectDb := createDeployment shopTables none (shopRelease "alpine")

theorem getDeployment_agrees_new :
    ∃ x, getDeployment shopDeployed .clean "shop" "release" = some x ∧
      Agrees (shopRelease "alpine") x := by
  have accepted : createDeploymentError shopTables none (shopRelease "alpine") = none := by decide
  refine (getDeployment_agrees_iff accepted).2.mpr ⟨fun row none => ?_, by decide⟩
  exact nomatch none

theorem getDeployment_other_base :
    createDeploymentError shopDeployed none (shopRelease "ubuntu") = none ∧
      ¬∃ x, getDeployment (createDeployment shopDeployed none (shopRelease "ubuntu")) .clean
        "shop" "release" = some x ∧ Agrees (shopRelease "ubuntu") x := by
  have accepted : createDeploymentError shopDeployed none (shopRelease "ubuntu") = none := by
    decide
  have kept : keptBase shopDeployed (shopRelease "ubuntu") = "alpine" := by decide
  refine ⟨accepted, ?_⟩
  rintro ⟨x, found, agrees⟩
  have read := ((getDeployment_createDeployment accepted x).mp found).2
  have base := agrees.guestBase
  rw [read] at base
  simp only [kept] at base
  exact absurd base (by decide)

end Porter.Store
