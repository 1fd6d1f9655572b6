import Porter.Controller.Rollouts
import Porter.Store.Weights

/-!
# Weights of a rollout

Passes of the deployment controller, with what each `Reconcile` reads and whether its write succeeds
as inputs.
-/
namespace Porter.Controller.Rollouts

open Go Run Sql Store

structure Sight where
  target : RowsFault
  build : Option Build
  project : Option (Project EnvMap)
  counted : List VM
  observed : List VM
  accepted : Bool

structure Pass where
  projects : List String
  once : projects.Pairwise fun first second => first ≠ second ∨ first = ""
  listing : String → RowsFault
  sight : String → Sight

variable (pass : Pass) (db : ProjectDb) (d : Deployment)

namespace Pass

def reads : Reads where
  target := getDeployment db (pass.sight d.id).target d.projectID d.rollbackTo
  build := (pass.sight d.id).build
  project := (pass.sight d.id).project
  counted := (pass.sight d.id).counted
  observed := (pass.sight d.id).observed

def listed : List Deployment :=
  pass.projects.flatMap fun projectID => listDeployments db (pass.listing projectID) projectID

def handle : ProjectDb :=
  match reconcile (pass.reads db d) d with
  | none => db
  | some x => if (pass.sight d.id).accepted then storeDeployment db x else db

def running (pass : Pass) (d : Deployment) : Int :=
  ((pass.sight d.id).counted.filter
    (fun vm => vm.deploymentID = d.id && vm.state = .running)).length

def desired : Int := desiredReplicas (pass.sight d.id).project d

end Pass

def runPass (pass : Pass) : ProjectDb := (pass.listed db).foldl pass.handle db

section Single

variable {db : ProjectDb} {pass : Pass} {d x : Deployment}

theorem one_le_desired (pass : Pass) (d : Deployment) : 1 ≤ pass.desired d := by
  have copies : 1 ≤ copyCount d := by
    unfold copyCount
    cases ids : d.vmIDs with
    | nil => decide
    | cons id rest =>
      simp only [List.isEmpty_cons, Bool.false_eq_true, if_false, List.length_cons]
      omega
  unfold Pass.desired desiredReplicas
  split
  · exact copies
  · split
    · omega
    · exact copies

def rolledWeight (pass : Pass) (d : Deployment) : Int :=
  if pass.running d ≥ pass.desired d then 100 else pass.running d * 100 / pass.desired d

theorem running_nonneg (pass : Pass) (d : Deployment) : 0 ≤ pass.running d := Int.natCast_nonneg _

theorem rolledWeight_range (pass : Pass) (d : Deployment) :
    0 ≤ rolledWeight pass d ∧ rolledWeight pass d ≤ 100 ∧
      (pass.running d < pass.desired d → rolledWeight pass d < 100) ∧
      (rolledWeight pass d = 0 ↔ 100 * pass.running d < pass.desired d) := by
  have running := running_nonneg pass d
  unfold rolledWeight
  split
  · omega
  · have low : 0 ≤ pass.running d * 100 / pass.desired d :=
      Int.ediv_nonneg (by omega) (by omega)
    have high : pass.running d * 100 / pass.desired d < 100 := by
      rw [Int.ediv_lt_iff_lt_mul (by omega)]
      omega
    have small : pass.running d * 100 / pass.desired d < 1 ↔
        pass.running d * 100 < 1 * pass.desired d := Int.ediv_lt_iff_lt_mul (by omega)
    omega

theorem reconcileRolling_weights (db : ProjectDb) (pass : Pass) (d : Deployment) :
    ∃ vmIDs rollout, reconcileRolling (pass.reads db d) d =
      { d with vmIDs := vmIDs, routeWeight := rolledWeight pass d, rolloutPercent := rollout } ∧
      (rollout = rolledWeight pass d ∨
        rollout = d.rolloutPercent ∧ d.routeWeight = rolledWeight pass d) := by
  have counted : (((pass.reads db d).counted.filter
      (fun vm => vm.deploymentID = d.id && vm.state = .running)).length : Int) =
        pass.running d := rfl
  have wanted : desiredReplicas (pass.reads db d).project d = pass.desired d := rfl
  have positive : pass.desired d > 0 := one_le_desired _ d
  have weight : rolledWeight pass d =
      if pass.running d ≥ pass.desired d then 100 else pass.running d * 100 / pass.desired d := rfl
  unfold reconcileRolling
  simp only [counted, wanted, if_pos positive]
  split
  · next all =>
    rw [if_pos all] at weight
    rw [weight]
    exact ⟨_, 100, rfl, Or.inl rfl⟩
  · next few =>
    rw [if_neg few] at weight
    rw [← weight]
    split
    · exact ⟨_, rolledWeight pass d, rfl, Or.inl rfl⟩
    · next same =>
      have same := not_not.mp same
      rw [same]
      exact ⟨_, d.rolloutPercent, rfl, Or.inr ⟨rfl, rfl⟩⟩

theorem reconcileBuilding_weights {build : Option Build}
    (written : reconcileBuilding build d = some x) :
    x.routeWeight = d.routeWeight ∧ x.rolloutPercent = d.rolloutPercent := by
  unfold reconcileBuilding at written
  split at written
  · contradiction
  · split at written
    · rw [← Option.some.inj written]
      exact ⟨rfl, rfl⟩
    · split at written
      · rw [← Option.some.inj written]
        exact ⟨rfl, rfl⟩
      · contradiction

structure Holds (x row : Deployment) : Prop where
  routeWeight : row.routeWeight = x.withWeights.routeWeight
  rolloutPercent : row.rolloutPercent = x.withWeights.rolloutPercent
  rollbackTo : row.rollbackTo = x.rollbackTo
  buildStatus : row.buildStatus = x.buildStatus

theorem find_storeDeployment_holds (db : ProjectDb) (x : Deployment) :
    ∃ row, (storeDeployment db x).deployments.find x.id = some row ∧ Holds x row := by
  have ⟨_, _, same⟩ := withWeights_eq x
  refine ⟨_, find_storeDeployment_self _ x, ?_⟩
  cases db.deployments.find x.id with
  | none | some => exact ⟨rfl, rfl, by rw [same]; rfl, by rw [same]; rfl⟩

theorem id_reconcile {reads : Reads} (written : reconcile reads d = some x) : x.id = d.id :=
  (reconcile_image written).1

end Single

structure Percentages (d : Deployment) : Prop where
  route : 0 ≤ d.routeWeight ∧ d.routeWeight ≤ 100
  rollout : 0 ≤ d.rolloutPercent ∧ d.rolloutPercent ≤ 100

theorem Percentages.congr {d x : Deployment} (percentages : Percentages d)
    (route : x.routeWeight = d.routeWeight) (rollout : x.rolloutPercent = d.rolloutPercent) :
    Percentages x where
  route := by
    rw [route]
    exact percentages.route
  rollout := by
    rw [rollout]
    exact percentages.rollout

def Bounded : Prop := ∀ row ∈ db.deployments.rows, Percentages row

section Bounds

variable {db : ProjectDb} {pass : Pass} {d x : Deployment}

theorem Percentages.withWeights (percentages : Percentages d) : Percentages d.withWeights := by
  have ⟨⟨_, _⟩, ⟨_, _⟩⟩ := percentages
  rw [withWeights_weights]
  constructor
  · show 0 ≤ (if d.routeWeight = 0 then d.rolloutPercent else d.routeWeight) ∧
      (if d.routeWeight = 0 then d.rolloutPercent else d.routeWeight) ≤ 100
    split
    · omega
    · omega
  · show 0 ≤ (if d.rolloutPercent = 0 then d.routeWeight else d.rolloutPercent) ∧
      (if d.rolloutPercent = 0 then d.routeWeight else d.rolloutPercent) ≤ 100
    split
    · omega
    · omega

theorem Percentages.readBack (percentages : Percentages d) : Percentages d.readBack := by
  unfold Deployment.readBack
  split
  · exact ⟨percentages.rollout, percentages.rollout⟩
  · exact percentages

theorem Bounded.listed (bounded : Bounded db) {fault : RowsFault} {projectID : String}
    (member : d ∈ listDeployments db fault projectID) : Percentages d := by
  have ⟨row, stored, same⟩ := exists_of_listDeployments member
  rw [same]
  exact (bounded row stored).readBack

theorem Bounded.storeDeployment (bounded : Bounded db) (percentages : Percentages d) :
    Bounded (storeDeployment db d) := by
  intro row member
  have found := (Table.find_eq_some _ _ _).mpr ⟨member, rfl⟩
  by_cases same : row.id = d.id
  · have ⟨new, stored, holds⟩ := find_storeDeployment_holds db d
    rw [same, stored] at found
    rw [← Option.some.inj found]
    exact percentages.withWeights.congr holds.routeWeight holds.rolloutPercent
  · rw [find_storeDeployment_of_ne _ d same] at found
    exact bounded row ((Table.find_eq_some _ _ _).mp found).1

theorem Percentages.reconcile (percentages : Percentages d) (bounded : Bounded db)
    (written : reconcile (pass.reads db d) d = some x) : Percentages x := by
  unfold Rollouts.reconcile at written
  split at written
  · rw [← Option.some.inj written]
    unfold reconcileRollback
    split
    · exact ⟨percentages.route, percentages.rollout⟩
    · next target found =>
      have read := bounded.listed (mem_of_getDeployment found)
      exact ⟨read.route, percentages.rollout⟩
  · cases stage : phase d with
    | building =>
      rw [stage] at written
      have ⟨route, rollout⟩ := reconcileBuilding_weights written
      exact percentages.congr route rollout
    | rolling =>
      rw [stage] at written
      have ⟨_, rollout, same, either⟩ := reconcileRolling_weights db pass d
      have ⟨low, high, _⟩ := rolledWeight_range pass d
      rw [← Option.some.inj written, same]
      refine ⟨⟨low, high⟩, ?_⟩
      rcases either with new | ⟨old, _⟩
      · rw [new]
        exact ⟨low, high⟩
      · rw [old]
        exact percentages.rollout
    | promoting =>
      rw [stage] at written
      have full : (0 : Int) ≤ 100 ∧ (100 : Int) ≤ 100 := by decide
      rw [← Option.some.inj written]
      exact ⟨full, full⟩
    | failed =>
      rw [stage] at written
      rw [← Option.some.inj written]
      exact ⟨percentages.route, percentages.rollout⟩
    | ready =>
      rw [stage] at written
      contradiction

theorem Bounded.handle (bounded : Bounded db) (percentages : Percentages d) :
    Bounded (pass.handle db d) := by
  unfold Pass.handle
  split
  · exact bounded
  · next x written =>
    split
    · exact bounded.storeDeployment (percentages.reconcile bounded written)
    · exact bounded

theorem Bounded.runPass (bounded : Bounded db) (pass : Pass) : Bounded (runPass db pass) := by
  have percentages : ∀ d ∈ pass.listed db, Percentages d := by
    intro d member
    have ⟨projectID, _, listed⟩ := List.mem_flatMap.mp member
    exact bounded.listed listed
  unfold Rollouts.runPass
  generalize pass.listed db = deployments at percentages
  induction deployments generalizing db with
  | nil => exact bounded
  | cons d rest ih =>
    exact ih (bounded.handle (percentages d List.mem_cons_self))
      fun other member => percentages other (List.mem_cons_of_mem _ member)

end Bounds

section Passes

variable {db : ProjectDb} {pass : Pass} {d row : Deployment} {x : Deployment}

theorem handle_createDeployment (fault : Option String)
    (written : reconcile (pass.reads db d) d = some x)
    (outcome : (pass.sight d.id).accepted = (createDeploymentError db fault x).isNone) :
    pass.handle db d = createDeployment db fault x := by
  unfold Pass.handle
  rw [written]
  simp only [outcome]
  cases result : createDeploymentError db fault x with
  | some err =>
    rw [createDeployment_refused result]
    rfl
  | none =>
    rw [createDeployment_accepted result]
    rfl

theorem handle_written (written : reconcile (pass.reads db d) d = some x)
    (accepted : (pass.sight d.id).accepted = true) : pass.handle db d = storeDeployment db x := by
  unfold Pass.handle
  rw [written]
  exact if_pos accepted

variable {id : String}

theorem find_handle_of_ne (db : ProjectDb) (pass : Pass) (other : id ≠ d.id) :
    (pass.handle db d).deployments.find id = db.deployments.find id := by
  unfold Pass.handle
  split
  · rfl
  · next x written =>
    split
    · rw [← id_reconcile written] at other
      exact find_storeDeployment_of_ne _ x other
    · rfl

theorem find_foldl_of_ne (pass : Pass) {deployments : List Deployment}
    (others : ∀ d ∈ deployments, id ≠ d.id) (db : ProjectDb) :
    (deployments.foldl pass.handle db).deployments.find id = db.deployments.find id := by
  induction deployments generalizing db with
  | nil => rfl
  | cons d rest ih =>
    rw [List.foldl_cons, ih fun other member => others other (List.mem_cons_of_mem _ member)]
    exact find_handle_of_ne _ _ (others d List.mem_cons_self)

theorem find_runPass_of_ne (others : ∀ d ∈ pass.listed db, id ≠ d.id) :
    (runPass db pass).deployments.find id = db.deployments.find id :=
  find_foldl_of_ne pass others db

variable (member : d ∈ pass.listed db)

include member

theorem exists_of_listed : ∃ row, db.deployments.find d.id = some row ∧ d = row.readBack := by
  have ⟨projectID, _, listed⟩ := List.mem_flatMap.mp member
  have ⟨row, found, _, same⟩ := owner_of_listed listed
  refine ⟨row, ?_, same⟩
  rw [same, id_readBack]
  exact found

omit member in
theorem nodup_ids_listed (pass : Pass) (db : ProjectDb) :
    ((pass.listed db).map Deployment.id).Nodup := by
  unfold Pass.listed
  rw [List.map_flatMap, List.nodup_flatMap]
  refine ⟨fun projectID _ => nodup_listed _ _ _, ?_⟩
  refine pass.once.imp ?_
  intro first second apart id left right
  have ⟨x, inFirst, idX⟩ := List.mem_map.mp left
  have ⟨y, inSecond, idY⟩ := List.mem_map.mp right
  have different : first ≠ second := by
    rcases apart with different | none
    · exact different
    · rw [none] at inFirst
      exact nomatch inFirst
  have ⟨rowX, foundX, ownerX, sameX⟩ := owner_of_listed inFirst
  have ⟨rowY, foundY, ownerY, sameY⟩ := owner_of_listed inSecond
  rw [sameX, id_readBack] at idX
  rw [sameY, id_readBack] at idY
  rw [idX] at foundX
  rw [idY, foundX] at foundY
  have owners : rowX.projectID = rowY.projectID := congrArg _ (Option.some.inj foundY)
  rw [ownerX, ownerY] at owners
  exact different owners

theorem find_runPass_listed :
    ∃ middle, middle.deployments.find d.id = db.deployments.find d.id ∧
      (runPass db pass).deployments.find d.id = (pass.handle middle d).deployments.find d.id := by
  have ⟨before, after, split⟩ := List.append_of_mem member
  have ids := nodup_ids_listed pass db
  rw [split, List.map_append, List.map_cons, List.nodup_middle, List.nodup_cons] at ids
  have apart := ids.1
  rw [List.mem_append, not_or] at apart
  have earlier : ∀ other ∈ before, d.id ≠ other.id := by
    intro other there same
    exact apart.1 (List.mem_map.mpr ⟨other, there, same.symm⟩)
  have later : ∀ other ∈ after, d.id ≠ other.id := by
    intro other there same
    exact apart.2 (List.mem_map.mpr ⟨other, there, same.symm⟩)
  refine ⟨before.foldl pass.handle db, find_foldl_of_ne _ earlier db, ?_⟩
  unfold runPass
  rw [split, List.foldl_append, List.foldl_cons]
  exact find_foldl_of_ne pass later _

omit member in
theorem reconcile_rolling (reads : Reads) (request : d.rollbackTo = "")
    (rolling : phase d = .rolling) : reconcile reads d = some (reconcileRolling reads d) := by
  unfold reconcile
  rw [if_neg (not_not.mpr request), rolling]

omit member in
theorem weight_of_rolling (rolling : phase d = .rolling) :
    0 < d.routeWeight ∧ d.routeWeight < 100 := by
  unfold phase at rolling
  split at rolling
  · contradiction
  · split at rolling
    · contradiction
    · split at rolling
      · split at rolling
        · next weight => exact weight
        · split at rolling
          · contradiction
          · contradiction
      · contradiction

theorem find_runPass_written (written : ∀ middle, reconcile (pass.reads middle d) d = some x)
    (accepted : (pass.sight d.id).accepted = true) :
    ∃ row, (runPass db pass).deployments.find d.id = some row ∧ Holds x row := by
  have ⟨middle, _, found⟩ := find_runPass_listed member
  have ⟨row, stored, holds⟩ := find_storeDeployment_holds middle x
  rw [handle_written (written middle) accepted] at found
  rw [id_reconcile (written middle)] at stored
  exact ⟨row, found.trans stored, holds⟩

theorem find_runPass_idle (idle : ∀ middle, reconcile (pass.reads middle d) d = none) :
    (runPass db pass).deployments.find d.id = db.deployments.find d.id := by
  have ⟨middle, kept, found⟩ := find_runPass_listed member
  have same : pass.handle middle d = middle := by
    unfold Pass.handle
    rw [idle middle]
  rw [found, same]
  exact kept

theorem find_runPass_rolling (request : d.rollbackTo = "")
    (rolling : phase d = .rolling) (accepted : (pass.sight d.id).accepted = true) :
    ∃ row, (runPass db pass).deployments.find d.id = some row ∧
      row.routeWeight = rolledWeight pass d ∧ row.rollbackTo = "" ∧
      row.buildStatus = d.buildStatus ∧ (rolledWeight pass d = 0 → row.rolloutPercent = 0) := by
  have ⟨vmIDs, rollout, written, either⟩ := reconcileRolling_weights db pass d
  have ⟨positive, _⟩ := weight_of_rolling rolling
  have zero : rolledWeight pass d = 0 → rollout = 0 := by
    intro none
    rcases either with new | ⟨_, unchanged⟩
    · rw [new, none]
    · omega
  -- The reads of a rolling deployment do not depend on what the pass has written before.
  have made : ∀ middle, reconcile (pass.reads middle d) d =
      some (reconcileRolling (pass.reads db d) d) :=
    fun middle => reconcile_rolling (pass.reads middle d) request rolling
  have ⟨row, found, holds⟩ := find_runPass_written member made accepted
  rw [written] at holds
  have ⟨route, percent, rollbackTo, buildStatus⟩ := holds
  rw [withWeights_weights] at route percent
  refine ⟨row, found, ?_, rollbackTo.trans request, buildStatus, ?_⟩
  · rw [route]
    show (if rolledWeight pass d = 0 then rollout else rolledWeight pass d) = rolledWeight pass d
    split
    · next none => rw [none, zero none]
    · rfl
  · intro none
    rw [percent]
    rw [if_pos (zero none), none]

end Passes

/-- Through every sequence of passes the weights stay percentages, and a pass leaves a rolling
deployment the percentage of its desired replicas that run. -/
theorem weights_bounded (db : ProjectDb) (bounded : Bounded db) (passes : List Pass) :
    Bounded (run runPass db passes) ∧
    ∀ pass, ∀ d ∈ pass.listed (run runPass db passes),
      d.rollbackTo = "" → phase d = .rolling → (pass.sight d.id).accepted = true →
      ∃ row, (runPass (run runPass db passes) pass).deployments.find d.id = some row ∧
        1 ≤ pass.desired d ∧
        (pass.running d ≥ pass.desired d → row.routeWeight = 100) ∧
        (pass.running d < pass.desired d →
          row.routeWeight = 100 * pass.running d / pass.desired d ∧ row.routeWeight < 100) := by
  constructor
  · exact run_preserved _ _ (fun _ pass known => known.runPass pass) db passes bounded
  · intro pass d member request rolling accepted
    have ⟨row, found, weight, _⟩ := find_runPass_rolling member request rolling accepted
    have ⟨_, _, below, _⟩ := rolledWeight_range pass d
    refine ⟨row, found, one_le_desired _ d, ?_, ?_⟩
    · intro all
      rw [weight, rolledWeight, if_pos all]
    · intro few
      refine ⟨?_, ?_⟩
      · rw [weight, rolledWeight, if_neg (by omega), Int.mul_comm]
      · rw [weight]
        exact below few

def shopRollout (weight : Int) (vmIDs : List String) : Deployment :=
  { shopRelease "alpine" with
    buildStatus := "completed", rolloutPercent := weight, routeWeight := weight, vmIDs := vmIDs }

def shopRolling : ProjectDb :=
  { shopTables with deployments := Table.single Deployment.id (shopRollout 10 []) }

def shopReplica (id : String) : VM :=
  ⟨id, id, "shop", "web", .running, .unknown, "", 0, 1, 128, [], GoMap.nil, "", "release", "v1",
    "preview", "alpine", "", "", ""⟩

def shopPass (ids : List String) : Pass where
  projects := ["shop"]
  once := List.pairwise_singleton _ _
  listing := fun _ => .clean
  sight := fun _ =>
    { target := .clean
      build := none
      project := some
        ⟨"shop", "", "shop", "", "", "", [], "", 2, "", none, none, [], false, 0, ""⟩
      counted := ids.map shopReplica
      observed := ids.map shopReplica
      accepted := true }

theorem weights_bounded_half :
    Bounded (run runPass shopRolling [shopPass ["a"]]) ∧
      ∃ row, (runPass (run runPass shopRolling [shopPass ["a"]]) (shopPass ["a"])).deployments.find
        "release" = some row ∧ row.routeWeight = 50 := by
  have start : Bounded shopRolling := by
    intro row member
    rw [List.mem_singleton.mp member]
    exact ⟨by decide, by decide⟩
  have ⟨bounded, handled⟩ := weights_bounded _ start [shopPass ["a"]]
  have listed : shopRollout 50 ["a"] ∈
      (shopPass ["a"]).listed (run runPass shopRolling [shopPass ["a"]]) := by decide
  have few : (shopPass ["a"]).running (shopRollout 50 ["a"]) <
      (shopPass ["a"]).desired (shopRollout 50 ["a"]) := by decide
  have ⟨row, found, _, _, partly⟩ := handled _ _ listed (by decide) (by decide) (by decide)
  exact ⟨bounded, row, found, (partly few).1⟩

end Porter.Controller.Rollouts
