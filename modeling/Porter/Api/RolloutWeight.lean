import Porter.Api.Deployments
import Porter.Store.Weights

/-!
# The weight a rollout request sets

`handleSetDeploymentRollout` sets `RolloutPercent` and writes the deployment back as it was read,
with its `RouteWeight`.
-/
namespace Porter.Api.Projects

open Gateway Sql Store

theorem updateDeployment_ok {run : ProjectRun} {s : Session} {id deployID : String}
    {change : Deployment → Except (Response DeploymentReply) Deployment}
    {reply : Deployment → DeploymentReply} {body : DeploymentReply}
    (refuses : ∀ d refusal, change d = .error refusal → refusal ≠ .json statusOK body)
    (ok : (updateDeployment run s id deployID change reply).2 = .json statusOK body) :
    ∃ doc d x, getProject s.db run.getFails id = some doc ∧
      getDeployment s.db (run.deploymentRows 0) doc.id deployID = some d ∧ change d = .ok x ∧
      createDeploymentError s.db (run.write s.writes) x = none ∧
      (updateDeployment run s id deployID change reply).1.db =
        Store.createDeployment s.db (run.write s.writes) x := by
  unfold updateDeployment at ok ⊢
  cases project : getProject s.db run.getFails id with
  | none =>
    rw [project] at ok
    contradiction
  | some doc =>
    simp only [project] at ok ⊢
    cases found : getDeployment s.db (run.deploymentRows 0) doc.id deployID with
    | none =>
      rw [found] at ok
      contradiction
    | some d =>
      simp only [found] at ok ⊢
      cases changed : change d with
      | error refusal =>
        rw [changed] at ok
        exact absurd ok (refuses d refusal changed)
      | ok x =>
        simp only [changed] at ok ⊢
        cases written : createDeploymentError s.db (run.write s.writes) x with
        | some err =>
          rw [written] at ok
          contradiction
        | none => exact ⟨doc, d, x, rfl, found, changed, written, rfl⟩

theorem weightOf_withWeights_iff (d : Deployment) (base : String) {percent : Int}
    (positive : 0 ≤ percent) :
    weightOf { ({ d with rolloutPercent := percent } : Deployment).withWeights with
        guestBase := base } = percent ↔
      d.routeWeight = percent ∨ d.routeWeight = 0 ∨ (d.routeWeight < 0 ∧ percent ≠ 0) := by
  rw [withWeights_weights]
  unfold weightOf
  simp only
  split_ifs <;> omega

theorem getDeployment_written {db : ProjectDb} {fault : Option String} {rows : RowsFault}
    {projectID id : String} {d x : Deployment}
    (found : getDeployment db rows projectID id = some d)
    (accepted : createDeploymentError db fault x = none) (project : x.projectID = d.projectID)
    (same : x.id = d.id) :
    getDeployment (Store.createDeployment db fault x) .clean projectID id =
      some { x.withWeights with guestBase := keptBase db x } := by
  have ⟨row, stored, owner, read⟩ := owner_of_listed (mem_of_getDeployment found)
  have own : d.id = id := by
    unfold getDeployment at found
    simpa using List.find?_some found
  rw [read] at project same own
  rw [projectID_readBack, owner] at project
  rw [id_readBack] at same own
  rw [← project, ← own, ← same]
  apply (getDeployment_createDeployment accepted _).mpr
  refine ⟨?_, rfl⟩
  intro other there
  rw [same, stored] at there
  rw [← Option.some.inj there, owner, project]

/-- After a percentage was set with success, the gateway uses it exactly if the route weight that
was read is the percentage, or zero, or negative and the percentage is not zero. -/
theorem weightOf_setRollout_iff (run : ProjectRun) (s : Session) (id deployID : String)
    (percent : Int) {reply : DeploymentReply}
    (ok : (handleSetDeploymentRollout run s id deployID (.ok percent)).2 =
      .json statusOK reply) :
    ∃ doc d x, getProject s.db run.getFails id = some doc ∧
      getDeployment s.db (run.deploymentRows 0) doc.id deployID = some d ∧
      getDeployment (handleSetDeploymentRollout run s id deployID (.ok percent)).1.db .clean
        doc.id deployID = some x ∧
      (weightOf x = percent ↔
        d.routeWeight = percent ∨ d.routeWeight = 0 ∨ (d.routeWeight < 0 ∧ percent ≠ 0)) := by
  obtain ⟨doc, d, x, project, found, changed, accepted, written⟩ :=
    updateDeployment_ok (by
      intro d refusal refused
      simp only at refused
      split at refused
      · rw [← Except.error.inj refused]
        exact nofun
      · contradiction) ok
  simp only at changed
  split at changed
  · contradiction
  · next inside =>
    have positive : 0 ≤ percent := by
      simp only [Bool.or_eq_true, decide_eq_true_eq, not_or] at inside
      omega
    rw [← Except.ok.inj changed] at accepted written
    have read := getDeployment_written found accepted rfl rfl
    rw [← written] at read
    exact ⟨doc, d, _, project, found, read, weightOf_withWeights_iff d _ positive⟩

def shopSession (weight : Int) : Session :=
  .start (Store.createDeployment shopTables none
    { shopRelease "alpine" with routeWeight := weight, rolloutPercent := weight }) []

def setTenth (weight : Int) : Session × Response DeploymentReply :=
  handleSetDeploymentRollout (.plain "" "") (shopSession weight) "shop" "release" (.ok 10)

theorem weightOf_setRollout_zero :
    ∃ doc x, getDeployment (setTenth 0).1.db .clean doc "release" = some x ∧ weightOf x = 10 := by
  obtain ⟨doc, d, x, project, found, read, weight⟩ :=
    weightOf_setRollout_iff (.plain "" "") (shopSession 0) "shop" "release" 10 rfl
  refine ⟨doc.id, x, read, weight.mpr (Or.inr (Or.inl ?_))⟩
  obtain rfl := Option.some.inj project
  obtain rfl := Option.some.inj found
  rfl

theorem weightOf_setRollout_full :
    (setTenth 100).2 = .json statusOK (.rollout "release" 10) ∧
      (getDeployment (setTenth 100).1.db .clean "shop" "release").map weightOf = some 100 :=
  ⟨rfl, rfl⟩

end Porter.Api.Projects
