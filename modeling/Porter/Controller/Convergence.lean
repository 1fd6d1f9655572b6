import Porter.Controller.Weights

/-!
# Convergence of a rollout

An endless sequence of passes, between which everything but the row of the deployment may change.
-/
namespace Porter.Controller.Rollouts

open Run Sql Store

def Rolling (row : Deployment) : Prop := row.rollbackTo = "" ∧ phase row.readBack = .rolling

structure Settled (weight : Int) (row : Deployment) : Prop where
  rollbackTo : row.rollbackTo = ""
  buildStatus : row.buildStatus ∈ ["completed", "success"]
  routeWeight : row.routeWeight = weight
  rolloutPercent : weight = 0 → row.rolloutPercent = 0

section Phases

variable {row : Deployment} {weight : Int}

theorem phase_of_built (built : row.buildStatus ∈ ["completed", "success"]) :
    phase row =
      if row.routeWeight > 0 ∧ row.routeWeight < 100 then .rolling
      else if row.isProduction = true ∧ row.routeWeight = 100 then .promoting
      else .ready := by
  unfold phase
  have early : row.buildStatus ∉ ["", "pending", "building"] := by
    intro listed
    rcases List.mem_pair.mp built with done | done
    · rw [done] at listed
      exact absurd listed (by decide)
    · rw [done] at listed
      exact absurd listed (by decide)
  have healthy : row.buildStatus ≠ "failed" := by
    intro failed
    rw [failed] at built
    exact absurd built (by decide)
  rw [if_neg early, if_neg healthy, if_pos built]

theorem built_of_rolling (rolling : phase row = .rolling) :
    row.buildStatus ∈ ["completed", "success"] := by
  by_contra unbuilt
  unfold phase at rolling
  rw [if_neg unbuilt] at rolling
  split at rolling
  · contradiction
  · split at rolling
    · contradiction
    · contradiction

theorem Settled.readBack (settled : Settled weight row) : Settled weight row.readBack := by
  have ⟨rollbackTo, buildStatus, routeWeight, rolloutPercent⟩ := settled
  unfold Deployment.readBack
  split
  · next zero =>
    have none : weight = 0 := routeWeight.symm.trans zero
    exact ⟨rollbackTo, buildStatus, (rolloutPercent none).trans none.symm, rolloutPercent⟩
  · exact settled

theorem Settled.reconcile (settled : Settled weight row) (ends : weight = 0 ∨ weight = 100) :
    (∀ reads, reconcile reads row = none) ∨
      weight = 100 ∧ ∀ reads, Rollouts.reconcile reads row = some (reconcilePromoting row) := by
  have ⟨request, built, route, _⟩ := settled
  have stage := phase_of_built built
  rw [if_neg (by omega)] at stage
  by_cases full : row.isProduction = true ∧ row.routeWeight = 100
  · rw [if_pos full] at stage
    refine Or.inr ⟨route.symm.trans full.2, fun reads => ?_⟩
    unfold Rollouts.reconcile
    rw [if_neg (not_not.mpr request), stage]
  · rw [if_neg full] at stage
    refine Or.inl fun reads => ?_
    unfold Rollouts.reconcile
    rw [if_neg (not_not.mpr request), stage]

theorem weight_of_rolling_row (rolling : Rolling row) : row.routeWeight ≠ 100 := by
  intro full
  have weighted := weight_of_rolling rolling.2
  unfold Deployment.readBack at weighted
  rw [if_neg (by omega)] at weighted
  omega

end Phases

section OnePass

variable {db : ProjectDb} {pass : Pass} {id : String} {weight : Int}

theorem listed_or_same (db : ProjectDb) (pass : Pass) (id : String) :
    (∃ d ∈ pass.listed db, d.id = id) ∨
      (runPass db pass).deployments.find id = db.deployments.find id := by
  by_cases listed : ∃ d ∈ pass.listed db, d.id = id
  · exact Or.inl listed
  · refine Or.inr (find_runPass_of_ne ?_)
    intro d member same
    exact listed ⟨d, member, same.symm⟩

theorem eq_readBack {d row : Deployment} (member : d ∈ pass.listed db)
    (stored : db.deployments.find d.id = some row) : d = row.readBack := by
  have ⟨other, found, same⟩ := exists_of_listed member
  rw [stored] at found
  rw [Option.some.inj found]
  exact same

theorem settled_runPass (ends : weight = 0 ∨ weight = 100)
    (accepted : (pass.sight id).accepted = true)
    (before : db.deployments.Holds id (Settled weight)) :
    (runPass db pass).deployments.Holds id (Settled weight) := by
  have ⟨row, stored, settled⟩ := before
  rcases listed_or_same db pass id with ⟨d, member, rfl⟩ | same
  · have read : Settled weight d := by
      rw [eq_readBack member stored]
      exact settled.readBack
    rcases read.reconcile ends with idle | ⟨full, promoted⟩
    · exact ⟨row, (find_runPass_idle member fun _ => idle _).trans stored, settled⟩
    · have ⟨new, found, holds⟩ := find_runPass_written member (fun _ => promoted _) accepted
      have ⟨route, _, request, built⟩ := holds
      rw [withWeights_weights] at route
      refine ⟨new, found, request.trans read.rollbackTo, ?_, route.trans full.symm, ?_⟩
      · rw [built]
        exact read.buildStatus
      · intro none
        omega
  · exact ⟨row, same.trans stored, settled⟩

theorem rolling_runPass {d : Deployment} (member : d ∈ pass.listed db)
    (accepted : (pass.sight d.id).accepted = true) (before : db.deployments.Holds d.id Rolling) :
    phase d = .rolling ∧
      (100 * pass.running d < pass.desired d →
        (runPass db pass).deployments.Holds d.id (Settled 0)) ∧
      (pass.running d ≥ pass.desired d → (runPass db pass).deployments.Holds d.id (Settled 100)) ∧
      (pass.desired d ≤ 100 * pass.running d → pass.running d < pass.desired d →
        (runPass db pass).deployments.Holds d.id Rolling) := by
  have ⟨row, stored, request, rolling⟩ := before
  have read := eq_readBack member stored
  rw [← read] at rolling
  have asked : d.rollbackTo = "" := by
    have ⟨_, same⟩ := readBack_eq row
    rw [read, same]
    exact request
  have ⟨new, found, route, request, built, zero⟩ :=
    find_runPass_rolling member asked rolling accepted
  have done : new.buildStatus ∈ ["completed", "success"] := by
    rw [built]
    exact built_of_rolling rolling
  have ⟨low, high, below, empty⟩ := rolledWeight_range pass d
  refine ⟨rolling, ?_, ?_, ?_⟩
  · intro few
    have weightless := empty.mpr few
    exact ⟨new, found, request, done, route.trans weightless, fun _ => zero weightless⟩
  · intro all
    have full : rolledWeight pass d = 100 := if_pos all
    exact ⟨new, found, request, done, route.trans full, nofun⟩
  · intro enough few
    have partly := below few
    have positive : rolledWeight pass d ≠ 0 := by
      intro weightless
      have starved := empty.mp weightless
      omega
    have same : new.readBack = new := if_neg (by omega)
    refine ⟨new, found, request, ?_⟩
    rw [same, phase_of_built done]
    exact if_pos (by omega)

theorem not_rolling_of_listed {d : Deployment} (member : d ∈ pass.listed db)
    (ends : weight = 0 ∨ weight = 100) (before : db.deployments.Holds d.id (Settled weight)) :
    phase d ≠ .rolling := by
  have ⟨row, stored, settled⟩ := before
  intro rolling
  have weighted := weight_of_rolling rolling
  have route := settled.readBack.routeWeight
  rw [← eq_readBack member stored] at route
  omega

end OnePass

/-- A pass over the rolling deployment sees fewer than one in a hundred replicas running. -/
def Starves (id : String) (db : ProjectDb) (pass : Pass) : Prop :=
  ∃ d ∈ pass.listed db, d.id = id ∧ phase d = .rolling ∧
    100 * pass.running d < pass.desired d

/-- Only the controller writes the deployment, with success, and it is listed again and again. -/
structure History (id : String) (states : ℕ → ProjectDb) (passes : ℕ → Pass) : Prop where
  only : ∀ k, (states (k + 1)).deployments.find id =
    (runPass (states k) (passes k)).deployments.find id
  accepted : ∀ k, ((passes k).sight id).accepted = true
  fair : ∀ k, ∃ j ≥ k, ∃ d ∈ (passes j).listed (states j), d.id = id

section Histories

variable {id : String} {states : ℕ → ProjectDb} {passes : ℕ → Pass} {weight : Int}

variable (history : History id states passes)

include history

theorem History.next {property : Deployment → Prop} {k : ℕ}
    (holds : (runPass (states k) (passes k)).deployments.Holds id property) :
    (states (k + 1)).deployments.Holds id property := by
  have ⟨row, found, known⟩ := holds
  exact ⟨row, (history.only k).trans found, known⟩

theorem History.settled (ends : weight = 0 ∨ weight = 100)
    {k later : ℕ} (after : k ≤ later) (settled : (states k).deployments.Holds id (Settled weight)) :
    (states later).deployments.Holds id (Settled weight) := by
  induction after with
  | refl => exact settled
  | @step m _ recurse => exact history.next (settled_runPass ends (history.accepted m) recurse)

theorem History.stage (start : (states 0).deployments.Holds id Rolling) (k : ℕ) :
    (states k).deployments.Holds id Rolling ∨ (states k).deployments.Holds id (Settled 100) ∨
      (states k).deployments.Holds id (Settled 0) ∧ ∃ j, Starves id (states j) (passes j) := by
  induction k with
  | zero => exact Or.inl start
  | succ k recurse =>
    rcases recurse with rolling | full | ⟨empty, starved⟩
    · rcases listed_or_same (states k) (passes k) id with ⟨d, member, rfl⟩ | same
      · have ⟨stage, few, all, partly⟩ := rolling_runPass member (history.accepted k) rolling
        by_cases starved : 100 * (passes k).running d < (passes k).desired d
        · exact Or.inr (Or.inr ⟨history.next (few starved), k, d, member, rfl, stage, starved⟩)
        · by_cases healthy : (passes k).running d ≥ (passes k).desired d
          · exact Or.inr (Or.inl (history.next (all healthy)))
          · exact Or.inl (history.next (partly (by omega) (by omega)))
      · have ⟨row, stored, known⟩ := rolling
        exact Or.inl (history.next ⟨row, same.trans stored, known⟩)
    · exact Or.inr (Or.inl (history.settled (Or.inr rfl) (Nat.le_succ k) full))
    · exact Or.inr (Or.inr ⟨history.settled (Or.inl rfl) (Nat.le_succ k) empty, starved⟩)

theorem History.starved (start : (states 0).deployments.Holds id Rolling) {k : ℕ}
    (starves : Starves id (states k) (passes k)) :
    (states (k + 1)).deployments.Holds id (Settled 0) := by
  obtain ⟨d, member, rfl, rolling, few⟩ := starves
  rcases history.stage start k with under | full | ⟨empty, _⟩
  · have ⟨_, ended, _⟩ := rolling_runPass member (history.accepted k) under
    exact history.next (ended few)
  · exact absurd rolling (not_rolling_of_listed member (Or.inr rfl) full)
  · exact absurd rolling (not_rolling_of_listed member (Or.inl rfl) empty)

theorem History.full (start : (states 0).deployments.Holds id Rolling) {k : ℕ}
    (full : (states k).deployments.Holds id (fun row => row.routeWeight = 100)) :
    (states k).deployments.Holds id (Settled 100) := by
  rcases history.stage start k with rolling | settled | ⟨empty, _⟩
  · have ⟨_, _, known, weight⟩ := rolling.and full
    exact absurd weight (weight_of_rolling_row known)
  · exact settled
  · have ⟨_, _, known, weight⟩ := empty.and full
    have route := known.routeWeight
    omega

omit history

/-- With all replicas running from some pass on, a rolling deployment reaches its full weight
exactly if no pass starves it. -/
theorem converges_iff (history : History id states passes)
    (start : (states 0).deployments.Holds id Rolling) {healthy : ℕ}
    (running : ∀ k ≥ healthy, ∀ d ∈ (passes k).listed (states k), d.id = id →
      (passes k).running d ≥ (passes k).desired d) :
    (∃ k ≥ healthy, (states k).deployments.Holds id (fun row => row.routeWeight = 100)) ↔
      ∀ k, ¬Starves id (states k) (passes k) := by
  constructor
  · rintro ⟨k, _, full⟩ j starves
    have settled := history.full start full
    have empty := history.starved start starves
    -- Both ends are kept, so the row is at both of them from the later of the two passes on.
    have above := history.settled (Or.inr rfl) (Nat.le_max_left k (j + 1)) settled
    have below := history.settled (Or.inl rfl) (Nat.le_max_right k (j + 1)) empty
    have ⟨_, _, top, bottom⟩ := above.and below
    have conflict := top.routeWeight.symm.trans bottom.routeWeight
    omega
  · intro fed
    have ⟨k, later, d, member, same⟩ := history.fair healthy
    rcases history.stage start k with rolling | full | ⟨_, j, starves⟩
    · subst same
      have ⟨_, _, all, _⟩ := rolling_runPass member (history.accepted k) rolling
      have ⟨row, found, settled⟩ := history.next (all (running k later d member rfl))
      exact ⟨k + 1, by omega, row, found, settled.routeWeight⟩
    · have ⟨row, found, settled⟩ := full
      exact ⟨k, later, row, found, settled.routeWeight⟩
    · exact absurd starves (fed j)

end Histories

def shopPasses (first : List String) : ℕ → Pass
  | 0 => shopPass first
  | _ + 1 => shopPass ["a", "b"]

def shopStates (row : Deployment) : ℕ → ProjectDb
  | 0 => shopRolling
  | _ + 1 => { shopTables with deployments := Table.single Deployment.id row }

theorem shop_history {first : List String} {row : Deployment}
    (made : (runPass shopRolling (shopPass first)).deployments.find "release" = some row)
    (kept : (runPass (shopStates row 1) (shopPass ["a", "b"])).deployments.find "release" =
      some row)
    (own : row.id = "release") (listed : row ∈ (shopPass ["a", "b"]).listed (shopStates row 1)) :
    History "release" (shopStates row) (shopPasses first) := by
  have stored : (shopStates row 1).deployments.find "release" = some row :=
    (Table.find_eq_some _ _ _).mpr ⟨List.mem_singleton_self row, own⟩
  constructor
  · intro k
    cases k with
    | zero => exact stored.trans made.symm
    | succ k => exact stored.trans kept.symm
  · intro k
    cases k with
    | zero | succ => rfl
  · intro k
    exact ⟨k + 1, Nat.le_succ k, row, listed, own⟩

theorem shop_rolling : shopRolling.deployments.Holds "release" Rolling :=
  ⟨shopRollout 10 [], by decide, rfl, by decide⟩

theorem shop_running {d : Deployment} (own : d.id = "release") :
    (shopPass ["a", "b"]).running d ≥ (shopPass ["a", "b"]).desired d := by
  unfold Pass.running
  rw [own]
  show (2 : Int) ≥ 2
  exact Int.le_refl 2

theorem converges_healthy :
    ∃ k ≥ 0, (shopStates (shopRollout 100 ["a", "b"]) k).deployments.Holds "release"
      (fun row => row.routeWeight = 100) := by
  have history : History "release" (shopStates (shopRollout 100 ["a", "b"]))
      (shopPasses ["a", "b"]) := shop_history (by decide) (by decide) rfl (by decide)
  have same : ∀ k, shopPasses ["a", "b"] k = shopPass ["a", "b"] := by
    intro k
    cases k with
    | zero | succ => rfl
  refine (converges_iff history shop_rolling ?_).mpr ?_
  · intro k _ d _ own
    rw [same k]
    exact shop_running own
  · rintro k ⟨d, _, own, _, few⟩
    rw [same k] at few
    have all := shop_running own
    have positive := one_le_desired (shopPass ["a", "b"]) d
    omega

theorem stalls_after_outage :
    History "release" (shopStates (shopRollout 0 [])) (shopPasses []) ∧
      (shopStates (shopRollout 0 []) 0).deployments.Holds "release" Rolling ∧
      (∀ k ≥ 1, ∀ d ∈ (shopPasses [] k).listed (shopStates (shopRollout 0 []) k),
        d.id = "release" → (shopPasses [] k).running d ≥ (shopPasses [] k).desired d) ∧
      ∀ k, ¬(shopStates (shopRollout 0 []) k).deployments.Holds "release"
        (fun row => row.routeWeight = 100) := by
  refine ⟨shop_history (by decide) (by decide) rfl (by decide), shop_rolling, ?_, ?_⟩
  · intro k later d _ own
    cases k with
    | zero => contradiction
    | succ k => exact shop_running own
  · rintro k ⟨row, found, full⟩
    have stored := ((Table.find_eq_some _ _ _).mp found).1
    cases k with
    | zero | succ =>
      rw [List.mem_singleton.mp stored] at full
      exact absurd full (by decide)

end Porter.Controller.Rollouts
