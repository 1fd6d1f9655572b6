import Porter.Api.Boots
import Porter.Store.Deployments

/-!
# What requests write to deployments

Booting replicas into the pool of a deployment writes it again, with a longer pool and the weights
`CreateDeployment` fills in; booting into that of the project writes none.
-/
namespace Porter.Api.Projects

open Store Go Sql

def SameVersion (d x : Deployment) : Prop :=
  ∃ ids route rollout,
    x = { d with vmIDs := ids, routeWeight := route, rolloutPercent := rollout }

variable (d : Deployment)

theorem SameVersion.refl : SameVersion d d :=
  ⟨d.vmIDs, d.routeWeight, d.rolloutPercent, rfl⟩

theorem SameVersion.trans {first second third : Deployment} (left : SameVersion first second)
    (right : SameVersion second third) : SameVersion first third := by
  have ⟨_, _, _, here⟩ := left
  have ⟨ids, route, rollout, there⟩ := right
  rw [here] at there
  exact ⟨ids, route, rollout, there⟩

theorem sameVersion_withWeights : SameVersion d d.withWeights := by
  have ⟨route, rollout, same⟩ := withWeights_eq d
  exact ⟨d.vmIDs, route, rollout, same⟩

theorem sameVersion_readBack : SameVersion d d.readBack := by
  have ⟨route, same⟩ := readBack_eq d
  exact ⟨d.vmIDs, route, d.rolloutPercent, same⟩

theorem SameVersion.id {d x : Deployment} (same : SameVersion d x) : x.id = d.id := by
  have ⟨_, _, _, eq⟩ := same
  rw [eq]

theorem SameVersion.imageDigest {d x : Deployment} (same : SameVersion d x) :
    x.imageDigest = d.imageDigest := by
  have ⟨_, _, _, eq⟩ := same
  rw [eq]

theorem SameVersion.fits {db : ProjectDb} {d x : Deployment} (same : SameVersion d x)
    (fits : Fits db d) : Fits db x := by
  have ⟨_, _, _, eq⟩ := same
  rw [eq]
  exact { fits with }

def BootWrites (boot : Boot) (x : Deployment) : Prop :=
  ∃ d, boot.deployment = some d ∧ SameVersion d x

def Deployment.joined (d : Deployment) (vmID : String) : Deployment :=
  { d with vmIDs := d.vmIDs ++ [vmID] }

theorem sameVersion_joined (vmID : String) : SameVersion d (Deployment.joined d vmID) :=
  ⟨_, d.routeWeight, d.rolloutPercent, rfl⟩

variable (server : Server) (run : ProjectRun) (boot : Boot) (req : CreateProjectReq Ref) (idx : Nat)

theorem bootReplica_writes :
    Statements (fun x => ∃ d, boot.deployment = some d ∧ x = Deployment.joined d (run.vmID idx))
      boot.session.db (bootReplica server run boot req idx).session.db := by
  rw [bootReplica_eq]
  have stored : ∀ vm, Statement
      (fun x => ∃ d, boot.deployment = some d ∧ x = Deployment.joined d (run.vmID idx))
      boot.session.db ((injectSecrets server run boot req.env idx).1.putVM run vm).db := by
    intro vm
    have same := @db_injectSecrets run server boot req.env idx
    unfold Session.putVM
    rw [same]
    exact .putVM _ _ vm
  cases bootError server (preparedVM server run boot req idx) with
  | some error => exact .single (stored _)
  | none =>
    simp only [preparedVM_id]
    unfold joinPool
    cases shared : boot.deployment with
    | none =>
      rw [shared] at stored
      exact .tail (.single (stored _)) (.putProject _ _ _)
    | some d =>
      rw [shared] at stored
      exact .tail (.tail (.single (stored _)) (.createDeployment _ _ _ ⟨d, rfl, rfl⟩))
        (.putProject _ _ _)

theorem bootReplica_deployment :
    (bootReplica server run boot req idx).deployment = boot.deployment ∨
      ∃ d, boot.deployment = some d ∧ (bootReplica server run boot req idx).deployment =
        some (Deployment.joined d (run.vmID idx)).withWeights := by
  rw [bootReplica_eq]
  cases bootError server (preparedVM server run boot req idx) with
  | some error => exact Or.inl rfl
  | none =>
    simp only [preparedVM_id]
    unfold joinPool
    cases shared : boot.deployment with
    | none => exact Or.inl rfl
    | some d => exact Or.inr ⟨d, rfl, rfl⟩

theorem bootReplica_statements :
    Statements (BootWrites boot) boot.session.db (bootReplica server run boot req idx).session.db ∧
      ∀ x, BootWrites (bootReplica server run boot req idx) x → BootWrites boot x := by
  constructor
  · refine (bootReplica_writes _ _ _ _ _).mono ?_
    rintro x ⟨d, shared, rfl⟩
    exact ⟨d, shared, sameVersion_joined d _⟩
  · rintro x ⟨next, given, same⟩
    rcases bootReplica_deployment _ _ _ _ _ with kept | ⟨d, shared, joined⟩
    · exact ⟨next, kept ▸ given, same⟩
    · rw [joined] at given
      cases given
      exact ⟨d, shared, ((sameVersion_joined d _).trans (sameVersion_withWeights _)).trans same⟩

theorem bootReplicas_statements (req : Boot → CreateProjectReq Ref) (boot : Boot)
    (indices : List Nat) :
    Statements (BootWrites boot) boot.session.db
        (bootReplicas server run req boot indices).session.db ∧
      ∀ x, BootWrites (bootReplicas server run req boot indices) x → BootWrites boot x := by
  induction indices generalizing boot with
  | nil => exact ⟨.refl, fun x written => written⟩
  | cons idx rest recurse =>
    have first := bootReplica_statements server run boot (req boot) idx
    have later := recurse (bootReplica server run boot (req boot) idx)
    exact ⟨first.1.trans (later.1.mono first.2), fun x written => first.2 x (later.2 x written)⟩

theorem bootReplicas_version (req : Boot → CreateProjectReq Ref) (boot : Boot)
    (indices : List Nat) (d : Deployment) (shared : boot.deployment = some d) :
    ∃ x, (bootReplicas server run req boot indices).deployment = some x ∧ SameVersion d x := by
  have kept := (bootReplicas_keeps server run req boot indices).2
  rw [shared] at kept
  have ⟨x, booted⟩ := Option.isSome_iff_exists.mp kept
  have ⟨first, given, same⟩ := (bootReplicas_statements server run req boot indices).2 x
    ⟨x, booted, .refl x⟩
  rw [shared] at given
  cases given
  exact ⟨x, booted, same⟩

theorem bootPromoted_spec (s : Session) (proj : Project Ref) (d : Deployment) :
    Statements (SameVersion d) s.db (bootPromoted server run s proj d).session.db ∧
      (∃ x, (bootPromoted server run s proj d).deployment = some x ∧ SameVersion d x) ∧
      (bootPromoted server run s proj d).proj.id = proj.id := by
  unfold bootPromoted
  generalize (if d.vmIDs.isEmpty then List.range proj.replicasDesired.toNat else []) = indices
  generalize replicaReq (proj.name ++ "-" ++ d.versionLabel) proj.image proj.replicasDesired
    proj.env (projPorts s.db proj) = req
  have made := bootReplicas_statements server run (fun _ => req) ⟨s, proj, some d⟩ indices
  have ⟨⟨ids, kept⟩, _⟩ := bootReplicas_keeps server run (fun _ => req) ⟨s, proj, some d⟩ indices
  constructor
  · apply made.1.mono
    intro x ⟨first, shared, same⟩
    cases shared
    exact same
  · exact ⟨bootReplicas_version server run _ ⟨s, proj, some d⟩ indices d rfl, by rw [kept]⟩

end Porter.Api.Projects
