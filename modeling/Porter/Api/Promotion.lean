import Porter.Api.DeploymentWrites
import Porter.Api.SecretRuns
import Porter.Gateway.HostRouting

/-!
# Promotion

`handlePromoteDeployment` is meant to leave one deployment in production and to take the traffic
away from the one it replaces.
-/
namespace Porter.Api.Projects

open Store Go Sql Gateway

def Unrouted (d : Deployment) : Prop := ∀ store : GatewayStore, deploymentBackends store d = []

def runningStore : GatewayStore where
  getVM := fun id => some ⟨id, "", .running, .healthy, "", [], "", ""⟩
  listVMs := []
  listDomains := fun _ => []
  listFirewallRules := fun _ => []
  listDeployments := none

theorem unrouted_iff (d : Deployment) :
    Unrouted d ↔ weightOf d ≤ 0 ∨ d.buildStatus = "failed" ∨ d.vmIDs = [] := by
  constructor
  · intro unrouted
    by_contra routed
    have listed := unrouted runningStore
    unfold deploymentBackends at listed
    rw [if_neg routed] at listed
    have some : d.vmIDs ≠ [] := fun empty => routed (Or.inr (Or.inr empty))
    have ⟨id, member⟩ := List.exists_mem_of_ne_nil _ some
    have none := (List.flatMap_eq_nil_iff.mp listed) id member
    have positive := repeatsOf_pos (weightOf d)
    have repeated : List.replicate (repeatsOf (weightOf d))
        (⟨id, "", .running, .healthy, "", [], "", ""⟩ : Gateway.VM) = [] := none
    rw [List.replicate_eq_nil_iff] at repeated
    omega
  · intro silent store
    unfold deploymentBackends
    rw [if_pos silent]

def promoted (target : String) (row : Deployment) : Deployment :=
  (promoteOne target row.readBack).withWeights.overwrite row

variable {target : String} {d : Deployment}

theorem promoteOne_of_ne (other : d.id ≠ target) :
    promoteOne target d = { d with isProduction := false } := by
  unfold promoteOne
  simp only [other, decide_false, if_false, Bool.false_eq_true]

theorem promoted_of_ne {row : Deployment} (other : row.id ≠ target) :
    promoted target row = { row.readBack.withWeights with isProduction := false } := by
  have same : row.readBack.id ≠ target := by rwa [id_readBack]
  unfold promoted Deployment.overwrite
  rw [promoteOne_of_ne same]
  unfold Deployment.readBack Deployment.withWeights
  split <;> simp only <;> split <;> split <;> rfl

theorem weightOf_rewritten (row : Deployment) :
    weightOf row.readBack.withWeights.readBack ≤ 0 ↔ weightOf row.readBack ≤ 0 := by
  unfold weightOf Deployment.withWeights Deployment.readBack
  by_cases route : row.routeWeight = 0
  · by_cases rollout : row.rolloutPercent = 0
    · simp [route, rollout]
    · simp [route, rollout]
  · by_cases rollout : row.rolloutPercent = 0
    · simp only [route, rollout, if_false, if_true, ne_eq, not_true_eq_false, decide_false,
        Bool.and_false, Bool.false_eq_true]
      split <;> omega
    · simp [route, rollout]

theorem unrouted_promoted {row : Deployment} (other : row.id ≠ target) :
    Unrouted (promoted target row).readBack ↔ Unrouted row.readBack := by
  have weight : weightOf (promoted target row).readBack =
      weightOf row.readBack.withWeights.readBack := by
    rw [promoted_of_ne other]
    unfold Deployment.readBack
    split <;> split <;> rfl
  have ⟨route, rollout, stored⟩ := withWeights_eq row.readBack
  have ⟨second, again⟩ := readBack_eq (promoted target row)
  have status : (promoted target row).readBack.buildStatus = row.readBack.buildStatus := by
    rw [again, promoted_of_ne other, stored]
  have pool : (promoted target row).readBack.vmIDs = row.readBack.vmIDs := by
    rw [again, promoted_of_ne other, stored]
  rw [unrouted_iff, unrouted_iff, weight, weightOf_rewritten, status, pool]

theorem fits_promoteOne {db : ProjectDb} (fits : Fits db d) : Fits db (promoteOne target d) := by
  by_cases same : d.id = target
  · unfold promoteOne
    simp only [same, if_true]
    have named : "production" ≠ "" := by decide
    have admitted : "live" ∈ buildStatuses := by decide
    exact { fits with environment := named, buildStatus := admitted }
  · rw [promoteOne_of_ne same]
    exact { fits with }

theorem id_promoteOne (target : String) (d : Deployment) : (promoteOne target d).id = d.id := by
  unfold promoteOne
  simp only
  split
  · rfl
  · split <;> rfl

variable (run : ProjectRun)

theorem promoteAll_statements (target : String) (s : Session) (ds : List Deployment) :
    Statements (fun x => ∃ d ∈ ds, x = promoteOne target d) s.db
      (promoteAll run target s ds).db := by
  induction ds generalizing s with
  | nil => exact .refl
  | cons d rest recurse =>
    have first : Statement (fun x => ∃ other ∈ d :: rest, x = promoteOne target other) s.db
        (s.createDeployment run (promoteOne target d)).1.db :=
      .createDeployment _ _ _ ⟨d, List.mem_cons_self, rfl⟩
    have wider : ∀ x, (∃ other ∈ rest, x = promoteOne target other) →
        ∃ other ∈ d :: rest, x = promoteOne target other := by
      intro x ⟨other, member, same⟩
      exact ⟨other, List.mem_cons_of_mem d member, same⟩
    exact .head first ((recurse (s.createDeployment run (promoteOne target d)).1).mono wider)

theorem promoteAll_find (target : String) (reaches : ∀ n, run.write n = none)
    (ds : List Deployment) (s : Session) (once : (ds.map Deployment.id).Nodup)
    (fit : ∀ d ∈ ds, Fits s.db d) (id : String) :
    (promoteAll run target s ds).db.deployments.find id =
      match ds.find? (·.id = id) with
      | none => s.db.deployments.find id
      | some d => some (((s.db.deployments.find id).map
          (promoteOne target d).withWeights.overwrite).getD (promoteOne target d).withWeights) := by
  induction ds generalizing s with
  | nil => rfl
  | cons d rest recurse =>
    have fits : Fits s.db (promoteOne target d) := fits_promoteOne (fit d List.mem_cons_self)
    have accepted :
        createDeploymentError s.db (run.write s.writes) (promoteOne target d) = none := by
      rw [reaches]
      exact fits.accepted
    have ⟨fresh, onceRest⟩ := List.nodup_cons.mp once
    have grown := grows_createDeployment s.db (run.write s.writes) (promoteOne target d)
    have later := recurse (s.createDeployment run (promoteOne target d)).1 onceRest
      (fun other member => (fit other (List.mem_cons_of_mem d member)).grows grown)
    have unfolded : promoteAll run target s (d :: rest) =
        promoteAll run target (s.createDeployment run (promoteOne target d)).1 rest := rfl
    rw [unfolded, later]
    by_cases here : d.id = id
    · have absent : rest.find? (fun other => decide (other.id = id)) = none := by
        rw [List.find?_eq_none]
        intro other member same
        have equal : other.id = d.id := (of_decide_eq_true same).trans here.symm
        exact fresh (List.mem_map.mpr ⟨other, member, equal⟩)
      have written := find_createDeployment_self accepted
      rw [id_promoteOne, here] at written
      rw [absent, List.find?_cons_of_pos (by simpa using here)]
      exact written
    · have kept := find_createDeployment_of_ne s.db (run.write s.writes) (promoteOne target d) id
        (by rw [id_promoteOne]; exact fun same => here same.symm)
      rw [List.find?_cons_of_neg (by simpa using here)]
      have same : (s.createDeployment run (promoteOne target d)).1.db.deployments.find id =
          s.db.deployments.find id := kept
      rw [same]

theorem promoteAll_listed (target : String) (reaches : ∀ n, run.write n = none) (s : Session)
    (projectID : String) (given : projectID ≠ "") (sound : Sound s.db) (id : String) :
    (promoteAll run target s (listDeployments s.db .clean projectID)).db.deployments.find id =
      (s.db.deployments.find id).map (fun row =>
        if row.projectID = projectID then promoted target row else row) := by
  have listed : ∀ d ∈ listDeployments s.db .clean projectID, Fits s.db d := by
    intro d member
    have ⟨row, stored, _, same⟩ := (mem_listDeployments_clean s.db projectID given d).mp member
    rw [same]
    exact (sameVersion_readBack row).fits (sound _ row stored)
  rw [promoteAll_find _ _ reaches _ s (nodup_listDeployments s.db projectID) listed id]
  cases found : (listDeployments s.db .clean projectID).find? (·.id = id) with
  | none =>
    cases stored : s.db.deployments.find id with
    | none => rfl
    | some row =>
      have keyed := ((Table.find_eq_some _ _ _).mp stored).2
      have foreign : row.projectID ≠ projectID := by
        intro own
        have member := (mem_listDeployments_clean _ projectID given row.readBack).mpr
          ⟨row, by rw [keyed]; exact stored, own, rfl⟩
        have absent := List.find?_eq_none.mp found row.readBack member
        simp [keyed] at absent
      simp [foreign]
  | some d =>
    have member := List.mem_of_find?_eq_some found
    have keyed : d.id = id := by simpa using List.find?_some found
    have ⟨row, stored, own, same⟩ := (mem_listDeployments_clean s.db projectID given d).mp member
    have rowID : row.id = id := by rw [← keyed, same, id_readBack]
    rw [rowID] at stored
    rw [stored, same]
    simp [own, promoted]

theorem deleteAll_statements (ids : List String) (s : Session) :
    Statements (fun _ => False) s.db (ids.foldl (Session.deleteVM run) s).db := by
  induction ids generalizing s with
  | nil => exact .refl
  | cons id rest recurse =>
    exact .trans (.single (.deleteReplicas _ _ _)) (recurse (s.deleteVM run id))

theorem clear_statements (keepOld : Bool) (ids : List String) (s : Session) (proj : Project Ref) :
    Statements (fun _ => False) s.db
      (Session.put run (if keepOld then s else ids.foldl (Session.deleteVM run) s) proj).db := by
  cases keepOld with
  | true => exact .single (.putProject _ _ _)
  | false => exact .tail (deleteAll_statements run ids s) (.putProject _ _ _)

theorem fits_liveDeployment {db : ProjectDb} {x : Deployment} (fits : Fits db x) :
    Fits db (liveDeployment x) := by
  have named : "production" ≠ "" := by decide
  have admitted : "live" ∈ buildStatuses := by decide
  exact { fits with environment := named, buildStatus := admitted }

theorem isProduction_liveDeployment (x : Deployment) :
    (liveDeployment x).withWeights.isProduction = true := by
  have ⟨route, rollout, weighted⟩ := withWeights_eq (liveDeployment x)
  rw [weighted]
  rfl

/-- The target is in production, and every other deployment as it is written back. -/
structure Promotes (before after : ProjectDb) (id target : String) : Prop where
  live : ∃ live, after.deployments.find target = some live ∧ live.projectID = id ∧
    live.isProduction = true
  others : ∀ other, other ≠ target → after.deployments.find other =
    (before.deployments.find other).map (fun row =>
      if row.projectID = id then promoted target row else row)

theorem promote_find (server : Server) (run : ProjectRun) (s : Session) (proj : Project Ref)
    (keepOld : Bool) (row : Deployment) (given : proj.id ≠ "") (sound : Sound s.db)
    (reaches : ∀ n, run.write n = none) (reads : ∀ n, run.deploymentRows n = .clean)
    (stored : s.db.deployments.find row.id = some row) (own : row.projectID = proj.id) :
    Promotes s.db (promote server run s proj row.readBack keepOld).1.db proj.id row.id := by
  obtain ⟨written, ⟨x, version, same⟩, project⟩ := bootPromoted_spec server run s
    { proj with image := row.readBack.imageDigest } row.readBack
  have target : x.id = row.id := by rw [same.id, id_readBack]
  unfold promote
  simp only
  generalize bootPromoted server run s { proj with image := row.readBack.imageDigest }
    row.readBack = boot at written version project
  rw [version, Option.getD_some, reads, target, project]
  have rewritten := promoteAll_listed run row.id reaches boot.session proj.id given
    (written.sound sound)
  have looped := (promoteAll_statements run row.id boot.session
    (listDeployments boot.session.db .clean proj.id)).grows
  generalize promoteAll run row.id boot.session _ = after at rewritten looped
  -- What follows the loop leaves the deployments as they are.
  generalize cleaned : Session.put run _ _ = last
  have untouched : Statements (fun _ => False) after.db last.db := by
    rw [← cleaned]
    exact clear_statements run keepOld proj.vmIDs after _
  have unchanged : ∀ id, last.db.deployments.find id = after.db.deployments.find id :=
    fun id => untouched.find_of_ne (fun d impossible => impossible.elim)
  have others : ∀ id, id ≠ row.id → boot.session.db.deployments.find id =
      s.db.deployments.find id := by
    intro id other
    apply written.find_of_ne
    intro d allowed
    rw [allowed.id, id_readBack]
    exact other
  obtain ⟨old, kept, owner⟩ := written.projectID stored
  have fits : Fits last.db (liveDeployment x) := by
    have before : Fits s.db x := same.fits ((sameVersion_readBack row).fits (sound _ row stored))
    exact fits_liveDeployment (before.grows ((written.grows.trans looped).trans untouched.grows))
  constructor
  · have accepted : createDeploymentError last.db (run.write last.writes) (liveDeployment x) =
        none := by
      rw [reaches]
      exact fits.accepted
    have mine : old.projectID = proj.id := owner.trans own
    have stays : last.db.deployments.find row.id = some (promoted row.id old) := by
      rw [unchanged, rewritten, kept, Option.map_some, if_pos mine]
    have final := find_createDeployment_self accepted
    have named : (liveDeployment x).id = row.id := target
    rw [named, stays] at final
    exact ⟨_, final, mine, isProduction_liveDeployment x⟩
  · intro id other
    have apart : id ≠ (liveDeployment x).id := by
      change id ≠ x.id
      rwa [target]
    have final := find_createDeployment_of_ne last.db (run.write last.writes) (liveDeployment x) id
      apart
    rw [← others id other, ← rewritten id, ← unchanged id, ← final]
    rfl

structure Exclusive (before after : ProjectDb) (id target : String) : Prop where
  promoted : ∃ d ∈ listDeployments after .clean id, d.id = target
  production : ∀ d ∈ listDeployments after .clean id, d.isProduction = true ↔ d.id = target
  replaced : ∀ old ∈ listDeployments before .clean id, old.isProduction = true →
    old.id ≠ target → ∀ d ∈ listDeployments after .clean id, d.id = old.id → Unrouted d

section Exclusive

variable {before after : ProjectDb} {id target : String}

variable (promotes : Promotes before after id target)

include promotes

theorem Promotes.rewritten {first : Deployment}
    (stored : before.deployments.find first.id = some first) (mine : first.projectID = id)
    (other : first.id ≠ target) :
    after.deployments.find first.id = some (promoted target first) := by
  rw [promotes.others first.id other, stored, Option.map_some, if_pos mine]

theorem Promotes.cleared {later : Deployment}
    (stays : after.deployments.find later.id = some later) (mine : later.projectID = id)
    (other : later.id ≠ target) : later.isProduction = false := by
  rw [promotes.others later.id other] at stays
  have ⟨first, stored, rewritten⟩ := Option.map_eq_some_iff.mp stays
  have firstID := ((Table.find_eq_some _ _ _).mp stored).2
  by_cases ours : first.projectID = id
  · rw [if_pos ours] at rewritten
    rw [← rewritten, promoted_of_ne (by rwa [firstID])]
  · rw [if_neg ours] at rewritten
    rw [rewritten] at ours
    exact absurd mine ours

theorem Promotes.production (given : id ≠ "") (member : d ∈ listDeployments after .clean id) :
    d.isProduction = true ↔ d.id = target := by
  have ⟨live, liveStored, _, liveFlag⟩ := promotes.live
  have ⟨later, stays, mine, dRead⟩ := (mem_listDeployments_clean _ id given d).mp member
  have ⟨route, weighted⟩ := readBack_eq later
  rw [dRead, weighted]
  by_cases chosen : later.id = target
  · have alone : later = live := by
      rw [chosen, liveStored] at stays
      exact (Option.some.inj stays).symm
    rw [alone] at chosen ⊢
    exact ⟨fun _ => chosen, fun _ => liveFlag⟩
  · have cleared := promotes.cleared stays mine chosen
    simp [cleared, chosen]

theorem Promotes.unrouted_iff (given : id ≠ "")
    {old : Deployment} (member : old ∈ listDeployments before .clean id) (other : old.id ≠ target) :
    (∀ d ∈ listDeployments after .clean id, d.id = old.id → Unrouted d) ↔ Unrouted old := by
  have ⟨first, stored, mine, oldRead⟩ := (mem_listDeployments_clean before id given old).mp member
  have firstID : old.id = first.id := by rw [oldRead, id_readBack]
  rw [firstID] at other
  have written := promotes.rewritten stored mine other
  rw [oldRead, ← unrouted_promoted other]
  constructor
  · intro silent
    exact silent (promoted target first).readBack
      ((mem_listDeployments_clean after id given _).mpr
        ⟨promoted target first, written, mine, rfl⟩)
      (by rw [id_readBack, id_readBack]; rfl)
  · intro silent d listed sameID
    have ⟨later, stays, _, dRead⟩ := (mem_listDeployments_clean after id given d).mp listed
    have laterID : later.id = first.id := by
      rw [← id_readBack later, ← dRead, sameID, id_readBack]
    rw [laterID, written] at stays
    rw [dRead, ← Option.some.inj stays]
    exact silent

theorem Promotes.exclusive_iff (given : id ≠ "") :
    Exclusive before after id target ↔
      ∀ old ∈ listDeployments before .clean id, old.isProduction = true → old.id ≠ target →
        Unrouted old := by
  constructor
  · intro exclusive old member production other
    exact (promotes.unrouted_iff given member other).mp
      (exclusive.replaced old member production other)
  · intro silent
    have ⟨live, stored, own, _⟩ := promotes.live
    have liveID := ((Table.find_eq_some _ _ _).mp stored).2
    constructor
    · exact ⟨live.readBack, (mem_listDeployments_clean _ id given _).mpr
        ⟨live, by rw [liveID]; exact stored, own, rfl⟩, by rw [id_readBack, liveID]⟩
    · exact fun d member => promotes.production given member
    · intro old member production other
      exact (promotes.unrouted_iff given member other).mpr (silent old member production other)

end Exclusive

/-- A promotion whose statements all succeed is exclusive exactly when every other deployment in
production got no traffic before it. -/
theorem promotion_exclusive_iff (server : Server) (run : ProjectRun) (s : Session)
    (id target : String) (keepOld : Bool) (sound : Sound s.db)
    (reaches : ∀ n, run.write n = none) (reads : ∀ n, run.deploymentRows n = .clean)
    (ok : (handlePromoteDeployment server run s id target keepOld).2.succeeded = true) :
    Exclusive s.db (handlePromoteDeployment server run s id target keepOld).1.db id target ↔
      ∀ old ∈ listDeployments s.db .clean id, old.isProduction = true → old.id ≠ target →
        Unrouted old := by
  have ⟨doc, d, found, listed, _, same⟩ :=
    (handlePromoteDeployment_cases server run s id target keepOld).resolve_left (by simp [ok])
  have ⟨stored, _, keyed, read⟩ := getProject_eq_some found
  have project : doc.id = id := by
    rw [← read]
    exact keyed
  rw [reads, project] at listed
  have given : id ≠ "" := by
    intro empty
    rw [empty] at listed
    cases listed
  have ⟨row, rowStored, own, readRow⟩ := (mem_listDeployments_clean s.db id given d).mp
    (List.mem_of_find?_eq_some listed)
  have named : row.id = target := by
    have chosen : d.id = target := by simpa using List.find?_some listed
    rw [← chosen, readRow, id_readBack]
  have loaded : (s.load doc).1.db = s.db := db_load s doc
  have projID : (s.load doc).2.id = id := by rw [id_load, project]
  have promotes := promote_find server run (s.load doc).1 (s.load doc).2 keepOld row
    (by rwa [projID]) (by rwa [loaded]) reaches reads (by rwa [loaded]) (by rwa [projID])
  rw [loaded, projID, named] at promotes
  rw [same, readRow]
  exact promotes.exclusive_iff given

variable (production : Bool)

def shopDeployment (id label : String) (production : Bool) (vmID : String) : Deployment where
  id := id
  projectID := shopID
  buildStatus := "live"
  imageDigest := "base://alpine"
  rollbackTo := ""
  gitURL := ""
  gitCommit := ""
  checks := []
  rolloutPercent := 100
  versionLabel := label
  guestBase := "alpine"
  environment := "production"
  isProduction := production
  routeWeight := 100
  vmIDs := [vmID]

def shopReplica (id : String) (index : Int) : Store.VM where
  id := id
  name := "shop"
  projectID := shopID
  serviceName := "web"
  state := .running
  healthStatus := .healthy
  image := "base://alpine"
  replicaIndex := index
  vcpus := 1
  memMiB := 256
  ports := []
  env := Table.empty _
  volumeID := ""
  deploymentID := ""
  deploymentVersion := ""
  deploymentEnv := "production"
  guestBase := "alpine"
  rootfsPath := "/images/rootfs.ext4"
  kernel := "/images/vmlinux"
  error := ""

def shopRow : ProjectRow where
  doc := {
    id := shopID
    orgID := ""
    name := "shop"
    source := "image"
    image := "base://alpine"
    network := "10.42.0.0/24"
    vmIDs := ["vm-1"]
    hostMountPath := ""
    replicasDesired := 1
    restartPolicy := "always"
    healthcheck := none
    env := none
    tags := []
    sshEnabled := false
    replicas := 1
    createdBy := "ana" }
  env := none

def shopDb : ProjectDb where
  projects := Table.single _ shopRow
  secrets := Table.empty _
  replicas := ⟨[shopReplica "vm-1" 0, shopReplica "vm-2" 1], by decide⟩
  deployments := ⟨[shopDeployment "v1" "v1" production "vm-1",
    shopDeployment "v2" "v2" false "vm-2"], by cases production <;> decide⟩
  owned := by simp [Table.empty]

theorem shopDb_sound : Sound (shopDb production) := by
  have stored : (shopDb production).hasProject shopID = true := by cases production <;> decide
  intro id d found
  have member := ((Table.find_eq_some _ _ _).mp found).1
  have fits : ∀ first label flag vmID,
      Fits (shopDb production) (shopDeployment first label flag vmID) ↔ label ≠ "" := by
    intro first label flag vmID
    constructor
    · exact fun fits => fits.versionLabel
    · intro labelled
      exact ⟨show shopID ≠ "" by decide, labelled, show "alpine" ≠ "" by decide,
        show "production" ≠ "" by decide, show "live" ∈ buildStatuses by decide, stored,
        fun linked => absurd rfl linked⟩
  rcases List.mem_cons.mp member with rfl | later
  · exact (fits _ _ _ _).mpr (by decide)
  · rw [List.mem_singleton.mp later]
    exact (fits _ _ _ _).mpr (by decide)

def shopPromotion : Session × Response ProjectReply :=
  handlePromoteDeployment shopServer shopRun (.start (shopDb production) []) shopID "v2" true

theorem promotion_exclusive_iff_first :
    (shopPromotion false).2.succeeded = true ∧
      Exclusive (shopDb false) (shopPromotion false).1.db shopID "v2" := by
  have ok : (shopPromotion false).2.succeeded = true := by decide
  have alone : ∀ old ∈ listDeployments (shopDb false) .clean shopID, old.isProduction = true →
      old.id ≠ "v2" → Unrouted old := by
    have none : ∀ old ∈ listDeployments (shopDb false) .clean shopID, old.isProduction = false := by
      decide
    intro old member production
    rw [none old member] at production
    cases production
  exact ⟨ok, (promotion_exclusive_iff _ _ (.start (shopDb false) []) shopID "v2" true
    (shopDb_sound false) (fun _ => rfl) (fun _ => rfl) ok).mpr alone⟩

theorem promotion_keeps_old_traffic :
    (shopPromotion true).2.succeeded = true ∧
      ¬ Exclusive (shopDb true) (shopPromotion true).1.db shopID "v2" ∧
      (⟨"vm-1", shopID, .running, .healthy, "", [], "", ""⟩ : Gateway.VM) ∈
        weightedDeploymentBackends
          (postgres ⟨(shopPromotion true).1.db, fun _ => "", ⟨[], Table.empty _, by decide⟩,
            Table.empty _⟩) shopID ⟨"vm-2", shopID, .running, .healthy, "", [], "", ""⟩ := by
  refine ⟨by decide, ?_, by decide⟩
  intro exclusive
  have silent := exclusive.replaced (shopDeployment "v1" "v1" true "vm-1") (by decide) rfl
    (by decide) { shopDeployment "v1" "v1" false "vm-1" with isProduction := false } (by decide) rfl
  have routed := (unrouted_iff _).mp silent
  revert routed
  decide

end Porter.Api.Projects
