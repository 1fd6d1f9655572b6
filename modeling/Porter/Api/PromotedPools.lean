import Porter.Api.Promotion
import Porter.Api.Runner

/-!
# The pool of a promoted deployment

`handlePromoteDeployment` makes the pool of a deployment that of the project and, unless asked to
keep them, stops the VMs the project listed before and deletes their rows.
-/
namespace Porter.Api.Projects

open Sql Go Store

def promotedProj (s : Session) (doc : Project EnvMap) (d : Deployment) : Project Ref :=
  { (s.load doc).2 with image := d.imageDigest }

variable (server : Server) (run : ProjectRun)

def promotedBoot (s : Session) (doc : Project EnvMap) (d : Deployment) : Boot :=
  bootPromoted server run (s.load doc).1 (promotedProj s doc d) d

def promotedVMs (s : Session) (doc : Project EnvMap) (d : Deployment) : List VM :=
  let proj := promotedProj s doc d
  bootCalls server run
    (fun _ => replicaReq (proj.name ++ "-" ++ d.versionLabel) proj.image proj.replicasDesired
      proj.env (projPorts (s.load doc).1.db proj))
    ⟨(s.load doc).1, proj, some d⟩
    (if d.vmIDs.isEmpty then List.range proj.replicasDesired.toNat else [])

def promotedSession (s : Session) (doc : Project EnvMap) (d : Deployment) : Session :=
  let boot := promotedBoot server run s doc d
  promoteAll run (boot.deployment.getD d).id boot.session
    (listDeployments boot.session.db (run.deploymentRows 1) boot.proj.id)

def acceptedCalls (s : Session) (doc : Project EnvMap) (d : Deployment) (keepOld : Bool) :
    List RunnerCall :=
  (promotedVMs server run s doc d).map .boot ++
    if keepOld then []
    else (doc.vmIDs.filterMap (getVM (promotedSession server run s doc d).db)).map .stop

def promoteCalls (s : Session) (id target : String) (keepOld : Bool) : List RunnerCall :=
  match getProject s.db run.getFails id with
  | none => []
  | some doc =>
    match (listDeployments s.db (run.deploymentRows 0) doc.id).find? (·.id = target) with
    | none => []
    | some d =>
      if d.imageDigest = "" then []
      else if !allChecksPassed d then []
      else acceptedCalls server run s doc d keepOld

theorem promote_session (s : Session) (doc : Project EnvMap) (d : Deployment) (keepOld : Bool) :
    (promote server run (s.load doc).1 (s.load doc).2 d keepOld).1 =
      (Session.createDeployment run
        (Session.put run
          (if keepOld then promotedSession server run s doc d
            else (s.load doc).2.vmIDs.foldl (Session.deleteVM run)
              (promotedSession server run s doc d))
          { (promotedBoot server run s doc d).proj with
            vmIDs := ((promotedBoot server run s doc d).deployment.getD d).vmIDs })
        (liveDeployment ((promotedBoot server run s doc d).deployment.getD d))).1 := rfl

theorem replicas_promoteAll (target : String) (s : Session) (ds : List Deployment) :
    (promoteAll run target s ds).db.replicas = s.db.replicas := by
  induction ds generalizing s with
  | nil => rfl
  | cons d rest recurse =>
    exact (recurse (s.createDeployment run (promoteOne target d)).1).trans
      (replicas_createDeployment _ _ _)

theorem find_deleteAll_of_notMem (ids : List String) (s : Session) {id : String}
    (other : id ∉ ids) : getVM (ids.foldl (Session.deleteVM run) s).db id = getVM s.db id := by
  induction ids generalizing s with
  | nil => rfl
  | cons first rest recurse =>
    rw [List.mem_cons, not_or] at other
    obtain ⟨differs, later⟩ := other
    rw [List.foldl_cons, recurse (s.deleteVM run first) later]
    apply Table.find_congr
    intro row named
    unfold Session.deleteVM Store.deleteVM deleteReplicas
    split
    · rfl
    · simp [named, differs]

section Promotion

variable {server : Server} {run : ProjectRun} {s : Session} {doc : Project EnvMap} {d : Deployment}

theorem isSome_getVM_promotedSession {id : String} (stored : (getVM s.db id).isSome = true) :
    (getVM (promotedSession server run s doc d).db id).isSome = true := by
  unfold promotedSession
  simp only
  unfold getVM
  rw [replicas_promoteAll]
  apply isSome_getVM_bootReplicas
  rwa [db_load]

theorem getVM_promotedSession (warm : d.vmIDs ≠ []) (id : String) :
    getVM (promotedSession server run s doc d).db id = getVM s.db id := by
  have none : d.vmIDs.isEmpty = false := by rwa [List.isEmpty_eq_false_iff]
  unfold promotedSession promotedBoot bootPromoted getVM
  simp only
  rw [replicas_promoteAll, none]
  simp [bootReplicas]

end Promotion

def Drawn (ids : List String) : Prop := ∀ id ∈ ids, ∃ i, run.vmID i = id

/-- While the pool of a deployment is filled, its list has drawn ids only. -/
structure Pooled (run : ProjectRun) (target : String) (boot : Boot) : Prop where
  shared : ∃ x, boot.deployment = some x ∧ x.id = target ∧ Drawn run x.vmIDs
  stored : ∀ row, boot.session.db.deployments.find target = some row → Drawn run row.vmIDs

section Pooled

variable {server : Server} {run : ProjectRun} {target : String} {boot : Boot}

theorem drawn_joined {d : Deployment} (drawn : Drawn run d.vmIDs) (idx : Nat) :
    Drawn run (Deployment.joined d (run.vmID idx)).vmIDs := by
  intro id listed
  rcases List.mem_append.mp listed with old | new
  · exact drawn id old
  · exact ⟨idx, (List.mem_singleton.mp new).symm⟩

theorem Pooled.bootReplica (pooled : Pooled run target boot) (req : CreateProjectReq Ref)
    (idx : Nat) : Pooled run target (bootReplica server run boot req idx) := by
  obtain ⟨x, shared, named, drawn⟩ := pooled.shared
  constructor
  · rcases bootReplica_deployment _ _ _ _ _ with kept | ⟨d, given, joined⟩
    · exact ⟨x, kept.trans shared, named, drawn⟩
    · obtain rfl : x = d := Option.some.inj (shared.symm.trans given)
      refine ⟨_, joined, (id_withWeights _).trans named, ?_⟩
      rw [vmIDs_withWeights]
      exact drawn_joined drawn idx
  · refine (bootReplica_writes _ _ _ _ _).vmIDs ?_ pooled.stored
    rintro _ ⟨d, given, rfl⟩ -
    obtain rfl : x = d := Option.some.inj (shared.symm.trans given)
    exact drawn_joined drawn idx

theorem Pooled.bootReplicas (pooled : Pooled run target boot) (req : Boot → CreateProjectReq Ref)
    (indices : List Nat) : Pooled run target (bootReplicas server run req boot indices) := by
  induction indices generalizing boot with
  | nil => exact pooled
  | cons idx rest recurse => exact recurse (pooled.bootReplica (req boot) idx)

end Pooled

/-- The list of the promoted deployment: the one it had or, if empty, ids that were drawn. -/
def PromotedList (d : Deployment) (ids : List String) : Prop :=
  (d.vmIDs ≠ [] → ids = d.vmIDs) ∧ (d.vmIDs = [] → Drawn run ids)

section List

variable {server : Server} {run : ProjectRun} {s : Session} {doc : Project EnvMap} {d : Deployment}

theorem promotedBoot_list
    (stored : ∀ row, s.db.deployments.find d.id = some row → row.vmIDs = d.vmIDs) :
    (∃ x, (promotedBoot server run s doc d).deployment = some x ∧ x.id = d.id ∧
        PromotedList run d x.vmIDs) ∧
      ∀ row, (promotedBoot server run s doc d).session.db.deployments.find d.id = some row →
        PromotedList run d row.vmIDs := by
  by_cases cold : d.vmIDs = []
  · have start : Pooled run d.id ⟨(s.load doc).1, promotedProj s doc d, some d⟩ := by
      refine ⟨⟨d, rfl, rfl, by rw [cold]; exact nofun⟩, ?_⟩
      intro row found
      rw [stored row (by rwa [db_load] at found), cold]
      exact nofun
    have pooled : Pooled run d.id (promotedBoot server run s doc d) := start.bootReplicas _ _
    obtain ⟨x, shared, named, drawn⟩ := pooled.shared
    exact ⟨⟨x, shared, named, fun warm => absurd cold warm, fun _ => drawn⟩,
      fun row found => ⟨fun warm => absurd cold warm, fun _ => pooled.stored row found⟩⟩
  · have same : promotedBoot server run s doc d =
        ⟨(s.load doc).1, promotedProj s doc d, some d⟩ := by
      have none : d.vmIDs.isEmpty = false := by rwa [List.isEmpty_eq_false_iff]
      unfold promotedBoot bootPromoted
      rw [none]
      rfl
    rw [same]
    refine ⟨⟨d, rfl, rfl, fun _ => rfl, fun empty => absurd empty cold⟩, ?_⟩
    intro row found
    exact ⟨fun _ => stored row (by rwa [db_load] at found), fun empty => absurd empty cold⟩

theorem promote_list (keepOld : Bool)
    (stored : ∀ row, s.db.deployments.find d.id = some row → row.vmIDs = d.vmIDs) :
    ∀ row, (promote server run (s.load doc).1 (s.load doc).2 d keepOld).1.db.deployments.find d.id =
      some row → PromotedList run d row.vmIDs := by
  have ⟨⟨x, shared, named, own⟩, booted⟩ := @promotedBoot_list server run s doc d stored
  -- The loop writes back the list it has read.
  have looped : ∀ row, (promotedSession server run s doc d).db.deployments.find d.id = some row →
      PromotedList run d row.vmIDs := by
    refine (promoteAll_statements run _ _ _).vmIDs ?_ booted
    rintro _ ⟨read, listed, rfl⟩ same
    obtain ⟨row, found, -, rfl⟩ := owner_of_listed listed
    rw [id_promoteOne, id_readBack] at same
    rw [same] at found
    obtain ⟨route, weighted⟩ := readBack_eq row
    rw [vmIDs_promoteOne, weighted]
    exact booted row found
  rw [promote_session, shared, Option.getD_some]
  have cleared := clear_statements run keepOld (s.load doc).2.vmIDs
    (promotedSession server run s doc d)
    { (promotedBoot server run s doc d).proj with vmIDs := x.vmIDs }
  have last := cleared.vmIDs (fun _ impossible => impossible.elim) looped
  refine (Statements.vmIDs ?_ (.single (.createDeployment _ _ (liveDeployment x) rfl)) last :)
  rintro _ rfl -
  exact own

end List

def Spared (before after : ProjectDb) (calls : List RunnerCall) (id : String) : Prop :=
  (∀ vm, .stop vm ∈ calls ∨ .delete vm ∈ calls → vm.id ≠ id) ∧
    ((getVM before id).isSome = true → (getVM after id).isSome = true)

section Spared

variable {server : Server} {run : ProjectRun} {s : Session} {doc : Project EnvMap} {d : Deployment}

variable {keepOld : Bool}

theorem isSome_getVM_promote {id : String}
    (apart : keepOld = true ∨ id ∉ doc.vmIDs) (stored : (getVM s.db id).isSome = true) :
    (getVM (promote server run (s.load doc).1 (s.load doc).2 d keepOld).1.db id).isSome = true := by
  have looped : (getVM (promotedSession server run s doc d).db id).isSome = true :=
    isSome_getVM_promotedSession stored
  rw [promote_session]
  unfold getVM Session.createDeployment Session.put
  simp only [replicas_createDeployment, replicas_putProject, vmIDs_load]
  rcases apart with kept | other
  · rw [if_pos kept]
    exact looped
  · split
    · exact looped
    · have same := find_deleteAll_of_notMem run doc.vmIDs (promotedSession server run s doc d) other
      unfold getVM at same
      rw [same]
      exact looped

theorem stop_mem_acceptedCalls {vm : VM} :
    .stop vm ∈ acceptedCalls server run s doc d keepOld ↔
      keepOld = false ∧ vm.id ∈ doc.vmIDs ∧
        getVM (promotedSession server run s doc d).db vm.id = some vm := by
  have keyed : ∀ id, getVM (promotedSession server run s doc d).db id = some vm → vm.id = id :=
    fun id found => ((Table.find_eq_some _ _ _).mp found).2
  unfold acceptedCalls
  cases keepOld with
  | true => simp
  | false =>
    simp only [List.mem_append, List.mem_map, reduceCtorEq, and_false, exists_false, false_or,
      Bool.false_eq_true, if_false, RunnerCall.stop.injEq, exists_eq_right, List.mem_filterMap,
      true_and]
    constructor
    · rintro ⟨id, listed, found⟩
      rw [keyed id found]
      exact ⟨listed, found⟩
    · rintro ⟨listed, found⟩
      exact ⟨vm.id, listed, found⟩

theorem delete_notMem_acceptedCalls {vm : VM} :
    .delete vm ∉ acceptedCalls server run s doc d keepOld := by
  unfold acceptedCalls
  cases keepOld <;> simp

theorem promote_grows (keepOld : Bool) :
    Grows s.db (promote server run (s.load doc).1 (s.load doc).2 d keepOld).1.db := by
  have booted := (bootPromoted_spec server run (s.load doc).1 (promotedProj s doc d) d).1.grows
  rw [db_load] at booted
  exact ((booted.trans (promoteAll_statements _ _ _ _).grows).trans
    (clear_statements _ _ _ _ _).grows).trans (grows_createDeployment _ _ _)

def NoneShared (db : ProjectDb) (doc : Project EnvMap) (d : Deployment) : Prop :=
  ∀ vmID ∈ doc.vmIDs, vmID ∈ d.vmIDs → getVM db vmID = none

def PoolSpared (server : Server) (run : ProjectRun) (s : Session) (doc : Project EnvMap)
    (d : Deployment) (keepOld : Bool) : Prop :=
  ∀ row vmID, (promote server run (s.load doc).1 (s.load doc).2 d keepOld).1.db.deployments.find
      d.id = some row → vmID ∈ row.vmIDs →
    Spared s.db (promote server run (s.load doc).1 (s.load doc).2 d keepOld).1.db
      (acceptedCalls server run s doc d keepOld) vmID

theorem poolSpared_of_noneShared
    (lists : ∀ row, s.db.deployments.find d.id = some row → row.vmIDs = d.vmIDs)
    (fresh : ∀ i, run.vmID i ∉ doc.vmIDs)
    (condition : keepOld = true ∨ NoneShared s.db doc d) :
    PoolSpared server run s doc d keepOld := by
  intro final vmID stays member
  have possible := promote_list _ lists final stays
  -- An id that the project listed is one that the deployment listed, as new ids are fresh.
  have shared : vmID ∈ doc.vmIDs → d.vmIDs ≠ [] ∧ vmID ∈ d.vmIDs := by
    intro old
    by_cases cold : d.vmIDs = []
    · obtain ⟨i, drawn⟩ := possible.2 cold vmID member
      rw [← drawn] at old
      exact absurd old (fresh i)
    · rw [possible.1 cold] at member
      exact ⟨cold, member⟩
  constructor
  · rintro vm (stopped | deleted) same
    · obtain ⟨drops, old, there⟩ := stop_mem_acceptedCalls.mp stopped
      rw [same] at old there
      obtain ⟨warm, own⟩ := shared old
      rcases condition with kept | apart
      · rw [kept] at drops
        cases drops
      · rw [getVM_promotedSession warm, apart vmID old own] at there
        cases there
    · exact delete_notMem_acceptedCalls deleted
  · intro present
    apply isSome_getVM_promote _ present
    rcases condition with kept | apart
    · exact Or.inl kept
    · refine Or.inr (fun old => ?_)
      rw [apart vmID old (shared old).2] at present
      cases present

theorem noneShared_of_poolSpared (stored : (s.db.deployments.find d.id).isSome = true)
    (lists : ∀ row, s.db.deployments.find d.id = some row → row.vmIDs = d.vmIDs)
    (spares : PoolSpared server run s doc d false) : NoneShared s.db doc d := by
  intro vmID old own
  by_contra present
  obtain ⟨vm, there⟩ := Option.ne_none_iff_exists'.mp present
  have keyed : vm.id = vmID := ((Table.find_eq_some _ _ _).mp there).2
  have warm : d.vmIDs ≠ [] := List.ne_nil_of_mem own
  have kills : .stop vm ∈ acceptedCalls server run s doc d false := by
    rw [stop_mem_acceptedCalls, getVM_promotedSession warm, keyed]
    exact ⟨rfl, old, there⟩
  obtain ⟨final, stays⟩ :=
    Option.isSome_iff_exists.mp ((promote_grows false).deployments d.id stored)
  have pool := (promote_list _ lists final stays).1 warm
  exact (spares final vmID stays (by rwa [pool])).1 vm (Or.inl kills) keyed

end Spared

/-- With fresh ids, a promotion that succeeds spares all VMs its deployment lists afterwards exactly
when it keeps the old pool, or no replica with a row is listed by both before. -/
theorem promotion_spares_iff (server : Server) (run : ProjectRun) (s : Session)
    (id target : String) (keepOld : Bool)
    (ok : (handlePromoteDeployment server run s id target keepOld).2.succeeded = true)
    (fresh : ∀ doc, getProject s.db run.getFails id = some doc → ∀ i, run.vmID i ∉ doc.vmIDs) :
    (∀ row vmID, (handlePromoteDeployment server run s id target keepOld).1.db.deployments.find
        target = some row → vmID ∈ row.vmIDs →
      Spared s.db (handlePromoteDeployment server run s id target keepOld).1.db
        (promoteCalls server run s id target keepOld) vmID) ↔
    keepOld = true ∨ ∀ doc d, getProject s.db run.getFails id = some doc →
      (listDeployments s.db (run.deploymentRows 0) doc.id).find? (·.id = target) = some d →
      NoneShared s.db doc d := by
  obtain ⟨doc, d, found, listed, ⟨image, passed⟩, left⟩ :=
    (handlePromoteDeployment_cases server run s id target keepOld).resolve_left (by simp [ok])
  have made : promoteCalls server run s id target keepOld =
      acceptedCalls server run s doc d keepOld := by
    simp [promoteCalls, found, listed, image, passed]
  obtain ⟨row, stored, -, read⟩ := owner_of_listed (List.mem_of_find?_eq_some listed)
  obtain rfl : d.id = target := by simpa using List.find?_some listed
  rw [← id_readBack, ← read] at stored
  have lists : ∀ other, s.db.deployments.find d.id = some other → other.vmIDs = d.vmIDs := by
    intro other again
    obtain ⟨route, weighted⟩ := readBack_eq _
    rw [stored] at again
    rw [← Option.some.inj again, read, weighted]
  rw [left, made]
  constructor
  · intro spares
    by_cases kept : keepOld = true
    · exact Or.inl kept
    · rw [Bool.not_eq_true] at kept
      rw [kept] at spares
      refine Or.inr (fun again chosen same picked => ?_)
      obtain rfl : doc = again := Option.some.inj (found.symm.trans same)
      obtain rfl : d = chosen := Option.some.inj (listed.symm.trans picked)
      exact noneShared_of_poolSpared (by rw [stored]; rfl) lists spares
  · intro condition
    exact poolSpared_of_noneShared lists (fresh doc found)
      (condition.imp_right (fun apart => apart doc d found listed))

theorem shopRun_fresh (i : Nat) : shopRun.vmID i ∉ shopRow.doc.vmIDs := by
  intro listed
  have letters := congrArg (fun id => id.toList.head?) (List.mem_singleton.mp listed)
  simp [shopRun, ProjectRun.plain] at letters

theorem promotion_spares_iff_apart :
    ∃ after, handlePromoteDeployment shopServer shopRun (.start (shopDb true) []) shopID "v2"
        false = after ∧ after.2.succeeded = true ∧
      ∀ row vmID, after.1.db.deployments.find "v2" = some row → vmID ∈ row.vmIDs →
        Spared (shopDb true) after.1.db
          (promoteCalls shopServer shopRun (.start (shopDb true) []) shopID "v2" false) vmID := by
  have fresh : ∀ doc, getProject (shopDb true) shopRun.getFails shopID = some doc →
      ∀ i, shopRun.vmID i ∉ doc.vmIDs := by
    intro doc found
    obtain rfl : shopRow.doc = doc := Option.some.inj found
    exact shopRun_fresh
  refine ⟨_, rfl, by decide, (promotion_spares_iff _ _ (.start (shopDb true) [])
    shopID "v2" false (by decide) fresh).mpr (Or.inr ?_)⟩
  intro doc d found listed
  obtain rfl : shopRow.doc = doc := Option.some.inj found
  obtain rfl : shopDeployment "v2" "v2" false "vm-2" = d := Option.some.inj listed
  intro vmID old own
  rw [List.mem_singleton.mp old] at own
  exact absurd own (by decide)

theorem promotion_destroys_live_pool :
    ∃ after, handlePromoteDeployment shopServer shopRun (.start (shopDb true) []) shopID "v1"
        false = after ∧ after.2.succeeded = true ∧
      (after.1.db.deployments.find "v1").map (·.vmIDs) = some ["vm-1"] ∧
      .stop (shopReplica "vm-1" 0) ∈
        promoteCalls shopServer shopRun (.start (shopDb true) []) shopID "v1" false ∧
      getVM (shopDb true) "vm-1" = some (shopReplica "vm-1" 0) ∧
      getVM after.1.db "vm-1" = none := by
  refine ⟨_, rfl, by decide, by decide, ?_, rfl, by decide⟩
  exact List.mem_cons_self

end Porter.Api.Projects
