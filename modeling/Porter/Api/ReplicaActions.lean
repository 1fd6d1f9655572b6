import Porter.Api.Pools
import Porter.Api.Promotion
import Porter.Api.Runner
import Porter.Go.Strconv

/-!
# Actions on one replica

A replica is started, stopped, restarted or deleted by its position in the pool of a project, or by
its id.
-/
namespace Porter.Api.Projects

open Sql Go Store

inductive ReplicaAction where
  | start
  | stop
  | restart

namespace ReplicaAction

def call : ReplicaAction → VM → RunnerCall
  | .start => .boot
  | .stop => .stop
  | .restart => .restart

@[simp] theorem vm_call (action : ReplicaAction) (vm : VM) : (action.call vm).vm = vm := by
  cases action <;> rfl

def text : ReplicaAction → String
  | .start => "start"
  | .stop => "stop"
  | .restart => "restart"

end ReplicaAction

/-- The calls a request makes, how many succeed, and the failures it reports. -/
structure Mutation where
  calls : List RunnerCall
  n : Nat
  failures : List String

def idxFilterAt (idx : Int) : Option (Nat → Bool) :=
  if idx < 0 then none else some (fun i => (i : Int) = idx)

/-- One turn of the loop in `mutateReplicas`, for a runner that answers with an error or none. -/
def mutateOne (runner : RunnerCall → Option String) (db : ProjectDb) (action : ReplicaAction)
    (m : Mutation) (vmID : String) : Mutation :=
  match getVM db vmID with
  | none => { m with failures := m.failures ++ [vmID ++ ": replica not found"] }
  | some vm =>
    match runner (action.call vm) with
    | some err => { m with
        calls := m.calls ++ [action.call vm], failures := m.failures ++ [vmID ++ ": " ++ err] }
    | none => { m with calls := m.calls ++ [action.call vm], n := m.n + 1 }

def mutateAll (runner : RunnerCall → Option String) (db : ProjectDb) (action : ReplicaAction)
    (idxFilter : Option (Nat → Bool)) (m : Mutation) (entries : List (String × Nat)) : Mutation :=
  entries.foldl (fun m entry =>
    if idxFilter.all (fun allows => allows entry.2) then mutateOne runner db action m entry.1
    else m) m

def mutateReplicas (runner : RunnerCall → Option String) (run : ProjectRun) (db : ProjectDb)
    (projID : String) (idxFilter : Option (Nat → Bool)) (action : ReplicaAction) : Mutation :=
  match getProject db run.getFails projID with
  | none => ⟨[], 0, ["project not found"]⟩
  | some doc => mutateAll runner db action idxFilter ⟨[], 0, []⟩ doc.vmIDs.zipIdx

structure ReplicaReply (α : Type) where
  key : String
  done : α
  failed : List String

def replicaReply {α : Type} (status : Nat) (key : String) (done : Nat → α) (m : Mutation) :
    Response (ReplicaReply α) :=
  .json (if m.failures ≠ [] ∧ m.n = 0 then statusConflict else status) ⟨key, done m.n, m.failures⟩

section Handlers

variable (runner : RunnerCall → Option String) (run : ProjectRun) (db : ProjectDb)

def actOnAll (action : ReplicaAction) (status : Nat) (key : String) (id : String) :
    List RunnerCall × Response (ReplicaReply Nat) :=
  let m := mutateReplicas runner run db id none action
  (m.calls, replicaReply status key (fun n => n) m)

def handleReplicaBatchStart : String → List RunnerCall × Response (ReplicaReply Nat) :=
  actOnAll runner run db .start statusAccepted "started"

def handleReplicaBatchStop : String → List RunnerCall × Response (ReplicaReply Nat) :=
  actOnAll runner run db .stop statusOK "stopped"

def handleRestartProject : String → List RunnerCall × Response (ReplicaReply Nat) :=
  actOnAll runner run db .restart statusOK "restarted"

def actAt (action : ReplicaAction) (status : Nat) (key : String) (id n : String) :
    List RunnerCall × Response (ReplicaReply Bool) :=
  let m := mutateReplicas runner run db id (idxFilterAt (replicaIndex n)) action
  (m.calls, replicaReply status key (· == 1) m)

def handleReplicaStart : String → String → List RunnerCall × Response (ReplicaReply Bool) :=
  actAt runner run db .start statusAccepted "started"

def handleReplicaStop : String → String → List RunnerCall × Response (ReplicaReply Bool) :=
  actAt runner run db .stop statusOK "stopped"

def handleReplicaRestart : String → String → List RunnerCall × Response (ReplicaReply Bool) :=
  actAt runner run db .restart statusOK "restarted"

def replicaDeleteCalls (id n : String) : List RunnerCall :=
  match getProject db run.getFails id with
  | none => []
  | some doc =>
    let idx := replicaIndex n
    if idx < 0 || idx ≥ doc.vmIDs.length then []
    else ((doc.vmIDs[idx.toNat]?.bind (getVM db)).map .delete).toList

/-- `replicaActionByID`. The key of its answer is the text of the action with `ed` behind it. -/
def replicaActionByID (action : ReplicaAction) (replicaID : String) :
    List RunnerCall × Response (ReplicaReply Bool) :=
  match getVM db replicaID with
  | none => ([], .error statusNotFound "replica not found")
  | some vm =>
    let m := mutateReplicas runner run db vm.projectID (idxFilterAt vm.replicaIndex) action
    (m.calls, replicaReply statusAccepted (action.text ++ "ed") (· == 1) m)

def vmCompatDeleteCalls (replicaID : String) : List RunnerCall :=
  ((getVM db replicaID).map .delete).toList

end Handlers

inductive ReplicaRequest where
  | act (action : ReplicaAction) (projectID n : String)
  | delete (projectID n : String)
  | actByID (action : ReplicaAction) (replicaID : String)
  | deleteByID (replicaID : String)

def ReplicaRequest.calls (runner : RunnerCall → Option String) (run : ProjectRun) (db : ProjectDb) :
    ReplicaRequest → List RunnerCall
  | .act .start projectID n => (handleReplicaStart runner run db projectID n).1
  | .act .stop projectID n => (handleReplicaStop runner run db projectID n).1
  | .act .restart projectID n => (handleReplicaRestart runner run db projectID n).1
  | .delete projectID n => replicaDeleteCalls run db projectID n
  | .actByID action replicaID => (replicaActionByID runner run db action replicaID).1
  | .deleteByID replicaID => vmCompatDeleteCalls db replicaID

/-- The replica at the position whose decimal form is the path segment, or the one with the id. -/
def ReplicaRequest.Addresses (run : ProjectRun) (db : ProjectDb) : ReplicaRequest → String → Prop
  | .act _ projectID n, vmID | .delete projectID n, vmID =>
    ∃ doc, ∃ i : Nat, getProject db run.getFails projectID = some doc ∧ Int64Range i ∧
      n.toList = Strconv.itoa i ∧ doc.vmIDs[i]? = some vmID
  | .actByID _ replicaID, vmID | .deleteByID replicaID, vmID => vmID = replicaID

def OnlyAddressed (runner : RunnerCall → Option String) (run : ProjectRun) (db : ProjectDb)
    (req : ReplicaRequest) : Prop :=
  (∀ call ∈ req.calls runner run db, req.Addresses run db call.vm.id) ∧
    ∀ first ∈ req.calls runner run db, ∀ second ∈ req.calls runner run db, first.vm = second.vm

/-- The replica at the position read from a segment, if any, is named by its decimal form. -/
def WrittenOut (db : ProjectDb) (ids : List String) (n : String) : Prop :=
  ∀ vmID, 0 ≤ replicaIndex n → ids[(replicaIndex n).toNat]? = some vmID →
    (getVM db vmID).isSome = true → n.toList = Strconv.itoa (replicaIndex n)

def reached (ids : List String) (idx : Int) : List String :=
  if idx < 0 then ids else (ids[idx.toNat]?).toList

def ReplicaRequest.Aimed (run : ProjectRun) (db : ProjectDb) : ReplicaRequest → Prop
  | .act _ projectID n => ∀ doc, getProject db run.getFails projectID = some doc →
    (replicaIndex n < 0 → ∀ vmID ∈ doc.vmIDs, getVM db vmID = none) ∧ WrittenOut db doc.vmIDs n
  | .delete projectID n => ∀ doc, getProject db run.getFails projectID = some doc →
    WrittenOut db doc.vmIDs n
  | .actByID _ replicaID => ∀ vm doc, getVM db replicaID = some vm →
    getProject db run.getFails vm.projectID = some doc →
    ∀ vmID ∈ reached doc.vmIDs vm.replicaIndex, (getVM db vmID).isSome = true → vmID = replicaID
  | .deleteByID _ => True

section Loop

variable {runner : RunnerCall → Option String} {run : ProjectRun} {db : ProjectDb}
  {action : ReplicaAction}

theorem calls_mutateOne (m : Mutation) (vmID : String) :
    (mutateOne runner db action m vmID).calls =
      m.calls ++ ((getVM db vmID).map action.call).toList := by
  unfold mutateOne
  cases getVM db vmID with
  | none => simp
  | some vm =>
    simp only
    split <;> rfl

theorem mem_calls_mutateAll (idxFilter : Option (Nat → Bool)) (m : Mutation)
    (entries : List (String × Nat)) (call : RunnerCall) :
    call ∈ (mutateAll runner db action idxFilter m entries).calls ↔
      call ∈ m.calls ∨ ∃ entry ∈ entries, idxFilter.all (fun allows => allows entry.2) = true ∧
        ∃ vm, getVM db entry.1 = some vm ∧ action.call vm = call := by
  induction entries generalizing m with
  | nil => simp [mutateAll]
  | cons entry rest recurse =>
    have unrolled : mutateAll runner db action idxFilter m (entry :: rest) =
        mutateAll runner db action idxFilter
          (if idxFilter.all (fun allows => allows entry.2) then mutateOne runner db action m entry.1
            else m) rest := rfl
    rw [unrolled, recurse, List.exists_mem_cons_iff, ← or_assoc]
    by_cases allowed : idxFilter.all (fun allows => allows entry.2) = true
    · rw [if_pos allowed, calls_mutateOne]
      simp [allowed]
    · simp [allowed]

theorem mem_reached {ids : List String} {idx : Int} {vmID : String} :
    vmID ∈ reached ids idx ↔
      ∃ i : Nat, ids[i]? = some vmID ∧ (idxFilterAt idx).all (fun allows => allows i) = true := by
  unfold reached idxFilterAt
  by_cases negative : idx < 0
  · simp only [if_pos negative, Option.all_none, and_true]
    exact List.mem_iff_getElem?
  · simp only [if_neg negative, Option.mem_toList, Option.all_some, decide_eq_true_eq]
    constructor
    · intro listed
      exact ⟨idx.toNat, listed, by omega⟩
    · rintro ⟨i, listed, same⟩
      have position : idx.toNat = i := by omega
      rw [position]
      exact listed

theorem mem_calls_mutateReplicas (projID : String) (idx : Int) (call : RunnerCall) :
    call ∈ (mutateReplicas runner run db projID (idxFilterAt idx) action).calls ↔
      ∃ doc, getProject db run.getFails projID = some doc ∧
        ∃ vmID ∈ reached doc.vmIDs idx, ∃ vm, getVM db vmID = some vm ∧ action.call vm = call := by
  unfold mutateReplicas
  cases getProject db run.getFails projID with
  | none => simp
  | some doc =>
    simp only [mem_calls_mutateAll, List.not_mem_nil, false_or, Option.some.injEq, exists_eq_left']
    constructor
    · rintro ⟨⟨vmID, i⟩, listed, allowed, found⟩
      exact ⟨vmID, mem_reached.mpr ⟨i, List.mem_zipIdx_iff_getElem?.mp listed, allowed⟩, found⟩
    · rintro ⟨vmID, member, found⟩
      obtain ⟨i, listed, allowed⟩ := mem_reached.mp member
      exact ⟨(vmID, i), List.mem_zipIdx_iff_getElem?.mpr listed, allowed, found⟩

end Loop

theorem atoi_eq (text : String) : atoi text = Strconv.atoi text.toList := rfl

theorem replicaIndex_itoa {n : String} {i : Nat} (fits : Int64Range i)
    (written : n.toList = Strconv.itoa i) : replicaIndex n = i := by
  unfold replicaIndex
  rw [atoi_eq, written, Strconv.atoi_itoa fits]
  rfl

theorem int64Range_replicaIndex (n : String) : Int64Range (replicaIndex n) := by
  unfold replicaIndex
  rw [atoi_eq]
  cases read : Strconv.atoi n.toList with
  | none => decide
  | some value => exact Strconv.int64Range_of_atoi read

def ReplicaRequest.Reaches (run : ProjectRun) (db : ProjectDb) : ReplicaRequest → String → Prop
  | .act _ projectID n, vmID => ∃ doc, getProject db run.getFails projectID = some doc ∧
    vmID ∈ reached doc.vmIDs (replicaIndex n)
  | .delete projectID n, vmID => ∃ doc, getProject db run.getFails projectID = some doc ∧
    0 ≤ replicaIndex n ∧ doc.vmIDs[(replicaIndex n).toNat]? = some vmID
  | .actByID _ replicaID, vmID => ∃ vm doc, getVM db replicaID = some vm ∧
    getProject db run.getFails vm.projectID = some doc ∧ vmID ∈ reached doc.vmIDs vm.replicaIndex
  | .deleteByID replicaID, vmID => vmID = replicaID

section Requests

variable {runner : RunnerCall → Option String} {run : ProjectRun} {db : ProjectDb}

theorem mem_replicaDeleteCalls (projectID n : String) (call : RunnerCall) :
    call ∈ replicaDeleteCalls run db projectID n ↔
      ∃ vmID vm, (ReplicaRequest.delete projectID n).Reaches run db vmID ∧
        getVM db vmID = some vm ∧ .delete vm = call := by
  unfold replicaDeleteCalls ReplicaRequest.Reaches
  cases found : getProject db run.getFails projectID with
  | none => simp [found]
  | some doc =>
    simp only [found, Option.some.injEq, exists_eq_left']
    split
    · rename_i outside
      rw [Bool.or_eq_true, decide_eq_true_eq, decide_eq_true_eq] at outside
      simp only [List.not_mem_nil, false_iff]
      rintro ⟨vmID, vm, ⟨positive, listed⟩, -⟩
      obtain ⟨bound, -⟩ := List.getElem?_eq_some_iff.mp listed
      omega
    · rename_i inside
      have positive : 0 ≤ replicaIndex n := by
        rw [Bool.or_eq_true, decide_eq_true_eq] at inside
        omega
      simp only [Option.mem_toList, Option.map_eq_some_iff, Option.bind_eq_some_iff, positive,
        true_and]
      constructor
      · rintro ⟨vm, ⟨vmID, listed, stored⟩, same⟩
        exact ⟨vmID, vm, listed, stored, same⟩
      · rintro ⟨vmID, vm, listed, stored, same⟩
        exact ⟨vm, ⟨vmID, listed, stored⟩, same⟩

theorem exists_call_iff (req : ReplicaRequest) (vm : VM) :
    (∃ call ∈ req.calls runner run db, call.vm = vm) ↔
      ∃ vmID, req.Reaches run db vmID ∧ getVM db vmID = some vm := by
  cases req with
  | act action projectID n =>
    have calls : (ReplicaRequest.act action projectID n).calls runner run db =
        (mutateReplicas runner run db projectID (idxFilterAt (replicaIndex n)) action).calls := by
      cases action <;> rfl
    simp only [calls, mem_calls_mutateReplicas, ReplicaRequest.Reaches]
    constructor
    · rintro ⟨_, ⟨doc, found, vmID, member, other, stored, rfl⟩, rfl⟩
      exact ⟨vmID, ⟨doc, found, member⟩, by rwa [ReplicaAction.vm_call]⟩
    · rintro ⟨vmID, ⟨doc, found, member⟩, stored⟩
      exact ⟨_, ⟨doc, found, vmID, member, vm, stored, rfl⟩, action.vm_call vm⟩
  | delete projectID n =>
    simp only [ReplicaRequest.calls, mem_replicaDeleteCalls]
    constructor
    · rintro ⟨_, ⟨vmID, other, member, stored, rfl⟩, rfl⟩
      exact ⟨vmID, member, stored⟩
    · rintro ⟨vmID, member, stored⟩
      exact ⟨_, ⟨vmID, vm, member, stored, rfl⟩, rfl⟩
  | actByID action replicaID =>
    simp only [ReplicaRequest.calls, replicaActionByID, ReplicaRequest.Reaches]
    cases named : getVM db replicaID with
    | none => simp
    | some target =>
      simp only [mem_calls_mutateReplicas, Option.some.injEq]
      constructor
      · rintro ⟨_, ⟨doc, found, vmID, member, other, stored, rfl⟩, rfl⟩
        exact ⟨vmID, ⟨target, doc, rfl, found, member⟩, by rwa [ReplicaAction.vm_call]⟩
      · rintro ⟨vmID, ⟨_, doc, rfl, found, member⟩, stored⟩
        exact ⟨_, ⟨doc, found, vmID, member, vm, stored, rfl⟩, action.vm_call vm⟩
  | deleteByID replicaID =>
    simp only [ReplicaRequest.calls, vmCompatDeleteCalls, ReplicaRequest.Reaches,
      Option.mem_toList, Option.map_eq_some_iff, exists_eq_left]
    constructor
    · rintro ⟨_, ⟨other, stored, rfl⟩, rfl⟩
      exact stored
    · intro stored
      exact ⟨_, ⟨vm, stored, rfl⟩, rfl⟩

theorem addresses_unique {req : ReplicaRequest} {first second : String}
    (one : req.Addresses run db first) (other : req.Addresses run db second) : first = second := by
  have position : ∀ {projectID n : String},
      (∃ doc, ∃ i : Nat, getProject db run.getFails projectID = some doc ∧ Int64Range i ∧
        n.toList = Strconv.itoa i ∧ doc.vmIDs[i]? = some first) →
      (∃ doc, ∃ i : Nat, getProject db run.getFails projectID = some doc ∧ Int64Range i ∧
        n.toList = Strconv.itoa i ∧ doc.vmIDs[i]? = some second) → first = second := by
    rintro projectID n ⟨doc, i, found, fits, written, listed⟩
      ⟨_, j, again, fits', written', listed'⟩
    obtain rfl := Option.some.inj (found.symm.trans again)
    have same : (i : Int) = j :=
      (replicaIndex_itoa fits written).symm.trans (replicaIndex_itoa fits' written')
    obtain rfl : i = j := by omega
    exact Option.some.inj (listed.symm.trans listed')
  cases req with
  | act | delete => exact position one other
  | actByID | deleteByID => exact one.trans other.symm

theorem onlyAddressed_iff_reaches (req : ReplicaRequest) :
    OnlyAddressed runner run db req ↔
      ∀ vmID, req.Reaches run db vmID → (getVM db vmID).isSome = true →
        req.Addresses run db vmID := by
  have keyed : ∀ {vmID vm}, getVM db vmID = some vm → vm.id = vmID :=
    fun stored => ((Table.find_eq_some _ _ _).mp stored).2
  constructor
  · rintro ⟨addressed, -⟩ vmID reached stored
    obtain ⟨vm, stored⟩ := Option.isSome_iff_exists.mp stored
    obtain ⟨call, made, rfl⟩ := (exists_call_iff req vm).mpr ⟨vmID, reached, stored⟩
    rw [← keyed stored]
    exact addressed call made
  · intro aimed
    have target : ∀ call ∈ req.calls runner run db,
        req.Addresses run db call.vm.id ∧ getVM db call.vm.id = some call.vm := by
      intro call made
      obtain ⟨vmID, reached, stored⟩ := (exists_call_iff req call.vm).mp ⟨call, made, rfl⟩
      rw [keyed stored]
      exact ⟨aimed vmID reached (by rw [stored]; rfl), stored⟩
    refine ⟨fun call made => (target call made).1, ?_⟩
    intro first made second again
    obtain ⟨one, stored⟩ := target first made
    obtain ⟨other, kept⟩ := target second again
    rw [addresses_unique one other] at stored
    exact Option.some.inj (stored.symm.trans kept)

theorem writtenOut_iff {doc : Project EnvMap} {projectID n : String}
    (found : getProject db run.getFails projectID = some doc) :
    WrittenOut db doc.vmIDs n ↔
      ∀ vmID, 0 ≤ replicaIndex n → doc.vmIDs[(replicaIndex n).toNat]? = some vmID →
        (getVM db vmID).isSome = true →
          (ReplicaRequest.delete projectID n).Addresses run db vmID := by
  constructor
  · intro written vmID positive listed stored
    have index : ((replicaIndex n).toNat : Int) = replicaIndex n := Int.toNat_of_nonneg positive
    refine ⟨doc, (replicaIndex n).toNat, found, ?_, ?_, listed⟩
    · rw [index]
      exact int64Range_replicaIndex n
    · rw [index]
      exact written vmID positive listed stored
  · intro addressed vmID positive listed stored
    obtain ⟨_, i, _, fits, written, _⟩ := addressed vmID positive listed stored
    rwa [replicaIndex_itoa fits written]

end Requests

/-- A request for one replica calls the runner for at most that replica exactly when it is aimed. -/
theorem only_addressed_iff (runner : RunnerCall → Option String) (run : ProjectRun)
    (db : ProjectDb) (req : ReplicaRequest) :
    OnlyAddressed runner run db req ↔ req.Aimed run db := by
  rw [onlyAddressed_iff_reaches]
  cases req with
  | act action projectID n =>
    constructor
    · intro addressed doc found
      refine ⟨?_, (writtenOut_iff found).mpr ?_⟩
      · intro negative vmID listed
        by_contra stored
        obtain ⟨_, i, _, fits, written, _⟩ := addressed vmID
          ⟨doc, found, by rwa [reached, if_pos negative]⟩ (Option.isSome_iff_ne_none.mpr stored)
        rw [replicaIndex_itoa fits written] at negative
        omega
      · intro vmID positive listed stored
        refine addressed vmID ⟨doc, found, ?_⟩ stored
        rw [reached, if_neg (by omega), Option.mem_toList]
        exact listed
    · rintro aimed vmID ⟨doc, found, member⟩ stored
      obtain ⟨none, written⟩ := aimed doc found
      by_cases negative : replicaIndex n < 0
      · rw [reached, if_pos negative] at member
        rw [none negative vmID member] at stored
        cases stored
      · rw [reached, if_neg negative, Option.mem_toList] at member
        exact (writtenOut_iff found).mp written vmID (by omega) member stored
  | delete projectID n =>
    constructor
    · intro addressed doc found
      exact (writtenOut_iff found).mpr
        (fun vmID positive listed => addressed vmID ⟨doc, found, positive, listed⟩)
    · rintro aimed vmID ⟨doc, found, positive, listed⟩ stored
      exact (writtenOut_iff found).mp (aimed doc found) vmID positive listed stored
  | actByID action replicaID =>
    constructor
    · intro addressed vm doc named found vmID member
      exact addressed vmID ⟨vm, doc, named, found, member⟩
    · rintro aimed vmID ⟨vm, doc, named, found, member⟩ stored
      exact aimed vm doc named found vmID member stored
  | deleteByID replicaID =>
    exact ⟨fun _ => trivial, fun _ vmID reached _ => reached⟩

def quietRunner : RunnerCall → Option String := fun _ => none

def pairDb : ProjectDb where
  projects := Table.single _ { shopRow with doc := { shopRow.doc with vmIDs := ["vm-1", "vm-2"] } }
  secrets := Table.empty _
  replicas := ⟨[shopReplica "vm-1" 0, shopReplica "vm-2" 1, shopReplica "job" (-1)], by decide⟩
  deployments := Table.empty _
  owned := by simp [Table.empty]

def pairStopped : List RunnerCall :=
  [.stop (shopReplica "vm-1" 0), .stop (shopReplica "vm-2" 1)]

theorem not_onlyAddressed_of_pairStopped {req : ReplicaRequest}
    (stops : req.calls quietRunner shopRun pairDb = pairStopped) :
    ¬ OnlyAddressed quietRunner shopRun pairDb req := by
  rintro ⟨-, one⟩
  rw [stops] at one
  have same := one _ List.mem_cons_self _ (List.mem_cons_of_mem _ List.mem_cons_self)
  exact absurd (congrArg VM.id same) (by decide)

theorem stop_reaches_whole_pool :
    ((ReplicaRequest.act .stop shopID "x").calls quietRunner shopRun pairDb = pairStopped ∧
      ¬ OnlyAddressed quietRunner shopRun pairDb (.act .stop shopID "x")) ∧
    (ReplicaRequest.actByID .stop "job").calls quietRunner shopRun pairDb = pairStopped ∧
      ¬ OnlyAddressed quietRunner shopRun pairDb (.actByID .stop "job") :=
  ⟨⟨rfl, not_onlyAddressed_of_pairStopped rfl⟩, rfl, not_onlyAddressed_of_pairStopped rfl⟩

end Porter.Api.Projects
