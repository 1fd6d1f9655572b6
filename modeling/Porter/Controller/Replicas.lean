import Porter.Netmgr.NetManager
import Porter.Run.Guarded
import Porter.Store.Replicas

/-!
# The replica controller

`internal/controller/replica_controller.go`: a cycle lists the VMs and reconciles each with the
runtime.
-/
namespace Porter.Controller

open Netmgr Run Sql Store

structure Outcomes where
  netSpec : Except String BootSpec
  boot : Option String
  restore : Option String
  stop : Option String
  probe : Bool

inductive Action where
  | boot (err : Option String)
  | restore (err : Option String)
  | stop (err : Option String)
  | put (vm : Replica)
  | delete (id : String)

variable (vm : Replica)

def begun : Replica := { vm with state := .booting, healthStatus := .checking }

variable (out : Outcomes)

def reconcilePending (vm : Replica) : List Action :=
  match out.netSpec with
  | .error err =>
    [.put { vm with state := .failed, error := "network allocation failed: " ++ err }]
  | .ok spec =>
    match out.boot with
    | some err =>
      [.put (begun vm), .boot (some err),
        .put { begun vm with state := .failed, error := "boot failed: " ++ err }]
    | none =>
      [.put (begun vm), .boot none,
        .put { begun vm with state := .running, ipAddress := spec.cidr }]

def reconcileBooting : List Action :=
  if vm.ipAddress ≠ "" then [.put { vm with state := .running }] else []

def probes (vm : Replica) : Bool := vm.ipAddress ≠ "" && out.probe

def reconcileRunning (vm : Replica) : List Action :=
  if vm.healthcheck.isNone then []
  else if !probes out vm then
    [.put { vm with state := .failed, healthStatus := .unhealthy, error := "healthcheck failed" }]
  else if vm.healthStatus ≠ .healthy then [.put { vm with healthStatus := .healthy }]
  else []

def reconcileStopping (vm : Replica) : List Action :=
  match out.stop with
  | some err => [.stop (some err), .put { vm with error := "stop failed: " ++ err }]
  | none => [.stop none, .put { vm with state := .stopped }]

def reconcileFailed (vm : Replica) : List Action :=
  if vm.snapshotStatus = "ready" ∧ vm.snapshotPath ≠ "" then
    match out.restore with
    | some err =>
      [.put (begun vm), .restore (some err),
        .put { begun vm with error := "restore failed: " ++ err }]
    | none => [.put (begun vm), .restore none, .put { begun vm with state := .running }]
  else if vm.restart = "always" ∨ vm.restart = "on-failure" then
    [.put { vm with state := .pending }]
  else []

def reconcileDelete (vm : Replica) : List Action :=
  [.stop out.stop, .delete vm.id]

def reconcile (vm : Replica) : List Action :=
  match vm.state with
  | .pending => reconcilePending out vm
  | .booting => reconcileBooting vm
  | .running => reconcileRunning out vm
  | .stopping => reconcileStopping out vm
  | .stopped => []
  | .failed => reconcileFailed out vm
  | .deleting | .deleted => reconcileDelete out vm

def perform (fails : Bool) (db : ReplicaDb) (action : Action) : ReplicaDb :=
  match action with
  | .put vm => db.putVM fails vm
  | .delete id => db.deleteVM fails id
  | .boot _ | .restore _ | .stop _ => db

def reconcileOne (outcomes : String → Outcomes) (db : ReplicaDb) (vm : Replica) : ReplicaDb :=
  (reconcile (outcomes vm.id) vm).foldl (perform false) db

def reconcileAll (db : ReplicaDb) (listing : RowsFault) (outcomes : String → Outcomes) :
    ReplicaDb :=
  (db.listVMs listing).foldl (reconcileOne outcomes) db

inductive Course (out : Outcomes) (vm : Replica) : List Action → Prop where
  | unallocated (err : String) (state : vm.state = .pending) :
      Course out vm
        [.put { vm with state := .failed, error := "network allocation failed: " ++ err }]
  | unbooted (err : String) (state : vm.state = .pending) :
      Course out vm
        [.put (begun vm), .boot (some err),
          .put { begun vm with state := .failed, error := "boot failed: " ++ err }]
  | booted (cidr : String) (state : vm.state = .pending) :
      Course out vm
        [.put (begun vm), .boot none, .put { begun vm with state := .running, ipAddress := cidr }]
  | promoted (state : vm.state = .booting) (address : vm.ipAddress ≠ "") :
      Course out vm [.put { vm with state := .running }]
  | unhealthy (state : vm.state = .running) (check : vm.healthcheck.isNone = false) :
      Course out vm [.put { vm with
        state := .failed, healthStatus := .unhealthy, error := "healthcheck failed" }]
  | healthy (state : vm.state = .running) (check : vm.healthcheck.isNone = false) :
      Course out vm [.put { vm with healthStatus := .healthy }]
  | unstopped (err : String) (state : vm.state = .stopping) :
      Course out vm [.stop (some err), .put { vm with error := "stop failed: " ++ err }]
  | stopped (state : vm.state = .stopping) :
      Course out vm [.stop none, .put { vm with state := .stopped }]
  | unrestored (err : String) (state : vm.state = .failed) (ready : vm.snapshotStatus = "ready")
      (path : vm.snapshotPath ≠ "") (failed : out.restore = some err) :
      Course out vm
        [.put (begun vm), .restore (some err),
          .put { begun vm with error := "restore failed: " ++ err }]
  | restored (state : vm.state = .failed) (ready : vm.snapshotStatus = "ready")
      (path : vm.snapshotPath ≠ "") :
      Course out vm [.put (begun vm), .restore none, .put { begun vm with state := .running }]
  | retried (state : vm.state = .failed)
      (restart : vm.restart = "always" ∨ vm.restart = "on-failure") :
      Course out vm [.put { vm with state := .pending }]
  | deleted (state : vm.state = .deleting ∨ vm.state = .deleted) :
      Course out vm [.stop out.stop, .delete vm.id]
  | idle : Course out vm []

theorem reconcile_course (vm : Replica) : Course out vm (reconcile out vm) := by
  unfold reconcile
  cases state : vm.state with
  | pending =>
    simp only [reconcilePending]
    cases out.netSpec with
    | error err => exact .unallocated err state
    | ok spec =>
      cases out.boot with
      | some err => exact .unbooted err state
      | none => exact .booted spec.cidr state
  | booting =>
    simp only [reconcileBooting]
    split
    · rename_i address
      exact .promoted state address
    · exact .idle
  | running =>
    simp only [reconcileRunning]
    split
    · exact .idle
    · rename_i check
      have checks : vm.healthcheck.isNone = false := Bool.eq_false_iff.mpr check
      split
      · exact .unhealthy state checks
      · split
        · exact .healthy state checks
        · exact .idle
  | stopping =>
    simp only [reconcileStopping]
    cases out.stop with
    | some err => exact .unstopped err state
    | none => exact .stopped state
  | stopped => exact .idle
  | failed =>
    simp only [reconcileFailed]
    split
    · rename_i snapshot
      cases failed : out.restore with
      | some err => exact .unrestored err state snapshot.1 snapshot.2 failed
      | none => exact .restored state snapshot.1 snapshot.2
    · split
      · rename_i restart
        exact .retried state restart
      · exact .idle
  | deleting => exact .deleted (Or.inl state)
  | deleted => exact .deleted (Or.inr state)

def lastWritten (actions : List Action) : Replica :=
  actions.foldl (fun row action => match action with | .put next => next | _ => row) vm

def Action.Rewrites (action : Action) : Prop :=
  match action with
  | .put next => next.id = vm.id ∧ next.projectID = vm.projectID ∧
      next.replicaIndex = vm.replicaIndex ∧ next.Checked
  | .delete _ => False
  | .boot _ | .restore _ | .stop _ => True

variable {vm : Replica} {db : ReplicaDb}

theorem rewrites_reconcile (checked : vm.Checked) :
    ∀ action ∈ reconcile out vm, action.Rewrites vm := by
  have ⟨state, health⟩ := checked
  simp only [List.mem_cons, List.not_mem_nil, or_false] at state health
  have course := reconcile_course out vm
  generalize reconcile out vm = actions at course
  cases course with
  | unallocated | promoted | stopped | retried => simp [Action.Rewrites, Replica.Checked, health]
  | unbooted | booted | unrestored | restored => simp [Action.Rewrites, Replica.Checked, begun]
  | unhealthy => simp [Action.Rewrites, Replica.Checked]
  | healthy => simp [Action.Rewrites, Replica.Checked, state]
  | unstopped err => simp [Action.Rewrites, Replica.Checked, state, health]
  | deleted gone => rcases gone with same | same <;> simp [same] at state
  | idle => simp

theorem find_perform {row : Replica} {actions : List Action}
    (stored : db.replicas.find vm.id = some row) (project : row.projectID = vm.projectID)
    (index : row.replicaIndex = vm.replicaIndex)
    (rewrites : ∀ action ∈ actions, action.Rewrites vm) :
    (actions.foldl (perform false) db).replicas.find vm.id = some (lastWritten row actions) := by
  induction actions generalizing db row with
  | nil => exact stored
  | cons action rest recurse =>
    have here := rewrites action List.mem_cons_self
    have later := fun other member => rewrites other (List.mem_cons_of_mem action member)
    cases action with
    | boot | restore | stop => exact recurse stored project index later
    | delete id => exact here.elim
    | put next =>
      have ⟨id, sameProject, sameIndex, checked⟩ := here
      have key : row.id = vm.id := ((Table.find_eq_some _ _ _).mp stored).2
      rw [← key] at stored
      have admitted := ReplicaDb.admitted_rewrite stored (id.trans key.symm)
        (sameProject.trans project.symm) (sameIndex.trans index.symm) checked
      have written := ReplicaDb.find_putVM_self admitted
      rw [id] at written
      exact recurse written sameProject sameIndex later

theorem find_perform_of_ne {actions : List Action} (db : ReplicaDb)
    (rewrites : ∀ action ∈ actions, action.Rewrites vm) {id : String} (other : id ≠ vm.id) :
    (actions.foldl (perform false) db).replicas.find id = db.replicas.find id := by
  induction actions generalizing db with
  | nil => rfl
  | cons action rest recurse =>
    have here := rewrites action List.mem_cons_self
    have later := fun next member => rewrites next (List.mem_cons_of_mem action member)
    rw [List.foldl_cons, recurse (perform false db action) later]
    cases action with
    | boot | restore | stop => rfl
    | delete id => exact here.elim
    | put next => exact db.find_putVM_of_ne false next id (by rw [here.1]; exact other)

theorem find_reconcileEach (outcomes : String → Outcomes) (listed : List Replica) (db : ReplicaDb)
    (distinct : (listed.map Replica.id).Nodup)
    (stored : ∀ vm ∈ listed, db.replicas.find vm.id = some vm) (id : String) :
    (∀ vm ∈ listed, vm.id = id → (listed.foldl (reconcileOne outcomes) db).replicas.find id =
        some (lastWritten vm (reconcile (outcomes id) vm))) ∧
      ((∀ vm ∈ listed, vm.id ≠ id) →
        (listed.foldl (reconcileOne outcomes) db).replicas.find id = db.replicas.find id) := by
  induction listed generalizing db with
  | nil =>
    refine ⟨?_, fun _ => rfl⟩
    intro vm member
    cases member
  | cons head rest recurse =>
    rw [List.map_cons, List.nodup_cons] at distinct
    have found := stored head List.mem_cons_self
    have rewrites := rewrites_reconcile (outcomes head.id)
      (db.checked head ((Table.find_eq_some _ _ _).mp found).1)
    have apart : ∀ vm ∈ rest, vm.id ≠ head.id := by
      intro vm member same
      exact distinct.1 (same ▸ List.mem_map_of_mem member)
    have kept : ∀ vm ∈ rest, (reconcileOne outcomes db head).replicas.find vm.id = some vm := by
      intro vm member
      exact (find_perform_of_ne _ rewrites (apart vm member)).trans
        (stored vm (List.mem_cons_of_mem head member))
    have ⟨listedLater, absentLater⟩ := recurse (reconcileOne outcomes db head) distinct.2 kept
    have here : (reconcileOne outcomes db head).replicas.find head.id =
        some (lastWritten head (reconcile (outcomes head.id) head)) :=
      find_perform found rfl rfl rewrites
    rw [List.foldl_cons]
    constructor
    · intro vm member same
      rcases List.mem_cons.mp member with first | later
      · rw [← same, first] at absentLater ⊢
        rw [absentLater apart]
        exact here
      · exact listedLater vm later same
    · intro absent
      have different : id ≠ head.id := fun same => absent head List.mem_cons_self same.symm
      rw [absentLater fun vm member => absent vm (List.mem_cons_of_mem head member)]
      exact find_perform_of_ne _ rewrites different

theorem find_of_listed {listing : RowsFault} (member : vm ∈ db.listVMs listing) :
    db.replicas.find vm.id = some vm :=
  (Table.find_eq_some _ _ _).mpr ⟨listing.delivered_subset _ member, rfl⟩

theorem nodup_listVMs (db : ReplicaDb) (listing : RowsFault) :
    ((db.listVMs listing).map Replica.id).Nodup :=
  db.replicas.unique.sublist ((listing.delivered_sublist _).map Replica.id)

theorem find_reconcileAll (db : ReplicaDb) (listing : RowsFault) (outcomes : String → Outcomes)
    (id : String) :
    (reconcileAll db listing outcomes).replicas.find id = db.replicas.find id ∨
      ∃ vm, db.replicas.find id = some vm ∧
        (reconcileAll db listing outcomes).replicas.find id =
          some (lastWritten vm (reconcile (outcomes id) vm)) := by
  have ⟨present, absent⟩ := find_reconcileEach outcomes (db.listVMs listing) db
    (nodup_listVMs db listing) (fun vm member => find_of_listed member) id
  by_cases listed : ∀ vm ∈ db.listVMs listing, vm.id ≠ id
  · exact Or.inl (absent listed)
  · push Not at listed
    have ⟨vm, member, same⟩ := listed
    have found := find_of_listed member
    rw [same] at found
    exact Or.inr ⟨vm, found, present vm member same⟩

def stateOf (db : ReplicaDb) (id : String) : Option VMState :=
  (db.replicas.find id).map Replica.state

def booted (actions : List Action) : Bool :=
  actions.any (fun action => match action with | .boot none | .restore none => true | _ => false)

def RunsBooted (id : String) (db : ReplicaDb) (listing : RowsFault)
    (outcomes : String → Outcomes) : Prop :=
  stateOf db id ≠ some .running →
    stateOf (reconcileAll db listing outcomes) id = some .running →
      ∃ vm, db.replicas.find id = some vm ∧ booted (reconcile (outcomes id) vm) = true

inductive Event where
  | cycle (listing : RowsFault) (outcomes : String → Outcomes)
  | snapshot (id status path memPath : String)

def setSnapshot (db : ReplicaDb) (id status path memPath : String) : ReplicaDb :=
  match db.replicas.find id with
  | none => db
  | some vm => db.putVM false
      { vm with snapshotStatus := status, snapshotPath := path, snapshotMemPath := memPath }

def step (db : ReplicaDb) (event : Event) : ReplicaDb :=
  match event with
  | .cycle listing outcomes => reconcileAll db listing outcomes
  | .snapshot id status path memPath => setSnapshot db id status path memPath

def Restorable (id : String) (db : ReplicaDb) (event : Event) : Prop :=
  ∀ listing outcomes vm, event = .cycle listing outcomes → db.replicas.find id = some vm →
    vm.state = .failed → vm.snapshotStatus = "ready" → vm.snapshotPath ≠ "" →
      vm.ipAddress ≠ "" → (outcomes id).restore = none

def Unaddressed (vm : Replica) : Prop := vm.state = .booting → vm.ipAddress = ""

theorem unaddressed_lastWritten {out : Outcomes} (unaddressed : Unaddressed vm)
    (restores : vm.state = .failed → vm.snapshotStatus = "ready" → vm.snapshotPath ≠ "" →
      vm.ipAddress ≠ "" → out.restore = none) :
    Unaddressed (lastWritten vm (reconcile out vm)) := by
  have course := reconcile_course out vm
  generalize reconcile out vm = actions at course
  cases course with
  | unallocated | unbooted | booted | promoted | unhealthy | stopped | restored | retried =>
    intro booting
    cases booting
  | healthy | unstopped =>
    intro booting
    exact unaddressed booting
  | deleted | idle => exact unaddressed
  | unrestored err state ready path failed =>
    intro _
    by_contra address
    have restored := restores state ready path address
    rw [failed] at restored
    cases restored

theorem booted_of_running {out : Outcomes} (unaddressed : Unaddressed vm)
    (before : vm.state ≠ .running) (after : (lastWritten vm (reconcile out vm)).state = .running) :
    booted (reconcile out vm) = true := by
  have course := reconcile_course out vm
  generalize reconcile out vm = actions at course after
  cases course with
  | booted | restored => rfl
  | promoted state address => exact absurd (unaddressed state) address
  | unallocated | unbooted | unhealthy | stopped | retried | unrestored => cases after
  | healthy state check => exact absurd state before
  | unstopped | deleted | idle => exact absurd after before

theorem find_setSnapshot (db : ReplicaDb) (id status path memPath other : String) :
    (setSnapshot db id status path memPath).replicas.find other = db.replicas.find other ∨
      ∃ vm, db.replicas.find other = some vm ∧
        (setSnapshot db id status path memPath).replicas.find other = some { vm with
          snapshotStatus := status, snapshotPath := path, snapshotMemPath := memPath } := by
  unfold setSnapshot
  cases found : db.replicas.find id with
  | none => exact Or.inl rfl
  | some vm =>
    have ⟨member, key⟩ := (Table.find_eq_some _ _ _).mp found
    by_cases same : other = vm.id
    · have stored : db.replicas.find vm.id = some vm := by
        rw [key]
        exact found
      have admitted : Admitted db { vm with
          snapshotStatus := status, snapshotPath := path, snapshotMemPath := memPath } :=
        ReplicaDb.admitted_rewrite stored rfl rfl rfl (db.checked vm member)
      rw [same]
      exact Or.inr ⟨vm, stored, ReplicaDb.find_putVM_self admitted⟩
    · exact Or.inl (db.find_putVM_of_ne _ _ _ same)

theorem unaddressed_step {id : String} (db : ReplicaDb) (event : Event)
    (unaddressed : ∀ vm, db.replicas.find id = some vm → Unaddressed vm)
    (restorable : Restorable id db event) :
    ∀ vm, (step db event).replicas.find id = some vm → Unaddressed vm := by
  cases event with
  | cycle listing outcomes =>
    intro row stored
    rcases find_reconcileAll _ _ _ id with same | ⟨vm, found, written⟩
    · exact unaddressed row (same.symm.trans stored)
    · have row_eq : row = lastWritten vm (reconcile (outcomes id) vm) :=
        Option.some.inj (stored.symm.trans written)
      rw [row_eq]
      exact unaddressed_lastWritten (unaddressed vm found)
        (restorable listing outcomes vm rfl found)
  | snapshot other status path memPath =>
    intro row stored
    rcases find_setSnapshot _ _ _ _ _ id with same | ⟨vm, found, written⟩
    · exact unaddressed row (same.symm.trans stored)
    · have row_eq := Option.some.inj (stored.symm.trans written)
      rw [row_eq]
      exact unaddressed vm found

theorem runsBooted_of_unaddressed {id : String}
    (unaddressed : ∀ vm, db.replicas.find id = some vm → Unaddressed vm) (listing : RowsFault)
    (outcomes : String → Outcomes) : RunsBooted id db listing outcomes := by
  intro before after
  unfold stateOf at before after
  rcases find_reconcileAll _ _ _ id with same | ⟨vm, found, written⟩
  · rw [same] at after
    exact absurd after before
  · rw [found] at before
    rw [written] at after
    refine ⟨vm, found, booted_of_running (unaddressed vm found) ?_ (Option.some.inj after)⟩
    intro running
    exact before (congrArg some running)

/-- A VM created pending and without an address becomes running only in cycles that boot or restore
it, if no cycle fails to restore it while it has an address. -/
theorem runs_only_booted (db : ReplicaDb) (vm : Replica)
    (created : db.replicas.find vm.id = some vm) (pending : vm.state = .pending)
    (events : List Event) (restorable : Guarded step (Restorable vm.id) db events)
    (before after : List Event) (listing : RowsFault) (outcomes : String → Outcomes)
    (split : events = before ++ .cycle listing outcomes :: after) :
    RunsBooted vm.id (run step db before) listing outcomes := by
  have start : ∀ row, db.replicas.find vm.id = some row → Unaddressed row := by
    intro row stored booting
    rw [created] at stored
    rw [← Option.some.inj stored, pending] at booting
    cases booting
  rw [split] at restorable
  have guarded := ((guarded_append _ _ _ _ _).mp restorable).1
  apply runsBooted_of_unaddressed
  exact run_invariant _ (Restorable vm.id)
    (fun db => ∀ row, db.replicas.find vm.id = some row → Unaddressed row)
    unaddressed_step db before start guarded

def sound : Outcomes :=
  ⟨.ok ⟨"06:00:00:00:00:01", "tap-vm-1", "10.42.0.10/24", "10.42.0.1"⟩, none, none, none, true⟩

def broken : Outcomes :=
  ⟨.error "no subnet", some "no kernel", some "no snapshot file", some "no process", false⟩

def createdVM : Replica where
  id := "vm-1"
  projectID := "p"
  replicaIndex := 0
  state := .pending
  healthStatus := .checking
  ipAddress := ""
  healthcheck := some ⟨"http", "/", 8080, 10⟩
  restart := "always"
  error := ""
  snapshotStatus := ""
  snapshotPath := ""
  snapshotMemPath := ""

def createdDb : ReplicaDb := .single createdVM (by decide)

def restoredEvents : List Event :=
  [.cycle .clean (fun _ => sound), .cycle .clean (fun _ => { sound with probe := false }),
    .snapshot "vm-1" "ready" "/snapshots/vm-1.snap" "/snapshots/vm-1.mem"]

theorem runs_only_booted_restored :
    RunsBooted "vm-1" (run step createdDb restoredEvents) .clean (fun _ => sound) ∧
      stateOf (run step createdDb restoredEvents) "vm-1" = some .failed ∧
      stateOf (reconcileAll (run step createdDb restoredEvents) .clean (fun _ => sound)) "vm-1" =
        some .running := by
  have restorable : Guarded step (Restorable "vm-1") createdDb
      (restoredEvents ++ [.cycle .clean (fun _ => sound)]) := by
    refine ⟨?_, ?_, ?_, ?_, trivial⟩
    · intro _ _ _ same
      cases same
      exact fun _ _ _ _ _ => rfl
    · intro _ _ _ same
      cases same
      exact fun _ _ _ _ _ => rfl
    · intro _ _ _ same
      cases same
    · intro _ _ _ same
      cases same
      exact fun _ _ _ _ _ => rfl
  exact ⟨runs_only_booted _ createdVM (by decide) rfl _ restorable restoredEvents [] .clean
    _ rfl, by decide, by decide⟩

def unrestoredEvents : List Event :=
  [.cycle .clean (fun _ => sound), .cycle .clean (fun _ => { sound with probe := false }),
    .snapshot "vm-1" "ready" "/snapshots/vm-1.snap" "/snapshots/vm-1.mem",
    .cycle .clean (fun _ => { sound with restore := some "no snapshot file" })]

theorem unrestored_vm_runs :
    stateOf (run step createdDb unrestoredEvents) "vm-1" = some .booting ∧
      stateOf (reconcileAll (run step createdDb unrestoredEvents) .clean (fun _ => broken)) "vm-1" =
        some .running ∧
      ¬ RunsBooted "vm-1" (run step createdDb unrestoredEvents) .clean (fun _ => broken) := by
  have before : stateOf (run step createdDb unrestoredEvents) "vm-1" = some .booting := by decide
  have after : stateOf (reconcileAll (run step createdDb unrestoredEvents) .clean
      (fun _ => broken)) "vm-1" = some .running := by decide
  have never : ((run step createdDb unrestoredEvents).replicas.find "vm-1").map
      (fun vm => booted (reconcile broken vm)) = some false := by decide
  refine ⟨before, after, ?_⟩
  intro runsBooted
  have ⟨vm, found, success⟩ := runsBooted (by rw [before]; decide) after
  rw [found, Option.map_some, success] at never
  exact absurd never (by decide)

end Porter.Controller
