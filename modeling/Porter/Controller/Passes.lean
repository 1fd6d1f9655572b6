import Porter.Controller.Replicas

/-!
# Passes of the controller beside the API

A pass lists the VMs once and then reconciles each from what it has listed. Between any two of its
steps the API may write or delete rows.
-/
namespace Porter.Controller

open Run Sql Store

structure Pass where
  db : ReplicaDb
  queue : List Replica
  todo : List Action
  touched : List String

inductive ApiWrite where
  | putVM (vm : Replica)
  | deleteVM (id : String)
  | deleteReplicasByProject (projectID : String)
  | deleteProject (projectID : String)

def ApiWrite.apply (fails : Bool) (db : ReplicaDb) : ApiWrite → ReplicaDb
  | .putVM vm => db.putVM fails vm
  | .deleteVM id => db.deleteVM fails id
  | .deleteReplicasByProject projectID => db.deleteReplicasByProject fails projectID
  | .deleteProject projectID => db.deleteProject fails projectID

def changed (before after : ReplicaDb) : List String :=
  (before.replicas.rows.filter (fun vm => stateOf after vm.id ≠ some vm.state)).map Replica.id

inductive PassEvent where
  | list (listing : RowsFault)
  | reconcile (out : Outcomes)
  | perform (fails : Bool)
  | api (fails : Bool) (write : ApiWrite)

variable (pass : Pass) (event : PassEvent)

/-- A pass begins when the one before is over, and a VM is reconciled after the one before it. -/
def passStep : Pass :=
  match event with
  | .list listing =>
    if pass.queue.isEmpty && pass.todo.isEmpty then
      { pass with queue := pass.db.listVMs listing, touched := [] }
    else pass
  | .reconcile out =>
    match pass.todo, pass.queue with
    | [], vm :: rest => { pass with queue := rest, todo := reconcile out vm }
    | _, _ => pass
  | .perform fails =>
    match pass.todo with
    | [] => pass
    | action :: rest => { pass with db := perform fails pass.db action, todo := rest }
  | .api fails write =>
    { pass with
      db := write.apply fails pass.db
      touched := pass.touched ++ changed pass.db (write.apply fails pass.db) }

/-- The next write leaves the states the API has changed, and the rows it has deleted, since the
list was read. -/
def Respects (fails : Bool) : Prop :=
  ∀ id ∈ pass.touched, stateOf (passStep pass (.perform fails)).db id = stateOf pass.db id

/-- `Reconcile` writes nothing for the VM, whatever the runtime answers. -/
def quiet (vm : Replica) : Bool :=
  match vm.state with
  | .stopped => true
  | .booting => vm.ipAddress = ""
  | .running => vm.healthcheck.isNone
  | .failed => ¬ (vm.snapshotStatus = "ready" ∧ vm.snapshotPath ≠ "") ∧
      ¬ (vm.restart = "always" ∨ vm.restart = "on-failure")
  | .pending | .stopping | .deleting | .deleted => false

def Action.writes (id : String) (action : Action) : Bool :=
  match action with
  | .put vm => vm.id = id
  | .delete gone => gone = id
  | .boot _ | .restore _ | .stop _ => false

def Settled (id : String) : Prop :=
  (∀ vm ∈ pass.queue, vm.id = id → quiet vm = true) ∧
    ∀ action ∈ pass.todo, action.writes id = false

instance (pass : Pass) (id : String) : Decidable (Settled pass id) :=
  inferInstanceAs (Decidable (_ ∧ _))

/-- The API writes a VM only while the controller has nothing more to write for it. -/
def Undisturbed : Prop :=
  match event with
  | .api fails write => ∀ id ∈ changed pass.db (write.apply fails pass.db), Settled pass id
  | .list _ | .reconcile _ | .perform _ => True

instance (pass : Pass) (event : PassEvent) : Decidable (Undisturbed pass event) :=
  match event with
  | .api fails write =>
    inferInstanceAs
      (Decidable (∀ id ∈ changed pass.db (write.apply fails pass.db), Settled pass id))
  | .list _ | .reconcile _ | .perform _ => .isTrue trivial

theorem reconcile_of_quiet {vm : Replica} (silent : quiet vm = true) (out : Outcomes) :
    reconcile out vm = [] := by
  unfold quiet at silent
  unfold reconcile
  cases state : vm.state with
  | stopped => rfl
  | booting =>
    rw [state] at silent
    simp only [decide_eq_true_eq] at silent
    simp [reconcileBooting, silent]
  | running =>
    rw [state] at silent
    simp only at silent
    simp [reconcileRunning, silent]
  | failed =>
    rw [state] at silent
    obtain ⟨snapshot, restart⟩ := of_decide_eq_true silent
    rw [reconcileFailed, if_neg snapshot, if_neg restart]
  | pending | stopping | deleting | deleted =>
    rw [state] at silent
    cases silent

variable {id : String}

theorem writes_of_ne {out : Outcomes} {vm : Replica} (other : vm.id ≠ id) :
    ∀ action ∈ reconcile out vm, action.writes id = false := by
  have course := reconcile_course out vm
  generalize reconcile out vm = actions at course
  cases course <;> simp [Action.writes, begun, other]

theorem stateOf_perform {db : ReplicaDb} {action : Action} (fails : Bool)
    (spares : action.writes id = false) : stateOf (perform fails db action) id = stateOf db id := by
  unfold stateOf
  cases action with
  | boot | restore | stop => rfl
  | put vm =>
    have other : id ≠ vm.id := by
      intro same
      simp [Action.writes, same] at spares
    exact congrArg _ (db.find_putVM_of_ne fails vm id other)
  | delete gone =>
    have other : id ≠ gone := by
      intro same
      simp [Action.writes, same] at spares
    exact congrArg _ (db.find_deleteVM_of_ne fails gone id other)

theorem settled_reconcile {pass : Pass} (settled : Settled pass id)
    (out : Outcomes) : Settled (passStep pass (.reconcile out)) id := by
  have ⟨listed, planned⟩ := settled
  simp only [passStep]
  split
  · rename_i vm rest _ queue
    rw [queue] at listed
    refine ⟨fun later member => listed later (List.mem_cons_of_mem vm member), ?_⟩
    by_cases same : vm.id = id
    · have silent := listed vm List.mem_cons_self same
      simp [reconcile_of_quiet silent out]
    · exact writes_of_ne same
  · exact settled

theorem settled_perform {pass : Pass} (settled : Settled pass id) (fails : Bool) :
    Settled (passStep pass (.perform fails)) id := by
  have ⟨listed, planned⟩ := settled
  simp only [passStep]
  split
  · exact settled
  · rename_i action rest todo
    rw [todo] at planned
    exact ⟨listed, fun later member => planned later (List.mem_cons_of_mem action member)⟩

theorem touched_reconcile (out : Outcomes) :
    (passStep pass (.reconcile out)).touched = pass.touched := by
  simp only [passStep]
  split <;> rfl

theorem touched_perform (fails : Bool) :
    (passStep pass (.perform fails)).touched = pass.touched := by
  simp only [passStep]
  split <;> rfl

theorem settled_step (settled : ∀ id ∈ pass.touched, Settled pass id)
    (undisturbed : Undisturbed pass event) :
    ∀ id ∈ (passStep pass event).touched, Settled (passStep pass event) id := by
  intro id touched
  cases event with
  | list listing =>
    simp only [passStep] at touched ⊢
    split at touched
    · cases touched
    · rename_i busy
      rw [if_neg busy]
      exact settled id touched
  | reconcile out =>
    rw [touched_reconcile] at touched
    exact settled_reconcile (settled id touched) out
  | perform fails =>
    rw [touched_perform] at touched
    exact settled_perform (settled id touched) fails
  | api fails write =>
    simp only [passStep, List.mem_append] at touched
    cases touched with
    | inl before => exact settled id before
    | inr now => exact undisturbed id now

theorem respects_of_settled {pass : Pass} (settled : ∀ id ∈ pass.touched, Settled pass id)
    (fails : Bool) : Respects pass fails := by
  intro id touched
  have planned := (settled id touched).2
  simp only [passStep]
  split
  · rfl
  · rename_i action rest todo
    rw [todo] at planned
    exact stateOf_perform fails (planned action List.mem_cons_self)

def Pass.idle (db : ReplicaDb) : Pass := ⟨db, [], [], []⟩

def reconcileEvents (outcomes : String → Outcomes) (vm : Replica) : List PassEvent :=
  .reconcile (outcomes vm.id) ::
    List.replicate (reconcile (outcomes vm.id) vm).length (.perform false)

theorem run_perform (db : ReplicaDb) (queue : List Replica) (todo : List Action)
    (touched : List String) :
    run passStep ⟨db, queue, todo, touched⟩ (List.replicate todo.length (.perform false)) =
      ⟨todo.foldl (perform false) db, queue, [], touched⟩ := by
  induction todo generalizing db with
  | nil => rfl
  | cons action rest recurse => exact recurse (perform false db action)

theorem run_queue (outcomes : String → Outcomes) (db : ReplicaDb) (queue : List Replica)
    (touched : List String) :
    run passStep ⟨db, queue, [], touched⟩ (queue.flatMap (reconcileEvents outcomes)) =
      ⟨queue.foldl (reconcileOne outcomes) db, [], [], touched⟩ := by
  induction queue generalizing db with
  | nil => rfl
  | cons vm rest recurse =>
    rw [List.flatMap_cons, run_append, reconcileEvents, run_cons]
    have reconciled := run_perform db rest (reconcile (outcomes vm.id) vm) touched
    exact (congrArg (run passStep · _) reconciled).trans (recurse (reconcileOne outcomes db vm))

theorem run_pass (db : ReplicaDb) (listing : RowsFault) (outcomes : String → Outcomes) :
    run passStep (Pass.idle db)
        (.list listing :: (db.listVMs listing).flatMap (reconcileEvents outcomes)) =
      Pass.idle (reconcileAll db listing outcomes) :=
  run_queue outcomes db (db.listVMs listing) []

/-- Where the API changes or deletes only VMs the controller has nothing more to write for, the
controller writes over no state, and recreates no row, that the API has changed or deleted since the
list was read. -/
theorem respects_of_undisturbed (db : ReplicaDb) (events : List PassEvent)
    (undisturbed : Guarded passStep Undisturbed (Pass.idle db) events)
    (before after : List PassEvent) (fails : Bool)
    (split : events = before ++ .perform fails :: after) :
    Respects (run passStep (Pass.idle db) before) fails := by
  rw [split] at undisturbed
  have guarded := ((guarded_append passStep _ _ before _).mp undisturbed).1
  have start : ∀ id ∈ (Pass.idle db).touched, Settled (Pass.idle db) id := by
    intro id touched
    cases touched
  exact respects_of_settled (run_invariant passStep Undisturbed
    (fun pass => ∀ id ∈ pass.touched, Settled pass id) settled_step _ before start guarded) fails

def secondVM : Replica := { createdVM with id := "vm-2", replicaIndex := 1 }

def deletedAfterBoot : List PassEvent :=
  [.list .clean, .reconcile sound, .perform false, .perform false, .perform false,
    .api false (.deleteVM "vm-1"), .reconcile sound]

theorem respects_of_undisturbed_deleted :
    Respects (run passStep (Pass.idle (createdDb.putVM false secondVM)) deletedAfterBoot) false ∧
      (run passStep (Pass.idle (createdDb.putVM false secondVM)) deletedAfterBoot).touched =
        ["vm-1"] :=
  ⟨respects_of_undisturbed (createdDb.putVM false secondVM) (deletedAfterBoot ++ [.perform false])
    (by decide) deletedAfterBoot [] false rfl, by decide⟩

def deletedBeforeBoot : List PassEvent :=
  [.list .clean, .reconcile sound, .api false (.deleteVM "vm-1")]

def failedDb : ReplicaDb :=
  run step createdDb [.cycle .clean (fun _ => sound),
    .cycle .clean (fun _ => { sound with probe := false })]

def snapshottedVM : Replica :=
  { createdVM with
    state := .running
    ipAddress := "10.42.0.10/24"
    snapshotStatus := "ready"
    snapshotPath := "/snapshots/vm-1.snap"
    snapshotMemPath := "/snapshots/vm-1.mem" }

def snapshottedInPass : List PassEvent :=
  [.list .clean, .api false (.putVM snapshottedVM), .reconcile sound]

theorem stale_writes_land :
    (stateOf (run passStep (Pass.idle createdDb) deletedBeforeBoot).db "vm-1" = none ∧
      stateOf (run passStep (Pass.idle createdDb) (deletedBeforeBoot ++ [.perform false])).db
        "vm-1" = some .booting) ∧
    stateOf (run passStep (Pass.idle failedDb) snapshottedInPass).db "vm-1" = some .running ∧
      stateOf (run passStep (Pass.idle failedDb) (snapshottedInPass ++ [.perform false])).db
        "vm-1" = some .pending ∧
    ¬ Respects (run passStep (Pass.idle createdDb) deletedBeforeBoot) false ∧
    ¬ Respects (run passStep (Pass.idle failedDb) snapshottedInPass) false := by
  refine ⟨⟨by decide, by decide⟩, by decide, by decide, ?_, ?_⟩
  · intro respects
    exact absurd (respects "vm-1" (by decide)) (by decide)
  · intro respects
    exact absurd (respects "vm-1" (by decide)) (by decide)

end Porter.Controller
