import Porter.Go.Heap
import Porter.Run.Interleaving

/-!
# Firecracker processes

Which processes `CreateAndStartVM`, `LoadSnapshot`, `StopVM` and `Close` of
`internal/runtime/fc_client.go` start and kill, and what they record.
-/
namespace Porter.Runtime.Fc

open Go Run Sql

structure Process where
  vmID : String
  serial : Nat
deriving DecidableEq

structure FCClient where
  vms : GoMap String Process
  live : List Process
  started : Nat

variable (client : FCClient)

namespace FCClient

def new : FCClient := ⟨GoMap.nil, [], 0⟩

def launch (id : String) : FCClient where
  vms := client.vms.set (id, ⟨id, client.started⟩)
  live := ⟨id, client.started⟩ :: client.live
  started := client.started + 1

def kill (process : Process) : FCClient :=
  { client with live := client.live.filter (fun other => other ≠ process) }

def forget (id : String) : FCClient :=
  { client with vms := client.vms.delete id }

def close : FCClient :=
  { client.vms.rows.foldl (fun rest entry => rest.kill entry.2) client with vms := GoMap.nil }

end FCClient

inductive Part where
  | host | socketDir | start | socket | configure | instanceStart | load
deriving DecidableEq

def Part.context : Part → String
  | .host => ""
  | .socketDir => "create socket dir: "
  | .start => "start firecracker: "
  | .socket => "wait for socket: "
  | .configure => "configure VM: "
  | .instanceStart => "start VM: "
  | .load => ""

def createAndStartVM : List Part :=
  [.host, .socketDir, .start, .socket, .configure, .instanceStart]

def loadSnapshot : List Part := [.host, .socketDir, .start, .socket, .load]

inductive Request where
  | createAndStartVM (id : String)
  | loadSnapshot (id : String)
  | stopVM (id : String)
  | close

inductive Call where
  | launch (id : String) (parts : List Part)
  | stop (id : String)
  | halt (id : String) (process : Process)
  | wait (id : String) (process : Process)
  | forget (id : String)
  | close
  | returned (err : Option String)

def begin : Request → Call
  | .createAndStartVM id => .launch id createAndStartVM
  | .loadSnapshot id => .launch id loadSnapshot
  | .stopVM id => .stop id
  | .close => .close

variable (call : Call) (err : Option String)

def act : FCClient × Call :=
  match call with
  | .launch _ [] => (client, .returned none)
  | .launch id (part :: parts) =>
    match err with
    | some text => (client, .returned (some (part.context ++ text)))
    | none => (if part = .start then client.launch id else client, .launch id parts)
  | .stop id =>
    match client.vms.find id with
    | none => (client, .returned none)
    | some entry => (client, .halt id entry.2)
  | .halt id process => (if err.isSome then client.kill process else client, .wait id process)
  -- It exits within five seconds or is killed.
  | .wait id process => (client.kill process, .forget id)
  | .forget id => (client.forget id, .returned none)
  | .close => (client.close, .returned none)
  | .returned result => (client, .returned result)

def system : System FCClient Call Request (Option String) Process :=
  ⟨fun _ => begin, act, FCClient.kill⟩

def opened : Pool FCClient Call := ⟨FCClient.new, []⟩

def Recorded : Prop :=
  (∀ p ∈ client.live, ∀ q ∈ client.live, p.vmID = q.vmID → p = q) ∧
    ∀ p ∈ client.live, client.vms.find p.vmID = some (p.vmID, p)

instance (client : FCClient) : Decidable (Recorded client) :=
  inferInstanceAs (Decidable (_ ∧ _))

def Call.drops : Option String :=
  match call with
  | .launch id (.start :: _) => if err.isNone then some id else none
  | .forget id => some id
  | _ => none

variable (pool : Pool FCClient Call) (event : Event Request (Option String) Process)

def Spare : Prop :=
  ∀ index err call id, event = .act index err → pool.calls[index]? = some call →
    call.drops err = some id → ∀ p ∈ pool.shared.live, p.vmID ≠ id

inductive Effect (client : FCClient) : Option String → FCClient → Prop where
  | idle : Effect client none client
  | killed (process : Process) : Effect client none (client.kill process)
  | launched (id : String) : Effect client (some id) (client.launch id)
  | forgot (id : String) : Effect client (some id) (client.forget id)
  | closed : Effect client none client.close

theorem act_effect : Effect client (call.drops err) (act client call err).1 := by
  cases call with
  | launch id parts =>
    cases parts with
    | nil => exact .idle
    | cons part parts =>
      cases err with
      | some text => cases part <;> exact .idle
      | none =>
        cases part with
        | start => exact .launched id
        | host | socketDir | socket | configure | instanceStart | load => exact .idle
  | stop id =>
    have same : (act client (.stop id) err).1 = client := by
      simp only [act]
      cases client.vms.find id with
      | none | some => rfl
    rw [same]
    exact .idle
  | halt id process =>
    cases err with
    | some text => exact .killed process
    | none => exact .idle
  | wait id process => exact .killed process
  | forget id => exact .forgot id
  | close => exact .closed
  | returned result => exact .idle

@[simp] theorem FCClient.mem_live_kill (process p : Process) :
    p ∈ (client.kill process).live ↔ p ∈ client.live ∧ p ≠ process := by
  simp [FCClient.kill]

theorem FCClient.mem_live_close (p : Process) :
    p ∈ client.close.live ↔ p ∈ client.live ∧ ∀ entry ∈ client.vms.rows, p ≠ entry.2 := by
  have killed : ∀ (entries : List (String × Process)) (rest : FCClient),
      p ∈ (entries.foldl (fun rest entry => rest.kill entry.2) rest).live ↔
        p ∈ rest.live ∧ ∀ entry ∈ entries, p ≠ entry.2 := by
    intro entries
    induction entries with
    | nil => simp
    | cons entry entries recurse =>
      intro rest
      rw [List.foldl_cons, recurse, mem_live_kill, List.forall_mem_cons, and_assoc]
  exact killed client.vms.rows client

def Numbered : Prop := ∀ p ∈ client.live, p.serial < client.started

theorem started_close : client.close.started = client.started := by
  have killed : ∀ (entries : List (String × Process)) (rest : FCClient),
      (entries.foldl (fun rest entry => rest.kill entry.2) rest).started = rest.started := by
    intro entries
    induction entries with
    | nil => exact fun _ => rfl
    | cons entry entries recurse => exact fun rest => recurse (rest.kill entry.2)
  exact killed client.vms.rows client

theorem numbered_effect {client next : FCClient} {drops : Option String}
    (effect : Effect client drops next) (numbered : Numbered client) : Numbered next := by
  cases effect with
  | idle | forgot => exact numbered
  | killed process =>
    intro p alive
    exact numbered p ((client.mem_live_kill _ p).mp alive).1
  | launched id =>
    intro p alive
    rcases List.mem_cons.mp alive with new | old
    · rw [new]
      exact Nat.lt_succ_self _
    · exact Nat.lt_succ_of_lt (numbered p old)
  | closed =>
    intro p alive
    rw [started_close]
    exact numbered p ((client.mem_live_close p).mp alive).1

theorem Recorded.kill {client : FCClient} (recorded : Recorded client) (process : Process) :
    Recorded (client.kill process) := by
  have survives := fun p alive => ((client.mem_live_kill process p).mp alive).1
  constructor
  · intro p first q second same
    exact recorded.1 p (survives p first) q (survives q second) same
  · intro p alive
    exact recorded.2 p (survives p alive)

theorem Recorded.close {client : FCClient} (recorded : Recorded client) :
    Recorded client.close := by
  have none : ∀ p, p ∉ client.close.live := by
    intro p alive
    have ⟨was, spared⟩ := (client.mem_live_close p).mp alive
    have stored := ((client.vms.find_eq_some _ _).mp (recorded.2 p was)).1
    exact spared _ stored rfl
  constructor
  · intro p alive
    exact absurd alive (none p)
  · intro p alive
    exact absurd alive (none p)

theorem find_iff_mem (vms : GoMap String Process) (p : Process) :
    vms.find p.vmID = some (p.vmID, p) ↔ (p.vmID, p) ∈ vms.rows := by
  rw [Table.find_eq_some]
  exact and_iff_left rfl

theorem recorded_launch {client : FCClient} (recorded : Recorded client)
    (numbered : Numbered client) (id : String) :
    Recorded (client.launch id) ↔ ∀ p ∈ client.live, p.vmID ≠ id := by
  have started : ⟨id, client.started⟩ ∈ (client.launch id).live := List.mem_cons_self
  constructor
  · intro next p alive same
    have equal := next.1 p (List.mem_cons_of_mem _ alive) _ started same
    have older := numbered p alive
    rw [equal] at older
    exact Nat.lt_irrefl _ older
  · intro spare
    constructor
    · intro p first q second same
      rcases List.mem_cons.mp first with newP | oldP
      · rcases List.mem_cons.mp second with newQ | oldQ
        · rw [newP, newQ]
        · rw [newP] at same
          exact absurd same.symm (spare q oldQ)
      · rcases List.mem_cons.mp second with newQ | oldQ
        · rw [newQ] at same
          exact absurd same (spare p oldP)
        · exact recorded.1 p oldP q oldQ same
    · intro p alive
      rw [find_iff_mem]
      apply (client.vms.mem_set _ _).mpr
      rcases List.mem_cons.mp alive with new | old
      · rw [new]
        exact Or.inl rfl
      · exact Or.inr ⟨(find_iff_mem _ p).mp (recorded.2 p old), spare p old⟩

theorem recorded_forget {client : FCClient} (recorded : Recorded client) (id : String) :
    Recorded (client.forget id) ↔ ∀ p ∈ client.live, p.vmID ≠ id := by
  have kept : ∀ p, (p.vmID, p) ∈ (client.forget id).vms.rows ↔
      (p.vmID, p) ∈ client.vms.rows ∧ p.vmID ≠ id := by
    intro p
    simp [FCClient.forget, GoMap.delete]
  constructor
  · intro next p alive
    exact ((kept p).mp ((find_iff_mem _ p).mp (next.2 p alive))).2
  · intro spare
    refine ⟨recorded.1, ?_⟩
    intro p alive
    have stored := (find_iff_mem _ p).mp (recorded.2 p alive)
    exact (find_iff_mem _ p).mpr ((kept p).mpr ⟨stored, spare p alive⟩)

theorem recorded_effect {client next : FCClient} {drops : Option String}
    (recorded : Recorded client) (numbered : Numbered client)
    (effect : Effect client drops next) :
    Recorded next ↔ ∀ id, drops = some id → ∀ p ∈ client.live, p.vmID ≠ id := by
  have dropsNone : ∀ id, (none : Option String) = some id → ∀ p ∈ client.live, p.vmID ≠ id := by
    intro id absurd
    cases absurd
  cases effect with
  | idle => exact ⟨fun _ => dropsNone, fun _ => recorded⟩
  | killed process => exact ⟨fun _ => dropsNone, fun _ => recorded.kill process⟩
  | closed => exact ⟨fun _ => dropsNone, fun _ => recorded.close⟩
  | launched id =>
    rw [recorded_launch recorded numbered id]
    constructor
    · intro spare other same
      rw [← Option.some.inj same]
      exact spare
    · intro spare
      exact spare id rfl
  | forgot id =>
    rw [recorded_forget recorded id]
    constructor
    · intro spare other same
      rw [← Option.some.inj same]
      exact spare
    · intro spare
      exact spare id rfl

theorem numbered_step (numbered : Numbered pool.shared) :
    Numbered (system.step pool event).shared := by
  cases event with
  | begin request => exact numbered
  | outside process => exact numbered_effect (.killed process) numbered
  | act index err =>
    cases present : pool.calls[index]? with
    | none =>
      rw [System.step_act_of_none _ present]
      exact numbered
    | some call =>
      rw [System.step_act_of_some _ present]
      exact numbered_effect (act_effect _ _ err) numbered

theorem recorded_step (recorded : Recorded pool.shared) (numbered : Numbered pool.shared) :
    Recorded (system.step pool event).shared ↔ Spare pool event := by
  cases event with
  | begin request =>
    refine ⟨fun _ => ?_, fun _ => recorded⟩
    intro _ _ _ _ same
    cases same
  | outside process =>
    refine ⟨fun _ => ?_, fun _ => recorded.kill process⟩
    intro _ _ _ _ same
    cases same
  | act index err =>
    cases present : pool.calls[index]? with
    | none =>
      rw [System.step_act_of_none system present]
      refine ⟨fun _ => ?_, fun _ => recorded⟩
      intro _ _ _ _ same found
      cases same
      rw [present] at found
      cases found
    | some call =>
      have effect := act_effect pool.shared call err
      rw [System.step_act_of_some system present]
      show Recorded (act pool.shared call err).1 ↔ _
      rw [recorded_effect recorded numbered effect]
      constructor
      · intro spare _ _ _ id same found
        cases same
        rw [present] at found
        cases found
        exact spare id
      · intro spare id drops
        exact spare index err call id rfl present drops

/-- At every moment each VM has at most one live process, recorded for it, exactly in the histories
that drop no record of a VM with a live process. -/
theorem recorded_iff_spare (events : List (Event Request (Option String) Process)) :
    (∀ before after, events = before ++ after →
        Recorded (run system.step opened before).shared) ↔
      Guarded system.step Spare opened events := by
  have fresh : Numbered opened.shared := by
    intro p alive
    cases alive
  have sharp : ∀ pool event, Recorded pool.shared ∧ Numbered pool.shared →
      (Recorded (system.step pool event).shared ↔ Spare pool event) ∧ (Spare pool event →
        Recorded (system.step pool event).shared ∧ Numbered (system.step pool event).shared) := by
    rintro pool event ⟨recorded, counted⟩
    have kept := recorded_step _ event recorded counted
    exact ⟨kept, fun spare => ⟨kept.mpr spare, numbered_step _ _ counted⟩⟩
  exact (guarded_iff_shown _ _ (fun pool => Recorded pool.shared)
    (fun _ known => known.1) sharp opened events ⟨by decide, fresh⟩).symm

def retriedEvents : List (Event Request (Option String) Process) :=
  [.begin (.createAndStartVM "vm-1"), .act 0 none, .act 0 none, .act 0 none,
    .act 0 (some "timeout waiting for socket /run/porter/vm-1.sock"),
    .begin (.createAndStartVM "vm-1"), .act 1 none, .act 1 none, .act 1 none]

def restartedEvents : List (Event Request (Option String) Process) :=
  [.begin (.createAndStartVM "vm-1"), .act 0 none, .act 0 none, .act 0 none,
    .begin (.stopVM "vm-1"), .act 1 none, .act 1 none, .act 1 none,
    .begin (.createAndStartVM "vm-1"), .act 2 none, .act 2 none, .act 2 none, .act 1 none]

theorem processes_are_lost :
    (run system.step opened retriedEvents).shared.live = [⟨"vm-1", 1⟩, ⟨"vm-1", 0⟩] ∧
      (run system.step opened retriedEvents).shared.vms.rows = [("vm-1", ⟨"vm-1", 1⟩)] ∧
      ¬ Recorded (run system.step opened retriedEvents).shared ∧
      (run system.step opened restartedEvents).shared.live = [⟨"vm-1", 1⟩] ∧
      (run system.step opened restartedEvents).shared.vms.rows = [] ∧
      ¬ Recorded (run system.step opened restartedEvents).shared := by
  decide

end Porter.Runtime.Fc
