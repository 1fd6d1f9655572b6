import Porter.Api.Http
import Porter.Run.Guarded
import Porter.Store.Servers

/-!
# Nodes, their heartbeats and the node controller

A node reports itself with heartbeats, and the passes of `internal/controller/node_controller.go`
walk it through its registration and watch it once it is ready.
-/
namespace Porter.Controller.Nodes

open Api Run Sql Store

inductive NodeState where
  | register | agentConnected | hardwareDiscovered | kvmVerified | firecrackerReady | buildKitReady
  | networkReady | storageReady | capabilitiesRegistered | cordoned | draining | maintenance | ready
  | unhealthy
deriving DecidableEq

variable {c : Cluster} {srv : Server} {state : NodeState}

namespace NodeState

def text : NodeState → String
  | register => "Register"
  | agentConnected => "AgentConnected"
  | hardwareDiscovered => "HardwareDiscovered"
  | kvmVerified => "KVMVerified"
  | firecrackerReady => "FirecrackerReady"
  | buildKitReady => "BuildKitReady"
  | networkReady => "NetworkReady"
  | storageReady => "StorageReady"
  | capabilitiesRegistered => "CapabilitiesRegistered"
  | cordoned => "Cordoned"
  | draining => "Draining"
  | maintenance => "Maintenance"
  | ready => "ready"
  | unhealthy => "Unhealthy"

def all : List NodeState :=
  [register, agentConnected, hardwareDiscovered, kvmVerified, firecrackerReady, buildKitReady,
    networkReady, storageReady, capabilitiesRegistered, cordoned, draining, maintenance, ready,
    unhealthy]

def ofStatus (status : String) : Option NodeState :=
  if status = "" then some register else all.find? (fun state => state.text = status)

def operator : NodeState → Bool
  | cordoned | draining | maintenance => true
  | _ => false

theorem text_injective : Function.Injective text := by
  intro a b
  cases a <;> cases b <;> decide

theorem ofStatus_text (state : NodeState) : ofStatus state.text = some state := by
  cases state <;> rfl

theorem text_of_ofStatus {status : String} (known : ofStatus status = some state)
    (filled : status ≠ "") : status = state.text := by
  rw [ofStatus, if_neg filled] at known
  have found := List.find?_some known
  exact (of_decide_eq_true found).symm

end NodeState

def minute : Nat := 60000000000

def serverHasCapability (_ : Server) (cap : String) : Bool :=
  cap ∈ ["kvm", "firecracker", "buildkit", "tap", "storage"]

def enter (srv : Server) (state : NodeState) : Server := { srv with status := state.text }

def enterWith (srv : Server) (cap : String) (state : NodeState) : Server :=
  if serverHasCapability srv cap then enter srv state else enter srv .unhealthy

def reconcileRegister (srv : Server) : Server := enter srv .agentConnected

variable (now : Nat)

def reconcileAgentConnected (srv : Server) : Server :=
  { enter srv .hardwareDiscovered with lastSeen := some now }

def reconcileHardwareDiscovered (srv : Server) : Server := enterWith srv "kvm" .kvmVerified

def reconcileKVMVerified (srv : Server) : Server := enterWith srv "firecracker" .firecrackerReady

def reconcileFirecrackerReady (srv : Server) : Server := enterWith srv "buildkit" .buildKitReady

def reconcileBuildKitReady (srv : Server) : Server := enterWith srv "tap" .networkReady

def reconcileNetworkReady (srv : Server) : Server := enterWith srv "storage" .storageReady

def reconcileStorageReady (srv : Server) : Server := enter srv .capabilitiesRegistered

def reconcileCapabilitiesRegistered (srv : Server) : Server := enter srv .ready

def stale (srv : Server) : Bool :=
  match srv.lastSeen with
  | some t => now > t + minute
  | none => false

def reconcileReady (srv : Server) : Server :=
  if stale now srv then enter srv .unhealthy else { srv with lastSeen := some now }

def reconcileUnhealthy (srv : Server) : Server :=
  if serverHasCapability srv "kvm" && serverHasCapability srv "firecracker" then
    enter srv .register
  else srv

def reconcile (srv : Server) : Server :=
  match NodeState.ofStatus srv.status with
  | some .register => reconcileRegister srv
  | some .agentConnected => reconcileAgentConnected now srv
  | some .hardwareDiscovered => reconcileHardwareDiscovered srv
  | some .kvmVerified => reconcileKVMVerified srv
  | some .firecrackerReady => reconcileFirecrackerReady srv
  | some .buildKitReady => reconcileBuildKitReady srv
  | some .networkReady => reconcileNetworkReady srv
  | some .storageReady => reconcileStorageReady srv
  | some .capabilitiesRegistered => reconcileCapabilitiesRegistered srv
  | some .cordoned | some .draining | some .maintenance => srv
  | some .ready => reconcileReady now srv
  | some .unhealthy => reconcileUnhealthy srv
  | none => reconcileRegister srv

/-- What `handleServerHeartbeat` makes of a body; without a status a node is online. -/
def accepted (body : Except String ServerHeartbeat) : Except String ServerHeartbeat :=
  match body with
  | .error err => .error ("bad request: " ++ err)
  | .ok h =>
    if h.id = "" then .error "id is required"
    else .ok { h with status := if h.status = "" then "online" else h.status }

structure HeartbeatReply where
  status : String
  id : String

variable (servers : Servers)

def handleServerHeartbeat (fails : Bool) (now : Nat) (body : Except String ServerHeartbeat) :
    Response HeartbeatReply × Servers :=
  match accepted body with
  | .error message => (.error statusBadRequest message, servers)
  | .ok h =>
    let (found, servers) := applyHeartbeat servers fails now h
    if found then (.json statusOK ⟨"ok", h.id⟩, servers)
    else (.error statusNotFound "server not registered — POST /servers first", servers)

structure Cluster where
  servers : Servers
  queue : List Server
  now : Nat
  beats : String → Option Nat

def Cluster.start (now : Nat) : Cluster :=
  ⟨servers, [], now, fun id => (servers.find id).bind Server.lastSeen⟩

inductive Action where
  | heartbeat (body : Except String ServerHeartbeat) (fails : Bool)
  | list (listing : RowsFault)
  | reconcile (fails : Bool)

structure Event where
  elapsed : Nat
  action : Action

def Cluster.after (c : Cluster) (elapsed : Nat) : Cluster := { c with now := c.now + elapsed }

def Cluster.act (c : Cluster) : Action → Cluster
  | .heartbeat body fails =>
    match accepted body with
    | .error _ => c
    | .ok h =>
      { c with
        servers := (handleServerHeartbeat c.servers fails c.now body).2
        beats := Function.update c.beats h.id (some c.now) }
  | .list listing =>
    if c.queue.isEmpty then { c with queue := listServers c.servers listing } else c
  | .reconcile fails =>
    match c.queue with
    | [] => c
    | srv :: rest =>
      { c with servers := putServer c.servers fails (reconcile c.now srv), queue := rest }

def step (c : Cluster) (event : Event) : Cluster := (c.after event.elapsed).act event.action

def nextState (srv : Server) : NodeState → NodeState
  | .register => .agentConnected
  | .agentConnected => .hardwareDiscovered
  | .hardwareDiscovered => .kvmVerified
  | .kvmVerified => .firecrackerReady
  | .firecrackerReady => .buildKitReady
  | .buildKitReady => .networkReady
  | .networkReady => .storageReady
  | .storageReady => .capabilitiesRegistered
  | .capabilitiesRegistered => .ready
  | .cordoned => .cordoned
  | .draining => .draining
  | .maintenance => .maintenance
  | .ready => if stale now srv then .unhealthy else .ready
  | .unhealthy => .register

theorem reconcile_of_ofStatus (known : NodeState.ofStatus srv.status = some state) :
    (reconcile now srv).id = srv.id ∧
      (reconcile now srv).status = (nextState now srv state).text := by
  have kept : ∀ other, NodeState.ofStatus srv.status = some other → other ≠ .register →
      srv.status = other.text := by
    intro other here differ
    by_cases empty : srv.status = ""
    · rw [empty] at here
      exact absurd (Option.some.inj here).symm differ
    · exact NodeState.text_of_ofStatus here empty
  unfold reconcile
  rw [known]
  cases state with
  | register | agentConnected | hardwareDiscovered | kvmVerified | firecrackerReady
  | buildKitReady | networkReady | storageReady | capabilitiesRegistered | unhealthy =>
    exact ⟨rfl, rfl⟩
  | cordoned => exact ⟨rfl, kept .cordoned known (by decide)⟩
  | draining => exact ⟨rfl, kept .draining known (by decide)⟩
  | maintenance => exact ⟨rfl, kept .maintenance known (by decide)⟩
  | ready =>
    simp only [reconcileReady, nextState]
    split
    · exact ⟨rfl, rfl⟩
    · exact ⟨rfl, kept _ known (by decide)⟩

theorem reconcile_of_unknown (unknown : NodeState.ofStatus srv.status = none) :
    reconcile now srv = enter srv .agentConnected := by
  unfold reconcile
  rw [unknown]
  rfl

theorem id_reconcile (srv : Server) : (reconcile now srv).id = srv.id := by
  cases known : NodeState.ofStatus srv.status with
  | none => rw [reconcile_of_unknown now known, enter]
  | some state => exact (reconcile_of_ofStatus now known).1

theorem reconcile_ready (srv : Server) :
    (reconcile now srv).status = NodeState.text .ready ↔
      srv.status = NodeState.text .capabilitiesRegistered ∨
        srv.status = NodeState.text .ready ∧ stale now srv = false := by
  have fromText : ∀ state, srv.status = NodeState.text state →
      NodeState.ofStatus srv.status = some state := by
    intro state same
    rw [same, NodeState.ofStatus_text]
  constructor
  · intro left
    cases known : NodeState.ofStatus srv.status with
    | none =>
      rw [reconcile_of_unknown _ known] at left
      have same : NodeState.agentConnected = .ready := NodeState.text_injective left
      contradiction
    | some state =>
      have next := NodeState.text_injective ((reconcile_of_ofStatus _ known).2.symm.trans left)
      have filled : srv.status ≠ "" := by
        intro empty
        rw [empty] at known
        rw [← Option.some.inj known] at next
        contradiction
      have text := NodeState.text_of_ofStatus known filled
      cases state with
      | capabilitiesRegistered => exact Or.inl text
      | ready =>
        refine Or.inr ⟨text, ?_⟩
        cases silent : stale now srv with
        | false => rfl
        | true =>
          rw [nextState, if_pos silent] at next
          contradiction
      | _ => contradiction
  · rintro (registered | ⟨ready, seen⟩)
    · exact (reconcile_of_ofStatus now (fromText _ registered)).2
    · rw [(reconcile_of_ofStatus now (fromText _ ready)).2, nextState, seen]
      rfl

theorem reconcile_operator (status : srv.status = state.text) (operator : state.operator = true) :
    reconcile now srv = srv := by
  unfold reconcile
  rw [status, NodeState.ofStatus_text]
  cases state with
  | cordoned | draining | maintenance => rfl
  | _ => contradiction

variable {body : Except String ServerHeartbeat} {h : ServerHeartbeat}

theorem servers_heartbeat (fails : Bool) (now : Nat) (ok : accepted body = .ok h) :
    (handleServerHeartbeat servers fails now body).2 = (applyHeartbeat servers fails now h).2 := by
  unfold handleServerHeartbeat
  rw [ok]
  simp only
  split <;> rfl

theorem act_heartbeat (c : Cluster) (fails : Bool) (ok : accepted body = .ok h) :
    c.act (.heartbeat body fails) = { c with
      servers := (applyHeartbeat c.servers fails c.now h).2
      beats := Function.update c.beats h.id (some c.now) } := by
  rw [← servers_heartbeat _ _ _ ok]
  simp only [Cluster.act, ok]

variable {rest : List Server}

theorem act_reconcile (next : c.queue = srv :: rest) (fails : Bool) :
    c.act (.reconcile fails) = { c with
      servers := putServer c.servers fails (reconcile c.now srv)
      queue := rest } := by
  simp only [Cluster.act, next]

theorem find_heartbeat (c : Cluster) (fails : Bool) (ok : accepted body = .ok h) (id : String) :
    (c.act (.heartbeat body fails)).servers.find id =
      if fails = false ∧ id = h.id then (c.servers.find id).map (h.report c.now)
      else c.servers.find id := by
  rw [← find_applyHeartbeat, act_heartbeat c _ ok]

variable {row : Server}

theorem find_reconcile (next : c.queue = srv :: rest) (stored : c.servers.find srv.id = some row)
    (fails : Bool) (id : String) :
    (c.act (.reconcile fails)).servers.find id =
      if fails = false ∧ id = srv.id then some ((reconcile c.now srv).written row)
      else c.servers.find id := by
  have same := id_reconcile c.now srv
  rw [← same] at stored ⊢
  rw [← find_putServer fails stored id, act_reconcile next]

def Attested (beats : String → Option Nat) (srv : Server) : Prop :=
  ∀ t, srv.lastSeen = some t → ∃ b, beats srv.id = some b ∧ t ≤ b

structure Recorded (c : Cluster) : Prop where
  rows : ∀ id row, c.servers.find id = some row → Attested c.beats row
  listed : ∀ srv ∈ c.queue, Attested c.beats srv ∧ ∃ row, c.servers.find srv.id = some row
  clock : ∀ id b, c.beats id = some b → b ≤ c.now

theorem Recorded.after (recorded : Recorded c) (elapsed : Nat) :
    Recorded (c.after elapsed) where
  rows := recorded.rows
  listed := recorded.listed
  clock := fun id b sent => Nat.le_trans (recorded.clock id b sent) (Nat.le_add_right _ _)

theorem Attested.beat {beats : String → Option Nat} (attested : Attested beats srv) {now : Nat}
    (clock : ∀ id b, beats id = some b → b ≤ now) (id : String) :
    Attested (Function.update beats id (some now)) srv := by
  intro t seen
  have ⟨b, sent, later⟩ := attested t seen
  by_cases same : srv.id = id
  · rw [same, Function.update_self]
    exact ⟨now, rfl, Nat.le_trans later (clock _ b sent)⟩
  · rw [Function.update_of_ne same]
    exact ⟨b, sent, later⟩

theorem Recorded.heartbeat (recorded : Recorded c) (body : Except String ServerHeartbeat)
    (fails : Bool) : Recorded (c.act (.heartbeat body fails)) := by
  cases ok : accepted body with
  | error message =>
    simp only [Cluster.act, ok]
    exact recorded
  | ok h =>
    have find := find_heartbeat c fails ok
    rw [act_heartbeat c _ ok] at find ⊢
    constructor
    · intro id row found
      rw [find] at found
      split at found
      · obtain ⟨old, stored, new⟩ := Option.map_eq_some_iff.mp found
        rename_i own
        intro t seen
        have keyed : row.id = h.id := by
          rw [← new, ← own.2]
          exact ((Table.find_eq_some _ _ _).mp stored).2
        simp only [keyed, Function.update_self]
        rw [← new] at seen
        exact ⟨c.now, rfl, Nat.le_of_eq (Option.some.inj seen).symm⟩
      · exact (recorded.rows id row found).beat recorded.clock h.id
    · intro srv member
      obtain ⟨attested, row, stored⟩ := recorded.listed srv member
      refine ⟨attested.beat recorded.clock h.id, ?_⟩
      rw [find, stored]
      split
      · exact ⟨_, rfl⟩
      · exact ⟨_, rfl⟩
    · intro id b sent
      by_cases same : id = h.id
      · simp only [same, Function.update_self] at sent
        exact Nat.le_of_eq (Option.some.inj sent).symm
      · simp only [Function.update_of_ne same] at sent
        exact recorded.clock id b sent

theorem Recorded.reconcile (recorded : Recorded c) (fails : Bool) :
    Recorded (c.act (.reconcile fails)) := by
  cases next : c.queue with
  | nil =>
    simp only [Cluster.act, next]
    exact recorded
  | cons srv rest =>
    obtain ⟨_, row, stored⟩ := recorded.listed srv (by rw [next]; exact List.mem_cons_self)
    have find := find_reconcile next stored fails
    rw [act_reconcile next] at find ⊢
    constructor
    · intro id found present
      rw [find] at present
      split at present
      · rw [← Option.some.inj present]
        exact recorded.rows srv.id row stored
      · exact recorded.rows id found present
    · intro other member
      obtain ⟨attested, old, there⟩ := recorded.listed other
        (by rw [next]; exact List.mem_cons_of_mem srv member)
      refine ⟨attested, ?_⟩
      rw [find, there]
      split
      · exact ⟨_, rfl⟩
      · exact ⟨_, rfl⟩
    · exact recorded.clock

theorem Recorded.list (recorded : Recorded c) (listing : RowsFault) :
    Recorded (c.act (.list listing)) := by
  unfold Cluster.act
  simp only
  split
  · refine ⟨recorded.rows, ?_, recorded.clock⟩
    intro srv member
    have stored := (Table.find_eq_some _ _ _).mpr
      ⟨RowsFault.delivered_subset listing _ member, rfl⟩
    exact ⟨recorded.rows srv.id srv stored, srv, stored⟩
  · exact recorded

theorem recorded_step (c : Cluster) (event : Event) (recorded : Recorded c) :
    Recorded (step c event) := by
  unfold step
  cases event.action with
  | heartbeat body fails => exact (recorded.after event.elapsed).heartbeat body fails
  | list listing => exact (recorded.after event.elapsed).list listing
  | reconcile fails => exact (recorded.after event.elapsed).reconcile fails

def SeenBefore (now : Nat) : Prop :=
  ∀ row ∈ servers.rows, ∀ t, row.lastSeen = some t → t ≤ now

theorem recorded_start {servers : Servers} {now : Nat} (seen : SeenBefore servers now) :
    Recorded (.start servers now) where
  rows := by
    intro id row found t saw
    have ⟨_, keyed⟩ := (Table.find_eq_some _ _ _).mp found
    refine ⟨t, ?_, Nat.le_refl t⟩
    have stored : servers.find id = some row := found
    show (servers.find row.id).bind Server.lastSeen = some t
    rw [keyed, stored]
    exact saw
  listed := fun _ member => (List.not_mem_nil member).elim
  clock := by
    intro id b sent
    have ⟨row, found, saw⟩ := Option.bind_eq_some_iff.mp sent
    exact seen row ((Table.find_eq_some _ _ _).mp found).1 b saw

def Fresh (c : Cluster) (id : String) : Prop := ∀ b, c.beats id = some b → c.now ≤ b + minute

def LeavesFresh (c : Cluster) (event : Event) : Prop :=
  match event.action, c.queue with
  | .reconcile _, srv :: _ =>
    ∀ row, (step c event).servers.find srv.id = some row → row.status = NodeState.text .ready →
      Fresh (step c event) srv.id
  | _, _ => True

/-- A pass leaves a node ready whose heartbeat it has not looked at, or whose write fails. -/
def Unwatched (c : Cluster) (fails : Bool) (srv : Server) : Prop :=
  if fails then ∃ row, c.servers.find srv.id = some row ∧ row.status = NodeState.text .ready
  else srv.status = NodeState.text .capabilitiesRegistered ∨
    srv.status = NodeState.text .ready ∧ srv.lastSeen = none

def Watched (c : Cluster) (event : Event) : Prop :=
  match event.action, c.queue with
  | .reconcile fails, srv :: _ => Unwatched c fails srv → Fresh (c.after event.elapsed) srv.id
  | _, _ => True

theorem fresh_of_seen (attested : Attested c.beats srv) {t : Nat} (seen : srv.lastSeen = some t)
    (recent : stale c.now srv = false) : Fresh c srv.id := by
  intro b sent
  have ⟨latest, same, later⟩ := attested t seen
  rw [sent] at same
  have equal := Option.some.inj same
  have soon : ¬ c.now > t + minute := by
    intro late
    simp [stale, seen, late] at recent
  omega

theorem reconciled (next : c.queue = srv :: rest) (stored : c.servers.find srv.id = some row)
    (fails : Bool) :
    ∃ left, (c.act (.reconcile fails)).servers.find srv.id = some left ∧
      left.status = if fails then row.status else (reconcile c.now srv).status := by
  rw [find_reconcile next stored fails srv.id]
  cases fails with
  | true => exact ⟨row, by simp [stored], rfl⟩
  | false => exact ⟨(reconcile c.now srv).written row, by simp, rfl⟩

theorem left_ready_iff (attested : Attested c.beats srv) (stored : c.servers.find srv.id = some row)
    (fails : Bool) (silent : ¬ Fresh c srv.id) :
    (if fails then row.status else (reconcile c.now srv).status) = NodeState.text .ready ↔
      Unwatched c fails srv := by
  unfold Unwatched
  cases fails with
  | true =>
    constructor
    · intro ready
      exact ⟨row, stored, ready⟩
    · rintro ⟨found, here, ready⟩
      rw [Option.some.inj (stored.symm.trans here)]
      exact ready
  | false =>
    simp only [Bool.false_eq_true, if_false]
    rw [reconcile_ready]
    constructor
    · rintro (registered | ⟨ready, recent⟩)
      · exact Or.inl registered
      · cases seen : srv.lastSeen with
        | none => exact Or.inr ⟨ready, rfl⟩
        | some t => exact absurd (fresh_of_seen attested seen recent) silent
    · rintro (registered | ⟨ready, unseen⟩)
      · exact Or.inl registered
      · exact Or.inr ⟨ready, by simp [stale, unseen]⟩

theorem leavesFresh_iff (recorded : Recorded c) (event : Event) :
    LeavesFresh c event ↔ Watched c event := by
  cases event with
  | mk elapsed action =>
    unfold LeavesFresh Watched
    cases action with
    | heartbeat | list => exact Iff.rfl
    | reconcile fails =>
      cases next : c.queue with
      | nil => exact Iff.rfl
      | cons srv rest =>
        obtain ⟨attested, row, stored⟩ :=
          recorded.listed srv (by rw [next]; exact List.mem_cons_self)
        have queue : (c.after elapsed).queue = srv :: rest := next
        obtain ⟨left, found, status⟩ := reconciled (c := c.after elapsed) queue stored fails
        have fresh : Fresh (step c ⟨elapsed, .reconcile fails⟩) srv.id ↔
            Fresh (c.after elapsed) srv.id := by
          simp only [Fresh, step, Cluster.act, queue]
        have ready := left_ready_iff (c := c.after elapsed) attested stored fails
        simp only [fresh]
        constructor
        · intro leaves unwatched
          by_contra silent
          have is := (ready silent).mpr unwatched
          exact silent (leaves left found (status.trans is))
        · intro watched after present is
          by_contra silent
          have same := Option.some.inj (found.symm.trans present)
          rw [← same, status] at is
          exact silent (watched ((ready silent).mp is))

/-- Every node that a pass leaves ready has sent a heartbeat within the last minute, or none at all,
exactly if no node gets through unwatched. -/
theorem ready_fresh_iff (servers : Servers) (now : Nat) (seen : SeenBefore servers now)
    (events : List Event) :
    (∀ before event after, events = before ++ event :: after →
      LeavesFresh (run step (.start servers now) before) event) ↔
    Guarded step Watched (.start servers now) events := by
  have known : ∀ before, Recorded (run step (.start servers now) before) :=
    fun before => run_preserved step Recorded (fun c event => recorded_step c event) _ before
      (recorded_start seen)
  rw [guarded_iff]
  constructor
  · intro always before event after split
    exact (leavesFresh_iff (known before) event).mp (always before event after split)
  · intro guarded before event after split
    exact (leavesFresh_iff (known before) event).mpr (guarded before event after split)

def newNode : Server := ⟨"n", "host", "", "registered", .none, none⟩

def heartbeatOf (id status : String) : Action :=
  .heartbeat (.ok ⟨id, "10.0.0.2", status, .none⟩) false

def passOfOne : List Event := [⟨10000000000, .list .clean⟩, ⟨0, .reconcile false⟩]

theorem silent_node_becomes_ready :
    ¬ ∀ before event after,
      ⟨0, heartbeatOf "n" ""⟩ :: (List.replicate 9 passOfOne).flatten = before ++ event :: after →
        LeavesFresh (run step (.start (.single Server.id newNode) 0) before) event := by
  intro always
  have bad := always (⟨0, heartbeatOf "n" ""⟩ :: (List.replicate 8 passOfOne).flatten ++
    [⟨10000000000, .list .clean⟩]) ⟨0, .reconcile false⟩ [] rfl
  have left := bad ⟨"n", "host", "10.0.0.2", "ready", .none, some 0⟩ (by rfl) rfl 0 (by rfl)
  exact absurd left (by decide)

theorem ready_fresh_iff_recent :
    SeenBefore (.single Server.id ⟨"n", "host", "", "CapabilitiesRegistered", .none, some 0⟩) 0 ∧
    ∀ before event after,
      [⟨5000000000, .list .clean⟩, ⟨0, .reconcile false⟩] = before ++ event :: after →
        LeavesFresh (run step (.start (.single Server.id
          ⟨"n", "host", "", "CapabilitiesRegistered", .none, some 0⟩) 0) before) event := by
  have seen : SeenBefore (.single Server.id
      ⟨"n", "host", "", "CapabilitiesRegistered", .none, some 0⟩) 0 := by
    intro row member t saw
    rw [List.mem_singleton.mp member] at saw
    exact Nat.le_of_eq (Option.some.inj saw).symm
  refine ⟨seen, (ready_fresh_iff _ 0 seen _).mpr ⟨trivial, ?_, trivial⟩⟩
  intro _ b sent
  have first : (0 : Nat) = b := Option.some.inj sent
  subst first
  decide

def statusOf (c : Cluster) (id : String) : Option String := (c.servers.find id).map Server.status

def Carries (id status : String) (event : Event) : Prop :=
  match event.action with
  | .heartbeat body false => ∀ h, accepted body = .ok h → h.id = id → h.status = status
  | _ => True

structure Held (id status : String) (c : Cluster) : Prop where
  stored : statusOf c id = some status
  listed : ∀ srv ∈ c.queue, srv.id = id → srv.status = status

theorem heartbeat_keeps_iff {id status : String} (held : Held id status c)
    (body : Except String ServerHeartbeat) (fails : Bool) (elapsed : Nat) :
    statusOf (c.act (.heartbeat body fails)) id = some status ↔
      Carries id status ⟨elapsed, .heartbeat body fails⟩ := by
  have ⟨row, found, _⟩ := Option.map_eq_some_iff.mp held.stored
  unfold Carries
  cases ok : accepted body with
  | error message =>
    have same : c.act (.heartbeat body fails) = c := by simp only [Cluster.act, ok]
    rw [same]
    refine ⟨fun _ => ?_, fun _ => held.stored⟩
    cases fails with
    | true => trivial
    | false => exact fun h accepts => nomatch ok.symm.trans accepts
  | ok h =>
    have find := find_heartbeat c fails ok id
    unfold statusOf
    rw [find, found]
    cases fails with
    | true =>
      simp only [Bool.true_eq_false, false_and, if_false, iff_true]
      rw [← found]
      exact held.stored
    | false =>
      simp only [true_and]
      by_cases own : id = h.id
      · rw [if_pos own]
        constructor
        · intro kept other accepts _
          rw [← Except.ok.inj (ok.symm.trans accepts)]
          exact Option.some.inj kept
        · intro carries
          exact congrArg some (carries h ok own.symm)
      · rw [if_neg own]
        refine ⟨fun _ other accepts same => ?_, fun _ => ?_⟩
        · rw [← Except.ok.inj (ok.symm.trans accepts)] at same
          exact absurd same.symm own
        · rw [← found]
          exact held.stored

theorem Held.reconcile {id : String} (operator : state.operator = true)
    (held : Held id state.text c) (fails : Bool) :
    Held id state.text (c.act (.reconcile fails)) := by
  cases next : c.queue with
  | nil =>
    simp only [Cluster.act, next]
    exact held
  | cons srv rest =>
    refine ⟨?_, ?_⟩
    · have ⟨row, found, status⟩ := Option.map_eq_some_iff.mp held.stored
      unfold statusOf
      by_cases own : srv.id = id
      · have listed := held.listed srv (by rw [next]; exact List.mem_cons_self) own
        rw [← own] at found ⊢
        rw [find_reconcile next found fails, reconcile_operator _ listed operator, found]
        split
        · exact congrArg some listed
        · exact congrArg some status
      · have other : id ≠ (Nodes.reconcile c.now srv).id := by
          rw [id_reconcile]
          exact fun same => own same.symm
        have same : (c.act (.reconcile fails)).servers.find id = c.servers.find id := by
          rw [← find_putServer_of_ne c.servers fails other, act_reconcile next]
        rw [same]
        exact held.stored
    · intro other member
      rw [act_reconcile next] at member
      exact held.listed other (by rw [next]; exact List.mem_cons_of_mem srv member)

theorem Held.list {id status : String} (held : Held id status c) (listing : RowsFault) :
    Held id status (c.act (.list listing)) := by
  unfold Cluster.act
  simp only
  split
  · refine ⟨held.stored, ?_⟩
    intro srv member same
    have stored := (Table.find_eq_some _ id srv).mpr
      ⟨RowsFault.delivered_subset listing _ member, same⟩
    have here := held.stored
    unfold statusOf at here
    rw [stored] at here
    exact Option.some.inj here
  · exact held

theorem step_keeps_iff {id : String} (operator : state.operator = true)
    (held : Held id state.text c) (event : Event) :
    (statusOf (step c event) id = some state.text ↔ Carries id state.text event) ∧
      (Carries id state.text event → Held id state.text (step c event)) := by
  have later : Held id state.text (c.after event.elapsed) := ⟨held.stored, held.listed⟩
  cases event with
  | mk elapsed action =>
    cases action with
    | list listing =>
      have kept := later.list listing
      exact ⟨⟨fun _ => trivial, fun _ => kept.stored⟩, fun _ => kept⟩
    | reconcile fails =>
      have kept := later.reconcile operator fails
      exact ⟨⟨fun _ => trivial, fun _ => kept.stored⟩, fun _ => kept⟩
    | heartbeat body fails =>
      have keeps := heartbeat_keeps_iff later body fails elapsed
      refine ⟨keeps, fun carries => ⟨keeps.mpr carries, ?_⟩⟩
      have queue : (step c ⟨elapsed, .heartbeat body fails⟩).queue = c.queue := by
        unfold step Cluster.act
        simp only
        split <;> rfl
      rw [queue]
      exact held.listed

/-- A node an operator has set aside keeps its status exactly if all its heartbeats that are stored
carry it. -/
theorem operator_state_kept_iff (servers : Servers) (now : Nat) (id : String) (state : NodeState)
    (operator : state.operator = true)
    (stored : statusOf (.start servers now) id = some state.text) (events : List Event) :
    (∀ before after, events = before ++ after →
      statusOf (run step (.start servers now) before) id = some state.text) ↔
    ∀ event ∈ events, Carries id state.text event := by
  have start : Held id state.text (.start servers now) :=
    ⟨stored, fun _ member => (List.not_mem_nil member).elim⟩
  rw [← guarded_iff_shown step (fun _ event => Carries id state.text event)
    (fun c => statusOf c id = some state.text) (fun _ held => held.stored)
    (fun _ event held => step_keeps_iff operator held event) _ events start, guarded_iff]
  constructor
  · intro guarded event member
    obtain ⟨before, after, split⟩ := List.append_of_mem member
    exact guarded before event after split
  · rintro carries before event after rfl
    exact carries event (by simp)

def cordonedNode : Server := ⟨"n", "host", "", "Cordoned", .none, none⟩

theorem heartbeat_lifts_cordon :
    ¬ ∀ before after, [⟨0, heartbeatOf "n" ""⟩] = before ++ after →
      statusOf (run step (.start (.single Server.id cordonedNode) 0) before) "n" =
        some (NodeState.text .cordoned) := by
  intro always
  have bad := always [⟨0, heartbeatOf "n" ""⟩] [] rfl
  exact absurd bad (by decide)

theorem operator_state_kept_iff_cordoned :
    NodeState.operator .cordoned = true ∧
    ∀ before after, passOfOne ++ [⟨0, heartbeatOf "n" "Cordoned"⟩] = before ++ after →
      statusOf (run step (.start (.single Server.id cordonedNode) 0) before) "n" =
        some (NodeState.text .cordoned) := by
  refine ⟨rfl, (operator_state_kept_iff (.single Server.id cordonedNode) 0 "n" .cordoned rfl
    (by decide) _).mpr ?_⟩
  intro event member
  rcases List.mem_append.mp member with pass | beat
  · rcases List.mem_cons.mp pass with rfl | last
    · trivial
    · rw [List.mem_singleton.mp last]
      trivial
  · rw [List.mem_singleton.mp beat]
    intro h accepts _
    rw [← Except.ok.inj accepts]
    rfl

end Porter.Controller.Nodes
