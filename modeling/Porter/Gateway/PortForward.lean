import Mathlib.Data.List.Induction
import Porter.Gateway.Proxy
import Porter.Run.Captured

/-!
# The port forwarder

`internal/gateway/portforward.go`: passes that open a listener for every host port a running replica
claims and close those nobody claims.
-/
namespace Porter.Gateway

open Go Run Store

structure Target where
  ipAddress : String
  port : Int
deriving DecidableEq

def VM.containerPort (vm : VM) : Int :=
  ((vm.ports.find? (·.containerPort ≠ 0)).map (·.containerPort)).getD 0

variable (vms : List VM)

def wantedPorts : GoMap Int VM :=
  vms.foldl (fun out vm =>
    if vm.state ≠ .running then out
    else vm.ports.foldl (fun out p =>
      if p.hostPort = 0 then out else out.setMissing (p.hostPort, vm)) out) GoMap.nil

/-- `lns`: for every host port that is bound, what its `acceptLoop` was started with. -/
abbrev Listeners := GoMap Int Target

/-- The replicas, the orders in which the loops visit their maps, and the ports that can be
bound. -/
structure Pass where
  vms : List VM
  closing : MapOrder Int
  opening : MapOrder (Int × VM)
  listen : Int → Bool

variable (wanted : GoMap Int VM) (lns : Listeners)

def closeUnwanted (order : MapOrder Int) (lns : Listeners) : Listeners :=
  (order.visit (lns.rows.map Prod.fst)).foldl (fun lns hp =>
    if wanted.has hp then lns else lns.delete hp) lns

def openWanted (order : MapOrder (Int × VM)) (listen : Int → Bool) (lns : Listeners) : Listeners :=
  (order.visit wanted.rows).foldl (fun lns (hp, vm) =>
    if lns.has hp then lns
    else if listen hp then lns.set (hp, ⟨vm.ipAddress, vm.containerPort⟩)
    else lns) lns

def reconcile (pass : Pass) : Listeners :=
  let wanted := wantedPorts pass.vms
  openWanted wanted pass.opening pass.listen (closeUnwanted wanted pass.closing lns)

variable (hostPort : Int)

def dialled : Option Target := (lns.find hostPort).map Prod.snd

variable (vm : VM)

def VM.claims (hostPort : Int) : Bool :=
  hostPort ≠ 0 && vm.ports.any (·.hostPort = hostPort)

def owner : Option VM :=
  vms.find? (fun vm => vm.state = .running && vm.claims hostPort)

def VM.entryPort (hostPort : Int) : Int :=
  ((vm.ports.find? (·.hostPort = hostPort)).map (·.containerPort)).getD 0

def VM.target : Target := ⟨vm.ipAddress, vm.entryPort hostPort⟩

def VM.captured : Target := ⟨vm.ipAddress, vm.containerPort⟩

theorem find_claims (ports : List Port) (out : GoMap Int VM) (hostPort : Int) :
    (ports.foldl (fun out p =>
        if p.hostPort = 0 then out else out.setMissing (p.hostPort, vm)) out).find hostPort =
      (out.find hostPort).or
        (if hostPort ≠ 0 && ports.any (·.hostPort = hostPort) then some (hostPort, vm)
          else none) := by
  induction ports generalizing out with
  | nil => simp
  | cons p rest recurse =>
    rw [List.foldl_cons, recurse, List.any_cons]
    by_cases same : p.hostPort = hostPort
    · by_cases unset : hostPort = 0
      · simp [same, unset]
      · simp [same, unset, GoMap.find_setMissing]
    · rw [decide_eq_false same, Bool.false_or]
      by_cases unset : p.hostPort = 0
      · rw [if_pos unset]
      · rw [if_neg unset, GoMap.find_setMissing, if_neg same, Option.or_none]

theorem find_wantedPorts :
    (wantedPorts vms).find hostPort = (owner vms hostPort).map (hostPort, ·) := by
  have fill : ∀ out : GoMap Int VM, (vms.foldl (fun out vm =>
      if vm.state ≠ .running then out
      else vm.ports.foldl (fun out p =>
        if p.hostPort = 0 then out else out.setMissing (p.hostPort, vm)) out) out).find hostPort =
      (out.find hostPort).or ((owner vms hostPort).map (hostPort, ·)) := by
    induction vms with
    | nil => simp [owner]
    | cons vm rest recurse =>
      intro out
      rw [List.foldl_cons, recurse]
      by_cases running : vm.state = .running
      · rw [if_neg (not_not.mpr running), find_claims]
        by_cases claims : vm.claims hostPort = true
        · have first : owner (vm :: rest) hostPort = some vm := by simp [owner, running, claims]
          have listed := claims
          unfold VM.claims at listed
          rw [if_pos listed, first, Option.or_assoc, Option.some_or, Option.map_some]
        · have passed : owner (vm :: rest) hostPort = owner rest hostPort := by
            simp [owner, running, claims]
          have unlisted := claims
          unfold VM.claims at unlisted
          rw [if_neg unlisted, passed, Option.or_none]
      · have passed : owner (vm :: rest) hostPort = owner rest hostPort := by
          simp [owner, running]
        rw [if_pos running, passed]
  exact fill GoMap.nil

theorem has_wantedPorts : (wantedPorts vms).has hostPort = (owner vms hostPort).isSome := by
  unfold GoMap.has
  rw [find_wantedPorts, Option.isSome_map]

theorem find_closeUnwanted (order : MapOrder Int) (lns : Listeners) (hostPort : Int) :
    (closeUnwanted wanted order lns).find hostPort =
      if wanted.has hostPort then lns.find hostPort else none := by
  -- Whatever ports the loop visits, it closes the unwanted ones among them.
  have close : ∀ (ports : List Int) (lns : Listeners), (ports.foldl (fun lns hp =>
      if wanted.has hp then lns else lns.delete hp) lns).find hostPort =
      if wanted.has hostPort = false ∧ hostPort ∈ ports then none else lns.find hostPort := by
    intro ports
    induction ports with
    | nil => simp
    | cons hp rest recurse =>
      intro lns
      rw [List.foldl_cons, recurse]
      by_cases kept : wanted.has hp = true
      · by_cases same : hostPort = hp
        · simp [kept, same]
        · simp [kept, same]
      · by_cases same : hostPort = hp
        · simp [kept, same, GoMap.find_delete]
        · simp [kept, same, GoMap.find_delete]
  unfold closeUnwanted
  rw [close]
  cases kept : wanted.has hostPort with
  | true => simp
  | false =>
    simp only [MapOrder.mem_visit, true_and, Bool.false_eq_true, if_false, ite_eq_left_iff]
    intro closed
    rw [Sql.Table.find_eq_none]
    intro entry member same
    exact closed (List.mem_map.mpr ⟨entry, member, same⟩)

theorem find_openWanted (order : MapOrder (Int × VM)) {listen : Int → Bool}
    (binds : ∀ hp, listen hp = true) (lns : Listeners) (hostPort : Int) :
    (openWanted wanted order listen lns).find hostPort =
      (lns.find hostPort).or ((wanted.find hostPort).map (fun entry =>
        (hostPort, entry.2.captured))) := by
  have opens : ∀ (entries : List (Int × VM)) (lns : Listeners), (entries.foldl (fun lns (hp, vm) =>
      if lns.has hp then lns
      else if listen hp then lns.set (hp, ⟨vm.ipAddress, vm.containerPort⟩)
      else lns) lns).find hostPort =
      (lns.find hostPort).or ((entries.find? (·.1 = hostPort)).map (fun entry =>
        (hostPort, entry.2.captured))) := by
    intro entries
    induction entries with
    | nil => simp
    | cons entry rest recurse =>
      intro lns
      have step : (if lns.has entry.1 then lns
          else if listen entry.1 then lns.set (entry.1, entry.2.captured) else lns) =
          lns.setMissing (entry.1, entry.2.captured) := by
        simp [GoMap.setMissing, binds]
      rw [List.foldl_cons, recurse]
      show ((if lns.has entry.1 then lns
        else if listen entry.1 then lns.set (entry.1, entry.2.captured) else lns).find hostPort).or
          _ = _
      rw [step, GoMap.find_setMissing]
      by_cases same : entry.1 = hostPort
      · simp [same]
      · simp [same]
  unfold openWanted
  rw [opens, wanted.find_visit order hostPort]

variable {pass : Pass}

theorem dialled_reconcile (binds : ∀ hp, pass.listen hp = true) (hostPort : Int) :
    dialled (reconcile lns pass) hostPort =
      (owner pass.vms hostPort).map (fun vm => (dialled lns hostPort).getD vm.captured) := by
  unfold dialled reconcile
  simp only [find_openWanted _ _ binds, find_closeUnwanted, has_wantedPorts, find_wantedPorts]
  cases owner pass.vms hostPort with
  | none => simp
  | some vm => cases lns.find hostPort <;> simp

variable (passes : List Pass)

def listeners : Listeners := run reconcile GoMap.nil passes

/-- Connections on a wanted port are dialled to its owner and the container port that claims it. -/
def FollowsOwner (vms : List VM) : Prop :=
  ∀ hostPort vm, owner vms hostPort = some vm → dialled lns hostPort = some (vm.target hostPort)

def NoStray (vms : List VM) : Prop :=
  ∀ hostPort, lns.has hostPort = true → ∃ vm ∈ vms, vm.state = .running ∧ vm.claims hostPort = true

/-- A new owner of a port is captured right, and an old one keeps its address and its port. -/
def SteadyPass (previous : List VM) (pass : Pass) : Prop :=
  ∀ hostPort vm, owner pass.vms hostPort = some vm →
    match owner previous hostPort with
    | none => vm.containerPort = vm.entryPort hostPort
    | some old => old.ipAddress = vm.ipAddress ∧ old.entryPort hostPort = vm.entryPort hostPort

def lastSeen : List VM := run (fun _ pass => pass.vms) [] passes

def capturing : Capturing Int VM Target where
  held := dialled (listeners passes)
  wanted := owner (lastSeen passes)

theorem listeners_concat (before : List Pass) (pass : Pass) :
    listeners (before ++ [pass]) = reconcile (listeners before) pass :=
  run_append reconcile GoMap.nil before [pass]

theorem capturing_eq_run {passes : List Pass}
    (binds : ∀ pass ∈ passes, ∀ hp, pass.listen hp = true) :
    capturing passes =
      run (fun s pass => s.pass VM.captured (owner pass.vms)) Capturing.start passes := by
  induction passes using List.reverseRecOn with
  | nil => rfl
  | append_singleton before pass recurse =>
    have earlier := recurse (fun other member => binds other (List.mem_append_left _ member))
    have last : ∀ hp, pass.listen hp = true := binds pass (by simp)
    have held : dialled (listeners (before ++ [pass])) =
        ((capturing before).pass VM.captured (owner pass.vms)).held := by
      funext hostPort
      rw [listeners_concat, dialled_reconcile _ last]
      rfl
    have seen : lastSeen (before ++ [pass]) = pass.vms := run_append _ _ before [pass]
    rw [run_append, ← earlier]
    unfold capturing
    rw [held, seen]
    rfl

theorem follows_capturing_iff {before : List Pass} (binds : ∀ hp, pass.listen hp = true) :
    (capturing (before ++ [pass])).Follows VM.target ↔
      FollowsOwner (listeners (before ++ [pass])) pass.vms := by
  have seen : lastSeen (before ++ [pass]) = pass.vms := run_append _ _ before [pass]
  show (∀ hostPort, dialled (listeners (before ++ [pass])) hostPort =
    (owner (lastSeen (before ++ [pass])) hostPort).map (VM.target hostPort)) ↔ _
  rw [seen]
  constructor
  · intro follows hostPort vm owned
    rw [follows hostPort, owned, Option.map_some]
  · intro follows hostPort
    cases owned : owner pass.vms hostPort with
    | none =>
      rw [listeners_concat, dialled_reconcile _ binds, owned, Option.map_none, Option.map_none]
    | some vm => exact follows hostPort vm owned

theorem steady_iff {previous : List VM} {s : Capturing Int VM Target}
    (wanted : s.wanted = owner previous) :
    s.Steady VM.captured VM.target (owner pass.vms) ↔ SteadyPass previous pass := by
  unfold Capturing.Steady SteadyPass
  rw [wanted]
  refine forall₂_congr (fun hostPort vm => imp_congr_right (fun _ => ?_))
  cases owner previous hostPort with
  | none => simp [VM.captured, VM.target]
  | some old => simp [VM.target]

theorem noStray_reconcile (binds : ∀ hp, pass.listen hp = true) :
    NoStray (reconcile lns pass) pass.vms := by
  intro hostPort bound
  have dials : (dialled (reconcile lns pass) hostPort).isSome = true := by
    rwa [dialled, Option.isSome_map]
  rw [dialled_reconcile _ binds, Option.isSome_map] at dials
  obtain ⟨vm, owned⟩ := Option.isSome_iff_exists.mp dials
  have claims := List.find?_some owned
  simp only [Bool.and_eq_true, decide_eq_true_eq] at claims
  exact ⟨vm, List.mem_of_find?_eq_some owned, claims⟩

/-- For passes in which all binds succeed: none leaves a stray listener, and the listeners follow
the owners after each exactly when every pass is steady. -/
theorem forwarding_follows_iff (passes : List Pass)
    (binds : ∀ pass ∈ passes, ∀ hp, pass.listen hp = true) :
    (∀ before pass after, passes = before ++ pass :: after →
      NoStray (listeners (before ++ [pass])) pass.vms) ∧
    ((∀ before pass after, passes = before ++ pass :: after →
        FollowsOwner (listeners (before ++ [pass])) pass.vms) ↔
      ∀ before pass after, passes = before ++ pass :: after →
        SteadyPass (lastSeen before) pass) := by
  refine ⟨?_, ?_⟩
  · rintro before pass after rfl
    rw [listeners_concat]
    exact noStray_reconcile _ (binds pass (by simp))
  · have captured := Capturing.follows_iff_steady VM.captured VM.target
      (fun pass : Pass => owner pass.vms) passes
    have follows : ∀ before pass after, passes = before ++ pass :: after →
        ((run (fun s pass => s.pass VM.captured (owner pass.vms)) Capturing.start
            (before ++ [pass])).Follows VM.target ↔
          FollowsOwner (listeners (before ++ [pass])) pass.vms) := by
      rintro before pass after rfl
      have bound : ∀ other ∈ before ++ [pass], ∀ hp, other.listen hp = true := by
        intro other member
        apply binds
        rcases List.mem_append.mp member with earlier | last
        · exact List.mem_append_left _ earlier
        · rw [List.mem_singleton.mp last]
          simp
      rw [← capturing_eq_run bound]
      exact follows_capturing_iff (bound pass (by simp))
    have steady : ∀ before pass after, passes = before ++ pass :: after →
        ((run (fun s pass => s.pass VM.captured (owner pass.vms)) Capturing.start before).Steady
            VM.captured VM.target (owner pass.vms) ↔ SteadyPass (lastSeen before) pass) := by
      rintro before pass after rfl
      rw [← capturing_eq_run (fun other member => binds other (List.mem_append_left _ member))]
      exact steady_iff rfl
    constructor
    · intro each before pass after split
      refine (steady before pass after split).mp (captured.mp ?_ before pass after split)
      intro before pass after split
      exact (follows before pass after split).mpr (each before pass after split)
    · intro each before pass after split
      refine (follows before pass after split).mp (captured.mpr ?_ before pass after split)
      intro before pass after split
      exact (steady before pass after split).mpr (each before pass after split)

def Pass.seeing : Pass :=
  ⟨vms, MapOrder.insertion, MapOrder.insertion, fun _ => true⟩

def publishing (id ipAddress : String) : VM :=
  { exampleVM id "p1" ipAddress with ports := [⟨80, 8080, "tcp"⟩] }

theorem owner_publishing {id ipAddress : String} {hostPort : Int} {vm : VM}
    (owned : owner [publishing id ipAddress] hostPort = some vm) :
    hostPort = 8080 ∧ vm = publishing id ipAddress := by
  have listed := List.mem_singleton.mp (List.mem_of_find?_eq_some owned)
  have claims := List.find?_some owned
  rw [listed] at claims
  simp only [VM.claims, publishing, Bool.and_eq_true, List.any_cons, List.any_nil, Bool.or_false,
    decide_eq_true_eq] at claims
  exact ⟨claims.2.2.symm, listed⟩

theorem forwarding_follows_iff_unchanged :
    FollowsOwner
      (listeners [.seeing [publishing "v1" "10.0.0.2"], .seeing [publishing "v1" "10.0.0.2"]])
      [publishing "v1" "10.0.0.2"] := by
  refine (forwarding_follows_iff [.seeing [publishing "v1" "10.0.0.2"],
    .seeing [publishing "v1" "10.0.0.2"]] ?_).2.mpr ?_ [.seeing [publishing "v1" "10.0.0.2"]]
    _ [] rfl
  · intro pass member hp
    rcases List.mem_pair.mp member with rfl | rfl
    · rfl
    · rfl
  · intro before pass after split hostPort vm owned
    rcases before with _ | ⟨first, _ | ⟨second, before⟩⟩
    · cases split
      obtain ⟨rfl, rfl⟩ := owner_publishing owned
      rfl
    · cases split
      show match owner [publishing "v1" "10.0.0.2"] hostPort with
        | none => vm.containerPort = vm.entryPort hostPort
        | some old => old.ipAddress = vm.ipAddress ∧
            old.entryPort hostPort = vm.entryPort hostPort
      rw [show owner [publishing "v1" "10.0.0.2"] hostPort = some vm from owned]
      exact ⟨rfl, rfl⟩
    · simp at split

def replaced : List Pass :=
  [.seeing [publishing "v1" "10.0.0.2"], .seeing [publishing "v2" "10.0.0.3"]]

def publishingTwo : VM :=
  { exampleVM "v1" "p1" "10.0.0.2" with ports := [⟨80, 8080, "tcp"⟩, ⟨443, 8443, "tcp"⟩] }

theorem forwarding_keeps_old_target :
    ¬ FollowsOwner (listeners replaced) [publishing "v2" "10.0.0.3"] ∧
      ¬ FollowsOwner (listeners [.seeing [publishingTwo]]) [publishingTwo] := by
  constructor
  · intro follows
    exact absurd (follows 8080 (publishing "v2" "10.0.0.3") (by decide)) (by decide)
  · intro follows
    exact absurd (follows 8443 publishingTwo (by decide)) (by decide)

end Porter.Gateway
