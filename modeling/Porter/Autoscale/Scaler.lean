import Mathlib.Algebra.Group.Int.Defs
import Mathlib.Algebra.Group.Nat.Defs
import Porter.Api.Http
import Porter.Run.Guarded
import Porter.Sql.Table

/-!
# The autoscaler

The passes of `internal/autoscale/scaler.go` over the stored projects, and the policy they go by, as
`handlePutAutoscale` stores it.
-/
namespace Porter.Autoscale

open Api Run Sql

structure AutoscalePolicy where
  minReplicas : Int
  maxReplicas : Int
  targetCPU : Float
  scaleDownCPU : Float
  cooldownSec : Int
  enabled : Bool

def AutoscalePolicy.normalised (p : AutoscalePolicy) : AutoscalePolicy :=
  let maxReplicas := if p.maxReplicas ≤ 0 then 3 else p.maxReplicas
  let minReplicas := if p.minReplicas < 0 then 0 else p.minReplicas
  { p with
    maxReplicas := maxReplicas
    minReplicas := if minReplicas ≥ maxReplicas then maxReplicas - 1 else minReplicas
    targetCPU := if p.targetCPU ≤ 0 then 80 else p.targetCPU }

/-- A policy that was stored; `handlePutAutoscale` is the only one to store policies. -/
abbrev StoredPolicy := { p : AutoscalePolicy // ∃ given : AutoscalePolicy, p = given.normalised }

def AutoscalePolicy.stored (p : AutoscalePolicy) : StoredPolicy := ⟨p.normalised, p, rfl⟩

structure Project where
  id : String
  vmIDs : List String
  replicasDesired : Int
  autoscale : Option StoredPolicy

abbrev Projects := Table Project.id

def putProject (projects : Projects) (proj : Project) : Projects :=
  projects.upsert proj (fun row => { proj with id := row.id }) (fun _ => rfl)

def handlePutAutoscale (projects : Projects) (id : String)
    (body : Except String AutoscalePolicy) : Response StoredPolicy × Projects :=
  match body with
  | .error err => (badRequest err, projects)
  | .ok p =>
    match projects.find id with
    | none => (.error statusNotFound "project not found", projects)
    | some proj =>
      (.json statusOK p.stored, putProject projects { proj with autoscale := some p.stored })

variable {proj : Project}

theorem find_putProject {projects : Projects} :
    (putProject projects proj).find proj.id = some proj := by
  apply Table.find_upsert_assigned
  intro old own
  rw [own]

variable {id : String} {s : Scaler} {a : Project} {p : StoredPolicy}

structure MetricSample where
  metric : String
  value : Float

structure Pass where
  listMetrics : String → String → List MetricSample
  boot : List String → Nat → String
  fresh : ∀ vmIDs index, boot vmIDs index ∉ vmIDs
  wait : String → Nat
  work : String → Nat

structure Scaled where
  project : String
  began : Nat
  ended : Nat

structure Scaler where
  projects : Projects
  last : String → Option Nat
  now : Nat
  stopped : List (String × String)
  log : List Scaled

def Scaler.new (projects : Projects) (now : Nat) : Scaler := ⟨projects, fun _ => none, now, [], []⟩

def avgCPU (listMetrics : String → List MetricSample) (vmIDs : List String) : Float :=
  let used := vmIDs.flatMap (fun vid =>
    (listMetrics vid).filter (fun m => m.metric = "cpu_percent"))
  let (total, n) := used.foldl (fun acc m => (acc.1 + m.value, acc.2 + 1)) ((0, 0) : Float × Float)
  if n == 0 then 0 else total / n

/-- `cooldown`, in nanoseconds; the product is one of 64 bits. -/
def cooldown (sec : Int) : Int :=
  if sec ≤ 0 then 60 * 1000000000 else (sec * 1000000000).bmod (2 ^ 64)

/-- `time.Since`, which does not exceed the longest duration. -/
def since (now t : Nat) : Int := min (now - t : Int) (2 ^ 63 - 1)

def Scaler.cooling (s : Scaler) (id : String) (p : AutoscalePolicy) : Bool :=
  match s.last id with
  | none => false
  | some t => since s.now t < cooldown p.cooldownSec

def target (p : AutoscalePolicy) (avgCPU : Float) (cur : Int) : Option Int :=
  if cur < p.minReplicas then some p.minReplicas
  else if avgCPU > p.targetCPU && cur < p.maxReplicas then some (cur + 1)
  else if p.scaleDownCPU > 0 && avgCPU < p.scaleDownCPU && cur > p.minReplicas then some (cur - 1)
  else none

def bootLoop (boot : List String → Nat → String) : Nat → Nat → List String → List String
  | 0, _, vmIDs => vmIDs
  | n + 1, cur, vmIDs => bootLoop boot n (cur + 1) (vmIDs ++ [boot vmIDs cur])

def stopLoop (target : Int) : Nat → List String → List String × List String
  | 0, vmIDs => (vmIDs, [])
  | cur + 1, vmIDs =>
    if ((cur + 1 : Nat) : Int) > target then
      let (left, stopped) := stopLoop target cur (vmIDs.take cur)
      (left, vmIDs[cur]?.toList ++ stopped)
    else (vmIDs, [])

def resize (boot : List String → Nat → String) (target : Int) (vmIDs : List String) :
    List String × List String :=
  let cur := vmIDs.length
  let missing := (target - cur).toNat
  stopLoop target (cur + missing) (bootLoop boot missing cur vmIDs)

def Scaler.scale (s : Scaler) (pass : Pass) (proj : Project) (target : Int) : Scaler :=
  let (vmIDs, stopped) := resize pass.boot target proj.vmIDs
  let now := s.now + pass.work proj.id
  { projects := putProject s.projects { proj with vmIDs := vmIDs, replicasDesired := target }
    last := Function.update s.last proj.id (some now)
    now := now
    stopped := s.stopped ++ stopped.map (fun vmID => (proj.id, vmID))
    log := s.log ++ [⟨proj.id, s.now, now⟩] }

def Scaler.visit (pass : Pass) (s : Scaler) (proj : Project) : Scaler :=
  match proj.autoscale with
  | none => s
  | some ⟨p, _⟩ =>
    if !p.enabled then s
    else if p.maxReplicas ≤ 0 || p.maxReplicas ≤ p.minReplicas then s
    else
      let s := { s with now := s.now + pass.wait proj.id }
      if s.cooling proj.id p then s
      else
        match target p (avgCPU (pass.listMetrics proj.id) proj.vmIDs) proj.vmIDs.length with
        | none => s
        | some size => s.scale pass proj size

def Scaler.reconcile (s : Scaler) (pass : Pass) : Scaler :=
  s.projects.rows.foldl (Scaler.visit pass) s

theorem normalised_bounds (p : AutoscalePolicy) :
    0 ≤ p.normalised.minReplicas ∧ p.normalised.minReplicas < p.normalised.maxReplicas := by
  simp only [AutoscalePolicy.normalised]
  repeat' split
  all_goals omega

theorem cooldown_eq {sec : Int} (short : sec ≤ 10 ^ 9) :
    cooldown sec = (if sec ≤ 0 then 60 else sec) * 1000000000 := by
  unfold cooldown
  split
  · rfl
  · rw [Int.bmod_def]
    omega

variable (pass : Pass) (vmIDs : List String)

theorem bootLoop_spec (n cur : Nat) (vmIDs : List String) :
    ∃ added, bootLoop pass.boot n cur vmIDs = vmIDs ++ added ∧ added.length = n ∧
      ∀ vmID ∈ added, vmID ∉ vmIDs := by
  induction n generalizing cur vmIDs with
  | zero =>
    exact ⟨[], (List.append_nil _).symm, rfl, fun _ member => (List.not_mem_nil member).elim⟩
  | succ n recurse =>
    have ⟨later, same, size, new⟩ := recurse (cur + 1) (vmIDs ++ [pass.boot vmIDs cur])
    refine ⟨pass.boot vmIDs cur :: later, ?_, ?_, ?_⟩
    · rw [bootLoop, same, List.append_assoc, List.singleton_append]
    · rw [List.length_cons, size]
    · intro vmID member
      rcases List.mem_cons.mp member with rfl | rest
      · exact pass.fresh vmIDs cur
      · exact fun old => new vmID rest (List.mem_append_left _ old)

theorem stopLoop_of_le {target : Int} {cur : Nat} (low : (cur : Int) ≤ target)
    (vmIDs : List String) : stopLoop target cur vmIDs = (vmIDs, []) := by
  cases cur with
  | zero => rfl
  | succ cur => rw [stopLoop, if_neg (by omega)]

theorem stopLoop_one (vmID : String) :
    stopLoop vmIDs.length (vmIDs ++ [vmID]).length (vmIDs ++ [vmID]) = (vmIDs, [vmID]) := by
  have size : (vmIDs ++ [vmID]).length = vmIDs.length + 1 := by simp
  rw [size, stopLoop, if_pos (by omega), List.take_left', stopLoop_of_le (Int.le_refl _)]
  · simp
  · rfl

theorem resize_up (size : Int) (vmIDs : List String) (up : vmIDs.length ≤ size) :
    ∃ added, resize pass.boot size vmIDs = (vmIDs ++ added, []) ∧
      (added.length : Int) = size - vmIDs.length ∧ ∀ vmID ∈ added, vmID ∉ vmIDs := by
  have ⟨added, same, count, new⟩ :=
    bootLoop_spec pass (size - vmIDs.length).toNat vmIDs.length vmIDs
  refine ⟨added, ?_, by omega, new⟩
  unfold resize
  simp only
  rw [same, stopLoop_of_le (by omega)]

theorem resize_down (vmID : String) :
    resize pass.boot vmIDs.length (vmIDs ++ [vmID]) = (vmIDs, [vmID]) := by
  have enough : ((vmIDs.length : Int) - ((vmIDs ++ [vmID]).length : Nat)).toNat = 0 := by
    rw [List.length_append, List.length_singleton]
    omega
  unfold resize
  simp only
  rw [enough, bootLoop]
  exact stopLoop_one _ _

theorem target_cases {p : AutoscalePolicy} {cpu : Float} {cur size : Int}
    (asked : target p cpu cur = some size) :
    (cur < p.minReplicas ∧ size = p.minReplicas) ∨
      (p.minReplicas ≤ cur ∧ cur < p.maxReplicas ∧ size = cur + 1) ∨
      (p.minReplicas < cur ∧ size = cur - 1) := by
  unfold target at asked
  split at asked
  · rename_i low
    exact Or.inl ⟨low, (Option.some.inj asked).symm⟩
  · split at asked
    · rename_i busy
      rw [Bool.and_eq_true, decide_eq_true_eq, decide_eq_true_eq] at busy
      exact Or.inr (Or.inl ⟨by omega, busy.2, (Option.some.inj asked).symm⟩)
    · split at asked
      · rename_i quiet
        rw [Bool.and_eq_true, Bool.and_eq_true, decide_eq_true_eq, decide_eq_true_eq,
          decide_eq_true_eq] at quiet
        exact Or.inr (Or.inr ⟨by omega, (Option.some.inj asked).symm⟩)
      · contradiction

inductive Moves (p : AutoscalePolicy) (before after : Project) : List String → Prop where
  | stays (same : after = before) : Moves p before after []
  | grows (added : List String) (ids : after.vmIDs = before.vmIDs ++ added)
    (new : ∀ vmID ∈ added, vmID ∉ before.vmIDs)
    (size : added.length = 1 ∨
      (before.vmIDs.length : Int) < p.minReplicas ∧ (after.vmIDs.length : Int) = p.minReplicas)
    (desired : after.replicasDesired = after.vmIDs.length) : Moves p before after []
  | shrinks (vmID : String) (ids : before.vmIDs = after.vmIDs ++ [vmID])
    (floor : p.minReplicas ≤ after.vmIDs.length)
    (desired : after.replicasDesired = after.vmIDs.length) : Moves p before after [vmID]

def Scaler.stopsOf (s : Scaler) (id : String) : List String :=
  (s.stopped.filter (fun call => call.1 = id)).map Prod.snd

def Scaler.logOf (s : Scaler) (id : String) : List Scaled :=
  s.log.filter (fun line => line.project = id)

structure Untouched (id : String) (s after : Scaler) : Prop where
  stored : after.projects.find id = s.projects.find id
  last : after.last id = s.last id
  stops : after.stopsOf id = s.stopsOf id
  log : after.logOf id = s.logOf id
  now : s.now ≤ after.now

theorem Untouched.refl (id : String) (s : Scaler) : Untouched id s s :=
  ⟨rfl, rfl, rfl, rfl, Nat.le_refl _⟩

theorem Untouched.trans {middle after : Scaler} (first : Untouched id s middle)
    (second : Untouched id middle after) : Untouched id s after :=
  ⟨second.stored.trans first.stored, second.last.trans first.last, second.stops.trans first.stops,
    second.log.trans first.log, Nat.le_trans first.now second.now⟩

theorem Untouched.wait (id : String) (s : Scaler) (more : Nat) :
    Untouched id s { s with now := s.now + more } :=
  ⟨rfl, rfl, rfl, rfl, Nat.le_add_right _ _⟩

theorem untouched_scale (s : Scaler) (pass : Pass) (size : Int) (other : proj.id ≠ id) :
    Untouched id s (s.scale pass proj size) := by
  have differ : id ≠ proj.id := fun same => other same.symm
  refine ⟨?_, ?_, ?_, ?_, Nat.le_add_right _ _⟩
  · exact Table.find_upsert_of_ne _ _ _ _ _ differ
  · exact Function.update_of_ne differ _ _
  · simp [Scaler.stopsOf, Scaler.scale, List.filter_append, List.filter_map, Function.comp_def,
      other]
  · simp [Scaler.logOf, Scaler.scale, List.filter_append, other]

theorem untouched_visit (s : Scaler) (other : proj.id ≠ id) :
    Untouched id s (s.visit pass proj) := by
  unfold Scaler.visit
  split
  · exact .refl id s
  · split
    · exact .refl id s
    · split
      · exact .refl id s
      · simp only
        split
        · exact .wait id s _
        · split
          · exact .wait id s _
          · exact (Untouched.wait id s _).trans (untouched_scale _ _ _ other)

theorem moves_resize {p : AutoscalePolicy}
    (bounds : 0 ≤ p.minReplicas ∧ p.minReplicas < p.maxReplicas)
    (small : a.vmIDs.length ≤ p.maxReplicas) {cpu : Float} {size : Int}
    (asked : target p cpu a.vmIDs.length = some size) :
    ∃ b stops, { a with vmIDs := (resize pass.boot size a.vmIDs).1, replicasDesired := size } = b ∧
      (resize pass.boot size a.vmIDs).2 = stops ∧ Moves p a b stops ∧ b.vmIDs ≠ a.vmIDs ∧
      b.vmIDs.length ≤ p.maxReplicas := by
  refine ⟨_, _, rfl, rfl, ?_⟩
  rcases target_cases asked with ⟨low, same⟩ | ⟨_, room, same⟩ | ⟨above, same⟩
  · have ⟨added, pool, count, new⟩ := resize_up pass size a.vmIDs (by omega)
    have length : ((a.vmIDs ++ added).length : Int) = p.minReplicas := by
      rw [List.length_append]
      omega
    rw [pool]
    refine ⟨.grows added rfl new (Or.inr ⟨low, length⟩) (same.trans length.symm), ?_,
      by simp only; omega⟩
    intro unchanged
    have none := List.append_right_eq_self.mp unchanged
    rw [none, List.append_nil] at length
    omega
  · have ⟨added, pool, count, new⟩ := resize_up pass size a.vmIDs (by omega)
    have one : added.length = 1 := by omega
    have length : ((a.vmIDs ++ added).length : Int) = size := by
      rw [List.length_append]
      omega
    rw [pool]
    refine ⟨.grows added rfl new (Or.inl one) length.symm, ?_, by simp only; omega⟩
    intro unchanged
    have none := List.append_right_eq_self.mp unchanged
    rw [none] at one
    contradiction
  · rcases List.eq_nil_or_concat a.vmIDs with empty | ⟨left, vmID, split⟩
    · rw [empty] at above
      simp at above
      omega
    · rw [List.concat_eq_append] at split
      have length : (a.vmIDs.length : Int) = left.length + 1 := by
        rw [split]
        simp
      have target : size = left.length := by omega
      rw [target, split, resize_down]
      refine ⟨.shrinks vmID split (by simp only; omega) rfl, ?_, by simp only; omega⟩
      intro unchanged
      have sizes := congrArg List.length unchanged
      simp at sizes

/-- Nothing happens to a project in a pass, or it is scaled after its cooldown. -/
inductive Course (p : AutoscalePolicy) (a : Project) (s after : Scaler) : Prop where
  | rests (untouched : Untouched a.id s after)
  | scales (b : Project) (stops : List String) (began ended : Nat)
    (stored : after.projects.find a.id = some b) (policy : b.autoscale = a.autoscale)
    (moves : Moves p a b stops) (changed : b.vmIDs ≠ a.vmIDs)
    (bounded : b.vmIDs.length ≤ p.maxReplicas)
    (stopped : after.stopsOf a.id = s.stopsOf a.id ++ stops)
    (logged : after.logOf a.id = s.logOf a.id ++ [⟨a.id, began, ended⟩])
    (marked : after.last a.id = some ended)
    (times : s.now ≤ began ∧ began ≤ ended ∧ ended ≤ after.now)
    (gate : ∀ t, s.last a.id = some t → cooldown p.cooldownSec ≤ since began t)

theorem Course.frame {p : AutoscalePolicy} {first second after : Scaler}
    (before : Untouched a.id s first) (course : Course p a first second)
    (later : Untouched a.id second after) : Course p a s after := by
  cases course with
  | rests untouched => exact .rests (before.trans (untouched.trans later))
  | scales b stops began ended stored policy moves changed bounded stopped logged marked times
      gate =>
    have early := before.now
    have late := later.now
    refine .scales b stops began ended (later.stored.trans stored) policy moves changed bounded
      ?_ ?_ (later.last.trans marked) ⟨by omega, times.2.1, by omega⟩ ?_
    · rw [later.stops, stopped, before.stops]
    · rw [later.log, logged, before.log]
    · intro t set_
      exact gate t (before.last.trans set_)

theorem course_visit (policy : a.autoscale = some p)
    (small : a.vmIDs.length ≤ p.val.maxReplicas) : Course p.val a s (s.visit pass a) := by
  have bounds : 0 ≤ p.val.minReplicas ∧ p.val.minReplicas < p.val.maxReplicas := by
    obtain ⟨given, same⟩ := p.property
    rw [same]
    exact normalised_bounds _
  unfold Scaler.visit
  rw [policy]
  simp only
  split
  · exact .rests (.refl _ s)
  · split
    · exact .rests (.refl _ s)
    · split
      · exact .rests (.wait _ s _)
      · rename_i warm
        split
        · exact .rests (.wait _ s _)
        · rename_i size asked
          obtain ⟨b, stops, pool, calls, moves, changed, bounded⟩ :=
            moves_resize pass bounds small asked
          refine .scales b stops (s.now + pass.wait a.id)
            (s.now + pass.wait a.id + pass.work a.id) ?_ ?_ moves changed bounded ?_ ?_ ?_ ?_ ?_
          · rw [← pool]
            exact find_putProject
          · rw [← pool]
          · simp [Scaler.stopsOf, Scaler.scale, calls, List.filter_append, List.filter_map,
              Function.comp_def]
          · simp [Scaler.logOf, Scaler.scale, List.filter_append]
          · exact Function.update_self ..
          · exact ⟨Nat.le_add_right _ _, Nat.le_add_right _ _, Nat.le_refl _⟩
          · intro t set_
            have open_ : ¬ since (s.now + pass.wait a.id) t < cooldown p.val.cooldownSec := by
              intro soon
              apply warm
              simp [Scaler.cooling, set_, soon]
            omega

theorem untouched_visits (rows : List Project) (s : Scaler) (others : ∀ proj ∈ rows, proj.id ≠ id) :
    Untouched id s (rows.foldl (Scaler.visit pass) s) := by
  induction rows generalizing s with
  | nil => exact .refl id s
  | cons proj rest recurse =>
    have here := untouched_visit pass s (others proj List.mem_cons_self)
    exact here.trans (recurse _ (fun other member => others other (List.mem_cons_of_mem _ member)))

theorem course_reconcile (stored : s.projects.find a.id = some a) (policy : a.autoscale = some p)
    (small : a.vmIDs.length ≤ p.val.maxReplicas) : Course p.val a s (s.reconcile pass) := by
  obtain ⟨member, _⟩ := (Table.find_eq_some _ _ _).mp stored
  obtain ⟨before, after, split⟩ := List.append_of_mem member
  have unique := s.projects.unique
  rw [split, List.map_append, List.map_cons, List.nodup_append] at unique
  have earlier : ∀ proj ∈ before, proj.id ≠ a.id := by
    intro proj inside
    exact unique.2.2 _ (List.mem_map_of_mem inside) _ List.mem_cons_self
  have later : ∀ proj ∈ after, proj.id ≠ a.id := by
    intro proj inside same
    exact (List.nodup_cons.mp unique.2.1).1 (same ▸ List.mem_map_of_mem inside)
  unfold Scaler.reconcile
  rw [split, List.foldl_append, List.foldl_cons]
  have first := untouched_visits pass before s earlier
  exact Course.frame first (course_visit pass policy small)
    (untouched_visits pass after _ later)

def Spaced (p : AutoscalePolicy) (log : List Scaled) : Prop :=
  log.Pairwise (fun x y => x.ended + cooldown p.cooldownSec ≤ y.began)

structure Tame (p : StoredPolicy) (id : String) (s : Scaler) : Prop where
  stored : ∃ a, s.projects.find id = some a ∧ a.autoscale = some p ∧
    a.vmIDs.length ≤ p.val.maxReplicas
  spaced : Spaced p.val (s.logOf id)
  recent : ∀ line ∈ s.logOf id, ∃ t, s.last id = some t ∧ line.ended ≤ t
  clock : ∀ t, s.last id = some t → t ≤ s.now

theorem tame_reconcile (s : Scaler) (pass : Pass) (tame : Tame p id s) :
    Tame p id (s.reconcile pass) := by
  have ⟨a, stored, policy, small⟩ := tame.stored
  have ⟨_, same⟩ := (Table.find_eq_some _ _ _).mp stored
  subst same
  cases course_reconcile _ stored policy small with
  | rests untouched =>
    refine ⟨⟨a, untouched.stored.trans stored, policy, small⟩, ?_, ?_, ?_⟩
    · rw [untouched.log]
      exact tame.spaced
    · rw [untouched.log, untouched.last]
      exact tame.recent
    · rw [untouched.last]
      exact fun t set_ => Nat.le_trans (tame.clock t set_) untouched.now
  | scales b stops began ended found kept moves changed bounded stopped logged marked times gate =>
    refine ⟨⟨b, found, kept.trans policy, bounded⟩, ?_, ?_, ?_⟩
    · rw [logged]
      refine List.pairwise_append.mpr ⟨tame.spaced, List.pairwise_singleton _ _, ?_⟩
      intro x old y new
      have ⟨t, set_, ends⟩ := tame.recent x old
      have waited := gate t set_
      rw [List.mem_singleton.mp new]
      unfold since at waited
      simp only
      omega
    · intro line member
      rw [logged] at member
      refine ⟨ended, marked, ?_⟩
      rcases List.mem_append.mp member with old | new
      · have ⟨t, set_, ends⟩ := tame.recent line old
        have past := tame.clock t set_
        omega
      · exact Nat.le_of_eq (congrArg Scaled.ended (List.mem_singleton.mp new))
    · intro t set_
      rw [← Option.some.inj (marked.symm.trans set_)]
      exact times.2.2

/-- The pool stays within the policy, what it loses is stopped, and every change is logged. -/
structure Envelope (p : AutoscalePolicy) (id : String) (s after : Scaler) : Prop where
  moved : ∃ a b stops lines, s.projects.find id = some a ∧ after.projects.find id = some b ∧
    Moves p a b stops ∧ b.vmIDs.length ≤ p.maxReplicas ∧
    after.stopsOf id = s.stopsOf id ++ stops ∧
    after.logOf id = s.logOf id ++ lines ∧ lines.length = if b.vmIDs = a.vmIDs then 0 else 1

theorem envelope_reconcile (s : Scaler) (pass : Pass) (tame : Tame p id s) :
    Envelope p.val id s (s.reconcile pass) := by
  have ⟨a, stored, policy, small⟩ := tame.stored
  have ⟨_, same⟩ := (Table.find_eq_some _ _ _).mp stored
  subst same
  cases course_reconcile _ stored policy small with
  | rests untouched =>
    refine ⟨a, a, [], [], stored, untouched.stored.trans stored, .stays rfl, small, ?_, ?_, ?_⟩
    · rw [untouched.stops, List.append_nil]
    · rw [untouched.log, List.append_nil]
    · rw [if_pos rfl, List.length_nil]
  | scales b stops began ended found kept moves changed bounded stopped logged marked times gate =>
    refine ⟨a, b, stops, _, stored, found, moves, bounded, stopped, logged, ?_⟩
    rw [if_neg changed]
    rfl

/-- With an enabled policy for a project whose pool is not too large, each pass keeps to the policy,
and the changes of the project are the cooldown apart. -/
theorem scaler_envelope (given : AutoscalePolicy) (short : given.cooldownSec ≤ 10 ^ 9)
    (projects : Projects) (now : Nat) (proj : Project) (stored : projects.find proj.id = some proj)
    (policy : proj.autoscale = some given.stored)
    (small : proj.vmIDs.length ≤ given.normalised.maxReplicas) (passes : List Pass) :
    (∀ before pass after, passes = before ++ pass :: after →
      Envelope given.normalised proj.id (run Scaler.reconcile (.new projects now) before)
        (run Scaler.reconcile (.new projects now) (before ++ [pass]))) ∧
    ((run Scaler.reconcile (.new projects now) passes).logOf proj.id).Pairwise (fun x y =>
      x.ended + (if given.cooldownSec ≤ 0 then 60 else given.cooldownSec) * 1000000000 ≤
        (y.began : Int)) := by
  have start : Tame given.stored proj.id (.new projects now) := by
    refine ⟨⟨proj, stored, policy, small⟩, List.Pairwise.nil, ?_, ?_⟩
    · intro line member
      exact (List.not_mem_nil member).elim
    · intro t set_
      contradiction
  have always : ∀ passes, Tame given.stored proj.id
      (run Scaler.reconcile (.new projects now) passes) :=
    fun passes => run_preserved Scaler.reconcile (Tame given.stored proj.id)
      (fun s pass tame => tame_reconcile s pass tame) _ passes start
  constructor
  · intro before pass after _
    rw [run_append]
    exact envelope_reconcile _ pass (always before)
  · have spaced := (always passes).spaced
    unfold Spaced at spaced
    have same : given.stored.val.cooldownSec = given.cooldownSec := rfl
    rw [same, cooldown_eq short] at spaced
    exact spaced

def longerID (vmIDs : List String) : String :=
  String.ofList ("vm-".toList ++ (vmIDs.map String.toList).flatten)

theorem longerID_fresh : longerID vmIDs ∉ vmIDs := by
  intro member
  have within := List.sublist_flatten_of_mem (List.mem_map_of_mem (f := String.toList) member)
  have bound := within.length_le
  have text : (longerID vmIDs).toList = "vm-".toList ++ (vmIDs.map String.toList).flatten :=
    String.toList_ofList
  have longer : (longerID vmIDs).toList.length = 3 + (vmIDs.map String.toList).flatten.length := by
    rw [text, List.length_append]
    rfl
  omega

def quietPass : Pass where
  listMetrics := fun _ _ => []
  boot := fun vmIDs _ => longerID vmIDs
  fresh := fun vmIDs _ => longerID_fresh vmIDs
  wait := fun _ => 1000000000
  work := fun _ => 1000000000

def oneReplica : AutoscalePolicy := ⟨1, 2, 80, 0, 30, true⟩

def emptyProject : Project := ⟨"p", [], 0, some oneReplica.stored⟩

theorem scaler_envelope_first_boot :
    (((run Scaler.reconcile (.new (.single Project.id emptyProject) 0) [quietPass]).projects.find
      "p").map Project.vmIDs = some ["vm-"]) ∧
    (∀ before pass after, [quietPass] = before ++ pass :: after →
      Envelope oneReplica.normalised "p"
        (run Scaler.reconcile (.new (.single Project.id emptyProject) 0) before)
        (run Scaler.reconcile (.new (.single Project.id emptyProject) 0) (before ++ [pass]))) ∧
    ((run Scaler.reconcile (.new (.single Project.id emptyProject) 0) [quietPass]).logOf
      "p").Pairwise (fun x y =>
        x.ended + (if oneReplica.cooldownSec ≤ 0 then 60 else oneReplica.cooldownSec) * 1000000000 ≤
          (y.began : Int)) :=
  ⟨by decide, scaler_envelope oneReplica (by decide) (.single Project.id emptyProject) 0
    emptyProject (by rfl) rfl (by decide) [quietPass]⟩

end Porter.Autoscale
