import Mathlib.Algebra.BigOperators.Group.List.Basic
import Mathlib.Data.List.Dedup
import Mathlib.Data.List.Infix
import Mathlib.Tactic.Linarith
import Mathlib.Tactic.Ring

/-!
# The usage report

`handleUsage` counts the requests of a period by the local date of each, and lists its days by
stepping from one midnight of UTC to the next.
-/
namespace Porter.Api.Usage

structure TrafficEntry where
  timestamp : Int
  path : String
  bytesIn : Int
  bytesOut : Int

structure VM where
  id : String
  projectID : String

abbrev day : Int := 86400000000000

abbrev Zone := Int → Int

def Zone.date (zone : Zone) (t : Int) : Int := (t + zone t) / day

def listTraffic (buf : List TrafficEntry) (limit : Int) : List TrafficEntry :=
  let limit := if limit ≤ 0 || limit > buf.length then buf.length else limit.toNat
  buf.drop (buf.length - limit)

variable {α κ : Type} [DecidableEq κ]

def tally (key : α → κ) (amount : α → Int) (xs : List α) : κ → Int :=
  xs.foldl (fun m x => Function.update m (key x) (m (key x) + amount x)) (fun _ => 0)

structure Input where
  zone : Zone
  vms : List VM
  traffic : String → List TrafficEntry
  period : Int
  now : Int
  later : Int
  projects : Nat

namespace Input

variable (input : Input)

def since : Int := input.now - input.period

def counted : List (String × TrafficEntry) :=
  input.vms.flatMap fun vm =>
    ((listTraffic (input.traffic vm.id) 2000).filter fun e => !(e.timestamp < input.since)).map
      fun e => (vm.projectID, e)

def first : Int := input.since / day * day

def dates : List Int :=
  (List.range ((input.later - input.first) / day + 1).toNat).map fun i : Nat =>
    input.zone.date (input.first + i * day)

end Input

abbrev Amount := String × TrafficEntry → Int

def requests : Amount := fun _ => 1

def bandwidth : Amount := fun x => x.2.bytesIn + x.2.bytesOut

structure Day where
  date : Int
  requests : Int
  bandwidth : Int

structure Report where
  period : Int
  edgeRequests : Int
  functionInvocations : Int
  fastDataTransfer : Int
  dataTransferIn : Int
  dataTransferOut : Int
  projects : Nat
  series : List Day
  byProject : List (String × Int × Int)

def isFunctionPath (p : String) : Bool :=
  "/api/".toList <+: p.toList || "/functions/".toList <+: p.toList || "/fn/".toList <:+: p.toList

def handleUsage (input : Input) : Report :=
  let sum (amount : Amount) : Int := input.counted.foldl (fun sum x => sum + amount x) 0
  let byDay (amount : Amount) := tally (fun x => input.zone.date x.2.timestamp) amount input.counted
  let projects (amount : Amount) := tally Prod.fst amount input.counted
  let bytesIn := sum fun x => x.2.bytesIn
  let bytesOut := sum fun x => x.2.bytesOut
  { period := input.period
    edgeRequests := sum requests
    functionInvocations := sum fun x => if isFunctionPath x.2.path then 1 else 0
    fastDataTransfer := bytesIn + bytesOut
    dataTransferIn := bytesIn
    dataTransferOut := bytesOut
    projects := input.projects
    series := input.dates.map fun key => ⟨key, byDay requests key, byDay bandwidth key⟩
    byProject := (input.counted.map Prod.fst).dedup.map fun pid =>
      (pid, projects requests pid, projects bandwidth pid) }

theorem sum_update (keys : List κ) (m : κ → Int) (k : κ) (a : Int) :
    (keys.map (Function.update m k (m k + a))).sum = (keys.map m).sum + keys.count k * a := by
  induction keys with
  | nil => simp
  | cons other keys recurse =>
    rw [List.map_cons, List.sum_cons, recurse, List.map_cons, List.sum_cons, List.count_cons]
    by_cases same : other = k
    · simp [same]
      ring
    · simp [same]
      ring

theorem sum_tally (keys : List κ) (key : α → κ) (amount : α → Int) (xs : List α) :
    (keys.map (tally key amount xs)).sum =
      (xs.map fun x => keys.count (key x) * amount x).sum := by
  have loop : ∀ m : κ → Int, (keys.map (xs.foldl (fun m x =>
      Function.update m (key x) (m (key x) + amount x)) m)).sum =
        (keys.map m).sum + (xs.map fun x => keys.count (key x) * amount x).sum := by
    induction xs with
    | nil => simp
    | cons x xs recurse =>
      intro m
      rw [List.foldl_cons, recurse, sum_update, List.map_cons, List.sum_cons]
      ring
  unfold tally
  rw [loop]
  simp

theorem sum_tally_of_once {keys : List κ} {key : α → κ} {xs : List α} (amount : α → Int)
    (once : ∀ x ∈ xs, keys.count (key x) = 1) :
    (keys.map (tally key amount xs)).sum = (xs.map amount).sum := by
  rw [sum_tally]
  refine congrArg List.sum (List.map_congr_left fun x member => ?_)
  rw [once x member, Nat.cast_one, one_mul]

theorem foldl_add (amount : α → Int) (xs : List α) :
    xs.foldl (fun sum x => sum + amount x) 0 = (xs.map amount).sum := by
  rw [List.sum_eq_foldl, List.foldl_map]

def Dated (input : Input) : Prop :=
  ∀ x ∈ input.counted, input.dates.count (input.zone.date x.2.timestamp) = 1

theorem dated_utc {input : Input} (utc : input.zone = fun _ => 0)
    (past : ∀ x ∈ input.counted, x.2.timestamp ≤ input.later) : Dated input := by
  have date : ∀ t, input.zone.date t = t / day := by
    intro t
    rw [utc, Zone.date, add_zero]
  have dates : input.dates = (List.range ((input.later - input.first) / day + 1).toNat).map
      fun i : Nat => input.since / day + i := by
    unfold Input.dates
    refine List.map_congr_left fun i _ => ?_
    rw [date, Input.first, ← add_mul, Int.mul_ediv_cancel _ (by decide)]
  intro x member
  have recent : input.since ≤ x.2.timestamp := by
    have ⟨vm, _, among⟩ := List.mem_flatMap.mp member
    have ⟨e, kept, same⟩ := List.mem_map.mp among
    have ⟨_, passes⟩ := List.mem_filter.mp kept
    rw [← same]
    simpa using passes
  have present := past x member
  rw [dates, date]
  refine List.count_eq_one_of_mem (List.nodup_range.map fun i j same => by simpa using same) ?_
  refine List.mem_map.mpr ⟨(x.2.timestamp / day - input.since / day).toNat, ?_, ?_⟩
  · rw [List.mem_range, Input.first]
    unfold day
    omega
  · unfold day
    omega

def oneRequest (zone : Zone) : Input where
  zone := zone
  vms := [⟨"vm", "p"⟩]
  traffic := fun _ => [⟨10 * day + day / 2, "/", 60, 40⟩]
  period := day
  now := 10 * day + day / 2
  later := 10 * day + day / 2
  projects := 1

end Porter.Api.Usage
