import Mathlib.Algebra.BigOperators.Group.Finset.Basic
import Mathlib.Data.List.DropRight
import Mathlib.Data.List.Sort
import Porter.Go.Slice
import Porter.Run.Guarded
import Porter.Store.Domains

/-!
# Traffic

The ring of requests the store keeps in memory for each VM, compacted in place by a purge, and the
table `traffic_logs`, whose rows name the VM of their entry and no project.
-/
namespace Porter.Store.Traffic

open Go Run

structure TrafficEntry where
  timestamp : Int
  method : String
  host : String
  path : String
  status : Int
  durationMS : Int
  remoteIP : String
  bytesIn : Int
  bytesOut : Int
deriving DecidableEq

structure TrafficLog where
  vmID : Option String
  projectID : Option String
  /-- The columns of the entry; its byte counts are not stored. -/
  entry : TrafficEntry
deriving DecidableEq

structure TrafficStore where
  traffic : String → Option (Slice TrafficEntry)
  logs : List TrafficLog

namespace TrafficStore

def new (logs : List TrafficLog) : TrafficStore := ⟨fun _ => none, logs⟩

def trafficRingSize : Nat := 200

def logged (e : TrafficEntry) : TrafficEntry :=
  { e with method := if e.method = "" then "GET" else e.method, bytesIn := 0, bytesOut := 0 }

variable (st : TrafficStore) (vmID : String)

def ring : Slice TrafficEntry := (st.traffic vmID).getD .nil

def entries : List TrafficEntry := (st.ring vmID).elems

def onPath (path : String) : Nat := (st.entries vmID).countP (·.path = path)

/-- `AddTraffic`, with the spare cells of a new array and whether the insert succeeds. -/
def addTraffic (e : TrafficEntry) (fresh : List TrafficEntry) (inserted : Bool) : TrafficStore :=
  let buf := (st.ring vmID).append e fresh
  let buf := if buf.elems.length > trafficRingSize then
    buf.drop (buf.elems.length - trafficRingSize) else buf
  { traffic := Function.update st.traffic vmID (some buf)
    logs := if inserted then st.logs ++ [⟨nullableStr vmID, none, logged e⟩] else st.logs }

def listTraffic (limit : Int) : List TrafficEntry :=
  let buf := st.entries vmID
  let limit := if limit ≤ 0 ∨ limit > buf.length then buf.length else limit.toNat
  buf.drop (buf.length - limit)

/-- A null project, of a row or asked for, is equal to none. -/
def listTrafficLogs (projectID : String) (limit : Int) : List TrafficEntry :=
  let limit := if limit ≤ 0 ∨ limit > 2000 then 200 else limit.toNat
  (((st.logs.filter fun row => row.projectID.isSome ∧ row.projectID = nullableStr projectID).map
    TrafficLog.entry).insertionSort (fun a b => b.timestamp ≤ a.timestamp)).take limit

def purgeRing (path : String) (state : TrafficStore × Nat) (vmID : String) : TrafficStore × Nat :=
  let (k, removed) := (state.1.ring vmID).keep fun e => decide (e.path ≠ path)
  let kept := if k.elems.length = 0 then none else some k
  ({ state.1 with traffic := Function.update state.1.traffic vmID kept }, state.2 + removed)

/-- `ClearTrafficForPath`, with the VMs `GetProject` lists, and whether the statement succeeds. -/
def clearTrafficForPath (vmIDs : Option (List String)) (projectID path : String) (deleted : Bool) :
    TrafficStore × Nat :=
  match vmIDs with
  | none => (st, 0)
  | some vmIDs =>
    let (st, removed) := vmIDs.foldl (purgeRing path) (st, 0)
    ({ st with logs := if deleted then st.logs.filter fun row =>
        ¬(row.projectID = some projectID ∧ row.entry.path = path) else st.logs }, removed)

end TrafficStore

open TrafficStore

inductive Call where
  | addTraffic (vmID : String) (e : TrafficEntry) (fresh : List TrafficEntry) (inserted : Bool)
  | clearTrafficForPath (vmIDs : Option (List String)) (projectID path : String) (deleted : Bool)

def step (st : TrafficStore) : Call → TrafficStore
  | .addTraffic vmID e fresh inserted => st.addTraffic vmID e fresh inserted
  | .clearTrafficForPath vmIDs projectID path deleted =>
    (st.clearTrafficForPath vmIDs projectID path deleted).1

/-- Entries that are added are listed for a project exactly if they were before, and a purge leaves
none of its path. -/
theorem listed_iff (st : TrafficStore) (vmID projectID path : String) (vmIDs : List String)
    (added : List (TrafficEntry × List TrafficEntry)) :
    let after := added.foldl (fun st e => st.addTraffic vmID e.1 e.2 true) st
    ((∀ e ∈ added, logged e.1 ∈ after.listTrafficLogs projectID 2000) ↔
      ∀ e ∈ added, logged e.1 ∈ st.listTrafficLogs projectID 2000) ∧
    ∀ e ∈ (after.clearTrafficForPath (some vmIDs) projectID path true).1.listTrafficLogs
      projectID 2000, e.path ≠ path := by
  constructor
  · have listed : ∀ added : List (TrafficEntry × List TrafficEntry), ∀ st : TrafficStore,
        (added.foldl (fun st e => st.addTraffic vmID e.1 e.2 true) st).listTrafficLogs projectID
          2000 = st.listTrafficLogs projectID 2000 := by
      intro added
      induction added with
      | nil => exact fun _ => rfl
      | cons e rest recurse =>
        intro st
        rw [List.foldl_cons, recurse]
        simp [listTrafficLogs, addTraffic]
    rw [listed]
  · intro e listed samePath
    have sorted := List.mem_of_mem_take listed
    rw [List.mem_insertionSort] at sorted
    obtain ⟨row, stored, rfl⟩ := List.mem_map.mp sorted
    obtain ⟨inside, asked⟩ := List.mem_filter.mp stored
    have ⟨project, same⟩ := decide_eq_true_eq.mp asked
    have other := decide_eq_true_eq.mp (List.mem_filter.mp inside).2
    rw [same, nullableStr] at project
    split at project
    · contradiction
    · next named => exact other ⟨same.trans (if_neg named), samePath⟩

def someEntry (path : String) : TrafficEntry :=
  ⟨0, "GET", "app.local", path, 200, 1, "10.0.0.1", 0, 0⟩

theorem added_unlisted :
    ((new []).addTraffic "v" (someEntry "/a") [] true).logs = [⟨some "v", none, someEntry "/a"⟩] ∧
      ((new []).addTraffic "v" (someEntry "/a") [] true).listTrafficLogs "p" 2000 = [] := by
  decide

variable {st : TrafficStore} {vmID other path : String}

theorem entries_update (kept : Option (Slice TrafficEntry)) (logs : List TrafficLog) :
    entries ⟨Function.update st.traffic vmID kept, logs⟩ other =
      if other = vmID then (kept.getD .nil).elems else st.entries other := by
  unfold entries ring
  by_cases here : other = vmID
  · simp [here]
  · simp [here]

theorem entries_addTraffic (e : TrafficEntry) (fresh : List TrafficEntry) (inserted : Bool) :
    (st.addTraffic vmID e fresh inserted).entries other =
      if other = vmID then (st.entries vmID ++ [e]).rtake trafficRingSize
      else st.entries other := by
  unfold TrafficStore.addTraffic
  rw [entries_update]
  split
  · dsimp only [Option.getD_some]
    split
    · simp only [Slice.drop, Slice.elems_append]
      rfl
    · next fits =>
      rw [Slice.elems_append, Nat.not_lt] at fits
      rw [Slice.elems_append, List.rtake, entries, Nat.sub_eq_zero_of_le fits, List.drop_zero]
  · rfl

theorem purgeRing_spec (st : TrafficStore) (path vmID : String) (count : Nat) :
    (∀ other, (purgeRing path (st, count) vmID).1.entries other =
      if other = vmID then (st.entries vmID).filter (·.path ≠ path) else st.entries other) ∧
      (purgeRing path (st, count) vmID).2 = count + st.onPath vmID path := by
  have ⟨kept, removed⟩ := (st.ring vmID).keep_spec fun e => decide (e.path ≠ path)
  unfold TrafficStore.purgeRing
  dsimp only
  constructor
  · intro other
    rw [entries_update]
    split
    · refine Eq.trans ?_ kept
      split
      · next none => exact (List.length_eq_zero_iff.mp none).symm
      · rfl
    · rfl
  · have total : (st.ring vmID).elems.length = _ :=
      List.length_eq_countP_add_countP fun e => decide (e.path = path)
    simp only [decide_eq_true_eq, ← List.countP_eq_length_filter] at total removed
    unfold onPath entries
    dsimp only [ne_eq] at removed ⊢
    omega

theorem sum_cleared (f g : String → Nat) {vmID : String} {rest : Finset String} (zero : g vmID = 0)
    (others : ∀ other ≠ vmID, g other = f other) :
    f vmID + ∑ other ∈ rest, g other = ∑ other ∈ insert vmID rest, f other := by
  have same : ∑ other ∈ rest.erase vmID, g other = ∑ other ∈ rest.erase vmID, f other :=
    Finset.sum_congr rfl fun other member => others other (Finset.ne_of_mem_erase member)
  have whole : insert vmID (rest.erase vmID) = insert vmID rest := by grind
  rw [← Finset.sum_erase rest zero, same, ← Finset.sum_insert (Finset.notMem_erase vmID rest),
    whole]

theorem purges_spec (st : TrafficStore) (path : String) (vmIDs : List String) (count : Nat) :
    (∀ other, (vmIDs.foldl (purgeRing path) (st, count)).1.entries other =
      if other ∈ vmIDs then (st.entries other).filter (·.path ≠ path) else st.entries other) ∧
      (vmIDs.foldl (purgeRing path) (st, count)).2 =
        count + ∑ vmID ∈ vmIDs.toFinset, st.onPath vmID path := by
  induction vmIDs generalizing st count with
  | nil => exact ⟨fun _ => rfl, rfl⟩
  | cons vmID rest recurse =>
    have ⟨entries, removed⟩ := purgeRing_spec st path vmID count
    have ⟨after, total⟩ := recurse (purgeRing path (st, count) vmID).1
      (purgeRing path (st, count) vmID).2
    rw [List.foldl_cons]
    refine ⟨fun other => (after other).trans ?_, total.trans ?_⟩
    · rw [entries other]
      by_cases here : other = vmID
      · simp [here]
      · simp [here]
    · rw [removed, Nat.add_assoc, List.toFinset_cons]
      refine congrArg (count + ·) (sum_cleared (st.onPath · path)
        ((purgeRing path (st, count) vmID).1.onPath · path) ?_ ?_)
      · rw [onPath, entries vmID, if_pos rfl, List.countP_eq_zero]
        intro e member
        simpa using List.of_mem_filter member
      · intro other different
        rw [onPath, entries other, if_neg different, onPath]

theorem clearTrafficForPath_spec (st : TrafficStore) (vmIDs : Option (List String))
    (projectID path : String) (deleted : Bool) :
    let purged := st.clearTrafficForPath vmIDs projectID path deleted
    (∀ other, purged.1.entries other = if other ∈ vmIDs.getD [] then
      (st.entries other).filter (·.path ≠ path) else st.entries other) ∧
      purged.2 = ∑ vmID ∈ (vmIDs.getD []).toFinset, st.onPath vmID path := by
  cases vmIDs with
  | none => exact ⟨fun _ => rfl, rfl⟩
  | some vmIDs =>
    have ⟨after, total⟩ := purges_spec st path vmIDs 0
    exact ⟨after, total.trans (Nat.zero_add _)⟩

def Bounded (st : TrafficStore) : Prop := ∀ vmID, (st.entries vmID).length ≤ trafficRingSize

theorem bounded_addTraffic (bounded : Bounded st) (vmID : String) (e : TrafficEntry)
    (fresh : List TrafficEntry) (inserted : Bool) :
    Bounded (st.addTraffic vmID e fresh inserted) := by
  intro other
  rw [entries_addTraffic]
  split
  · rw [List.rtake, List.length_drop]
    omega
  · exact bounded other

theorem bounded_clear (bounded : Bounded st) (vmIDs : Option (List String))
    (projectID path : String) (deleted : Bool) :
    Bounded (st.clearTrafficForPath vmIDs projectID path deleted).1 := by
  intro other
  rw [(clearTrafficForPath_spec _ _ _ _ _).1 other]
  split
  · exact (List.length_filter_le ..).trans (bounded other)
  · exact bounded other

theorem bounded_run (logs : List TrafficLog) (calls : List Call) :
    Bounded (run step (new logs) calls) := by
  refine run_preserved _ _ ?_ _ calls fun _ => Nat.zero_le _
  intro st call bounded
  cases call with
  | addTraffic vmID e fresh inserted => exact bounded_addTraffic bounded vmID e fresh inserted
  | clearTrafficForPath vmIDs projectID path deleted =>
    exact bounded_clear bounded vmIDs projectID path deleted

theorem rtake_rtake {α : Type} (xs : List α) (m n : Nat) :
    (xs.rtake n).rtake m = xs.rtake (min m n) := by
  unfold List.rtake
  rw [List.drop_drop, List.length_drop]
  congr 1
  omega

theorem rtake_rtake_append {α : Type} (xs ys : List α) (n : Nat) :
    (xs.rtake n ++ ys).rtake n = (xs ++ ys).rtake n := by
  simp only [List.rtake_eq_reverse_take_reverse, List.reverse_append, List.reverse_reverse,
    List.take_append, List.take_take]
  rw [Nat.min_eq_left (Nat.sub_le ..)]

def addedTo (vmID : String) (added : List (String × TrafficEntry × List TrafficEntry)) :
    List TrafficEntry :=
  (added.filter (·.1 = vmID)).map (·.2.1)

def addAll (st : TrafficStore) (added : List (String × TrafficEntry × List TrafficEntry)) :
    TrafficStore :=
  added.foldl (fun st e => st.addTraffic e.1 e.2.1 e.2.2 true) st

theorem addAll_spec (bounded : Bounded st)
    (added : List (String × TrafficEntry × List TrafficEntry)) (vmID : String) :
    Bounded (addAll st added) ∧ (addAll st added).entries vmID =
      (st.entries vmID ++ addedTo vmID added).rtake trafficRingSize := by
  induction added generalizing st with
  | nil =>
    refine ⟨bounded, ?_⟩
    show st.entries vmID = (st.entries vmID ++ []).rtake trafficRingSize
    rw [List.append_nil, List.rtake, Nat.sub_eq_zero_of_le (bounded vmID), List.drop_zero]
  | cons e rest recurse =>
    have ⟨next, entries⟩ := recurse (bounded_addTraffic bounded e.1 e.2.1 e.2.2 true)
    refine ⟨next, entries.trans ?_⟩
    rw [entries_addTraffic]
    by_cases here : e.1 = vmID
    · rw [if_pos here.symm, rtake_rtake_append, List.append_assoc, here]
      simp [addedTo, here]
    · rw [if_neg (Ne.symm here)]
      simp [addedTo, here]

theorem listTraffic_all (st : TrafficStore) (vmID : String) :
    st.listTraffic vmID 0 = st.entries vmID := by
  simp [listTraffic]

theorem listTraffic_eq (bounded : Bounded st) (limit : Int) :
    st.listTraffic vmID limit =
      (st.entries vmID).rtake (if limit ≤ 0 then trafficRingSize else limit.toNat) := by
  have bound := bounded vmID
  unfold TrafficStore.listTraffic List.rtake
  dsimp only
  congr 1
  split <;> split <;> omega

/-- A purge takes the entries of its path out of the rings of the project's VMs and counts them, and
entries added later follow those that were kept. -/
theorem clearTrafficForPath_exact (logs : List TrafficLog) (calls : List Call)
    (vmIDs : Option (List String)) (projectID path : String) (deleted : Bool) :
    let before := run step (new logs) calls
    let purged := before.clearTrafficForPath vmIDs projectID path deleted
    (∀ vmID, purged.1.listTraffic vmID 0 = if vmID ∈ vmIDs.getD [] then
      (before.listTraffic vmID 0).filter (·.path ≠ path) else before.listTraffic vmID 0) ∧
    purged.2 = ∑ vmID ∈ (vmIDs.getD []).toFinset, before.onPath vmID path ∧
    ∀ added vmID limit, (addAll purged.1 added).listTraffic vmID limit =
      (purged.1.listTraffic vmID 0 ++ addedTo vmID added).rtake
        (min (if limit ≤ 0 then trafficRingSize else limit.toNat) trafficRingSize) := by
  have bounded := bounded_run logs calls
  have ⟨entries, removed⟩ := clearTrafficForPath_spec (run step (new logs) calls) vmIDs
    projectID path deleted
  refine ⟨?_, removed, ?_⟩
  · intro vmID
    rw [listTraffic_all, listTraffic_all, entries vmID]
  · intro added vmID limit
    have ⟨later, ring⟩ := addAll_spec (bounded_clear bounded vmIDs projectID path deleted) added
      vmID
    rw [listTraffic_eq later, ring, listTraffic_all, rtake_rtake]

end Porter.Store.Traffic
