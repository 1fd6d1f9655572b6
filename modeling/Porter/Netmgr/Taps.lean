import Porter.Go.Heap
import Porter.Netmgr.NetManager
import Porter.Run.Guarded

/-!
# TAP devices

`AllocateVMNetwork` names the TAP device of a VM by the first characters of its id, and deletes a
device of that name before it makes one.
-/
namespace Porter.Netmgr

open Go Run Sql

structure TapCall where
  host : TapRun
  subnetCIDR : String
  replicaIndex : Int
  vmID : String

namespace TapCall

variable (call : TapCall)

def result : Except String BootSpec :=
  allocateVMNetwork call.host call.subnetCIDR call.replicaIndex call.vmID

def tapName : String := "tap-" ++ bootShortID call.vmID

def returned : Option String := call.result.toOption.map BootSpec.hostDevName

def begins : Bool :=
  call.host.goos = "linux" && (sscanf subnetFormat call.subnetCIDR.toList).toBool &&
    0 ≤ call.replicaIndex && call.replicaIndex ≤ 245

def prepare (taps : GoMap String String) (call : TapCall) : GoMap String String :=
  match call.result with
  | .ok _ => (taps.delete call.tapName).set (call.tapName, call.vmID)
  | .error _ => if call.begins then taps.delete call.tapName else taps

variable {call}

theorem returned_eq {spec : BootSpec} (given : call.result = .ok spec) :
    call.returned = some call.tapName := by
  have named : spec.hostDevName = call.tapName := by
    unfold result allocateVMNetwork at given
    split at given
    · cases given
    · split at given
      · cases given
      · split at given
        · cases given
        · simp only at given
          split at given
          · cases given
          · rw [← Except.ok.inj given]
            rfl
  rw [returned, given]
  exact congrArg some named

variable {calls : List TapCall}

theorem find_prepare_of_ne (given : ∀ call ∈ calls, ∃ spec, call.result = .ok spec) {name : String}
    (apart : name ∉ calls.map tapName) (taps : GoMap String String) :
    (run prepare taps calls).find name = taps.find name := by
  induction calls generalizing taps with
  | nil => rfl
  | cons first rest recurse =>
    obtain ⟨spec, done⟩ := given first List.mem_cons_self
    rw [List.map_cons, List.mem_cons, not_or] at apart
    rw [run_cons, recurse (fun call later => given call (List.mem_cons_of_mem _ later)) apart.2]
    simp only [prepare, done]
    rw [GoMap.find_set_of_ne _ _ apart.1, GoMap.find_delete, if_neg apart.1]

theorem find_prepare (given : ∀ call ∈ calls, ∃ spec, call.result = .ok spec)
    (apart : (calls.map tapName).Nodup) (member : call ∈ calls) (taps : GoMap String String) :
    (run prepare taps calls).find call.tapName = some (call.tapName, call.vmID) := by
  induction calls generalizing taps with
  | nil => cases member
  | cons first rest recurse =>
    obtain ⟨spec, done⟩ := given first List.mem_cons_self
    have others := fun call later => given call (List.mem_cons_of_mem first later)
    rw [List.map_cons, List.nodup_cons] at apart
    rw [run_cons]
    rcases List.mem_cons.mp member with rfl | later
    · rw [find_prepare_of_ne others apart.1]
      simp only [prepare, done]
      exact GoMap.find_set_self _ (call.tapName, call.vmID)
    · exact recurse others apart.2 later _

end TapCall

/-- After calls that succeed, each VM still has a device of its own exactly if the ids differ in
their first eight characters. -/
theorem taps_apart_iff (taps : GoMap String String) (calls : List TapCall)
    (given : ∀ call ∈ calls, ∃ spec, call.result = .ok spec) :
    ((calls.filterMap TapCall.returned).Nodup ∧ ∀ call ∈ calls,
        (run TapCall.prepare taps calls).find call.tapName = some (call.tapName, call.vmID)) ↔
      (calls.map (fun call => bootShortID call.vmID)).Nodup := by
  have names : calls.filterMap TapCall.returned = calls.map TapCall.tapName := by
    rw [← List.filterMap_eq_map]
    apply List.filterMap_congr
    intro call member
    obtain ⟨spec, done⟩ := given call member
    exact TapCall.returned_eq done
  have injective : Function.Injective (fun id : String => "tap-" ++ id) := by
    intro left right same
    simpa using same
  have short : (calls.map (fun call => bootShortID call.vmID)).Nodup ↔
      (calls.map TapCall.tapName).Nodup := by
    rw [← List.nodup_map_iff injective, List.map_map]
    rfl
  rw [names, short]
  exact and_iff_left_of_imp fun apart call member => TapCall.find_prepare given apart member taps

def firstReplica (id : String) : TapCall := ⟨.linux, "10.42.0.0/24", 0, id⟩

theorem taps_apart_iff_cron :
    let calls := [firstReplica "7c9e6679-7425-40de-944b-e07fc1f90ae7",
      firstReplica "cron-7c9e6679-7425-40de-944b-e07fc1f90ae7-1763294400"]
    ((calls.filterMap TapCall.returned).Nodup ∧ ∀ call ∈ calls,
        (run TapCall.prepare GoMap.nil calls).find call.tapName = some (call.tapName, call.vmID)) ↔
      (calls.map (fun call => bootShortID call.vmID)).Nodup :=
  taps_apart_iff GoMap.nil _ (List.forall_mem_cons.mpr ⟨⟨_, rfl⟩,
    List.forall_mem_singleton.mpr ⟨_, rfl⟩⟩)

theorem tap_shared :
    let calls := [firstReplica "7c9e6679-7425-40de-944b-e07fc1f90ae7",
      firstReplica "7c9e6679-12ab-4f0e-8c4d-2a1b3c4d5e6f"]
    calls.filterMap TapCall.returned = ["tap-7c9e6679", "tap-7c9e6679"] ∧
      (run TapCall.prepare GoMap.nil calls).find "tap-7c9e6679" =
        some ("tap-7c9e6679", "7c9e6679-12ab-4f0e-8c4d-2a1b3c4d5e6f") := by
  decide +kernel

end Porter.Netmgr
