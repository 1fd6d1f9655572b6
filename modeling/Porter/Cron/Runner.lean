import Porter.Api.Listing
import Porter.Api.Resources
import Porter.Cron.Schedule
import Porter.Run.Ticks

/-!
# The cron runner

`fireDue` polls the stored crons and fires those whose schedule matches the time at which the poll
began, unless the last run was in the same minute.
-/
namespace Porter.Cron

open Store Sql Go

/-- One call of `fireDue`: when it starts, and when `TouchCron` runs for each cron that fires. -/
structure Poll where
  now : Int
  touched : String → Int

def minuteOf (time : Int) : Int := time / 60000000000

def fires (calendar : Int → Civil) (now : Int) (c : Cron) : Bool :=
  c.active && c.schedule ≠ "" && matchesAt c.schedule.toList (calendar (minuteOf now)) &&
    !(c.lastRun.any (fun last => minuteOf last = minuteOf now))

/-- `fireDue`, with the crons it fires. The tests see the crons as they were listed. -/
def fireDue (calendar : Int → Civil) (table : Table Cron.id) (poll : Poll) :
    Table Cron.id × List Cron :=
  let fired := table.rows.filter (fires calendar poll.now)
  (fired.foldl (fun table c => touchCron table none c.id (poll.touched c.id)) table, fired)

def firingsOf (calendar : Int → Civil) (id : String) :
    Table Cron.id → List Poll → List (Int × Int)
  | _, [] => []
  | table, poll :: rest =>
    let (next, fired) := fireDue calendar table poll
    (fired.filter (·.id = id)).map (fun _ => (minuteOf poll.now, minuteOf (poll.touched id))) ++
      firingsOf calendar id next rest

section

variable {calendar : Int → Civil} {table : Table Cron.id} {c : Cron}

theorem rows_touchAll (poll : Poll) (fired : List Cron) (table : Table Cron.id) :
    (fired.foldl (fun table c => touchCron table none c.id (poll.touched c.id)) table).rows =
      table.rows.map (fun row => if row.id ∈ fired.map Cron.id then
        { row with lastRun := some (poll.touched row.id) } else row) := by
  induction fired generalizing table with
  | nil => simp
  | cons c rest recurse =>
    rw [List.foldl_cons, recurse]
    simp only [touchCron, updateRow, Table.updateWhere, List.map_map, List.map_inj_left,
      Function.comp_apply, List.map_cons, List.mem_cons]
    intro row _
    by_cases same : row.id = c.id
    · simp [same]
    · simp [same]

variable (stored : c ∈ table.rows) (poll : Poll)

include stored

theorem filter_fired :
    (fireDue calendar table poll).2.filter (·.id = c.id) =
      if fires calendar poll.now c then [c] else [] := by
  have alone : table.rows.filter (fun row => row.id = c.id) = [c] := by
    have once := List.Nodup.of_map _ table.unique
    apply List.perm_singleton.mp
    apply (List.perm_ext_iff_of_nodup (once.filter _) (List.nodup_singleton c)).mpr
    intro row
    simp only [List.mem_filter, decide_eq_true_eq, List.mem_singleton]
    constructor
    · rintro ⟨member, same⟩
      exact table.row_eq_of_key member stored same
    · rintro rfl
      exact ⟨stored, rfl⟩
  unfold fireDue
  rw [List.filter_comm, alone, List.filter_singleton, Bool.cond_eq_ite]

theorem mem_fireDue :
    (if fires calendar poll.now c then { c with lastRun := some (poll.touched c.id) } else c) ∈
      (fireDue calendar table poll).1.rows := by
  have touched : c.id ∈ (table.rows.filter (fires calendar poll.now)).map Cron.id ↔
      fires calendar poll.now c = true := by
    rw [List.mem_map]
    constructor
    · rintro ⟨row, listed, same⟩
      obtain ⟨member, passes⟩ := List.mem_filter.mp listed
      rwa [table.row_eq_of_key member stored same] at passes
    · intro passes
      exact ⟨c, List.mem_filter.mpr ⟨stored, passes⟩, rfl⟩
  unfold fireDue
  rw [rows_touchAll]
  refine List.mem_map.mpr ⟨c, stored, ?_⟩
  simp only [touched]

omit stored

def Poll.tick (id : String) (poll : Poll) : Int × Int :=
  (minuteOf poll.now, minuteOf (poll.touched id))

def due (calendar : Int → Civil) (c : Cron) (minute : Int) : Bool :=
  c.active && matchesAt c.schedule.toList (calendar minute)

theorem fires_eq (calendar : Int → Civil) (now : Int) (c : Cron) :
    fires calendar now c = (due calendar c (minuteOf now) &&
      decide (c.lastRun.map minuteOf ≠ some (minuteOf now))) := by
  have blank : ∀ t, matchesAt [] t = false := fun _ => rfl
  unfold fires due
  by_cases empty : c.schedule = ""
  · simp [empty, blank]
  · cases c.lastRun <;> simp [empty]

theorem firingsOf_eq (stored : c ∈ table.rows) (polls : List Poll) :
    firingsOf calendar c.id table polls =
      Run.firings (due calendar c) (c.lastRun.map minuteOf) (polls.map (Poll.tick c.id)) := by
  induction polls generalizing table c with
  | nil => rfl
  | cons poll rest recurse =>
    have fired : (fireDue calendar table poll).2.filter _ = _ := filter_fired stored poll
    have next : _ ∈ (fireDue calendar table poll).1.rows := mem_fireDue stored poll
    unfold firingsOf
    simp only [List.map_cons, Run.firings, fired]
    rw [show (due calendar c (Poll.tick c.id poll).1 && decide (c.lastRun.map minuteOf ≠
      some (Poll.tick c.id poll).1)) = fires calendar poll.now c from (fires_eq ..).symm]
    cases passes : fires calendar poll.now c with
    | true =>
      rw [passes, if_pos rfl] at next
      have later := recurse next
      simp only [if_true, List.map_cons, List.map_nil, List.singleton_append]
      exact congrArg _ later
    | false =>
      rw [passes, if_neg Bool.false_ne_true] at next
      simpa using recurse next

structure InTurn (c : Cron) (polls : List Poll) : Prop where
  past : ∀ last ∈ c.lastRun, ∀ poll ∈ polls, last ≤ poll.now
  forward : ∀ poll ∈ polls, poll.now ≤ poll.touched c.id
  chained : polls.Pairwise (fun earlier later => earlier.touched c.id ≤ later.now)

theorem minuteOf_le {earlier later : Int} (le : earlier ≤ later) :
    minuteOf earlier ≤ minuteOf later := Int.ediv_le_ediv (by decide) le

theorem InTurn.ticks {polls : List Poll} (turn : InTurn c polls) :
    Run.InTurn (c.lastRun.map minuteOf) (polls.map (Poll.tick c.id)) where
  past := by
    intro mark present tick listed
    obtain ⟨last, stored, rfl⟩ := Option.mem_map.mp present
    obtain ⟨poll, member, rfl⟩ := List.mem_map.mp listed
    exact minuteOf_le (turn.past last stored poll member)
  forward := by
    intro tick listed
    obtain ⟨poll, member, rfl⟩ := List.mem_map.mp listed
    exact minuteOf_le (turn.forward poll member)
  chained := List.pairwise_map.mpr (turn.chained.imp minuteOf_le)

/-- An active cron fires exactly once in every minute of its schedule in which a poll begins,
exactly if none is the minute of the last run before, or that in which an earlier run was
written. -/
theorem fires_once_iff (calendar : Int → Civil) (table : Table Cron.id) (c : Cron)
    (stored : c ∈ table.rows) (active : c.active = true) (polls : List Poll)
    (turn : InTurn c polls) :
    (∀ poll ∈ polls, matchesAt c.schedule.toList (calendar (minuteOf poll.now)) = true →
        ((firingsOf calendar c.id table polls).map Prod.fst).count (minuteOf poll.now) = 1) ↔
      ∀ poll ∈ polls, matchesAt c.schedule.toList (calendar (minuteOf poll.now)) = true →
        c.lastRun.map minuteOf ≠ some (minuteOf poll.now) ∧
          ∀ fired ∈ firingsOf calendar c.id table polls,
            fired.2 = minuteOf poll.now → fired.1 = fired.2 := by
  rw [firingsOf_eq stored]
  refine forall₃_congr fun poll member wanted => ?_
  have listed : Poll.tick c.id poll ∈ polls.map (Poll.tick c.id) := List.mem_map_of_mem member
  exact Run.count_firings_iff turn.ticks listed (by simpa [due, active, Poll.tick] using wanted)

end

def minutely : Cron := ⟨"c1", "p1", "tidy", "* * * * *", "tidy:1", true, none⟩

def latePolls : List Poll :=
  [⟨59999000000, fun _ => 60001000000⟩, ⟨90000000000, fun _ => 90001000000⟩]

theorem latePolls_inTurn : InTurn minutely latePolls where
  past := by simp [minutely]
  forward := by simp [latePolls]
  chained := by simp [latePolls]

theorem minute_missed :
    InTurn minutely latePolls ∧ minuteOf 90000000000 = 1 ∧
      matchesAt minutely.schedule.toList lastMinute = true ∧
      firingsOf (fun _ => lastMinute) "c1" (Table.single Cron.id minutely) latePolls = [(0, 1)] :=
  ⟨latePolls_inTurn, by decide, by decide, by decide⟩

theorem fires_once_iff_late :
    (∀ poll ∈ latePolls, matchesAt minutely.schedule.toList lastMinute = true →
        ((firingsOf (fun _ => lastMinute) "c1" (Table.single Cron.id minutely) latePolls).map
          Prod.fst).count (minuteOf poll.now) = 1) ↔
      ∀ poll ∈ latePolls, matchesAt minutely.schedule.toList lastMinute = true →
        minutely.lastRun.map minuteOf ≠ some (minuteOf poll.now) ∧
          ∀ fired ∈ firingsOf (fun _ => lastMinute) "c1" (Table.single Cron.id minutely) latePolls,
            fired.2 = minuteOf poll.now → fired.1 = fired.2 :=
  fires_once_iff _ (Table.single Cron.id minutely) minutely List.mem_cons_self rfl latePolls
    latePolls_inTurn

inductive Trigger where
  | poll (unix : Int)
  | request (newID : String)

def Trigger.job (trigger : Trigger) (c : Cron) : CronJob where
  id := match trigger with
    | .poll unix => "cron-" ++ c.id ++ "-" ++ toString unix
    | .request newID => newID
  name := c.name ++ "-job"
  projectID := c.projectID
  serviceName := "cron"
  image := c.jobImage
  replicaIndex := -1

def jobVM (job : CronJob) : VM where
  id := job.id
  name := job.name
  projectID := job.projectID
  serviceName := job.serviceName
  state := .pending
  healthStatus := .checking
  image := job.image
  replicaIndex := job.replicaIndex
  vcpus := 0
  memMiB := 0
  ports := []
  env := GoMap.nil
  volumeID := ""
  deploymentID := ""
  deploymentVersion := ""
  deploymentEnv := ""
  guestBase := ""
  rootfsPath := ""
  kernel := ""
  error := ""

def launch (db : ProjectDb) (trigger : Trigger) (c : Cron) : ProjectDb × VM :=
  (putVM db none (jobVM (trigger.job c)), jobVM (trigger.job c))

theorem cronJobs_handleRunCron {db : ResourceDb} {fault : StmtFault} {cronID : String} {c : Cron}
    (found : getRow db.crons fault.read cronID = some c) (now : Int) (newID : String) :
    (Api.handleRunCron db fault cronID now newID).1.cronJobs =
      db.cronJobs ++ [(Trigger.request newID).job c] := by
  unfold Api.handleRunCron
  rw [found]
  rfl

/-- The job has a row exactly if no other row of the project has the index of jobs, or a row with
its id was there before. -/
theorem launch_recorded_iff (db : ProjectDb) (trigger : Trigger) (c : Cron)
    (named : c.projectID ≠ "") (owned : db.hasProject c.projectID = true) :
    (∃ row ∈ (launch db trigger c).1.replicas.rows, row.id = (launch db trigger c).2.id) ↔
      (∃ row ∈ db.replicas.rows, row.id = (launch db trigger c).2.id) ∨
        ∀ row ∈ db.replicas.rows, row.projectID = c.projectID → row.replicaIndex = -1 →
          row.id = (launch db trigger c).2.id := by
  unfold launch
  generalize made : jobVM (trigger.job c) = vm
  have project : vm.projectID = c.projectID := made ▸ rfl
  have index : vm.replicaIndex = -1 := made ▸ rfl
  have refused : refusesVM db vm = true ↔ ¬ ∀ row ∈ db.replicas.rows,
      row.projectID = c.projectID → row.replicaIndex = -1 → row.id = vm.id := by
    simp [refusesVM, project, index, named, owned, and_assoc]
  by_cases conflict : refusesVM db vm = true
  · have unchanged : putVM db none vm = db := by simp [putVM, conflict]
    simp only [unchanged]
    exact ⟨Or.inl, fun either => either.resolve_right (refused.mp conflict)⟩
  · have admitted : refusesVM db vm = false := Bool.eq_false_iff.mpr conflict
    have stored : vm ∈ (putVM db none vm).replicas.rows :=
      (mem_putVM_admitted admitted vm).mpr (Or.inl rfl)
    exact ⟨fun _ => Or.inr (not_not.mp (mt refused.mpr conflict)), fun _ => ⟨vm, stored, rfl⟩⟩

def shopDb : ProjectDb := putProject ProjectDb.empty none ⟨Api.bareProject "p1" "" "shop", none⟩

theorem second_job_unrecorded :
    let first := launch shopDb (.poll 60) minutely
    let second := launch first.1 (.poll 120) minutely
    (shopDb.hasProject minutely.projectID && first.1.hasProject minutely.projectID) = true ∧
      first.1.replicas.rows.map VM.id = ["cron-c1-60"] ∧ second.2.id = "cron-c1-120" ∧
      second.1.replicas.rows.map VM.id = ["cron-c1-60"] :=
  ⟨by decide, by decide, by decide, by decide⟩

theorem launch_recorded_iff_first :
    (∃ row ∈ (launch shopDb (.request "v1") minutely).1.replicas.rows, row.id = "v1") ↔
      (∃ row ∈ shopDb.replicas.rows, row.id = "v1") ∨
        ∀ row ∈ shopDb.replicas.rows, row.projectID = "p1" → row.replicaIndex = -1 →
          row.id = "v1" :=
  launch_recorded_iff shopDb (.request "v1") minutely (by decide) (by decide)

end Porter.Cron
