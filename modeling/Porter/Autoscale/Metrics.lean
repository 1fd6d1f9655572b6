import Porter.Autoscale.Scaler
import Porter.Go.Sort

/-!
# The samples the autoscaler sees

`ListMetrics` cuts the samples of a VM to the newest ones before `avgCPU` looks for its metric, and
the collector of `internal/runtime/metrics.go` stores a heartbeat with every poll.
-/
namespace Porter.Autoscale

open Go

structure MetricRow extends MetricSample where
  vmID : String
  ts : Int

variable (sorter : Sorter MetricRow) (rows : List MetricRow)

def history (vmID : String) : List MetricRow :=
  sorter.slice (fun a b => b.ts < a.ts) (rows.filter fun m => m.vmID = vmID)

def listMetrics (vmID : String) (limit : Int) : List MetricSample :=
  ((history sorter rows vmID).take (if limit ≤ 0 then 100 else limit).toNat).map
    MetricRow.toMetricSample

def heartbeat (vmID : String) (ts : Int) : MetricRow := ⟨⟨"porter.heartbeat", 1⟩, vmID, ts⟩

def mean (values : List Float) : Float :=
  let (total, n) := values.foldl (fun acc v => (acc.1 + v, acc.2 + 1)) ((0, 0) : Float × Float)
  if n == 0 then 0 else total / n

abbrev MetricSample.IsCPU (m : MetricSample) : Prop := m.metric = "cpu_percent"

def latestCPU (vmID : String) : List MetricRow :=
  ((history sorter rows vmID).filter fun m => m.IsCPU).take 3

theorem filter_take {α : Type} {p : α → Bool} {n : Nat} {xs : List α}
    (cut : (∀ x ∈ xs.take n, p x = true) ∨ ∀ x ∈ xs.drop n, ¬p x = true) :
    (xs.take n).filter p = (xs.filter p).take n := by
  have parts : xs.filter p = (xs.take n).filter p ++ (xs.drop n).filter p := by
    rw [← List.filter_append, List.take_append_drop]
  rw [parts, List.take_append]
  rcases cut with all | none
  · have short : (xs.drop n).filter p = [] ∨ n - (xs.take n).length = 0 := by
      rcases Nat.le_total xs.length n with few | enough
      · rw [List.drop_of_length_le few]
        exact Or.inl rfl
      · rw [List.length_take_of_le enough, Nat.sub_self]
        exact Or.inr rfl
    rw [List.filter_eq_self.mpr all, List.take_take, Nat.min_self]
    rcases short with empty | zero
    · rw [empty, List.take_nil, List.append_nil]
    · rw [zero, List.take_zero, List.append_nil]
  · have length : ((xs.take n).filter p).length ≤ n :=
      (List.length_filter_le _ _).trans (List.length_take_le _ _)
    rw [List.filter_eq_nil_iff.mpr none, List.take_nil, List.append_nil,
      List.take_of_length_le length]

end Porter.Autoscale
