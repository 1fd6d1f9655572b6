import Mathlib.Algebra.Order.Ring.Rat
import Mathlib.Data.Prod.Lex
import Mathlib.Data.String.Basic
import Mathlib.Tactic.Linarith
import Porter.Go.Heap
import Porter.Go.Sort

/-!
# Placement

`internal/scheduler/scheduler.go`: the nodes that pass the filters are sorted by their score, the
best first, and nodes of one score by their ID.
-/
namespace Porter.Scheduler

open Go

structure Node where
  id : String
  ready : Bool
  arch : String
  vcpuFree : Int64
  memFreeMiB : Int64
  labels : GoMap String String
  taints : List String
  currentLoad : ℚ

structure Request where
  arch : String
  vcpus : Int64
  memMiB : Int64
  labels : GoMap String String
  tolerations : List String
  preferBinpack : Bool

def tolerates (taints tol : List String) : Bool := taints.all fun t => tol.contains t

def matchLabels (labels want : GoMap String String) : Bool :=
  want.rows.all fun entry => ((labels.find entry.1).map Prod.snd).getD "" == entry.2

def max (a b : Int64) : Int64 := if a > b then a else b

variable (n : Node) (req : Request)

def score : ℚ :=
  let used : ℚ := 1 - (n.vcpuFree.toInt : ℚ) / ((max (n.vcpuFree + req.vcpus) 1).toInt : ℚ)
  let s := used - n.currentLoad
  if !req.preferBinpack then -s else s

def fits : Bool :=
  if !n.ready then false
  else if req.arch ≠ "" && n.arch ≠ "" && n.arch ≠ req.arch then false
  else if n.vcpuFree < req.vcpus || n.memFreeMiB < req.memMiB then false
  else if !tolerates n.taints req.tolerations then false
  else matchLabels n.labels req.labels

def less (a b : Node) : Bool :=
  if score a req = score b req then a.id < b.id else score a req > score b req

variable (sorter : Sorter Node)

def pickNode (nodes : List Node) (req : Request) : String :=
  match sorter.slice (less req) (nodes.filter fun n => fits n req) with
  | [] => ""
  | n :: _ => n.id

structure Suitable (n : Node) (req : Request) : Prop where
  ready : n.ready = true
  arch : req.arch = "" ∨ n.arch = "" ∨ n.arch = req.arch
  vcpus : req.vcpus ≤ n.vcpuFree
  mem : req.memMiB ≤ n.memFreeMiB
  taints : ∀ t ∈ n.taints, t ∈ req.tolerations

structure Feasible (n : Node) (req : Request) : Prop extends Suitable n req where
  labels : ∀ entry ∈ req.labels.rows, entry ∈ n.labels.rows

variable (m : Node)

def Outranks (n : Node) : Prop :=
  score n req < score m req ∨ (score m req = score n req ∧ m.id < n.id)

/-- A feasible node with the highest score and then the smallest ID, or the empty string. -/
structure Optimal (nodes : List Node) (req : Request) (id : String) : Prop where
  none : id = "" ↔ ∀ n ∈ nodes, ¬Feasible n req
  best : (∃ n ∈ nodes, Feasible n req) → ∃ n ∈ nodes, n.id = id ∧ Feasible n req ∧
    ∀ m ∈ nodes, Feasible m req → score m req ≤ score n req ∧
      (score m req = score n req → n.id ≤ m.id)

def LabelPasses (entry : String × String) : Prop :=
  entry ∈ n.labels.rows ∨ (entry.2 = "" ∧ ∀ other ∈ n.labels.rows, other.1 ≠ entry.1)

theorem matchLabels_iff (want : GoMap String String) :
    matchLabels n.labels want = true ↔ ∀ entry ∈ want.rows, LabelPasses n entry := by
  unfold matchLabels LabelPasses
  rw [List.all_eq_true]
  refine forall₂_congr ?_
  intro entry _
  rw [beq_iff_eq]
  cases found : n.labels.find entry.1 with
  | none =>
    have absent := (n.labels.find_eq_none _).mp found
    have missing : entry ∉ n.labels.rows := fun member => absent entry member rfl
    constructor
    · intro empty
      exact Or.inr ⟨empty.symm, absent⟩
    · intro passes
      exact (passes.resolve_left missing).1.symm
  | some other =>
    have ⟨member, key⟩ := (n.labels.find_eq_some _ _).mp found
    constructor
    · intro value
      have same : other = entry := Prod.ext key value
      rw [same] at member
      exact Or.inl member
    · intro passes
      rcases passes with present | ⟨_, absent⟩
      · exact congrArg Prod.snd (n.labels.row_eq_of_key member present key)
      · exact absurd key (absent other member)

theorem tolerates_iff (taints tol : List String) :
    tolerates taints tol = true ↔ ∀ t ∈ taints, t ∈ tol := by
  unfold tolerates
  simp only [List.all_eq_true, List.contains_iff_mem]

theorem fits_iff :
    fits n req = true ↔ Suitable n req ∧ ∀ entry ∈ req.labels.rows, LabelPasses n entry := by
  have arch : (req.arch ≠ "" && n.arch ≠ "" && n.arch ≠ req.arch) = true ↔
      ¬(req.arch = "" ∨ n.arch = "" ∨ n.arch = req.arch) := by
    simp only [Bool.and_eq_true, decide_eq_true_eq, ne_eq, not_or, and_assoc]
  have room : (n.vcpuFree < req.vcpus || n.memFreeMiB < req.memMiB) = true ↔
      ¬(req.vcpus ≤ n.vcpuFree ∧ req.memMiB ≤ n.memFreeMiB) := by
    simp only [Bool.or_eq_true, decide_eq_true_eq, ← Int64.not_le, not_and_or]
  rw [← matchLabels_iff]
  unfold fits
  simp only [arch, room, Bool.not_eq_true', ← Bool.not_eq_true, tolerates_iff]
  constructor
  · intro passed
    split at passed
    · contradiction
    next ready =>
    split at passed
    · contradiction
    next arch =>
    split at passed
    · contradiction
    next room =>
    split at passed
    · contradiction
    next tolerated =>
    have room := not_not.mp room
    exact ⟨⟨not_not.mp ready, not_not.mp arch, room.1, room.2, not_not.mp tolerated⟩, passed⟩
  · intro ⟨suitable, labelled⟩
    rw [if_neg (not_not.mpr suitable.ready), if_neg (not_not.mpr suitable.arch),
      if_neg (not_not.mpr ⟨suitable.vcpus, suitable.mem⟩), if_neg (not_not.mpr suitable.taints)]
    exact labelled

theorem Feasible.fits {n : Node} {req : Request} (feasible : Feasible n req) :
    fits n req = true := by
  rw [fits_iff]
  exact ⟨feasible.toSuitable, fun entry member => Or.inl (feasible.labels entry member)⟩

theorem not_feasible_iff {n : Node} {req : Request} (passed : fits n req = true) :
    ¬Feasible n req ↔
      ∃ entry ∈ req.labels.rows, entry.2 = "" ∧ ∀ other ∈ n.labels.rows, other.1 ≠ entry.1 := by
  have ⟨suitable, labelled⟩ := (fits_iff n _).mp passed
  constructor
  · intro infeasible
    by_contra none
    refine infeasible ⟨suitable, ?_⟩
    intro entry member
    exact (labelled entry member).resolve_right fun lacks => none ⟨entry, member, lacks⟩
  · intro ⟨entry, member, _, absent⟩ feasible
    exact absent entry (feasible.labels entry member) rfl

def rank (n : Node) : ℚᵒᵈ ×ₗ String := toLex (OrderDual.toDual (score n req), n.id)

theorem rank_lt_iff (n : Node) : rank req m < rank req n ↔ Outranks req m n := by
  unfold rank Outranks
  rw [Prod.Lex.toLex_lt_toLex]
  rfl

theorem less_iff (a b : Node) : less req a b = true ↔ Outranks req a b := by
  unfold less Outranks
  by_cases same : score a req = score b req
  · simp [same]
  · simp [same]

theorem less_order : IsStrictWeakOrder Node (fun a b => less req a b = true) := by
  have same : (fun a b => less req a b = true) = (fun a b => rank req a < rank req b) := by
    funext a b
    rw [less_iff, rank_lt_iff]
  rw [same]
  have total : IsStrictTotalOrder (ℚᵒᵈ ×ₗ String) (· < ·) := inferInstance
  have ranks : IsStrictWeakOrder (ℚᵒᵈ ×ₗ String) (· < ·) :=
    isStrictWeakOrder_of_isOrderConnected
  exact inferInstanceAs (IsStrictWeakOrder Node (Function.onFun (· < ·) (rank req)))

theorem outranks_or_outranks {m n : Node} (apart : m.id ≠ n.id) :
    Outranks req m n ∨ Outranks req n m := by
  rw [← rank_lt_iff, ← rank_lt_iff]
  apply lt_or_gt_of_ne
  intro same
  exact apart (congrArg (fun place => (ofLex place).2) same)

theorem not_outranks_iff (n : Node) :
    ¬Outranks req m n ↔
      score m req ≤ score n req ∧ (score m req = score n req → n.id ≤ m.id) := by
  unfold Outranks
  rw [not_or, not_lt, not_and, not_lt]

structure Wins (nodes : List Node) (req : Request) (w : Node) : Prop where
  member : w ∈ nodes
  fits : fits w req = true
  least : ∀ m ∈ nodes, Scheduler.fits m req = true → ¬Outranks req m w

theorem pickNode_cases (nodes : List Node) (req : Request) :
    (pickNode sorter nodes req = "" ∧ ∀ n ∈ nodes, fits n req = false) ∨
      ∃ w, Wins nodes req w ∧ pickNode sorter nodes req = w.id := by
  unfold pickNode
  cases sorted : sorter.slice (less req) (nodes.filter fun n => fits n req) with
  | nil =>
    left
    have none := sorter.slice_eq_nil.mp sorted
    refine ⟨rfl, ?_⟩
    intro n member
    exact Bool.eq_false_iff.mpr (List.filter_eq_nil_iff.mp none n member)
  | cons w rest =>
    right
    have ⟨chosen, least⟩ := sorter.first (less_order _) sorted
    have ⟨member, passed⟩ := List.mem_filter.mp chosen
    refine ⟨w, ⟨member, passed, ?_⟩, rfl⟩
    intro m candidate fitting outranks
    have not := least m (List.mem_filter.mpr ⟨candidate, fitting⟩)
    rw [(less_iff _ m w).mpr outranks] at not
    contradiction

variable {nodes : List Node}

theorem Wins.id_eq {others : List Node} {req : Request} {w v : Node}
    (wins : Wins nodes req w) (also : Wins others req v) (same : others.Perm nodes) :
    v.id = w.id := by
  by_contra apart
  rcases outranks_or_outranks _ apart with first | second
  · exact wins.least v (same.mem_iff.mp also.member) also.fits first
  · exact also.least w (same.mem_iff.mpr wins.member) wins.fits second

theorem pickNode_perm (other : Sorter Node) {permuted : List Node}
    (same : permuted.Perm nodes) (req : Request) :
    pickNode other permuted req = pickNode sorter nodes req := by
  rcases pickNode_cases _ nodes req with ⟨empty, none⟩ | ⟨w, wins, picked⟩
  · rcases pickNode_cases _ permuted req with ⟨blank, _⟩ | ⟨v, also, _⟩
    · rw [empty, blank]
    · have fitting := also.fits
      rw [none v (same.mem_iff.mp also.member)] at fitting
      contradiction
  · rcases pickNode_cases _ permuted req with ⟨_, none⟩ | ⟨v, also, chosen⟩
    · have fitting := wins.fits
      rw [none w (same.mem_iff.mpr wins.member)] at fitting
      contradiction
    · rw [picked, chosen]
      exact wins.id_eq also same

theorem Wins.optimal {req : Request} {w : Node} (wins : Wins nodes req w)
    (feasible : Feasible w req) (named : w.id ≠ "") : Optimal nodes req w.id where
  none := iff_of_false named fun none => none w wins.member feasible
  best := by
    intro _
    refine ⟨w, wins.member, rfl, feasible, ?_⟩
    intro m member other
    exact (not_outranks_iff _ m w).mp (wins.least m member other.fits)

theorem Wins.feasible {req : Request} {w : Node} (wins : Wins nodes req w)
    (ids : (nodes.map Node.id).Nodup) (named : w.id ≠ "") (optimal : Optimal nodes req w.id) :
    Feasible w req := by
  have some : ∃ n ∈ nodes, Feasible n req := by
    by_contra none
    refine named (optimal.none.mpr ?_)
    intro n member feasible
    exact none ⟨n, member, feasible⟩
  have ⟨n, member, same, feasible, _⟩ := optimal.best some
  have equal : n = w := List.inj_on_of_nodup_map ids member wins.member same
  rw [equal] at feasible
  exact feasible

/-- `PickNode` makes the best choice exactly if every node that passes the filters without being
feasible is outranked by a feasible one; the order and the sorting of the nodes do not matter. -/
theorem pickNode_optimal_iff (sorter : Sorter Node) (nodes : List Node) (req : Request)
    (ids : (nodes.map Node.id).Nodup) (named : ∀ n ∈ nodes, n.id ≠ "") :
    (Optimal nodes req (pickNode sorter nodes req) ↔
      ∀ n ∈ nodes, fits n req = true → ¬Feasible n req →
        ∃ m ∈ nodes, Feasible m req ∧ Outranks req m n) ∧
    ∀ (other : Sorter Node) (permuted : List Node), permuted.Perm nodes →
      pickNode other permuted req = pickNode sorter nodes req := by
  refine ⟨?_, fun other permuted same => pickNode_perm _ _ same req⟩
  rcases pickNode_cases _ nodes req with ⟨empty, none⟩ | ⟨w, wins, picked⟩
  · have infeasible : ∀ n ∈ nodes, ¬Feasible n req := by
      intro n member feasible
      have fitting := feasible.fits
      rw [none n member] at fitting
      contradiction
    refine iff_of_true ⟨iff_of_true empty infeasible, ?_⟩ ?_
    · rintro ⟨n, member, feasible⟩
      exact absurd feasible (infeasible n member)
    · intro n member fitting
      rw [none n member] at fitting
      contradiction
  · rw [picked]
    constructor
    · intro optimal n member _ infeasible
      have feasible := wins.feasible ids (named w wins.member) optimal
      refine ⟨w, wins.member, feasible, ?_⟩
      have apart : w.id ≠ n.id := by
        intro same
        have equal := List.inj_on_of_nodup_map ids wins.member member same
        rw [equal] at feasible
        exact infeasible feasible
      exact (outranks_or_outranks req apart).resolve_right (wins.least n member ‹_›)
    · intro outranked
      apply wins.optimal _ (named w wins.member)
      by_contra infeasible
      obtain ⟨m, member, feasible, outranks⟩ := outranked w wins.member wins.fits infeasible
      exact wins.least m member feasible.fits outranks

def nodeWith (labels : GoMap String String) : Node := ⟨"a", true, "amd64", 4, 4096, labels, [], 0⟩

def gpuRequest : Request :=
  ⟨"amd64", 1, 512, Sql.Table.single Prod.fst ("gpu", ""), [], false⟩

theorem pickNode_labelled :
    Optimal [nodeWith gpuRequest.labels] gpuRequest
      (pickNode .insertion [nodeWith gpuRequest.labels] gpuRequest) := by
  refine (pickNode_optimal_iff .insertion [nodeWith gpuRequest.labels] gpuRequest
    (List.nodup_singleton _) ?_).1.mpr ?_
  · intro n member
    rw [List.mem_singleton.mp member]
    decide
  · intro n member fitting infeasible
    rw [List.mem_singleton.mp member] at fitting infeasible
    obtain ⟨entry, requested, _, absent⟩ := (not_feasible_iff fitting).mp infeasible
    exact absurd rfl (absent entry requested)

theorem pickNode_unlabelled :
    pickNode .insertion [nodeWith GoMap.nil] gpuRequest = "a" ∧
      ¬Optimal [nodeWith GoMap.nil] gpuRequest
        (pickNode .insertion [nodeWith GoMap.nil] gpuRequest) := by
  have fitting : fits (nodeWith GoMap.nil) gpuRequest = true := by decide
  have picked : pickNode .insertion [nodeWith GoMap.nil] gpuRequest = "a" := by
    have kept : [nodeWith GoMap.nil].filter (fun n => fits n gpuRequest) = [nodeWith GoMap.nil] :=
      List.filter_cons_of_pos fitting
    unfold pickNode
    rw [kept]
    rfl
  refine ⟨picked, ?_⟩
  rw [picked]
  intro optimal
  have infeasible : ∀ n ∈ [nodeWith GoMap.nil], ¬Feasible n gpuRequest := by
    intro n member feasible
    rw [List.mem_singleton.mp member] at feasible
    exact absurd (feasible.labels ("gpu", "") List.mem_cons_self) List.not_mem_nil
  exact absurd (optimal.none.mpr infeasible) (by decide)

def Node.withLoad (n : Node) (id : String) (currentLoad : ℚ) : Node :=
  { n with id := id, currentLoad := currentLoad }

theorem score_withLoad (id : String) (currentLoad : ℚ) :
    score (n.withLoad id currentLoad) req =
      if req.preferBinpack then score n req - (currentLoad - n.currentLoad)
      else score n req + (currentLoad - n.currentLoad) := by
  unfold score Node.withLoad
  cases req.preferBinpack with
  | false =>
    simp only [Bool.not_false, ↓reduceIte, Bool.false_eq_true]
    linarith
  | true =>
    simp only [Bool.not_true, Bool.false_eq_true, ↓reduceIte]
    linarith

/-- Of two nodes that pass the filters and differ in IDs and loads only, the one with the lower load
is chosen exactly if the request asks for packing. -/
theorem lower_load_iff (sorter : Sorter Node) (n : Node) (req : Request) (id : String)
    (currentLoad : ℚ) (passed : fits n req = true) (apart : id ≠ n.id)
    (more : n.currentLoad < currentLoad) (nodes : List Node)
    (two : nodes.Perm [n, n.withLoad id currentLoad]) :
    (score (n.withLoad id currentLoad) req < score n req ↔ req.preferBinpack = true) ∧
      (pickNode sorter nodes req = n.id ↔ req.preferBinpack = true) := by
  have scores := score_withLoad n req id currentLoad
  rw [pickNode_perm _ _ two]
  rcases pickNode_cases sorter [n, n.withLoad id currentLoad] req with ⟨_, none⟩ | ⟨w, wins, picked⟩
  · rw [none n List.mem_cons_self] at passed
    contradiction
  have choice : w = n ∨ w = n.withLoad id currentLoad := by
    simpa only [List.mem_cons, List.not_mem_nil, or_false] using wins.member
  rw [picked]
  cases mode : req.preferBinpack with
  | true =>
    rw [mode, if_pos rfl] at scores
    have lower : score (n.withLoad id currentLoad) req < score n req := by linarith
    refine ⟨iff_of_true lower rfl, iff_of_true ?_ rfl⟩
    rcases choice with rfl | rfl
    · rfl
    · exact absurd (Or.inl lower) (wins.least n List.mem_cons_self passed)
  | false =>
    rw [mode, if_neg Bool.false_ne_true] at scores
    have higher : score n req < score (n.withLoad id currentLoad) req := by linarith
    refine ⟨iff_of_false higher.not_gt Bool.false_ne_true, iff_of_false ?_ Bool.false_ne_true⟩
    rcases choice with rfl | rfl
    · exact absurd (Or.inl higher) (wins.least _ (List.mem_cons_of_mem _ List.mem_cons_self) passed)
    · exact apart

theorem lower_load_packed :
    pickNode .insertion [nodeWith GoMap.nil, (nodeWith GoMap.nil).withLoad "b" 1]
      { gpuRequest with preferBinpack := true } = "a" :=
  (lower_load_iff .insertion (nodeWith GoMap.nil) { gpuRequest with preferBinpack := true } "b" 1
    (by decide) (by decide) one_pos _ (.refl _)).2.mpr rfl

theorem higher_load_spread :
    score (nodeWith GoMap.nil) gpuRequest <
        score ((nodeWith GoMap.nil).withLoad "b" 1) gpuRequest ∧
      pickNode .insertion [nodeWith GoMap.nil, (nodeWith GoMap.nil).withLoad "b" 1] gpuRequest =
        "b" := by
  have higher : score (nodeWith GoMap.nil) gpuRequest <
      score ((nodeWith GoMap.nil).withLoad "b" 1) gpuRequest := by
    rw [score_withLoad, if_neg (by decide : ¬gpuRequest.preferBinpack = true)]
    exact lt_add_of_pos_right _ (sub_pos.mpr one_pos)
  refine ⟨higher, ?_⟩
  rcases pickNode_cases .insertion [nodeWith GoMap.nil, (nodeWith GoMap.nil).withLoad "b" 1]
    gpuRequest with ⟨_, none⟩ | ⟨w, wins, picked⟩
  · exact absurd (none _ List.mem_cons_self) (by decide)
  rcases List.mem_cons.mp wins.member with rfl | last
  · exact absurd (Or.inl higher)
      (wins.least _ (List.mem_cons_of_mem _ List.mem_cons_self) (by decide))
  · rw [picked, List.mem_singleton.mp last]
    rfl

end Porter.Scheduler
