import Mathlib.Data.List.Nodup
import Mathlib.Data.List.Pairwise
import Mathlib.Order.Lattice

/-!
# Ticks that fire once for a mark

A tick looks at a mark, fires if the mark is due and is not the mark of the last firing, and then
leaves the mark at which it was done.
-/
namespace Porter.Run

variable {μ : Type} [LinearOrder μ] {due : μ → Bool} {last : Option μ} {ticks : List (μ × μ)}

/-- The ticks that fire. A tick is the mark it looks at and the mark at which it is done. -/
def firings (due : μ → Bool) : Option μ → List (μ × μ) → List (μ × μ)
  | _, [] => []
  | last, tick :: rest =>
    if due tick.1 && decide (last ≠ some tick.1) then tick :: firings due (some tick.2) rest
    else firings due last rest

/-- The ticks come one after the other, after the last firing. -/
structure InTurn (last : Option μ) (ticks : List (μ × μ)) : Prop where
  past : ∀ mark ∈ last, ∀ tick ∈ ticks, mark ≤ tick.1
  forward : ∀ tick ∈ ticks, tick.1 ≤ tick.2
  chained : ticks.Pairwise (fun earlier later => earlier.2 ≤ later.1)

variable {tick : μ × μ}

theorem InTurn.skip (turn : InTurn last (tick :: ticks)) : InTurn last ticks where
  past := fun mark present later member =>
    turn.past mark present later (List.mem_cons_of_mem _ member)
  forward := fun later member => turn.forward later (List.mem_cons_of_mem _ member)
  chained := (List.pairwise_cons.mp turn.chained).2

theorem InTurn.fire (turn : InTurn last (tick :: ticks)) :
    InTurn (some tick.2) ticks where
  past := fun _ present later member =>
    Option.mem_some_iff.mp present ▸ (List.pairwise_cons.mp turn.chained).1 later member
  forward := turn.skip.forward
  chained := turn.skip.chained

theorem mem_of_mem_firings {fired : μ × μ} (member : fired ∈ firings due last ticks) :
    fired ∈ ticks := by
  induction ticks generalizing last with
  | nil => cases member
  | cons tick rest recurse =>
    unfold firings at member
    split at member
    · rcases List.mem_cons.mp member with rfl | later
      · exact List.mem_cons_self
      · exact List.mem_cons_of_mem _ (recurse later)
    · exact List.mem_cons_of_mem _ (recurse member)

theorem lt_of_mem_firings {mark : μ} (turn : InTurn (some mark) ticks) {fired : μ × μ}
    (member : fired ∈ firings due (some mark) ticks) : mark < fired.1 := by
  induction ticks generalizing mark with
  | nil => cases member
  | cons tick rest recurse =>
    have reached : mark ≤ tick.1 := turn.past mark rfl tick List.mem_cons_self
    unfold firings at member
    split at member
    · rename_i fires
      have other : mark ≠ tick.1 := by
        intro same
        simp [same] at fires
      have before : mark < tick.1 := lt_of_le_of_ne reached other
      rcases List.mem_cons.mp member with rfl | later
      · exact before
      · calc
          mark < tick.1 := before
          _ ≤ tick.2 := turn.forward tick List.mem_cons_self
          _ < fired.1 := recurse turn.fire later
    · exact recurse turn.skip member

theorem pairwise_firings (turn : InTurn last ticks) :
    (firings due last ticks).Pairwise (fun earlier later => earlier.2 < later.1) := by
  induction ticks generalizing last with
  | nil => exact List.Pairwise.nil
  | cons tick rest recurse =>
    unfold firings
    split
    · exact List.pairwise_cons.mpr
        ⟨fun later member => lt_of_mem_firings turn.fire member, recurse turn.fire⟩
    · exact recurse turn.skip

theorem firings_cover (member : tick ∈ ticks) (wanted : due tick.1 = true) :
    tick.1 ∈ (firings due last ticks).map Prod.fst ∨ last = some tick.1 ∨
      ∃ fired ∈ firings due last ticks, fired.2 = tick.1 := by
  induction ticks generalizing last with
  | nil => cases member
  | cons first rest recurse =>
    unfold firings
    split
    · rename_i fires
      rcases List.mem_cons.mp member with rfl | later
      · exact Or.inl (by simp)
      · rcases @recurse (some first.2) later with fired | left | ⟨fired, among, left⟩
        · exact Or.inl (by simp [fired])
        · exact Or.inr (Or.inr ⟨first, List.mem_cons_self, Option.some.inj left⟩)
        · exact Or.inr (Or.inr ⟨fired, List.mem_cons_of_mem _ among, left⟩)
    · rename_i quiet
      rcases List.mem_cons.mp member with rfl | later
      · right; left
        simpa [wanted] using quiet
      · exact recurse later

theorem firings_apart (turn : InTurn last ticks) {one other : μ × μ}
    (first : one ∈ firings due last ticks) (second : other ∈ firings due last ticks)
    (distinct : one ≠ other) : one.2 < other.1 ∨ other.2 < one.1 := by
  have either : (firings due last ticks).Pairwise (fun a b => a.2 < b.1 ∨ b.2 < a.1) :=
    (pairwise_firings turn).imp Or.inl
  have : Std.Symm (fun a b : μ × μ => a.2 < b.1 ∨ b.2 < a.1) := ⟨fun _ _ => Or.symm⟩
  exact either.forall first second distinct

theorem nodup_firings (turn : InTurn last ticks) :
    ((firings due last ticks).map Prod.fst).Nodup := by
  rw [List.Nodup, List.pairwise_map]
  refine (pairwise_firings turn).imp_of_mem fun earlier _ before => ?_
  have forward := turn.forward _ (mem_of_mem_firings earlier)
  exact ne_of_lt (lt_of_le_of_lt forward before)

/-- A due mark fires exactly once if no firing for another mark left it, and not at all
otherwise. -/
theorem count_firings_iff (turn : InTurn last ticks) (member : tick ∈ ticks)
    (wanted : due tick.1 = true) :
    ((firings due last ticks).map Prod.fst).count tick.1 = 1 ↔
      last ≠ some tick.1 ∧
        ∀ fired ∈ firings due last ticks, fired.2 = tick.1 → fired.1 = fired.2 := by
  constructor
  · intro counted
    have fires : tick.1 ∈ (firings due last ticks).map Prod.fst := List.count_pos_iff.mp (by omega)
    obtain ⟨own, among, looked⟩ := List.mem_map.mp fires
    refine ⟨?_, fun fired listed left => ?_⟩
    · rintro rfl
      exact absurd looked (ne_of_gt (lt_of_mem_firings turn among))
    · by_cases same : own = fired
      · rw [left, ← same, looked]
      · -- the firing for the mark is neither after nor before the one that left it
        rcases firings_apart turn among listed same with before | after
        · have own_forward := turn.forward own (mem_of_mem_firings among)
          have fired_forward := turn.forward fired (mem_of_mem_firings listed)
          rw [looked, ← left] at own_forward
          exact absurd (lt_of_le_of_lt own_forward before) (not_lt_of_ge fired_forward)
        · rw [left, looked] at after
          exact absurd after (lt_irrefl _)
  · rintro ⟨fresh, settled⟩
    have fires : tick.1 ∈ (firings due last ticks).map Prod.fst := by
      rcases firings_cover member wanted with fires | left | ⟨fired, among, left⟩
      · exact fires
      · exact absurd left fresh
      · exact List.mem_map.mpr ⟨fired, among, (settled fired among left).trans left⟩
    exact List.count_eq_one_of_mem (nodup_firings turn) fires

end Porter.Run
