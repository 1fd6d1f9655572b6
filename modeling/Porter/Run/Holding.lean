import Mathlib.Data.List.Perm.Basic
import Porter.Run.Interleaving

/-!
# What interleaved calls hold

A call may hold one thing that is its own for a while: a connection, a ticket, a lock.
-/
namespace Porter.Run

variable {σ τ κ ι ε β : Type}

namespace Pool

/-- What the calls hold, each at most one thing. -/
def held (hold : τ → Option β) (pool : Pool σ τ) : List β := pool.calls.filterMap hold

def heldBeside (hold : τ → Option β) (pool : Pool σ τ) (index : Nat) : List β :=
  (pool.calls.eraseIdx index).filterMap hold

variable {hold : τ → Option β} {pool : Pool σ τ}

theorem mem_held {thing : β} :
    thing ∈ pool.held hold ↔ ∃ call ∈ pool.calls, hold call = some thing :=
  List.mem_filterMap

theorem mem_heldBeside {thing : β} {index : Nat} :
    thing ∈ pool.heldBeside hold index ↔
      ∃ i other, i ≠ index ∧ pool.calls[i]? = some other ∧ hold other = some thing := by
  unfold heldBeside
  rw [List.mem_filterMap]
  constructor
  · intro ⟨other, member, holds⟩
    have ⟨i, apart, found⟩ := List.mem_eraseIdx_iff_getElem?.mp member
    exact ⟨i, other, apart, found, holds⟩
  · intro ⟨i, other, apart, found, holds⟩
    exact ⟨other, List.mem_eraseIdx_iff_getElem?.mpr ⟨i, apart, found⟩, holds⟩

theorem heldBeside_subset (index : Nat) : pool.heldBeside hold index ⊆ pool.held hold := by
  intro thing member
  have ⟨_, other, _, found, holds⟩ := mem_heldBeside.mp member
  exact mem_held.mpr ⟨other, List.mem_of_getElem? found, holds⟩

theorem held_perm {index : Nat} {call : τ} (present : pool.calls[index]? = some call) :
    (pool.held hold).Perm ((hold call).toList ++ pool.heldBeside hold index) := by
  have ⟨bound, same⟩ := List.getElem?_eq_some_iff.mp present
  have split := (List.getElem_cons_eraseIdx_perm bound).symm.filterMap hold
  rw [same, List.filterMap_cons] at split
  unfold held heldBeside
  cases holds : hold call with
  | none | some =>
    rw [holds] at split
    exact split

end Pool

namespace System

variable (system : System σ τ κ ι ε) {hold : τ → Option β} {pool : Pool σ τ}

theorem held_begin (request : κ) :
    (system.step pool (.begin request)).held hold =
      pool.held hold ++ (hold (system.begin pool.shared request)).toList := by
  simp only [Pool.held, step, List.filterMap_append, List.filterMap_cons, List.filterMap_nil]
  cases hold (system.begin pool.shared request) <;> rfl

theorem held_act {index : Nat} {input : ι} {call : τ} (present : pool.calls[index]? = some call) :
    ((system.step pool (.act index input)).held hold).Perm
      ((hold (system.act pool.shared call input).2).toList ++ pool.heldBeside hold index) := by
  have ⟨bound, _⟩ := List.getElem?_eq_some_iff.mp present
  have split := (List.set_perm_cons_eraseIdx bound
    (system.act pool.shared call input).2).filterMap hold
  rw [List.filterMap_cons] at split
  rw [step_act_of_some system present]
  unfold Pool.held Pool.heldBeside
  cases holds : hold (system.act pool.shared call input).2 with
  | none | some =>
    rw [holds] at split
    exact split

end System

/-- Nothing is free twice, held twice, or free and held. -/
def Exclusive (free : σ → List β) (hold : τ → Option β) (pool : Pool σ τ) : Prop :=
  (free pool.shared ++ pool.held hold).Nodup

namespace Exclusive

variable {system : System σ τ κ ι ε} {free : σ → List β} {hold : τ → Option β} {pool : Pool σ τ}

theorem index_eq (exclusive : Exclusive free hold pool) {i j : Nat} {first second : τ} {thing : β}
    (here : pool.calls[i]? = some first) (there : pool.calls[j]? = some second)
    (one : hold first = some thing) (other : hold second = some thing) : i = j := by
  by_contra apart
  have beside : thing ∈ pool.heldBeside hold i :=
    Pool.mem_heldBeside.mpr ⟨j, second, fun same => apart same.symm, there, other⟩
  have once := ((Pool.held_perm here).nodup_iff).mp (List.nodup_append.mp exclusive).2.1
  rw [one] at once
  exact (List.nodup_cons.mp once).1 beside

theorem begin (exclusive : Exclusive free hold pool) {request : κ}
    (nothing : hold (system.begin pool.shared request) = none) :
    Exclusive free hold (system.step pool (.begin request)) := by
  unfold Exclusive
  rw [System.held_begin, nothing]
  simpa [System.step, Exclusive] using exclusive

/-- A step that exchanges what is free and what its call holds, beside what the others hold. -/
theorem act (exclusive : Exclusive free hold pool) {index : Nat} {input : ι} {call : τ}
    (present : pool.calls[index]? = some call)
    (kept : ∀ rest, (∀ thing ∈ rest, thing ∈ pool.held hold) →
      (free pool.shared ++ ((hold call).toList ++ rest)).Nodup →
      (free (system.act pool.shared call input).1 ++
        ((hold (system.act pool.shared call input).2).toList ++ rest)).Nodup) :
    Exclusive free hold (system.step pool (.act index input)) := by
  have before : (free pool.shared ++
      ((hold call).toList ++ pool.heldBeside hold index)).Nodup :=
    ((Pool.held_perm present).append_left _).nodup_iff.mp exclusive
  have after := kept _ (fun thing member => Pool.heldBeside_subset index member) before
  have shared : (system.step pool (.act index input)).shared =
      (system.act pool.shared call input).1 := by
    rw [System.step_act_of_some system present]
  unfold Exclusive
  rw [shared]
  exact ((system.held_act present).append_left _).nodup_iff.mpr after

end Exclusive

/-- What is free and what is held are together always the same things. -/
def Conserved (free : σ → List β) (hold : τ → Option β) (things : List β) (pool : Pool σ τ) :
    Prop :=
  (free pool.shared ++ pool.held hold).Perm things

namespace Conserved

variable {system : System σ τ κ ι ε} {free : σ → List β} {hold : τ → Option β} {things : List β}
  {pool : Pool σ τ}

variable (conserved : Conserved free hold things pool)

include conserved

theorem exclusive (once : things.Nodup) : Exclusive free hold pool :=
  conserved.nodup_iff.mpr once

theorem holder {thing : β} (known : thing ∈ things) (taken : thing ∉ free pool.shared) :
    ∃ (index : Nat) (call : τ), pool.calls[index]? = some call ∧ hold call = some thing := by
  have member := conserved.mem_iff.mpr known
  have held := (List.mem_append.mp member).resolve_left taken
  have ⟨call, among, holds⟩ := Pool.mem_held.mp held
  have ⟨index, found⟩ := List.mem_iff_getElem?.mp among
  exact ⟨index, call, found, holds⟩

theorem begin {request : κ} (nothing : hold (system.begin pool.shared request) = none) :
    Conserved free hold things (system.step pool (.begin request)) := by
  unfold Conserved
  rw [System.held_begin, nothing]
  simpa [System.step, Conserved] using conserved

theorem act {index : Nat} {input : ι} {call : τ} (present : pool.calls[index]? = some call)
    (kept : ∀ rest, (free pool.shared ++ ((hold call).toList ++ rest)).Perm things →
      (free (system.act pool.shared call input).1 ++
        ((hold (system.act pool.shared call input).2).toList ++ rest)).Perm things) :
    Conserved free hold things (system.step pool (.act index input)) := by
  have before := ((Pool.held_perm present).append_left (free pool.shared)).symm.trans conserved
  have after := kept _ before
  have shared : (system.step pool (.act index input)).shared =
      (system.act pool.shared call input).1 := by
    rw [System.step_act_of_some system present]
  unfold Conserved
  rw [shared]
  exact ((system.held_act present).append_left _).trans after

end Conserved

end Porter.Run
