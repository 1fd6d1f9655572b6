import Porter.Run.Guarded

/-!
# Interleaved calls

Calls on a shared state take turns: each is a sequence of atomic steps, and between two steps of one
call any number of other calls take theirs.
-/
namespace Porter.Run

variable {σ τ κ ι ε : Type}

/-- A shared state with the calls that have begun, in the order in which they did. -/
structure Pool (σ τ : Type) where
  shared : σ
  calls : List τ

inductive Event (κ ι ε : Type) where
  | begin (request : κ)
  /-- The call at the index takes its next step, to which the outside contributes the input. -/
  | act (index : Nat) (input : ι)
  | outside (change : ε)

/-- What requests become and what steps and changes do. -/
structure System (σ τ κ ι ε : Type) where
  begin : σ → κ → τ
  act : σ → τ → ι → σ × τ
  outside : σ → ε → σ

variable {pool : Pool σ τ} {index : Nat} {input : ι}

namespace System

variable (system : System σ τ κ ι ε)

/-- One event; nothing happens at an index without a call. -/
def step (pool : Pool σ τ) : Event κ ι ε → Pool σ τ
  | .begin request =>
    { pool with calls := pool.calls ++ [system.begin pool.shared request] }
  | .act index input =>
    match pool.calls[index]? with
    | none => pool
    | some call =>
      ⟨(system.act pool.shared call input).1,
        pool.calls.set index (system.act pool.shared call input).2⟩
  | .outside change => { pool with shared := system.outside pool.shared change }

theorem step_act_of_none (absent : pool.calls[index]? = none) :
    system.step pool (.act index input) = pool := by
  simp only [step, absent]

theorem step_act_of_some {call : τ} (present : pool.calls[index]? = some call) :
    system.step pool (.act index input) =
      ⟨(system.act pool.shared call input).1,
        pool.calls.set index (system.act pool.shared call input).2⟩ := by
  simp only [step, present]

theorem getElem?_step_act {call : τ} (present : pool.calls[index]? = some call) :
    (system.step pool (.act index input)).calls[index]? =
      some (system.act pool.shared call input).2 := by
  rw [step_act_of_some system present, List.getElem?_set_self', present]
  rfl

theorem getElem?_step_act_of_ne (pool : Pool σ τ) {other : Nat} (input : ι)
    (apart : other ≠ index) :
    (system.step pool (.act index input)).calls[other]? = pool.calls[other]? := by
  cases present : pool.calls[index]? with
  | none => rw [step_act_of_none system present]
  | some call =>
    rw [step_act_of_some system present]
    exact List.getElem?_set_ne (fun same => apart same.symm)

/-- What is known of the state and, in it, of every call. -/
structure Holds (inv : σ → Prop) (own : σ → τ → Prop) (pool : Pool σ τ) : Prop where
  shared : inv pool.shared
  calls : ∀ (index : Nat) (call : τ), pool.calls[index]? = some call → own pool.shared call

variable {system} {inv : σ → Prop} {own : σ → τ → Prop}

variable (holds : Holds inv own pool)

include holds

theorem Holds.mem {call : τ} (member : call ∈ pool.calls) : own pool.shared call := by
  have ⟨index, found⟩ := List.mem_iff_getElem?.mp member
  exact holds.calls index call found

theorem Holds.begin {request : κ} (fresh : own pool.shared (system.begin pool.shared request)) :
    Holds inv own (system.step pool (.begin request)) := by
  constructor
  · exact holds.shared
  · intro index call found
    have member := List.mem_of_getElem? found
    rcases List.mem_append.mp member with old | new
    · exact holds.mem old
    · rw [List.mem_singleton.mp new]
      exact fresh

/-- A step keeps what is known if it does so for the state, for the call that takes it and for the
calls that do not. -/
theorem Holds.act
    (kept : ∀ call, pool.calls[index]? = some call →
      inv (system.act pool.shared call input).1 ∧
      own (system.act pool.shared call input).1 (system.act pool.shared call input).2 ∧
      ∀ i other, i ≠ index → pool.calls[i]? = some other →
        own (system.act pool.shared call input).1 other) :
    Holds inv own (system.step pool (.act index input)) := by
  cases present : pool.calls[index]? with
  | none =>
    rw [step_act_of_none system present]
    exact holds
  | some call =>
    have ⟨state, self, others⟩ := kept call present
    rw [step_act_of_some system present]
    constructor
    · exact state
    · intro i other found
      simp only at found
      by_cases same : index = i
      · rw [same, List.getElem?_set_self'] at found
        have ⟨_, _, new⟩ := Option.map_eq_some_iff.mp found
        rw [← new]
        exact self
      · rw [List.getElem?_set_ne same] at found
        exact others i other (fun equal => same equal.symm) found

theorem Holds.outside {change : ε} (state : inv (system.outside pool.shared change))
    (others : ∀ call, own pool.shared call → own (system.outside pool.shared change) call) :
    Holds inv own (system.step pool (.outside change)) :=
  ⟨state, fun index call found => others call (holds.calls index call found)⟩

omit holds

theorem Holds.run {guard : Pool σ τ → Event κ ι ε → Prop}
    (kept : ∀ pool event, Holds inv own pool → guard pool event →
      Holds inv own (system.step pool event)) {events : List (Event κ ι ε)}
    (holds : Holds inv own pool) (guarded : Guarded system.step guard pool events) :
    Holds inv own (run system.step pool events) :=
  run_invariant system.step guard (Holds inv own) kept pool events holds guarded

end System

end Porter.Run
