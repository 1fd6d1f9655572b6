import Mathlib.Data.List.Basic

/-!
# Runs of a service

A service takes one call after another.
-/
namespace Porter.Run

variable {σ α : Type}

def run (step : σ → α → σ) (state : σ) (calls : List α) : σ :=
  calls.foldl step state

variable (step : σ → α → σ)

@[simp] theorem run_cons (state : σ) (call : α) (rest : List α) :
    run step state (call :: rest) = run step (step state call) rest := rfl

/-- Every call of the sequence meets the guard in the state it is applied to. -/
def Guarded (step : σ → α → σ) (guard : σ → α → Prop) : σ → List α → Prop
  | _, [] => True
  | state, call :: rest => guard state call ∧ Guarded step guard (step state call) rest

instance Guarded.decidable (step : σ → α → σ) (guard : σ → α → Prop)
    [∀ state call, Decidable (guard state call)] :
    ∀ state calls, Decidable (Guarded step guard state calls)
  | _, [] => .isTrue trivial
  | state, call :: rest =>
    have : Decidable (Guarded step guard (step state call) rest) :=
      Guarded.decidable step guard (step state call) rest
    inferInstanceAs (Decidable (guard state call ∧ Guarded step guard (step state call) rest))

theorem run_append (state : σ) (first second : List α) :
    run step state (first ++ second) = run step (run step state first) second :=
  List.foldl_append

variable (guard : σ → α → Prop)

theorem guarded_append (state : σ) (first second : List α) :
    Guarded step guard state (first ++ second) ↔
      Guarded step guard state first ∧ Guarded step guard (run step state first) second := by
  induction first generalizing state with
  | nil => simp [Guarded, run]
  | cons call rest recurse => simp [Guarded, recurse, and_assoc]

theorem guarded_iff (state : σ) (calls : List α) :
    Guarded step guard state calls ↔
      ∀ before call after, calls = before ++ call :: after →
        guard (run step state before) call := by
  constructor
  · rintro guarded before call after rfl
    exact ((guarded_append step guard state before _).mp guarded).2.1
  · intro each
    induction calls generalizing state with
    | nil => trivial
    | cons call rest recurse =>
      refine ⟨each [] call rest rfl, recurse (step state call) ?_⟩
      intro before later after split
      exact each (call :: before) later after (by rw [split, List.cons_append])

theorem run_invariant (inv : σ → Prop)
    (preserved : ∀ state call, inv state → guard state call → inv (step state call)) (state : σ)
    (calls : List α) (holds : inv state) (guarded : Guarded step guard state calls) :
    inv (run step state calls) := by
  induction calls generalizing state with
  | nil => exact holds
  | cons call rest recurse =>
    have stepped : inv (step state call) := preserved state call holds guarded.1
    rw [run_cons]
    exact recurse (step state call) stepped guarded.2

theorem run_preserved (inv : σ → Prop) (preserved : ∀ state call, inv state → inv (step state call))
    (state : σ) (calls : List α) (holds : inv state) : inv (run step state calls) :=
  run_invariant step (fun _ _ => True) inv (fun s call known _ => preserved s call known) state
    calls holds ((guarded_iff step _ state calls).mpr fun _ _ _ _ => trivial)

/-- If what holds makes a call show something exactly when it meets the guard, and then goes on to
hold, then the guarded runs are those along which it is shown at every moment. -/
theorem guarded_iff_shown {inv : σ → Prop} (shown : σ → Prop)
    (shows' : ∀ state, inv state → shown state)
    (sharp : ∀ state call, inv state → (shown (step state call) ↔ guard state call) ∧
      (guard state call → inv (step state call))) (state : σ) (calls : List α) (holds : inv state) :
    Guarded step guard state calls ↔
      ∀ before after, calls = before ++ after → shown (run step state before) := by
  constructor
  · intro guarded before after split
    rw [split] at guarded
    exact shows' _ (run_invariant step guard inv (fun s call known => (sharp s call known).2) state
      before holds ((guarded_append step guard state before after).mp guarded).1)
  · intro always
    induction calls generalizing state with
    | nil => trivial
    | cons call rest recurse =>
      have met := (sharp state call holds).1.mp (always [call] rest rfl)
      refine ⟨met, recurse (step state call) ((sharp state call holds).2 met) ?_⟩
      intro before after split
      exact always (call :: before) after (by rw [split, List.cons_append])

/-- If the calls that meet the guard are those that keep all they do not end, then along the guarded
runs, and no others, everything lasts until it is ended. -/
theorem guarded_iff_until {β : Type} (holds : σ → β → Prop) (ends : α → β → Prop)
    (sharp : ∀ state call, (∀ what, holds state what → ¬ ends call what →
      holds (step state call) what) ↔ guard state call) (state : σ) (calls : List α) :
    Guarded step guard state calls ↔
      ∀ before between after, calls = before ++ between ++ after →
        ∀ what, holds (run step state before) what → (∀ call ∈ between, ¬ ends call what) →
          holds (run step state (before ++ between)) what := by
  rw [guarded_iff]
  constructor
  · intro each before between after split what known lasting
    rw [run_append]
    refine run_invariant step (fun state call => guard state call ∧ ¬ ends call what)
      (fun state => holds state what) (fun state call here allowed => ?_) _ between known ?_
    · exact (sharp state call).mpr allowed.1 what here allowed.2
    · rw [guarded_iff]
      rintro earlier call later rfl
      refine ⟨?_, lasting call (by simp)⟩
      rw [← run_append]
      exact each (before ++ earlier) call (later ++ after) (by simp [split])
  · intro lasts before call after split
    rw [← sharp]
    intro what known lasting
    have kept := lasts before [call] after (by simp [split]) what known (by simpa using lasting)
    rwa [run_append] at kept

end Porter.Run
