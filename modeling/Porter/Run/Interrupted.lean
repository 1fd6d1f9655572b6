import Mathlib.Data.List.Basic

/-!
# Programs that may be interrupted

A program is a sequence of statements on a state.
-/
namespace Porter.Run

inductive Outcome where
  | ok
  /-- The statement has no effect, and the program ends. -/
  | failed
  /-- The statement takes effect, and the program ends. -/
  | lost
deriving DecidableEq

/-- The state a program leaves and, if it has come through, the outcomes that are left. -/
abbrev Program (σ : Type) := σ → List Outcome → σ × Option (List Outcome)

namespace Program

variable {σ α : Type}

def skip : Program σ := fun state outcomes => (state, some outcomes)

def exec (effect : σ → σ) : Program σ := fun state outcomes =>
  match outcomes with
  | [] => (state, none)
  | .ok :: rest => (effect state, some rest)
  | .failed :: _ => (state, none)
  | .lost :: _ => (effect state, none)

def query (answer : σ → α) (next : α → Program σ) : Program σ := fun state outcomes =>
  match outcomes with
  | .ok :: rest => next (answer state) state rest
  | _ => (state, none)

def seq (first second : Program σ) : Program σ := fun state outcomes =>
  match first state outcomes with
  | (after, none) => (after, none)
  | (after, some rest) => second after rest

def forEach (body : α → Program σ) : List α → Program σ
  | [] => skip
  | x :: rest => seq (body x) (forEach body rest)

/-- From a state with the precondition a program leaves one with `always` however it ends, and one
with the postcondition if it comes through. -/
def Triple (pre : σ → Prop) (program : Program σ) (post always : σ → Prop) : Prop :=
  ∀ state outcomes, pre state → always (program state outcomes).1 ∧
    ((program state outcomes).2.isSome = true → post (program state outcomes).1)

namespace Triple

variable {pre post mid always : σ → Prop} {program first second : Program σ}

theorem skip (holds : ∀ state, pre state → always state) : Triple pre skip pre always :=
  fun state _ given => ⟨holds state given, fun _ => given⟩

theorem exec {effect : σ → σ} (before : ∀ state, pre state → always state)
    (after : ∀ state, pre state → always (effect state) ∧ post (effect state)) :
    Triple pre (exec effect) post always := by
  intro state outcomes given
  have ⟨done, result⟩ := after state given
  cases outcomes with
  | nil => exact ⟨before state given, nofun⟩
  | cons outcome rest =>
    cases outcome with
    | ok => exact ⟨done, fun _ => result⟩
    | failed => exact ⟨before state given, nofun⟩
    | lost => exact ⟨done, nofun⟩

theorem query {answer : σ → α} {next : α → Program σ} (before : ∀ state, pre state → always state)
    (continues : ∀ a, Triple (fun state => pre state ∧ answer state = a) (next a) post always) :
    Triple pre (query answer next) post always := by
  intro state outcomes given
  cases outcomes with
  | nil => exact ⟨before state given, nofun⟩
  | cons outcome rest =>
    cases outcome with
    | ok => exact continues (answer state) state rest ⟨given, rfl⟩
    | failed | lost => exact ⟨before state given, nofun⟩

theorem seq (begins : Triple pre first mid always) (ends : Triple mid second post always) :
    Triple pre (seq first second) post always := by
  intro state outcomes given
  have ⟨held, through⟩ := begins state outcomes given
  unfold Program.seq
  cases result : first state outcomes with
  | mk after left =>
    rw [result] at held through
    cases left with
    | none => exact ⟨held, nofun⟩
    | some rest => exact ends after rest (through rfl)

theorem weaken {pre' post' : σ → Prop} (triple : Triple pre program post always)
    (stronger : ∀ state, pre' state → pre state) (weaker : ∀ state, post state → post' state) :
    Triple pre' program post' always := by
  intro state outcomes given
  have ⟨held, through⟩ := triple state outcomes (stronger state given)
  exact ⟨held, fun done => weaker _ (through done)⟩

theorem forEach {body : α → Program σ} {xs : List α} (inv : List α → σ → Prop)
    (holds : ∀ done state, inv done state → always state)
    (step : ∀ done x rest, xs = done ++ x :: rest →
      Triple (inv done) (body x) (inv (done ++ [x])) always) :
    Triple (inv []) (forEach body xs) (inv xs) always := by
  suffices tail : ∀ done rest, xs = done ++ rest →
      Triple (inv done) (Program.forEach body rest) (inv xs) always from tail [] xs rfl
  intro done rest split
  induction rest generalizing done with
  | nil =>
    rw [split, List.append_nil]
    exact skip (holds done)
  | cons x rest ih =>
    refine (step done x rest split).seq (ih (done ++ [x]) ?_)
    rw [split, List.append_assoc, List.singleton_append]

end Triple

/-- A statement that notes what it attempts, with the outcome. -/
def attempt {τ : Type} (what : τ) : Program (List (τ × Outcome)) := fun trace outcomes =>
  match outcomes with
  | [] => (trace, none)
  | outcome :: rest =>
    (trace ++ [(what, outcome)], if outcome = .ok then some rest else none)

/-- The attempts are the first of a script, and all but the last have succeeded. -/
structure Along {τ : Type} (script : List τ) (trace : List (τ × Outcome)) : Prop where
  order : trace.map Prod.fst <+: script
  succeeded : ∀ entry ∈ trace.dropLast, entry.2 = .ok

def passed {τ : Type} (done : List τ) : List (τ × Outcome) := done.map (fun what => (what, .ok))

/-- A program goes through a script as far as its attempts succeed, wherever it is used. -/
def Follows {τ : Type} (program : Program (List (τ × Outcome))) (script : List τ) : Prop :=
  ∀ done rest, Triple (· = passed done) program (· = passed (done ++ script))
    (Along (done ++ script ++ rest))

section

variable {τ : Type} {program first second : Program (List (τ × Outcome))} {script later : List τ}
  {trace : List (τ × Outcome)}

theorem along_passed {done rest : List τ} (same : trace = passed done) :
    Along (done ++ rest) trace := by
  subst same
  constructor
  · simp [passed, Function.comp_def]
  · intro entry member
    obtain ⟨what, _, rfl⟩ := List.mem_map.mp (List.dropLast_subset _ member)
    rfl

theorem Follows.skip : Follows (skip : Program (List (τ × Outcome))) [] := by
  intro done rest
  rw [List.append_nil]
  exact Triple.skip fun _ same => along_passed same

theorem Follows.attempt (what : τ) : Follows (attempt what) [what] := by
  intro done rest trace outcomes same
  have begun : Along (done ++ [what] ++ rest) trace := by
    rw [List.append_assoc]
    exact along_passed same
  cases outcomes with
  | nil => exact ⟨begun, nofun⟩
  | cons outcome left =>
    subst same
    refine ⟨⟨?_, ?_⟩, ?_⟩
    · simp [Program.attempt, passed, Function.comp_def]
    · intro entry member
      have earlier : entry ∈ passed done := by simpa [Program.attempt] using member
      obtain ⟨_, _, rfl⟩ := List.mem_map.mp earlier
      rfl
    · intro through
      cases outcome with
      | ok => simp [Program.attempt, passed]
      | failed | lost => cases through

theorem Follows.seq (begins : Follows first script) (ends : Follows second later) :
    Follows (seq first second) (script ++ later) := by
  intro done rest
  have front := begins done (later ++ rest)
  have back := ends (done ++ script) rest
  simp only [List.append_assoc] at front back ⊢
  exact front.seq back

theorem Follows.ite {condition : Prop} [Decidable condition] (follows : Follows program script) :
    Follows (if condition then program else Program.skip) (if condition then script else []) := by
  split
  · exact follows
  · exact Follows.skip

theorem Follows.elim {body : α → Program (List (τ × Outcome))} {what : α → τ}
    (follows : ∀ x, Follows (body x) [what x]) (x : Option α) :
    Follows (x.elim Program.skip body) (x.map what).toList := by
  cases x with
  | none => exact Follows.skip
  | some x => exact follows x

theorem Follows.forEach {body : α → Program (List (τ × Outcome))} {what : α → τ}
    (follows : ∀ x, Follows (body x) [what x]) (xs : List α) :
    Follows (forEach body xs) (xs.map what) := by
  induction xs with
  | nil => exact Follows.skip
  | cons x rest recurse => exact (follows x).seq recurse

theorem Follows.along (follows : Follows program script) (outcomes : List Outcome) :
    Along script (program [] outcomes).1 := by
  simpa using (follows [] [] [] outcomes rfl).1

theorem Along.filter_prefix (along : Along script trace)
    {p : τ × Outcome → Bool} (keeps : ∀ entry, entry.2 = .ok → p entry = true) :
    trace.filter p <+: trace := by
  rcases List.eq_nil_or_concat trace with rfl | ⟨front, last, rfl⟩
  · exact List.prefix_rfl
  · have kept : front.filter p = front := by
      apply List.filter_eq_self.mpr
      intro entry member
      exact keeps entry (along.succeeded entry (by simpa using member))
    rw [List.concat_eq_append, List.filter_append, kept, List.prefix_append_right_inj]
    cases passes : p last <;> simp [passes]

theorem Along.complete {front : List τ} {last : τ} (along : Along (front ++ [last]) trace)
    (attempted : last ∈ trace.map Prod.fst)
    (once : last ∉ front) {what : τ} (member : what ∈ front) : (what, .ok) ∈ trace := by
  rcases List.prefix_concat_iff.mp along.order with whole | short
  · have before : trace.dropLast.map Prod.fst = front := by
      rw [List.map_dropLast, whole, List.dropLast_concat]
    rw [← before] at member
    obtain ⟨entry, earlier, rfl⟩ := List.mem_map.mp member
    rw [← along.succeeded entry earlier]
    exact List.dropLast_subset _ earlier
  · exact absurd (short.subset attempted) once

end

end Program

end Porter.Run
