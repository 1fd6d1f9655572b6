import Porter.Run.Guarded

/-!
# Values captured at first sight

Passes over a set of keys: in each pass every key is wanted with a value or not at all.
-/
namespace Porter.Run

/-- What is held for every key, and what was wanted in the last pass. -/
structure Capturing (κ ν τ : Type) where
  held : κ → Option τ
  wanted : κ → Option ν

namespace Capturing

variable {κ ν τ : Type}

def start : Capturing κ ν τ := ⟨fun _ => none, fun _ => none⟩

def pass (capture : ν → τ) (s : Capturing κ ν τ) (wanted : κ → Option ν) : Capturing κ ν τ where
  held := fun k => (wanted k).map (fun v => (s.held k).getD (capture v))
  wanted := wanted

/-- For every key what is held is the target of what is wanted. -/
def Follows (target : κ → ν → τ) (s : Capturing κ ν τ) : Prop :=
  ∀ k, s.held k = (s.wanted k).map (target k)

/-- A key that was wanted keeps its target, and a key that was not is captured right. -/
def Steady (capture : ν → τ) (target : κ → ν → τ) (s : Capturing κ ν τ) (wanted : κ → Option ν) :
    Prop :=
  ∀ k v, wanted k = some v → ((s.wanted k).map (target k)).getD (capture v) = target k v

theorem follows_pass_iff {capture : ν → τ} {target : κ → ν → τ} {s : Capturing κ ν τ}
    {wanted : κ → Option ν} (follows : Follows target s) :
    Follows target (pass capture s wanted) ↔ Steady capture target s wanted := by
  refine forall_congr' (fun k => ?_)
  show (wanted k).map (fun v => (s.held k).getD (capture v)) = (wanted k).map (target k) ↔ _
  rw [follows k]
  cases wanted k with
  | none | some => simp

theorem follows_iff_steady {α : Type} (capture : ν → τ) (target : κ → ν → τ)
    (wanted : α → κ → Option ν) (passes : List α) :
    (∀ before a after, passes = before ++ a :: after →
      Follows target (run (fun s a => pass capture s (wanted a)) start (before ++ [a]))) ↔
    ∀ before a after, passes = before ++ a :: after →
      Steady capture target (run (fun s a => pass capture s (wanted a)) start before)
        (wanted a) := by
  have started : Follows target (start : Capturing κ ν τ) := fun _ => rfl
  have invariant := guarded_iff_shown (fun s a => pass capture s (wanted a))
    (fun s a => Steady capture target s (wanted a)) (Follows target) (fun _ known => known)
    (fun _ _ known => ⟨follows_pass_iff known, (follows_pass_iff known).mpr⟩) start passes started
  rw [guarded_iff] at invariant
  rw [invariant]
  constructor
  · intro each before after split
    rcases List.eq_nil_or_concat' before with rfl | ⟨earlier, a, rfl⟩
    · exact started
    · exact each earlier a after (by rw [split, List.append_assoc, List.singleton_append])
  · intro each before a after split
    exact each (before ++ [a]) after (by rw [split, List.append_assoc, List.singleton_append])

end Capturing

end Porter.Run
