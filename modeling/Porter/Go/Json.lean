import Mathlib.Order.Defs.LinearOrder

/-!
# Members of JSON documents

What `encoding/json` writes for the fields of a struct and reads back.
-/
namespace Porter.Go.Json

def omitempty {α : Type} [DecidableEq α] (zero x : α) : Option α :=
  if x = zero then none else some x

@[simp] theorem getD_omitempty {α : Type} [DecidableEq α] (zero x : α) :
    (omitempty zero x).getD zero = x := by
  unfold omitempty
  split
  · next same => exact same.symm
  · rfl

inductive Float64 where
  | finite (value : Rat)
  | infinite (negative : Bool)
  | nan
deriving DecidableEq

def Float64.encode : Float64 → Option Rat
  | .finite value => some value
  | .infinite _ => none
  | .nan => none

def Float64.below (bound : Rat) : Float64 → Bool
  | .finite value => value < bound
  | .infinite negative => negative
  | .nan => false

def Float64.atLeast (bound : Rat) : Float64 → Bool
  | .finite value => bound ≤ value
  | .infinite negative => !negative
  | .nan => false

theorem Float64.atLeast_iff {bound : Rat} {x : Float64} :
    x.atLeast bound = true ↔ x.below bound = false ∧ x ≠ .nan := by
  cases x <;> simp [Float64.atLeast, Float64.below, Rat.not_lt]

def FourDigits (t : Int) : Prop :=
  -62167219200000000000 ≤ t ∧ t < 253402300800000000000

instance (t : Int) : Decidable (FourDigits t) := inferInstanceAs (Decidable (_ ∧ _))

abbrev Stamp := { t : Int // FourDigits t }

def encodeTime (t : Int) : Option Stamp := if fits : FourDigits t then some ⟨t, fits⟩ else none

def zeroTime : Stamp := ⟨-62135596800000000000, by decide⟩

theorem encodeTime_eq_some {t : Int} {stamp : Stamp} : encodeTime t = some stamp ↔ t = stamp := by
  unfold encodeTime
  constructor
  · intro encoded
    split at encoded
    · rw [← Option.some.inj encoded]
    · contradiction
  · intro same
    subst same
    exact dif_pos stamp.property

end Porter.Go.Json
