import Mathlib.Algebra.Group.Int.Defs
import Mathlib.Algebra.Group.Nat.Defs
import Mathlib.Data.List.Basic

/-!
# Decimal numbers as text

`strconv.Itoa` and `strconv.Atoi` on 64-bit integers, over characters and over the bytes of a Go
string.
-/
namespace Porter.Go

def bytes (text : List Char) : List UInt8 := text.map (fun c => UInt8.ofNat c.toNat)

def ascii (text : String) : List UInt8 := bytes text.toList

def chars (text : List UInt8) : List Char := text.map (fun b => Char.ofNat b.toNat)

def Int64Range (n : Int) : Prop := -2 ^ 63 ≤ n ∧ n < 2 ^ 63

instance (n : Int) : Decidable (Int64Range n) :=
  inferInstanceAs (Decidable (-2 ^ 63 ≤ n ∧ n < 2 ^ 63))

namespace Strconv

def itoa (n : Int) : List Char :=
  if n < 0 then '-' :: Nat.toDigits 10 n.natAbs else Nat.toDigits 10 n.natAbs

def sign : List Char → Bool × List Char
  | '-' :: rest => (true, rest)
  | '+' :: rest => (false, rest)
  | all => (false, all)

def atoi (text : List Char) : Option Int :=
  if (sign text).2.isEmpty || !(sign text).2.all Char.isDigit then none
  else
    let size := (sign text).2.foldl (fun n c => n * 10 + (c.toNat - '0'.toNat)) 0
    let value : Int := if (sign text).1 then -size else size
    if -2 ^ 63 ≤ value && value < 2 ^ 63 then some value else none

variable {c : Char}

theorem isDigit_of_mem {n : Nat} (member : c ∈ Nat.toDigits 10 n) : c.isDigit = true :=
  Nat.isDigit_of_mem_toDigits (by decide) (by decide) member

theorem sign_of_digit (digit : c.isDigit = true) (rest : List Char) :
    sign (c :: rest) = (false, c :: rest) := by
  unfold sign
  split
  · rename_i same
    obtain ⟨rfl, _⟩ := List.cons.inj same
    exact absurd digit (by decide)
  · rename_i same
    obtain ⟨rfl, _⟩ := List.cons.inj same
    exact absurd digit (by decide)
  · rfl

theorem sign_toDigits (n : Nat) : sign (Nat.toDigits 10 n) = (false, Nat.toDigits 10 n) := by
  cases written : Nat.toDigits 10 n with
  | nil => exact absurd written Nat.toDigits_ne_nil
  | cons c rest =>
    have first : c ∈ Nat.toDigits 10 n := by rw [written]; exact List.mem_cons_self
    exact sign_of_digit (isDigit_of_mem first) rest

theorem sign_itoa (n : Int) :
    sign (itoa n) = (decide (n < 0), Nat.toDigits 10 n.natAbs) := by
  unfold itoa
  by_cases negative : n < 0
  · simp [negative, sign]
  · simp [negative, sign_toDigits]

theorem foldl_toDigits (n : Nat) :
    (Nat.toDigits 10 n).foldl (fun n c => n * 10 + (c.toNat - '0'.toNat)) 0 = n := by
  have read : Nat.ofDigitChars 10 (Nat.toDigits 10 n) 0 = n := Nat.ofDigitChars_ten_toDigits
  rw [Nat.ofDigitChars_eq_foldl] at read
  simpa only [Nat.mul_comm 10] using read

variable {n : Int}

theorem atoi_itoa (fits : Int64Range n) : atoi (itoa n) = some n := by
  have digits : (Nat.toDigits 10 n.natAbs).all Char.isDigit = true :=
    List.all_eq_true.mpr (fun c member => isDigit_of_mem member)
  have filled : (Nat.toDigits 10 n.natAbs).isEmpty = false := by
    rw [List.isEmpty_eq_false_iff]
    exact Nat.toDigits_ne_nil
  have value : (if decide (n < 0) = true then -(n.natAbs : Int) else (n.natAbs : Int)) = n := by
    split
    · rename_i negative
      have below : n < 0 := of_decide_eq_true negative
      omega
    · rename_i positive
      have above : ¬ n < 0 := fun below => positive (decide_eq_true below)
      omega
  unfold atoi
  rw [sign_itoa]
  simp only [digits, filled, foldl_toDigits, value]
  have within : (decide (-2 ^ 63 ≤ n) && decide (n < 2 ^ 63)) = true := by
    rw [Bool.and_eq_true, decide_eq_true_eq, decide_eq_true_eq]
    exact fits
  simp only [within, Bool.not_true, Bool.or_self, Bool.false_eq_true, ↓reduceIte]

theorem int64Range_of_atoi {text : List Char} (read : atoi text = some n) : Int64Range n := by
  unfold atoi at read
  split at read
  · cases read
  · obtain ⟨within, rfl⟩ : _ ∧ _ = n := by
      simpa only [Option.ite_none_right_eq_some, Option.some.injEq] using read
    rwa [Bool.and_eq_true, decide_eq_true_eq, decide_eq_true_eq] at within

theorem mem_itoa (member : c ∈ itoa n) : c = '-' ∨ c.isDigit = true := by
  unfold itoa at member
  split at member
  · rcases List.mem_cons.mp member with sign | digit
    · exact Or.inl sign
    · exact Or.inr (isDigit_of_mem digit)
  · exact Or.inr (isDigit_of_mem member)

end Strconv

def itoa (n : Int) : List UInt8 := bytes (Strconv.itoa n)

def atoi (text : List UInt8) : Option Int := Strconv.atoi (chars text)

inductive NumError where
  | malformed
  | outOfRange

def parseUint : Nat → List UInt8 → Except NumError Nat
  | n, [] => .ok n
  | n, b :: rest =>
    if 0x30 ≤ b ∧ b ≤ 0x39 then
      if n * 10 + (b.toNat - 0x30) < 2 ^ 64 then parseUint (n * 10 + (b.toNat - 0x30)) rest
      else .error .outOfRange
    else .error .malformed

/-- `strconv.Atoi` without a look at the error: the nearest number if out of range, or zero. -/
def atoiAnyway (text : List UInt8) : Int :=
  let negative := text.head? = some 0x2D
  let digits := if negative ∨ text.head? = some 0x2B then text.tail else text
  match parseUint 0 digits with
  | .ok n => if negative then max (-(n : Int)) (-2 ^ 63) else min (n : Int) (2 ^ 63 - 1)
  | .error .outOfRange => if negative then -2 ^ 63 else 2 ^ 63 - 1
  | .error .malformed => 0

variable {n : Int}

theorem toNat_of_mem_itoa {c : Char} (member : c ∈ Strconv.itoa n) :
    45 ≤ c.toNat ∧ c.toNat ≤ 57 := by
  rcases Strconv.mem_itoa member with rfl | digit
  · decide
  · have bounds := Char.isDigit_iff_toNat.mp digit
    have low : '0'.toNat = 48 := rfl
    have high : '9'.toNat = 57 := rfl
    omega

theorem chars_bytes {text : List Char} (small : ∀ c ∈ text, c.toNat < 256) :
    chars (bytes text) = text := by
  unfold chars bytes
  rw [List.map_map]
  conv => rhs; rw [← List.map_id text]
  apply List.map_congr_left
  intro c member
  have bound := small c member
  have value : (UInt8.ofNat c.toNat).toNat = c.toNat := by
    rw [UInt8.toNat_ofNat']
    omega
  simp only [Function.comp_apply, value, Char.ofNat_toNat, id_eq]

theorem atoi_itoa (fits : Int64Range n) : atoi (itoa n) = some n := by
  have read : chars (itoa n) = Strconv.itoa n := by
    apply chars_bytes
    intro c member
    have bound := (toNat_of_mem_itoa member).2
    omega
  unfold atoi
  rw [read]
  exact Strconv.atoi_itoa fits

theorem le_of_mem_itoa {b : UInt8} (member : b ∈ itoa n) : 45 ≤ b := by
  obtain ⟨c, written, rfl⟩ := List.mem_map.mp member
  have bounds := toNat_of_mem_itoa written
  rw [UInt8.le_iff_toNat_le, UInt8.toNat_ofNat']
  have literal : (45 : UInt8).toNat = 45 := rfl
  omega

end Porter.Go
