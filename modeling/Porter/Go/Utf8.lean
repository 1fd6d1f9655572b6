import Mathlib.Algebra.Group.Nat.Defs
import Mathlib.Data.List.Basic

/-!
# Ranging over the runes of a string

A Go string is a byte string.
-/
namespace Porter.Go

def runeError : Nat := 0xFFFD

def continues (bytes : List UInt8) : Bool := bytes.all (fun b => 0x80 ≤ b && b ≤ 0xBF)

variable (lead : Nat)

def runeValue (tail : List UInt8) : Nat :=
  tail.foldl (fun value b => value * 64 + (b.toNat - 0x80)) lead

variable (b : UInt8)

def secondRange : UInt8 × UInt8 :=
  if b == 0xE0 then (0xA0, 0xBF)
  else if b == 0xED then (0x80, 0x9F)
  else if b == 0xF0 then (0x90, 0xBF)
  else if b == 0xF4 then (0x80, 0x8F)
  else (0x80, 0xBF)

variable (rest : List UInt8)

def multibyte (lead width : Nat) (rest : List UInt8) : Nat × Nat :=
  let tail := rest.take (width - 1)
  if tail.length == width - 1 && continues tail &&
      tail.headD 0 ≥ (secondRange b).1 && tail.headD 0 ≤ (secondRange b).2 then
    (runeValue lead tail, width)
  else (runeError, 1)

def decodeRune : Nat × Nat :=
  if b < 0x80 then (b.toNat, 1)
  else if b < 0xC2 then (runeError, 1)
  else if b < 0xE0 then multibyte b (b.toNat - 0xC0) 2 rest
  else if b < 0xF0 then multibyte b (b.toNat - 0xE0) 3 rest
  else if b < 0xF5 then multibyte b (b.toNat - 0xF0) 4 rest
  else (runeError, 1)

def runesFrom (i : Nat) : Nat → List UInt8 → List (Nat × Nat)
  | _, [] => []
  | 0, b :: rest =>
    let (rune, width) := decodeRune b rest
    (i, rune) :: runesFrom (i + 1) (width - 1) rest
  | skip + 1, _ :: rest => runesFrom (i + 1) skip rest

def runes (s : List UInt8) : List (Nat × Nat) := runesFrom 0 0 s

theorem decodeRune_ascii (ascii : b < 0x80) : decodeRune b rest = (b.toNat, 1) := by
  simp [decodeRune, ascii]

theorem runeValue_cons :
    runeValue lead (b :: rest) = runeValue (lead * 64 + (b.toNat - 0x80)) rest := by
  simp only [runeValue, List.foldl_cons]

theorem le_runeValue (tail : List UInt8) : lead * 64 ^ tail.length ≤ runeValue lead tail := by
  induction tail generalizing lead with
  | nil => simp [runeValue]
  | cons b rest recurse =>
    have later := recurse (lead * 64 + (b.toNat - 0x80))
    calc lead * 64 ^ (rest.length + 1)
        = lead * 64 * 64 ^ rest.length := by rw [Nat.pow_succ, Nat.mul_assoc, Nat.mul_comm 64]
      _ ≤ (lead * 64 + (b.toNat - 0x80)) * 64 ^ rest.length :=
        Nat.mul_le_mul_right _ (Nat.le_add_right _ _)
      _ ≤ runeValue lead (b :: rest) := by
        rw [runeValue_cons]
        exact later

theorem multibyte_ge (lead extra : Nat) (rest : List UInt8)
    (large : ∀ c : UInt8, (secondRange b).1 ≤ c →
      0x80 ≤ (lead * 64 + (c.toNat - 0x80)) * 64 ^ extra) :
    0x80 ≤ (multibyte b lead (extra + 2) rest).1 := by
  unfold multibyte
  simp only
  split
  · rename_i formed
    simp only [Bool.and_eq_true, beq_iff_eq, decide_eq_true_eq] at formed
    obtain ⟨⟨⟨size, _⟩, low⟩, _⟩ := formed
    cases tail : rest.take (extra + 2 - 1) with
    | nil =>
      rw [tail] at size
      simp at size
    | cons c later =>
      rw [tail] at low size
      have few : later.length = extra := by simpa using size
      have first := large c low
      rw [← few] at first
      rw [runeValue_cons]
      exact Nat.le_trans first (le_runeValue _ later)
  · decide

theorem payload_pos {b : UInt8} {smallest : Nat} (atLeast : smallest ≤ b.toNat)
    (other : b ≠ UInt8.ofNat smallest) : 1 ≤ b.toNat - smallest := by
  have differ : b.toNat ≠ smallest := by
    intro same
    apply other
    rw [← same, UInt8.ofNat_toNat]
  omega

theorem decodeRune_ge (beyond : ¬ b < 0x80) : 0x80 ≤ (decodeRune b rest).1 := by
  unfold decodeRune
  split
  · contradiction
  · split
    · decide
    · rename_i two
      have atLeast : 0xC2 ≤ b.toNat := by simpa [UInt8.lt_iff_toNat_lt] using two
      split
      · refine multibyte_ge b _ 0 rest ?_
        intro c _
        omega
      · rename_i three
        have atLeast : 0xE0 ≤ b.toNat := by simpa [UInt8.lt_iff_toNat_lt] using three
        split
        · refine multibyte_ge b _ 1 rest ?_
          intro c low
          by_cases smallest : b = 0xE0
          · rw [smallest] at low
            have bound : 0xA0 ≤ c.toNat := by simpa [secondRange, UInt8.le_iff_toNat_le] using low
            omega
          · have payload : 1 ≤ b.toNat - 0xE0 := payload_pos atLeast smallest
            omega
        · rename_i four
          have atLeast : 0xF0 ≤ b.toNat := by simpa [UInt8.lt_iff_toNat_lt] using four
          split
          · refine multibyte_ge b _ 2 rest ?_
            intro c low
            by_cases smallest : b = 0xF0
            · rw [smallest] at low
              have bound : 0x90 ≤ c.toNat := by
                simpa [secondRange, UInt8.le_iff_toNat_le] using low
              omega
            · have payload : 1 ≤ b.toNat - 0xF0 := payload_pos atLeast smallest
              omega
          · decide

/-- A condition on runes that no rune beyond ASCII meets holds of every rune of a string exactly
when it holds of every byte, each at its own position. -/
theorem all_runes (p : Nat → Nat → Bool) (beyond : ∀ i rune, 0x80 ≤ rune → p i rune = false)
    (s : List UInt8) (i : Nat) :
    (runesFrom i 0 s).all (fun entry => p entry.1 entry.2) =
      (s.zipIdx i).all (fun entry => p entry.2 entry.1.toNat) := by
  induction s generalizing i with
  | nil => rfl
  | cons b rest recurse =>
    by_cases small : b < 0x80
    · simp [runesFrom, decodeRune_ascii b rest small, recurse]
    · have rune := beyond i _ (decodeRune_ge b rest small)
      have large : 0x80 ≤ b.toNat := by simpa [UInt8.lt_iff_toNat_lt] using small
      simp [runesFrom, rune, beyond i _ large]

end Porter.Go
