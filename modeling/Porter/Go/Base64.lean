import Mathlib.Data.List.Basic

/-!
# Base64 for URLs

`base64.RawURLEncoding` of package `encoding/base64`: the alphabet of URLs without padding.
-/
namespace Porter.Go.Base64

def letter (n : Nat) : UInt8 :=
  if n < 26 then 0x41 + UInt8.ofNat n
  else if n < 52 then 0x61 + UInt8.ofNat (n - 26)
  else if n < 62 then 0x30 + UInt8.ofNat (n - 52)
  else if n = 62 then 0x2D
  else 0x5F

def sextet (b : UInt8) : Option Nat :=
  if 0x41 ≤ b ∧ b ≤ 0x5A then some (b.toNat - 0x41)
  else if 0x61 ≤ b ∧ b ≤ 0x7A then some (b.toNat - 0x61 + 26)
  else if 0x30 ≤ b ∧ b ≤ 0x39 then some (b.toNat - 0x30 + 52)
  else if b = 0x2D then some 62
  else if b = 0x5F then some 63
  else none

def sextets : List UInt8 → List Nat
  | [] => []
  | [a] => [a.toNat / 4, a.toNat % 4 * 16]
  | [a, b] => [a.toNat / 4, a.toNat % 4 * 16 + b.toNat / 16, b.toNat % 16 * 4]
  | a :: b :: c :: rest =>
    a.toNat / 4 :: (a.toNat % 4 * 16 + b.toNat / 16) :: (b.toNat % 16 * 4 + c.toNat / 64) ::
      c.toNat % 64 :: sextets rest

variable (bytes : List UInt8)

def encode : List UInt8 := (sextets bytes).map letter

def assemble : List Nat → Option (List UInt8)
  | [] => some []
  | [_] => none
  | [x, y] => some [UInt8.ofNat (x * 4 + y / 16)]
  | [x, y, z] => some [UInt8.ofNat (x * 4 + y / 16), UInt8.ofNat (y % 16 * 16 + z / 4)]
  | x :: y :: z :: w :: rest =>
    (assemble rest).map (fun tail =>
      UInt8.ofNat (x * 4 + y / 16) :: UInt8.ofNat (y % 16 * 16 + z / 4) ::
        UInt8.ofNat (z % 4 * 64 + w) :: tail)

def decode (text : List UInt8) : Option (List UInt8) :=
  ((text.filter (fun b => b ≠ 0x0A ∧ b ≠ 0x0D)).mapM sextet).bind assemble

theorem sextet_letter {n : Nat} (small : n < 64) :
    sextet (letter n) = some n ∧ letter n ≠ 0x2E ∧ letter n ≠ 0x0A ∧ letter n ≠ 0x0D := by
  have each : ∀ n : Fin 64, sextet (letter n.val) = some n.val ∧ letter n.val ≠ 0x2E ∧
      letter n.val ≠ 0x0A ∧ letter n.val ≠ 0x0D := by
    decide +kernel
  exact each ⟨n, small⟩

theorem sextets_lt : ∀ n ∈ sextets bytes, n < 64 := by
  induction bytes using sextets.induct with
  | case1 => exact fun _ member => (List.not_mem_nil member).elim
  | case2 a =>
    have bound := a.toNat_lt
    intro n member
    simp only [sextets, List.mem_cons, List.not_mem_nil, or_false] at member
    omega
  | case3 a b =>
    have first := a.toNat_lt
    have second := b.toNat_lt
    intro n member
    simp only [sextets, List.mem_cons, List.not_mem_nil, or_false] at member
    omega
  | case4 a b c rest recurse =>
    have first := a.toNat_lt
    have second := b.toNat_lt
    have third := c.toNat_lt
    intro n member
    simp only [sextets, List.mem_cons] at member
    rcases member with same | same | same | same | later
    · omega
    · omega
    · omega
    · omega
    · exact recurse n later

theorem ofNat_of_eq {n : Nat} {b : UInt8} (same : n = b.toNat) : UInt8.ofNat n = b := by
  rw [same, UInt8.ofNat_toNat]

theorem assemble_sextets : assemble (sextets bytes) = some bytes := by
  induction bytes using sextets.induct with
  | case1 => rfl
  | case2 a =>
    have bound := a.toNat_lt
    simp only [sextets, assemble]
    rw [ofNat_of_eq (b := a) (by omega)]
  | case3 a b =>
    have first := a.toNat_lt
    have second := b.toNat_lt
    simp only [sextets, assemble]
    rw [ofNat_of_eq (b := a) (by omega), ofNat_of_eq (b := b) (by omega)]
  | case4 a b c rest recurse =>
    have first := a.toNat_lt
    have second := b.toNat_lt
    have third := c.toNat_lt
    simp only [sextets, assemble, recurse, Option.map_some]
    rw [ofNat_of_eq (b := a) (by omega), ofNat_of_eq (b := b) (by omega),
      ofNat_of_eq (b := c) (by omega)]

theorem mapM_sextet_letter {numbers : List Nat} (small : ∀ n ∈ numbers, n < 64) :
    (numbers.map letter).mapM sextet = some numbers := by
  induction numbers with
  | nil => rfl
  | cons n rest recurse =>
    have head := (sextet_letter (small n List.mem_cons_self)).1
    have tail := recurse (fun m member => small m (List.mem_cons_of_mem n member))
    rw [List.map_cons, List.mapM_cons, head, tail]
    rfl

theorem mem_encode {bytes : List UInt8} {b : UInt8} (member : b ∈ encode bytes) :
    b ≠ 0x2E ∧ b ≠ 0x0A ∧ b ≠ 0x0D := by
  have ⟨n, inside, same⟩ := List.mem_map.mp member
  rw [← same]
  exact (sextet_letter (sextets_lt bytes n inside)).2

theorem dot_notMem_encode : 0x2E ∉ encode bytes :=
  fun member => (mem_encode member).1 rfl

theorem decode_encode : decode (encode bytes) = some bytes := by
  have unbroken : (encode bytes).filter (fun b => b ≠ 0x0A ∧ b ≠ 0x0D) = encode bytes := by
    rw [List.filter_eq_self]
    intro b member
    exact decide_eq_true (mem_encode member).2
  unfold decode
  rw [unbroken, encode, mapM_sextet_letter (sextets_lt bytes), Option.bind_some,
    assemble_sextets]

end Porter.Go.Base64
