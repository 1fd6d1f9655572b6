import Mathlib.Data.List.Infix
import Mathlib.Data.List.TakeDrop
import Mathlib.Data.List.TakeWhile
import Porter.Go.Strconv

/-!
# Functions of package strings

Go strings as byte strings, and the functions of package `strings` that cut and trim them.
-/
namespace Porter.Go

/-- The encodings of the code points that are white space to `unicode.IsSpace`. -/
def spaces : List (List UInt8) :=
  [[0x09], [0x0A], [0x0B], [0x0C], [0x0D], [0x20], [0xC2, 0x85], [0xC2, 0xA0],
    [0xE1, 0x9A, 0x80]] ++
  (List.range 11).map (fun i => [0xE2, 0x80, 0x80 + UInt8.ofNat i]) ++
  [[0xE2, 0x80, 0xA8], [0xE2, 0x80, 0xA9], [0xE2, 0x80, 0xAF], [0xE2, 0x81, 0x9F],
    [0xE3, 0x80, 0x80]]

def dropAll (beginnings : List (List UInt8)) : Nat → List UInt8 → List UInt8
  | 0, text => text
  | n + 1, text =>
    match beginnings.find? (fun beginning => beginning.isPrefixOf text) with
    | none => text
    | some beginning => dropAll beginnings n (text.drop beginning.length)

variable (text : List UInt8)

def trimSpace : List UInt8 :=
  let left := dropAll spaces text.length text
  (dropAll (spaces.map List.reverse) left.length left.reverse).reverse

def trim (cutset text : List UInt8) : List UInt8 :=
  ((text.dropWhile (fun b => b ∈ cutset)).reverse.dropWhile (fun b => b ∈ cutset)).reverse

def trimLeft (cutset text : List UInt8) : List UInt8 := text.dropWhile (fun b => b ∈ cutset)

def hasPrefix (beginning : List UInt8) : Bool := beginning.isPrefixOf text

def contains (part : List UInt8) : Bool := text.tails.any fun rest => part.isPrefixOf rest

def hasSuffix (ending : List UInt8) : Bool := ending.isSuffixOf text

def trimSuffix (ending : List UInt8) : List UInt8 :=
  if ending.isSuffixOf text then text.take (text.length - ending.length) else text

def trimPrefix (beginning : List UInt8) : List UInt8 :=
  if beginning.isPrefixOf text then text.drop beginning.length else text

variable (separator : UInt8)

/-- `strings.Cut` at a byte: what stands before and after it, or nothing if there is none. -/
def cut : Option (List UInt8 × List UInt8) :=
  match text.span (fun b => b ≠ separator) with
  | (_, []) => none
  | (before, _ :: after) => some (before, after)

def cutAnyway : List UInt8 × List UInt8 :=
  (cut text separator).getD (text, [])

def split : List (List UInt8) := text.splitOn separator

theorem split_ne_nil : split text separator ≠ [] :=
  List.splitOn_ne_nil separator text

def replaceAll (old : UInt8) (new : List UInt8) : List UInt8 :=
  text.flatMap (fun b => if b = old then new else [b])

variable {text separator}

theorem cut_append {before : List UInt8} (absent : separator ∉ before) (after : List UInt8) :
    cut (before ++ separator :: after) separator = some (before, after) := by
  have apart : ∀ b ∈ before, decide (b ≠ separator) = true :=
    fun b member => decide_eq_true (fun same => absent (same ▸ member))
  unfold cut
  rw [List.span_eq_takeWhile_dropWhile, List.takeWhile_append_of_pos apart,
    List.dropWhile_append_of_pos apart]
  simp

theorem cut_eq_none (absent : separator ∉ text) : cut text separator = none := by
  have apart : ∀ b ∈ text, decide (b ≠ separator) = true :=
    fun b member => decide_eq_true (fun same => absent (same ▸ member))
  unfold cut
  rw [List.span_eq_takeWhile_dropWhile, List.dropWhile_eq_nil_iff.mpr apart]

/-- The text is not empty, and begins and ends with no white space. -/
structure Trimmed (text : List UInt8) : Prop where
  filled : text ≠ []
  front : ∀ space ∈ spaces, ¬space <+: text
  back : ∀ space ∈ spaces, ¬space <:+ text

def Solid (b : UInt8) : Prop := ∀ space ∈ spaces, b ∉ space

def word : List UInt8 :=
  ascii "ABCDEFGHIJKLMNOPQRSTUVWXYZabcdefghijklmnopqrstuvwxyz0123456789_"

theorem solid_word : ∀ b ∈ word, Solid b := by
  unfold Solid
  decide +kernel

variable {b : UInt8}

theorem Solid.front (solid : Solid b) (rest : List UInt8) :
    ∀ space ∈ spaces, ¬space <+: b :: rest := by
  intro space listed starts
  rcases List.prefix_cons_iff.mp starts with rfl | ⟨tail, rfl, _⟩
  · exact absurd listed (by decide)
  · exact solid _ listed List.mem_cons_self

theorem Solid.back (solid : Solid b) (front : List UInt8) :
    ∀ space ∈ spaces, ¬space <:+ front ++ [b] := by
  intro space listed ends
  rcases List.suffix_concat_iff.mp ends with rfl | ⟨init, rfl, _⟩
  · exact absurd listed (by decide)
  · exact solid _ listed (List.mem_append_right _ List.mem_cons_self)

theorem trimmed_word (filled : text ≠ []) (letters : ∀ b ∈ text, b ∈ word) : Trimmed text where
  filled := filled
  front := by
    obtain ⟨b, rest, rfl⟩ := List.exists_cons_of_ne_nil filled
    exact (solid_word b (letters b List.mem_cons_self)).front rest
  back := by
    have back := (solid_word _ (letters _ (List.getLast_mem filled))).back text.dropLast
    rwa [List.dropLast_concat_getLast filled] at back

/-- A byte in front of a text makes no white space of its end, unless the byte is part of white
space longer than itself. -/
theorem Trimmed.back_append (trimmed : Trimmed text)
    (short : ∀ space ∈ spaces, b ∈ space → space.length ≤ 1) (front : List UInt8) :
    ∀ space ∈ spaces, ¬space <:+ front ++ b :: text := by
  intro space listed ends
  have whole : b :: text <:+ front ++ b :: text := List.suffix_append _ _
  rcases Nat.lt_or_ge text.length space.length with beyond | within
  · have inside : b :: text <:+ space := List.suffix_of_suffix_length_le whole ends beyond
    have one := short space listed (inside.subset List.mem_cons_self)
    have some := List.length_pos_iff.mpr trimmed.filled
    omega
  · have tail : text <:+ front ++ b :: text := (List.suffix_cons b text).trans whole
    exact trimmed.back space listed (List.suffix_of_suffix_length_le ends tail within)

inductive Made (parts : List (List UInt8)) : List UInt8 → Prop where
  | nil : Made parts []
  | cons {part rest : List UInt8} : part ∈ parts → Made parts rest → Made parts (part ++ rest)

section

variable {parts : List (List UInt8)} {front : List UInt8}

theorem Made.append (made : Made parts front) (more : Made parts text) :
    Made parts (front ++ text) := by
  induction made with
  | nil => exact more
  | cons listed _ recurse => exact List.append_assoc .. ▸ recurse.cons listed

theorem Made.reverse (made : Made parts text) : Made (parts.map List.reverse) text.reverse := by
  induction made with
  | nil => exact .nil
  | @cons part _ listed _ recurse =>
    rw [List.reverse_append, ← List.append_nil part.reverse]
    exact recurse.append (.cons (List.mem_map_of_mem listed) .nil)

theorem exists_dropAll (parts : List (List UInt8)) (n : Nat) (text : List UInt8) :
    ∃ front, Made parts front ∧ text = front ++ dropAll parts n text := by
  induction n generalizing text with
  | zero => exact ⟨[], .nil, rfl⟩
  | succ n recurse =>
    unfold dropAll
    split
    · exact ⟨[], .nil, rfl⟩
    · next part found =>
      obtain ⟨front, made, same⟩ := recurse (text.drop part.length)
      have starts := List.find?_some found
      simp only [List.isPrefixOf_iff_prefix] at starts
      refine ⟨part ++ front, made.cons (List.mem_of_find?_eq_some found), ?_⟩
      rw [List.append_assoc, ← same]
      exact (List.prefix_iff_eq_append.mp starts).symm

theorem Made.dropAll (made : Made parts front)
    (apart : ∀ a ∈ parts, ∀ b ∈ parts, a <+: b → a = b) (bare : ∀ part ∈ parts, ¬part <+: text)
    {n : Nat} (enough : front.length ≤ n) : dropAll parts n (front ++ text) = text := by
  induction made generalizing n with
  | nil =>
    have none : parts.find? (fun part => part.isPrefixOf text) = none := by
      rw [List.find?_eq_none]
      intro part listed starts
      exact bare part listed (List.isPrefixOf_iff_prefix.mp starts)
    rw [List.nil_append]
    cases n with
    | zero => rfl
    | succ n => rw [Go.dropAll, none]
  | @cons part rest listed _ recurse =>
    have filled : 0 < part.length := by
      rw [List.length_pos_iff]
      rintro rfl
      exact bare [] listed List.nil_prefix
    rw [List.length_append] at enough
    obtain ⟨n, rfl⟩ := Nat.exists_eq_add_of_le' (Nat.one_le_of_lt (by omega : 0 < n))
    have found : parts.find? (fun other => other.isPrefixOf (part ++ (rest ++ text))) =
        some part := by
      cases found : parts.find? (fun other => other.isPrefixOf (part ++ (rest ++ text))) with
      | none =>
        have absent := List.find?_eq_none.mp found part listed
        exact absurd (List.isPrefixOf_iff_prefix.mpr (List.prefix_append ..)) absent
      | some other =>
        have member := List.mem_of_find?_eq_some found
        have begins := List.find?_some found
        simp only [List.isPrefixOf_iff_prefix] at begins
        rcases List.prefix_or_prefix_of_prefix begins (List.prefix_append ..) with shorter | longer
        · rw [apart _ member _ listed shorter]
        · rw [apart _ listed _ member longer]
    rw [List.append_assoc, Go.dropAll, found]
    simp only [List.drop_left]
    exact recurse (by omega)

end

theorem spaces_apart : ∀ a ∈ spaces, ∀ b ∈ spaces, a <+: b → a = b := by decide +kernel

theorem spaces_reverse_apart : ∀ a ∈ spaces.map List.reverse, ∀ b ∈ spaces.map List.reverse,
    a <+: b → a = b := by
  decide +kernel

theorem dropAll_back {pad : List UInt8} (made : Made spaces pad)
    (back : ∀ space ∈ spaces, ¬space <:+ text) :
    dropAll (spaces.map List.reverse) (text ++ pad).length (text ++ pad).reverse =
      text.reverse := by
  have bare : ∀ space ∈ spaces.map List.reverse, ¬space <+: text.reverse := by
    intro space listed starts
    obtain ⟨ending, member, rfl⟩ := List.mem_map.mp listed
    exact back ending member (List.reverse_prefix.mp starts)
  rw [List.reverse_append]
  exact made.reverse.dropAll spaces_reverse_apart bare (by simp)

theorem made_replicate (k : Nat) : Made spaces (List.replicate k 0x20) := by
  induction k with
  | zero => exact .nil
  | succ k recurse => exact recurse.cons (by decide : [0x20] ∈ spaces)

theorem trimSpace_padded (text : List UInt8) (j k : Nat)
    (front : ∀ space ∈ spaces, ¬space <+: text ++ List.replicate k 0x20)
    (back : ∀ space ∈ spaces, ¬space <:+ text) :
    trimSpace (List.replicate j 0x20 ++ (text ++ List.replicate k 0x20)) = text := by
  have left : dropAll spaces (List.replicate j 0x20 ++ (text ++ List.replicate k 0x20)).length
      (List.replicate j 0x20 ++ (text ++ List.replicate k 0x20)) = text ++ List.replicate k 0x20 :=
    (made_replicate j).dropAll spaces_apart front (by simp)
  unfold trimSpace
  simp only
  rw [left, dropAll_back (made_replicate k) back, List.reverse_reverse]

theorem Trimmed.trimSpace (trimmed : Trimmed text) (j : Nat) :
    Go.trimSpace (List.replicate j 0x20 ++ text) = text := by
  have front : ∀ space ∈ spaces, ¬space <+: text ++ List.replicate 0 0x20 := by
    rw [List.replicate_zero, List.append_nil]
    exact trimmed.front
  have padded := trimSpace_padded text j 0 front trimmed.back
  rwa [List.replicate_zero, List.append_nil] at padded

theorem trimSpace_eq_nil_iff : trimSpace text = [] ↔ Made spaces text := by
  constructor
  · intro empty
    obtain ⟨front, made, same⟩ := exists_dropAll spaces text.length text
    obtain ⟨back, ends, rest⟩ := exists_dropAll (spaces.map List.reverse)
      (dropAll spaces text.length text).length (dropAll spaces text.length text).reverse
    rw [List.reverse_eq_nil_iff.mp empty, List.append_nil] at rest
    have turned := ends.reverse
    rw [← rest, List.reverse_reverse, List.map_map, List.reverse_involutive.comp_self,
      List.map_id] at turned
    exact same ▸ made.append turned
  · intro made
    have left := made.dropAll spaces_apart (by decide : ∀ space ∈ spaces, ¬space <+: [])
      (Nat.le_refl _)
    rw [List.append_nil] at left
    unfold trimSpace
    simp only [left]
    rfl

theorem Made.not_mem (made : Made spaces text) (solid : Solid b) : b ∉ text := by
  induction made with
  | nil => exact List.not_mem_nil
  | cons listed _ recurse => exact fun member =>
      (List.mem_append.mp member).elim (solid _ listed) recurse

theorem hasSuffix_trimSpace (solid : Solid b) {front rest : List UInt8}
    (blank : trimSpace rest = []) : hasSuffix (trimSpace (front ++ b :: rest)) [b] = true := by
  have left : ∃ tail, dropAll spaces (front ++ b :: rest).length (front ++ b :: rest) =
      (tail ++ [b]) ++ rest := by
    obtain ⟨pad, spaced, same⟩ := exists_dropAll spaces (front ++ b :: rest).length
      (front ++ b :: rest)
    rcases List.append_eq_append_iff.mp same with ⟨tail, rfl, back⟩ | ⟨tail, _, back⟩
    · cases tail with
      | nil => exact ⟨[], back.symm⟩
      | cons c tail =>
        rw [← (List.cons.inj back).1] at spaced
        exact absurd (List.mem_append_right _ List.mem_cons_self) (spaced.not_mem solid)
    · exact ⟨tail, back.trans (List.append_cons ..)⟩
  obtain ⟨tail, left⟩ := left
  unfold trimSpace
  simp only [left, dropAll_back (trimSpace_eq_nil_iff.mp blank) (solid.back tail)]
  simp [hasSuffix]

theorem blank_line {line rest : List UInt8} (blank : trimSpace (line ++ 0x0A :: rest) = []) :
    trimSpace line = [] := by
  rw [trimSpace_eq_nil_iff] at blank ⊢
  generalize same : line ++ 0x0A :: rest = whole at blank
  induction blank generalizing line with
  | nil => exact absurd same (by simp)
  | @cons part more listed _ recurse =>
    rcases List.append_eq_append_iff.mp same with ⟨tail, rfl, back⟩ | ⟨tail, rfl, back⟩
    · cases tail with
      | nil => exact List.append_nil line ▸ .cons (List.append_nil line ▸ listed) .nil
      | cons b tail =>
        have alone : ∀ space ∈ spaces, 0x0A ∈ space → space = [0x0A] := by decide
        rw [← (List.cons.inj back).1] at listed
        have none : line = [] := by
          have whole := alone _ listed (List.mem_append_right _ List.mem_cons_self)
          exact (List.append_eq_singleton_iff.mp whole).elim (·.1) fun other => nomatch other.2
        exact none ▸ .nil
    · exact (recurse back.symm).cons listed

end Porter.Go
