import Mathlib.Data.List.TakeWhile
import Porter.Go.Strconv

/-!
# Schedules

`Matches` of package `cron`, and what a schedule means: a field is a comma list of parts and stands
for the union of their sets.
-/
namespace Porter.Cron

open Go

def isSpace (c : Char) : Bool :=
  c.toNat ∈ [0x09, 0x0A, 0x0B, 0x0C, 0x0D, 0x20, 0x85, 0xA0, 0x1680, 0x2028, 0x2029, 0x202F, 0x205F,
    0x3000] || 0x2000 ≤ c.toNat && c.toNat ≤ 0x200A

def fields (text : List Char) : List (List Char) :=
  (text.splitOnP isSpace).filter (fun word => !word.isEmpty)

def cutAt (separator : Char) (text : List Char) : List Char × Option (List Char) :=
  (text.takeWhile (· ≠ separator),
    if separator ∈ text then some (text.dropWhile (· ≠ separator)).tail else none)

def stepOf (text : Option (List Char)) : Int :=
  match text.bind Strconv.atoi with
  | some s => if 0 < s then s else 1
  | none => 1

def boundsOf (base : List Char) (min max : Int) : Option (Int × Int) :=
  if base = ['*'] then some (min, max)
  else
    match (cutAt '-' base).2 with
    | some last => do return (← Strconv.atoi (cutAt '-' base).1, ← Strconv.atoi last)
    | none => (Strconv.atoi base).map (fun v => (v, v))

def matchPart (part value : List Char) (min max : Int) : Bool :=
  match boundsOf (cutAt '/' part).1 min max, Strconv.atoi value with
  | some (lo, hi), some v =>
    if v < lo || v > hi then false else (v - lo).tmod (stepOf (cutAt '/' part).2) = 0
  | _, _ => false

def fieldMatch (field value : List Char) (min max : Int) : Bool :=
  if field = ['*'] then true
  else (field.splitOn ',').any (fun part => matchPart part value min max)

structure Civil where
  minute : Nat
  hour : Nat
  day : Nat
  month : Nat
  weekday : Nat
  minute_le : minute ≤ 59
  hour_le : hour ≤ 23
  day_mem : 1 ≤ day ∧ day ≤ 31
  month_mem : 1 ≤ month ∧ month ≤ 12
  weekday_le : weekday ≤ 6

def matchesAt (expr : List Char) (t : Civil) : Bool :=
  match fields expr with
  | [minute, hour, dom, month, dow] =>
    fieldMatch minute (Strconv.itoa t.minute) 0 59 && fieldMatch hour (Strconv.itoa t.hour) 0 23 &&
      fieldMatch dom (Strconv.itoa t.day) 1 31 && fieldMatch month (Strconv.itoa t.month) 1 12 &&
      fieldMatch dow (if t.weekday = 0 then ['7'] else Strconv.itoa t.weekday) 0 7
  | _ => false

structure Numeral where
  text : List Char
  filled : text ≠ []
  digits : ∀ c ∈ text, c.isDigit = true
  fits : text.foldl (fun n c => n * 10 + (c.toNat - '0'.toNat)) 0 < 2 ^ 63

variable (n : Numeral)

def Numeral.value : Nat :=
  n.text.foldl (fun n c => n * 10 + (c.toNat - '0'.toNat)) 0

inductive Part where
  | value (n : Numeral)
  | span (bounds : Option (Numeral × Numeral)) (step : Option { s : Numeral // 1 ≤ s.value })

def Part.base : Part → List Char
  | .value n => n.text
  | .span none _ => ['*']
  | .span (some (a, b)) _ => a.text ++ '-' :: b.text

def Part.steps : Part → Option { s : Numeral // 1 ≤ s.value }
  | .value _ => none
  | .span _ step => step

def Part.text (part : Part) : List Char :=
  part.base ++ part.steps.elim [] (fun s => '/' :: s.val.text)

def Part.bounds (min max : Nat) : Part → Nat × Nat
  | .value n => (n.value, n.value)
  | .span none _ => (min, max)
  | .span (some (a, b)) _ => (a.value, b.value)

variable (part : Part)

def Part.step : Nat := part.steps.elim 1 (fun s => s.val.value)

def progression (first last step : Nat) : Set Nat := {v | v ≤ last ∧ ∃ k, v = first + k * step}

def Part.denotes (min max : Nat) (part : Part) : Set Nat :=
  progression (part.bounds min max).1 (part.bounds min max).2 part.step

structure Field where
  parts : List Part
  filled : parts ≠ []

def Field.text (field : Field) : List Char := [','].intercalate (field.parts.map Part.text)

def Field.denotes (min max : Nat) (field : Field) : Set Nat :=
  {v | ∃ part ∈ field.parts, v ∈ part.denotes min max}

theorem cutAt_of_notMem {separator : Char} {text : List Char} (absent : separator ∉ text) :
    cutAt separator text = (text, none) := by
  have apart : ∀ c ∈ text, decide (c ≠ separator) = true := by
    intro c member
    exact decide_eq_true (fun same => absent (same ▸ member))
  simp only [cutAt, List.takeWhile_eq_self_iff.mpr apart, if_neg absent]

theorem cutAt_append {separator : Char} {before : List Char} (absent : separator ∉ before)
    (after : List Char) :
    cutAt separator (before ++ separator :: after) = (before, some after) := by
  have apart : ∀ c ∈ before, decide (c ≠ separator) = true := by
    intro c member
    exact decide_eq_true (fun same => absent (same ▸ member))
  have member : separator ∈ before ++ separator :: after := by simp
  simp only [cutAt, if_pos member, List.takeWhile_append_of_pos apart,
    List.dropWhile_append_of_pos apart]
  simp

theorem Numeral.notMem {c : Char} (sign : c.isDigit = false) : c ∉ n.text := by
  intro member
  rw [n.digits c member] at sign
  cases sign

theorem Numeral.atoi : Strconv.atoi n.text = some (n.value : Int) := by
  have unsigned : Strconv.sign n.text = (false, n.text) := by
    obtain ⟨c, rest, same⟩ := List.exists_cons_of_ne_nil n.filled
    have digit : c.isDigit = true := n.digits c (same ▸ List.mem_cons_self)
    rw [same]
    exact Strconv.sign_of_digit digit rest
  have filled : n.text.isEmpty = false := List.isEmpty_eq_false_iff.mpr n.filled
  have digits : n.text.all Char.isDigit = true := List.all_eq_true.mpr n.digits
  have fits : n.value < 2 ^ 63 := n.fits
  have within :
      (decide (-2 ^ 63 ≤ (n.value : Int)) && decide ((n.value : Int) < 2 ^ 63)) = true := by
    rw [Bool.and_eq_true, decide_eq_true_eq, decide_eq_true_eq]
    omega
  unfold Strconv.atoi
  simp only [unsigned, filled, digits, Bool.not_true, Bool.or_self, Bool.false_eq_true, ↓reduceIte]
  exact if_pos within

theorem Part.notMem_base {c : Char} (sign : c.isDigit = false) (apart : c ≠ '*' ∧ c ≠ '-') :
    c ∉ part.base := by
  match part with
  | .value n => exact n.notMem sign
  | .span none _ => simpa [base] using apart.1
  | .span (some (a, b)) _ => simp [base, a.notMem sign, b.notMem sign, apart.2]

theorem Part.comma_notMem : ',' ∉ part.text := by
  have base : ',' ∉ part.base := part.notMem_base (by decide) (by decide)
  cases stepped : part.steps with
  | none => simpa [text, stepped] using base
  | some s => simp [text, stepped, base, s.val.notMem (show ','.isDigit = false by decide)]

theorem Part.cutAt_text :
    (cutAt '/' part.text).1 = part.base ∧ stepOf (cutAt '/' part.text).2 = part.step := by
  have base : '/' ∉ part.base := part.notMem_base (by decide) (by decide)
  unfold text step
  cases part.steps with
  | none => simp [cutAt_of_notMem base, stepOf]
  | some s =>
    have positive : 0 < (s.val.value : Int) := Int.natCast_pos.mpr s.property
    simp only [Option.elim_some, cutAt_append base, true_and]
    simp only [stepOf, Option.bind_some, s.val.atoi, if_pos positive]

theorem Part.boundsOf_base (min max : Nat) :
    boundsOf part.base min max =
      some (((part.bounds min max).1 : Int), ((part.bounds min max).2 : Int)) := by
  have star : ∀ n : Numeral, '*' ∉ n.text := fun n => n.notMem (by decide)
  have dash : ∀ n : Numeral, '-' ∉ n.text := fun n => n.notMem (by decide)
  match part with
  | .span none _ => simp [base, bounds, boundsOf]
  | .value n =>
    have other : n.text ≠ ['*'] := fun same => star n (same ▸ List.mem_cons_self)
    simp [base, bounds, boundsOf, other, cutAt_of_notMem (dash n), n.atoi]
  | .span (some (a, b)) _ =>
    have other : a.text ++ '-' :: b.text ≠ ['*'] := by
      intro same
      have member : '-' ∈ ['*'] := same ▸ by simp
      simp at member
    simp [base, bounds, boundsOf, other, cutAt_append (dash a), a.atoi, b.atoi]

theorem mem_progression (first last step v : Nat) :
    v ∈ progression first last step ↔ first ≤ v ∧ v ≤ last ∧ step ∣ v - first := by
  constructor
  · rintro ⟨bound, k, rfl⟩
    exact ⟨Nat.le_add_right _ _, bound, by simp only [Nat.add_sub_cancel_left, Nat.dvd_mul_left]⟩
  · rintro ⟨above, bound, k, apart⟩
    exact ⟨bound, k, by rw [Nat.mul_comm k, ← apart]; omega⟩

variable {v : Nat} {min max : Nat}

theorem matchPart_iff (fits : v < 2 ^ 63) :
    matchPart part.text (Strconv.itoa v) min max = true ↔ v ∈ part.denotes min max := by
  have read : Strconv.atoi (Strconv.itoa v) = some (v : Int) :=
    Strconv.atoi_itoa ⟨by omega, by omega⟩
  rw [Part.denotes, mem_progression]
  generalize bounds : part.bounds min max = b
  unfold matchPart
  simp only [part.cutAt_text.1, part.cutAt_text.2, part.boundsOf_base, bounds, read]
  by_cases inside : b.1 ≤ v ∧ v ≤ b.2
  · have within : ¬ ((decide ((v : Int) < b.1) || decide ((v : Int) > b.2)) = true) := by
      simp only [Bool.or_eq_true, decide_eq_true_eq]
      omega
    have distance : (v : Int) - b.1 = ((v - b.1 : Nat) : Int) := by omega
    rw [if_neg within, distance, decide_eq_true_eq, ← Int.dvd_iff_tmod_eq_zero,
      Int.natCast_dvd_natCast]
    exact ⟨fun divides => ⟨inside.1, inside.2, divides⟩, fun all => all.2.2⟩
  · have outside : (decide ((v : Int) < b.1) || decide ((v : Int) > b.2)) = true := by
      simp only [Bool.or_eq_true, decide_eq_true_eq]
      omega
    rw [if_pos outside]
    exact ⟨nofun, fun all => absurd ⟨all.1, all.2.1⟩ inside⟩

theorem fieldMatch_eq_any (field : List Char) (fits : v < 2 ^ 63) (range : min ≤ v ∧ v ≤ max) :
    fieldMatch field (Strconv.itoa v) min max =
      (field.splitOn ',').any (fun part => matchPart part (Strconv.itoa v) min max) := by
  unfold fieldMatch
  split
  · rename_i star
    have every : matchPart (Part.span none none).text (Strconv.itoa v) min max = true :=
      (matchPart_iff _ fits).mpr
        ⟨range.2, v - min, by simp [Part.bounds, Part.step, Part.steps, range.1]⟩
    rw [star]
    change true = (matchPart (Part.span none none).text (Strconv.itoa v) min max || false)
    rw [every]
    rfl
  · rfl

theorem fieldMatch_iff (field : Field) (fits : v < 2 ^ 63) (range : min ≤ v ∧ v ≤ max) :
    fieldMatch field.text (Strconv.itoa v) min max = true ↔ v ∈ field.denotes min max := by
  have parts : field.text.splitOn ',' = field.parts.map Part.text := by
    apply List.splitOn_intercalate ','
    · intro text member
      obtain ⟨part, _, rfl⟩ := List.mem_map.mp member
      exact part.comma_notMem
    · simpa using field.filled
  rw [fieldMatch_eq_any _ fits range, parts]
  simp only [List.any_map, List.any_eq_true, Function.comp_apply, matchPart_iff _ fits]
  rfl

/-- A line with an open weekday matches the times whose minute, hour, day and month its fields
stand for. -/
theorem matchesAt_iff_denotes (expr : List Char) (minute hour dom month : Field)
    (five : fields expr = [minute.text, hour.text, dom.text, month.text, ['*']]) (t : Civil) :
    matchesAt expr t = true ↔
      t.minute ∈ minute.denotes 0 59 ∧ t.hour ∈ hour.denotes 0 23 ∧ t.day ∈ dom.denotes 1 31 ∧
        t.month ∈ month.denotes 1 12 := by
  have minutes := t.minute_le
  have hours := t.hour_le
  have days := t.day_mem
  have months := t.month_mem
  rw [← fieldMatch_iff minute (by omega) ⟨Nat.zero_le _, minutes⟩,
    ← fieldMatch_iff hour (by omega) ⟨Nat.zero_le _, hours⟩, ← fieldMatch_iff dom (by omega) days,
    ← fieldMatch_iff month (by omega) months]
  have weekday : ∀ value, fieldMatch ['*'] value 0 7 = true := fun _ => rfl
  simp only [matchesAt, five, weekday, Bool.and_true, Bool.and_eq_true, and_assoc]
  rfl

def Numeral.digit (d : Fin 10) : Numeral where
  text := [Nat.digitChar d]
  filled := List.cons_ne_nil _ _
  digits := List.forall_mem_singleton.mpr (Nat.isDigit_digitChar.trans (decide_eq_true d.isLt))
  fits := by revert d; decide +kernel

def Part.alone : Field := ⟨[part], List.cons_ne_nil _ _⟩

def lastMinute : Civil where
  minute := 59
  hour := 23
  day := 31
  month := 12
  weekday := 0
  minute_le := Nat.le_refl _
  hour_le := Nat.le_refl _
  day_mem := ⟨by decide, by decide⟩
  month_mem := ⟨by decide, by decide⟩
  weekday_le := by decide

theorem lastMinute_matchesAt_iff :
    let any := Part.span none none
    let seventh := Part.span none (some ⟨Numeral.digit 7, by decide⟩)
    fields "*/7  *\t* 5 *".toList =
        [seventh.alone.text, any.alone.text, any.alone.text, (Part.value (.digit 5)).alone.text,
          ['*']] ∧
      (matchesAt "*/7  *\t* 5 *".toList lastMinute = true ↔
        59 ∈ seventh.alone.denotes 0 59 ∧ 23 ∈ any.alone.denotes 0 23 ∧
          31 ∈ any.alone.denotes 1 31 ∧ 12 ∈ (Part.value (.digit 5)).alone.denotes 1 12) :=
  ⟨by decide, matchesAt_iff_denotes _ _ _ _ _ (by decide) lastMinute⟩

def OnWeekday (days : Set Nat) (t : Civil) : Prop :=
  t.weekday ∈ days ∨ t.weekday = 0 ∧ 7 ∈ days

/-- A line with a weekday field alone has its meaning exactly on the days that are no Sunday, and on
Sundays if the field does not name Sunday by 0 alone. -/
theorem matchesAt_weekday_iff (expr : List Char) (dow : Field)
    (five : fields expr = [['*'], ['*'], ['*'], ['*'], dow.text]) (t : Civil) :
    (matchesAt expr t = true ↔ OnWeekday (dow.denotes 0 7) t) ↔
      (t.weekday = 0 → 0 ∈ dow.denotes 0 7 → 7 ∈ dow.denotes 0 7) := by
  have weekdays := t.weekday_le
  have star : ∀ value min max, fieldMatch ['*'] value min max = true := fun _ _ _ => rfl
  simp only [matchesAt, five, star, Bool.true_and, OnWeekday]
  by_cases sunday : t.weekday = 0
  · have seven := @fieldMatch_iff 7 0 7 dow (by decide) (by decide)
    have text : Strconv.itoa (7 : Nat) = ['7'] := by decide
    rw [text] at seven
    simp only [sunday, if_true, true_and, forall_const]
    rw [show fieldMatch dow.text ['7'] 0 7 = true ↔ _ from seven]
    tauto
  · have day := @fieldMatch_iff t.weekday 0 7 dow (by omega) (by omega)
    simp only [sunday, if_false, false_and, or_false, false_implies, iff_true]
    exact day

theorem sunday_by_zero_missed :
    fields "* * * * 0".toList = [['*'], ['*'], ['*'], ['*'], (Part.value (.digit 0)).alone.text] ∧
      lastMinute.weekday = 0 ∧ matchesAt "* * * * 0".toList lastMinute = false ∧
      OnWeekday ((Part.value (.digit 0)).alone.denotes 0 7) lastMinute := by
  refine ⟨by decide, rfl, by decide, Or.inl ?_⟩
  exact ⟨Part.value (.digit 0), List.mem_cons_self, Nat.le_refl _, 0, rfl⟩

theorem matchesAt_weekday_iff_sevenths :
    let sevenths := Part.span none (some ⟨Numeral.digit 7, by decide⟩)
    fields "* * * * */7".toList = [['*'], ['*'], ['*'], ['*'], sevenths.alone.text] ∧
      ((matchesAt "* * * * */7".toList lastMinute = true ↔
          OnWeekday (sevenths.alone.denotes 0 7) lastMinute) ↔
        (lastMinute.weekday = 0 → 0 ∈ sevenths.alone.denotes 0 7 →
          7 ∈ sevenths.alone.denotes 0 7)) :=
  ⟨by decide, matchesAt_weekday_iff _ _ (by decide) lastMinute⟩

end Porter.Cron
