import Mathlib.Data.List.Basic

/-!
# File paths

Go's `path/filepath` on Unix.
-/
namespace Porter.Go

def Plain (name : String) : Prop := name ≠ "" ∧ name ≠ "." ∧ name ≠ ".."

instance (name : String) : Decidable (Plain name) := inferInstanceAs (Decidable (_ ∧ _ ∧ _))

@[ext]
structure Path where
  rooted : Bool
  names : List String

variable (p : Path) (rooted : Bool) (kept : List String)

namespace Path

def reduce (rooted : Bool) : List String → List String → List String
  | kept, [] => kept.reverse
  | kept, name :: rest =>
    if name = "" ∨ name = "." then reduce rooted kept rest
    else if name = ".." then
      match kept with
      | [] => if rooted then reduce rooted [] rest else reduce rooted [".."] rest
      | last :: earlier =>
        if last = ".." then reduce rooted (".." :: kept) rest else reduce rooted earlier rest
    else reduce rooted (name :: kept) rest

def clean (text : String) : Path :=
  let rooted := text.toList.head? = some '/'
  ⟨rooted, reduce rooted [] ((text.toList.splitOn '/').map String.ofList)⟩

def render : String :=
  if p.names = [] then (if p.rooted then "/" else ".")
  else (if p.rooted then "/" else "") ++ "/".intercalate p.names

def join (q : Path) : Path := ⟨p.rooted, reduce p.rooted [] (p.names ++ q.names)⟩

def base : String := p.names.getLast?.getD (if p.rooted then "/" else ".")

def dir : Path := { p with names := p.names.dropLast }

theorem reduce_cons_plain {name : String} (plain : Plain name) (rest : List String) :
    reduce rooted kept (name :: rest) = reduce rooted (name :: kept) rest := by
  conv_lhs => unfold reduce
  rw [if_neg (by simp [plain.1, plain.2.1]), if_neg plain.2.2]

variable {names : List String}

theorem reduce_append_plain (plain : ∀ name ∈ names, Plain name) (rest : List String) :
    reduce rooted kept (names ++ rest) = reduce rooted (names.reverse ++ kept) rest := by
  induction names generalizing kept with
  | nil => rfl
  | cons name more recurse =>
    rw [List.cons_append, reduce_cons_plain rooted kept (plain name List.mem_cons_self),
      recurse (name :: kept) fun other member => plain other (List.mem_cons_of_mem _ member),
      List.reverse_cons, List.append_assoc, List.singleton_append]

/-- Names that go up and then only down; a rooted path does not go up. -/
def Cleaned (names : List String) : Prop :=
  ∃ ups down, names = List.replicate ups ".." ++ down ∧ (∀ name ∈ down, Plain name) ∧
    (rooted = true → ups = 0)

theorem cleaned_concat {rooted : Bool} {name : String} (plain : Plain name)
    (cleaned : Cleaned rooted names) : Cleaned rooted (names ++ [name]) := by
  obtain ⟨ups, down, rfl, plains, none⟩ := cleaned
  refine ⟨ups, down ++ [name], List.append_assoc .., ?_, none⟩
  intro other member
  rcases List.mem_append.mp member with old | new
  · exact plains other old
  · rw [List.mem_singleton.mp new]
    exact plain

theorem cleaned_concat_cases {rooted : Bool} {last : String}
    (cleaned : Cleaned rooted (names ++ [last])) :
    Plain last ∧ Cleaned rooted names ∨
      last = ".." ∧ rooted = false ∧ ∃ ups, names = List.replicate ups ".." := by
  obtain ⟨ups, down, same, plains, none⟩ := cleaned
  rcases List.eq_nil_or_concat down with rfl | ⟨front, final, rfl⟩
  · rw [List.append_nil] at same
    cases ups with
    | zero => simp at same
    | succ ups =>
      rw [List.replicate_succ', List.append_singleton_inj] at same
      refine Or.inr ⟨same.2, ?_, ups, same.1⟩
      cases rooted with
      | true => exact absurd (none rfl) (Nat.succ_ne_zero ups)
      | false => rfl
  · rw [List.concat_eq_append, ← List.append_assoc, List.append_singleton_inj] at same
    obtain ⟨rfl, rfl⟩ := same
    exact Or.inl ⟨plains last (by simp), ups, front, rfl,
      fun name member => plains name (by simp [member]), none⟩

theorem cleaned_reduce (rest : List String) (cleaned : Cleaned rooted kept.reverse) :
    Cleaned rooted (reduce rooted kept rest) := by
  induction rest generalizing kept with
  | nil => exact cleaned
  | cons name rest recurse =>
    unfold reduce
    split
    · exact recurse kept cleaned
    · rename_i undotted
      split
      · split
        · split
          · exact recurse [] cleaned
          · rename_i relative
            exact recurse [".."] ⟨1, [], rfl, nofun, fun rooted => absurd rooted relative⟩
        · rename_i last earlier
          have known := cleaned
          rw [List.reverse_cons] at known
          split
          · rename_i up
            apply recurse
            rcases cleaned_concat_cases known with ⟨plain, -⟩ | ⟨-, relative, ups, same⟩
            · exact absurd up plain.2.2
            · refine ⟨ups + 2, [], ?_, nofun, fun rooted => absurd (relative ▸ rooted) nofun⟩
              rw [List.reverse_cons, List.reverse_cons, same, up, List.append_nil,
                ← List.replicate_succ', ← List.replicate_succ']
          · rename_i down
            apply recurse
            rcases cleaned_concat_cases known with ⟨-, shorter⟩ | ⟨up, -⟩
            · exact shorter
            · exact absurd up down
      · rename_i ahead
        rw [not_or] at undotted
        apply recurse (name :: kept)
        rw [List.reverse_cons]
        exact cleaned_concat ⟨undotted.1, undotted.2, ahead⟩ cleaned

theorem cleaned_clean (text : String) : Cleaned (clean text).rooted (clean text).names := by
  unfold clean
  exact cleaned_reduce _ [] _ ⟨0, [], rfl, nofun, fun _ => rfl⟩

theorem Cleaned.plain {rooted : Bool} (cleaned : Cleaned rooted names)
    (level : names.head? ≠ some "..") : ∀ name ∈ names, Plain name := by
  obtain ⟨ups, down, rfl, plains, -⟩ := cleaned
  cases ups with
  | zero => exact plains
  | succ ups => exact absurd rfl level

theorem reduce_ups (ups kept : Nat) (rest : List String) :
    reduce false (List.replicate kept "..") (List.replicate ups ".." ++ rest) =
      reduce false (List.replicate (kept + ups) "..") rest := by
  induction ups generalizing kept with
  | zero => rfl
  | succ ups recurse =>
    have next := recurse (kept + 1)
    rw [Nat.add_right_comm] at next
    refine Eq.trans ?_ next
    cases kept <;> simp [reduce, List.replicate_succ]

theorem join_names {p : Path} (cleaned : Cleaned p.rooted p.names) (q : Path)
    (plain : ∀ name ∈ q.names, Plain name) : (p.join q).names = p.names ++ q.names := by
  obtain ⟨rooted, names⟩ := p
  obtain ⟨ups, down, rfl, plains, none⟩ := cleaned
  have both := reduce_append_plain rooted (List.replicate ups "..")
    (List.forall_mem_append.mpr ⟨plains, plain⟩) []
  rw [List.append_nil] at both
  have kept : reduce rooted [] (List.replicate ups ".." ++ (down ++ q.names)) =
      reduce rooted (List.replicate ups "..") (down ++ q.names) := by
    cases rooted with
    | true => rw [none rfl]; rfl
    | false => exact (reduce_ups ups 0 _).trans (by rw [Nat.zero_add])
  change reduce rooted [] (List.replicate ups ".." ++ down ++ q.names) = _
  rw [List.append_assoc, kept, both]
  simp [reduce]

end Path

example : (Path.clean "a//./b/../../../c/").render = "../c" := by decide +kernel
example : (Path.clean "/../a").render = "/a" := by decide +kernel

end Porter.Go
