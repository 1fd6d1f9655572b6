import Mathlib.Data.List.AList
import Porter.Go.Strings

/-!
# The configuration file

`ParseTOML` of `internal/config/toml.go`, which reads a subset of TOML line by line, over the bytes
of a text.
-/
namespace Porter.Config

open Go

abbrev Text := List UInt8

abbrev quote : UInt8 := 0x22

abbrev escape : UInt8 := 0x5C

abbrev hash : UInt8 := 0x23

abbrev Section := AList (fun _ : Text => Text)

inductive TomlError where
  | unterminatedHeader (line : Text)
  | emptySection
  | expectedPair (line : Text)
  | emptyKey

/-- The loop of `stripTOMLComment`; its two bytes are runes of their own wherever they stand. -/
def stripFrom (inQuotes : Bool) : Text → Text
  | [] => []
  | b :: rest =>
    if b = quote then b :: stripFrom (!inQuotes) rest
    else if b = hash && !inQuotes then []
    else b :: stripFrom inQuotes rest

def stripTOMLComment (line : Text) : Text := stripFrom false line

def replacePair (first second new : UInt8) : Text → Text
  | a :: b :: rest =>
    if a = first ∧ b = second then new :: replacePair first second new rest
    else a :: replacePair first second new (b :: rest)
  | rest => rest

def unquoteTOML (v : Text) : Text :=
  if v.length ≥ 2 ∧ v.head? = some quote ∧ v.getLast? = some quote then
    replacePair escape escape escape (replacePair escape quote quote v.tail.dropLast)
  else v

def parseLine (out : AList (fun _ : Text => Section)) (sect raw : Text) :
    Except TomlError (AList (fun _ : Text => Section) × Text) :=
  let line := trimSpace (stripTOMLComment raw)
  if line = [] then .ok (out, sect)
  else if hasPrefix line (ascii "[") then
    if !hasSuffix line (ascii "]") then .error (.unterminatedHeader line)
    else
      let name := trimSpace line.tail.dropLast
      if name = [] then .error .emptySection
      else .ok (if name ∈ out then out else out.insert name ∅, name)
  else
    match cut line 0x3D with
    | none => .error (.expectedPair line)
    | some (key, val) =>
      let key := trimSpace key
      if key = [] then .error .emptyKey
      else
        -- The current section is always one of the map.
        let entries := ((out.lookup sect).getD ∅).insert key (unquoteTOML (trimSpace val))
        .ok (out.insert sect entries, sect)

def parseTOML (text : Text) : Except (Nat × TomlError) (AList (fun _ : Text => Section)) :=
  ((split text 0x0A).zipIdx.foldlM
    (fun state raw => (parseLine state.1 state.2 raw.1).mapError (raw.2 + 1, ·))
    (AList.singleton [] ∅, [])).map Prod.fst

def escaped : Text → Text
  | [] => []
  | b :: rest =>
    if b = escape ∨ b = quote then escape :: b :: escaped rest else b :: escaped rest

theorem mem_escaped {b : UInt8} {s : Text} (member : b ∈ escaped s) : b = escape ∨ b ∈ s := by
  induction s with
  | nil => exact Or.inr member
  | cons c rest recurse => grind [escaped]

theorem replacePair_cons {first second new a : UInt8} {rest : Text}
    (other : ¬(a = first ∧ rest.head? = some second)) :
    replacePair first second new (a :: rest) = a :: replacePair first second new rest := by
  cases rest with
  | nil => rfl
  | cons b rest => grind [replacePair]

theorem replacePair_escaped (s : Text) :
    replacePair escape escape escape (replacePair escape quote quote (escaped s)) = s := by
  induction s with
  | nil => rfl
  | cons b rest recurse =>
    have first : (escaped rest).head? ≠ some quote := by
      cases rest with
      | nil => simp [escaped]
      | cons c rest => grind [escaped]
    have apart : escape ≠ quote := by decide
    unfold escaped
    split
    next special =>
      rcases special with rfl | rfl
      · have second : ¬(escape = escape ∧ (escape :: escaped rest).head? = some quote) :=
          fun both => apart (Option.some.inj both.2)
        rw [replacePair_cons second, replacePair_cons (fun both => first both.2), replacePair,
          if_pos ⟨rfl, rfl⟩, recurse]
      · rw [replacePair, if_pos ⟨rfl, rfl⟩, replacePair_cons (fun both => apart both.1.symm),
          recurse]
    next plain =>
      have other := not_or.mp plain
      rw [replacePair_cons (fun both => other.1 both.1),
        replacePair_cons (fun both => other.1 both.1), recurse]

theorem unquoteTOML_escaped (s : Text) : unquoteTOML (quote :: (escaped s ++ [quote])) = s := by
  have last : (quote :: (escaped s ++ [quote])).getLast? = some quote := by
    rw [← List.cons_append, List.getLast?_concat]
  unfold unquoteTOML
  rw [if_pos ⟨by simp, rfl, last⟩, List.tail_cons, List.dropLast_concat, replacePair_escaped]

def quotedAfter (inQuotes : Bool) (s : Text) : Bool :=
  s.foldl (fun quoted b => if b = quote then !quoted else quoted) inQuotes

theorem quotedAfter_iff (inQuotes : Bool) (s : Text) :
    quotedAfter inQuotes s = true ↔ (inQuotes = true ↔ s.count quote % 2 = 0) := by
  unfold quotedAfter
  induction s generalizing inQuotes with
  | nil => simp
  | cons b rest recurse => grind

theorem stripFrom_append {inQuotes : Bool} {s : Text} (rest : Text)
    (kept : ∀ front later, s = front ++ hash :: later → quotedAfter inQuotes front = true) :
    stripFrom inQuotes (escaped s ++ rest) =
      escaped s ++ stripFrom (quotedAfter inQuotes s) rest := by
  induction s generalizing inQuotes with
  | nil => rfl
  | cons b s recurse =>
    have later : stripFrom (if b = quote then !inQuotes else inQuotes) (escaped s ++ rest) = _ :=
      recurse (fun front later split => kept (b :: front) later (by rw [split]; rfl))
    have here : b = hash → inQuotes = true := fun same => kept [] s (by rw [same]; rfl)
    grind [escaped, stripFrom, quotedAfter]

theorem stripFrom_plain {inQuotes : Bool} {text : Text} (unquoted : quote ∉ text)
    (uncommented : hash ∉ text) (rest : Text) :
    stripFrom inQuotes (text ++ rest) = text ++ stripFrom inQuotes rest := by
  induction text with
  | nil => rfl
  | cons b text recurse => grind [stripFrom]

def entryLine (key s tail : Text) : Text :=
  key ++ (ascii " = " ++ quote :: (escaped s ++ quote :: tail))

/-- The value is not cut at a `#`, and a comment behind it is. -/
structure Recognised (s tail : Text) : Prop where
  hashes : ∀ front later, s = front ++ hash :: later → front.count quote % 2 = 0
  comment : tail = [] ∨ ∃ k text, tail = List.replicate k 0x20 ++ hash :: text ∧
    s.count quote % 2 = 0

variable {key s tail : Text}

theorem stripTOMLComment_entryLine (letters : ∀ b ∈ key, b ∈ word)
    (recognised : Recognised s tail) :
    ∃ k, stripTOMLComment (entryLine key s tail) = entryLine key s [] ++ List.replicate k 0x20 := by
  have plain : ∀ b ∈ word, b ≠ quote ∧ b ≠ hash := by decide +kernel
  have kept : ∀ front later, s = front ++ hash :: later → quotedAfter true front = true := by
    intro front later split
    rw [quotedAfter_iff]
    simp [recognised.hashes front later split]
  have ends : ∃ k, stripFrom (!quotedAfter true s) tail = List.replicate k 0x20 := by
    rcases recognised.comment with rfl | ⟨k, text, rfl, even⟩
    · exact ⟨0, rfl⟩
    · have inside : quotedAfter true s = true := by
        rw [quotedAfter_iff]
        simp [even]
      refine ⟨k, ?_⟩
      rw [inside, stripFrom_plain (by grind) (by grind)]
      simp [stripFrom, show hash ≠ quote by decide]
  obtain ⟨k, ends⟩ := ends
  refine ⟨k, ?_⟩
  unfold stripTOMLComment entryLine
  rw [stripFrom_plain (by grind) (by grind), stripFrom_plain (by decide) (by decide), stripFrom,
    if_pos rfl, Bool.not_false, stripFrom_append _ kept, stripFrom, if_pos rfl, ends]
  simp

theorem solid_quote : Solid quote := by
  unfold Solid
  decide

theorem trimSpace_entryLine (named : key ≠ []) (letters : ∀ b ∈ key, b ∈ word) (k : Nat) :
    trimSpace (entryLine key s [] ++ List.replicate k 0x20) = entryLine key s [] := by
  obtain ⟨first, rest, rfl⟩ := List.exists_cons_of_ne_nil named
  have solid := solid_word _ (letters first List.mem_cons_self)
  refine trimSpace_padded (entryLine (first :: rest) s []) 0 k (solid.front _) ?_
  have back := solid_quote.back (first :: rest ++ (ascii " = " ++ quote :: escaped s))
  simpa [entryLine] using back

theorem parseLine_entryLine (named : key ≠ []) (letters : ∀ b ∈ key, b ∈ word)
    (recognised : Recognised s tail) :
    parseLine (AList.singleton [] ∅) [] (entryLine key s tail) =
      .ok (AList.singleton [] (AList.singleton key s), []) := by
  have plain : ∀ b ∈ word, b ≠ 0x3D ∧ b ≠ 0x5B := by decide +kernel
  have ⟨k, stripped⟩ := stripTOMLComment_entryLine letters recognised
  have value : trimSpace (0x20 :: quote :: (escaped s ++ [quote])) =
      quote :: (escaped s ++ [quote]) := by
    have padded := trimSpace_padded (quote :: (escaped s ++ [quote])) 1 0 (solid_quote.front _)
      (solid_quote.back (quote :: escaped s))
    rwa [List.replicate_zero, List.append_nil] at padded
  have stem : trimSpace (key ++ [0x20]) = key := by
    refine trimSpace_padded key 0 1 ?_ (trimmed_word named letters).back
    obtain ⟨first, rest, rfl⟩ := List.exists_cons_of_ne_nil named
    exact (solid_word first (letters first List.mem_cons_self)).front _
  have parts : cut (entryLine key s []) 0x3D =
      some (key ++ [0x20], 0x20 :: quote :: (escaped s ++ [quote])) := by
    have absent : (0x3D : UInt8) ∉ key ++ [0x20] := by grind
    have found := cut_append absent (0x20 :: quote :: (escaped s ++ [quote]))
    rwa [List.append_assoc] at found
  have header : ¬hasPrefix (entryLine key s []) (ascii "[") = true := by
    obtain ⟨first, rest, rfl⟩ := List.exists_cons_of_ne_nil named
    intro starts
    have same := (List.cons_prefix_cons.mp (List.isPrefixOf_iff_prefix.mp starts)).1
    exact (plain first (letters first List.mem_cons_self)).2 same.symm
  unfold parseLine
  simp only
  rw [stripped, trimSpace_entryLine named letters, if_neg (by simp [entryLine]), if_neg header,
    parts]
  simp only
  rw [stem, if_neg named, value, unquoteTOML_escaped]
  rfl

end Porter.Config
