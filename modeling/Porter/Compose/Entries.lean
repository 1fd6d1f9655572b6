import Porter.Compose.TopoSort

/-!
# Entries of a service

What single lines make of the services `ParseCompose` returns, wherever in a text the lines stand.
-/
namespace Porter.Compose

open Go

variable {p q : Parser} {ordered : List ComposeService}

theorem map_eq_ok {ε α β : Type} {result : Except ε α} {f : α → β} {y : β} :
    result.map f = .ok y ↔ ∃ x, result = .ok x ∧ f x = y := by
  cases result <;> simp [Except.map]

theorem atLine_eq_ok {α : Type} {n : Nat} {result : Except (Stop LineError) α} {x : α} :
    atLine n result = .ok x ↔ result = .ok x := by
  cases result <;> simp [atLine, Except.mapError]

theorem parseCompose_sorted {yamlText : Text} (parsed : parseCompose yamlText = .ok ordered) :
    ∃ services order, declarations yamlText = .ok (services, order) ∧ Sorted services ordered := by
  unfold parseCompose at parsed
  have scanned := orderly_declarations yamlText
  cases read : declarations yamlText with
  | error stop => simp [read, bind, Except.bind] at parsed
  | ok found =>
    rw [read] at parsed scanned
    have sorting := orderly_topoSort scanned
    simp only [bind, Except.bind] at parsed
    cases sorted : topoSort found.1 found.2 with
    | error stop => grind
    | ok result =>
      rw [sorted] at sorting
      exact ⟨found.1, found.2, rfl, by grind [Orderly]⟩

theorem Sorted.mem {services : Services} (sorted : Sorted services ordered) {name : Text}
    {s : ComposeService} (found : services.lookup name = some s) : s ∈ ordered ∧ s.name = name := by
  have declared : name ∈ services := by
    rw [← AList.lookup_isSome, found]
    rfl
  have ⟨t, member, named⟩ := List.mem_map.mp (sorted.all name declared)
  have there := sorted.found t member
  grind

def webText : Text := ascii "services:\n  web:\n    image: a"

theorem exists_parseCompose (text : Text) (parses : (parseCompose text).toOption.isSome = true) :
    ∃ ordered, parseCompose text = .ok ordered := by
  cases read : parseCompose text with
  | error stop =>
    rw [read] at parses
    cases parses
  | ok ordered => exact ⟨ordered, rfl⟩

theorem line_ok {raw : Text} {next : Option Parser} (n m : Nat)
    (read : p.line n raw = .ok next) : p.line m raw = .ok next := by
  have same : ∀ {α : Type} (result : Except (Stop LineError) α) (f : α → Option Parser),
      (atLine n result).map f = .ok next → (atLine m result).map f = .ok next := by
    intro α result f
    cases result <;> simp [atLine, Except.mapError, Except.map]
  revert read
  unfold Parser.line
  simp only
  repeat' split
  all_goals first | exact id | exact same _ _ | exact nofun

theorem scan_ok {rest : List Text} (n m : Nat) (read : p.scan n rest = .ok q) :
    p.scan m rest = .ok q := by
  induction rest generalizing p n m with
  | nil => exact read
  | cons raw rest recurse => grind [Parser.scan, line_ok]

inductive Parser.After : Parser → List Text → Parser → Prop
  | nil {p : Parser} : After p [] p
  | cons {p next q : Parser} {n : Nat} {raw : Text} {rest : List Text}
      (read : p.line n raw = .ok (some next)) (later : After next rest q) : After p (raw :: rest) q

theorem Parser.After.scan_iff {front : List Text} (after : p.After front q) (n m : Nat)
    (rest : List Text) (r : Parser) :
    p.scan n (front ++ rest) = .ok r ↔ q.scan m rest = .ok r := by
  induction after generalizing n with
  | nil => exact ⟨scan_ok n m, scan_ok m n⟩
  | cons read _ recurse =>
    rw [List.cons_append, Parser.scan, line_ok _ n read]
    exact recurse (n + 1)

theorem Parser.After.trans {r : Parser} {front rest : List Text} (after : p.After front q)
    (later : q.After rest r) : p.After (front ++ rest) r := by
  induction after with
  | nil => exact later
  | cons read _ recurse => exact .cons read (recurse later)

abbrev trimmed (raw : Text) : Text := trimSpace (stripComment raw)

abbrev indentation (raw : Text) : Int :=
  (stripComment raw).length - (trimLeft (ascii " ") (stripComment raw)).length

variable {svc : ComposeService} {raw : Text}

structure Parser.Inside (p : Parser) (svc : ComposeService) (raw : Text) : Prop where
  filled : trimmed raw ≠ []
  inServices : p.inServices = true
  deeper : p.servicesIndent < indentation raw
  declared : p.svcIndent ≠ -1
  apart : indentation raw ≠ p.svcIndent
  current : p.svc = some svc

theorem Parser.Inside.line_eq (inside : p.Inside svc raw) (n : Nat) :
    p.line n raw =
      match p.within (indentation raw) with
      | some sect =>
        (atLine n (addItem svc (trimPrefix (trimmed raw) (ascii "- ")) sect)).map (some ∘ p.fill)
      | none => (p.setKey svc (indentation raw) (trimmed raw)).map some := by
  unfold Parser.line
  simp only
  rw [if_neg inside.filled, inside.inServices, decide_eq_false (Int.not_le.mpr inside.deeper),
    decide_eq_false inside.declared, decide_eq_false inside.apart, inside.current]
  rfl

structure Unrecognised (key : Text) : Prop where
  image : key ≠ ascii "image"
  restart : key ≠ ascii "restart"
  build : key ≠ ascii "build"
  opens : Section.ofKey key = none

def Parser.Ignores (p : Parser) (svc : ComposeService) (raw : Text) : Prop :=
  trimmed raw = [] ∨ (p.Inside svc raw ∧ p.within (indentation raw) = none ∧
    Unrecognised (trimSpace (cutAnyway (trimmed raw) 0x3A).1))

theorem Parser.Ignores.line (ignored : p.Ignores svc raw) (n : Nat) :
    p.line n raw = .ok (some p) := by
  rcases ignored with blank | ⟨inside, outside, unknown⟩
  · unfold Parser.line
    simp only
    rw [if_pos blank]
  · rw [inside.line_eq, outside]
    unfold Parser.setKey
    simp only [if_neg unknown.image, if_neg unknown.restart, if_neg unknown.build, unknown.opens]
    rfl

theorem Parser.Ignores.after {added : List Text} (ignored : ∀ raw ∈ added, p.Ignores svc raw) :
    p.After added p := by
  induction added with
  | nil => exact .nil
  | cons raw rest recurse =>
    exact .cons ((ignored raw List.mem_cons_self).line 0)
      (recurse fun other member => ignored other (List.mem_cons_of_mem raw member))

def behindWeb : Parser where
  inServices := true
  servicesIndent := 0
  svc := some (.new (ascii "web"))
  svcIndent := 2
  sect := none
  sectionIndent := -1
  services := AList.singleton (ascii "web") (.new (ascii "web"))
  order := [ascii "web"]

theorem after_behindWeb :
    Parser.start.After [ascii "services:", ascii "  web:"] behindWeb := by
  have first : Parser.start.line 0 (ascii "services:") =
      .ok (some { Parser.start with inServices := true, servicesIndent := 0 }) := rfl
  exact .cons first (.cons (n := 1) rfl .nil)

/-- A name of word characters, and a value without quotes, comments and white space at its ends. -/
structure Entry (k v : Text) : Prop where
  named : k ≠ []
  word : ∀ b ∈ k, b ∈ word
  value : Trimmed v
  bare : ∀ b ∈ v, b ∉ quotes ∧ b ≠ 0x23

/-- The spellings of an entry: an item of a list, or one of a mapping if the value has no `=`. -/
inductive Spelled (k v : Text) : Text → Prop
  | item : Spelled k v (ascii "- " ++ (k ++ 0x3D :: v))
  | mapping (absent : 0x3D ∉ v) : Spelled k v (k ++ 0x3A :: 0x20 :: v)

theorem stripComment_eq (absent : 0x23 ∉ raw) : stripComment raw = raw := by
  have head : ∀ rest : Text, rest.head? = some 0x23 → 0x23 ∈ rest := fun _ => List.mem_of_mem_head?
  unfold stripComment
  rw [if_neg (fun first => absent (head raw first))]
  induction raw with
  | nil => rfl
  | cons b rest recurse => grind [stripBehindSpace]

theorem trimmed_eq {text : Text} (bare : Trimmed text) (absent : 0x23 ∉ text) (n : Nat) :
    trimmed (List.replicate n 0x20 ++ text) = text ∧
      indentation (List.replicate n 0x20 ++ text) = n := by
  have outside : 0x23 ∉ List.replicate n 0x20 ++ text := by grind
  obtain ⟨b, rest, rfl⟩ := List.exists_cons_of_ne_nil bare.filled
  have first : b ≠ 0x20 := by
    rintro rfl
    exact bare.front [0x20] (by decide) (List.prefix_append [0x20] rest)
  have left : trimLeft (ascii " ") (List.replicate n 0x20 ++ b :: rest) = b :: rest := by
    have blanks : ∀ c ∈ List.replicate n (0x20 : UInt8), decide (c ∈ ascii " ") = true := by
      intro c member
      rw [List.eq_of_mem_replicate member]
      rfl
    unfold trimLeft
    rw [List.dropWhile_append_of_pos blanks, List.dropWhile_cons_of_neg]
    simpa [ascii, bytes] using first
  unfold trimmed indentation
  rw [stripComment_eq outside, left, List.length_append, List.length_replicate]
  exact ⟨bare.trimSpace n, by omega⟩

theorem trim_eq {cutset text : Text} (absent : ∀ b ∈ text, b ∉ cutset) :
    trim cutset text = text := by
  have stays : ∀ rest : Text, (∀ b ∈ rest, b ∉ cutset) →
      rest.dropWhile (fun b => b ∈ cutset) = rest := by
    intro rest outside
    cases rest with
    | nil => rfl
    | cons b rest =>
      exact List.dropWhile_cons_of_neg (by simpa using outside b List.mem_cons_self)
  unfold trim
  rw [stays text absent, stays _ (by grind), List.reverse_reverse]

variable {k v : Text}

theorem Spelled.read {text : Text} (spelled : Spelled k v text) (entry : Entry k v) :
    Trimmed text ∧ 0x23 ∉ text ∧ parseKV (trimPrefix text (ascii "- ")) = .ok (k, v) := by
  have name : trimSpace k = k := (trimmed_word entry.named entry.word).trimSpace 0
  have plain : ∀ b ∈ word, b ∉ quotes ∧ b ≠ 0x23 ∧ b ≠ 0x3D ∧ b ≠ 0x3A ∧ b ≠ 0x2D := by
    decide +kernel
  have signs : (0x3D : UInt8) ∉ quotes ∧ (0x3A : UInt8) ∉ quotes ∧ (0x20 : UInt8) ∉ quotes := by
    decide
  have dashes : (0x23 : UInt8) ∉ ascii "- " := by decide
  have ⟨named, word, value, bare⟩ := entry
  cases spelled with
  | item =>
    have shown : trimSpace v = v := value.trimSpace 0
    refine ⟨⟨by simp, Solid.front (by unfold Solid; decide) _, ?_⟩, by grind, ?_⟩
    · rw [← List.append_assoc]
      exact value.back_append (by decide) _
    · show parseKV (k ++ 0x3D :: v) = .ok (k, v)
      unfold parseKV
      simp only
      rw [trim_eq (by grind), cut_append (by grind)]
      simp only
      rw [name, shown]
  | mapping absent =>
    have shown : trimSpace (0x20 :: v) = v := value.trimSpace 1
    have dash : trimPrefix (k ++ 0x3A :: 0x20 :: v) (ascii "- ") = k ++ 0x3A :: 0x20 :: v := by
      unfold trimPrefix
      rw [if_neg]
      intro starts
      obtain ⟨b, rest, rfl⟩ := List.exists_cons_of_ne_nil named
      have first := (List.cons_prefix_cons.mp (List.isPrefixOf_iff_prefix.mp starts)).1
      exact (plain b (word b List.mem_cons_self)).2.2.2.2 first.symm
    refine ⟨⟨by simp, ?_, ?_⟩, by grind, ?_⟩
    · obtain ⟨b, rest, rfl⟩ := List.exists_cons_of_ne_nil named
      exact (solid_word b (word b List.mem_cons_self)).front _
    · have back := value.back_append (b := 0x20) (by decide) (k ++ [0x3A])
      rwa [List.append_assoc] at back
    · rw [dash]
      unfold parseKV
      simp only
      rw [trim_eq (by grind), cut_eq_none (by grind), cut_append (by grind)]
      simp only
      rw [name, shown, trim_eq (by grind)]

def Parser.Sets (p : Parser) (name k v : Text) : Prop :=
  (∃ s, p.services.lookup name = some s ∧ s.env.lookup k = some v) ∧
    ∀ svc, p.svc = some svc → svc.name = name → svc.env.lookup k = some v

def Parser.Resets (p : Parser) (name k raw : Text) : Prop :=
  ((p.svcIndent = -1 || indentation raw = p.svcIndent) = true ∧
      trimSuffix (trimmed raw) (ascii ":") = name) ∨
    ∃ svc value, p.svc = some svc ∧ svc.name = name ∧
      p.within (indentation raw) = some .environment ∧
      parseKV (trimPrefix (trimmed raw) (ascii "- ")) = .ok (k, value)

theorem addItem_env {after : ComposeService} {item : Text} {sect : Section}
    (added : addItem svc item sect = .ok after) :
    after.name = svc.name ∧ ((sect = .environment → ∀ value, parseKV item ≠ .ok (k, value)) →
      after.env.lookup k = svc.env.lookup k) := by
  cases sect <;> simp only [addItem, bind, Except.bind, pure, Except.pure] at added <;>
    grind [AList.lookup_insert_ne]

variable {name : Text}

theorem Parser.Sets.fill (sets : p.Sets name k v) {after : ComposeService}
    (current : p.svc = some svc) (same : after.name = svc.name)
    (kept : svc.name = name → after.env.lookup k = svc.env.lookup k) :
    (p.fill after).Sets name k v := by
  grind [Parser.Sets, Parser.fill, AList.lookup_insert_ne, AList.lookup_insert]

theorem Parser.Sets.declare (sets : p.Sets name k v) {indent : Int} {text : Text}
    (apart : trimSuffix text (ascii ":") ≠ name) (read : p.declare indent text = .ok q) :
    q.Sets name k v := by
  unfold Parser.declare at read
  grind [Parser.Sets, AList.lookup_insert_ne, ComposeService.new]

theorem Parser.Sets.setKey (sets : p.Sets name k v) (current : p.svc = some svc) {indent : Int}
    {text : Text} (read : p.setKey svc indent text = .ok q) : q.Sets name k v := by
  unfold Parser.setKey at read
  grind [Parser.Sets.fill, Parser.Sets]

theorem Parser.Sets.line (sets : p.Sets name k v) (kept : ¬p.Resets name k raw)
    {n : Nat} (read : p.line n raw = .ok (some q)) : q.Sets name k v := by
  unfold Parser.line at read
  simp only at read
  split at read
  · grind
  split at read
  · grind [Parser.Sets]
  split at read
  · grind
  split at read
  next level =>
    have ⟨after, declared, same⟩ := map_eq_ok.mp read
    cases same
    exact sets.declare (fun this => kept (Or.inl ⟨level, this⟩)) (atLine_eq_ok.mp declared)
  split at read
  · grind [atLine_eq_ok]
  next svc current =>
  split at read
  next sect within =>
    have ⟨after, added, same⟩ := map_eq_ok.mp read
    cases same
    have ⟨named, env⟩ := addItem_env (k := k) (atLine_eq_ok.mp added)
    refine sets.fill current named (fun this => env ?_)
    rintro rfl value entry
    exact kept (Or.inr ⟨svc, value, current, this, within, entry⟩)
  next =>
    have ⟨after, set, same⟩ := map_eq_ok.mp read
    cases same
    exact sets.setKey current set

theorem Parser.Sets.scan (sets : p.Sets name k v) {rest : List Text}
    (kept : ∀ before raw after q, rest = before ++ raw :: after → p.After before q →
      ¬q.Resets name k raw) {n : Nat} {r : Parser} (read : p.scan n rest = .ok r) :
    r.Sets name k v := by
  induction rest generalizing p n with
  | nil => grind [Parser.scan]
  | cons raw rest recurse =>
    have first := kept [] raw rest p rfl .nil
    unfold Parser.scan at read
    split at read
    · contradiction
    · grind
    next next line =>
      refine recurse (sets.line first line) ?_ read
      intro before other after q split reached
      exact kept (raw :: before) other after q (by rw [split]; rfl) (.cons line reached)

def entryText (text : String) : Text :=
  ascii ("services:\n  web:\n    environment:\n      " ++ text ++ "\n    image: a")

end Porter.Compose
