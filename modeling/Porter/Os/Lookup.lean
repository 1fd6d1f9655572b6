import Porter.Os.FileSystem

/-!
# Lookups that stay below a directory

A lookup that starts below a directory stays there as long as it meets no absolute link and takes no
`..` at the directory itself.
-/
namespace Porter.Os

open Sql Go

variable {fs : Fs} {follow : Bool} {links : Nat} {top here next dir loc : Loc} {name : String}
  {names rest : List String}

theorem node_nil (fs : Fs) : fs.node [] = some .dir := rfl

theorem node_put (fs : Fs) (loc other : Loc) (node : Node) (named : loc ≠ []) :
    (fs.put loc node).node other = if other = loc then some node else fs.node other := by
  unfold Fs.node Fs.put
  by_cases same : other = loc
  · subst same
    rw [if_neg named, if_pos rfl, GoMap.find_set_self _ (other, node)]
    rfl
  · rw [GoMap.find_set_of_ne _ (loc, node) same, if_neg same]

theorem node_prune (fs : Fs) (loc other : Loc) (named : other ≠ []) :
    (fs.prune loc).node other = if loc <+: other then none else fs.node other := by
  unfold Fs.node Fs.prune
  rw [if_neg named, if_neg named]
  split
  · rename_i below
    rw [Option.map_eq_none_iff, Table.find_eq_none]
    intro entry member same
    rw [Table.mem_deleteWhere] at member
    have kept : loc.isPrefixOf other = false := same ▸ member.2
    rw [List.isPrefixOf_iff_prefix.mpr below] at kept
    contradiction
  · rename_i beside
    congr 1
    apply Table.find_congr
    intro entry same
    rw [Table.mem_deleteWhere]
    refine and_iff_left ?_
    rw [same, ← Bool.not_eq_true, List.isPrefixOf_iff_prefix]
    exact beside

theorem Fs.tree_of_rows
    (sound : ∀ entry ∈ fs.rows, fs.node entry.1.dropLast = some .dir ∧
      Plain (entry.1.getLastD "")) : fs.Tree := by
  have row : ∀ loc name, fs.node (loc ++ [name]) ≠ none →
      ∃ entry ∈ fs.rows, entry.1 = loc ++ [name] := by
    intro loc name present
    unfold Fs.node at present
    rw [if_neg (by simp)] at present
    obtain ⟨entry, found⟩ := Option.ne_none_iff_exists'.mp
      (fun missing => present (Option.map_eq_none_iff.mpr missing))
    obtain ⟨member, same⟩ := (Table.find_eq_some _ _ _).mp found
    exact ⟨entry, member, same⟩
  refine ⟨fun loc name present => ?_, fun loc name present => ?_⟩
  · obtain ⟨entry, member, same⟩ := row loc name present
    have parent := (sound entry member).1
    rwa [same, List.dropLast_concat] at parent
  · obtain ⟨entry, member, same⟩ := row loc name present
    have plain := (sound entry member).2
    rwa [same, List.getLastD_concat] at plain

def Extends (fs larger : Fs) : Prop := ∀ loc, fs.node loc ≠ none → larger.node loc = fs.node loc

theorem Extends.refl (fs : Fs) : Extends fs fs := fun _ _ => rfl

theorem Extends.put (fs : Fs) (node : Node) (named : loc ≠ []) (free : fs.node loc = none) :
    Extends fs (fs.put loc node) := by
  intro other present
  rw [node_put _ _ _ _ named, if_neg]
  rintro rfl
  exact present free

theorem Extends.prune (fs : Fs) (loc : Loc) : Extends (fs.prune loc) fs := by
  intro other present
  by_cases top : other = []
  · subst top
    rfl
  · rw [node_prune _ _ _ top] at present ⊢
    split
    · rename_i below
      rw [if_pos below] at present
      exact absurd rfl present
    · rfl

def Keeps (fs other : Fs) : Prop :=
  ∀ loc, fs.node loc ≠ none → (∀ content, fs.node loc ≠ some (.file content)) →
    other.node loc = fs.node loc

theorem Keeps.refl (fs : Fs) : Keeps fs fs := fun _ _ _ => rfl

theorem Extends.keeps {larger : Fs} (grows : Extends fs larger) : Keeps fs larger :=
  fun loc present _ => grows loc present

theorem advance_cons (fs : Fs) (follow : Bool)
    (link : Loc → String → List String → Except Errno Loc) (here : Loc) (name : String)
    (rest : List String) :
    advance fs follow link here (name :: rest) =
      match move fs here name with
      | .enter next => advance fs follow link next rest
      | .link target =>
        if rest = [] ∧ follow = false then .ok (here ++ [name]) else link here target rest
      | .leaf err => if rest = [] then .ok (here ++ [name]) else .error err := rfl

theorem move_plain (fs : Fs) (here : Loc) (plain : Plain name) :
    move fs here name =
      match fs.node (here ++ [name]) with
      | some .dir => .enter (here ++ [name])
      | some (.symlink target) => .link target
      | none => .leaf .noent
      | some _ => .leaf .notdir := by
  exact (if_neg (by simp [plain.1, plain.2.1])).trans (if_neg plain.2.2)

theorem move_ahead {other : Fs} (keeps : Keeps fs other)
    (ahead : ∀ err, move fs here name ≠ .leaf err) : move other here name = move fs here name := by
  unfold move at ahead ⊢
  split
  · rfl
  · rename_i undotted
    rw [if_neg undotted] at ahead
    split
    · rfl
    · rename_i down
      rw [if_neg down] at ahead
      rw [keeps]
      · intro missing
        rw [missing] at ahead
        exact ahead .noent rfl
      · intro content held
        rw [held] at ahead
        exact ahead .notdir rfl

theorem move_enter (moved : move fs here name = .enter next) :
    next = here ∨ name = ".." ∧ next = here.dropLast ∨
      Plain name ∧ next = here ++ [name] ∧ fs.node next = some .dir := by
  unfold move at moved
  split at moved
  · exact Or.inl (Move.enter.inj moved).symm
  · rename_i dotted
    split at moved
    · rename_i up
      exact Or.inr (Or.inl ⟨up, (Move.enter.inj moved).symm⟩)
    · rename_i ahead
      split at moved
      · rename_i present
        obtain rfl := Move.enter.inj moved
        rw [not_or] at dotted
        exact Or.inr (Or.inr ⟨⟨dotted.1, dotted.2, ahead⟩, rfl, present⟩)
      all_goals contradiction

theorem move_stops (stops : ∀ next, move fs here name ≠ .enter next) :
    Plain name ∧ fs.node (here ++ [name]) ≠ some .dir := by
  unfold move at stops
  split at stops
  · exact absurd rfl (stops _)
  · rename_i undotted
    split at stops
    · exact absurd rfl (stops _)
    · rename_i down
      rw [not_or] at undotted
      refine ⟨⟨undotted.1, undotted.2, down⟩, fun isDir => ?_⟩
      rw [isDir] at stops
      exact absurd rfl (stops _)

theorem lookup_enter (rest : List String) (moved : move fs here name = .enter next) :
    lookup fs follow links here (name :: rest) = lookup fs follow links next rest := by
  have ahead : ∀ link, advance fs follow link here (name :: rest) =
      advance fs follow link next rest := by
    intro link
    rw [advance_cons, moved]
  cases links <;> exact ahead _

theorem lookup_link {target : String} (goes : rest ≠ [] ∨ follow = true)
    (moved : move fs here name = .link target) :
    lookup fs follow (links + 1) here (name :: rest) =
      lookup fs follow links (linkStart here target) (pathNames target ++ rest) := by
  have ends : ¬ (rest = [] ∧ follow = false) := by
    rintro ⟨ended, stays⟩
    rcases goes with more | follows
    · exact more ended
    · exact absurd (follows.symm.trans stays) (by decide)
  change advance fs follow _ here (name :: rest) = _
  rw [advance_cons, moved]
  exact if_neg ends

theorem lookup_nil (fs : Fs) (follow : Bool) (links : Nat) (here : Loc) :
    lookup fs follow links here [] = .ok here := by
  cases links <;> rfl

theorem lookup_last (plain : Plain name)
    (ends : follow = true → ∀ target, fs.node (here ++ [name]) ≠ some (.symlink target)) :
    lookup fs follow links here [name] = .ok (here ++ [name]) := by
  have last : ∀ link, advance fs follow link here [name] = .ok (here ++ [name]) := by
    intro link
    rw [advance_cons, move_plain _ _ plain]
    cases held : fs.node (here ++ [name]) with
    | none => rfl
    | some node =>
      cases node with
      | dir | file | special => rfl
      | symlink target =>
        cases follow with
        | false => rfl
        | true => exact absurd held (ends rfl target)
  cases links <;> exact last _

theorem lookup_plain (fs : Fs) (links : Nat) (here : Loc) (plain : Plain name) :
    lookup fs false links here [name] = .ok (here ++ [name]) :=
  lookup_last plain nofun

inductive Leads (fs : Fs) (follow : Bool) : Nat → Loc → List String → Loc → Prop where
  | here (links : Nat) (here : Loc) : Leads fs follow links here [] here
  | enter {links : Nat} {here next loc : Loc} {name : String} {rest : List String}
      (moved : move fs here name = .enter next) (later : Leads fs follow links next rest loc) :
      Leads fs follow links here (name :: rest) loc
  | link {links : Nat} {here loc : Loc} {name target : String} {rest : List String}
      (moved : move fs here name = .link target) (goes : rest ≠ [] ∨ follow = true)
      (later : Leads fs follow links (linkStart here target) (pathNames target ++ rest) loc) :
      Leads fs follow (links + 1) here (name :: rest) loc
  | last {links : Nat} {here : Loc} {name : String} (plain : Plain name)
      (noDir : fs.node (here ++ [name]) ≠ some .dir) :
      Leads fs follow links here [name] (here ++ [name])

theorem advance_leads {link : Loc → String → List String → Except Errno Loc}
    (linked : ∀ at' target rest, link at' target rest = .ok loc → ∃ fewer, links = fewer + 1 ∧
      Leads fs follow fewer (linkStart at' target) (pathNames target ++ rest) loc)
    (found : advance fs follow link here names = .ok loc) :
    Leads fs follow links here names loc := by
  induction names generalizing here with
  | nil =>
    obtain rfl := Except.ok.inj found
    exact .here links here
  | cons name rest recurse =>
    rw [advance_cons] at found
    have ends : (∀ next, move fs here name ≠ .enter next) → rest = [] →
        Leads fs follow links here (name :: rest) (here ++ [name]) := by
      rintro stops rfl
      exact .last (move_stops stops).1 (move_stops stops).2
    cases moved : move fs here name with
    | enter next =>
      rw [moved] at found
      exact .enter moved (recurse found)
    | link target =>
      rw [moved] at found ends
      simp only at found
      split at found
      · rename_i last
        obtain rfl := Except.ok.inj found
        exact ends nofun last.1
      · rename_i goes
        obtain ⟨fewer, rfl, later⟩ := linked here target rest found
        refine .link moved (or_iff_not_imp_left.mpr fun ended => ?_) later
        by_contra stays
        exact goes ⟨not_not.mp ended, by simpa using stays⟩
    | leaf err =>
      rw [moved] at found ends
      simp only at found
      split at found
      · rename_i last
        obtain rfl := Except.ok.inj found
        exact ends nofun last
      · contradiction

theorem leads_of_lookup (found : lookup fs follow links here names = .ok loc) :
    Leads fs follow links here names loc := by
  induction links generalizing here names with
  | zero =>
    refine advance_leads ?_ found
    intro at' target rest failed
    contradiction
  | succ links recurse => exact advance_leads (fun _ _ _ later => ⟨links, rfl, recurse later⟩) found

theorem lookup_keeps (found : lookup fs true links here names = .ok dir)
    (isDir : fs.node dir = some .dir) :
    ∃ left ≤ links, ∀ other, Keeps fs other → ∀ follow more, more ≠ [] ∨ follow = true →
      lookup other follow links here (names ++ more) = lookup other follow left dir more := by
  have leads := leads_of_lookup found
  clear found
  induction leads with
  | here links here => exact ⟨links, Nat.le_refl links, fun _ _ _ _ _ => rfl⟩
  | enter moved _ recurse =>
    obtain ⟨left, fewer, goes⟩ := recurse isDir
    refine ⟨left, fewer, fun other keeps follow more open' => ?_⟩
    have kept := (move_ahead keeps (by rw [moved]; exact nofun)).trans moved
    rw [List.cons_append, lookup_enter _ kept, goes other keeps follow more open']
  | link moved _ _ recurse =>
    obtain ⟨left, fewer, goes⟩ := recurse isDir
    refine ⟨left, Nat.le_succ_of_le fewer, fun other keeps follow more open' => ?_⟩
    have kept := (move_ahead keeps (by rw [moved]; exact nofun)).trans moved
    rw [List.cons_append, lookup_link ?_ kept, ← List.append_assoc,
      goes other keeps follow more open']
    exact open'.imp_left fun filled none => filled (List.append_eq_nil_iff.mp none).2
  | last _ noDir => exact absurd isDir noDir

/-- The names lead on without leaving the given directory upwards. A link is handed over. -/
def staysFrom (fs : Fs) (top : Loc) (link : Loc → String → List String → Bool) :
    Loc → List String → Bool
  | _, [] => true
  | here, name :: rest =>
    if name = ".." ∧ here = top then false
    else
      match move fs here name with
      | .enter next => staysFrom fs top link next rest
      | .link target => link here target rest
      | .leaf _ => true

/-- A path stays below the directory, as far as a lookup gets, without absolute links or `..` at the
top. -/
def stays (fs : Fs) (top : Loc) : Nat → Loc → List String → Bool
  | 0 => staysFrom fs top (fun _ _ _ => true)
  | links + 1 => staysFrom fs top (fun here target rest =>
      !isAbs target && stays fs top links here (pathNames target ++ rest))

theorem staysFrom_cons {link : Loc → String → List String → Bool}
    (remains : staysFrom fs top link here (name :: rest) = true) :
    ¬ (name = ".." ∧ here = top) ∧
      (∀ next, move fs here name = .enter next → staysFrom fs top link next rest = true) ∧
      ∀ target, move fs here name = .link target → link here target rest = true := by
  unfold staysFrom at remains
  split at remains
  · contradiction
  · rename_i inside
    refine ⟨inside, fun next moved => ?_, fun target moved => ?_⟩
    · rwa [moved] at remains
    · rwa [moved] at remains

theorem prefix_of_enter (below : top <+: here) (remains : ¬ (name = ".." ∧ here = top))
    (moved : move fs here name = .enter next) : top <+: next := by
  rcases move_enter moved with rfl | ⟨up, rfl⟩ | ⟨-, rfl, -⟩
  · exact below
  · obtain ⟨tail, rfl⟩ := below
    rcases List.eq_nil_or_concat tail with rfl | ⟨front, last, rfl⟩
    · exact absurd ⟨up, List.append_nil top⟩ remains
    · rw [List.concat_eq_append, ← List.append_assoc, List.dropLast_concat]
      exact List.prefix_append top front
  · exact below.trans (List.prefix_append here [name])

theorem linkStart_relative (here : Loc) {target : String} (relative : isAbs target = false) :
    linkStart here target = here :=
  if_neg (by rw [relative]; decide)

theorem stays_cons {fuel : Nat} (remains : stays fs top fuel here (name :: rest) = true) :
    ¬ (name = ".." ∧ here = top) ∧
      (∀ next, move fs here name = .enter next → stays fs top fuel next rest = true) ∧
      ∀ target fewer, move fs here name = .link target → fuel = fewer + 1 →
        isAbs target = false ∧ stays fs top fewer here (pathNames target ++ rest) = true := by
  cases fuel with
  | zero =>
    obtain ⟨inside, enters, -⟩ := staysFrom_cons remains
    exact ⟨inside, enters, nofun⟩
  | succ fuel =>
    obtain ⟨inside, enters, links⟩ := staysFrom_cons remains
    refine ⟨inside, enters, ?_⟩
    rintro target fewer moved same
    obtain rfl := Nat.succ.inj same
    simpa using links target moved

theorem prefix_of_leads {fuel : Nat} {more : List String}
    (leads : Leads fs follow links here names loc) (few : links ≤ fuel) (below : top <+: here)
    (remains : stays fs top fuel here (names ++ more) = true) : top <+: loc := by
  induction leads generalizing fuel with
  | here => exact below
  | enter moved _ recurse =>
    obtain ⟨inside, enters, -⟩ := stays_cons remains
    exact recurse few (prefix_of_enter below inside moved) (enters _ moved)
  | link moved _ _ recurse =>
    obtain ⟨fewer, rfl⟩ : ∃ fewer, fuel = fewer + 1 := ⟨fuel - 1, by omega⟩
    obtain ⟨relative, later⟩ := (stays_cons remains).2.2 _ fewer moved rfl
    rw [linkStart_relative _ relative] at recurse
    exact recurse (by omega) below ((congrArg _ (List.append_assoc ..)).trans later)
  | last => exact below.trans (List.prefix_append _ _)

variable (tree : fs.Tree)

include tree

theorem Fs.Tree.dropLast (isDir : fs.node here = some .dir) :
    fs.node here.dropLast = some .dir := by
  rcases List.eq_nil_or_concat here with rfl | ⟨front, last, rfl⟩
  · rfl
  · rw [List.concat_eq_append] at isDir ⊢
    rw [List.dropLast_concat]
    exact tree.parent front last (by rw [isDir]; exact nofun)

theorem Fs.Tree.enter (isDir : fs.node here = some .dir)
    (moved : move fs here name = .enter next) : fs.node next = some .dir := by
  rcases move_enter moved with rfl | ⟨-, rfl⟩ | ⟨-, -, found⟩
  · exact isDir
  · exact tree.dropLast isDir
  · exact found

omit tree in
theorem Fs.Tree.linkStart (target : String) (isDir : fs.node here = some .dir) :
    fs.node (linkStart here target) = some .dir := by
  unfold Os.linkStart
  split
  · rfl
  · exact isDir

theorem lookup_concat (isDir : fs.node here = some .dir)
    (found : lookup fs follow links here (names ++ [name]) = .ok loc) :
    ∃ dir, lookup fs true links here names = .ok dir ∧ fs.node dir = some .dir := by
  have leads := leads_of_lookup found
  clear found
  generalize whole : names ++ [name] = path at leads
  induction leads generalizing names with
  | here => simp at whole
  | enter moved _ recurse =>
    rcases names with - | ⟨first, more⟩
    · exact ⟨_, lookup_nil _ true _ _, isDir⟩
    · obtain ⟨rfl, rfl⟩ := List.cons.inj whole
      rw [lookup_enter _ moved]
      exact recurse (tree.enter isDir moved) rfl
  | link moved _ _ recurse =>
    rcases names with - | ⟨first, more⟩
    · exact ⟨_, lookup_nil _ true _ _, isDir⟩
    · obtain ⟨rfl, rfl⟩ := List.cons.inj whole
      rw [lookup_link (Or.inr rfl) moved]
      exact recurse (Fs.Tree.linkStart _ isDir) (List.append_assoc ..)
  | last =>
    rcases names with - | ⟨first, more⟩
    · exact ⟨_, lookup_nil _ true _ _, isDir⟩
    · simp at whole

def EndsIn (fs : Fs) (loc : Loc) : Prop :=
  fs.node loc = some .dir ∨
    ∃ dir name, loc = dir ++ [name] ∧ Plain name ∧ fs.node dir = some .dir

theorem lookup_endsIn (isDir : fs.node here = some .dir)
    (found : lookup fs follow links here names = .ok loc) : EndsIn fs loc := by
  have leads := leads_of_lookup found
  clear found
  induction leads with
  | here => exact Or.inl isDir
  | enter moved _ recurse => exact recurse (tree.enter isDir moved)
  | link moved _ _ recurse => exact recurse (Fs.Tree.linkStart _ isDir)
  | last plain => exact Or.inr ⟨_, _, rfl, plain, isDir⟩

theorem lookup_nofollow (plain : Plain name) (isDir : fs.node here = some .dir)
    (found : lookup fs false links here (names ++ [name]) = .ok loc) :
    ∃ dir, lookup fs true links here names = .ok dir ∧ fs.node dir = some .dir ∧
      loc = dir ++ [name] := by
  obtain ⟨dir, above, isParent⟩ := lookup_concat tree isDir found
  obtain ⟨left, -, goes⟩ := lookup_keeps above isParent
  rw [goes fs (Keeps.refl fs) false [name] (Or.inl (List.cons_ne_nil _ _)),
    lookup_plain fs left dir plain] at found
  exact ⟨dir, above, isParent, (Except.ok.inj found).symm⟩

end Porter.Os
