import Mathlib.Data.List.Induction
import Porter.Os.Lookup

/-!
# Calls below a directory

A program works below a directory it reaches by a fixed path.
-/
namespace Porter.Os

open Go

variable {fs : Fs} {loc : Loc}

theorem mem_children {name : String} : name ∈ children fs loc ↔ fs.node (loc ++ [name]) ≠ none := by
  unfold children Fs.node
  rw [List.mem_insertionSort, List.mem_filterMap, if_neg (by simp), ne_eq, Option.map_eq_none_iff,
    Sql.Table.find_eq_none]
  push Not
  constructor
  · rintro ⟨entry, stored, last⟩
    split at last
    · rename_i same
      obtain ⟨pair, kept, rfl⟩ := List.mem_map.mp stored
      refine ⟨pair, kept, ?_⟩
      rw [← same]
      exact (List.dropLast_append_getLast? name last).symm
    · contradiction
  · rintro ⟨pair, kept, same⟩
    refine ⟨pair.1, List.mem_map_of_mem kept, ?_⟩
    rw [same, List.dropLast_concat, if_pos rfl, List.getLast?_concat]

def Under (top loc : Loc) : Prop := top <+: loc ∧ loc ≠ top

theorem Under.ne_nil {top loc : Loc} (under : Under top loc) : loc ≠ [] := by
  rintro rfl
  exact under.2 (List.prefix_nil.mp under.1).symm

theorem Under.trans {top loc below : Loc} (under : Under top loc) (inner : loc <+: below) :
    Under top below := by
  refine ⟨under.1.trans inner, ?_⟩
  rintro rfl
  exact under.2 (List.IsPrefix.eq_of_length inner
    (Nat.le_antisymm inner.length_le under.1.length_le))

theorem under_concat {top dir : Loc} (below : top <+: dir) (name : String) :
    Under top (dir ++ [name]) := by
  refine ⟨below.trans (List.prefix_append dir [name]), fun same => ?_⟩
  have longer := below.length_le
  rw [← same, List.length_append, List.length_singleton] at longer
  omega

/-- The path leads to the directory in every tree that differs from the first only inside it. -/
structure Anchored (start : Fs) (base : List String) (top : Loc) (left : Nat) : Prop where
  isDir : start.node top = some .dir
  few : left ≤ maxLinks
  leads : ∀ fs : Fs, (∀ loc, ¬ Under top loc → fs.node loc = start.node loc) →
    ∀ follow names, names ≠ [] ∨ follow = true →
      locate fs follow (base ++ names) = lookup fs follow left top names

theorem anchored_of_empty {start : Fs} {base : List String} {top : Loc}
    (found : locate start true base = .ok top) (isDir : start.node top = some .dir)
    (empty : ∀ loc, Under top loc → start.node loc = none) :
    ∃ left, Anchored start base top left := by
  obtain ⟨left, few, goes⟩ := lookup_keeps found isDir
  refine ⟨left, isDir, few, fun fs outside follow names open' => ?_⟩
  refine goes fs (Extends.keeps fun loc present => ?_) follow names open'
  exact outside loc fun under => present (empty loc under)

structure Confined (start : Fs) (top : Loc) (disk : Disk) : Prop where
  tree : disk.fs.Tree
  outside : ∀ loc, ¬ Under top loc → disk.fs.node loc = start.node loc
  touched : ∀ loc ∈ disk.touched, Under top loc

theorem Fs.Tree.above (tree : fs.Tree) {loc more : Loc} (named : more ≠ [])
    (present : fs.node (loc ++ more) ≠ none) : fs.node loc = some .dir := by
  induction more using List.reverseRecOn with
  | nil => exact absurd rfl named
  | append_singleton front last recurse =>
    rw [← List.append_assoc] at present
    have parent := tree.parent _ _ present
    by_cases direct : front = []
    · rw [direct, List.append_nil] at parent
      exact parent
    · exact recurse direct (by rw [parent]; exact nofun)

structure Opened (before after : Fs) (dir : Loc) (name : String) : Prop where
  grows : Extends before after
  new : after.node (dir ++ [name]) = some .dir
  enters : move after dir name = .enter (dir ++ [name])
  empty : ∀ below, Under (dir ++ [name]) below → after.node below = none

variable {dir : Loc}

theorem Fs.Tree.opened {disk : Disk} (tree : disk.fs.Tree) (plain : Plain name)
    (free : disk.fs.node (dir ++ [name]) = none) :
    Opened disk.fs (disk.write (dir ++ [name]) .dir).fs dir name := by
  have node := fun loc => node_put disk.fs (dir ++ [name]) loc .dir (by simp)
  have new : (disk.write (dir ++ [name]) .dir).fs.node (dir ++ [name]) = some .dir :=
    (node _).trans (if_pos rfl)
  refine ⟨Extends.put disk.fs .dir (by simp) free, new, ?_, ?_⟩
  · rw [move_plain _ _ plain, new]
  · rintro below ⟨⟨more, rfl⟩, inner⟩
    refine (node _).trans ((if_neg inner).trans ?_)
    by_contra present
    have isDir := tree.above (fun none => inner (by rw [none, List.append_nil])) present
    rw [free] at isDir
    contradiction

def Inside (fs : Fs) (top : Loc) (links : Nat) (names : List String) : Prop :=
  ∀ dir, lookup fs true links top names = .ok dir → fs.node dir = some .dir → top <+: dir

theorem Inside.mono {fs smaller : Fs} {top : Loc} {links : Nat} {names : List String}
    (inside : Inside fs top links names) (grows : Extends smaller fs) :
    Inside smaller top links names := by
  intro dir found isDir
  obtain ⟨left, -, goes⟩ := lookup_keeps found isDir
  have leads := goes fs grows.keeps true [] (Or.inr rfl)
  rw [List.append_nil, lookup_nil] at leads
  exact inside dir leads ((grows dir (by rw [isDir]; exact nofun)).trans isDir)

section Calls

variable {start : Fs} {base names : List String} {top : Loc} {left : Nat} {disk : Disk}
  {name : String}

variable (confined : Confined start top disk)

include confined

theorem Confined.write (below : top <+: dir) (plain : Plain name)
    (isDir : disk.fs.node dir = some .dir) (free : disk.fs.node (dir ++ [name]) ≠ some .dir)
    (node : Node) : Confined start top (disk.write (dir ++ [name]) node) := by
  have under := under_concat below name
  have after : ∀ other, (disk.fs.put (dir ++ [name]) node).node other =
      if other = dir ++ [name] then some node else disk.fs.node other :=
    fun other => node_put disk.fs (dir ++ [name]) other node under.ne_nil
  refine ⟨⟨?_, ?_⟩, ?_, ?_⟩
  · intro loc last present
    change (disk.fs.put (dir ++ [name]) node).node loc = some .dir
    change (disk.fs.put (dir ++ [name]) node).node (loc ++ [last]) ≠ none at present
    rw [after] at present ⊢
    have parent : disk.fs.node loc = some .dir := by
      split at present
      · rename_i same
        obtain ⟨rfl, -⟩ := List.append_inj' same rfl
        exact isDir
      · exact confined.tree.parent loc last present
    rw [if_neg, parent]
    rintro rfl
    exact free parent
  · intro loc last present
    change (disk.fs.put (dir ++ [name]) node).node (loc ++ [last]) ≠ none at present
    rw [after] at present
    split at present
    · rename_i same
      obtain ⟨-, same⟩ := List.append_inj' same rfl
      obtain rfl : last = name := by simpa using same
      exact plain
    · exact confined.tree.plain loc last present
  · intro loc beside
    change (disk.fs.put (dir ++ [name]) node).node loc = _
    rw [after, if_neg, confined.outside loc beside]
    rintro rfl
    exact beside under
  · intro loc member
    rcases List.mem_append.mp member with old | new
    · exact confined.touched loc old
    · obtain rfl := List.mem_singleton.mp new
      exact under

theorem Confined.prune (under : Under top loc) : Confined start top (disk.remove loc) := by
  have after : ∀ other, other ≠ [] →
      (disk.remove loc).fs.node other = if loc <+: other then none else disk.fs.node other :=
    node_prune disk.fs loc
  refine ⟨⟨?_, ?_⟩, ?_, ?_⟩
  · intro above last present
    rw [after _ (by simp)] at present
    split at present
    · exact absurd rfl present
    · rename_i beside
      have parent := confined.tree.parent above last present
      by_cases root : above = []
      · subst root
        rfl
      · rw [after _ root, if_neg, parent]
        exact fun below => beside (below.trans (List.prefix_append above [last]))
  · intro above last present
    rw [after _ (by simp)] at present
    split at present
    · exact absurd rfl present
    · exact confined.tree.plain above last present
  · intro other beside
    by_cases root : other = []
    · subst root
      exact confined.outside [] beside
    · rw [after _ root, if_neg, confined.outside other beside]
      exact fun below => beside (under.trans below)
  · intro other member
    rcases List.mem_append.mp member with old | new
    · exact confined.touched other old
    · exact under.trans (List.isPrefixOf_iff_prefix.mp (List.mem_filter.mp new).2)

variable (anchored : Anchored start base top left)

include anchored

theorem Confined.isDir : disk.fs.node top = some .dir := by
  rw [confined.outside top fun under => under.2 rfl]
  exact anchored.isDir

theorem Confined.locate {follow : Bool} (names : List String) (open' : names ≠ [] ∨ follow = true) :
    locate disk.fs follow (base ++ names) = lookup disk.fs follow left top names :=
  anchored.leads disk.fs confined.outside follow names open'

variable (plain : Plain name) (inside : Inside disk.fs top left names)

include plain inside

theorem Confined.locate_nofollow
    (found : Os.locate disk.fs false (base ++ (names ++ [name])) = .ok loc) :
    ∃ dir, loc = dir ++ [name] ∧ disk.fs.node dir = some .dir ∧ top <+: dir := by
  rw [confined.locate anchored _ (Or.inl (by simp))] at found
  obtain ⟨dir, above, isDir, rfl⟩ :=
    lookup_nofollow confined.tree plain (confined.isDir anchored) found
  exact ⟨dir, rfl, isDir, inside dir above isDir⟩

theorem Confined.removeAll :
    Confined start top (removeAll disk (base ++ (names ++ [name]))).1 ∧
      Extends (removeAll disk (base ++ (names ++ [name]))).1.fs disk.fs := by
  unfold Os.removeAll
  rw [if_neg (by simp)]
  split
  · exact ⟨confined, Extends.refl _⟩
  · exact ⟨confined, Extends.refl _⟩
  · rename_i loc found
    split
    · exact ⟨confined, Extends.refl _⟩
    · obtain ⟨dir, rfl, -, below⟩ := confined.locate_nofollow anchored plain inside found
      exact ⟨confined.prune (under_concat below name), Extends.prune _ _⟩

theorem Confined.remove : Confined start top (remove disk (base ++ (names ++ [name]))).1 := by
  unfold Os.remove
  rw [if_neg (by simp)]
  split
  · exact confined
  · rename_i loc found
    obtain ⟨dir, rfl, -, below⟩ := confined.locate_nofollow anchored plain inside found
    have pruned := confined.prune (under_concat below name)
    split
    · exact confined
    · split
      · exact pruned
      · exact confined
    · exact pruned

omit confined anchored plain inside in
theorem extends_remove (disk : Disk) (names : List String) :
    Extends (Os.remove disk names).1.fs disk.fs := by
  unfold Os.remove
  split
  · exact Extends.refl _
  · split
    · exact Extends.refl _
    · split
      · exact Extends.refl _
      · split
        · exact Extends.prune _ _
        · exact Extends.refl _
      · exact Extends.prune _ _

omit inside in
theorem Confined.remove_free (done : (Os.remove disk (base ++ (names ++ [name]))).2 = none ∨
      (Os.remove disk (base ++ (names ++ [name]))).2 = some .noent)
    (found : lookup (Os.remove disk (base ++ (names ++ [name]))).1.fs true left top names = .ok dir)
    (isDir : (Os.remove disk (base ++ (names ++ [name]))).1.fs.node dir = some .dir) :
    (Os.remove disk (base ++ (names ++ [name]))).1.fs.node (dir ++ [name]) = none := by
  have located : Os.locate disk.fs false (base ++ (names ++ [name])) = .ok (dir ++ [name]) := by
    obtain ⟨rest, -, goes⟩ := lookup_keeps found isDir
    rw [confined.locate anchored _ (Or.inl (by simp)),
      goes disk.fs (extends_remove _ _).keeps false [name] (Or.inl (by simp)),
      lookup_plain _ _ _ plain]
  have gone : (disk.remove (dir ++ [name])).fs.node (dir ++ [name]) = none := by
    refine (node_prune disk.fs _ _ (by simp)).trans ?_
    rw [if_pos (List.prefix_refl _)]
  unfold Os.remove at done ⊢
  rw [if_neg (by simp), located] at done ⊢
  simp only at done ⊢
  split
  · rename_i free
    exact free
  · rename_i isDir
    rw [isDir] at done
    split
    · exact gone
    · rename_i full
      rw [if_neg full] at done
      simp at done
  · exact gone

theorem Confined.symlink (target : String) :
    Confined start top (symlink disk target (base ++ (names ++ [name]))).1 := by
  unfold Os.symlink
  split
  · exact confined
  · split
    · exact confined
    · rename_i loc found
      split
      · rename_i free
        obtain ⟨dir, rfl, isDir, below⟩ := confined.locate_nofollow anchored plain inside found
        exact confined.write below plain isDir (by rw [free]; exact nofun) _
      · exact confined

omit plain inside in
theorem Confined.writeFile
    (inside : ∀ loc, lookup disk.fs true left top names = .ok loc → top <+: loc)
    (content : List UInt8) : Confined start top (writeFile disk (base ++ names) content).1 := by
  unfold Os.writeFile
  split
  · exact confined
  · rename_i loc found
    rw [confined.locate anchored _ (Or.inr rfl)] at found
    have below := inside loc found
    have ends := lookup_endsIn confined.tree (confined.isDir anchored) found
    have created : disk.fs.node loc ≠ some .dir → ∀ node,
        Confined start top (disk.write loc node) := by
      intro leaf node
      rcases ends with isDir | ⟨dir, name, rfl, plain, isDir⟩
      · exact absurd isDir leaf
      · refine confined.write ?_ plain isDir leaf node
        have inside : top ≠ dir ++ [name] := by
          rintro rfl
          exact leaf (confined.isDir anchored)
        rcases List.prefix_concat_iff.mp below with same | above
        · exact absurd same inside
        · exact above
    have free : ∀ node, disk.fs.node loc = node → node ≠ some .dir → disk.fs.node loc ≠ some .dir :=
      fun node same other => same ▸ other
    split
    · exact confined
    · exact confined
    · rename_i isSpecial
      refine ⟨confined.tree, confined.outside, fun other member => ?_⟩
      rcases List.mem_append.mp member with old | new
      · exact confined.touched other old
      · obtain rfl := List.mem_singleton.mp new
        refine ⟨below, ?_⟩
        rintro rfl
        exact free _ isSpecial nofun (confined.isDir anchored)
    · rename_i isFile
      exact created (free _ isFile nofun) _
    · rename_i isFree
      exact created (free _ isFree nofun) _

theorem Confined.writeFile_removed
    (done : (Os.remove disk (base ++ (names ++ [name]))).2 = none ∨
      (Os.remove disk (base ++ (names ++ [name]))).2 = some .noent) (content : List UInt8) :
    Confined start top (Os.writeFile (Os.remove disk (base ++ (names ++ [name]))).1
      (base ++ (names ++ [name])) content).1 := by
  have removed := confined.remove anchored plain inside
  refine removed.writeFile anchored (fun loc found => ?_) content
  obtain ⟨dir, above, isDir⟩ := lookup_concat removed.tree (removed.isDir anchored) found
  have below := inside.mono (extends_remove _ _) dir above isDir
  have free := confined.remove_free anchored plain done above isDir
  obtain ⟨rest, -, goes⟩ := lookup_keeps above isDir
  rw [goes _ (Keeps.refl _) true [name] (Or.inr rfl),
    lookup_last plain fun _ _ => by rw [free]; exact nofun] at found
  obtain rfl := Except.ok.inj found
  exact below.trans (List.prefix_append dir [name])

omit inside plain

omit confined anchored in
theorem stat_eq_ok {follow : Bool} {node : Node} :
    stat fs follow names = .ok node ↔
      ∃ loc, Os.locate fs follow names = .ok loc ∧ fs.node loc = some node := by
  unfold stat
  cases Os.locate fs follow names with
  | error err => simp
  | ok loc => cases held : fs.node loc <;> simp [held]

omit confined anchored in
theorem stat_dropLast (tree : fs.Tree) (found : stat fs true names = .ok .dir) :
    stat fs true names.dropLast = .ok .dir := by
  rcases List.eq_nil_or_concat names with rfl | ⟨front, last, rfl⟩
  · exact found
  · rw [List.concat_eq_append] at found ⊢
    obtain ⟨loc, located, -⟩ := stat_eq_ok.mp found
    obtain ⟨dir, above, isDir⟩ := lookup_concat tree (node_nil fs) located
    rw [List.dropLast_concat, stat_eq_ok]
    exact ⟨dir, above, isDir⟩

theorem Confined.stat_base : stat disk.fs true base = .ok .dir := by
  have located := confined.locate anchored [] (Or.inr rfl)
  rw [List.append_nil, lookup_nil] at located
  exact stat_eq_ok.mpr ⟨top, located, confined.isDir anchored⟩

omit confined anchored in
theorem mkdirAll_existing (found : stat disk.fs true names = .ok .dir) :
    mkdirAll disk names = (disk, none) := by
  unfold mkdirAll
  cases reversed : names.reverse with
  | nil => rfl
  | cons name earlier =>
    have same : (name :: earlier).reverse = names := by rw [← reversed, List.reverse_reverse]
    unfold mkdirAllFrom
    rw [same, found]

omit confined anchored in
theorem mkdirAll_concat (disk : Disk) (names : List String) (name : String) :
    mkdirAll disk (names ++ [name]) =
      match stat disk.fs true (names ++ [name]) with
      | .ok .dir => (disk, none)
      | .ok _ => (disk, some .notdir)
      | .error _ =>
        match mkdirAll disk names with
        | (disk, some err) => (disk, some err)
        | (disk, none) =>
          match mkdir disk (names ++ [name]) with
          | (disk, none) => (disk, none)
          | (disk, some err) =>
            if stat disk.fs false (names ++ [name]) = .ok .dir then (disk, none)
            else (disk, some err) := by
  have back : (name :: names.reverse).reverse = names ++ [name] := by simp
  rw [← back]
  unfold mkdirAll
  rw [List.reverse_reverse]
  rfl

/-- `os.MkdirAll` has succeeded: the path leads to a directory that was there, or is new and
empty. -/
def Made (top : Loc) (left : Nat) (names : List String) (before after : Fs) : Prop :=
  ∃ dir, lookup after true left top names = .ok dir ∧ after.node dir = some .dir ∧
    (after = before ∨ top <+: dir ∧ ∀ loc, Under dir loc → after.node loc = none)

omit confined anchored in
theorem Made.lands {before after : Fs} (made : Made top left names before after)
    (inside : Inside before top left names) : Inside after top left names := by
  obtain ⟨dir, leads, isDir, same | ⟨below, -⟩⟩ := made
  · rwa [same]
  · intro other found _
    rwa [Except.ok.inj (found.symm.trans leads)]

theorem Confined.mkdir_made {before : Fs} (plain : Plain name)
    (made : Made top left names before disk.fs) (inside : Inside before top left names) :
    let after := mkdir disk (base ++ (names ++ [name]))
    Confined start top after.1 ∧
      (after.2 = none ∨ stat after.1.fs false (base ++ (names ++ [name])) = .ok .dir →
        Made top left (names ++ [name]) before after.1.fs) := by
  obtain ⟨dir, found, isDir, new⟩ := id made
  have below := made.lands inside dir found isDir
  obtain ⟨rest, -, goes⟩ := lookup_keeps found isDir
  have located : Os.locate disk.fs false (base ++ (names ++ [name])) = .ok (dir ++ [name]) := by
    rw [confined.locate anchored _ (Or.inl (by simp)),
      goes disk.fs (Keeps.refl _) false [name] (Or.inl (by simp)), lookup_plain _ _ _ plain]
  unfold mkdir
  rw [located]
  by_cases free : disk.fs.node (dir ++ [name]) = none
  · simp only [if_pos free]
    refine ⟨confined.write below plain isDir (by rw [free]; exact nofun) .dir, fun _ => ?_⟩
    obtain ⟨grows, new, enters, empty⟩ := confined.tree.opened plain free
    refine ⟨dir ++ [name], ?_, new, Or.inr ⟨below.trans (List.prefix_append dir [name]), empty⟩⟩
    rw [goes _ grows.keeps true [name] (Or.inr rfl), lookup_enter [] enters, lookup_nil]
  · simp only [if_neg free]
    refine ⟨confined, ?_⟩
    rintro (failed | existing)
    · contradiction
    · obtain ⟨loc, there, ends⟩ := stat_eq_ok.mp existing
      obtain rfl := Except.ok.inj (located.symm.trans there)
      have enters : move disk.fs dir name = .enter (dir ++ [name]) := by
        rw [move_plain _ _ plain, ends]
      refine ⟨dir ++ [name], ?_, ends, Or.inl ?_⟩
      · rw [goes _ (Keeps.refl _) true [name] (Or.inr rfl), lookup_enter [] enters, lookup_nil]
      · refine new.resolve_right fun ⟨_, empty⟩ => free ?_
        exact empty _ (under_concat (List.prefix_refl dir) name)

theorem Confined.mkdirAll (plain : ∀ name ∈ names, Plain name)
    (inside : ∀ front, front <+: names.dropLast → Inside disk.fs top left front) :
    Confined start top (mkdirAll disk (base ++ names)).1 ∧
      ((mkdirAll disk (base ++ names)).2 = none →
        Made top left names disk.fs (mkdirAll disk (base ++ names)).1.fs) := by
  induction names using List.reverseRecOn with
  | nil =>
    rw [List.append_nil, mkdirAll_existing (confined.stat_base anchored)]
    exact ⟨confined, fun _ => ⟨top, lookup_nil .., confined.isDir anchored, Or.inl rfl⟩⟩
  | append_singleton names name recurse =>
    rw [List.dropLast_concat] at inside
    obtain ⟨earlier, made⟩ := recurse (fun other member => plain other (by simp [member]))
      (fun front ahead => inside front (ahead.trans (List.dropLast_prefix names)))
    have path : base ++ (names ++ [name]) = base ++ names ++ [name] := (List.append_assoc ..).symm
    rw [path, mkdirAll_concat, ← path]
    split
    · rename_i existing
      obtain ⟨dir, found, isDir⟩ := stat_eq_ok.mp existing
      rw [confined.locate anchored _ (Or.inr rfl)] at found
      exact ⟨confined, fun _ => ⟨dir, found, isDir, Or.inl rfl⟩⟩
    · exact ⟨confined, nofun⟩
    · split
      · rename_i failed
        rw [failed] at earlier
        exact ⟨earlier, nofun⟩
      · rename_i done
        rw [done] at earlier made
        obtain ⟨after, last⟩ :=
          earlier.mkdir_made anchored (plain name (by simp)) (made rfl)
            (inside names (List.prefix_refl names))
        split
        · rename_i created
          rw [created] at after last
          exact ⟨after, fun _ => last (Or.inl rfl)⟩
        · rename_i failed
          rw [failed] at after last
          split
          · rename_i existing
            exact ⟨after, fun _ => last (Or.inr existing)⟩
          · exact ⟨after, nofun⟩

end Calls

variable {disk after : Disk}

theorem mkdir_ok (tree : disk.fs.Tree) (plain : Plain name)
    (made : mkdir disk (names ++ [name]) = (after, none)) :
    ∃ loc, after = disk.write loc .dir ∧ Extends disk.fs after.fs ∧ disk.fs.node loc = none ∧
      after.fs.Tree ∧ locate after.fs true (names ++ [name]) = .ok loc ∧
      after.fs.node loc = some .dir ∧ ∀ below, Under loc below → after.fs.node below = none := by
  unfold mkdir at made
  split at made
  · cases made
  · rename_i loc found
    split at made
    · rename_i free
      obtain ⟨dir, above, isDir, rfl⟩ := lookup_nofollow tree plain (node_nil disk.fs) found
      obtain rfl := (Prod.mk.inj made).1
      have whole : Confined disk.fs [] ⟨disk.fs, []⟩ := ⟨tree, fun _ _ => rfl, nofun⟩
      have written := whole.write List.nil_prefix plain isDir (by rw [free]; exact nofun) .dir
      obtain ⟨grows, new, enters, empty⟩ := tree.opened plain free
      obtain ⟨rest, -, goes⟩ := lookup_keeps above isDir
      refine ⟨dir ++ [name], rfl, grows, free, written.tree, ?_, new, empty⟩
      unfold locate
      rw [goes _ grows.keeps true [name] (Or.inr rfl), lookup_enter [] enters, lookup_nil]
    · cases made

theorem mkdir_failed {err : Errno} (failed : mkdir disk names = (after, some err)) :
    after = disk := by
  unfold mkdir at failed
  split at failed
  · exact (Prod.mk.inj failed).1.symm
  · split at failed
    · cases failed
    · exact (Prod.mk.inj failed).1.symm

theorem anchored_mkdirTemp (tree : disk.fs.Tree) {dir root : List String} {stem : String}
    {numbers : List Nat} (plain : ∀ number : Nat, Plain (stem ++ toString number))
    (made : mkdirTemp disk dir stem numbers = (after, .ok root)) :
    (∃ number : Nat, root = dir ++ [stem ++ toString number]) ∧ after.fs.Tree ∧
      ∃ top left, locate after.fs true root = .ok top ∧ Anchored after.fs root top left ∧
        ∀ loc, Under top loc → after.fs.node loc = none := by
  induction numbers with
  | nil => cases made
  | cons number rest recurse =>
    unfold mkdirTemp at made
    split at made
    · rename_i new done
      obtain ⟨rfl, same⟩ := Prod.mk.inj made
      obtain rfl := Except.ok.inj same
      obtain ⟨top, -, -, -, tree, leads, isDir, empty⟩ := mkdir_ok tree (plain number) done
      obtain ⟨left, anchored⟩ := anchored_of_empty leads isDir empty
      exact ⟨⟨number, rfl⟩, tree, top, left, leads, anchored, empty⟩
    · rename_i kept taken
      rw [mkdir_failed taken] at made
      exact recurse made
    · cases made

end Porter.Os
