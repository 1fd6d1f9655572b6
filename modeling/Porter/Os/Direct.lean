import Porter.Os.Confined

/-!
# Directories without links

Below a directory that has no links in it, a path of plain names leads to the location of the same
names.
-/
namespace Porter.Os

open Go

variable {fs start : Fs} {follow : Bool} {links : Nat} {base names : List String}
  {top here loc : Loc} {name : String} {disk : Disk}

structure Linkless (start : Fs) (base : List String) (top : Loc) (disk : Disk) : Prop
    extends Confined start top disk where
  leads : locate disk.fs true base = .ok top
  isDir : disk.fs.node top = some .dir
  linkless : ∀ names target, disk.fs.node (top ++ names) ≠ some (.symlink target)

theorem Leads.eq_append (leads : Leads fs follow links here names loc)
    (plain : ∀ name ∈ names, Plain name)
    (linkless : ∀ names target, fs.node (here ++ names) ≠ some (.symlink target)) :
    loc = here ++ names := by
  induction leads with
  | here => rw [List.append_nil]
  | @enter _ here _ _ name rest moved _ recurse =>
    rw [move_plain _ _ (plain name List.mem_cons_self)] at moved
    split at moved
    · obtain rfl := Move.enter.inj moved
      rw [List.append_cons]
      refine recurse (fun other member => plain other (List.mem_cons_of_mem _ member)) ?_
      intro names
      rw [← List.append_cons]
      exact linkless (name :: names)
    all_goals contradiction
  | @link _ here _ name target rest moved =>
    rw [move_plain _ _ (plain name List.mem_cons_self)] at moved
    split at moved
    · contradiction
    · rename_i held
      exact absurd held (linkless [name] _)
    all_goals contradiction
  | last => rfl

theorem lookup_dirs (tree : fs.Tree) (plain : ∀ name ∈ names, Plain name)
    (isDir : fs.node (here ++ names) = some .dir) :
    lookup fs follow links here names = .ok (here ++ names) := by
  induction names generalizing here with
  | nil => rw [List.append_nil, lookup_nil]
  | cons name rest recurse =>
    rw [List.append_cons] at isDir ⊢
    have entered : fs.node (here ++ [name]) = some .dir := by
      by_cases last : rest = []
      · rwa [last, List.append_nil] at isDir
      · exact tree.above last (by rw [isDir]; exact nofun)
    have moved : move fs here name = .enter (here ++ [name]) := by
      rw [move_plain _ _ (plain name List.mem_cons_self), entered]
    rw [lookup_enter _ moved]
    exact recurse (fun other member => plain other (List.mem_cons_of_mem _ member)) isDir

namespace Linkless

variable (direct : Linkless start base top disk)

include direct

theorem stat_base : stat disk.fs true base = .ok .dir :=
  stat_eq_ok.mpr ⟨top, direct.leads, direct.isDir⟩

theorem located (plain : ∀ name ∈ names, Plain name) (goes : names ≠ [] ∨ follow = true)
    (found : locate disk.fs follow (base ++ names) = .ok loc) : loc = top ++ names := by
  obtain ⟨left, -, leads⟩ := lookup_keeps direct.leads direct.isDir
  have found := (leads _ (Keeps.refl _) follow names goes).symm.trans found
  exact (leads_of_lookup found).eq_append plain direct.linkless

theorem leads_below (plain : ∀ name ∈ names, Plain name)
    (isDir : disk.fs.node (top ++ names) = some .dir) :
    locate disk.fs true (base ++ names) = .ok (top ++ names) := by
  obtain ⟨left, -, leads⟩ := lookup_keeps direct.leads direct.isDir
  exact (leads _ (Keeps.refl _) true names (Or.inr rfl)).trans
    (lookup_dirs direct.tree plain isDir)

theorem node_of_stat (plain : ∀ name ∈ names, Plain name) (goes : names ≠ [] ∨ follow = true)
    (found : stat disk.fs follow (base ++ names) = .ok .dir) :
    disk.fs.node (top ++ names) = some .dir := by
  obtain ⟨loc, leads, isDir⟩ := stat_eq_ok.mp found
  rwa [direct.located plain goes leads] at isDir

variable (plain : ∀ other ∈ names ++ [name], Plain other)

include plain

theorem write {node : Node} (parent : disk.fs.node (top ++ names) = some .dir)
    (leaf : ∀ held, disk.fs.node (top ++ (names ++ [name])) = some held → ∃ old, held = .file old)
    (noLink : ∀ target, node ≠ .symlink target) :
    Linkless start base top (disk.write (top ++ (names ++ [name])) node) := by
  have after : ∀ other, (disk.write (top ++ (names ++ [name])) node).fs.node other =
      if other = top ++ (names ++ [name]) then some node else disk.fs.node other :=
    fun other => node_put disk.fs _ other node (by simp)
  have noDir : disk.fs.node (top ++ (names ++ [name])) ≠ some .dir := by
    intro held
    obtain ⟨old, same⟩ := leaf _ held
    contradiction
  have keeps : Keeps disk.fs (disk.write (top ++ (names ++ [name])) node).fs := by
    intro other present noFile
    rw [after, if_neg]
    rintro rfl
    obtain ⟨held, found⟩ := Option.ne_none_iff_exists'.mp present
    obtain ⟨old, rfl⟩ := leaf held found
    exact noFile old found
  obtain ⟨left, -, goes⟩ := lookup_keeps direct.leads direct.isDir
  have leads := goes _ keeps true [] (Or.inr rfl)
  rw [List.append_nil, lookup_nil] at leads
  refine ⟨?_, leads, ?_, fun more target => ?_⟩
  · rw [← List.append_assoc] at noDir ⊢
    exact direct.toConfined.write (List.prefix_append top names) (plain name (by simp)) parent noDir
      node
  · rw [after, if_neg, direct.isDir]
    intro same
    rw [← same] at noDir
    exact noDir direct.isDir
  · rw [after]
    split
    · exact fun link => noLink target (Option.some.inj link)
    · exact direct.linkless more target

theorem mkdir (parent : disk.fs.node (top ++ names) = some .dir) :
    let after := mkdir disk (base ++ (names ++ [name]))
    Linkless start base top after.1 ∧ Extends disk.fs after.1.fs ∧
      (after.2 = none → after.1.fs.node (top ++ (names ++ [name])) = some .dir) ∧
      ∀ loc ∈ after.1.touched, loc ∈ disk.touched ∨ loc = top ++ (names ++ [name]) ∧
        after.1.fs.node loc = some .dir := by
  unfold Os.mkdir
  split
  · exact ⟨direct, Extends.refl _, nofun, fun _ => Or.inl⟩
  · rename_i loc found
    obtain rfl := direct.located plain (Or.inl (by simp)) found
    split
    · rename_i free
      have new : (disk.write (top ++ (names ++ [name])) .dir).fs.node (top ++ (names ++ [name])) =
          some .dir := (node_put disk.fs _ _ .dir (by simp)).trans (if_pos rfl)
      refine ⟨direct.write plain parent (by rw [free]; exact nofun) nofun,
        Extends.put disk.fs .dir (by simp) free, fun _ => new, fun loc member => ?_⟩
      rcases List.mem_append.mp member with old | last
      · exact Or.inl old
      · obtain rfl := List.mem_singleton.mp last
        exact Or.inr ⟨rfl, new⟩
    · exact ⟨direct, Extends.refl _, nofun, fun _ => Or.inl⟩

theorem writeFile (content : List UInt8) :
    Linkless start base top (writeFile disk (base ++ (names ++ [name])) content).1 := by
  unfold Os.writeFile
  split
  · exact direct
  · rename_i loc found
    have parent : disk.fs.node (top ++ names) = some .dir := by
      have split := found
      rw [← List.append_assoc] at split
      obtain ⟨dir, above, isDir⟩ := lookup_concat direct.tree (node_nil disk.fs) split
      rwa [direct.located (List.forall_mem_append.mp plain).1 (Or.inr rfl) above] at isDir
    obtain rfl := direct.located plain (Or.inr rfl) found
    split
    · exact direct
    · exact direct
    · refine { direct with touched := fun other member => ?_ }
      rcases List.mem_append.mp member with old | new
      · exact direct.touched other old
      · rw [List.mem_singleton.mp new, ← List.append_assoc]
        exact under_concat (List.prefix_append top names) name
    · rename_i old held
      refine direct.write plain parent (fun node same => ⟨old, ?_⟩) nofun
      exact Option.some.inj (same.symm.trans held)
    · rename_i free
      exact direct.write plain parent (by rw [free]; exact nofun) nofun

omit plain

theorem mkdirAll (plain : ∀ name ∈ names, Plain name) :
    let after := mkdirAll disk (base ++ names)
    Linkless start base top after.1 ∧
      (after.2 = none → after.1.fs.node (top ++ names) = some .dir) ∧
      ∀ loc ∈ after.1.touched, loc ∈ disk.touched ∨ loc <+: top ++ names ∧
        after.1.fs.node loc = some .dir := by
  induction names using List.reverseRecOn with
  | nil =>
    rw [List.append_nil, List.append_nil, mkdirAll_existing direct.stat_base]
    exact ⟨direct, fun _ => direct.isDir, fun _ => Or.inl⟩
  | append_singleton names name recurse =>
    obtain ⟨made, opened, touched⟩ := recurse (List.forall_mem_append.mp plain).1
    have path : base ++ (names ++ [name]) = base ++ names ++ [name] := (List.append_assoc ..).symm
    have longer : top ++ names <+: top ++ (names ++ [name]) :=
      (List.prefix_append_right_inj top).mpr (List.prefix_append names [name])
    rw [path, mkdirAll_concat, ← path]
    split
    · rename_i there
      exact ⟨direct, fun _ => direct.node_of_stat plain (Or.inr rfl) there, fun _ => Or.inl⟩
    · exact ⟨direct, nofun, fun _ => Or.inl⟩
    · split
      · rename_i failed
        rw [failed] at made touched
        exact ⟨made, nofun, fun loc member => (touched loc member).imp_right
          (And.imp_left fun ahead => ahead.trans longer)⟩
      · rename_i reached done
        rw [done] at made opened touched
        obtain ⟨after, grows, last, new⟩ := made.mkdir plain (opened rfl)
        have all : ∀ loc ∈ (Os.mkdir reached (base ++ (names ++ [name]))).1.touched,
            loc ∈ disk.touched ∨ loc <+: top ++ (names ++ [name]) ∧
              (Os.mkdir reached (base ++ (names ++ [name]))).1.fs.node loc = some .dir := by
          intro loc member
          rcases new loc member with old | ⟨rfl, isDir⟩
          · refine (touched loc old).imp_right fun ⟨ahead, isDir⟩ => ⟨ahead.trans longer, ?_⟩
            exact (grows loc (by rw [isDir]; exact nofun)).trans isDir
          · exact Or.inr ⟨List.prefix_refl _, isDir⟩
        split
        · rename_i created
          rw [created] at after last all
          exact ⟨after, fun _ => last rfl, all⟩
        · rename_i failed
          rw [failed] at after all
          split
          · rename_i there
            exact ⟨after, fun _ => after.node_of_stat plain (Or.inl (by simp)) there, all⟩
          · exact ⟨after, nofun, all⟩

end Linkless

end Porter.Os
