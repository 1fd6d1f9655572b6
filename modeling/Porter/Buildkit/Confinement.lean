import Porter.Buildkit.Unpack
import Porter.Os.Confined
import Porter.Run.Guarded

/-!
# Where unpacking writes

Unpacking takes one entry after another, and what an entry's path leads to depends on the links the
entries before it have made.
-/
namespace Porter.Buildkit

open Go Os Run Shell

variable {root : List String}

theorem join_plain (plainRoot : ∀ name ∈ root, Plain name) (rel : Path)
    (plain : ∀ name ∈ rel.names, Plain name) :
    (Path.join ⟨true, root⟩ rel).names = root ++ rel.names :=
  Path.join_names ⟨0, root, rfl, plainRoot, fun _ => rfl⟩ rel plain

theorem join_up (plainRoot : ∀ name ∈ root, Plain name) (rooted : Bool) :
    (Path.join ⟨true, root⟩ ⟨rooted, [".."]⟩).names = root.dropLast := by
  change Path.reduce true [] (root ++ [".."]) = _
  rw [Path.reduce_append_plain _ [] plainRoot, List.append_nil]
  rcases List.eq_nil_or_concat root with rfl | ⟨front, last, rfl⟩
  · rfl
  · have final := plainRoot last (by simp)
    simp [Path.reduce, final.2.2]

variable {dir names : List String} {name : String}

variable (plain : ∀ other ∈ dir, Plain other)

include plain

theorem joinName_plain (last : Plain name) : (joinName ⟨true, dir⟩ name).names = dir ++ [name] :=
  join_plain plain ⟨false, [name]⟩ (List.forall_mem_singleton.mpr last)

theorem joinName_dot (dots : name = "" ∨ name = ".") : (joinName ⟨true, dir⟩ name).names = dir := by
  change Path.reduce true [] (dir ++ [name]) = _
  rw [Path.reduce_append_plain _ [] plain, List.append_nil]
  simp [Path.reduce, dots]

theorem joinName_up : (joinName ⟨true, dir⟩ "..").names = dir.dropLast :=
  join_up plain false

omit plain

theorem joinName_below (plainRoot : ∀ other ∈ root, Plain other)
    (plain : ∀ other ∈ dir, Plain other) (named : (joinName ⟨true, dir⟩ name).names ≠ []) :
    (joinName ⟨true, root ++ dir⟩ name).names = root ++ (joinName ⟨true, dir⟩ name).names ∧
      ∀ other ∈ (joinName ⟨true, dir⟩ name).names, Plain other := by
  have both : ∀ other ∈ root ++ dir, Plain other :=
    List.forall_mem_append.mpr ⟨plainRoot, plain⟩
  by_cases dots : name = "" ∨ name = "."
  · rw [joinName_dot both dots, joinName_dot plain dots]
    exact ⟨rfl, plain⟩
  · by_cases up : name = ".."
    · subst up
      rw [joinName_up plain] at named ⊢
      have nonempty : dir ≠ [] := by
        rintro rfl
        exact named rfl
      rw [joinName_up both, List.dropLast_append_of_ne_nil nonempty]
      exact ⟨rfl, fun other member => plain other (List.dropLast_subset dir member)⟩
    · rw [not_or] at dots
      have last : Plain name := ⟨dots.1, dots.2, up⟩
      rw [joinName_plain both last, joinName_plain plain last, List.append_assoc]
      exact ⟨rfl, List.forall_mem_append.mpr ⟨plain, List.forall_mem_singleton.mpr last⟩⟩

theorem plain_of_cleaned {rel : Path} (cleaned : Path.Cleaned rel.rooted rel.names)
    (level : climbs rel = false) (notUp : ¬ (rel.rooted = false ∧ rel.names = [".."])) :
    ∀ name ∈ rel.names, Plain name := by
  obtain ⟨ups, down, same, plains, none⟩ := cleaned
  cases ups with
  | zero =>
    rw [same]
    exact plains
  | succ ups =>
    have relative : rel.rooted = false := by
      cases rooted : rel.rooted with
      | false => rfl
      | true => exact absurd (none rooted) (Nat.succ_ne_zero ups)
    have head : rel.names.head? = some ".." := by rw [same]; rfl
    have one : rel.names.length = 1 := by simpa [climbs, relative, head] using level
    obtain ⟨name, single⟩ := List.length_eq_one_iff.mp one
    rw [single] at head
    refine absurd ⟨relative, ?_⟩ notUp
    rw [single, Option.some.inj head]

def staysInside (fs : Fs) (top : Loc) (names : List String) : Bool :=
  stays fs top maxLinks top names

/-- No link on the way to the location of an entry, or at the end of a file, leads out of the root,
a whiteout names something below the root, and no link takes the place of the root or the directory
above. -/
def entryInside (fs : Fs) (top : Loc) (h : TarEntry) : Bool :=
  let rel := Path.clean h.name
  if isDot rel || climbs rel then true
  else if rel.names = [] || (!rel.rooted && rel.names = [".."]) then h.kind ≠ .symlink
  else if isWhiteout rel.base then
    if rel.base = ".wh..wh..opq" then staysInside fs top rel.names.dropLast
    else
      let gone := (joinName ⟨true, rel.names.dropLast⟩ (whiteoutTarget rel.base)).names
      gone ≠ [] && staysInside fs top gone.dropLast
  else
    match h.kind with
    | .reg => staysInside fs top rel.names
    | .dir | .symlink => staysInside fs top rel.names.dropLast
    | .other => true

section Entry

variable {start : Fs} {root : List String} {top : Loc} {left : Nat} {disk : Disk}

theorem prefix_of_staysInside (anchored : Anchored start root top left) {more : List String}
    {follow : Bool} {loc : Loc} (stays : staysInside disk.fs top (names ++ more) = true)
    (found : lookup disk.fs follow left top names = .ok loc) : top <+: loc :=
  prefix_of_leads (leads_of_lookup found) anchored.few (List.prefix_refl top) stays

theorem inside_of_staysInside (anchored : Anchored start root top left) {front : List String}
    (stays : staysInside disk.fs top names = true) (ahead : front <+: names) :
    Inside disk.fs top left front := by
  obtain ⟨more, rfl⟩ := ahead
  exact fun dir found _ => prefix_of_staysInside anchored stays found

variable (confined : Confined start top disk)

include confined

theorem confined_removeAll
    (anchored : Anchored start root top left) (plain : ∀ name ∈ names, Plain name)
    (named : names ≠ []) (inside : Inside disk.fs top left names.dropLast) :
    Confined start top (removeAll disk (root ++ names)).1 := by
  obtain ⟨front, last, rfl⟩ := (List.eq_nil_or_concat names).resolve_left named
  rw [List.concat_eq_append] at plain inside ⊢
  rw [List.dropLast_concat] at inside
  exact (confined.removeAll anchored (plain last (by simp)) inside).1

theorem confined_emptied
    (anchored : Anchored start root top left) (plainRoot : ∀ name ∈ root, Plain name)
    (plain : ∀ name ∈ dir, Plain name) (inside : Inside disk.fs top left dir)
    {entries : List String} (plains : ∀ name ∈ entries, Plain name) :
    Confined start top (entries.foldl
      (fun disk name => (removeAll disk (joinName ⟨true, root ++ dir⟩ name).names).1) disk) := by
  induction entries generalizing disk with
  | nil => exact confined
  | cons name rest recurse =>
    have first := plains name List.mem_cons_self
    have path : (joinName ⟨true, root ++ dir⟩ name).names = root ++ (dir ++ [name]) := by
      rw [joinName_plain (List.forall_mem_append.mpr ⟨plainRoot, plain⟩) first,
        List.append_assoc]
    rw [List.foldl_cons, path]
    obtain ⟨removed, smaller⟩ := confined.removeAll anchored first inside
    exact recurse removed (inside.mono smaller)
      fun other member => plains other (List.mem_cons_of_mem _ member)

omit confined in
theorem plain_of_mem_readDir {fs : Fs} (tree : fs.Tree) (member : name ∈ readDir fs names) :
    Plain name := by
  unfold readDir at member
  split at member
  · split at member
    · exact tree.plain _ _ (mem_children.mp member)
    · contradiction
  · contradiction

variable {dst : Path}

theorem confined_applyWhiteout (anchored : Anchored start root top left)
    (plainRoot : ∀ name ∈ root, Plain name) (plain : ∀ name ∈ dir, Plain name)
    (rooted : dst.rooted = true) (path : dst.dir.names = root ++ dir) {base : String}
    (inside : (if base = ".wh..wh..opq" then staysInside disk.fs top dir
      else
        let gone := (joinName ⟨true, dir⟩ (whiteoutTarget base)).names
        gone ≠ [] && staysInside disk.fs top gone.dropLast) = true) :
    Confined start top (applyWhiteout disk dst base) := by
  have parent : dst.dir = ⟨true, root ++ dir⟩ := by
    rw [← path, ← rooted]
    rfl
  unfold applyWhiteout
  rw [parent]
  split
  · rename_i empties
    rw [if_pos empties] at inside
    exact confined_emptied confined anchored plainRoot plain
      (inside_of_staysInside anchored inside (List.prefix_refl dir))
      fun name member => plain_of_mem_readDir confined.tree member
  · rename_i single
    rw [if_neg single] at inside
    simp only [Bool.and_eq_true, decide_eq_true_eq] at inside
    obtain ⟨named, inside⟩ := inside
    obtain ⟨path, plains⟩ := joinName_below plainRoot plain named
    rw [path]
    exact confined_removeAll confined anchored plains named
      (inside_of_staysInside anchored inside (List.prefix_refl _))

variable {h : TarEntry}

theorem confined_placeEntry (anchored : Anchored start root top left)
    (plain : ∀ other ∈ dir ++ [name], Plain other) (path : dst.names = root ++ (dir ++ [name]))
    (inside : (match h.kind with
      | .reg => staysInside disk.fs top (dir ++ [name])
      | .dir | .symlink => staysInside disk.fs top dir
      | .other => true) = true) : Confined start top (placeEntry disk dst h).1 := by
  have last := plain name (by simp)
  have plains : ∀ other ∈ dir, Plain other := fun other member => plain other (by simp [member])
  have parent : dst.dir.names = root ++ dir := by
    change dst.names.dropLast = _
    rw [path, ← List.append_assoc, List.dropLast_concat]
  unfold placeEntry
  rw [parent, path]
  cases kind : h.kind with
  | other => exact confined
  | dir =>
    rw [kind] at inside
    refine (confined.mkdirAll anchored plain fun front ahead => ?_).1
    rw [List.dropLast_concat] at ahead
    exact inside_of_staysInside anchored inside ahead
  | reg =>
    rw [kind] at inside
    obtain ⟨after, made⟩ := confined.mkdirAll anchored plains fun front ahead =>
      inside_of_staysInside anchored inside
        (ahead.trans ((List.dropLast_prefix dir).trans (List.prefix_append dir [name])))
    simp only
    split
    · rename_i failed
      rw [failed] at after
      exact after
    · rename_i new done
      rw [done] at after made
      have lands : ∀ loc, lookup new.fs true left top (dir ++ [name]) = .ok loc → top <+: loc := by
        obtain ⟨parent, leads, isDir, same | ⟨below, empty⟩⟩ := made rfl
        · rw [show new.fs = disk.fs from same]
          exact fun loc => prefix_of_staysInside anchored (by rwa [List.append_nil])
        · intro loc found
          obtain ⟨rest, -, goes⟩ := lookup_keeps leads isDir
          have free := empty _ (under_concat (List.prefix_refl parent) name)
          rw [goes _ (Keeps.refl _) true [name] (Or.inr rfl),
            lookup_last last fun _ _ => by rw [free]; exact nofun] at found
          obtain rfl := Except.ok.inj found
          exact below.trans (List.prefix_append parent [name])
      have written := after.writeFile anchored lands h.data
      split
      · rename_i failed
        rw [failed] at written
        exact written
      · rename_i stored
        rw [stored] at written
        exact written
  | symlink =>
    rw [kind] at inside
    obtain ⟨after, made⟩ := confined.mkdirAll anchored plains fun front ahead =>
      inside_of_staysInside anchored inside (ahead.trans (List.dropLast_prefix dir))
    simp only
    split
    · rename_i failed
      rw [failed] at after
      exact after
    · rename_i done
      rw [done] at after made
      have still :=
        (made rfl).lands (inside_of_staysInside anchored inside (List.prefix_refl dir))
      obtain ⟨removed, smaller⟩ := after.removeAll anchored last still
      exact removed.symlink anchored last (still.mono smaller) h.linkname

omit confined in
theorem placeEntry_existing (tree : disk.fs.Tree) (found : stat disk.fs true dst.names = .ok .dir)
    (kind : h.kind ≠ .symlink) : (placeEntry disk dst h).1 = disk := by
  have above : stat disk.fs true dst.dir.names = .ok .dir := stat_dropLast tree found
  have blocked : (writeFile disk dst.names h.data) = (disk, some .isdir) := by
    obtain ⟨loc, located, isDir⟩ := stat_eq_ok.mp found
    unfold writeFile
    rw [located]
    simp only [isDir]
  unfold placeEntry
  cases same : h.kind with
  | other => rfl
  | dir => simp only [mkdirAll_existing found]
  | reg => simp only [mkdirAll_existing above, blocked]
  | symlink => exact absurd same kind

theorem existing_of_special
    (anchored : Anchored start root top left) (plainRoot : ∀ name ∈ root, Plain name) {rel : Path}
    (taken : isDot rel = false ∧ climbs rel = false)
    (special : rel.names = [] ∨ rel.rooted = false ∧ rel.names = [".."]) :
    isWhiteout rel.base = false ∧
      stat disk.fs true (Path.join ⟨true, root⟩ rel).names = .ok .dir := by
  have known := confined.stat_base anchored
  rcases special with empty | ⟨relative, up⟩
  · have rooted : rel.rooted = true := by simpa [isDot, empty] using taken.1
    have base : rel.base = "/" := by simp [Path.base, empty, rooted]
    rw [base, join_plain plainRoot rel (by simp [empty]), empty, List.append_nil]
    exact ⟨by decide, known⟩
  · obtain ⟨rooted, names⟩ := rel
    subst up
    rw [join_up plainRoot]
    have base : isWhiteout ".." = false := by decide
    exact ⟨base, stat_dropLast confined.tree known⟩

theorem confined_applyEntry (anchored : Anchored start root top left)
    (plainRoot : ∀ name ∈ root, Plain name) (inside : entryInside disk.fs top h = true) :
    Confined start top (applyEntry root disk h).1 := by
  unfold applyEntry
  unfold entryInside at inside
  have cleaned := Path.cleaned_clean h.name
  simp only at inside ⊢
  generalize Path.clean h.name = rel at *
  split
  · exact confined
  · rename_i taken
    rw [if_neg taken] at inside
    have level : climbs rel = false := by
      simp only [Bool.or_eq_true, not_or] at taken
      simpa using taken.2
    split at inside
    · rename_i special
      have kind : h.kind ≠ .symlink := by simpa using inside
      have above := existing_of_special confined anchored plainRoot (by simpa using taken)
        (by simpa using special)
      rw [above.1, if_neg (by decide), placeEntry_existing confined.tree above.2 kind]
      exact confined
    · rename_i ordinary
      simp only [Bool.or_eq_true, Bool.and_eq_true, not_or, decide_eq_true_eq,
        Bool.not_eq_true'] at ordinary
      have plain := plain_of_cleaned cleaned level ordinary.2
      obtain ⟨dir, name, names⟩ := (List.eq_nil_or_concat rel.names).resolve_left ordinary.1
      rw [List.concat_eq_append] at names
      have path := join_plain plainRoot rel plain
      have base : rel.base = name := by simp [Path.base, names]
      have front : rel.names.dropLast = dir := by rw [names, List.dropLast_concat]
      rw [base, front] at inside
      rw [base]
      rw [names] at plain path inside
      split
      · rename_i removes
        rw [if_pos removes] at inside
        refine confined_applyWhiteout confined anchored plainRoot
          (fun other member => plain other (by simp [member])) rfl ?_ inside
        change (Path.join ⟨true, root⟩ rel).names.dropLast = _
        rw [path, ← List.append_assoc, List.dropLast_concat]
      · rename_i places
        rw [if_neg places] at inside
        exact confined_placeEntry confined anchored plain path inside

theorem confined_installInit
    (anchored : Anchored start root top left) (plainRoot : ∀ name ∈ root, Plain name)
    (script : Bytes) (inside : staysInside disk.fs top ["sbin"] = true) :
    Confined start top (installInit root script disk).1 := by
  have plain : ∀ name ∈ ["sbin", "init"], Plain name := by decide
  have path : (Path.join ⟨true, root⟩ ⟨false, ["sbin", "init"]⟩).names =
      root ++ (["sbin"] ++ ["init"]) := join_plain plainRoot ⟨false, ["sbin", "init"]⟩ plain
  have parent : (Path.join ⟨true, root⟩ ⟨false, ["sbin", "init"]⟩).dir.names =
      root ++ ["sbin"] := by
    change (Path.join ⟨true, root⟩ ⟨false, ["sbin", "init"]⟩).names.dropLast = _
    rw [path, ← List.append_assoc, List.dropLast_concat]
  unfold installInit
  simp only
  rw [parent, path]
  obtain ⟨after, made⟩ := confined.mkdirAll anchored (by decide) fun front ahead =>
    inside_of_staysInside anchored inside (ahead.trans (List.dropLast_prefix _))
  split
  · rename_i failed
    rw [failed] at after
    exact after
  · rename_i disk' done
    rw [done] at after made
    have kept := (made rfl).lands (inside_of_staysInside anchored inside (List.prefix_refl _))
    have removed := after.remove anchored (plain "init" (by simp)) kept
    have written := fun done => after.writeFile_removed anchored (plain "init" (by simp)) kept done
      script
    split
    · rename_i gone
      rw [gone] at written
      exact written (Or.inl rfl)
    · rename_i missing
      rw [missing] at written
      exact written (Or.inr rfl)
    · rename_i failed
      rw [failed] at removed
      exact removed

end Entry

inductive UnpackStep where
  | entry (h : TarEntry)
  | stop (err : Failure)
  | init (script : Bytes)

variable (root : List String)

def unpackStep (progress : Disk × Option Failure) (step : UnpackStep) : Disk × Option Failure :=
  match progress.2 with
  | some _ => progress
  | none =>
    match step with
    | .entry h => applyEntry root progress.1 h
    | .stop err => (progress.1, some err)
    | .init script => installInit root script progress.1

def layerSteps (file : TarFile) : List UnpackStep :=
  file.entries.map .entry ++ (file.ending.map fun err => .stop (.text err)).toList

def layersSteps (formats : Formats) (archive : Except String TarFile) :
    List String → List UnpackStep
  | [] => []
  | digest :: rest =>
    match readBlob archive digest with
    | .error err => [.stop (.text err)]
    | .ok data => layerSteps (formats.layer data) ++ layersSteps formats archive rest

variable (formats : Formats) (archive : Except String TarFile)

def ociSteps : List UnpackStep :=
  match firstManifest formats archive with
  | .error err => [.stop (.text err)]
  | .ok manifest => layersSteps formats archive manifest.layers

def initSteps : List UnpackStep :=
  match readOCIConfig formats archive with
  | .error .panic => [.stop .panic]
  | .error _ => []
  | .ok cfg =>
    match buildInitScript cfg.entrypoint cfg.cmd cfg.env cfg.workingDir with
    | .error _ => []
    | .ok script => [.init script]

def unpackSteps : List UnpackStep :=
  ociSteps formats archive ++ initSteps formats archive

theorem run_failed (disk : Disk) (err : Failure) (steps : List UnpackStep) :
    run (unpackStep root) (disk, some err) steps = (disk, some err) := by
  induction steps with
  | nil => rfl
  | cons step rest recurse => exact recurse

theorem run_layerSteps (disk : Disk) (file : TarFile) :
    run (unpackStep root) (disk, none) (layerSteps file) =
      applyEntries root file.ending disk file.entries := by
  obtain ⟨entries, ending⟩ := file
  induction entries generalizing disk with
  | nil => cases ending <;> rfl
  | cons h rest recurse =>
    change run (unpackStep root) (applyEntry root disk h) (layerSteps ⟨rest, ending⟩) =
      applyEntries root ending disk (h :: rest)
    unfold applyEntries
    split
    · rename_i failed
      rw [failed]
      exact run_failed _ _ _ _
    · rename_i done
      rw [done]
      exact recurse _

theorem run_layersSteps (root : List String) (disk : Disk) (digests : List String) :
    run (unpackStep root) (disk, none) (layersSteps formats archive digests) =
      applyLayers formats archive root disk digests := by
  induction digests generalizing disk with
  | nil => rfl
  | cons digest rest recurse =>
    unfold layersSteps applyLayers
    cases readBlob archive digest with
    | error err => rfl
    | ok data =>
      simp only
      rw [run_append, run_layerSteps]
      change run (unpackStep root) (applyLayer formats data root disk) _ = _
      split
      · rename_i failed
        rw [failed]
        exact run_failed _ _ _ _
      · rename_i done
        rw [done]
        exact recurse _

theorem run_unpackSteps (root : List String) (disk : Disk) :
    run (unpackStep root) (disk, none) (unpackSteps formats archive) =
      unpackImage formats archive root disk := by
  have layers : run (unpackStep root) (disk, none) (ociSteps formats archive) =
      unpackOCI formats archive root disk := by
    unfold ociSteps unpackOCI
    cases firstManifest formats archive with
    | error err => rfl
    | ok manifest => exact run_layersSteps formats archive root disk manifest.layers
  unfold unpackSteps unpackImage
  rw [run_append, layers]
  split
  · rename_i failed
    rw [failed]
    exact run_failed _ _ _ _
  · rename_i done
    rw [done]
    unfold initSteps
    cases readOCIConfig formats archive with
    | error err => cases err <;> rfl
    | ok cfg =>
      simp only
      cases buildInitScript cfg.entrypoint cfg.cmd cfg.env cfg.workingDir <;> rfl

def stepInside (top : Loc) (progress : Disk × Option Failure) (step : UnpackStep) : Bool :=
  progress.2.isSome ||
    match step with
    | .entry h => entryInside progress.1.fs top h
    | .stop _ => true
    | .init _ => staysInside progress.1.fs top ["sbin"]

theorem confined_unpackStep {start : Fs} {root : List String} {top : Loc} {left : Nat}
    (anchored : Anchored start root top left) (plainRoot : ∀ name ∈ root, Plain name)
    (progress : Disk × Option Failure) (step : UnpackStep)
    (confined : Confined start top progress.1)
    (inside : stepInside top progress step = true) :
    Confined start top (unpackStep root progress step).1 := by
  obtain ⟨disk, failed⟩ := progress
  cases failed with
  | some err => exact confined
  | none =>
    cases step with
    | entry h => exact confined_applyEntry confined anchored plainRoot inside
    | stop err => exact confined
    | init script => exact confined_installInit confined anchored plainRoot script inside

theorem makeRoot_anchored {host : Host} {disk : Disk} {root : List String}
    (made : makeRoot host = (disk, .ok root)) :
    (∀ name ∈ root, Plain name) ∧ disk.fs.Tree ∧
      ∃ top left, locate disk.fs true root = .ok top ∧ Anchored disk.fs root top left ∧
        ∀ loc, Under top loc → disk.fs.node loc = none := by
  have long : ∀ number : Nat, Plain ("porter-oci-root-" ++ toString number) := by
    intro number
    have length : 16 ≤ ("porter-oci-root-" ++ toString number).length := by
      rw [String.length_append]
      exact Nat.le_add_right 16 _
    refine ⟨?_, ?_, ?_⟩ <;> intro short <;> rw [short] at length <;> exact absurd length (by decide)
  obtain ⟨⟨number, rfl⟩, tree, leads⟩ := anchored_mkdirTemp host.tree long made
  exact ⟨List.forall_mem_append.mpr ⟨host.plain, List.forall_mem_singleton.mpr (long number)⟩,
    tree, leads⟩

/-- Everything a conversion creates, overwrites or removes lies strictly inside the temporary
directory, if every step keeps to the image in the tree it finds. -/
theorem unpacking_confined (formats : Formats) (archive : Except String TarFile) (host : Host)
    {disk : Disk} {root : List String} {top : Loc} (made : makeRoot host = (disk, .ok root))
    (real : locate disk.fs true root = .ok top)
    (guarded : Guarded (unpackStep root) (fun progress step => stepInside top progress step = true)
      (⟨disk.fs, []⟩, none) (unpackSteps formats archive)) :
    ∃ final failed, convertOCIToExt4 formats archive host = .ok (root, final, failed) ∧
      ∀ loc ∈ final.touched, Under top loc := by
  obtain ⟨plainRoot, tree, found, left, located, anchored, -⟩ := makeRoot_anchored made
  obtain rfl : found = top := Except.ok.inj (located.symm.trans real)
  have confined := run_invariant (unpackStep root)
    (fun progress step => stepInside found progress step = true)
    (fun progress => Confined disk.fs found progress.1)
    (fun progress step => confined_unpackStep anchored plainRoot progress step)
    (⟨disk.fs, []⟩, none) (unpackSteps formats archive)
    ⟨tree, fun _ _ => rfl, nofun⟩ guarded
  rw [run_unpackSteps] at confined
  refine ⟨(unpackImage formats archive root ⟨disk.fs, []⟩).1,
    (unpackImage formats archive root ⟨disk.fs, []⟩).2, ?_, confined.touched⟩
  unfold convertOCIToExt4
  rw [made]

def smallHost : Host where
  fs := GoMap.nil.setAll [(["tmp"], .dir), (["etc"], .dir), (["etc", "passwd"], .file [])]
  tree := Fs.tree_of_rows (by decide +kernel)
  tempDir := ["tmp"]
  plain := by decide
  numbers := [1]

def smallRoot : List String := ["tmp", "porter-oci-root-1"]

def tarEntry (name : String) (kind : EntryKind) (linkname : String) : TarEntry :=
  ⟨name, kind, linkname, [0], none⟩

def oneLayer (entries : List TarEntry) : Formats where
  layer := fun _ => ⟨entries, none⟩
  index := fun _ => .ok ["sha256:m"]
  manifest := fun _ => .ok ⟨"sha256:c", ["sha256:l"]⟩
  config := fun _ => .ok ⟨[utf8 "/app"], [], [], []⟩

def smallArchive : Except String TarFile :=
  .ok ⟨["index.json", "blobs/sha256/m", "blobs/sha256/c", "blobs/sha256/l"].map
    (tarEntry · .reg ""), none⟩

def systemLayer : List TarEntry :=
  [tarEntry "./usr/sbin/" .dir "", tarEntry "sbin" .symlink "usr/sbin",
    tarEntry "sbin/init" .symlink "/lib/systemd/systemd", tarEntry "etc/hostname" .reg "",
    tarEntry "etc/.wh.hostname" .reg "", tarEntry "../../etc/passwd" .reg ""]

theorem makeRoot_smallHost : makeRoot smallHost = ((makeRoot smallHost).1, .ok smallRoot) :=
  Prod.ext rfl (by decide +kernel)

theorem locate_smallRoot : locate (makeRoot smallHost).1.fs true smallRoot = .ok smallRoot := by
  decide +kernel

theorem unpacking_confined_system :
    Guarded (unpackStep smallRoot)
        (fun progress step => stepInside smallRoot progress step = true)
        (⟨(makeRoot smallHost).1.fs, []⟩, none) (unpackSteps (oneLayer systemLayer) smallArchive) ∧
      ∃ final failed, convertOCIToExt4 (oneLayer systemLayer) smallArchive smallHost =
          .ok (smallRoot, final, failed) ∧ ∀ loc ∈ final.touched, Under smallRoot loc := by
  have guarded : Guarded (unpackStep smallRoot)
      (fun progress step => stepInside smallRoot progress step = true)
      (⟨(makeRoot smallHost).1.fs, []⟩, none)
      (unpackSteps (oneLayer systemLayer) smallArchive) := by
    decide +kernel
  exact ⟨guarded, unpacking_confined (oneLayer systemLayer) smallArchive smallHost
    makeRoot_smallHost locate_smallRoot guarded⟩

def escapingLayer : List TarEntry :=
  [tarEntry "out" .symlink "/etc", tarEntry "out/passwd" .reg ""]

theorem linked_entry_escapes :
    locate (makeRoot smallHost).1.fs true smallRoot = .ok smallRoot ∧
      ∃ final failed, convertOCIToExt4 (oneLayer escapingLayer) smallArchive smallHost =
          .ok (smallRoot, final, failed) ∧
        ["etc", "passwd"] ∈ final.touched ∧ ¬ Under smallRoot ["etc", "passwd"] := by
  refine ⟨locate_smallRoot,
    (unpackImage (oneLayer escapingLayer) smallArchive smallRoot ⟨(makeRoot smallHost).1.fs, []⟩).1,
    (unpackImage (oneLayer escapingLayer) smallArchive smallRoot ⟨(makeRoot smallHost).1.fs, []⟩).2,
    ?_, by decide +kernel, fun under => absurd under.1 (by decide)⟩
  unfold convertOCIToExt4
  rw [makeRoot_smallHost]

end Porter.Buildkit
