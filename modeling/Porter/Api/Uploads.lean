import Mathlib.Data.List.DropRight
import Porter.Api.Deployments
import Porter.Os.Direct

/-!
# Uploaded images

`unzipTo` writes each entry of an archive below its destination, and skips names that lead out of
it. No entry makes a link, so none redirects another.
-/
namespace Porter.Api

open Go Os Projects

structure ZipEntry where
  name : String
  isDir : Bool
  content : Except String (List UInt8)

variable (cwd : Loc)

def resolve (p : Path) : List String := if p.rooted then p.names else cwd ++ p.names

def unzipEntry (cleanDest : Path) (disk : Disk) (f : ZipEntry) : Disk :=
  let name := Path.clean f.name
  -- on a cleaned path, `..` or a prefix `../` is a first element `..`
  if name.rooted || name.names.head? = some ".." then disk
  else
    let target := cleanDest.join name
    if target.render ≠ cleanDest.render && !hasPrefix target.render (cleanDest.render ++ "/") then
      disk
    else if f.isDir then (mkdirAll disk (resolve cwd target)).1
    else
      match mkdirAll disk (resolve cwd target.dir) with
      | (disk, some _) => disk
      | (disk, none) =>
        match f.content with
        | .error _ => disk
        | .ok content => (writeFile disk (resolve cwd target) content).1

/-- `unzipTo`, with what the zip reader delivers and the cleaned destination. -/
def unzipTo (src : Except String (List ZipEntry)) (cleanDest : Path) (disk : Disk) :
    Disk × Option String :=
  match src with
  | .error err => (disk, some err)
  | .ok files => (files.foldl (unzipEntry cwd cleanDest) disk, none)

section Entries

variable {cwd} {start : Fs} {dest : Path} {top : Loc} {disk : Disk}

theorem resolve_join (cleaned : Path.Cleaned dest.rooted dest.names) {name : Path}
    (plain : ∀ other ∈ name.names, Plain other) :
    resolve cwd (dest.join name) = resolve cwd dest ++ name.names := by
  have names := Path.join_names cleaned name plain
  have rooted : (dest.join name).rooted = dest.rooted := rfl
  unfold resolve
  rw [names, rooted]
  split
  · rfl
  · rw [List.append_assoc]

theorem resolve_dir (named : dest.names ≠ []) :
    resolve cwd dest.dir = (resolve cwd dest).dropLast := by
  unfold resolve Path.dir
  dsimp only
  split
  · rfl
  · rw [List.dropLast_append_of_ne_nil named]

theorem writeFile_base (direct : Linkless start (resolve cwd dest) top disk)
    (content : List UInt8) :
    mkdirAll disk (resolve cwd dest.dir) = (disk, none) ∧
      (writeFile disk (resolve cwd dest) content).1 = disk := by
  constructor
  · apply mkdirAll_existing
    by_cases named : dest.names = []
    · have same : dest.dir = dest := Go.Path.ext rfl (by simp [Path.dir, named])
      rw [same]
      exact direct.stat_base
    · rw [resolve_dir named]
      exact stat_dropLast direct.tree direct.stat_base
  · unfold writeFile
    simp only [direct.leads, direct.isDir]

theorem linkless_unzipEntry (cleaned : Path.Cleaned dest.rooted dest.names)
    (direct : Linkless start (resolve cwd dest) top disk) (f : ZipEntry) :
    Linkless start (resolve cwd dest) top (unzipEntry cwd dest disk f) := by
  unfold unzipEntry
  have level := Path.cleaned_clean f.name
  dsimp only
  generalize Path.clean f.name = name at *
  split
  · exact direct
  · rename_i inside
    simp only [Bool.or_eq_true, decide_eq_true_eq, not_or] at inside
    have plain := level.plain inside.2
    have path : resolve cwd (dest.join name) = _ := resolve_join cleaned plain
    split
    · exact direct
    · split
      · rw [path]
        exact (direct.mkdirAll plain).1
      · rcases List.eq_nil_or_concat name.names with empty | ⟨dir, last, names⟩
        · have same : dest.join name = dest := by
            have names := Path.join_names cleaned name plain
            rw [empty, List.append_nil] at names
            exact Go.Path.ext rfl names
          have kept := fun content => writeFile_base direct content
          rw [same, (kept []).1]
          cases f.content with
          | error err => exact direct
          | ok content =>
            simp only [(kept content).2]
            exact direct
        · rw [List.concat_eq_append] at names
          rw [names] at plain path
          have parent : resolve cwd (dest.join name).dir = resolve cwd dest ++ dir := by
            have longer : (dest.join name).names ≠ [] := by
              rw [Path.join_names cleaned name (names ▸ plain), names]
              simp
            rw [resolve_dir longer, path, ← List.append_assoc, List.dropLast_concat]
          have made := (direct.mkdirAll (List.forall_mem_append.mp plain).1).1
          rw [parent, path]
          split
          · rename_i failed
            rwa [failed] at made
          · rename_i done
            rw [done] at made
            split
            · exact made
            · exact made.writeFile plain _

theorem linkless_unzipTo (cleaned : Path.Cleaned dest.rooted dest.names)
    (direct : Linkless start (resolve cwd dest) top disk) (src : Except String (List ZipEntry)) :
    Linkless start (resolve cwd dest) top (unzipTo cwd src dest disk).1 := by
  cases src with
  | error err => exact direct
  | ok files =>
    change Linkless start (resolve cwd dest) top (files.foldl (unzipEntry cwd dest) disk)
    induction files generalizing disk with
    | nil => exact direct
    | cons f rest recurse => exact recurse (linkless_unzipEntry cleaned direct f)

end Entries

/-- Everything `unzipTo` writes lies at or below the destination, if that is a directory without
links, and everything outside stays. -/
theorem unzipTo_confined (fs : Fs) (tree : fs.Tree) (src : Except String (List ZipEntry))
    (dest : String) {top : Loc} (leads : locate fs true (resolve cwd (Path.clean dest)) = .ok top)
    (isDir : fs.node top = some .dir)
    (linkless : ∀ loc, top <+: loc → ∀ target, fs.node loc ≠ some (.symlink target)) :
    (∀ loc ∈ (unzipTo cwd src (Path.clean dest) ⟨fs, []⟩).1.touched, top <+: loc) ∧
      ∀ loc, ¬ top <+: loc →
        (unzipTo cwd src (Path.clean dest) ⟨fs, []⟩).1.fs.node loc = fs.node loc := by
  have direct : Linkless fs (resolve cwd (Path.clean dest)) top ⟨fs, []⟩ :=
    ⟨⟨tree, fun _ _ => rfl, nofun⟩, leads, isDir, fun names => linkless _ (List.prefix_append ..)⟩
  have after := linkless_unzipTo (Path.cleaned_clean _) direct src
  exact ⟨fun loc member => (after.touched loc member).1,
    fun loc beside => after.outside loc fun under => beside under.1⟩

def imagesFs : Fs := GoMap.nil.setAll
  [(["srv"], .dir), (["srv", "images"], .dir), (["srv", "images", "a"], .dir)]

theorem imagesFs_tree : imagesFs.Tree := Fs.tree_of_rows (by decide +kernel)

theorem imagesFs_linkless (loc : Loc) (target : String) :
    imagesFs.node loc ≠ some (.symlink target) := by
  intro held
  unfold Fs.node at held
  split at held
  · cases held
  · obtain ⟨entry, found, isLink⟩ := Option.map_eq_some_iff.mp held
    have member := ((Sql.Table.find_eq_some _ _ _).mp found).1
    have dirs : ∀ entry ∈ imagesFs.rows, entry.2 = .dir := by decide +kernel
    rw [dirs entry member] at isLink
    contradiction

def zipFile (name : String) : ZipEntry := ⟨name, false, .ok [0]⟩

theorem unzipTo_confined_images :
    locate imagesFs true (resolve ["srv"] (Path.clean "images//a/")) = .ok ["srv", "images", "a"] ∧
      ∀ loc ∈ (unzipTo ["srv"] (.ok [zipFile "x//y", zipFile "../up", zipFile "/abs"])
        (Path.clean "images//a/") ⟨imagesFs, []⟩).1.touched, ["srv", "images", "a"] <+: loc := by
  have leads : locate imagesFs true (resolve ["srv"] (Path.clean "images//a/")) =
      .ok ["srv", "images", "a"] := by decide +kernel
  exact ⟨leads, (unzipTo_confined ["srv"] imagesFs imagesFs_tree _ "images//a/" leads
    (by decide +kernel) fun loc _ => imagesFs_linkless loc).1⟩

def baseText (text : String) : String :=
  let last := (text.toList.rdropWhile (· = '/')).rtakeWhile (· ≠ '/')
  if text = "" then "." else if last = [] then "/" else String.ofList last

structure UploadForm where
  parseErr : Option String
  name : String
  file : Except String (Except String (List ZipEntry))

inductive Upload where
  | error (status : Nat) (message : String)
  | mkdir (err : Errno)
  | unpacked (dest : Path)

/-- `handleUploadCustomImage` up to the validation of the artifacts. -/
def handleUploadCustomImage (customImagesDir : String) (form : UploadForm) (disk : Disk) :
    Disk × Upload :=
  if customImagesDir = "" then (disk, .error statusBadRequest "custom images dir not configured")
  else
    match form.parseErr with
    | some err => (disk, .error statusBadRequest ("multipart parse: " ++ err))
    | none =>
      let name := baseText (trimSpace form.name)
      if name = "" || name = "." || name = "/" then
        (disk, .error statusBadRequest "name is required")
      else
        match form.file with
        | .error _ => (disk, .error statusBadRequest "file (zip) is required")
        | .ok file =>
          let dest := (Path.clean customImagesDir).join ⟨false, [name]⟩
          match mkdirAll disk (resolve cwd dest) with
          | (disk, some err) => (disk, .mkdir err)
          | (disk, none) =>
            let (unzipped, err) := unzipTo cwd file dest ⟨disk.fs, []⟩
            (⟨unzipped.fs, disk.touched ++ unzipped.touched⟩,
              match err with
              | some err => .error statusBadRequest ("unzip: " ++ err)
              | none => .unpacked dest)

theorem slash_not_mem_baseText {text : String} (name : baseText text ≠ "/") :
    '/' ∉ (baseText text).toList := by
  unfold baseText at name ⊢
  dsimp only at name ⊢
  split
  · decide
  · rename_i filled
    rw [if_neg filled] at name
    split
    · rename_i none
      rw [if_pos none] at name
      exact absurd rfl name
    · rw [String.toList_ofList]
      intro member
      have kept := List.mem_rtakeWhile_imp member
      simp at kept

section Upload

variable {cwd} {fs : Fs} {base more : List String} {top : Loc} {name : String} {dest : Path}
  {made : Disk}

theorem unpacked_below (cleaned : Path.Cleaned dest.rooted dest.names)
    (path : resolve cwd dest = base ++ more) (plain : ∀ other ∈ more, Plain other)
    (direct : Linkless fs base top made) (opened : made.fs.node (top ++ more) = some .dir)
    (file : Except String (List ZipEntry)) :
    Confined made.fs (top ++ more) (unzipTo cwd file dest ⟨made.fs, []⟩).1 := by
  have inside : Linkless made.fs (resolve cwd dest) (top ++ more) ⟨made.fs, []⟩ := by
    refine ⟨⟨direct.tree, fun _ _ => rfl, nofun⟩, ?_, opened, fun names => ?_⟩
    · rw [path]
      exact direct.leads_below plain opened
    · rw [List.append_assoc]
      exact direct.linkless _
  exact (linkless_unzipTo cleaned inside file).toConfined

end Upload

def oneFile (name file : String) : UploadForm := ⟨none, name, .ok (.ok [zipFile file])⟩

end Porter.Api
