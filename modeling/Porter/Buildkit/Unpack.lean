import Porter.Buildkit.InitShim
import Porter.Os.FileSystem

/-!
# Unpacking an OCI archive

`ConvertOCIToExt4` up to the formatting: the layers of an archive are unpacked entry by entry into a
temporary directory, and the init shim is installed.
-/
namespace Porter.Buildkit

open Go Os Shell

inductive EntryKind where
  | dir
  | reg
  | symlink
  | other
deriving DecidableEq

structure TarEntry where
  name : String
  kind : EntryKind
  linkname : String
  data : Bytes
  dataErr : Option String

structure TarFile where
  entries : List TarEntry
  ending : Option String

structure OciManifest where
  config : String
  layers : List String

structure ImageConfig where
  entrypoint : List Bytes
  cmd : List Bytes
  env : List Bytes
  workingDir : Bytes

structure Formats where
  layer : Bytes → TarFile
  index : Bytes → Except String (List String)
  manifest : Bytes → Except String OciManifest
  config : Bytes → Except String ImageConfig

inductive Failure where
  | call (err : Errno)
  | text (message : String)
  | panic

def scan (file : TarFile) (wanted : String → Bool) : Except String (Option Bytes) :=
  match file.entries.find? (fun entry => wanted entry.name) with
  | some entry =>
    match entry.dataErr with
    | some err => .error err
    | none => .ok (some entry.data)
  | none =>
    match file.ending with
    | some err => .error err
    | none => .ok none

def replaceFirst (old new : Char) : List Char → List Char
  | [] => []
  | c :: rest => if c = old then new :: rest else c :: replaceFirst old new rest

def readBlob (archive : Except String TarFile) (digest : String) : Except String Bytes :=
  match archive with
  | .error err => .error err
  | .ok file =>
    match scan file (· = "blobs/" ++ String.ofList (replaceFirst ':' '/' digest.toList)) with
    | .error err => .error err
    | .ok (some data) => .ok data
    | .ok none => .error ("OCI blob " ++ digest ++ " not found")

def whiteout : String := ".wh."

def isWhiteout (name : String) : Bool := whiteout.toList.isPrefixOf name.toList

def whiteoutTarget (name : String) : String := String.ofList (name.toList.drop whiteout.length)

def isDot (rel : Path) : Bool := !rel.rooted && rel.names = []

def climbs (rel : Path) : Bool :=
  !rel.rooted && rel.names.head? = some ".." && rel.names.length ≠ 1

def joinName (dir : Path) (name : String) : Path := dir.join ⟨false, [name]⟩

/-- An opaque whiteout empties its directory, any other removes the name it is followed by. -/
def applyWhiteout (disk : Disk) (dst : Path) (base : String) : Disk :=
  if base = ".wh..wh..opq" then
    (readDir disk.fs dst.dir.names).foldl
      (fun disk name => (removeAll disk (joinName dst.dir name).names).1) disk
  else (removeAll disk (joinName dst.dir (whiteoutTarget base)).names).1

def placeEntry (disk : Disk) (dst : Path) (h : TarEntry) : Disk × Option Failure :=
  match h.kind with
  | .dir =>
    let (disk, err) := mkdirAll disk dst.names
    (disk, err.map .call)
  | .reg =>
    match mkdirAll disk dst.dir.names with
    | (disk, some err) => (disk, some (.call err))
    | (disk, none) =>
      match writeFile disk dst.names h.data with
      | (disk, some err) => (disk, some (.call err))
      | (disk, none) => (disk, h.dataErr.map .text)
  | .symlink =>
    match mkdirAll disk dst.dir.names with
    | (disk, some err) => (disk, some (.call err))
    | (disk, none) =>
      let (disk, _) := removeAll disk dst.names
      let (disk, err) := symlink disk h.linkname dst.names
      (disk, err.map .call)
  | .other => (disk, none)

def applyEntry (root : List String) (disk : Disk) (h : TarEntry) : Disk × Option Failure :=
  let rel := Path.clean h.name
  if isDot rel || climbs rel then (disk, none)
  else
    let dst := Path.join ⟨true, root⟩ rel
    if isWhiteout rel.base then (applyWhiteout disk dst rel.base, none)
    else placeEntry disk dst h

def applyEntries (root : List String) (ending : Option String) :
    Disk → List TarEntry → Disk × Option Failure
  | disk, [] => (disk, ending.map .text)
  | disk, h :: rest =>
    match applyEntry root disk h with
    | (disk, some err) => (disk, some err)
    | (disk, none) => applyEntries root ending disk rest

variable (formats : Formats)

def applyLayer (data : Bytes) (root : List String) (disk : Disk) : Disk × Option Failure :=
  applyEntries root (formats.layer data).ending disk (formats.layer data).entries

def applyLayers (formats : Formats) (archive : Except String TarFile) (root : List String) :
    Disk → List String → Disk × Option Failure
  | disk, [] => (disk, none)
  | disk, digest :: rest =>
    match readBlob archive digest with
    | .error err => (disk, some (.text err))
    | .ok data =>
      match applyLayer formats data root disk with
      | (disk, some err) => (disk, some err)
      | (disk, none) => applyLayers formats archive root disk rest

def firstManifest (archive : Except String TarFile) : Except String OciManifest :=
  match archive with
  | .error err => .error err
  | .ok file =>
    match scan file (fun name => name = "index.json" || name = "./index.json") with
    | .error err => .error err
    | .ok found =>
      if found.getD [] = [] then .error "oci archive missing index.json"
      else
        match formats.index (found.getD []) with
        | .error _ | .ok [] => .error "invalid OCI index"
        | .ok (digest :: _) =>
          match readBlob archive digest with
          | .error err => .error err
          | .ok data => formats.manifest data

def unpackOCI (archive : Except String TarFile) (root : List String) (disk : Disk) :
    Disk × Option Failure :=
  match firstManifest formats archive with
  | .error err => (disk, some (.text err))
  | .ok manifest => applyLayers formats archive root disk manifest.layers

/-- `readOCIConfig`, which looks for one name only and takes the first manifest unasked. -/
def readOCIConfig (archive : Except String TarFile) : Except Failure ImageConfig :=
  match archive with
  | .error err => .error (.text err)
  | .ok file =>
    match scan file (· = "index.json") with
    | .error err => .error (.text err)
    | .ok found =>
      match formats.index (found.getD []) with
      | .error err => .error (.text err)
      | .ok [] => .error .panic
      | .ok (digest :: _) =>
        match readBlob archive digest with
        | .error err => .error (.text err)
        | .ok data =>
          match formats.manifest data with
          | .error err => .error (.text err)
          | .ok manifest =>
            match readBlob archive manifest.config with
            | .error err => .error (.text err)
            | .ok data => (formats.config data).mapError .text

def installInit (root : List String) (script : Bytes) (disk : Disk) : Disk × Option Failure :=
  let dst := Path.join ⟨true, root⟩ ⟨false, ["sbin", "init"]⟩
  match mkdirAll disk dst.dir.names with
  | (disk, some err) => (disk, some (.call err))
  | (disk, none) =>
    match remove disk dst.names with
    | (disk, none) | (disk, some .noent) =>
      let (disk, err) := writeFile disk dst.names script
      (disk, err.map .call)
    | (disk, some err) => (disk, some (.call err))

def unpackImage (archive : Except String TarFile) (root : List String) (disk : Disk) :
    Disk × Option Failure :=
  match unpackOCI formats archive root disk with
  | (disk, some err) => (disk, some err)
  | (disk, none) =>
    match readOCIConfig formats archive with
    | .error .panic => (disk, some .panic)
    | .error _ => (disk, none)
    | .ok cfg =>
      match buildInitScript cfg.entrypoint cfg.cmd cfg.env cfg.workingDir with
      | .error _ => (disk, none)
      | .ok script => installInit root script disk

/-- Its tree, the directory for temporary files, and the numbers drawn for the name of a new one. -/
structure Host where
  fs : Fs
  tree : fs.Tree
  tempDir : List String
  plain : ∀ name ∈ tempDir, Plain name
  numbers : List Nat

def makeRoot (host : Host) : Disk × Except Errno (List String) :=
  mkdirTemp ⟨host.fs, []⟩ host.tempDir "porter-oci-root-" host.numbers

/-- `ConvertOCIToExt4` up to the formatting, with its directory and all it touches there. -/
def convertOCIToExt4 (archive : Except String TarFile) (host : Host) :
    Except Errno (List String × Disk × Option Failure) :=
  match makeRoot host with
  | (_, .error err) => .error err
  | (disk, .ok root) => .ok (root, unpackImage formats archive root ⟨disk.fs, []⟩)

end Porter.Buildkit
