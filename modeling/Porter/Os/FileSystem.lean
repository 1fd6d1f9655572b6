import Mathlib.Data.List.Sort
import Porter.Go.Heap
import Porter.Go.Path

/-!
# A file system with symbolic links

The directory tree of one host, as a map from real locations to what is there, and the calls of Go's
`os` package on it.
-/
namespace Porter.Os

open Sql Go

abbrev Loc := List String

inductive Node where
  | dir
  | file (content : List UInt8)
  | symlink (target : String)
  | special
deriving DecidableEq

abbrev Fs := GoMap Loc Node

variable (fs : Fs) (loc : Loc)

def Fs.node : Option Node :=
  if loc = [] then some .dir else (fs.find loc).map Prod.snd

def Fs.put (node : Node) : Fs := fs.set (loc, node)

def Fs.prune : Fs := fs.deleteWhere (fun entry => loc.isPrefixOf entry.1)

structure Fs.Tree (fs : Fs) : Prop where
  parent : ∀ loc name, fs.node (loc ++ [name]) ≠ none → fs.node loc = some .dir
  plain : ∀ loc name, fs.node (loc ++ [name]) ≠ none → Plain name

inductive Errno where
  | noent | exist | notdir | isdir | notempty | loop | busy
deriving DecidableEq

inductive Move where
  | enter (next : Loc)
  | link (target : String)
  /-- The last location of a path; the error if the path goes on. -/
  | leaf (err : Errno)

def move (here : Loc) (name : String) : Move :=
  if name = "" ∨ name = "." then .enter here
  else if name = ".." then .enter here.dropLast
  else
    match fs.node (here ++ [name]) with
    | some .dir => .enter (here ++ [name])
    | some (.symlink target) => .link target
    | none => .leaf .noent
    | some _ => .leaf .notdir

def advance (fs : Fs) (follow : Bool) (link : Loc → String → List String → Except Errno Loc) :
    Loc → List String → Except Errno Loc
  | here, [] => .ok here
  | here, name :: rest =>
    match move fs here name with
    | .enter next => advance fs follow link next rest
    | .link target =>
      if rest = [] ∧ follow = false then .ok (here ++ [name]) else link here target rest
    | .leaf err => if rest = [] then .ok (here ++ [name]) else .error err

def pathNames (text : String) : List String := (text.toList.splitOn '/').map String.ofList

def isAbs (text : String) : Bool := text.toList.head? = some '/'

def linkStart (here : Loc) (target : String) : Loc := if isAbs target then [] else here

/-- The location of a path, with a number of links that may be met; its last name need not exist. -/
def lookup (fs : Fs) (follow : Bool) : Nat → Loc → List String → Except Errno Loc
  | 0 => advance fs follow (fun _ _ _ => .error .loop)
  | links + 1 => advance fs follow (fun here target rest =>
      lookup fs follow links (linkStart here target) (pathNames target ++ rest))

def maxLinks : Nat := 40

def locate (follow : Bool) (names : List String) : Except Errno Loc :=
  lookup fs follow maxLinks [] names

def stat (follow : Bool) (names : List String) : Except Errno Node :=
  match locate fs follow names with
  | .error err => .error err
  | .ok loc =>
    match fs.node loc with
    | some node => .ok node
    | none => .error .noent

structure Disk where
  fs : Fs
  touched : List Loc

variable (disk : Disk)

def Disk.write (loc : Loc) (node : Node) : Disk :=
  ⟨disk.fs.put loc node, disk.touched ++ [loc]⟩

def Disk.remove (loc : Loc) : Disk :=
  ⟨disk.fs.prune loc,
    disk.touched ++ (disk.fs.rows.map Prod.fst).filter (fun below => loc.isPrefixOf below)⟩

variable (names : List String)

def mkdir : Disk × Option Errno :=
  match locate disk.fs false names with
  | .error err => (disk, some err)
  | .ok loc =>
    if disk.fs.node loc = none then (disk.write loc .dir, none) else (disk, some .exist)

def mkdirAllFrom (disk : Disk) : List String → Disk × Option Errno
  | [] => (disk, none)
  | name :: earlier =>
    match stat disk.fs true (name :: earlier).reverse with
    | .ok .dir => (disk, none)
    | .ok _ => (disk, some .notdir)
    | .error _ =>
      match mkdirAllFrom disk earlier with
      | (disk, some err) => (disk, some err)
      | (disk, none) =>
        match mkdir disk (name :: earlier).reverse with
        | (disk, none) => (disk, none)
        | (disk, some err) =>
          if stat disk.fs false (name :: earlier).reverse = .ok .dir then (disk, none)
          else (disk, some err)

def mkdirAll : Disk × Option Errno :=
  mkdirAllFrom disk names.reverse

def writeFile (content : List UInt8) : Disk × Option Errno :=
  match locate disk.fs true names with
  | .error err => (disk, some err)
  | .ok loc =>
    match disk.fs.node loc with
    | some .dir => (disk, some .isdir)
    | some (.symlink _) => (disk, some .loop)
    | some .special => ({ disk with touched := disk.touched ++ [loc] }, none)
    | some (.file _) | none => (disk.write loc (.file content), none)

def symlink (disk : Disk) (target : String) (names : List String) : Disk × Option Errno :=
  if target = "" then (disk, some .noent)
  else
    match locate disk.fs false names with
    | .error err => (disk, some err)
    | .ok loc =>
      if disk.fs.node loc = none then (disk.write loc (.symlink target), none)
      else (disk, some .exist)

def children : List String :=
  ((fs.rows.map Prod.fst).filterMap (fun entry =>
    if entry.dropLast = loc then entry.getLast? else none)).insertionSort (· ≤ ·)

def readDir : List String :=
  match locate fs true names with
  | .ok loc => if fs.node loc = some .dir then children fs loc else []
  | .error _ => []

def remove (disk : Disk) (names : List String) : Disk × Option Errno :=
  if names = [] then (disk, some .busy)
  else
    match locate disk.fs false names with
    | .error err => (disk, some err)
    | .ok loc =>
      match disk.fs.node loc with
      | none => (disk, some .noent)
      | some .dir =>
        if children disk.fs loc = [] then (disk.remove loc, none) else (disk, some .notempty)
      | some _ => (disk.remove loc, none)

def removeAll : Disk × Option Errno :=
  if names = [] then (disk.remove [], some .busy)
  else
    match locate disk.fs false names with
    | .error .noent => (disk, none)
    | .error err => (disk, some err)
    | .ok loc => if disk.fs.node loc = none then (disk, none) else (disk.remove loc, none)

def mkdirTemp (disk : Disk) (dir : List String) (stem : String) :
    List Nat → Disk × Except Errno (List String)
  | [] => (disk, .error .exist)
  | number :: rest =>
    match mkdir disk (dir ++ [stem ++ toString number]) with
    | (disk, none) => (disk, .ok (dir ++ [stem ++ toString number]))
    | (disk, some .exist) => mkdirTemp disk dir stem rest
    | (disk, some err) => (disk, .error err)

end Porter.Os
