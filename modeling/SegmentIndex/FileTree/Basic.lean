import SegmentIndex.Error
import SegmentIndex.FileTree.Path

/-!
# File trees

A tree holds directories, files and symbolic links, each under the list of names that leads to it
from the root. Looking a path up follows links, at most forty of them. A canonical path is resolved
as far as its names exist; what does not exist is taken as written, and a circle of links ends the
resolution.
-/
namespace SegmentIndex

/-- The names that lead from the root to a place. -/
abbrev Location := List String

/-- What stands at a place. -/
inductive Entry where
  | dir
  | file (bytes : ByteArray)
  | link (target : String)

/-- Files, links and directories by location, and the location of the working directory. -/
structure FileTree where
  entries : List (Location × Entry)
  workDir : Location

namespace FileTree

def pathOf (at_ : Location) : String := "/" ++ "/".intercalate at_

variable (t : FileTree)

/-- What stands at a location; the root is a directory. -/
def entry? (at_ : Location) : Option Entry := if at_ = [] then some .dir else t.entries.lookup at_

def maxLinks : Nat := 40

def maxNameBytes : Nat := 255

def maxPathBytes : Nat := 4095

/-- Where a list of names leads from a location; a final link is followed on request. -/
def resolve : Nat → Nat → Bool → Location → List String → Except SystemFault Location
  | 0, _, _, _, _ => .error .linkLoop
  | _ + 1, _, _, at_, [] => .ok at_
  | fuel + 1, links, follow, at_, name :: rest =>
    match t.entry? at_ with
    | some .dir =>
      if name = "" || name = "." then resolve fuel links follow at_ rest
      else if name = ".." then resolve fuel links follow at_.dropLast rest
      else if name.utf8ByteSize > maxNameBytes then .error .nameTooLong
      else
        match t.entry? (at_ ++ [name]) with
        | none => .error .notFound
        | some (.link target) =>
          if rest.isEmpty && !follow then .ok (at_ ++ [name])
          else if links ≥ maxLinks then .error .linkLoop
          else
            resolve fuel (links + 1) follow (if Path.isAbsolute target then [] else at_)
              (Path.names target ++ rest)
        | some _ => resolve fuel links follow (at_ ++ [name]) rest
    | _ => .error .notDirectory

/-- The number of names in all link targets, for bounding look-ups. -/
def linkNames : Nat :=
  (t.entries.map fun (_, e) => match e with
    | .link target => (Path.names target).length
    | _ => 0).foldr (· + ·) 0

def find (follow : Bool) (path : String) : Except SystemFault Location :=
  if path = "" then .error .notFound
  else if path.utf8ByteSize > maxPathBytes then .error .nameTooLong
  else
    let ns := Path.names path
    t.resolve (ns.length + (maxLinks + 1) * (t.linkNames + 1) + 1) 0 follow
      (if Path.isAbsolute path then [] else t.workDir) ns

def at? (path : String) : Except SystemFault (Location × Entry) := do
  let location ← t.find true path
  match t.entry? location with
  | some e => .ok (location, e)
  | none => .error .notFound

def isFile (path : String) : Bool :=
  match t.at? path with
  | .ok (_, .file _) => true
  | _ => false

def isDir (path : String) : Bool :=
  match t.at? path with
  | .ok (_, .dir) => true
  | _ => false

/-- Whether looking a path up meets a name that is too long. -/
def isTooLong (path : String) : Bool :=
  match t.at? path with
  | .error .nameTooLong => true
  | _ => false

def read (path : String) : Except SystemFault ByteArray := do
  match ← t.at? path with
  | (_, .file bytes) => .ok bytes
  | (_, .dir) => .error .isDirectory
  | (_, .link _) => .error .linkLoop

def sortNames (ns : List String) : List String := Value.sortTexts ns

def childNames (at_ : Location) : List String :=
  sortNames (t.entries.filterMap fun (l, _) =>
    if l.length = at_.length + 1 && at_.isPrefixOf l then l.getLast? else none)

/-- Whether the child of a location leads to a directory, following links. -/
def leadsToDir (at_ : Location) (name : String) : Bool := t.isDir (pathOf (at_ ++ [name]))

def isRealDir (at_ : Location) (name : String) : Bool :=
  match t.entry? (at_ ++ [name]) with
  | some .dir => true
  | _ => false

/-- The files below a directory as paths that begin with `top`:
its own files, then each subdirectory. -/
def walk : Nat → String → Location → List String
  | 0, _, _ => []
  | fuel + 1, top, at_ =>
    let ns := t.childNames at_
    let files := ns.filter fun n => !t.leadsToDir at_ n
    let dirs := ns.filter fun n => t.isRealDir at_ n
    files.map (Path.join top ·) ++
      dirs.flatMap fun n => walk fuel (Path.join top n) (at_ ++ [n])

def depth : Nat := (t.entries.map (·.1.length)).foldl max 0

def filesBelow (path : String) : List String :=
  match t.at? path with
  | .ok (location, .dir) => t.walk (t.depth + 1) path location
  | _ => []

/-! ## Canonical paths -/

/-- Appends names to a location without looking at the tree;
an absolute continuation replaces it. -/
def appendNames (at_ : Location) (rest : List String) : Location :=
  let start := match rest with
    | "" :: _ :: _ => []
    | _ => at_
  rest.foldl (fun acc n =>
    if n = "" || n = "." then acc else if n = ".." then acc.dropLast else acc ++ [n]) start

/-- How the resolution of a canonical path went on. -/
structure Canonical where
  location : Location
  complete : Bool
  seen : List (Location × Option Location)

/-- Resolves names from a location; `seen` holds the links met so far with what they lead to. -/
def canonicalFrom : Nat → List (Location × Option Location) → Location → List String →
    Except Failure Canonical
  | 0, seen, at_, rest => .ok ⟨appendNames at_ rest, false, seen⟩
  | _ + 1, seen, at_, [] => .ok ⟨at_, true, seen⟩
  | fuel + 1, seen, at_, name :: rest =>
    if name = "" || name = "." then canonicalFrom fuel seen at_ rest
    else if name = ".." then canonicalFrom fuel seen at_.dropLast rest
    else if name.toList.contains '\x00' then .error Failure.nullInPath
    else
      let next := at_ ++ [name]
      match t.entry? next with
      | some (.link target) =>
        match seen.lookup next with
        | some (some known) => canonicalFrom fuel seen known rest
        | some none => .ok ⟨appendNames next rest, false, seen⟩
        | none =>
          let start := if Path.isAbsolute target then [] else at_
          match canonicalFrom fuel ((next, none) :: seen) start (Path.names target) with
          | .error e => .error e
          | .ok inner =>
            if inner.complete then
              canonicalFrom fuel ((next, some inner.location) :: inner.seen) inner.location rest
            else .ok ⟨appendNames inner.location rest, false, inner.seen⟩
      | _ => canonicalFrom fuel seen next rest

def canonicalLocation (path : String) : Except Failure Location :=
  let ns := Path.names path
  (t.canonicalFrom (ns.length + t.linkNames + t.entries.length + 1) [] [] ns).map (·.location)

/-- The canonical form of an absolute path; a slash at its end
is kept. Other paths stay as written. -/
def canonical (path : String) : Except Failure String :=
  if !Path.isAbsolute path then .ok path
  else
    (t.canonicalLocation path).map fun location =>
      let s := pathOf location
      if path.endsWith "/" && !s.endsWith "/" then s ++ "/" else s

/-! ## Changes -/

def putEntry (at_ : Location) (e : Entry) : FileTree :=
  { t with entries := (t.entries.filter (·.1 ≠ at_)) ++ [(at_, e)] }

/-- Adds the directories that lead to a location and are missing. -/
def makeDirs (at_ : Location) : FileTree :=
  (List.range (at_.length + 1)).foldl (fun t n =>
    let l := at_.take n
    if (t.entry? l).isSome then t else t.putEntry l .dir) t

/-- The location that a new path names: its directory is looked
up, its last name is taken as written. -/
def placeFor (path : String) : Except SystemFault Location := do
  let ns := (Path.plainNames path)
  let start := if Path.isAbsolute path then [] else t.workDir
  match ns.getLast? with
  | none => .error .isDirectory
  | some last =>
    let dirNames := ns.dropLast
    match t.find true (Path.assemble (if Path.isAbsolute path then "/" else "") dirNames) with
    | .ok location => .ok (location ++ [last])
    | .error .notFound => .ok (appendNames start dirNames ++ [last])
    | .error e => .error e

/-- Writes a file, making the directories that lead to it; a
link is followed to what it leads to. -/
def write (path : String) (bytes : ByteArray) : Except SystemFault FileTree := do
  match t.at? path with
  | .ok (location, .file _) => return t.putEntry location (.file bytes)
  | .ok _ => .error .isDirectory
  | .error .linkLoop => .error .linkLoop
  | .error _ =>
    let place ← t.placeFor path
    return (t.makeDirs place.dropLast).putEntry place (.file bytes)

/-- Adds a link, making the directories that lead to it. -/
def addLink (path target : String) : Except SystemFault FileTree := do
  let place ← t.placeFor path
  return (t.makeDirs place.dropLast).putEntry place (.link target)

def makeDir (path : String) : Except SystemFault FileTree := do
  let place ← t.placeFor path
  return t.makeDirs place

def remove (path : String) : Except SystemFault FileTree := do
  let location ← t.find false path
  match t.entry? location with
  | some .dir => .error .isDirectory
  | _ => return { t with entries := t.entries.filter (·.1 ≠ location) }

/-- Moves what stands at a path, with all below it, to another path. -/
def rename (source target : String) : Except SystemFault FileTree := do
  let old ← t.find false source
  let place ← t.placeFor target
  match t.entry? place.dropLast with
  | some .dir => pure ()
  | _ => throw .notFound
  if old = place then return t
  let kept := t.entries.filter fun (l, _) => !old.isPrefixOf l && !place.isPrefixOf l
  let moved := t.entries.filterMap fun (l, e) =>
    if old.isPrefixOf l then some (place ++ l.drop old.length, e) else none
  return { t with entries := kept ++ moved }

end FileTree

end SegmentIndex
