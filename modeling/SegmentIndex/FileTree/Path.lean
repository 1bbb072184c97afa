import SegmentIndex.Text.Case

/-!
# Path texts

A path is a text of names between slashes. The clean form of a path drops empty names and the name
of one dot, and keeps the name of two dots, which only a file tree can resolve.
-/
namespace SegmentIndex.Path

/-- The texts between the slashes of a text, empty ones included. -/
def splitSlashes : List Char → List (List Char)
  | [] => [[]]
  | c :: cs =>
    match splitSlashes cs with
    | [] => [[c]]
    | n :: ns => if c = '/' then [] :: n :: ns else (c :: n) :: ns

/-- The names between the slashes of a path, empty ones included. -/
def names (path : String) : List String := (splitSlashes path.toList).map String.ofList

def isAbsolute (path : String) : Bool := path.startsWith "/"

def leadingSlashes (path : String) : Nat := (path.toList.takeWhile (· = '/')).length

/-- The root part of a clean path; exactly two leading slashes are a root of their own. -/
def rootOf (path : String) : String :=
  match leadingSlashes path with
  | 0 => ""
  | 2 => "//"
  | _ => "/"

def plainNames (path : String) : List String := (names path).filter fun n => n ≠ "" && n ≠ "."

/-- A path from its root part and names; the empty path is written as a dot. -/
def assemble (root : String) (ns : List String) : String :=
  let s := root ++ "/".intercalate ns
  if s = "" then "." else s

def clean (path : String) : String := assemble (rootOf path) (plainNames path)

def fileName (path : String) : String := ((plainNames path).getLast?).getD ""

def parent (path : String) : String := assemble (rootOf path) (plainNames path).dropLast

/-- A name split at its last dot, unless the dot begins or ends it. -/
def splitExtension (name : String) : String × String :=
  let cs := name.toList
  let after := (cs.reverse.takeWhile (· ≠ '.')).length
  let before := cs.length - after - 1
  if after < cs.length && 0 < before && 0 < after then
    (String.ofList (cs.take before), String.ofList (cs.drop before))
  else (name, "")

def stem (path : String) : String := (splitExtension (fileName path)).1

/-- The extension of the last name, with its dot. -/
def extension (path : String) : String := (splitExtension (fileName path)).2

def lowerExtension (path : String) : String :=
  String.ofList ((extension path).toList.map Text.lower)

/-- A path continued by another; an absolute path replaces what it continues. -/
def join (path more : String) : String :=
  if isAbsolute more then more
  else if path = "" || path.endsWith "/" then path ++ more
  else path ++ "/" ++ more

/-- The part of a path before its last slash, without slashes at
its end unless there is nothing else. -/
def directory (path : String) : String :=
  let head := (path.toList.reverse.dropWhile (· ≠ '/')).reverse
  let trimmed := (head.reverse.dropWhile (· = '/')).reverse
  String.ofList (if trimmed.isEmpty then head else trimmed)

end SegmentIndex.Path
