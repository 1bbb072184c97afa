import SegmentIndex.FileTree.Basic

/-!
# Code elements

A source file declares elements: the namespace itself, functions, classes and the members of
classes. Names show how far an element is meant to be seen.
-/
namespace SegmentIndex

/-- An element that a source file declares. -/
structure CodeElement where
  name : String
  kind : String
  visibility : String
  doc : Option String
  ns : Option String
  language : String
  extra : Entries
  deriving DecidableEq, Repr, Inhabited

/-- Takes a source file apart into the elements that it declares. -/
abbrev Analyzer := FileTree → String → Except Failure (List CodeElement)

namespace CodeElement

def visibilityOf (name : String) : String :=
  if name.startsWith "__" && name.endsWith "__" then "public"
  else if name.startsWith "__" then "private"
  else if name.startsWith "_" then "protected"
  else "public"

def memberKinds : List String := ["method", "constructor", "field"]

def memberName (e : CodeElement) : String :=
  match Entries.get? e.extra "owner" with
  | some owner =>
    if owner.truthy && memberKinds.contains e.kind then owner.plain ++ "." ++ e.name else e.name
  | none => e.name

def qualifiedName (e : CodeElement) : String :=
  match e.ns with
  | some ns => if ns = "" || e.kind = "namespace" then e.name else ns ++ "." ++ e.memberName
  | none => e.name

end CodeElement

end SegmentIndex
