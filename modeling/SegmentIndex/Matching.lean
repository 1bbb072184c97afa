import SegmentIndex.FileTree.Basic
import SegmentIndex.Pattern.Matcher
import SegmentIndex.PathSpec.Compile

/-!
# Files of a path spec

A path belongs to a spec when the whole of it is taken by the tokens one after the other, once the
base of the spec and the path are in canonical form. A star takes what has no slash, two stars take
what has no line feed, as little as possible, and a capture takes what its pattern takes.
-/
namespace SegmentIndex

/-- A file that belongs to a spec, with the texts of its captures. -/
structure MatchedFile where
  path : String
  captures : List (String × String)
  metadata : Entries
  spec : Option Spec
  deriving DecidableEq, Repr, Inhabited

namespace PathSpec

/-- What a star takes: any characters but slashes. -/
def starNode : Pattern.Node := .rep .greedy 0 none (.chars default true [.one '/'.toNat])

/-- What two stars take: any characters but line feeds, as few as possible. -/
def doubleStarNode : Pattern.Node := .rep .reluctant 0 none (.any false)

/-- The node of a token; a capture is the next group of the pattern. -/
def tokenNode (s : Pattern.Scope) : Token → Except Pattern.Fault (Pattern.Node × Pattern.Scope)
  | .literal text => .ok (.text text.toList, s)
  | .glob true => .ok (doubleStarNode, s)
  | .glob false => .ok (starNode, s)
  | .capture name pattern => Pattern.readBody name s pattern.toList

def tokenNodes (s : Pattern.Scope) :
    List Token → Except Pattern.Fault (List Pattern.Node × Pattern.Scope)
  | [] => .ok ([], s)
  | t :: ts =>
    match tokenNode s t with
    | .error e => .error e
    | .ok (n, s) =>
      match tokenNodes s ts with
      | .error e => .error e
      | .ok (ns, s) => .ok (n :: ns, s)

def program (tokens : List Token) : Except Pattern.Fault Pattern.Program :=
  match tokenNodes {} tokens with
  | .error e => .error e
  | .ok (nodes, s) => s.finish.map fun _ => ⟨Pattern.Node.ofList nodes, s.names⟩

def canonicalTokens (t : FileTree) (tokens : List Token) : Except Failure (List Token) :=
  let base := baseOf tokens
  (t.canonical base).map fun canonical =>
    if canonical = base then tokens else .literal canonical :: afterBase tokens

end PathSpec

namespace Spec

/-- The pattern of a spec in a file tree, with its canonical tokens. -/
def program (t : FileTree) (spec : Spec) :
    Except Failure (List PathSpec.Token × Pattern.Program) :=
  match PathSpec.canonicalTokens t spec.segments with
  | .error e => .error e
  | .ok tokens =>
    match PathSpec.program tokens with
    | .error e => .error (.pattern e)
    | .ok p => .ok (tokens, p)

/-- Captures as metadata, over the metadata of the source. -/
def withCaptures (metadata : Entries) (captures : List (String × String)) : Entries :=
  Entries.putAll metadata (captures.map fun (k, v) => (k, .str v))

def matchCanonical (spec : Spec) (p : Pattern.Program) (path : String) : Option MatchedFile :=
  (p.fullMatch path.toList).map fun marks =>
    let captures := p.captures marks
    ⟨path, captures, withCaptures spec.metadata captures, some spec⟩

/-- Matches one path without looking for files. -/
def matchPath (t : FileTree) (spec : Spec) (path : String) : Except Failure (Option MatchedFile) :=
  match spec.program t with
  | .error e => .error e
  | .ok (_, p) => (t.canonical path).map (spec.matchCanonical p)

/-- The files that a base may name: the file itself, the files of a
directory, or those beside a partial name. -/
def candidates (t : FileTree) (base : String) : List String :=
  if base = "" then []
  else if t.isFile (Path.clean base) then [base]
  else if t.isDir (Path.clean base) then t.filesBelow base
  else
    let parent := Path.parent base
    if t.isDir parent && !base.endsWith "/" then t.filesBelow parent else []

def matchAll (t : FileTree) (spec : Spec) (p : Pattern.Program) :
    List String → Except Failure (List MatchedFile)
  | [] => .ok []
  | path :: rest =>
    match t.canonical path with
    | .error e => .error e
    | .ok path => (matchAll t spec p rest).map ((spec.matchCanonical p path).toList ++ ·)

/-- All files of a spec, in the order of the walk; a base that is
too long for the file system is refused. -/
def matchFiles (t : FileTree) (spec : Spec) : Except Failure (List MatchedFile) :=
  match spec.program t with
  | .error e => .error e
  | .ok (tokens, p) =>
    let base := PathSpec.baseOf tokens
    if t.isTooLong (Path.clean base) then .error (.system .nameTooLong (Path.clean base))
    else matchAll t spec p (candidates t base)

/-- The directory to watch for a spec, and whether those below it must be watched too. -/
def watchTarget (t : FileTree) (spec : Spec) : Except Failure (String × Bool) :=
  (PathSpec.canonicalTokens t spec.segments).map fun tokens =>
    let base := PathSpec.baseOf tokens
    let directory := Path.directory base
    let root :=
      if base ≠ "" && t.isDir base then base else if directory = "" then "." else directory
    (root, PathSpec.needsRecursion tokens)

end Spec

end SegmentIndex
