import SegmentIndex.FileTree.Basic
import SegmentIndex.Header.Form
import SegmentIndex.SourceCode.Docstring
import SegmentIndex.SourceCode.Reader.Statement

/-!
# Headers of source files

A module is named by its path through the packages that hold it: a directory is a package when it
holds an initial module, which itself goes by the name of its package. A module is described by its
doc string. Files of other languages open with a namespace form.
-/
namespace SegmentIndex

/-- The extensions of module files, in lower case. -/
def moduleExtensions : List String := [".py", ".pyi"]

def isModulePath (path : String) : Bool := moduleExtensions.contains (Path.lowerExtension path)

def packageFile : String := "__init__.py"

namespace FileTree

variable (t : FileTree)

/-- The names of the packages around a path, innermost first. -/
def packagesAround : Nat → String → List String
  | 0, _ => []
  | fuel + 1, directory =>
    let name := Path.fileName directory
    if t.isFile (Path.join directory packageFile) && name ≠ "" then
      name :: packagesAround fuel (Path.parent directory)
    else []

def moduleName (path : String) : Option String :=
  let own := if Path.stem path = "__init__" then [] else [Path.stem path]
  let parts := own ++ t.packagesAround ((Path.names path).length + 1) (Path.parent path)
  if parts.isEmpty then none else some (".".intercalate parts.reverse)

end FileTree

def nullCharacter : String := "source code string cannot contain null bytes"

namespace Header

def ofModule (t : FileTree) (path content : String) : Except Failure Header :=
  if content.toList.contains '\x00' then .error (Failure.badValue nullCharacter)
  else
    match SourceCode.parse? content with
    | none => .error (.file (.noForm (some "invalid code")) path)
    | some body =>
      match SourceCode.docOf? body with
      | none => .error (.file .noDoc path)
      | some doc =>
        if Text.allBlank doc then .error (.file .noDoc path)
        else
          match t.moduleName path with
          | some name => if name = "" then .error (.file .noName path) else .ok ⟨name, doc⟩
          | none => .error (.file .noName path)

def ofFile (t : FileTree) (path content : String) : Except Failure Header :=
  if isModulePath path then ofModule t path content
  else
    match ofForm content with
    | .ok h => .ok h
    | .error fault => .error (.file fault path)

end Header

end SegmentIndex
