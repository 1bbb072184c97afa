import SegmentIndex.CodeElement.Basic
import SegmentIndex.FileTree.Text
import SegmentIndex.Header.Code
import SegmentIndex.SourceCode.Printer

/-!
# Elements of a module

The analysis of a module reports the module itself, its functions and classes in the order of their
declaration, and behind each class its functions and annotated fields. What is nested more deeply,
or declared under a condition, is not reported.
-/
namespace SegmentIndex.CodeElement

open SourceCode

def moduleLanguage : String := "python"

def ofModule (kind name : String) (ns doc : Option String) (extra : Entries) : CodeElement :=
  ⟨name, kind, visibilityOf name, doc, ns, moduleLanguage, extra⟩

def printed (r : Except PrintFault String) : Except Failure Value :=
  match r with
  | .ok s => .ok (.str s)
  | .error fault => .error (Failure.badValue fault.message)

/-- The signature of a function: its name and its parameters. -/
def signature (name : String) (params : List Param) : Except Failure Value :=
  printed ((printSignature params).map fun s => name ++ "(" ++ s ++ ")")

def ofMember (ns owner : String) : Stmt → Except Failure (Option CodeElement)
  | .function name params body _ line => do
    let kind := if name = "__init__" then "constructor" else "method"
    return some (ofModule kind name ns (docOf? body)
      [("line", .int line), ("owner", .str owner), ("signature", ← signature name params)])
  | .annotated (some name) hint line => do
    return some (ofModule "field" name ns none
      [("line", .int line), ("owner", .str owner), ("annotation", ← printed hint.print)])
  | _ => .ok none

def ofStatement (ns : String) : Stmt → Except Failure (List CodeElement)
  | .function name params body async line => do
    return [ofModule "function" name ns (docOf? body)
      [("line", .int line), ("signature", ← signature name params), ("async", .bool async)]]
  | .declared name bases body line => do
    let bases ← bases.mapM fun b => printed b.print
    let members ← body.mapM (ofMember ns name)
    return ofModule "class" name ns (docOf? body) [("line", .int line), ("bases", .list bases)] ::
      members.filterMap id
  | _ => .ok []

def ofBody (ns : String) (body : List Stmt) : Except Failure (List CodeElement) := do
  let found ← body.mapM (ofStatement ns)
  let whole := ofModule "namespace" ns none (docOf? body) [("line", .int 1)]
  return { whole with visibility := "public" } :: found.flatten

def moduleText (t : FileTree) (path : String) : Except Failure String :=
  let refuse (cause : String) : Except Failure String :=
    .error (.file (.analysisFailed path cause) path)
  match t.strictText .utf8 (Path.clean path) with
  | .ok (some text) => if text.toList.contains '\x00' then refuse nullCharacter else .ok text
  | .ok none => refuse "invalid bytes"
  | .error e => refuse e.message

def analyzeModule : Analyzer := fun t path =>
  let clean := Path.clean path
  if !isModulePath clean then .error (.file (.noAnalyzer (Path.extension clean)) path)
  else
    match moduleText t path with
    | .error e => .error e
    | .ok text =>
      match parse? text with
      | none => .error (.file (.analysisFailed path "invalid code") path)
      | some body =>
        let name := (t.moduleName clean).getD ""
        ofBody (if name = "" then Path.stem clean else name) body

end SegmentIndex.CodeElement
