import SegmentIndex.CodeElement.Basic
import SegmentIndex.Strategy.Single
import SegmentIndex.Strategy.Windows
import SegmentIndex.Value.Json

/-!
# One segment for each code element

An analyzer reports the elements of a file; those that are selected become segments. The description
of an element is embedded, or its qualified name if it has none, and its whole record is stored.
-/
namespace SegmentIndex

structure ElementSelection where
  publicOnly : Bool
  kinds : Option (List String)
  deriving DecidableEq, Repr

namespace ElementSelection

def members? : Value → Option (List Value)
  | .list items => some items
  | .map entries => some (entries.map fun (k, _) => .str k)
  | _ => none

def kindSet (items : List Value) : Except Failure (List String) :=
  match items.find? fun v => !v.hashable with
  | some v => .error (Registry.notHashable v)
  | none =>
    let set := items.foldl Value.addTo []
    let isKind (v : Value) : Bool := v.str?.any elementKinds.contains
    let unknown := set.filter fun v => !isKind v
    if unknown.isEmpty then .ok (Value.sortTexts (set.filterMap Value.str?))
    else
      match Value.sorted? unknown with
      | some vs => .error (.options (.unknownKinds vs))
      | none => .error (Failure.badType "the values have no order")

def resolve (options : Entries) : Except Failure ElementSelection :=
  let visibility := (Entries.get? options "visibility").getD (.str "all")
  match visibility with
  | .str s =>
    if !visibilityChoices.contains s then .error (.options (.badVisibility visibility))
    else
      let publicOnly := s = "public-only"
      match (Entries.get? options "element_types").getD .null with
      | .null => .ok ⟨publicOnly, none⟩
      | v =>
        match members? v with
        | none => .error (.options .kindsNotListed)
        | some items => (kindSet items).map fun kinds => ⟨publicOnly, some kinds⟩
  | v => .error (.options (.badVisibility v))

def toEntries (s : ElementSelection) : Entries :=
  [("visibility", .str (if s.publicOnly then "public-only" else "all")),
   ("element_types", match s.kinds with
     | none => .null
     | some kinds => .list (kinds.map .str))]

def keeps (s : ElementSelection) (e : CodeElement) : Bool :=
  (!s.publicOnly || e.visibility = "public") &&
    match s.kinds with
    | none => true
    | some kinds => kinds.contains e.kind

end ElementSelection

namespace CodeElement

def toValue (e : CodeElement) : Value :=
  let text : Option String → Value
    | some s => .str s
    | none => .null
  .map [("name", .str e.name), ("kind", .str e.kind), ("visibility", .str e.visibility),
    ("doc", text e.doc), ("namespace", text e.ns), ("language", .str e.language),
    ("extra", .map e.extra)]

def embedText (e : CodeElement) : String :=
  match e.doc with
  | some doc => if Text.allBlank doc then e.qualifiedName else doc
  | none => e.qualifiedName

def metadata (e : CodeElement) (source : Entries) : Entries :=
  let known := Entries.putAll source
    [("element_type", .str e.kind), ("element_name", .str e.qualifiedName),
     ("language", .str e.language), ("visibility", .str e.visibility)]
  match e.ns with
  | some ns => if ns = "" then known else Entries.put "namespace" (.str ns) known
  | none => known

def segment (path : String) (source : Entries) (index : Nat) (e : CodeElement) : Segment :=
  Segment.make path (segmentId path (some index)) e.embedText (Json.encodeAscii e.toValue)
    (e.metadata source)

end CodeElement

/-- An outcome of an analyzer in which every failure is one of analysis. -/
def asAnalysis (path : String) :
    Except Failure (List CodeElement) → Except Failure (List CodeElement)
  | .ok es => .ok es
  | .error e =>
    match e with
    | .file fault _ =>
      .error (if fault.kind = .analysis then e else .file (.analysisFailed path e.message) path)
    | _ => .error (.file (.analysisFailed path e.message) path)

/-- The strategy of one segment for each element that an analyzer reports. -/
def elementStrategy (analyze : Analyzer) : Strategy where
  name := "code-analysis"
  optionKeys := ["visibility", "element_types"]
  resolve := fun options => (ElementSelection.resolve options).map ElementSelection.toEntries
  draft := fun t path _ metadata options =>
    match ElementSelection.resolve options with
    | .error e => .error e
    | .ok s => (asAnalysis path (analyze t path)).map fun es =>
      (es.filter s.keeps).mapIdx fun i e => .ready (e.segment path metadata i)

/-! ## The strategies that are always there -/

namespace SingleChoice

def builtin : List Strategy :=
  [strategy "single-segment" .null .null,
   strategy "whole-document" (.str "whole-document") (.str "whole-document"),
   strategy "namespace-doc" (.str "namespace-doc") (.str "whole-document"),
   strategy "file-path" (.str "whole-document") (.str "file-path")]

end SingleChoice

/-- All built-in strategies, with an analyzer for code. -/
def Registry.builtin (analyze : Analyzer) : Registry :=
  ⟨SingleChoice.builtin ++ [WindowSizes.strategy, elementStrategy analyze]⟩

end SegmentIndex
