import SegmentIndex.FileTree.Basic
import SegmentIndex.Segment

/-!
# Strategies

A strategy cuts the text of one file into segments. It names the keys of a source that are options
of its own; all other keys are metadata. A registry holds strategies under their names, in the order
in which the names were first registered.
-/
namespace SegmentIndex

/-- A way to cut files into segments. -/
structure Strategy where
  name : String
  optionKeys : List String
  resolve : Entries → Except Failure Entries
  draft : FileTree → (path content : String) → (metadata options : Entries) →
    Except Failure (List Draft)

/-- The strategies that sources can name. -/
structure Registry where
  strategies : List Strategy

namespace Registry

variable (r : Registry)

def names : List String := Value.sortTexts (r.strategies.map (·.name))

def contains (name : String) : Bool := r.strategies.any (·.name = name)

def get (name : String) : Except Failure Strategy :=
  match r.strategies.find? (·.name = name) with
  | some s => .ok s
  | none => .error (.unknownStrategy (.str name) r.names)

/-- The refusal of a value that cannot be looked up. -/
def notHashable (v : Value) : Failure :=
  Failure.badType ("unhashable type: " ++ Text.quoted v.kindName)

/-- The strategy of a name given as a value. -/
def getValue : Value → Except Failure Strategy
  | .str name => r.get name
  | v => .error (if v.hashable then .unknownStrategy v r.names else notHashable v)

def containsValue : Value → Except Failure Bool
  | .str name => .ok (r.contains name)
  | v => if v.hashable then .ok false else .error (notHashable v)

def replace (s : Strategy) : List Strategy → List Strategy
  | [] => [s]
  | t :: rest => if t.name = s.name then s :: rest else t :: replace s rest

/-- Registers a strategy under its name, which must be new unless replacing is allowed. -/
def register (s : Strategy) (replacing : Bool) : Except Failure Registry :=
  if s.name = "" then .error (Failure.badValue "strategy.name must be a non-empty string")
  else if r.contains s.name && !replacing then
    .error (Failure.badValue ("Strategy " ++ Text.quoted s.name ++ " is already registered"))
  else .ok ⟨replace s r.strategies⟩

/-- Cuts a file into segments by the strategy of a name, and accepts them. -/
def process (t : FileTree) (strategy path content : String) (metadata options : Entries) :
    Except Failure (List Draft) :=
  match r.get strategy with
  | .error e => .error e
  | .ok s =>
    match s.draft t path content metadata options with
    | .error e => .error e
    | .ok drafts => Draft.validateAll (some path) drafts

end Registry

end SegmentIndex
