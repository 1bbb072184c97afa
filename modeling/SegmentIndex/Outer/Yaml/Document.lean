import SegmentIndex.Outer.Yaml.Kind
import SegmentIndex.Outer.Yaml.Tree

/-!
# Data of a document

An alias is the node at its anchor. The keys that a map takes over from others by a merge stand
before its own, which come last and win.
-/
namespace SegmentIndex.Outer.Yaml

open Config (Data ParseFault)

inductive Node where
  | scalar (kind : Kind) (text : String)
  | list (kind : Kind) (items : List Node)
  | map (kind : Kind) (entries : List (Node × Node))
  deriving Inhabited, Repr

namespace Node

/-- The nodes at anchors so far. -/
abbrev Anchors := Table Node

/-- Notes a node at an anchor, of which there must not be another. -/
def note (anchor : Option String) (n : Node) (known : Anchors) : Option (Node × Anchors) :=
  match anchor with
  | none => some (n, known)
  | some a => if (Table.get? a known).isSome then none else some (n, known ++ [(a, n)])

/-- The kind of a node that has a tag, or else another kind. -/
def kindOf (tag : Option String) (kind : Kind) : Kind := (tag.map Kind.ofTag).getD kind

mutual

def ofWritten : Written → Anchors → Option (Node × Anchors)
  | .alias name, known => (Table.get? name known).map fun n => (n, known)
  | .scalar anchor tag isOpen s, known =>
    note anchor (.scalar (kindOf tag (if isOpen then Kind.ofPlain s else .text)) s) known
  | .list anchor tag items, known =>
    (ofItems items known).bind fun (items, known) =>
      note anchor (.list (kindOf tag .list) items) known
  | .map anchor tag entries, known =>
    (ofEntries entries known).bind fun (es, known) => note anchor (.map (kindOf tag .map) es) known

def ofItems : List Written → Anchors → Option (List Node × Anchors)
  | [], known => some ([], known)
  | w :: rest, known =>
    (ofWritten w known).bind fun (n, known) =>
      (ofItems rest known).map fun (ns, known) => (n :: ns, known)

def ofEntries : List (Written × Written) → Anchors → Option (List (Node × Node) × Anchors)
  | [], known => some ([], known)
  | (k, v) :: rest, known =>
    (ofWritten k known).bind fun (k, known) =>
      (ofWritten v known).bind fun (v, known) =>
        (ofEntries rest known).map fun (es, known) => ((k, v) :: es, known)

end

/-- Whether two keys are the same: numbers and truth values are compared as numbers. -/
def sameKey : Data → Data → Bool
  | .time a, .time b => a = b
  | .time _, _ | _, .time _ => false
  | a, b => Value.same a.toValue b.toValue

/-- Sets the value at a key: in place if the key is present, at the end if not. -/
def put (key value : Data) : List (Data × Data) → List (Data × Data)
  | [] => [(key, value)]
  | (k, d) :: rest => if sameKey k key then (k, value) :: rest else (k, d) :: put key value rest

def keyKind : Kind → Kind
  | .default => .text
  | kind => kind

def isMerge : Node → Bool
  | .scalar .merge _ => true
  | _ => false

mutual

def data : Node → Except ParseFault Data
  | .scalar kind s => Kind.scalar kind s
  | .list .list items => (dataItems items).map .list
  | .list .pairs items => (dataPairs items).map .list
  | .list _ _ => .error .malformed
  | .map .map entries =>
    (dataEntries entries).map fun (merged, own) =>
      .map ((merged ++ own).foldl (fun es (k, d) => put k d es) [])
  | .map _ _ => .error .malformed

def dataItems : List Node → Except ParseFault (List Data)
  | [] => .ok []
  | n :: rest =>
    match data n with
    | .error f => .error f
    | .ok d => (dataItems rest).map (d :: ·)

def dataPairs : List Node → Except ParseFault (List Data)
  | [] => .ok []
  | .map _ [(k, v)] :: rest =>
    match data k, data v with
    | .ok k, .ok v => (dataPairs rest).map (.list [k, v] :: ·)
    | .error f, _ => .error f
    | _, .error f => .error f
  | _ => .error .malformed

def dataKey : Node → Except ParseFault Data
  | .scalar kind s => Kind.scalar (keyKind kind) s
  | _ => .error .malformed

/-- The entries that a map takes over, and its own. -/
def dataEntries : List (Node × Node) → Except ParseFault (List (Data × Data) × List (Data × Data))
  | [] => .ok ([], [])
  | (k, v) :: rest =>
    if isMerge k then
      match dataMerged v with
      | .error f => .error f
      | .ok taken => (dataEntries rest).map fun (merged, own) => (taken ++ merged, own)
    else
      match dataKey k, data v with
      | .ok k, .ok v => (dataEntries rest).map fun (merged, own) => (merged, (k, v) :: own)
      | .error f, _ => .error f
      | _, .error f => .error f

/-- The entries of a map, or of several with the first one last. -/
def dataMerged : Node → Except ParseFault (List (Data × Data))
  | .map _ entries => (dataEntries entries).map fun (merged, own) => merged ++ own
  | .list _ items => dataMergedItems items
  | .scalar _ _ => .error .malformed

/-- The entries of several maps with those of the first one last. -/
def dataMergedItems : List Node → Except ParseFault (List (Data × Data))
  | [] => .ok []
  | .map _ entries :: rest =>
    match dataEntries entries with
    | .error f => .error f
    | .ok (merged, own) => (dataMergedItems rest).map (· ++ (merged ++ own))
  | _ => .error .malformed

end

end Node

def parse (s : String) : Except ParseFault Data :=
  match (tokens? s).bind Written.ofTokens? with
  | none => .error .malformed
  | some none => .ok .null
  | some (some w) =>
    match Node.ofWritten w [] with
    | none => .error .malformed
    | some (n, _) => n.data

end SegmentIndex.Outer.Yaml
