import SegmentIndex.Header.Code
import SegmentIndex.Strategy.Basic

/-!
# One segment for a file

The text to embed is the whole document or the description in its header; the content
to store is the whole document or the path of the file. A strategy can fix either
choice; what it does not fix is an option.
-/
namespace SegmentIndex

/-- What is embedded for a whole file. -/
inductive EmbedChoice where
  | wholeDocument
  | header
  deriving DecidableEq, Repr

/-- What is stored for a whole file. -/
inductive ContentChoice where
  | wholeDocument
  | filePath
  deriving DecidableEq, Repr

namespace EmbedChoice

def name : EmbedChoice → String
  | .wholeDocument => "whole-document"
  | .header => "namespace-doc"

def ofName? : String → Option EmbedChoice
  | "whole-document" => some .wholeDocument
  | "namespace-doc" => some .header
  | _ => none

def ofValue : Value → Except Failure EmbedChoice
  | .str s =>
    match ofName? s with
    | some c => .ok c
    | none => .error (.options (.unknownEmbedding (.str s)))
  | v => .error (if v.hashable then .options (.unknownEmbedding v) else Registry.notHashable v)

/-- The text to embed for a file, with the metadata that goes with it. -/
def text (t : FileTree) (path content : String) : EmbedChoice → Except Failure (String × Entries)
  | .wholeDocument => .ok (content, [])
  | .header =>
    (Header.ofFile t (Path.clean path) content).map fun h => (h.doc, [("namespace", .str h.name)])

end EmbedChoice

namespace ContentChoice

def name : ContentChoice → String
  | .wholeDocument => "whole-document"
  | .filePath => "file-path"

def ofName? : String → Option ContentChoice
  | "whole-document" => some .wholeDocument
  | "file-path" => some .filePath
  | _ => none

def ofValue : Value → Except Failure ContentChoice
  | .str s =>
    match ofName? s with
    | some c => .ok c
    | none => .error (.options (.unknownContent (.str s)))
  | v => .error (if v.hashable then .options (.unknownContent v) else Registry.notHashable v)

def text (path content : String) : ContentChoice → String
  | .wholeDocument => content
  | .filePath => path

end ContentChoice

/-- What one segment is made of. -/
structure SingleChoice where
  embed : EmbedChoice
  content : ContentChoice
  deriving DecidableEq, Repr

namespace SingleChoice

/-- The value of an option: the fixed one if it says anything,
else the given one, else the default. -/
def pick (fixed : Value) (options : Entries) (key : String) : Value :=
  if fixed.truthy then fixed else (Entries.get? options key).getD (.str "whole-document")

def resolve (embed content : Value) (options : Entries) : Except Failure SingleChoice :=
  match EmbedChoice.ofValue (pick embed options "embedding") with
  | .error e => .error e
  | .ok e => (ContentChoice.ofValue (pick content options "content_strategy")).map (⟨e, ·⟩)

def toEntries (c : SingleChoice) : Entries :=
  [("embedding", .str c.embed.name), ("content_strategy", .str c.content.name)]

def segment (t : FileTree) (path content : String) (metadata : Entries) (c : SingleChoice) :
    Except Failure Segment :=
  (c.embed.text t path content).map fun (text, more) =>
    Segment.make path (segmentId path none) text (c.content.text path content)
      (Entries.putAll metadata more)

/-- The strategy that fixes the given choices; null leaves a choice to the options. -/
def strategy (name : String) (embed content : Value) : Strategy where
  name := name
  optionKeys := ["embedding", "content_strategy"]
  resolve := fun options => (resolve embed content options).map toEntries
  draft := fun t path text metadata options =>
    match resolve embed content options with
    | .error e => .error e
    | .ok c => (c.segment t path text metadata).map fun s => [.ready s]

/-- The strategy that fixes the given choices, which have to be sound by themselves. -/
def strategy? (name : String) (embed content : Value) : Except Failure Strategy :=
  (resolve embed content []).map fun _ => strategy name embed content

end SingleChoice

end SegmentIndex
