import SegmentIndex.Error

/-!
# Segments

A segment is what is embedded, stored and found: the file that it belongs to, its own id, the text
to embed, the content to store and its metadata. A strategy hands over drafts; a draft is accepted
when every field is there and neither text is empty.
-/
namespace SegmentIndex

/-- One segment of a file. -/
structure Segment where
  fileId : String
  id : String
  text : String
  content : String
  metadata : Entries
  deriving DecidableEq, Repr, Inhabited

/-- The id of a segment: the id of its file, followed by an index if the file has several. -/
def segmentId (fileId : String) : Option Int → String
  | none => fileId
  | some i => fileId ++ "#" ++ toString i

/-- A segment whose metadata names its file and itself. -/
def Segment.make (fileId id text content : String) (metadata : Entries) : Segment :=
  ⟨fileId, id, text, content,
    Entries.putAll metadata [("file_id", .str fileId), ("segment_id", .str id),
    ("doc_id", .str fileId)]⟩

/-- What a strategy hands over: a segment, fields that may be
missing or of any kind, or anything else. -/
inductive Draft where
  | ready (segment : Segment)
  | fields (fileId id text content metadata : Value)
  | other (v : Value)
  deriving DecidableEq, Repr, Inhabited

namespace Draft

/-- The fields of a draft with their names, if it has fields. -/
def named : Draft → Option (List (String × Value))
  | .ready s =>
    some [("file_id", .str s.fileId), ("segment_id", .str s.id), ("text_to_embed", .str s.text),
      ("content_to_store", .str s.content), ("metadata", .map s.metadata)]
  | .fields fileId id text content metadata =>
    some [("file_id", fileId), ("segment_id", id), ("text_to_embed", text),
      ("content_to_store", content), ("metadata", metadata)]
  | .other _ => none

def isFilled : Value → Bool
  | .str s => s ≠ ""
  | _ => false

def isMap : Value → Bool
  | .map _ => true
  | _ => false

/-- What is wrong with a draft, if anything. -/
def fault? : Draft → Option FileFault
  | .ready s =>
    if s.text = "" then some (.emptyText (.str s.id) "text_to_embed")
    else if s.content = "" then some (.emptyText (.str s.id) "content_to_store")
    else none
  | .fields fileId id text content metadata =>
    let all := [("file_id", fileId), ("segment_id", id), ("text_to_embed", text),
      ("content_to_store", content), ("metadata", metadata)]
    let missing := all.filter fun f => f.2 = .null
    if !missing.isEmpty then some (.missingFields (missing.map (·.1)))
    else if !isFilled text then some (.emptyText id "text_to_embed")
    else if !isFilled content then some (.emptyText id "content_to_store")
    else if !isMap metadata then some (.badMetadata id)
    else none
  | .other v => some (.notSegment v.kindName)

def validate (d : Draft) (path : Option String) : Except Failure Draft :=
  match d.fault? with
  | none => .ok d
  | some fault => .error (.file fault path)

/-- Accepts drafts up to the first that is wrong. -/
def validateAll (path : Option String) : List Draft → Except Failure (List Draft)
  | [] => .ok []
  | d :: ds =>
    match d.validate path with
    | .error e => .error e
    | .ok d => (validateAll path ds).map (d :: ·)

def segment : Draft → Segment
  | .ready s => s
  | .fields fileId id text content metadata =>
    ⟨fileId.plain, id.plain, text.plain, content.plain, metadata.map?.getD []⟩
  | .other _ => default

@[simp] theorem segment_ready (s : Segment) : (Draft.ready s).segment = s := rfl

end Draft

end SegmentIndex
