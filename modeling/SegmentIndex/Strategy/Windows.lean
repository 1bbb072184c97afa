import SegmentIndex.Chunk
import SegmentIndex.Strategy.Basic

/-!
# One segment for each window

A text is cut into overlapping windows; each is embedded and stored as it is, with its index, its
offset and the number of windows in its metadata.
-/
namespace SegmentIndex

structure WindowSizes where
  size : Nat
  overlap : Nat
  deriving DecidableEq, Repr

namespace WindowSizes

def defaultSize : Int := 512

def defaultOverlap : Int := 100

def positive (options : Entries) (key : String) (default : Int) : Except Failure Nat :=
  match (Entries.get? options key).getD (.int default) with
  | .int n => if n > 0 then .ok n.toNat else .error (.options (.notPositive key (.int n)))
  | v => .error (.options (.notPositive key v))

def resolve (options : Entries) : Except Failure WindowSizes :=
  match positive options "chunk_size" defaultSize with
  | .error e => .error e
  | .ok size =>
    match positive options "chunk_overlap" defaultOverlap with
    | .error e => .error e
    | .ok overlap =>
      if overlap ≥ size then .error (.options (.overlapTooLarge overlap size))
      else .ok ⟨size, overlap⟩

def toEntries (w : WindowSizes) : Entries :=
  [("chunk_size", .int w.size), ("chunk_overlap", .int w.overlap)]

def segment (path : String) (metadata : Entries) (count index : Nat) (window : Nat × String) :
    Segment :=
  Segment.make path (segmentId path (some index)) window.2 window.2
    (Entries.putAll metadata
      [("chunk_index", .int index), ("chunk_count", .int count), ("chunk_offset", .int window.1)])

def segments (w : WindowSizes) (path content : String) (metadata : Entries) : List Segment :=
  let windows := Chunk.chunks w.size w.overlap content
  windows.mapIdx (segment path metadata windows.length)

def strategy : Strategy where
  name := "chunked"
  optionKeys := ["chunk_size", "chunk_overlap"]
  resolve := fun options => (resolve options).map toEntries
  draft := fun _ path content metadata options =>
    (resolve options).map fun w => (w.segments path content metadata).map .ready

end WindowSizes

end SegmentIndex
