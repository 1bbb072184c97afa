import SegmentIndex.Segment
import SegmentIndex.Table

/-!
# Statistics of an index

The statistics count documents, segments and errors, in all and for each tracked source, keep the
latest failures, and remember every value that a metadata field has had. Counters never fall below
zero. A time is kept as the number of the reading of the clock that gave it, so a later time is a
greater one.
-/
namespace SegmentIndex

structure SourceStats where
  matched : Nat := 0
  processed : Nat := 0
  segments : Nat := 0
  errors : Nat := 0
  ingested : Option Nat := none
  deriving DecidableEq, Repr, Inhabited

/-- One failure of the history. -/
structure FailureRecord where
  path : String
  kind : String
  message : String
  source : Option String
  deriving DecidableEq, Repr, Inhabited

structure WatchStats where
  enabled : Bool := false
  sources : List String := []
  created : Nat := 0
  modified : Nat := 0
  deleted : Nat := 0
  seen : Option Nat := none
  queued : Int := 0
  processed : Int := 0
  deriving DecidableEq, Repr, Inhabited

/-- The statistics of an index. -/
structure Stats where
  maxFailures : Nat
  maxSources : Nat
  sources : Table SourceStats := []
  failures : List FailureRecord := []
  values : Table (List Value) := []
  captures : Table (Table (List String)) := []
  documents : Nat := 0
  segments : Nat := 0
  errors : Nat := 0
  clock : Nat := 0
  ingested : Option Nat := none
  watch : WatchStats := {}
  deriving DecidableEq, Repr, Inhabited

/-- A counter after a change; it stops at zero. -/
def shift (n : Nat) (change : Int) : Nat := (n + change).toNat

def addText (set : List String) (s : String) : List String :=
  if set.contains s then set else set ++ [s]

namespace Stats

def defaultMaxFailures : Int := 20

def defaultMaxSources : Int := 100

/-- Empty statistics with the given limits, which must be positive. -/
def new (maxFailures maxSources : Int) : Except Failure Stats :=
  if maxFailures ≤ 0 then .error (Failure.badValue "max_failures must be > 0")
  else if maxSources ≤ 0 then .error (Failure.badValue "max_sources must be > 0")
  else .ok { maxFailures := maxFailures.toNat, maxSources := maxSources.toNat }

variable (s : Stats)

def source? (path : String) : Option SourceStats := Table.get? path s.sources

/-- Changes the counters of a source, if it is tracked. -/
def onSource (source : Option String) (f : SourceStats → SourceStats) : Stats :=
  match source with
  | some path => { s with sources := Table.adjust path f s.sources }
  | none => s

/-- Starts to track a source, unless it is tracked already; says
whether it was dropped for lack of room. -/
def track (path : String) : Stats × Bool :=
  if (s.source? path).isSome then (s, false)
  else if s.sources.length ≥ s.maxSources then (s, true)
  else ({ s with sources := s.sources ++ [(path, {})] }, false)

/-- Starts to track sources, as far as there is room, and returns those that were dropped. -/
def register : List String → Stats → Stats × List String
  | [], s => (s, [])
  | path :: rest, s =>
    let (s, full) := s.track path
    let (s, dropped) := register rest s
    (s, if full then path :: dropped else dropped)

def overflowWarning (maxSources : Nat) (dropped : List String) : String :=
  "Source tracking limit (" ++ toString maxSources ++ ") reached; " ++ toString dropped.length ++
    " source(s) ingested without per-source stats"

/-- Adds the values of captures to those that a source has had. -/
def recordCaptures (source : String) (captures : List (String × String)) : Stats :=
  let add (known : Table (List String)) (c : String × String) : Table (List String) :=
    Table.alter c.1 (fun old => addText (old.getD []) c.2) known
  { s with captures := Table.alter source (fun old => captures.foldl add (old.getD [])) s.captures }

/-- A metadata value as it is remembered: lists and maps in plain form. -/
def indexed (v : Value) : Value := if v.hashable then v else .str v.plain

/-- Adds the metadata of segments to the values that fields have had. -/
def recordValues (metadata : List Entries) : Stats :=
  let add (known : Table (List Value)) (e : String × Value) : Table (List Value) :=
    Table.alter e.1 (fun old => Value.addTo (old.getD []) (indexed e.2)) known
  { s with values := metadata.flatten.foldl add s.values }

/-- Applies a net change of documents and segments. -/
def adjust (source : Option String) (documents segments : Int) : Stats :=
  let s :=
    { s with documents := shift s.documents documents, segments := shift s.segments segments }
  s.onSource source fun c =>
    { c with
      matched := shift c.matched documents
      processed := shift c.processed documents
      segments := shift c.segments segments }

/-- Records a file whose segments are all stored; without counting, only what was seen is kept. -/
def recordSuccess (source : Option String) (metadata : List Entries) (counting : Bool) : Stats :=
  let now := s.clock
  let s := { s.recordValues metadata with clock := now + 1, ingested := some now }
  let s := s.onSource source fun c => { c with ingested := some now }
  if counting then s.adjust source 1 metadata.length else s

def keepLatest (limit : Nat) (records : List FailureRecord) : List FailureRecord :=
  records.drop (records.length - limit)

def recordFailure (r : FailureRecord) (counting : Bool) : Stats :=
  let s :=
    { s with failures := keepLatest s.maxFailures (s.failures ++ [r]), errors := s.errors + 1 }
  s.onSource r.source fun c =>
    { c with matched := if counting then c.matched + 1 else c.matched, errors := c.errors + 1 }

def setWatching (enabled : Bool) (sources : List String) : Stats :=
  { s with watch := { s.watch with enabled := enabled, sources := sources } }

def recordEvent (kind : String) : Stats :=
  let w := { s.watch with seen := some s.clock }
  { s with clock := s.clock + 1, watch := match kind with
    | "create" => { w with created := w.created + 1 }
    | "modify" => { w with modified := w.modified + 1 }
    | "delete" => { w with deleted := w.deleted + 1 }
    | _ => w }

/-- Counts entries that were queued and processed. -/
def recordDebounce (queued processed : Int) : Stats :=
  { s with watch := { s.watch with
      queued := s.watch.queued + queued, processed := s.watch.processed + processed } }

/-! ## Views -/

def byKey {α : Type} (t : Table α) : Table α := t.mergeSort fun a b => Value.textLe a.1 b.1

/-- The values that each field has had, in order. -/
def metadataValues : Table (List Value) :=
  (byKey s.values).map fun (k, vs) => (k, vs.mergeSort Value.kindLe)

/-- The captures that each source has had, by name and in order. -/
def pathMetadata : Table (Table (List String)) :=
  s.captures.map fun (source, names) =>
    (source, (byKey names).map fun (k, vs) => (k, Value.sortTexts vs))

end Stats

end SegmentIndex
