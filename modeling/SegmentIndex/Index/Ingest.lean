import SegmentIndex.FileTree.Text
import SegmentIndex.Index.Basic

/-!
# Ingesting files

A file is read, cut into segments and embedded as a whole before anything is stored, so a failure up
to there leaves the store as it was. A file that fails is recorded and passed over; it never stops
the run. What stops a run is a spec whose strategy, options or pattern are unsound.
-/
namespace SegmentIndex

variable {ν : Type}

namespace Engine

/-- The vector of a text; every failure is one of embedding. -/
def vectorOf (e : Engine ν) (text : String) : Except Failure ν :=
  match e.embed text with
  | .ok v => .ok v
  | .error f =>
    match f with
    | .file fault _ =>
      .error (if fault.kind = .embedding then f else .file (.embeddingFailed f.message) none)
    | _ => .error (.file (.embeddingFailed f.message) none)

/-- The vectors of segments, up to the first that fails. -/
def embedAll (e : Engine ν) : List Segment → Except Failure (List (Segment × ν))
  | [] => .ok []
  | s :: rest =>
    match e.vectorOf s.text with
    | .error f => .error f
    | .ok v => (embedAll e rest).map ((s, v) :: ·)

def pointOf (s : Segment) (v : ν) : Point ν :=
  ⟨s.id, v, Entries.put "content" (.str s.content) s.metadata⟩

/-- Stores segments one by one, up to the first that the store refuses. -/
def storeAll (e : Engine ν) : List (Segment × ν) → PointStore ν → PointStore ν × Except Failure Unit
  | [], store => (store, .ok ())
  | (s, v) :: rest, store =>
    match e.refuse s.id with
    | some f => (store, .error (.file (.storeFailed s.id f.message) s.fileId))
    | none => storeAll e rest (PointStore.upsert (pointOf s v) store)

def segmentsOf (e : Engine ν) (t : FileTree) (spec : Spec) (m : MatchedFile) :
    Except Failure (List Segment) :=
  match t.readText e.encoding m.path with
  | .error f => .error f
  | .ok content =>
    (e.registry.process t spec.strategy m.path content m.metadata spec.options).map
      (·.map Draft.segment)

def prepare (e : Engine ν) (t : FileTree) (spec : Spec) (m : MatchedFile) :
    Except Failure (List (Segment × ν)) :=
  match e.segmentsOf t spec m with
  | .error f => .error f
  | .ok segments => e.embedAll segments

/-- Persists a matched file: the store afterwards, and its segments or the failure. -/
def persist (e : Engine ν) (t : FileTree) (spec : Spec) (m : MatchedFile) (store : PointStore ν) :
    PointStore ν × Except Failure (List Segment) :=
  match e.prepare t spec m with
  | .error f => (store, .error f)
  | .ok batch =>
    let (store, r) := e.storeAll batch store
    (store, r.map fun _ => batch.map (·.1))

end Engine

namespace Index

def fail (i : Index ν) (m : MatchedFile) (source : String) (counting : Bool) (f : Failure) :
    Index ν × FileResult :=
  let record : FailureRecord := ⟨m.path, f.kind.name, f.message, some source⟩
  ({ i with stats := i.stats.recordFailure record counting }.warn
      (.failedFile m.path f.kind.name f.message),
    ⟨m.path, some source, 0, some (f.kind, f.message)⟩)

def ingestFor (e : Engine ν) (t : FileTree) (counting : Bool) (spec : Spec) (m : MatchedFile)
    (i : Index ν) : Index ν × FileResult :=
  match e.persist t spec m i.store with
  | (store, .error f) => { i with store := store }.fail m spec.path counting f
  | (store, .ok segments) =>
    let stats := i.stats.recordSuccess (some spec.path) (segments.map (·.metadata)) counting
    ({ i with store := store, stats := stats }, ⟨m.path, some spec.path, segments.length, none⟩)

/-- Ingests a matched file, which must carry its spec. -/
def ingestFile (e : Engine ν) (t : FileTree) (counting : Bool) (m : MatchedFile) (i : Index ν) :
    Index ν × Except Failure FileResult :=
  match m.spec with
  | none => (i, .error (Failure.badValue ("Matched file " ++ m.path ++ " carries no path spec")))
  | some spec => let (i, r) := i.ingestFor e t counting spec m; (i, .ok r)

def seeCaptures (i : Index ν) (spec : Spec) (m : MatchedFile) : Index ν :=
  if m.captures.isEmpty then i
  else { i with stats := i.stats.recordCaptures spec.path m.captures }

def ingestMatches (e : Engine ν) (t : FileTree) (spec : Spec) :
    List MatchedFile → Index ν → Index ν × List FileResult
  | [], i => (i, [])
  | m :: rest, i =>
    let (i, r) := (i.seeCaptures spec m).ingestFor e t true spec m
    let (i, rs) := ingestMatches e t spec rest i
    (i, r :: rs)

/-- Ingests the files of specs, up to a spec whose pattern is unsound. -/
def ingestSpecs (e : Engine ν) (t : FileTree) :
    List Spec → Index ν → Index ν × Except Failure (List FileResult)
  | [], i => (i, .ok [])
  | spec :: rest, i =>
    match spec.matchFiles t with
    | .error f => (i, .error f)
    | .ok found =>
      let (i, rs) := i.ingestMatches e t spec found
      let (i, more) := ingestSpecs e t rest i
      (i, more.map (rs ++ ·))

def registerSources (specs : List Spec) (i : Index ν) : Index ν :=
  let (stats, dropped) := Stats.register (specs.map (·.path)) i.stats
  let i := { i with stats := stats }
  if dropped.isEmpty then i else i.warn (.untracked stats.maxSources dropped.length)

def checkSpecs (r : Registry) : List Spec → Except Failure Unit
  | [] => .ok ()
  | spec :: rest =>
    match spec.check r with
    | .error f => .error f
    | .ok _ => checkSpecs r rest

/-- Ingests all files of all specs. -/
def ingest (e : Engine ν) (t : FileTree) (specs : List Spec) (i : Index ν) :
    Index ν × Except Failure Report :=
  match checkSpecs e.registry specs with
  | .error f => (i, .error f)
  | .ok _ =>
    let (i, rs) := (i.registerSources specs).ingestSpecs e t specs
    (i, rs.map .ofResults)

end Index

end SegmentIndex
