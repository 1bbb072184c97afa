import SegmentIndex.Source

/-!
# Configuration

A configuration says how texts are embedded, where points are kept, what is watched, which
limits hold, and which sources there are.
-/
namespace SegmentIndex

structure EmbeddingConfig where
  provider : String := "fastembed"
  model : String := "BAAI/bge-small-en-v1.5"
  dimensions : Int := 384
  ollamaUrl : String := "http://localhost:11434"
  ollamaModel : String := "all-minilm"
  timeoutSeconds : Float := 30.0
  deriving DecidableEq, Repr, Inhabited

/-- Where points are kept. -/
structure VectorConfig where
  location : String := ":memory:"
  path : Option String := none
  collection : String := "docsift_segments"
  deriving DecidableEq, Repr, Inhabited

/-- What is watched unless a source says otherwise, and for how long events are held back. -/
structure WatchConfig where
  enabled : Bool := false
  debounceMs : Int := 500
  deriving DecidableEq, Repr, Inhabited

/-- The limits of the statistics and the encoding of files. -/
structure IngestionConfig where
  maxFailures : Int := 20
  maxSources : Int := 100
  encoding : String := "utf-8"
  deriving DecidableEq, Repr, Inhabited

/-- A whole configuration. -/
structure Config where
  description : String := "Search indexed documents by semantic similarity."
  embedding : EmbeddingConfig := {}
  vector : VectorConfig := {}
  watch : WatchConfig := {}
  ingestion : IngestionConfig := {}
  sources : List Source := []
  deriving DecidableEq, Repr, Inhabited

def Config.compileSources (c : Config) (r : Registry) : Except Failure (List Spec) :=
  Source.compileAll r c.watch.enabled c.sources

end SegmentIndex
