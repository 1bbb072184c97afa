import SegmentIndex.Index.Store
import SegmentIndex.Matching
import SegmentIndex.Source
import SegmentIndex.Stats.Basic

/-!
# The index

An index holds the stored points, the statistics and the warnings that were given. Its engine is
what it works with: the strategies, the embedding of texts, and a store that may refuse a point.
-/
namespace SegmentIndex

/-- What an index works with. -/
structure Engine (ν : Type) where
  registry : Registry
  embed : String → Except Failure ν
  refuse : String → Option Failure
  encoding : String

/-- A warning to whoever runs the index. -/
inductive Warning where
  | failedFile (path kind message : String)
  | untracked (limit count : Nat)
  | unwatched (root path cause : String)
  deriving DecidableEq, Repr

/-- Stored points, statistics and warnings. -/
structure Index (ν : Type) where
  store : PointStore ν
  stats : Stats
  warnings : List Warning := []
  deriving DecidableEq, Repr

structure FileResult where
  path : String
  source : Option String
  segments : Nat
  failure : Option (FaultKind × String)
  deriving DecidableEq, Repr

namespace FileResult

def ok (r : FileResult) : Bool := r.failure.isNone

def status (r : FileResult) : String := if r.ok then "ingested" else "failed"

end FileResult

/-- What became of the files of a run, and how many there were of each kind. -/
structure Report where
  results : List FileResult := []
  ingested : Nat := 0
  failed : Nat := 0
  segments : Nat := 0
  deriving DecidableEq, Repr

namespace Report

def failures (r : Report) : List FileResult := r.results.filter (!·.ok)

def add (r : Report) (x : FileResult) : Report :=
  let r := { r with results := r.results ++ [x] }
  if x.ok then { r with ingested := r.ingested + 1, segments := r.segments + x.segments }
  else { r with failed := r.failed + 1 }

def ofResults (results : List FileResult) : Report := results.foldl add {}

theorem results_add (r : Report) (x : FileResult) : (r.add x).results = r.results ++ [x] := by
  unfold add
  cases x.ok <;> rfl

theorem ofResults_concat (results : List FileResult) (x : FileResult) :
    ofResults (results ++ [x]) = (ofResults results).add x := by
  simp [ofResults]

@[simp] theorem results_ofResults (results : List FileResult) :
    (ofResults results).results = results := by
  have h : ∀ r : Report, (results.foldl add r).results = r.results ++ results := by
    induction results with
    | nil => intro r; simp
    | cons x rest ih => intro r; simp [ih, results_add]
  simpa [ofResults] using h {}

end Report

namespace Index

variable {ν : Type}

def empty (stats : Stats) : Index ν := ⟨[], stats, []⟩

def warn (i : Index ν) (w : Warning) : Index ν := { i with warnings := i.warnings ++ [w] }

end Index

end SegmentIndex
