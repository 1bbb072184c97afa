import SegmentIndex.PathSpec.Compile
import SegmentIndex.Strategy.Basic

/-!
# Sources

A source names files by a path spec and a strategy to cut them with. Of its further keys, those that
the strategy claims are options and all others are metadata of every segment.
-/
namespace SegmentIndex

/-- One configured source. -/
structure Source where
  path : String
  ingest : String
  watch : Option Bool
  extras : Entries
  deriving DecidableEq, Repr, Inhabited

namespace Spec

/-- Compiles a path and binds it to a strategy, of which nothing is checked. -/
def loose (path strategy : String) (options metadata : Entries) (watch : Bool) :
    Except Failure Spec :=
  (PathSpec.compile path).map fun tokens =>
    ⟨path, tokens, PathSpec.baseOf tokens, strategy, options, metadata, watch⟩

/-- Checks that the strategy of a spec exists and takes its options. -/
def check (r : Registry) (spec : Spec) : Except Failure Unit :=
  match r.get spec.strategy with
  | .error e => .error e
  | .ok s => (s.resolve spec.options).map fun _ => ()

/-- Compiles a path and binds it to a strategy, which must exist and take the options. -/
def bind (r : Registry) (path strategy : String) (options metadata : Entries) (watch : Bool) :
    Except Failure Spec :=
  match loose path strategy options metadata watch with
  | .error e => .error e
  | .ok spec => (spec.check r).map fun _ => spec

end Spec

namespace Source

/-- Compiles a source; a source that does not say whether it is watched takes the default. -/
def compile (r : Registry) (watchDefault : Bool) (s : Source) : Except Failure Spec :=
  match r.get s.ingest with
  | .error e => .error e
  | .ok strategy =>
    let claimed (e : String × Value) : Bool := strategy.optionKeys.contains e.1
    Spec.bind r s.path s.ingest (s.extras.filter claimed) (s.extras.filter (!claimed ·))
      (s.watch.getD watchDefault)

def compileAll (r : Registry) (watchDefault : Bool) : List Source → Except Failure (List Spec)
  | [] => .ok []
  | s :: rest =>
    match s.compile r watchDefault with
    | .error e => .error e
    | .ok spec => (compileAll r watchDefault rest).map (spec :: ·)

end Source

end SegmentIndex
