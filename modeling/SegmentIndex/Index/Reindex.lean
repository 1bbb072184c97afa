import SegmentIndex.Index.Ingest

/-!
# Following changes

An event of a file brings the store in line with that one file. The totals change by what the store
shows before and after, so repeated events count nothing twice.
-/
namespace SegmentIndex.Index

variable {ν : Type}

def eventKinds : List String := ["create", "modify", "delete"]

/-- One if there is something, else zero. -/
def presence (n : Nat) : Int := if n > 0 then 1 else 0

def removeFile (file : String) (i : Index ν) : Index ν × Nat :=
  ({ i with store := PointStore.removeFile file i.store }, PointStore.countFile file i.store)

/-- Follows the removal of a file. -/
def followRemoval (spec : Spec) (file : String) (i : Index ν) : Index ν :=
  let (i, removed) := i.removeFile file
  if removed = 0 then i
  else { i with stats := i.stats.adjust (some spec.path) (-1) (-(removed : Int)) }

/-- Follows the appearance or the change of a matched file. -/
def followContent (e : Engine ν) (t : FileTree) (replacing : Bool) (spec : Spec) (m : MatchedFile)
    (i : Index ν) : Index ν × FileResult :=
  let before := PointStore.countFile m.path i.store
  let i := i.seeCaptures spec m
  let i := if replacing then (i.removeFile m.path).1 else i
  let (i, r) := i.ingestFor e t false spec m
  let after := PointStore.countFile m.path i.store
  let stats := i.stats.adjust (some spec.path) (presence after - presence before)
    ((after : Int) - before)
  ({ i with stats := stats }, r)

/-- Follows one event of a file under a spec; there is no result if the file was
removed or does not belong to the spec. -/
def reindex (e : Engine ν) (t : FileTree) (kind path : String) (spec : Spec) (i : Index ν) :
    Index ν × Except Failure (Option FileResult) :=
  if !eventKinds.contains kind then
    (i, .error (Failure.badValue ("Unsupported event kind: " ++ Text.quoted kind)))
  else if kind = "delete" then
    match t.canonical path with
    | .error f => (i, .error f)
    | .ok file => (i.followRemoval spec file, .ok none)
  else
    match spec.matchPath t path with
    | .error f => (i, .error f)
    | .ok none => (i, .ok none)
    | .ok (some m) =>
      let (i, r) := i.followContent e t (kind = "modify") spec m
      (i, .ok (some r))

end SegmentIndex.Index
