import SegmentIndex.Config.Basic
import SegmentIndex.Debouncer
import SegmentIndex.Index.Reindex
import SegmentIndex.Watch

/-!
# Sessions

A session keeps an index in line with its sources: it compiles them, ingests their files, subscribes
to the directories of those that are watched, and follows the events that arrive, held back by a
debouncer. A session that was stopped can be started again, but its debouncer takes no more events.
-/
namespace SegmentIndex

def version : String := "0.1.0"

/-- A subscription to a directory for a spec. -/
structure Subscription where
  root : String
  recursive : Bool
  spec : Spec
  deriving DecidableEq, Repr

/-- What is asked of the source of events to end subscriptions. -/
inductive SourceCall where
  | unsubscribe (handle : Nat)
  | close
  deriving DecidableEq, Repr

/-- A session: all subscriptions ever made, and the handles of those that hold. -/
structure Session (ν : Type) where
  config : Config
  index : Index ν
  debouncer : Debouncer Spec
  specs : List Spec := []
  subscriptions : List Subscription := []
  handles : List Nat := []
  watched : List String := []
  calls : List SourceCall := []
  started : Bool := false
  closed : Bool := false
  deriving Repr

/-- What a session works with: the engine, and a source of
events that may refuse a root for a cause. -/
structure Surroundings (ν : Type) where
  engine : Engine ν
  refuseRoot : String → Option String

namespace Session

variable {ν : Type}

def new (config : Config) : Except Failure (Session ν) :=
  match Stats.new config.ingestion.maxFailures config.ingestion.maxSources with
  | .error f => .error f
  | .ok stats =>
    (Debouncer.new config.watch.debounceMs true).map fun d =>
      { config := config, index := Index.empty stats, debouncer := d }

/-- Follows an event that was held back; a failure goes no further. -/
def handler (e : Engine ν) (t : FileTree) : Handler Spec (Index ν) := fun i event =>
  let (i, r) := i.reindex e t event.kind event.path event.spec
  (i, [], match r with
    | .ok _ => false
    | .error _ => true)

/-- Puts the outcome of the debouncer back. -/
def withDebounced (s : Session ν) (p : Debouncer Spec × Index ν) : Session ν :=
  { s with debouncer := p.1, index := p.2 }

/-- Subscribes to the directory of a spec, if it is watched. -/
def watch (w : Surroundings ν) (t : FileTree) (spec : Spec) (s : Session ν) :
    Session ν × Except Failure Unit :=
  if !spec.watch then (s, .ok ())
  else
    match spec.watchTarget t with
    | .error f => (s, .error f)
    | .ok (root, recursive) =>
      match w.refuseRoot root with
      | some cause => ({ s with index := s.index.warn (.unwatched root spec.path cause) }, .ok ())
      | none =>
        ({ s with
            subscriptions := s.subscriptions ++ [⟨root, recursive, spec⟩]
            handles := s.handles ++ [s.subscriptions.length]
            watched := s.watched ++ [spec.path] }, .ok ())

/-- Subscribes to the directories of specs, up to one whose directory cannot be told. -/
def watchAll (w : Surroundings ν) (t : FileTree) :
    List Spec → Session ν → Session ν × Except Failure Unit
  | [], s => (s, .ok ())
  | spec :: rest, s =>
    match s.watch w t spec with
    | (s, .error f) => (s, .error f)
    | (s, .ok _) => watchAll w t rest s

def noteWatching (enabled : Bool) (sources : List String) (s : Session ν) : Session ν :=
  { s with index := { s.index with stats := s.index.stats.setWatching enabled sources } }

/-- Compiles the sources, ingests their files and begins to watch. -/
def start (w : Surroundings ν) (t : FileTree) (s : Session ν) : Session ν × Except Failure Report :=
  if s.started then (s, .error (.raised .runtime "IndexContext already started"))
  else
    match s.config.compileSources w.engine.registry with
    | .error f => (s, .error f)
    | .ok specs =>
      let (index, r) := s.index.ingest w.engine t specs
      let s := { s with specs := specs, index := index }
      match r with
      | .error f => (s, .error f)
      | .ok report =>
        match s.watchAll w t specs with
        | (s, .error f) => (s, .error f)
        | (s, .ok _) =>
          ({ s.noteWatching (!s.watched.isEmpty) s.watched with started := true }, .ok report)

def unwatch (s : Session ν) : Session ν :=
  { s.noteWatching false [] with
    calls := s.calls ++ s.handles.map .unsubscribe ++ [.close]
    handles := []
    watched := [] }

/-- Stops a session; what is held back is followed or dropped. -/
def stop (e : Engine ν) (t : FileTree) (drain : Bool) (s : Session ν) : Session ν :=
  let s := if s.started then s.unwatch else s
  let s := s.withDebounced (s.debouncer.stop (handler e t) drain s.index)
  { s with started := false, closed := true }

/-- Takes an event that a subscription for a spec delivers: if the file belongs to
the spec, it is counted and held back. -/
def receive (t : FileTree) (spec : Spec) (event : FileEvent) (s : Session ν) :
    Session ν × Except Failure Unit :=
  match spec.matchPath t event.path with
  | .error f => (s, .error f)
  | .ok none => (s, .ok ())
  | .ok (some _) =>
    ({ s with
        index := { s.index with stats := s.index.stats.recordEvent event.kind }
        debouncer := s.debouncer.submit ⟨event.kind, event.path, spec⟩ }, .ok ())

/-- Takes events one after the other, up to one that fails. -/
def receiveAll (t : FileTree) (spec : Spec) :
    List FileEvent → Session ν → Session ν × Except Failure Unit
  | [], s => (s, .ok ())
  | event :: rest, s =>
    match s.receive t spec event with
    | (s, .error f) => (s, .error f)
    | (s, .ok _) => receiveAll t spec rest s

def flush (e : Engine ν) (t : FileTree) (s : Session ν) : Session ν × Nat :=
  let (p, n) := s.debouncer.flush (handler e t) s.index
  (s.withDebounced p, n)

def advance (e : Engine ν) (t : FileTree) (ms : Nat) (s : Session ν) : Session ν × Nat :=
  let (p, n) := s.debouncer.advance (handler e t) ms s.index
  (s.withDebounced p, n)

/-- The counters of watching, with those of the debouncer. -/
def watchStats (s : Session ν) : WatchStats :=
  { s.index.stats.watch with queued := s.debouncer.queued, processed := s.debouncer.processed }

end Session

end SegmentIndex
