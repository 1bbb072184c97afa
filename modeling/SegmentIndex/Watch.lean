/-!
# Watching files

What the file system reports is turned into events of files: a move is a removal followed by a
change, and directories are passed over. All subscriptions share one observer of the file system. It
is made and started when the first subscription needs it; after it was closed, the next subscription
makes a new one.
-/
namespace SegmentIndex

/-! ## Events -/

structure FileEvent where
  kind : String
  path : String
  deriving DecidableEq, Repr, Inhabited

/-- What the file system reports. -/
inductive FileReport where
  | created (path : String)
  | modified (path : String)
  | deleted (path : String)
  | moved (source target : String)
  deriving DecidableEq, Repr

/-- The events of files that a report stands for; the flag says that it is about a directory. -/
def FileReport.events (isDirectory : Bool) (r : FileReport) : List FileEvent :=
  if isDirectory then []
  else
    match r with
    | .created path => [⟨"create", path⟩]
    | .modified path => [⟨"modify", path⟩]
    | .deleted path => [⟨"delete", path⟩]
    | .moved source target => [⟨"delete", source⟩, ⟨"modify", target⟩]

/-! ## The shared observer -/

/-- What is done to observers, which are numbered in the order in which they are made. -/
inductive ObserverCall where
  | make (observer : Nat)
  | start (observer : Nat) (background : Bool)
  | schedule (observer : Nat) (root : String) (recursive : Bool)
  | unschedule (observer : Nat) (handle : Int)
  | stop (observer : Nat)
  | join (observer : Nat)
  deriving DecidableEq, Repr

/-- The number of observers made, and whether the last of them is in use. -/
structure SharedObserver where
  made : Nat := 0
  running : Bool := false
  deriving DecidableEq, Repr

namespace SharedObserver

def ensure (s : SharedObserver) : SharedObserver × List ObserverCall :=
  if s.running then (s, [])
  else
    let n := s.made + 1
    (⟨n, true⟩, [.make n, .start n true])

def subscribe (root : String) (recursive : Bool) (s : SharedObserver) :
    SharedObserver × List ObserverCall :=
  let (s, calls) := s.ensure
  (s, calls ++ [.schedule s.made root recursive])

def unsubscribe (handle : Int) (s : SharedObserver) : SharedObserver × List ObserverCall :=
  (s, if s.running then [.unschedule s.made handle] else [])

def close (s : SharedObserver) : SharedObserver × List ObserverCall :=
  ({ s with running := false }, if s.running then [.stop s.made, .join s.made] else [])

end SharedObserver

end SegmentIndex
