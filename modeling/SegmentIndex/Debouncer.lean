import SegmentIndex.Error

/-!
# Debouncing

Events of files are held back until no event has come for one interval, at most one entry for each
path: a later event for a path takes the place of the earlier one. A flush hands the entries over,
in the order in which their paths first came, and takes no notice of a handler that fails. A handler
may submit further events and stop the debouncer; a flush that it asks for does nothing.

A debouncer holds on to the timer that it started last and cancels it before it starts another. A
timer carries the generation in which it was started, and an expiry of any other generation is void.
-/
namespace SegmentIndex

/-- An event that is held back. -/
structure PendingEvent (σ : Type) where
  kind : String
  path : String
  spec : σ
  deriving DecidableEq, Repr

/-- A running timer: the generation in which it was started, and when it runs out. -/
structure Timer where
  generation : Nat
  due : Nat
  deriving DecidableEq, Repr

/-- Events held back, the timers that run, the generation of the one held on to, and the counters.
Timers that do not run any more were cancelled or ran out. Times are in milliseconds. -/
structure Debouncer (σ : Type) where
  interval : Nat
  counting : Bool := true
  now : Nat := 0
  pending : List (PendingEvent σ) := []
  running : List Timer := []
  timer : Option Nat := none
  generation : Nat := 0
  cancelled : List Nat := []
  expired : List Nat := []
  flushing : Bool := false
  stopped : Bool := false
  queued : Nat := 0
  processed : Nat := 0
  deriving Repr

/-- What a handler asks of the debouncer while it runs. -/
inductive Request (σ : Type) where
  | submit (event : PendingEvent σ)
  | flush
  | stop (drain : Bool)
  deriving DecidableEq, Repr

/-- The answer to a flush that is asked for while one is running. -/
def nestedFlush : Nat := 0

/-- Handles an event in a world: the new world, what is asked of
the debouncer, and whether it failed. -/
abbrev Handler (σ ω : Type) := ω → PendingEvent σ → ω × List (Request σ) × Bool

namespace Debouncer

variable {σ ω : Type}

def defaultInterval : Int := 500

/-- A debouncer of a given interval, which must be positive. -/
def new (interval : Int) (counting : Bool) : Except Failure (Debouncer σ) :=
  if interval ≤ 0 then .error (Failure.badValue "debounce_seconds must be > 0")
  else .ok { interval := interval.toNat, counting := counting }

/-- Puts an event in the place of the one for its path, or behind all others. -/
def hold (e : PendingEvent σ) : List (PendingEvent σ) → List (PendingEvent σ)
  | [] => [e]
  | f :: rest => if f.path = e.path then e :: rest else f :: hold e rest

/-- The timers that run on when the one of a generation does not. -/
def without (generation : Nat) (ts : List Timer) : List Timer :=
  ts.filter (·.generation ≠ generation)

def disarm (d : Debouncer σ) : Debouncer σ :=
  { d with
    timer := none
    running := match d.timer with
      | some g => without g d.running
      | none => d.running
    cancelled := d.timer.toList ++ d.cancelled }

/-- Starts a new timer in the place of the old one. -/
def arm (d : Debouncer σ) : Debouncer σ :=
  let d := d.disarm
  { d with
    generation := d.generation + 1
    timer := some (d.generation + 1)
    running := d.running ++ [⟨d.generation + 1, d.now + d.interval⟩] }

/-- Takes an event in, unless the debouncer is stopped; while a flush runs no timer is started. -/
def submit (e : PendingEvent σ) (d : Debouncer σ) : Debouncer σ :=
  if d.stopped then d
  else
    let d := { d with pending := hold e d.pending }
    let d := if d.flushing then d else d.arm
    { d with queued := if d.counting then d.queued + 1 else d.queued }

/-- Stops for good: no event is taken in and no timer is started from here on. -/
def halt (d : Debouncer σ) : Debouncer σ :=
  let d := { d with stopped := true }.disarm
  { d with generation := d.generation + 1 }

def discard (d : Debouncer σ) : Debouncer σ := { d with pending := [] }

def answer (d : Debouncer σ) : Request σ → Debouncer σ
  | .submit e => d.submit e
  | .flush => d
  | .stop drain => if drain then d.halt else d.halt.discard

def handle (h : Handler σ ω) (s : Debouncer σ × ω) (e : PendingEvent σ) : Debouncer σ × ω :=
  let (w, requests, _) := h s.2 e
  (requests.foldl answer s.1, w)

def beginFlush (d : Debouncer σ) : Debouncer σ := { d with flushing := true, pending := [] }

/-- Ends a flush of a number of entries; what has come in meanwhile starts a timer. -/
def endFlush (count : Nat) (d : Debouncer σ) : Debouncer σ :=
  let d := { d with flushing := false }
  let d := if d.pending.isEmpty || d.stopped then d else d.arm
  { d with processed := if d.counting then d.processed + count else d.processed }

/-- Hands all pending events over and says how many they were. -/
def flush (h : Handler σ ω) (d : Debouncer σ) (w : ω) : (Debouncer σ × ω) × Nat :=
  if d.flushing then ((d, w), nestedFlush)
  else
    let batch := d.pending
    let (d, w) := batch.foldl (handle h) (d.beginFlush, w)
    ((d.endFlush batch.length, w), batch.length)

/-- Stops, and hands over or drops what is pending. -/
def stop (h : Handler σ ω) (drain : Bool) (d : Debouncer σ) (w : ω) : Debouncer σ × ω :=
  if drain then (d.halt.flush h w).1 else (d.halt.discard, w)

/-- What the expiry of a timer of a generation does. -/
def expire (h : Handler σ ω) (generation : Nat) (d : Debouncer σ) (w : ω) : Debouncer σ × ω :=
  if generation ≠ d.generation then (d, w) else ({ d with timer := none }.flush h w).1

def soonest : List Timer → Option Timer
  | [] => none
  | t :: rest =>
    match soonest rest with
    | none => some t
    | some u => if t.due ≤ u.due then some t else some u

def runOut (t : Timer) (d : Debouncer σ) : Debouncer σ :=
  { d with
    now := max d.now t.due
    running := without t.generation d.running
    expired := t.generation :: d.expired }

/-- Lets the first timer that is due by a time expire. -/
def expireBy (h : Handler σ ω) (time : Nat) (d : Debouncer σ) (w : ω) : Option (Debouncer σ × ω) :=
  match soonest d.running with
  | none => none
  | some t => if t.due ≤ time then some ((d.runOut t).expire h t.generation w) else none

/-- Lets timers expire up to a time and counts them. -/
def runUntil (h : Handler σ ω) (time : Nat) : Nat → Debouncer σ → ω → (Debouncer σ × ω) × Nat
  | 0, d, w => ((d, w), 0)
  | fuel + 1, d, w =>
    match d.expireBy h time w with
    | none => ((d, w), 0)
    | some (d, w) => let (s, n) := runUntil h time fuel d w; (s, n + 1)

/-- Lets time pass: each timer expires at its own time. Says how many did. -/
def advance (h : Handler σ ω) (ms : Nat) (d : Debouncer σ) (w : ω) : (Debouncer σ × ω) × Nat :=
  let time := d.now + ms
  let ((d, w), n) := runUntil h time (ms + 1) d w
  (({ d with now := time }, w), n)

/-- The timers that do not run any more. -/
def gone (d : Debouncer σ) : List Nat := d.cancelled ++ d.expired

/-- A late expiry of the timer that was last started of those that are gone. -/
def expireLate (h : Handler σ ω) (d : Debouncer σ) (w : ω) : Debouncer σ × ω :=
  match d.gone.max? with
  | some generation => d.expire h generation w
  | none => (d, w)

def timeLeft (d : Debouncer σ) : List Nat := d.running.map fun t => t.due - d.now

theorem flush_of_flushing (h : Handler σ ω) {d : Debouncer σ} (hd : d.flushing = true) (w : ω) :
    d.flush h w = ((d, w), 0) := by simp [flush, hd, nestedFlush]

end Debouncer

end SegmentIndex
