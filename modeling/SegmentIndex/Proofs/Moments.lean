import SegmentIndex.Debouncer
import Mathlib.Tactic

/-!
# The moments of a run

A run of a debouncer is taken apart into moments: an event is submitted, a flush begins, the handler
is called, a timer runs out. Each moment changes the debouncer by itself, so what holds at every
moment holds while a handler is at work too.
-/
namespace SegmentIndex

/-- What happens to a debouncer at one moment. -/
inductive Moment (σ : Type) where
  | submit (event : PendingEvent σ)
  | flush
  | call (event : PendingEvent σ)
  | finish (count : Nat)
  | halt
  | discard
  | ring (timer : Timer)
  | late (generation : Nat)
  | pass (time : Nat)
  deriving DecidableEq, Repr

/-- What is asked of a debouncer from outside; a late expiry is one
of a timer that does not run any more. -/
inductive Demand (σ : Type) where
  | submit (event : PendingEvent σ)
  | flush
  | stop (drain : Bool)
  | advance (ms : Nat)
  | late (generation : Nat)
  deriving DecidableEq, Repr

variable {σ ω : Type}

def Request.moments : Request σ → List (Moment σ)
  | .submit e => [.submit e]
  | .flush => [.flush]
  | .stop true => [.halt, .flush]
  | .stop false => [.halt, .discard]

namespace Debouncer

/-- Begins a flush, unless one is running. -/
def enter (d : Debouncer σ) : Debouncer σ := if d.flushing then d else d.beginFlush

/-- What an expiry changes at once: it begins a flush, unless it is void. -/
def strike (generation : Nat) (d : Debouncer σ) : Debouncer σ :=
  if generation ≠ d.generation then d else { d with timer := none }.enter

def act (d : Debouncer σ) : Moment σ → Debouncer σ
  | .submit e => d.submit e
  | .flush => d.enter
  | .call _ => d
  | .finish n => d.endFlush n
  | .halt => d.halt
  | .discard => d.discard
  | .ring t => (d.runOut t).strike t.generation
  | .late g => d.strike g
  | .pass time => { d with now := time }

def after (d : Debouncer σ) (ms : List (Moment σ)) : Debouncer σ := ms.foldl act d

def begins (d : Debouncer σ) (m : Moment σ) : Bool := !d.flushing && (d.act m).flushing

/-- The moments of handing events over: the call of the handler and what it asks for meanwhile. -/
def handing (h : Handler σ ω) : List (PendingEvent σ) → ω → List (Moment σ)
  | [], _ => []
  | e :: rest, w => .call e :: ((h w e).2.1.flatMap Request.moments ++ handing h rest (h w e).1)

/-- The moments from one that may begin a flush up to the end of the flush. -/
def opening (h : Handler σ ω) (m : Moment σ) (d : Debouncer σ) (w : ω) : List (Moment σ) :=
  if d.begins m then m :: (handing h d.pending w ++ [.finish d.pending.length]) else [m]

/-- The moments in which timers run out, up to a time. -/
def ringing (h : Handler σ ω) (time : Nat) : Nat → Debouncer σ → ω → List (Moment σ)
  | 0, _, _ => []
  | fuel + 1, d, w =>
    match soonest d.running with
    | none => []
    | some t =>
      if t.due ≤ time then
        let (d', w') := (d.runOut t).expire h t.generation w
        opening h (.ring t) d w ++ ringing h time fuel d' w'
      else []

def momentsOf (h : Handler σ ω) (d : Debouncer σ) (w : ω) : Demand σ → List (Moment σ)
  | .submit e => [.submit e]
  | .flush => opening h .flush d w
  | .stop true => .halt :: opening h .flush d.halt w
  | .stop false => [.halt, .discard]
  | .advance ms => ringing h (d.now + ms) (ms + 1) d w ++ [.pass (d.now + ms)]
  | .late g => if g ∈ d.gone then opening h (.late g) d w else []

def meet (h : Handler σ ω) (s : Debouncer σ × ω) : Demand σ → Debouncer σ × ω
  | .submit e => (s.1.submit e, s.2)
  | .flush => (s.1.flush h s.2).1
  | .stop drain => s.1.stop h drain s.2
  | .advance ms => (s.1.advance h ms s.2).1
  | .late g => if g ∈ s.1.gone then s.1.expire h g s.2 else s

def meetAll (h : Handler σ ω) (s : Debouncer σ × ω) (demands : List (Demand σ)) : Debouncer σ × ω :=
  demands.foldl (meet h) s

def runMoments (h : Handler σ ω) : Debouncer σ × ω → List (Demand σ) → List (Moment σ)
  | _, [] => []
  | s, demand :: rest => momentsOf h s.1 s.2 demand ++ runMoments h (meet h s demand) rest

@[simp] theorem after_nil (d : Debouncer σ) : d.after [] = d := rfl

@[simp] theorem after_cons (d : Debouncer σ) (m : Moment σ) (ms : List (Moment σ)) :
    d.after (m :: ms) = (d.act m).after ms := rfl

@[simp] theorem after_append (d : Debouncer σ) (ms ns : List (Moment σ)) :
    d.after (ms ++ ns) = (d.after ms).after ns := List.foldl_append ..

/-! ## What moments leave alone -/

@[simp] theorem flushing_submit (e : PendingEvent σ) (d : Debouncer σ) :
    (d.submit e).flushing = d.flushing := by
  unfold submit
  dsimp only
  split_ifs <;> rfl

@[simp] theorem stopped_submit (e : PendingEvent σ) (d : Debouncer σ) :
    (d.submit e).stopped = d.stopped := by
  unfold submit
  dsimp only
  split_ifs <;> rfl

theorem flushing_answer (d : Debouncer σ) (r : Request σ) : (d.answer r).flushing = d.flushing := by
  cases r with
  | submit e => exact flushing_submit e d
  | flush => rfl
  | stop drain => cases drain <;> rfl

theorem flushing_answers (d : Debouncer σ) (rs : List (Request σ)) :
    (rs.foldl answer d).flushing = d.flushing := by
  induction rs generalizing d with
  | nil => rfl
  | cons r rs ih => rw [List.foldl_cons, ih, flushing_answer]

@[simp] theorem flushing_endFlush (n : Nat) (d : Debouncer σ) :
    (d.endFlush n).flushing = false := by
  unfold endFlush
  dsimp only
  split_ifs <;> rfl

theorem flushing_enter (d : Debouncer σ) : d.enter.flushing = true := by
  unfold enter
  split_ifs with h
  · exact h
  · rfl

/-- The state before and after what may begin a flush, but for the flag, the
timer held on to and what is pending. -/
structure Entered (d d' : Debouncer σ) : Prop where
  running : d'.running = d.running
  cancelled : d'.cancelled = d.cancelled
  stopped : d'.stopped = d.stopped
  interval : d'.interval = d.interval
  counting : d'.counting = d.counting

theorem entered_enter (d : Debouncer σ) : Entered d d.enter := by
  unfold enter
  split_ifs <;> exact ⟨rfl, rfl, rfl, rfl, rfl⟩

theorem entered_strike (g : Nat) (d : Debouncer σ) : Entered d (d.strike g) := by
  unfold strike
  split_ifs
  · exact ⟨rfl, rfl, rfl, rfl, rfl⟩
  · obtain ⟨hr, hc, hs, hi, hn⟩ := entered_enter { d with timer := none }
    exact ⟨hr, hc, hs, hi, hn⟩

theorem settings_act (d : Debouncer σ) (m : Moment σ) :
    (d.act m).interval = d.interval ∧ (d.act m).counting = d.counting := by
  cases m with
  | submit e =>
    simp only [act, submit]
    split_ifs <;> exact ⟨rfl, rfl⟩
  | finish n =>
    simp only [act, endFlush]
    split_ifs <;> exact ⟨rfl, rfl⟩
  | flush => exact ⟨(entered_enter d).interval, (entered_enter d).counting⟩
  | ring t =>
    exact ⟨(entered_strike _ (d.runOut t)).interval, (entered_strike _ (d.runOut t)).counting⟩
  | late g => exact ⟨(entered_strike g d).interval, (entered_strike g d).counting⟩
  | _ => exact ⟨rfl, rfl⟩

theorem settings_after (d : Debouncer σ) (ms : List (Moment σ)) :
    (d.after ms).interval = d.interval ∧ (d.after ms).counting = d.counting := by
  induction ms generalizing d with
  | nil => exact ⟨rfl, rfl⟩
  | cons m ms ih =>
    obtain ⟨hi, hc⟩ := settings_act d m
    exact ⟨(ih _).1.trans hi, (ih _).2.trans hc⟩

/-! ## Moments make up a run -/

theorem after_moments {d : Debouncer σ} (hd : d.flushing = true) (r : Request σ) :
    d.after r.moments = d.answer r := by
  have hh : d.halt.enter = d.halt := if_pos hd
  rcases r with e | _ | _ | _
  · rfl
  · exact if_pos hd
  · rfl
  · exact hh

theorem after_flatMap {d : Debouncer σ} (hd : d.flushing = true) (rs : List (Request σ)) :
    d.after (rs.flatMap Request.moments) = rs.foldl answer d := by
  induction rs generalizing d with
  | nil => rfl
  | cons r rs ih =>
    rw [List.flatMap_cons, after_append, after_moments hd, List.foldl_cons]
    exact ih (by rw [flushing_answer, hd])

theorem after_handing (h : Handler σ ω) {d : Debouncer σ} (hd : d.flushing = true)
    (es : List (PendingEvent σ)) (w : ω) :
    d.after (handing h es w) = (es.foldl (handle h) (d, w)).1 := by
  induction es generalizing d w with
  | nil => rfl
  | cons e es ih =>
    rw [handing, after_cons, after_append, List.foldl_cons, act, after_flatMap hd]
    exact ih (by rw [flushing_answers, hd]) (h w e).1

/-- A moment that begins a flush leaves no event pending; the flush ends as the program says. -/
theorem after_opening (h : Handler σ ω) {m : Moment σ} {d e : Debouncer σ} (w : ω)
    (hd : d.flushing = false) (hm : d.act m = e.enter) (he : e.flushing = false)
    (hp : e.pending = d.pending) : d.after (opening h m d w) = (e.flush h w).1.1 := by
  have hb : d.begins m = true := by simp [begins, hd, hm, flushing_enter]
  have hf : d.act m = e.beginFlush := by rw [hm, enter, he]; rfl
  rw [opening, if_pos hb, after_cons, after_append, hf, after_handing h rfl]
  simp [flush, he, hp, act]

theorem opening_void (h : Handler σ ω) {m : Moment σ} {d : Debouncer σ} (w : ω)
    (hm : (d.act m).flushing = false) : opening h m d w = [m] := by
  rw [opening, if_neg (by simp [begins, hm])]

theorem after_expiry (h : Handler σ ω) {m : Moment σ} {g : Nat} {d e : Debouncer σ} (w : ω)
    (hd : d.flushing = false) (hm : d.act m = e.strike g) (he : e.flushing = false)
    (hp : e.pending = d.pending) : d.after (opening h m d w) = (e.expire h g w).1 := by
  by_cases hg : g ≠ e.generation
  · have hs : d.act m = e := by rw [hm, strike, if_pos hg]
    rw [opening_void h w (by rw [hs, he]), after_cons, after_nil, hs, expire, if_pos hg]
  · have hs : d.act m = { e with timer := none }.enter := by rw [hm, strike, if_neg hg]
    rw [expire, if_neg hg]
    exact after_opening h w hd hs he hp

@[simp] theorem flushing_flush (h : Handler σ ω) {d : Debouncer σ}
    (hd : d.flushing = false) (w : ω) :
    (d.flush h w).1.1.flushing = false := by simp [flush, hd]

theorem flushing_expire (h : Handler σ ω) (g : Nat) {d : Debouncer σ}
    (hd : d.flushing = false) (w : ω) :
    (d.expire h g w).1.flushing = false := by
  unfold expire
  split_ifs
  · exact hd
  · exact flushing_flush h (d := { d with timer := none }) hd w

theorem after_ringing (h : Handler σ ω) (time fuel : Nat) {d : Debouncer σ} (w : ω)
    (hd : d.flushing = false) :
    d.after (ringing h time fuel d w) = (d.runUntil h time fuel w).1.1 ∧
      (d.runUntil h time fuel w).1.1.flushing = false := by
  induction fuel generalizing d w with
  | zero => exact ⟨rfl, hd⟩
  | succ fuel ih =>
    unfold ringing runUntil expireBy
    cases hs : soonest d.running with
    | none => exact ⟨rfl, hd⟩
    | some t =>
      by_cases ht : t.due ≤ time
      · have hr : (d.runOut t).flushing = false := hd
        have hx := flushing_expire h t.generation hr w
        have := ih ((d.runOut t).expire h t.generation w).2 hx
        simp only [if_pos ht, after_append]
        rw [after_expiry h w hd rfl hr rfl]
        exact this
      · simp only [if_neg ht]
        exact ⟨rfl, hd⟩

theorem after_momentsOf (h : Handler σ ω) {s : Debouncer σ × ω} (hs : s.1.flushing = false)
    (demand : Demand σ) : s.1.after (momentsOf h s.1 s.2 demand) = (meet h s demand).1 ∧
      (meet h s demand).1.flushing = false := by
  obtain ⟨d, w⟩ := s
  have hd : d.flushing = false := hs
  cases demand with
  | submit e => exact ⟨rfl, (flushing_submit e d).trans hd⟩
  | flush => exact ⟨after_opening h w hd rfl hd rfl, flushing_flush h hd w⟩
  | stop drain =>
    have hh : d.halt.flushing = false := hd
    cases drain with
    | false => exact ⟨rfl, hd⟩
    | true => exact ⟨after_opening h w hh rfl hh rfl, flushing_flush h hh w⟩
  | advance ms =>
    obtain ⟨he, hf⟩ := after_ringing h (d.now + ms) (ms + 1) w hd
    exact ⟨by simp only [momentsOf, after_append, he]; rfl, hf⟩
  | late g =>
    by_cases hg : g ∈ d.gone
    · simp only [momentsOf, meet, if_pos hg]
      exact ⟨after_expiry h w hd rfl hd rfl, flushing_expire h g hd w⟩
    · simp only [momentsOf, meet, if_neg hg]
      exact ⟨rfl, hd⟩

theorem after_runMoments (h : Handler σ ω) {s : Debouncer σ × ω} (hs : s.1.flushing = false)
    (demands : List (Demand σ)) : s.1.after (runMoments h s demands) = (meetAll h s demands).1 ∧
      (meetAll h s demands).1.flushing = false := by
  induction demands generalizing s with
  | nil => exact ⟨rfl, hs⟩
  | cons demand rest ih =>
    obtain ⟨he, hf⟩ := after_momentsOf h hs demand
    rw [runMoments, after_append, he]
    exact ih hf

end Debouncer

end SegmentIndex
