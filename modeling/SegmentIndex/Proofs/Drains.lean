import SegmentIndex.Proofs.Moments

/-!
# Handlers that ask for nothing

When a handler asks nothing of the debouncer, what the debouncer does depends on the debouncer
alone: a flush hands over all that is pending, and time that passes does so once or not at all.
-/
namespace SegmentIndex

variable {σ ω : Type}

/-- Whether a handler asks for nothing. -/
def Handler.Quiet (h : Handler σ ω) : Prop := ∀ w e, (h w e).2.1 = []

def Handler.worldAfter (h : Handler σ ω) (w : ω) (es : List (PendingEvent σ)) : ω :=
  es.foldl (fun w e => (h w e).1) w

namespace Debouncer

variable {h : Handler σ ω} {d : Debouncer σ}

theorem handle_quiet (hq : h.Quiet) (es : List (PendingEvent σ)) (w : ω) :
    es.foldl (handle h) (d, w) = (d, h.worldAfter w es) := by
  induction es generalizing w with
  | nil => rfl
  | cons e es ih =>
    have : handle h (d, w) e = (d, (h w e).1) := by simp [handle, hq w e]
    rw [List.foldl_cons, this, ih]
    rfl

/-- The states before and after a number of flushes, without or with any that is not empty. -/
structure Drained (d d' : Debouncer σ) (any : Bool) : Prop where
  pending : d'.pending = if any then [] else d.pending
  flushing : d'.flushing = false
  stopped : d'.stopped = d.stopped

theorem Drained.trans {d d' d'' : Debouncer σ} {a b : Bool} (h : Drained d d' a)
    (h' : Drained d' d'' b) :
    Drained d d'' (a || b) := by
  refine ⟨?_, h'.flushing, h'.stopped.trans h.stopped⟩
  rw [h'.pending, h.pending]
  cases a <;> cases b <;> rfl

theorem pending_endFlush_beginFlush (d : Debouncer σ) (n : Nat) :
    Drained d (d.beginFlush.endFlush n) true := by
  refine ⟨rfl, flushing_endFlush n _, ?_⟩
  simp [endFlush, beginFlush]

theorem flush_quiet (hq : h.Quiet) (hd : d.flushing = false) (w : ω) :
    (d.flush h w).1 = (d.beginFlush.endFlush d.pending.length, h.worldAfter w d.pending) := by
  simp [flush, hd, handle_quiet hq]

theorem expire_quiet (g : Nat) (hd : d.flushing = false) : ∃ d' any, Drained d d' any ∧
    ∀ {ω : Type} (h : Handler σ ω), h.Quiet → ∀ w,
      d.expire h g w = (d', if any then h.worldAfter w d.pending else w) := by
  by_cases hg : g ≠ d.generation
  · exact ⟨d, false, ⟨rfl, hd, rfl⟩, fun h _ w => by simp [expire, hg]⟩
  · obtain ⟨hp, hf, hs⟩ := pending_endFlush_beginFlush ({ d with timer := none } : Debouncer σ)
      d.pending.length
    refine ⟨_, true, ⟨hp, hf, hs⟩, fun h hq w => ?_⟩
    rw [expire, if_neg hg]
    exact flush_quiet (d := { d with timer := none }) hq hd w

theorem runUntil_quiet (time fuel : Nat) (hd : d.flushing = false) : ∃ d' any, Drained d d' any ∧
    ∀ {ω : Type} (h : Handler σ ω), h.Quiet → ∀ w,
      (d.runUntil h time fuel w).1 = (d', if any then h.worldAfter w d.pending else w) := by
  induction fuel generalizing d with
  | zero => exact ⟨d, false, ⟨rfl, hd, rfl⟩, fun h _ w => rfl⟩
  | succ fuel ih =>
    cases hs : soonest d.running with
    | none => exact ⟨d, false, ⟨rfl, hd, rfl⟩, fun h _ w => by simp [runUntil, expireBy, hs]⟩
    | some t =>
      by_cases ht : t.due ≤ time
      · obtain ⟨d₁, a, ⟨hp₁, hf₁, hs₁⟩, h₁⟩ := expire_quiet t.generation (d := d.runOut t) hd
        obtain ⟨d₂, b, h₂, h₃⟩ := ih hf₁
        refine ⟨d₂, a || b, Drained.trans ⟨hp₁, hf₁, hs₁⟩ h₂, fun h hq w => ?_⟩
        have hpend : (d.runOut t).pending = d.pending := rfl
        simp only [runUntil, expireBy, hs, if_pos ht, h₁ h hq, h₃ h hq, hp₁, hpend]
        cases a <;> cases b <;> rfl
      · exact ⟨d, false, ⟨rfl, hd, rfl⟩, fun h _ w => by simp [runUntil, expireBy, hs, ht]⟩

/-- Time that passes hands all that is pending over to a quiet handler, or nothing; which of the two
it is does not depend on the handler. -/
theorem advance_quiet (ms : Nat) (hd : d.flushing = false) : ∃ d' any, Drained d d' any ∧
    ∀ {ω : Type} (h : Handler σ ω), h.Quiet → ∀ w,
      (d.advance h ms w).1 = (d', if any then h.worldAfter w d.pending else w) := by
  obtain ⟨d', any, ⟨hp, hf, hs⟩, h'⟩ := runUntil_quiet (d.now + ms) (ms + 1) hd
  refine ⟨{ d' with now := d.now + ms }, any, ⟨hp, hf, hs⟩, fun h hq w => ?_⟩
  simp only [advance, h' h hq]

end Debouncer

end SegmentIndex
