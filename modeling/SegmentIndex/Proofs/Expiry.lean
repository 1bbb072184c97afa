import SegmentIndex.Proofs.Runs

/-!
# Expiry of timers

A timer that runs out hands over what is pending one interval after the last accepted
submission. A timer that was cancelled or replaced does nothing, however late it is heard
of, and no timer is started after a stop.
-/
namespace SegmentIndex

variable {σ ω : Type}

namespace Debouncer

variable {d : Debouncer σ} {l : Ledger σ} {m : Moment σ} {ms ns : List (Moment σ)}

theorem expire_of_cancelled (ht : Timed d l) {g : Nat} (hg : g ∈ d.cancelled)
    (h : Handler σ ω) (w : ω) :
    d.expire h g w = (d, w) := if_pos (ht.cancelled g hg).ne

theorem stopped_act (hs : d.stopped = true) (m : Moment σ) : (d.act m).stopped = true := by
  cases m with
  | submit e => exact (stopped_submit e d).trans hs
  | finish n => simp [act, endFlush, hs]
  | flush => exact (entered_enter d).stopped.trans hs
  | ring t => exact (entered_strike _ (d.runOut t)).stopped.trans hs
  | late g => exact (entered_strike g d).stopped.trans hs
  | call e => exact hs
  | halt => rfl
  | discard => exact hs
  | pass time => exact hs

theorem stopped_after (h : .halt ∈ ms ∨ d.stopped = true) : (d.after ms).stopped = true := by
  induction ms generalizing d with
  | nil => simpa using h
  | cons m ms ih =>
    rcases h with h | h
    · rcases List.mem_cons.mp h with rfl | h
      · exact ih (.inr rfl)
      · exact ih (.inl h)
    · exact ih (.inr (stopped_act h m))

theorem running_submit (e : PendingEvent σ) (hs : d.stopped = false) :
    (d.submit e).cancelled = (if d.flushing then d else d.arm).cancelled ∧
      (d.submit e).running = (if d.flushing then d else d.arm).running := by
  rw [submit, if_neg (by simp [hs])]
  cases d.flushing <;> exact ⟨rfl, rfl⟩

theorem running_endFlush (n : Nat) :
    (d.endFlush n).cancelled = (if d.pending.isEmpty || d.stopped then d else d.arm).cancelled ∧
      (d.endFlush n).running = (if d.pending.isEmpty || d.stopped then d else d.arm).running := by
  unfold endFlush
  dsimp only
  split_ifs <;> exact ⟨rfl, rfl⟩

/-- A timer that runs goes on running, is cancelled, or runs out at this moment. -/
theorem running_act (ht : Timed d l) (hf : Fits d l m) {t : Timer} (h : t ∈ d.running) :
    t ∈ (d.act m).running ∨ t.generation ∈ (d.act m).cancelled ∨ m = .ring t := by
  obtain ⟨hg, hdue, hr, hs⟩ := generation_of_mem ht h
  have hm : d.timer = some t.generation := by
    rcases ht.armed with ⟨hn, -⟩ | ⟨due, -, hm, -⟩
    · simp [hn] at h
    · rw [hm, hg]
  have hc : t.generation ∈ d.disarm.cancelled := by simp [disarm, hm]
  cases m with
  | submit e =>
    obtain ⟨h₁, h₂⟩ := running_submit e hs
    rw [act, h₁, h₂]
    split_ifs
    · exact .inl h
    · exact .inr (.inl hc)
  | finish n =>
    obtain ⟨h₁, h₂⟩ := running_endFlush (d := d) n
    rw [act, h₁, h₂]
    split_ifs
    · exact .inl h
    · exact .inr (.inl hc)
  | flush => exact .inl (by rwa [act, (entered_enter d).running])
  | halt => exact .inr (.inl hc)
  | ring u =>
    have hu := hf.2
    rw [hr, List.mem_singleton] at hu
    exact .inr (.inr (by rw [hu]))
  | late g => exact .inl (by rwa [act, (entered_strike g d).running])
  | call e => exact .inl h
  | discard => exact .inl h
  | pass time => exact .inl h

theorem cancelled_act {g : Nat} (hg : g ∈ d.cancelled) (m : Moment σ) :
    g ∈ (d.act m).cancelled := by
  have hd : g ∈ d.disarm.cancelled := List.mem_append_right _ hg
  cases m with
  | submit e =>
    cases hs : d.stopped with
    | true => rwa [act, submit_of_stopped e hs]
    | false =>
      rw [act, (running_submit e hs).1]
      split_ifs
      · exact hg
      · exact hd
  | finish n =>
    rw [act, (running_endFlush n).1]
    split_ifs
    · exact hg
    · exact hd
  | halt => exact hd
  | flush => rwa [act, (entered_enter d).cancelled]
  | ring t =>
    rw [act, (entered_strike _ (d.runOut t)).cancelled]
    exact hg
  | late g => rwa [act, (entered_strike g d).cancelled]
  | call e => exact hg
  | discard => exact hg
  | pass time => exact hg

theorem running_after (hk : Kept d l) (ht : Timed d l) (hl : Legal d l ms) {t : Timer}
    (h : t ∈ d.running ∨ t.generation ∈ d.cancelled) :
    t ∈ (d.after ms).running ∨ t.generation ∈ (d.after ms).cancelled ∨ .ring t ∈ ms := by
  induction ms generalizing d l with
  | nil => exact h.imp_right .inl
  | cons m ms ih =>
    have hstep : t ∈ (d.act m).running ∨ t.generation ∈ (d.act m).cancelled ∨ m = .ring t := by
      rcases h with h | h
      · exact running_act ht hl.1 h
      · exact .inr (.inl (cancelled_act h m))
    rw [← or_assoc] at hstep
    rcases hstep with h | rfl
    · rcases ih (kept_act hk hl.1) (timed_act ht hl.1) hl.2 h with h | h | h
      · exact .inl h
      · exact .inr (.inl h)
      · exact .inr (.inr (List.mem_cons_of_mem _ h))
    · exact .inr (.inr List.mem_cons_self)

/-- An expiry that begins a flush of something is that of the running timer, one
interval after the last accepted submission. -/
theorem now_of_begins (ht : Timed d l) (hf : Fits d l m) (hb : d.begins m = true)
    (hp : d.pending ≠ []) (hm : m ≠ .flush) :
    ∃ t, m = .ring t ∧ d.running = [t] ∧ (d.act m).now = l.acceptedAt + d.interval := by
  have hd := flushing_of_begins hb
  rcases act_of_begins hb with ⟨rfl, -⟩ | ⟨t, rfl, -, ha⟩ | ⟨rfl, -⟩
  · exact absurd rfl hm
  · obtain ⟨-, hdue, hr, hs⟩ := generation_of_mem ht hf.2
    have hlive := ht.live hd hs hp
    rw [hr, List.singleton_inj] at hlive
    refine ⟨t, rfl, hr, ?_⟩
    have hn : (d.act (.ring t)).now = max d.now t.due := by rw [ha]; rfl
    rw [hn, max_eq_right hdue.le, hlive]
  · exact absurd ((expired_of_gone ht hf.2).2.2 hd) hp

/-- How the timers stand at a moment of a run, with some moments before it and others to come. -/
structure Punctual (start : Debouncer σ) (before after : List (Moment σ)) : Prop where
  single : (start.after before).running.length ≤ 1
  /-- The timer of what is pending runs, and its expiry is not void. -/
  live : (start.after before).flushing = false → (start.after before).stopped = false →
    (start.after before).pending ≠ [] →
    ∃ t, (start.after before).running = [t] ∧ t.generation = (start.after before).generation ∧
      (start.after before).begins (.ring t) = true
  ahead : ∀ t ∈ (start.after before).running, (start.after before).now < t.due
  /-- A timer that ran at any time, does not run now and did not run out is void from now on. -/
  void : ∀ past, past <+: before → ∀ t ∈ (start.after past).running,
    t ∉ (start.after before).running → .ring t ∉ before →
    ∀ {ω : Type} (h : Handler σ ω) (w : ω),
      (start.after before).expire h t.generation w = (start.after before, w)
  /-- What an expiry hands over has waited for one interval since the last accepted submission. -/
  due : ∀ m rest, after = m :: rest → m ≠ .flush → (start.after before).begins m = true →
    (start.after before).pending ≠ [] →
    ∃ t, m = .ring t ∧ (start.after before).running = [t] ∧
      ((start.after before).act m).now = (({} : Ledger σ).after start before).acceptedAt +
      start.interval
  quiet : .halt ∈ before → (start.after before).running = []

/-- Whatever a handler does, the timers of a new debouncer are in order at any moment of any run. -/
theorem timers_punctual (h : Handler σ ω) {interval : Int} {counting : Bool} {start : Debouncer σ}
    (hstart : Debouncer.new interval counting = .ok start) (w : ω) (demands : List (Demand σ)) :
    start.after (runMoments h (start, w) demands) = (meetAll h (start, w) demands).1 ∧
      ∀ before after, runMoments h (start, w) demands = before ++ after →
      Punctual start before after := by
  have hs : start.flushing = false := by
    unfold new at hstart
    split_ifs at hstart
    rw [← Except.ok.inj hstart]
  refine ⟨(after_runMoments h (s := (start, w)) hs demands).1, fun before after hrun => ?_⟩
  obtain ⟨hl, hk, ht⟩ := kept_timed_of_run h hstart w demands hrun
  constructor
  · rcases ht.armed with ⟨hr, -⟩ | ⟨due, hr, -⟩ <;> simp [hr]
  · intro hd hstop hp
    refine ⟨_, ht.live hd hstop hp, rfl, ?_⟩
    simp [begins, hd, act, strike, runOut, flushing_enter]
  · exact fun t hm => (generation_of_mem ht hm).2.1
  · rintro past ⟨rest, rfl⟩ t hm hnot hring _ h w
    rw [List.append_assoc] at hrun hl
    obtain ⟨-, hk', ht'⟩ := kept_timed_of_run _ hstart _ demands hrun
    rw [after_append] at hnot ht ⊢
    rcases running_after hk' ht' (legal_append.mp (legal_append.mp hl).2).1 (.inl hm)
      with hx | hx | hx
    · exact absurd hx hnot
    · exact expire_of_cancelled ht hx h w
    · exact absurd (List.mem_append_right _ hx) hring
  · rintro m rest rfl hm hb hp
    have hf := (legal_append.mp hl).2.1
    rw [← (settings_after start before).1]
    exact now_of_begins ht hf hb hp hm
  · exact fun hm => ht.stopped (stopped_after (.inl hm))

/-- A handler that takes no notice of its world and submits an event of another path. -/
def restless : Handler Unit Unit :=
  fun w e => (w, [.submit ⟨"modify", e.path ++ "~", ()⟩, .flush], true)

/-- Two submissions, the late expiry of the timer that the second one replaced, and a stop. -/
def replaced : List (Demand Unit) :=
  [.submit ⟨"create", "a.md", ()⟩, .advance 100, .submit ⟨"modify", "b.md", ()⟩, .late 1,
    .advance 600, .stop true, .late 2]

theorem replaced_punctual :
    ∃ start : Debouncer Unit, Debouncer.new 500 true = .ok start ∧
      (meetAll restless (start, ()) replaced).1.cancelled = [3, 1] ∧
      ∀ before after, runMoments restless (start, ()) replaced = before ++ after →
        Punctual start before after := by
  have hstart : Debouncer.new 500 true = .ok ({ interval := 500 } : Debouncer Unit) := rfl
  exact ⟨{ interval := 500 }, hstart, by decide, (timers_punctual restless hstart () replaced).2⟩

end Debouncer

end SegmentIndex
