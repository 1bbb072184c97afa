import SegmentIndex.Proofs.Runs

/-!
# Conservation of submissions

No accepted submission is lost and none is handled twice. A flush hands over
what is pending when it begins, once and in order, whatever the handler does
meanwhile, and no flush begins inside another one.
-/
namespace SegmentIndex

variable {σ ω : Type}

/-- What a request asks for, as a caller from outside would. -/
def Request.demand : Request σ → Demand σ
  | .submit e => .submit e
  | .flush => .flush
  | .stop drain => .stop drain

/-- A handler that also writes down what it is called with. -/
def Handler.recording (h : Handler σ ω) : Handler σ (ω × List (PendingEvent σ)) :=
  fun w e => (((h w.1 e).1, w.2 ++ [e]), (h w.1 e).2)

/-- Every accepted submission was handled once, superseded by a later one for its path before that,
discarded, or is pending; the counters agree. -/
structure Settled (d : Debouncer σ) (l : Ledger σ) : Prop where
  handled : l.called = l.drained.map PendingEvent.plain
  pending : l.waiting.map PendingEvent.plain = d.pending
  superseded : ∀ x ∈ l.superseded, ∃ n y, x.number < n ∧ l.accepted[n]? = some y ∧ y.path = x.path
  numbers : ((l.drained ++ l.superseded ++ l.waiting ++ l.discarded).map PendingEvent.number).Perm
    (List.range l.accepted.length)
  accepted : ∀ x ∈ l.drained ++ l.superseded ++ l.waiting ++ l.discarded,
    l.accepted[x.number]? = some x.plain
  counted : d.counting = true → d.queued = l.accepted.length ∧ d.processed = l.called.length

namespace Debouncer

variable {d : Debouncer σ} {l : Ledger σ} {m : Moment σ} {ms ns : List (Moment σ)}

theorem settled_of_kept (hk : Kept d l) (hd : d.flushing = false) : Settled d l := by
  obtain ⟨hc, hf⟩ := hk.handled hd
  refine ⟨hc, hk.waiting, hk.superseded, hk.numbers, hk.accepted, fun h => ?_⟩
  rw [hc, List.length_map, ← hf]
  exact hk.counted h

/-- While a flush runs, what is asked for is done as usual; the handler is not
called and the world does not change. -/
theorem meet_of_flushing (h : Handler σ ω) (hd : d.flushing = true) (w : ω) (r : Request σ) :
    meet h (d, w) r.demand = (d.answer r, w) := by
  rcases r with e | _ | _ | _
  · rfl
  · simp [Request.demand, meet, flush_of_flushing h hd, answer]
  · rfl
  · have hh : d.halt.flushing = true := hd
    simp [Request.demand, meet, stop, flush_of_flushing h hh, answer]

/-! ## What the handler writes down -/

theorem calls_handing (h : Handler σ ω) (es : List (PendingEvent σ)) (w : ω) :
    calls (handing h es w) = es := by
  induction es generalizing w with
  | nil => rfl
  | cons e es ih =>
    have : calls (handing h (e :: es) w) =
        e :: calls ((h w e).2.1.flatMap Request.moments ++ handing h es (h w e).1) := rfl
    rw [this, calls_append, calls_requests, List.nil_append, ih]

theorem foldl_recording (h : Handler σ ω) (es log : List (PendingEvent σ))
    (d : Debouncer σ) (w : ω) :
    es.foldl (handle h.recording) (d, (w, log)) =
      ((es.foldl (handle h) (d, w)).1, ((es.foldl (handle h) (d, w)).2, log ++ es)) := by
  induction es generalizing d w log with
  | nil => simp
  | cons e es ih =>
    have : handle h.recording (d, (w, log)) e =
        ((handle h (d, w) e).1, ((handle h (d, w) e).2, log ++ [e])) := rfl
    rw [List.foldl_cons, List.foldl_cons, this, ih]
    simp

theorem flush_recording (h : Handler σ ω) (log : List (PendingEvent σ)) (d : Debouncer σ) (w : ω) :
    (d.flush h.recording (w, log)).1 = ((d.flush h w).1.1,
      ((d.flush h w).1.2, log ++ if d.flushing then [] else d.pending)) := by
  unfold flush
  cases hd : d.flushing with
  | true => simp
  | false => simp [foldl_recording]

theorem calls_opening (h : Handler σ ω) (w : ω) (hm : calls [m] = []) :
    calls (opening h m d w) = if d.begins m then d.pending else [] := by
  unfold opening
  split_ifs
  · rw [← List.singleton_append, calls_append, calls_append, hm, calls_handing]
    simp [calls]
  · exact hm

theorem expire_recording (h : Handler σ ω) {g : Nat} {e : Debouncer σ} (log : List (PendingEvent σ))
    (w : ω) (hm : calls [m] = []) (hd : d.flushing = false) (ha : d.act m = e.strike g)
    (he : e.flushing = false) (hp : e.pending = d.pending) :
    e.expire h.recording g (w, log) =
      ((e.expire h g w).1, ((e.expire h g w).2, log ++ calls (opening h m d w))) := by
  rw [calls_opening h w hm]
  by_cases hg : g ≠ e.generation
  · have hb : d.begins m = false := begins_of_act (by rw [ha, strike, if_pos hg, he, hd])
    simp [expire, hg, hb]
  · have hb : d.begins m = true := by simp [begins, hd, ha, strike, hg, flushing_enter]
    simp only [expire, if_neg hg, hb, if_true]
    rw [flush_recording]
    simp [he, hp]

theorem runUntil_recording (h : Handler σ ω) (time fuel : Nat) (log : List (PendingEvent σ)) (w : ω)
    (hd : d.flushing = false) : (d.runUntil h.recording time fuel (w, log)).1 =
      ((d.runUntil h time fuel w).1.1,
        ((d.runUntil h time fuel w).1.2, log ++ calls (ringing h time fuel d w))) := by
  induction fuel generalizing d w log with
  | zero => simp [runUntil, ringing]
  | succ fuel ih =>
    unfold runUntil ringing expireBy
    cases hs : soonest d.running with
    | none => simp
    | some t =>
      by_cases ht : t.due ≤ time
      · have hr : (d.runOut t).flushing = false := hd
        have hx := flushing_expire h t.generation hr w
        simp only [if_pos ht, calls_append]
        rw [expire_recording h (m := .ring t) log w rfl hd rfl hr rfl]
        simp only
        rw [ih _ _ hx, List.append_assoc]
      · simp [ht]

theorem meet_recording (h : Handler σ ω) (log : List (PendingEvent σ)) (w : ω)
    (hd : d.flushing = false) (demand : Demand σ) : meet h.recording (d, (w, log)) demand =
      ((meet h (d, w) demand).1, ((meet h (d, w) demand).2,
        log ++ calls (momentsOf h d w demand))) := by
  cases demand with
  | submit e => simp [meet, momentsOf, calls]
  | flush =>
    have hb : d.begins .flush = true := by simp [begins, hd, act, flushing_enter]
    rw [momentsOf, calls_opening h w rfl, if_pos hb]
    simp only [meet, flush_recording, hd, Bool.false_eq_true, if_false]
  | stop drain =>
    have hh : d.halt.flushing = false := hd
    cases drain with
    | false => simp [meet, stop, momentsOf, calls]
    | true =>
      have hb : d.halt.begins .flush = true := by simp [begins, hh, act, flushing_enter]
      have : calls (momentsOf h d w (.stop true)) = calls (opening h .flush d.halt w) := rfl
      rw [this, calls_opening h w rfl, if_pos hb]
      simp only [meet, stop, if_true, flush_recording, hh, Bool.false_eq_true, if_false]
  | advance ms =>
    rw [momentsOf, calls_append]
    simp only [meet, advance, runUntil_recording h _ _ log w hd]
    simp [calls]
  | late g =>
    by_cases hg : g ∈ d.gone
    · simp only [meet, momentsOf, if_pos hg]
      exact expire_recording h (m := .late g) log w rfl hd rfl hd rfl
    · simp [meet, momentsOf, hg]

theorem meetAll_recording (h : Handler σ ω) (log : List (PendingEvent σ)) (w : ω)
    (hd : d.flushing = false)
    (demands : List (Demand σ)) : (meetAll h.recording (d, (w, log)) demands).2.2 =
      log ++ calls (runMoments h (d, w) demands) := by
  induction demands generalizing d w log with
  | nil => simp [meetAll, runMoments]
  | cons demand rest ih =>
    have hf := (after_momentsOf h (s := (d, w)) hd demand).2
    have : meetAll h.recording (d, (w, log)) (demand :: rest) =
        meetAll h.recording (meet h.recording (d, (w, log)) demand) rest := rfl
    rw [this, meet_recording h log w hd, ih _ _ hf, runMoments, calls_append, List.append_assoc]

/-! ## From the beginning of a flush to its end -/

/-- A flush that runs comes to its end with all that was drained handed over: the
induction is on the moments up to the end. -/
theorem exists_finish (hl : Legal d l ms) (hd : d.flushing = true)
    (he : (d.after ms).flushing = false) :
    ∃ us n vs, ms = us ++ .finish n :: vs ∧ (∀ ns, ns <+: us → (d.after ns).flushing = true) ∧
      l.called ++ calls us = l.drained.map PendingEvent.plain ∧
        l.finished + n = l.drained.length := by
  induction ms generalizing d l with
  | nil => simp [hd] at he
  | cons m ms ih =>
    by_cases hm : ∃ n, m = .finish n
    · obtain ⟨n, rfl⟩ := hm
      obtain ⟨-, hc, hn⟩ := hl.1
      refine ⟨[], n, ms, rfl, fun ns h => ?_, by simpa using hc, hn⟩
      rw [List.prefix_nil.mp h]
      exact hd
    · obtain ⟨ha, hr, hn⟩ := fits_flushing hl.1 hd fun n h => hm ⟨n, h⟩
      obtain ⟨us, n, vs, rfl, hu, hc, hf⟩ := ih hl.2 ha he
      refine ⟨m :: us, n, vs, rfl, fun ns h => ?_, ?_, by rw [← hr, ← hn, hf]⟩
      · rcases List.prefix_cons_iff.mp h with rfl | ⟨ns, rfl, hns⟩
        · exact hd
        · exact hu ns hns
      · have := called_after d l [m]
        rw [Ledger.after_cons, Ledger.after_nil] at this
        rw [← hr, ← hc, this, List.append_assoc, ← calls_append, List.singleton_append]

/-- A moment that begins a flush is followed by the calls for what is
pending, and by the end of the flush. -/
theorem flush_of_begins (hk : Kept d l) (hl : Legal d l (m :: ms)) (hb : d.begins m = true)
    (he : (d.after (m :: ms)).flushing = false) :
    ∃ us vs, ms = us ++ .finish d.pending.length :: vs ∧ calls us = d.pending ∧
      ∀ ns, ns <+: us → (d.after (m :: ns)).flushing = true := by
  have hd : (d.act m).flushing = true := by
    simp only [begins, Bool.and_eq_true] at hb
    exact hb.2
  obtain ⟨us, n, vs, rfl, hu, hc, hn⟩ := exists_finish hl.2 hd he
  obtain ⟨hcalled, hfinished⟩ := hk.handled (flushing_of_begins hb)
  have hw := hk.waiting
  rw [note_of_begins hb] at hc hn
  simp only [Ledger.drain, List.map_append, hcalled, hw, List.append_cancel_left_eq, hfinished,
    List.length_append, Nat.add_left_cancel_iff] at hc hn
  have hlen : n = d.pending.length := by rw [hn, ← hw, List.length_map]
  subst hlen
  exact ⟨us, vs, rfl, hc, hu⟩

/-- What holds at a moment of a run, with some moments before it and others to come. -/
structure Conserves (h : Handler σ ω) (start : Debouncer σ) (before after : List (Moment σ)) :
    Prop where
  /-- While the handler is at work, a flush does nothing, and
  nothing that is asked for changes the world. -/
  nested : (start.after before).flushing = true → ∀ w,
    (start.after before).flush h w = ((start.after before, w), 0) ∧
      ∀ r : Request σ, meet h (start.after before, w) r.demand = ((start.after before).answer r, w)
  inside : ∀ e rest, after = .call e :: rest → (start.after before).flushing = true
  /-- A flush from outside calls the handler for what is pending, and says how much that is. -/
  flush : (start.after before).flushing = false → ∀ w,
    ((start.after before).flush h w).2 = (start.after before).pending.length ∧
      ((start.after before).flush h.recording (w, [])).1.2.2 = (start.after before).pending
  last : (start.after before).pending = lastOfEach (({} : Ledger σ).after start before).recent
  once : ((start.after before).pending.map (·.path)).Nodup
  /-- Nothing that the handler asks for changes what a flush that has begun goes on to hand over. -/
  whole : ∀ m rest, after = m :: rest → (start.after before).begins m = true →
    ∃ us vs, rest = us ++ .finish (start.after before).pending.length :: vs ∧
      calls us = (start.after before).pending ∧
      ∀ ns, ns <+: us → (start.after (before ++ m :: ns)).flushing = true
  called : (({} : Ledger σ).after start before).called = calls before
  settled : (start.after before).flushing = false →
    Settled (start.after before) (({} : Ledger σ).after start before)
  counting : (start.after before).counting = start.counting

/-- Whatever a handler does, no submission to a new debouncer is lost and none is
handled twice, at any moment of any run. -/
theorem submissions_conserved (h : Handler σ ω) {interval : Int} {counting : Bool}
    {start : Debouncer σ}
    (hstart : Debouncer.new interval counting = .ok start) (w : ω) (demands : List (Demand σ)) :
    start.after (runMoments h (start, w) demands) = (meetAll h (start, w) demands).1 ∧
      (meetAll h.recording (start, (w, [])) demands).2.2 = calls (runMoments h (start, w) demands) ∧
      ∀ before after, runMoments h (start, w) demands = before ++ after →
        Conserves h start before after := by
  have hs : start.flushing = false := by
    unfold new at hstart
    split_ifs at hstart
    rw [← Except.ok.inj hstart]
  obtain ⟨ha, hf⟩ := after_runMoments h (s := (start, w)) hs demands
  refine ⟨ha, by rw [meetAll_recording h [] w hs, List.nil_append], fun before after hrun => ?_⟩
  obtain ⟨hl, hk, -⟩ := kept_timed_of_run h hstart w demands hrun
  obtain ⟨-, hl⟩ := legal_append.mp hl
  constructor
  · exact fun hd v => ⟨flush_of_flushing h hd v, meet_of_flushing h hd v⟩
  · rintro e rest rfl
    exact hl.1.1
  · intro hd v
    exact ⟨by simp [Debouncer.flush, hd], by simp [flush_recording, hd]⟩
  · exact hk.recent.symm
  · exact hk.once
  · rintro m rest rfl hb
    have he : ((start.after before).after (m :: rest)).flushing = false := by
      rw [← after_append, ← hrun, ha, hf]
    simpa only [after_append] using flush_of_begins hk hl hb he
  · rw [called_after]
    rfl
  · exact settled_of_kept hk
  · exact (settings_after start before).2

/-- A handler that submits an event again the first time, asks for a
flush, and stops the debouncer later. -/
def reentrant : Handler Unit Nat := fun n e =>
  (n + 1, if n = 0 then [.submit e, .flush] else [.stop true], n = 0)

theorem reentrant_conserved :
    ∃ start : Debouncer Unit, Debouncer.new 500 true = .ok start ∧
      (meetAll reentrant.recording (start, (0, []))
        [.submit ⟨"modify", "a.md", ()⟩, .advance 600, .flush,
          .submit ⟨"delete", "a.md", ()⟩]).2.2 =
          [⟨"modify", "a.md", ()⟩, ⟨"modify", "a.md", ()⟩] ∧
      ∀ before after, runMoments reentrant (start, 0)
        [.submit ⟨"modify", "a.md", ()⟩, .advance 600, .flush, .submit ⟨"delete", "a.md", ()⟩] =
          before ++ after → Conserves reentrant start before after := by
  have hstart : Debouncer.new 500 true = .ok ({ interval := 500 } : Debouncer Unit) := rfl
  refine ⟨{ interval := 500 }, hstart, by decide, ?_⟩
  exact (submissions_conserved reentrant hstart 0 _).2.2

end Debouncer

end SegmentIndex
