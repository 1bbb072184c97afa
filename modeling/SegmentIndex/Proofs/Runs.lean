import SegmentIndex.Proofs.Books
import SegmentIndex.Proofs.Timers

/-!
# The runs of a debouncer

Every moment of a run fits the state that it meets, whatever a handler asks for. So the books are
kept and the timers are in order at any moment of any run of a new debouncer.
-/
namespace SegmentIndex

variable {σ ω : Type}

namespace Debouncer

variable {d : Debouncer σ} {l : Ledger σ} {m : Moment σ} {ms ns : List (Moment σ)}

theorem kept_timed_after (hk : Kept d l) (ht : Timed d l) (h : Legal d l ms) :
    Kept (d.after ms) (l.after d ms) ∧ Timed (d.after ms) (l.after d ms) := by
  induction ms generalizing d l with
  | nil => exact ⟨hk, ht⟩
  | cons m ms ih => exact ih (kept_act hk h.1) (timed_act ht h.1) h.2

/-! ## The moments of a run fit -/

theorem legal_requests (rs : List (Request σ)) : Legal d l (rs.flatMap Request.moments) := by
  induction rs generalizing d l with
  | nil => trivial
  | cons r rs ih =>
    rw [List.flatMap_cons, legal_append]
    refine ⟨?_, ih⟩
    rcases r with e | _ | _ | _
    · exact ⟨trivial, trivial⟩
    · exact ⟨trivial, trivial⟩
    · exact ⟨trivial, rfl, trivial⟩
    · exact ⟨trivial, trivial, trivial⟩

theorem finish_notMem_requests (n : Nat) (rs : List (Request σ)) :
    .finish n ∉ rs.flatMap Request.moments := by
  intro h
  obtain ⟨r, -, hr⟩ := List.mem_flatMap.mp h
  rcases r with e | _ | _ | _ <;> simp [Request.moments] at hr

theorem legal_handing (h : Handler σ ω) (hd : d.flushing = true) (es : List (PendingEvent σ))
    (w : ω) (hl : l.called ++ es = l.drained.map PendingEvent.plain) :
    Legal d l (handing h es w) ∧ (d.after (handing h es w)).flushing = true ∧
      (l.after d (handing h es w)).called = l.drained.map PendingEvent.plain ∧
      (l.after d (handing h es w)).drained = l.drained ∧
      (l.after d (handing h es w)).finished = l.finished := by
  induction es generalizing d l w with
  | nil => exact ⟨trivial, hd, by simpa [handing] using hl, rfl, rfl⟩
  | cons e es ih =>
    have hc : l.note d (.call e) = { l with called := l.called ++ [e] } := by simp [Ledger.note]
    have hasked := called_after d (l.note d (.call e)) ((h w e).2.1.flatMap Request.moments)
    rw [calls_requests, List.append_nil] at hasked
    have hrequests : Legal d (l.note d (.call e)) ((h w e).2.1.flatMap Request.moments) :=
      legal_requests _
    obtain ⟨hf, hdrained, hfinished⟩ :=
      legal_flushing hrequests hd fun n => finish_notMem_requests n (h w e).2.1
    obtain ⟨h₁, h₂, h₃, h₄, h₅⟩ := ih hf (h w e).1 (by rw [hasked, hdrained, hc, ← hl]; simp)
    rw [handing, Legal, after_cons, Ledger.after_cons, legal_append, after_append,
      Ledger.after_append]
    refine ⟨⟨⟨hd, ?_⟩, hrequests, h₁⟩, h₂, h₃.trans (by rw [hdrained, hc]),
      h₄.trans (by rw [hdrained, hc]),
      h₅.trans (by rw [hfinished, hc])⟩
    rw [← hl]
    exact ⟨es, by simp⟩

theorem legal_opening (h : Handler σ ω) (w : ω) (hk : Kept d l) (hf : Fits d l m) :
    Legal d l (opening h m d w) := by
  unfold opening
  split_ifs with hb
  · obtain ⟨hc, hn⟩ := hk.handled (flushing_of_begins hb)
    have hd : (d.act m).flushing = true := by
      simp only [begins, Bool.and_eq_true] at hb
      exact hb.2
    have hw := hk.waiting
    obtain ⟨h₁, h₂, h₃, h₄, h₅⟩ := legal_handing (l := l.note d m) h hd d.pending w
      (by simp [note_of_begins hb, Ledger.drain, hc, hw])
    refine ⟨hf, legal_append.mpr ⟨h₁, ⟨h₂, by rw [h₃, h₄], ?_⟩, trivial⟩⟩
    rw [h₅, h₄, note_of_begins hb, ← hw]
    simp [Ledger.drain, hn]
  · exact ⟨hf, trivial⟩

theorem now_endFlush (n : Nat) : (d.endFlush n).now = d.now := by
  unfold endFlush
  dsimp only
  split_ifs <;> rfl

theorem now_answer (r : Request σ) : (d.answer r).now = d.now := by
  rcases r with e | _ | _ | _
  · simp only [answer, submit]
    split_ifs <;> rfl
  all_goals rfl

theorem now_answers (rs : List (Request σ)) : (rs.foldl answer d).now = d.now := by
  induction rs generalizing d with
  | nil => rfl
  | cons r rs ih => rw [List.foldl_cons, ih, now_answer]

theorem now_handle (h : Handler σ ω) (es : List (PendingEvent σ)) (w : ω) :
    (es.foldl (handle h) (d, w)).1.now = d.now := by
  induction es generalizing d w with
  | nil => rfl
  | cons e es ih =>
    rw [List.foldl_cons]
    exact (ih _).trans (now_answers _)

theorem now_expire (h : Handler σ ω) (g : Nat) (w : ω) : (d.expire h g w).1.now = d.now := by
  simp only [expire, flush]
  split_ifs
  · rfl
  · rfl
  · exact (now_endFlush _).trans (now_handle h _ w)

/-- Time passes with enough steps for all timers: a timer that a flush starts runs out
later than the one that began the flush. -/
theorem legal_ringing (h : Handler σ ω) (time fuel : Nat) (w : ω) (hk : Kept d l) (ht : Timed d l)
    (hd : d.flushing = false) (hn : d.now ≤ time) (hfuel : ∀ t ∈ d.running, time < t.due + fuel) :
    Legal d l (ringing h time fuel d w) ∧ (d.after (ringing h time fuel d w)).now ≤ time ∧
      ∀ t ∈ (d.after (ringing h time fuel d w)).running, time < t.due := by
  induction fuel generalizing d l w with
  | zero => exact ⟨trivial, hn, hfuel⟩
  | succ fuel ih =>
    unfold ringing
    rcases ht.armed with ⟨hr, -⟩ | ⟨due, hr, -⟩
    · simp only [hr, soonest]
      exact ⟨trivial, hn, by simp [hr]⟩
    · simp only [hr, soonest]
      by_cases hdue : due ≤ time
      · rw [if_pos hdue]
        have hs : (d.runOut ⟨d.generation, due⟩).flushing = false := hd
        have ho := legal_opening h (m := .ring ⟨d.generation, due⟩) w hk ⟨hd, by simp [hr]⟩
        have ha := after_expiry h (m := .ring ⟨d.generation, due⟩) w hd rfl hs rfl
        obtain ⟨hk', ht'⟩ := kept_timed_after hk ht ho
        have hnow : (d.after (opening h (.ring ⟨d.generation, due⟩) d w)).now = due := by
          rw [ha, now_expire]
          have := (generation_of_mem ht (t := ⟨d.generation, due⟩) (by simp [hr])).2.1
          exact max_eq_right this.le
        rw [ha] at hk' ht' hnow
        have hx := flushing_expire h d.generation hs w
        have := ih (l := l.after d (opening h (.ring ⟨d.generation, due⟩) d w))
          ((d.runOut ⟨d.generation, due⟩).expire h d.generation w).2 hk' ht' hx
          (by omega) fun t hm => by
            have := hfuel ⟨d.generation, due⟩ (by simp [hr])
            have := (generation_of_mem ht' hm).2.1
            simp only at *
            omega
        rw [legal_append, after_append, ha]
        exact ⟨⟨ho, this.1⟩, this.2⟩
      · rw [if_neg hdue]
        refine ⟨trivial, hn, ?_⟩
        simpa [hr] using hdue

theorem legal_momentsOf (h : Handler σ ω) (w : ω) (hk : Kept d l) (ht : Timed d l)
    (hd : d.flushing = false) (demand : Demand σ) : Legal d l (momentsOf h d w demand) := by
  cases demand with
  | submit e => exact ⟨trivial, trivial⟩
  | flush => exact legal_opening h w hk trivial
  | stop drain =>
    cases drain with
    | false => exact ⟨trivial, rfl, trivial⟩
    | true => exact ⟨trivial, legal_opening h w (kept_act hk (m := .halt) trivial) trivial⟩
  | advance ms =>
    obtain ⟨h₁, h₂, h₃⟩ := legal_ringing h (d.now + ms) (ms + 1) w hk ht hd
      (by omega) fun t hm => by
      have := (generation_of_mem ht hm).2.1
      omega
    have hx := (after_ringing h (d.now + ms) (ms + 1) w hd).2
    rw [← (after_ringing h (d.now + ms) (ms + 1) w hd).1] at hx
    exact legal_append.mpr ⟨h₁, ⟨hx, h₂, h₃⟩, trivial⟩
  | late g =>
    by_cases hg : g ∈ d.gone
    · rw [momentsOf, if_pos hg]
      exact legal_opening h w hk ⟨hd, hg⟩
    · rw [momentsOf, if_neg hg]
      trivial

theorem legal_runMoments (h : Handler σ ω) {s : Debouncer σ × ω} (hk : Kept s.1 l)
    (ht : Timed s.1 l) (hs : s.1.flushing = false) (demands : List (Demand σ)) :
    Legal s.1 l (runMoments h s demands) := by
  induction demands generalizing s l with
  | nil => trivial
  | cons demand rest ih =>
    have hm := legal_momentsOf h s.2 hk ht hs demand
    obtain ⟨hk', ht'⟩ := kept_timed_after hk ht hm
    obtain ⟨ha, hf⟩ := after_momentsOf h hs demand
    rw [ha] at hk' ht'
    rw [runMoments, legal_append, ha]
    exact ⟨hm, ih hk' ht' hf⟩

theorem kept_timed_of_run (h : Handler σ ω) {interval : Int} {counting : Bool} {d : Debouncer σ}
    (hn : Debouncer.new interval counting = .ok d) (w : ω) (demands : List (Demand σ))
    (hms : runMoments h (d, w) demands = ms ++ ns) :
    Legal d {} (ms ++ ns) ∧ Kept (d.after ms) (({} : Ledger σ).after d ms) ∧
      Timed (d.after ms) (({} : Ledger σ).after d ms) := by
  unfold new at hn
  split_ifs at hn with hi
  obtain rfl := Except.ok.inj hn
  have hk := kept_start (σ := σ) interval.toNat counting
  have ht := timed_start (σ := σ) interval.toNat counting (by omega)
  have hl := legal_runMoments h (s := (_, w)) hk ht rfl demands
  rw [hms] at hl
  exact ⟨hl, kept_timed_after hk ht (legal_append.mp hl).1⟩

end Debouncer

end SegmentIndex
