import SegmentIndex.Proofs.Ledger

/-!
# Legal moments

Not every moment can happen in every state: an event is handed over only while a flush runs and in
its turn, and only a running timer runs out. A flush begins at the word of a caller or when a timer
of the present generation runs out, and at no other moment.
-/
namespace SegmentIndex

variable {σ : Type}

/-- Whether a moment fits a state and its ledger. -/
def Fits (d : Debouncer σ) (l : Ledger σ) : Moment σ → Prop
  | .submit _ | .flush | .halt => True
  | .call e => d.flushing = true ∧ l.called ++ [e] <+: l.drained.map PendingEvent.plain
  | .finish n => d.flushing = true ∧ l.called = l.drained.map PendingEvent.plain ∧
      l.finished + n = l.drained.length
  | .discard => d.stopped = true
  | .ring t => d.flushing = false ∧ t ∈ d.running
  | .late g => d.flushing = false ∧ g ∈ d.gone
  | .pass time => d.flushing = false ∧ d.now ≤ time ∧ ∀ t ∈ d.running, time < t.due

/-- Whether each of some moments fits the state that it meets. -/
def Legal : Debouncer σ → Ledger σ → List (Moment σ) → Prop
  | _, _, [] => True
  | d, l, m :: ms => Fits d l m ∧ Legal (d.act m) (l.note d m) ms

theorem legal_append {d : Debouncer σ} {l : Ledger σ} {ms ns : List (Moment σ)} :
    Legal d l (ms ++ ns) ↔ Legal d l ms ∧ Legal (d.after ms) (l.after d ms) ns := by
  induction ms generalizing d l with
  | nil => simp [Legal]
  | cons m ms ih =>
    simp only [List.cons_append, Legal, ih, Debouncer.after_cons, Ledger.after_cons, and_assoc]

namespace Debouncer

variable {d : Debouncer σ} {l : Ledger σ} {m : Moment σ}

theorem flushing_of_begins (h : d.begins m = true) : d.flushing = false := by
  simp only [begins, Bool.and_eq_true, Bool.not_eq_true'] at h
  exact h.1

theorem act_of_begins (h : d.begins m = true) :
    m = .flush ∧ d.act m = d.beginFlush ∨
      (∃ t, m = .ring t ∧ t.generation = d.generation ∧
        d.act m = ({ d.runOut t with timer := none } : Debouncer σ).beginFlush) ∨
      m = .late d.generation ∧ d.act m = ({ d with timer := none } : Debouncer σ).beginFlush := by
  have hd := flushing_of_begins h
  have ha : (d.act m).flushing = true := by
    simp only [begins, Bool.and_eq_true] at h
    exact h.2
  cases m with
  | submit e => simp [act, hd] at ha
  | call e => simp [act, hd] at ha
  | finish n => simp [act] at ha
  | halt => simp [act, halt, disarm, hd] at ha
  | discard => simp [act, discard, hd] at ha
  | pass time => simp [act, hd] at ha
  | flush => exact .inl ⟨rfl, by simp [act, enter, hd]⟩
  | ring t =>
    by_cases hg : t.generation = d.generation
    · exact .inr (.inl ⟨t, rfl, hg, by simp [act, strike, enter, runOut, hg, hd]⟩)
    · simp [act, strike, runOut, hg, hd] at ha
  | late g =>
    by_cases hg : g = d.generation
    · subst hg
      exact .inr (.inr ⟨rfl, by simp [act, strike, enter, hd]⟩)
    · simp [act, strike, hg, hd] at ha

theorem note_of_begins (h : d.begins m = true) : l.note d m = l.drain := if_pos h

theorem begins_of_flushing (h : d.flushing = true) : d.begins m = false := by simp [begins, h]

theorem begins_of_act (h : (d.act m).flushing = d.flushing) : d.begins m = false := by
  rw [begins, h]
  cases d.flushing <;> rfl

@[simp] theorem begins_submit (e : PendingEvent σ) : d.begins (.submit e) = false :=
  begins_of_act (flushing_submit e d)

@[simp] theorem begins_call (e : PendingEvent σ) : d.begins (.call e) = false := begins_of_act rfl

@[simp] theorem begins_finish (n : Nat) : d.begins (.finish n) = false := by simp [begins, act]

@[simp] theorem begins_halt : d.begins .halt = false := begins_of_act rfl

@[simp] theorem begins_discard : d.begins .discard = false := begins_of_act rfl

@[simp] theorem begins_pass (time : Nat) : d.begins (.pass time) = false := begins_of_act rfl

/-- A flush or an expiry that begins nothing only takes the timer that ran out away. -/
theorem act_void (hf : Fits d l m) (h : d.begins m = false) :
    (m = .flush → d.act m = d) ∧ (∀ t, m = .ring t → t.generation ≠ d.generation ∧
      d.act m = d.runOut t) ∧
      ∀ g, m = .late g → g ≠ d.generation ∧ d.act m = d := by
  refine ⟨?_, ?_, ?_⟩
  · rintro rfl
    cases hd : d.flushing with
    | true => simp [act, enter, hd]
    | false => simp [begins, act, flushing_enter, hd] at h
  · rintro t rfl
    have hg : t.generation ≠ d.generation := by
      intro hg
      simp [begins, act, strike, runOut, hg, flushing_enter, hf.1] at h
    exact ⟨hg, by simp [act, strike, runOut, hg]⟩
  · rintro g rfl
    have hg : g ≠ d.generation := by
      intro hg
      simp [begins, act, strike, hg, flushing_enter, hf.1] at h
    exact ⟨hg, by simp [act, strike, hg]⟩

theorem submit_of_stopped (e : PendingEvent σ) (hs : d.stopped = true) : d.submit e = d := if_pos hs

theorem called_after (d : Debouncer σ) (l : Ledger σ) (ms : List (Moment σ)) :
    (l.after d ms).called = l.called ++ calls ms := by
  induction ms generalizing d l with
  | nil => simp
  | cons m ms ih =>
    have hm : (l.note d m).called = l.called ++ calls [m] := by
      cases m <;> simp only [Ledger.note] <;> split_ifs <;>
        simp [calls, Ledger.drain, Ledger.drop, Ledger.accept] at *
    rw [Ledger.after_cons, ih, hm, List.append_assoc, ← calls_append, List.singleton_append]

/-- What fits while a flush runs, other than its end, leaves what is drained alone. -/
theorem fits_flushing (hf : Fits d l m) (hd : d.flushing = true) (hm : ∀ n, m ≠ .finish n) :
    (d.act m).flushing = true ∧ (l.note d m).drained = l.drained ∧
      (l.note d m).finished = l.finished := by
  have hb := begins_of_flushing (m := m) hd
  simp only [Ledger.note, hb, Bool.false_eq_true, if_false]
  cases m with
  | submit e =>
    refine ⟨(flushing_submit e d).trans hd, ?_⟩
    split_ifs <;> exact ⟨rfl, rfl⟩
  | flush => exact ⟨flushing_enter d, rfl, rfl⟩
  | call e => exact ⟨hd, rfl, rfl⟩
  | finish n => exact absurd rfl (hm n)
  | halt => exact ⟨hd, rfl, rfl⟩
  | discard => exact ⟨hd, rfl, rfl⟩
  | ring t => simp [hf.1] at hd
  | late g => simp [hf.1] at hd
  | pass time => simp [hf.1] at hd

theorem legal_flushing {ms : List (Moment σ)} (hl : Legal d l ms) (hd : d.flushing = true)
    (hm : ∀ n, .finish n ∉ ms) : (d.after ms).flushing = true ∧ (l.after d ms).drained = l.drained ∧
      (l.after d ms).finished = l.finished := by
  induction ms generalizing d l with
  | nil => exact ⟨hd, rfl, rfl⟩
  | cons m ms ih =>
    obtain ⟨ha, hr, hn⟩ := fits_flushing hl.1 hd fun n h => hm n (h ▸ List.mem_cons_self)
    obtain ⟨ha', hr', hn'⟩ := ih hl.2 ha fun n h => hm n (List.mem_cons_of_mem _ h)
    exact ⟨ha', hr'.trans hr, hn'.trans hn⟩

end Debouncer

end SegmentIndex
