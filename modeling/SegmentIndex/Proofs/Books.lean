import SegmentIndex.Proofs.Legality

/-!
# The books of a debouncer

Every accepted submission stands in exactly one place of the ledger, under its
own number, and the ledger agrees with what the debouncer holds back and counts.
Every moment that fits the state keeps it so.
-/
namespace SegmentIndex

variable {σ : Type}

/-- The books: every accepted submission stands in exactly one place, under its own number. -/
structure Kept (d : Debouncer σ) (l : Ledger σ) : Prop where
  waiting : l.waiting.map PendingEvent.plain = d.pending
  recent : lastOfEach l.recent = d.pending
  once : (d.pending.map (·.path)).Nodup
  numbers : (l.all.map PendingEvent.number).Perm (List.range l.accepted.length)
  accepted : ∀ x ∈ l.all, l.accepted[x.number]? = some x.plain
  superseded : ∀ x ∈ l.superseded,
    ∃ n y, x.number < n ∧ l.accepted[n]? = some y ∧ y.path = x.path
  handled : d.flushing = false →
    l.called = l.drained.map PendingEvent.plain ∧ l.finished = l.drained.length
  counted : d.counting = true → d.queued = l.accepted.length ∧ d.processed = l.finished

namespace Debouncer

variable {d : Debouncer σ} {l : Ledger σ} {m : Moment σ}

theorem getElem?_snoc {α : Type} {xs : List α} {n : Nat} {x y : α} (h : xs[n]? = some x) :
    (xs ++ [y])[n]? = some x := by
  rw [List.getElem?_append_left (List.getElem?_eq_some_iff.mp h).1, h]

theorem kept_congr {d' : Debouncer σ} (hk : Kept d l) (hp : d'.pending = d.pending)
    (hf : d'.flushing = d.flushing)
    (hc : d'.counting = d.counting ∧ d'.queued = d.queued ∧ d'.processed = d.processed) :
    Kept d' l := by
  obtain ⟨hc, hq, hr⟩ := hc
  exact ⟨hp ▸ hk.waiting, hp ▸ hk.recent, hp ▸ hk.once, hk.numbers, hk.accepted, hk.superseded,
    hf ▸ hk.handled, by rw [hc, hq, hr]; exact hk.counted⟩

theorem kept_start (interval : Nat) (counting : Bool) :
    Kept ({ interval := interval, counting := counting } : Debouncer σ) {} := by
  constructor <;> simp [Ledger.all, lastOfEach]

/-- An accepted submission takes the next number; the one that it supersedes stays in the books. -/
theorem kept_accept (hk : Kept d l) (e : PendingEvent σ) {d' : Debouncer σ}
    (hp : d'.pending = hold e d.pending) (hf : d'.flushing = d.flushing)
    (hc : d'.counting = d.counting ∧ d'.processed = d.processed ∧
      d'.queued = if d.counting then d.queued + 1 else d.queued) (now : Nat) :
    Kept d' (l.accept now e) := by
  obtain ⟨hc, hr, hq⟩ := hc
  have ho : (l.waiting.map (·.path)).Nodup := by
    have := hk.once
    rw [← hk.waiting, List.map_map] at this
    exact this
  have hall : (l.accept now e).all.Perm (e.numbered l.accepted.length :: l.all) := by
    classical
    have hh : (hold (e.numbered l.accepted.length) l.waiting ++
        l.waiting.filter fun x => x.path = e.path).Perm (e.numbered l.accepted.length ::
        l.waiting) :=
      hold_perm _ ho
    simp only [Ledger.all, Ledger.accept]
    rw [List.perm_iff_count] at hh ⊢
    intro x
    have := hh x
    simp only [List.count_append, List.count_cons] at this ⊢
    omega
  constructor
  · simp only [Ledger.accept, map_hold, hk.waiting, hp, PendingEvent.plain_numbered]
  · simp only [Ledger.accept, lastOfEach_snoc, hk.recent, hp]
  · rw [hp]
    exact nodup_hold e hk.once
  · refine (hall.map _).trans ?_
    simp only [List.map_cons, PendingEvent.number_numbered, Ledger.accept, List.length_append,
      List.length_singleton, List.range_succ]
    exact (hk.numbers.cons _).trans (List.perm_append_singleton _ _).symm
  · intro x hx
    rcases List.mem_cons.mp (hall.mem_iff.mp hx) with rfl | hx
    · simp [Ledger.accept]
    · exact getElem?_snoc (hk.accepted x hx)
  · intro x hx
    rcases List.mem_append.mp hx with hx | hx
    · obtain ⟨n, y, hn, hy, hq⟩ := hk.superseded x hx
      exact ⟨n, y, hn, getElem?_snoc hy, hq⟩
    · obtain ⟨hw, hq⟩ := List.mem_filter.mp hx
      have hx : x ∈ l.all := by simp [Ledger.all, hw]
      refine ⟨l.accepted.length, e, ?_, by simp [Ledger.accept], by
        simpa using (of_decide_eq_true hq).symm⟩
      exact (List.getElem?_eq_some_iff.mp (hk.accepted x hx)).1
  · rw [hf]
    exact hk.handled
  · rw [hc, hr, hq]
    intro h
    obtain ⟨hq, hr⟩ := hk.counted h
    exact ⟨by simp [h, hq, Ledger.accept], hr⟩

theorem kept_drain (hk : Kept d l) {d' : Debouncer σ} (hp : d'.pending = [])
    (hf : d'.flushing = true)
    (hc : d'.counting = d.counting ∧ d'.queued = d.queued ∧ d'.processed = d.processed) :
    Kept d' l.drain := by
  obtain ⟨hc, hq, hr⟩ := hc
  have hall : l.drain.all.Perm l.all := by
    simp only [Ledger.all, Ledger.drain, List.append_nil]
    classical
    rw [List.perm_iff_count]
    intro x
    simp only [List.count_append]
    omega
  refine ⟨by simp [Ledger.drain, hp], by simp [Ledger.drain, lastOfEach, hp], by simp [hp],
    (hall.map _).trans hk.numbers, fun x hx => hk.accepted x (hall.mem_iff.mp hx),
    hk.superseded, ?_, ?_⟩
  · simp [hf]
  · rw [hc, hq, hr]
    exact hk.counted

theorem kept_discard (hk : Kept d l) : Kept d.discard l.drop := by
  have hall : l.drop.all.Perm l.all := by
    simp only [Ledger.all, Ledger.drop, List.append_nil]
    classical
    rw [List.perm_iff_count]
    intro x
    simp only [List.count_append]
    omega
  exact ⟨rfl, rfl, List.nodup_nil, (hall.map _).trans hk.numbers,
    fun x hx => hk.accepted x (hall.mem_iff.mp hx), hk.superseded, hk.handled, hk.counted⟩

theorem pending_submit (e : PendingEvent σ) (hs : d.stopped = false) :
    (d.submit e).pending = hold e d.pending := by
  rw [submit, if_neg (by simp [hs])]
  dsimp only
  split_ifs <;> rfl

theorem counts_submit (e : PendingEvent σ) (hs : d.stopped = false) :
    (d.submit e).counting = d.counting ∧ (d.submit e).processed = d.processed ∧
      (d.submit e).queued = if d.counting then d.queued + 1 else d.queued := by
  rw [submit, if_neg (by simp [hs])]
  cases hf : d.flushing <;> cases hc : d.counting <;> simp [arm, disarm]

theorem pending_endFlush (n : Nat) : (d.endFlush n).pending = d.pending := by
  unfold endFlush
  dsimp only
  split_ifs <;> rfl

theorem counts_endFlush (n : Nat) :
    (d.endFlush n).counting = d.counting ∧ (d.endFlush n).queued = d.queued ∧
      (d.endFlush n).processed = if d.counting then d.processed + n else d.processed := by
  cases hc : d.counting <;> simp only [endFlush] <;> split_ifs <;> simp_all [arm, disarm]

theorem kept_act (hk : Kept d l) (hf : Fits d l m) : Kept (d.act m) (l.note d m) := by
  cases hb : d.begins m with
  | true =>
    rw [note_of_begins hb]
    rcases act_of_begins hb with ⟨-, ha⟩ | ⟨t, -, -, ha⟩ | ⟨-, ha⟩ <;> rw [ha] <;>
      exact kept_drain hk rfl rfl ⟨rfl, rfl, rfl⟩
  | false =>
    obtain ⟨hflush, hring, hlate⟩ := act_void hf hb
    simp only [Ledger.note, hb, Bool.false_eq_true, if_false]
    cases m with
    | submit e =>
      cases hs : d.stopped with
      | true => simpa [act, submit_of_stopped e hs] using hk
      | false =>
        exact kept_accept hk e (pending_submit e hs) (flushing_submit e d)
          (counts_submit e hs) d.now
    | flush =>
      rw [hflush rfl]
      exact hk
    | call e =>
      exact ⟨hk.waiting, hk.recent, hk.once, hk.numbers, hk.accepted, hk.superseded,
        fun h => by simp [act, hf.1] at h, hk.counted⟩
    | finish n =>
      obtain ⟨-, hcalled, hn⟩ := hf
      obtain ⟨hc, hq, hr⟩ := counts_endFlush (d := d) n
      have hp := pending_endFlush (d := d) n
      refine ⟨by rw [act, hp]; exact hk.waiting, by rw [act, hp]; exact hk.recent,
        by
        rw [act, hp]; exact hk.once, hk.numbers, hk.accepted, hk.superseded,
        fun _ => ⟨hcalled, hn⟩, ?_⟩
      rw [act, hc, hq, hr]
      intro h
      rw [if_pos h, (hk.counted h).2]
      exact ⟨(hk.counted h).1, rfl⟩
    | halt => exact kept_congr hk rfl rfl ⟨rfl, rfl, rfl⟩
    | discard => exact kept_discard hk
    | ring t =>
      rw [(hring t rfl).2]
      exact kept_congr hk rfl rfl ⟨rfl, rfl, rfl⟩
    | late g =>
      rw [(hlate g rfl).2]
      exact hk
    | pass time => exact kept_congr hk rfl rfl ⟨rfl, rfl, rfl⟩

end Debouncer

end SegmentIndex
