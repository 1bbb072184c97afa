import SegmentIndex.Proofs.Legality

/-!
# The timers of a debouncer

At most one timer runs, and it is the one that the debouncer holds on to. It runs
whenever something waits, unless a flush is going on or the debouncer is stopped.
Every moment that fits the state keeps it so.
-/
namespace SegmentIndex

variable {σ : Type}

/-- The timers: at most one runs, it is the one held on to and of the
present generation, and none is missing. -/
structure Timed (d : Debouncer σ) (l : Ledger σ) : Prop where
  armed : d.running = [] ∧ d.timer = none ∨
    ∃ due, d.running = [⟨d.generation, due⟩] ∧ d.timer = some d.generation ∧ d.now < due
  interval : 0 < d.interval
  stopped : d.stopped = true → d.running = []
  live : d.flushing = false → d.stopped = false → d.pending ≠ [] →
    d.running = [⟨d.generation, l.acceptedAt + d.interval⟩]
  fresh : d.flushing = true → d.pending ≠ [] → l.acceptedAt = d.now
  cancelled : ∀ g ∈ d.cancelled, g < d.generation
  expired : ∀ g ∈ d.expired, g < d.generation ∨
    g = d.generation ∧ d.stopped = false ∧ d.running = [] ∧ (d.flushing = false → d.pending = [])

namespace Debouncer

variable {d : Debouncer σ} {l : Ledger σ} {m : Moment σ}

theorem timed_start (interval : Nat) (counting : Bool) (hi : 0 < interval) :
    Timed ({ interval := interval, counting := counting } : Debouncer σ) {} := by
  constructor <;> simp [hi]

theorem running_disarm (ht : Timed d l) : d.disarm.running = [] := by
  rcases ht.armed with ⟨hr, hn⟩ | ⟨due, hr, hn, -⟩ <;> simp [disarm, without, hr, hn]

theorem cancelled_disarm (ht : Timed d l) {g : Nat} (hg : g ∈ d.disarm.cancelled) :
    g ≤ d.generation := by
  simp only [disarm, List.mem_append] at hg
  rcases hg with hg | hg
  · rcases ht.armed with ⟨-, hn⟩ | ⟨due, -, hn, -⟩ <;> simp [hn] at hg
    exact hg.le
  · exact (ht.cancelled g hg).le

theorem expired_le (ht : Timed d l) {g : Nat} (hg : g ∈ d.expired) : g ≤ d.generation := by
  rcases ht.expired g hg with h | ⟨h, -⟩
  · exact h.le
  · exact h.le

/-- A timer that was just started is the only one, whatever was pending or ran before. -/
theorem timed_arm (ht : Timed d l) {d' : Debouncer σ} {l' : Ledger σ} (hd : d.stopped = false)
    (hl : l'.acceptedAt = d.now) (hs : d'.stopped = d.stopped) (hn : d'.now = d.now)
    (hi : d'.interval = d.interval) (hx : d'.expired = d.expired) (hr : d'.running = d.arm.running)
    (hm : d'.timer = d.arm.timer) (hg : d'.generation = d.arm.generation)
    (hc : d'.cancelled = d.arm.cancelled) : Timed d' l' := by
  have hr : d'.running = [⟨d'.generation, d'.now + d'.interval⟩] := by
    rw [hr, hg, hn, hi]
    simp only [arm, running_disarm ht]
    rfl
  have hg : d'.generation = d.generation + 1 := hg
  refine ⟨.inr ⟨d'.now + d'.interval, hr, by rw [hm, hg]; rfl, ?_⟩, hi ▸ ht.interval, ?_, ?_,
    ?_, ?_, ?_⟩
  · have := ht.interval
    omega
  · simp [hs, hd]
  · intro _ _ _
    rw [hl, ← hn]
    exact hr
  · intro _ _
    rw [hl, hn]
  · intro g h
    rw [hc] at h
    have := cancelled_disarm ht h
    omega
  · intro g h
    rw [hx] at h
    have := expired_le ht h
    omega

theorem timed_congr (ht : Timed d l) {d' : Debouncer σ} {l' : Ledger σ}
    (hd : d'.running = d.running ∧ d'.timer = d.timer ∧ d'.generation = d.generation ∧
    d'.now = d.now ∧
      d'.interval = d.interval ∧ d'.stopped = d.stopped ∧ d'.cancelled = d.cancelled ∧
        d'.expired = d.expired)
    (hp : d'.flushing = false → d'.stopped = false → d'.pending ≠ [] →
      d.flushing = false ∧ d.pending ≠ [] ∧ l'.acceptedAt = l.acceptedAt)
    (hf : d'.flushing = true → d'.pending ≠ [] → l'.acceptedAt = d.now) : Timed d' l' := by
  obtain ⟨hr, hm, hg, hn, hi, hs, hc, hx⟩ := hd
  refine ⟨by rw [hr, hm, hg, hn]; exact ht.armed,
    hi ▸ ht.interval, by rw [hs, hr]; exact ht.stopped,
    ?_, by rw [hn]; exact hf, by rw [hc, hg]; exact ht.cancelled, ?_⟩
  · intro h₁ h₂ h₃
    obtain ⟨h₄, h₅, h₆⟩ := hp h₁ h₂ h₃
    rw [hr, hg, hi, h₆]
    exact ht.live h₄ (hs ▸ h₂) h₅
  · intro g h
    rw [hx] at h
    rw [hg, hs, hr]
    refine (ht.expired g h).imp_right ?_
    rintro ⟨h₁, h₂, h₃, h₄⟩
    refine ⟨h₁, h₂, h₃, fun h₅ => ?_⟩
    by_contra h₆
    obtain ⟨h₇, h₈, -⟩ := hp h₅ (hs ▸ h₂) h₆
    exact h₈ (h₄ h₇)

theorem timed_submit (ht : Timed d l) (e : PendingEvent σ) (hs : d.stopped = false) :
    Timed (d.submit e) (l.accept d.now e) := by
  cases hf : d.flushing with
  | true =>
    have hd : d.submit e = { d with
        pending := hold e d.pending, queued := if d.counting then d.queued + 1 else d.queued } := by
      simp [submit, hs, hf]
    rw [hd]
    exact timed_congr ht ⟨rfl, rfl, rfl, rfl, rfl, rfl, rfl, rfl⟩ (fun h => by
      simp [hf] at h) fun _ _ => rfl
  | false =>
    have hd : d.submit e = { d.arm with
        pending := hold e d.pending, queued := if d.counting then d.queued + 1 else d.queued } := by
      simp [submit, hs, hf, arm, disarm]
    rw [hd]
    exact timed_arm ht hs rfl rfl rfl rfl rfl rfl rfl rfl rfl

theorem timed_endFlush (ht : Timed d l) (n : Nat) {l' : Ledger σ}
    (hl : l'.acceptedAt = l.acceptedAt) (hf : d.flushing = true) : Timed (d.endFlush n) l' := by
  by_cases hp : d.pending = [] ∨ d.stopped = true
  · have hd : d.endFlush n = { d with
        flushing := false, processed := if d.counting then d.processed + n else d.processed } := by
      rcases hp with hp | hp <;> simp [endFlush, hp]
    rw [hd]
    refine timed_congr ht ⟨rfl, rfl, rfl, rfl, rfl, rfl, rfl, rfl⟩ ?_ (fun h => by simp at h)
    intro _ hs hn
    rcases hp with hp | hp
    · exact absurd hp hn
    · simp [hp] at hs
  · rw [not_or] at hp
    obtain ⟨hp, hs⟩ := hp
    have hd : d.endFlush n = { d.arm with
        flushing := false, processed := if d.counting then d.processed + n else d.processed } := by
      simp [endFlush, hp, hs, arm, disarm]
    rw [hd]
    exact timed_arm ht (by simpa using hs) (by rw [hl, ht.fresh hf hp]) rfl rfl rfl rfl rfl
      rfl rfl rfl

theorem timed_halt (ht : Timed d l) : Timed d.halt l := by
  have hr : d.halt.running = [] := (running_disarm ht : d.disarm.running = [])
  refine ⟨.inl ⟨hr, rfl⟩, ht.interval, fun _ => hr, ?_, ht.fresh, ?_, ?_⟩
  · intro _ h
    simp [halt, disarm] at h
  · intro g hg
    exact Nat.lt_succ_of_le (cancelled_disarm (d := d) ht hg)
  · intro g hg
    exact .inl (Nat.lt_succ_of_le (expired_le ht hg))

/-- A running timer is the one held on to, so its expiry is of the present generation. -/
theorem generation_of_mem (ht : Timed d l) {t : Timer} (h : t ∈ d.running) :
    t.generation = d.generation ∧ d.now < t.due ∧ d.running = [t] ∧ d.stopped = false := by
  rcases ht.armed with ⟨hr, -⟩ | ⟨due, hr, -, hn⟩
  · simp [hr] at h
  · have hs : d.stopped = false := by
      by_contra hs
      simp [ht.stopped (by simpa using hs)] at hr
    rw [hr, List.mem_singleton] at h
    subst h
    exact ⟨rfl, hn, hr, hs⟩

theorem timed_ring (ht : Timed d l) {t : Timer} (h : t ∈ d.running) {l' : Ledger σ} :
    Timed ({ d.runOut t with timer := none } : Debouncer σ).beginFlush l' := by
  obtain ⟨hg, hn, hr, hs⟩ := generation_of_mem ht h
  have hw : without t.generation d.running = [] := by simp [hr, without]
  refine ⟨.inl ⟨hw, rfl⟩, ht.interval, fun _ => hw, by simp [beginFlush], by simp [beginFlush],
    ht.cancelled, ?_⟩
  intro g hg'
  rcases List.mem_cons.mp hg' with rfl | hg'
  · exact .inr ⟨hg, hs, hw, by simp [beginFlush]⟩
  · refine (ht.expired g hg').imp_right ?_
    rintro ⟨h₁, h₂, -, -⟩
    exact ⟨h₁, h₂, hw, by simp [beginFlush]⟩

/-- A timer of the present generation that does not run any more
ran out with nothing left to wait for. -/
theorem expired_of_gone (ht : Timed d l) (h : d.generation ∈ d.gone) :
    d.stopped = false ∧ d.running = [] ∧ (d.flushing = false → d.pending = []) := by
  rcases List.mem_append.mp h with h | h
  · exact absurd (ht.cancelled _ h) (lt_irrefl _)
  · rcases ht.expired _ h with h | ⟨-, h⟩
    · exact absurd h (lt_irrefl _)
    · exact h

theorem timed_late (ht : Timed d l) (h : d.generation ∈ d.gone) {l' : Ledger σ} :
    Timed ({ d with timer := none } : Debouncer σ).beginFlush l' := by
  obtain ⟨hs, hr, -⟩ := expired_of_gone ht h
  refine ⟨.inl ⟨hr, rfl⟩, ht.interval, fun _ => hr, by simp [beginFlush], by simp [beginFlush],
    ht.cancelled, fun g hg => ?_⟩
  refine (ht.expired g hg).imp_right ?_
  rintro ⟨h₁, -⟩
  exact ⟨h₁, hs, hr, by simp [beginFlush]⟩

theorem timed_act (ht : Timed d l) (hf : Fits d l m) : Timed (d.act m) (l.note d m) := by
  cases hb : d.begins m with
  | true =>
    rw [note_of_begins hb]
    rcases act_of_begins hb with ⟨-, ha⟩ | ⟨t, rfl, -, ha⟩ | ⟨rfl, ha⟩ <;> rw [ha]
    · exact timed_congr ht ⟨rfl, rfl, rfl, rfl, rfl, rfl, rfl, rfl⟩ (by simp [beginFlush])
        (by simp [beginFlush])
    · exact timed_ring ht hf.2
    · exact timed_late ht hf.2
  | false =>
    obtain ⟨hflush, hring, hlate⟩ := act_void hf hb
    simp only [Ledger.note, hb, Bool.false_eq_true, if_false]
    cases m with
    | submit e =>
      cases hs : d.stopped with
      | true => simpa [act, submit_of_stopped e hs] using ht
      | false => exact timed_submit ht e hs
    | flush =>
      rw [hflush rfl]
      exact ht
    | call e =>
      exact ⟨ht.armed, ht.interval, ht.stopped, ht.live, ht.fresh, ht.cancelled, ht.expired⟩
    | finish n => exact timed_endFlush ht n rfl hf.1
    | halt => exact timed_halt ht
    | discard =>
      refine timed_congr ht ⟨rfl, rfl, rfl, rfl, rfl, rfl, rfl, rfl⟩ ?_ ?_ <;> simp [act, discard]
    | ring t => exact absurd (generation_of_mem ht hf.2).1 (hring t rfl).1
    | late g =>
      rw [(hlate g rfl).2]
      exact ht
    | pass time =>
      obtain ⟨hd, -, htime⟩ := hf
      refine ⟨?_, ht.interval, ht.stopped, ht.live, by simp [act, hd], ht.cancelled, ht.expired⟩
      rcases ht.armed with h | ⟨due, hr, hm, -⟩
      · exact .inl h
      · exact .inr ⟨due, hr, hm, htime ⟨d.generation, due⟩ (by simp [hr])⟩

end Debouncer

end SegmentIndex
