import SegmentIndex.Proofs.Conservation
import SegmentIndex.Proofs.Expiry

/-!
# Stops that drain

A stop that drains first closes the debouncer and then flushes it. If no flush is running by then,
all that was ever accepted has been handed over when the flush ends, unless an earlier stop
discarded it. If one is running, the second flush does nothing, and the first one starts no timer
when it ends: what came in meanwhile stays behind.

A history here is any sequence of moments that fit, whether a
handler asks for them or a caller beside it.
-/
namespace SegmentIndex

variable {σ : Type}

namespace Ledger

/-- The submissions that the handler was called for so far, out of those that were drained. -/
def handled (l : Ledger σ) : List (PendingEvent (Nat × σ)) := l.drained.take l.called.length

/-- Whether the handler was called for a submission, or for a later
one for the path of a superseded one. -/
def Served (l : Ledger σ) (n : Nat) : Prop :=
  (∃ x ∈ l.handled, x.number = n) ∨
    ∃ x ∈ l.superseded, x.number = n ∧ ∃ y ∈ l.handled, n < y.number ∧ y.path = x.path

theorem mem_drained_of_handled {l : Ledger σ} {x : PendingEvent (Nat × σ)} (h : x ∈ l.handled) :
    x ∈ l.drained :=
  List.mem_of_mem_take h

end Ledger

/-- Whether nothing is pending, and of the submissions up to a number each was
handled, or superseded by one that was. -/
structure Emptied (d : Debouncer σ) (l : Ledger σ) (count : Nat) : Prop where
  pending : d.pending = []
  served : ∀ n < count, l.Served n

namespace Debouncer

variable {d : Debouncer σ} {l : Ledger σ} {m : Moment σ} {ms : List (Moment σ)}

/-! ## After a stop -/

/-- What a stopped debouncer does to its ledger: nothing is accepted or waits anew, what was
discarded stays so, and what is discarded waited before. -/
structure Closed (l l' : Ledger σ) : Prop where
  accepted : l'.accepted = l.accepted
  superseded : l'.superseded = l.superseded
  waiting : l'.waiting ⊆ l.waiting
  discarded : l.discarded ⊆ l'.discarded
  lost : l'.discarded ⊆ l.discarded ++ l.waiting

theorem Closed.refl (l : Ledger σ) : Closed l l :=
  ⟨rfl, rfl, fun _ h => h, fun _ h => h, List.subset_append_left _ _⟩

theorem Closed.trans {l₁ l₂ l₃ : Ledger σ} (h : Closed l₁ l₂) (h' : Closed l₂ l₃) :
    Closed l₁ l₃ := by
  refine ⟨h'.accepted.trans h.accepted, h'.superseded.trans h.superseded,
    fun _ hx => h.waiting (h'.waiting hx),
    fun _ hx => h'.discarded (h.discarded hx), fun x hx => ?_⟩
  rcases List.mem_append.mp (h'.lost hx) with hx | hx
  · exact h.lost hx
  · exact List.mem_append_right _ (h.waiting hx)

theorem closed_note (hs : d.stopped = true) (m : Moment σ) : Closed l (l.note d m) := by
  cases hb : d.begins m with
  | true =>
    rw [note_of_begins hb]
    exact ⟨rfl, rfl, List.nil_subset _, fun _ h => h, List.subset_append_left _ _⟩
  | false =>
    simp only [Ledger.note, hb, hs, Bool.false_eq_true, if_false, if_true]
    cases m with
    | discard => exact ⟨rfl, rfl, List.nil_subset _, List.subset_append_left _ _, fun _ h => h⟩
    | _ => exact ⟨rfl, rfl, fun _ h => h, fun _ h => h, List.subset_append_left _ _⟩

theorem closed_after (hs : d.stopped = true) (ms : List (Moment σ)) : Closed l (l.after d ms) := by
  induction ms generalizing d l with
  | nil => exact Closed.refl l
  | cons m ms ih => exact (closed_note hs m).trans (ih (stopped_act hs m))

/-- A stopped debouncer with nothing waiting and nothing discarded. -/
structure Vacant (d : Debouncer σ) (l : Ledger σ) : Prop where
  stopped : d.stopped = true
  waiting : l.waiting = []
  discarded : l.discarded = []

theorem vacant_after (hv : Vacant d l) (ms : List (Moment σ)) :
    Vacant (d.after ms) (l.after d ms) := by
  obtain ⟨-, -, hwaiting, -, hlost⟩ := closed_after (l := l) hv.stopped ms
  rw [hv.waiting] at hwaiting
  rw [hv.waiting, hv.discarded] at hlost
  exact ⟨stopped_after (.inr hv.stopped), List.subset_nil.mp hwaiting, List.subset_nil.mp hlost⟩

/-! ## What is served -/

theorem handled_eq (hk : Kept d l) (hd : d.flushing = false) : l.handled = l.drained := by
  rw [Ledger.handled, (hk.handled hd).1, List.length_map, List.take_length]

theorem exists_of_number (hk : Kept d l) {n : Nat} (h : n < l.accepted.length) :
    ∃ x ∈ l.all, x.number = n :=
  List.mem_map.mp (hk.numbers.mem_iff.mpr (List.mem_range.mpr h))

/-- When nothing waits and nothing was discarded, the last submission for each path was drained: the
induction goes from a superseded one to what has superseded it. -/
theorem exists_drained (hk : Kept d l) (hw : l.waiting = []) (hx : l.discarded = []) {n : Nat}
    {e : PendingEvent σ}
    (h : l.accepted[n]? = some e) : ∃ y ∈ l.drained, n ≤ y.number ∧ y.path = e.path := by
  induction hk' : l.accepted.length - n using Nat.strong_induction_on generalizing n e with
  | h k ih =>
    have hn : n < l.accepted.length := (List.getElem?_eq_some_iff.mp h).1
    obtain ⟨x, hmem, rfl⟩ := exists_of_number hk hn
    have hplain : x.plain = e := by simpa [h] using (hk.accepted x hmem).symm
    have hpath : x.path = e.path := congrArg (·.path) hplain
    simp only [Ledger.all, hw, hx, List.append_nil, List.mem_append] at hmem
    rcases hmem with hmem | hmem
    · exact ⟨x, hmem, le_rfl, hpath⟩
    · obtain ⟨n', y, hlt, hy, hyp⟩ := hk.superseded x hmem
      have hn' : n' < l.accepted.length := (List.getElem?_eq_some_iff.mp hy).1
      obtain ⟨z, hz, hle, hzp⟩ := ih (l.accepted.length - n') (by omega) hy rfl
      exact ⟨z, hz, by omega, by rw [hzp, hyp, hpath]⟩

theorem served_of_vacant (hk : Kept d l) (hd : d.flushing = false) (hv : Vacant d l) {n : Nat}
    (h : n < l.accepted.length) : l.Served n := by
  obtain ⟨x, hmem, rfl⟩ := exists_of_number hk h
  have hall := hmem
  simp only [Ledger.all, hv.waiting, hv.discarded, List.append_nil, List.mem_append] at hmem
  rw [Ledger.Served, handled_eq hk hd]
  rcases hmem with hmem | hmem
  · exact .inl ⟨x, hmem, rfl⟩
  · obtain ⟨n', y, hlt, hy, hyp⟩ := hk.superseded x hmem
    obtain ⟨z, hz, hle, hzp⟩ := exists_drained hk hv.waiting hv.discarded hy
    exact .inr ⟨x, hmem, rfl, z, hz, by omega, hzp.trans hyp⟩

theorem number_ne (hk : Kept d l) {x y : PendingEvent (Nat × σ)} (hx : x ∈ l.waiting ++ l.discarded)
    (hy : y ∈ l.drained ++ l.superseded) : y.number ≠ x.number := by
  have hn : (l.all.map PendingEvent.number).Nodup := hk.numbers.nodup_iff.mpr List.nodup_range
  rw [Ledger.all, List.append_assoc, List.map_append] at hn
  exact fun h => List.disjoint_of_nodup_append hn (List.mem_map_of_mem hy)
    (h ▸ List.mem_map_of_mem hx)

theorem number_lt (hk : Kept d l) {x : PendingEvent (Nat × σ)} (hx : x ∈ l.waiting ++ l.discarded) :
    x.number < l.accepted.length := by
  have hall : x ∈ l.all := by
    rw [Ledger.all, List.append_assoc]
    exact List.mem_append_right _ hx
  exact (List.getElem?_eq_some_iff.mp (hk.accepted x hall)).1

/-- What waits or was discarded is not served, and stays so while
nothing more is drained or superseded. -/
theorem not_served (hk : Kept d l) {l' : Ledger σ} (hd : l'.drained = l.drained)
    (hs : l'.superseded = l.superseded) {x : PendingEvent (Nat × σ)}
    (hx : x ∈ l.waiting ++ l.discarded) :
    ¬ l'.Served x.number := by
  rintro (⟨y, hy, hn⟩ | ⟨y, hy, hn, -⟩)
  · have hmem : y ∈ l.drained := hd ▸ Ledger.mem_drained_of_handled hy
    exact number_ne hk hx (List.mem_append_left _ hmem) hn
  · exact number_ne hk hx (List.mem_append_right _ (hs ▸ hy)) hn

theorem waiting_eq_nil (hk : Kept d l) (hp : d.pending = []) : l.waiting = [] := by
  have := hk.waiting
  rwa [hp, List.map_eq_nil_iff] at this

/-- A flush of a stopped debouncer leaves nothing behind if it
begins, or if there is nothing to hand over. -/
theorem vacant_flush (hk : Kept d l) (hs : d.stopped = true) (hx : l.discarded = [])
    (hf : d.flushing = false ∨ d.pending = []) : Vacant (d.act .flush) (l.note d .flush) := by
  by_cases hb : d.begins .flush = true
  · rw [note_of_begins hb]
    exact ⟨stopped_act hs .flush, rfl, hx⟩
  · have hd : d.flushing = true := by
      by_contra hd
      rw [Bool.not_eq_true] at hd
      exact hb (by simp [begins, hd, act, flushing_enter])
    have hp : d.pending = [] := hf.resolve_left (by simp [hd])
    have hn : l.note d .flush = l := by simp [Ledger.note, hb]
    rw [hn]
    exact ⟨stopped_act hs .flush, waiting_eq_nil hk hp, hx⟩

/-- While a flush runs, another one leaves what is pending to nobody: when
the first flush ends, it was not served. -/
theorem exists_unserved (hk : Kept d l) (hs : d.stopped = true) (hd : d.flushing = true)
    (hp : d.pending ≠ []) (hl : Legal d l ms) (he : (d.after ms).flushing = false) :
    ∃ later, later <+: ms ∧ (d.after later).flushing = false ∧
      ∃ n < l.accepted.length, ¬ (l.after d later).Served n := by
  obtain ⟨us, n, vs, rfl, hus, -, -⟩ := exists_finish hl hd he
  have hnot : ∀ k, .finish k ∉ us := by
    intro k hk
    obtain ⟨as, bs, rfl⟩ := List.mem_iff_append.mp hk
    have := hus (as ++ [.finish k]) ⟨bs, by simp⟩
    simp [act] at this
  obtain ⟨-, hdrained, -⟩ := legal_flushing (legal_append.mp hl).1 hd hnot
  have hclosed := closed_after (l := l) hs (us ++ [.finish n])
  have hlast : (l.after d (us ++ [.finish n])).drained = l.drained := by
    rw [Ledger.after_append, ← hdrained]
    simp [Ledger.note]
  obtain ⟨x, hx⟩ : ∃ x, x ∈ l.waiting := by
    refine List.exists_mem_of_ne_nil _ fun hw => hp ?_
    rw [← hk.waiting, hw, List.map_nil]
  have hx : x ∈ l.waiting ++ l.discarded := List.mem_append_left _ hx
  exact ⟨us ++ [.finish n], ⟨vs, by simp⟩, by simp [act], x.number, number_lt hk hx,
    not_served hk hlast hclosed.superseded hx⟩

theorem flush_serves_iff (hk : Kept d l) (ht : Timed d l) (hs : d.stopped = true)
    (hl : Legal d l (.flush :: ms)) (hend : (d.after (.flush :: ms)).flushing = false) :
    (∀ later, later <+: ms → (d.after (.flush :: later)).flushing = false →
      Emptied (d.after (.flush :: later)) (l.after d (.flush :: later)) l.accepted.length) ↔
    l.discarded = [] ∧ (d.flushing = false ∨ d.pending = []) := by
  constructor
  · intro h
    constructor
    · by_contra hx
      obtain ⟨x, hx⟩ := List.exists_mem_of_ne_nil _ hx
      have hlate : x ∈ (l.after d (.flush :: ms)).discarded := (closed_after hs _).discarded hx
      have hserved := (h ms (List.prefix_refl ms) hend).served x.number
        (number_lt hk (List.mem_append_right _ hx))
      exact not_served (kept_timed_after hk ht hl).1 rfl rfl (List.mem_append_right _ hlate) hserved
    · by_contra hf
      rw [not_or, Bool.not_eq_false] at hf
      obtain ⟨hd, hp⟩ := hf
      have hact : d.act .flush = d := if_pos hd
      have hnote : l.note d .flush = l := by simp [Ledger.note, begins_of_flushing hd]
      simp only [Legal, after_cons, Ledger.after_cons, hact, hnote] at h hl hend
      obtain ⟨later, hlater, hidle, n, hn, hunserved⟩ := exists_unserved hk hs hd hp hl.2 hend
      exact hunserved ((h later hlater hidle).served n hn)
  · rintro ⟨hx, hf⟩ later ⟨rest, rfl⟩ hidle
    have hv := vacant_after (vacant_flush hk hs hx hf) later
    have hl : Legal d l ((.flush :: later) ++ rest) := hl
    obtain ⟨hk', -⟩ := kept_timed_after hk ht (legal_append.mp hl).1
    have hcount := (closed_after (l := l) hs (.flush :: later)).accepted
    refine ⟨?_, fun n hn => served_of_vacant hk' hidle hv (hcount ▸ hn)⟩
    rw [← hk'.waiting]
    exact List.map_eq_nil_iff.mpr hv.waiting

/-! ## Histories with a stop that drains -/

theorem kept_timed_of_new {interval : Int} {counting : Bool}
    (hn : Debouncer.new interval counting = .ok d) :
    Kept d {} ∧ Timed d {} ∧ d.flushing = false := by
  unfold new at hn
  split_ifs at hn with hi
  obtain rfl := Except.ok.inj hn
  exact ⟨kept_start _ _, timed_start _ _ (by omega), rfl⟩

theorem accepted_after_halt (d : Debouncer σ) (l : Ledger σ) (ms : List (Moment σ)) :
    (l.after d (.halt :: ms)).accepted = l.accepted := by
  have hnote : l.note d .halt = l := by simp [Ledger.note]
  rw [Ledger.after_cons, hnote]
  exact (closed_after rfl ms).accepted

/-- In any history of a new debouncer, a stop that drains leaves nothing pending and nothing
unserved of what was accepted before it, from the first time that no flush is running, if and only
if nothing was discarded before its flush, and either no other flush is running then or there is
nothing to hand over. The runs of a debouncer are such histories, whatever the handler asks for. -/
theorem draining_stop_serves_iff {interval : Int} {counting : Bool} {start : Debouncer σ}
    (hstart : Debouncer.new interval counting = .ok start) {past between rest : List (Moment σ)}
    (hl : Legal start {} (past ++ .halt :: between ++ .flush :: rest))
    (hend : (start.after (past ++ .halt :: between ++ .flush :: rest)).flushing = false) :
    ((∀ later, later <+: rest →
    (start.after (past ++ .halt :: between ++ .flush :: later)).flushing = false →
        Emptied (start.after (past ++ .halt :: between ++ .flush :: later))
          (({} : Ledger σ).after start (past ++ .halt :: between ++ .flush :: later))
          (({} : Ledger σ).after start past).accepted.length) ↔
      (({} : Ledger σ).after start (past ++ .halt :: between)).discarded = [] ∧
        ((start.after (past ++ .halt :: between)).flushing = false ∨
          (start.after (past ++ .halt :: between)).pending = [])) ∧
      ∀ {ω : Type} (h : Handler σ ω) (w : ω) (demands : List (Demand σ)),
        Legal start {} (runMoments h (start, w) demands) ∧
          start.after (runMoments h (start, w) demands) = (meetAll h (start, w) demands).1 ∧
          (meetAll h (start, w) demands).1.flushing = false := by
  obtain ⟨hk, ht, hs⟩ := kept_timed_of_new hstart
  refine ⟨?_, fun h w demands => ⟨legal_runMoments h (s := (start, w)) hk ht hs demands,
    after_runMoments h (s := (start, w)) hs demands⟩⟩
  have hcount : (({} : Ledger σ).after start past).accepted =
      (({} : Ledger σ).after start (past ++ .halt :: between)).accepted := by
    rw [Ledger.after_append, accepted_after_halt]
  obtain ⟨hl₀, hl₁⟩ := legal_append.mp hl
  obtain ⟨hk₀, ht₀⟩ := kept_timed_after hk ht hl₀
  have hstopped : (start.after (past ++ .halt :: between)).stopped = true :=
    stopped_after (.inl (by simp))
  rw [after_append] at hend
  rw [hcount]
  simp only [after_append start (past ++ .halt :: between),
    Ledger.after_append start {} (past ++ .halt :: between)]
  exact flush_serves_iff hk₀ ht₀ hstopped hl₁ hend

def opened : Debouncer Unit := { interval := 500 }

/-- A handler that submits an event of another file when it is called for the
first one, and then stops the debouncer. -/
def parting : Handler Unit Unit := fun w e =>
  (w, if e.path = "a.md" then [.submit ⟨"modify", "b.md", ()⟩, .stop true] else [], false)

/-- What happens before the stop. -/
def parted : List (Moment Unit) :=
  [.submit ⟨"modify", "a.md", ()⟩, .flush, .call ⟨"modify", "a.md", ()⟩,
    .submit ⟨"modify", "b.md", ()⟩]

theorem runMoments_parting : runMoments parting (opened, ())
    [.submit ⟨"modify", "a.md", ()⟩, .flush] =
    parted ++ Moment.halt :: [] ++ Moment.flush :: [Moment.finish 1] := by decide

theorem parting_serves_iff :
    Debouncer.new 500 true = .ok opened ∧
      Legal opened {} (parted ++ Moment.halt :: [] ++ Moment.flush :: [Moment.finish 1]) ∧
      (opened.after (parted ++ Moment.halt :: [] ++ Moment.flush :: [Moment.finish 1])).flushing =
        false ∧
      ((∀ later, later <+: [Moment.finish 1] →
          (opened.after (parted ++ Moment.halt :: [] ++ Moment.flush :: later)).flushing = false →
          Emptied (opened.after (parted ++ Moment.halt :: [] ++ Moment.flush :: later))
            (({} : Ledger Unit).after opened (parted ++ Moment.halt :: [] ++ Moment.flush :: later))
            (({} : Ledger Unit).after opened parted).accepted.length) ↔
        (({} : Ledger Unit).after opened (parted ++ Moment.halt :: [])).discarded = [] ∧
          ((opened.after (parted ++ Moment.halt :: [])).flushing = false ∨
            (opened.after (parted ++ Moment.halt :: [])).pending = [])) := by
  have hnew : Debouncer.new 500 true = .ok opened := rfl
  obtain ⟨hk, ht, hs⟩ := kept_timed_of_new hnew
  have hl := legal_runMoments parting (s :=
    (opened, ())) hk ht hs [.submit ⟨"modify", "a.md", ()⟩, .flush]
  rw [runMoments_parting] at hl
  exact ⟨hnew, hl, by decide, (draining_stop_serves_iff hnew hl (by decide)).1⟩

/-- What came in during a flush is stranded by a stop that asks for it to be handed over: no flush
is running, no timer either, and no event is taken in any more. -/
theorem parting_strands :
    Debouncer.new 500 true = .ok opened ∧
      runMoments parting (opened, ()) [.submit ⟨"modify", "a.md", ()⟩, .flush] =
        parted ++ Moment.halt :: [] ++ Moment.flush :: [Moment.finish 1] ∧
      (meetAll parting (opened, ()) [.submit ⟨"modify", "a.md", ()⟩, .flush]).1.flushing = false ∧
      (meetAll parting (opened, ()) [.submit ⟨"modify", "a.md", ()⟩, .flush]).1.stopped = true ∧
      (meetAll parting (opened, ()) [.submit ⟨"modify", "a.md", ()⟩, .flush]).1.running = [] ∧
      (meetAll parting (opened, ()) [.submit ⟨"modify", "a.md", ()⟩, .flush]).1.pending =
        [⟨"modify", "b.md", ()⟩] ∧
      ¬ Emptied (opened.after (parted ++ Moment.halt :: [] ++ Moment.flush :: [Moment.finish 1]))
        (({} : Ledger Unit).after opened (parted ++ Moment.halt :: [] ++ Moment.flush ::
          [Moment.finish 1]))
        (({} : Ledger Unit).after opened parted).accepted.length := by
  refine ⟨rfl, runMoments_parting, by decide, by decide, by decide, by decide, fun h => ?_⟩
  exact absurd h.pending (by decide)

end Debouncer

end SegmentIndex
