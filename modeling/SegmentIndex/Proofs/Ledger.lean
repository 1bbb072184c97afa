import SegmentIndex.Proofs.Moments

/-!
# The ledger of a debouncer

A ledger beside a debouncer numbers the submissions that it accepts and notes what becomes of each:
it waits, it is drained by a flush, a later one supersedes it, or a stop discards it. What the
handler is called with is noted apart from that.
-/
namespace SegmentIndex

variable {σ ω : Type}

namespace PendingEvent

def numbered (n : Nat) (e : PendingEvent σ) : PendingEvent (Nat × σ) :=
  ⟨e.kind, e.path, (n, e.spec)⟩

/-- A numbered event without its number. -/
def plain (e : PendingEvent (Nat × σ)) : PendingEvent σ := ⟨e.kind, e.path, e.spec.2⟩

def number (e : PendingEvent (Nat × σ)) : Nat := e.spec.1

@[simp] theorem plain_numbered (n : Nat) (e : PendingEvent σ) : (e.numbered n).plain = e := rfl

@[simp] theorem number_numbered (n : Nat) (e : PendingEvent σ) : (e.numbered n).number = n := rfl

@[simp] theorem path_numbered (n : Nat) (e : PendingEvent σ) : (e.numbered n).path = e.path := rfl

@[simp] theorem path_plain (e : PendingEvent (Nat × σ)) : e.plain.path = e.path := rfl

end PendingEvent

/-- What has become of the submissions that a debouncer accepted,
and what the handler was called with. -/
structure Ledger (σ : Type) where
  accepted : List (PendingEvent σ) := []
  acceptedAt : Nat := 0
  recent : List (PendingEvent σ) := []
  waiting : List (PendingEvent (Nat × σ)) := []
  drained : List (PendingEvent (Nat × σ)) := []
  superseded : List (PendingEvent (Nat × σ)) := []
  discarded : List (PendingEvent (Nat × σ)) := []
  called : List (PendingEvent σ) := []
  finished : Nat := 0

/-- The calls of the handler among some moments. -/
def calls (ms : List (Moment σ)) : List (PendingEvent σ) :=
  ms.filterMap fun
    | .call e => some e
    | _ => none

@[simp] theorem calls_nil : calls ([] : List (Moment σ)) = [] := rfl

@[simp] theorem calls_append (ms ns : List (Moment σ)) : calls (ms ++ ns) = calls ms ++ calls ns :=
  List.filterMap_append

@[simp] theorem calls_requests (rs : List (Request σ)) :
    calls (rs.flatMap Request.moments) = [] := by
  induction rs with
  | nil => rfl
  | cons r rs ih =>
    rw [List.flatMap_cons, calls_append, ih]
    rcases r with e | _ | _ | _ <;> rfl

/-- The events that a burst leaves: of each path the last one, in
the order in which the paths first came. -/
def lastOfEach (es : List (PendingEvent σ)) : List (PendingEvent σ) :=
  (es.map (·.path)).eraseDups.filterMap fun p => es.reverse.find? fun e => e.path = p

namespace Ledger

/-- All submissions, by what became of them. -/
def all (l : Ledger σ) : List (PendingEvent (Nat × σ)) :=
  l.drained ++ l.superseded ++ l.waiting ++ l.discarded

/-- Notes an accepted submission, which supersedes the one that waits for its path. -/
def accept (now : Nat) (e : PendingEvent σ) (l : Ledger σ) : Ledger σ :=
  { l with
    accepted := l.accepted ++ [e]
    acceptedAt := now
    recent := l.recent ++ [e]
    waiting := Debouncer.hold (e.numbered l.accepted.length) l.waiting
    superseded := l.superseded ++ l.waiting.filter fun x => x.path = e.path }

def drain (l : Ledger σ) : Ledger σ :=
  { l with drained := l.drained ++ l.waiting, waiting := [], recent := [] }

def drop (l : Ledger σ) : Ledger σ :=
  { l with discarded := l.discarded ++ l.waiting, waiting := [], recent := [] }

def note (d : Debouncer σ) (l : Ledger σ) (m : Moment σ) : Ledger σ :=
  if d.begins m then l.drain
  else
    match m with
    | .submit e => if d.stopped then l else l.accept d.now e
    | .call e => { l with called := l.called ++ [e] }
    | .finish n => { l with finished := l.finished + n }
    | .discard => l.drop
    | _ => l

def after : Debouncer σ → Ledger σ → List (Moment σ) → Ledger σ
  | _, l, [] => l
  | d, l, m :: ms => after (d.act m) (l.note d m) ms

@[simp] theorem after_nil (d : Debouncer σ) (l : Ledger σ) : l.after d [] = l := rfl

@[simp] theorem after_cons (d : Debouncer σ) (l : Ledger σ) (m : Moment σ) (ms : List (Moment σ)) :
    l.after d (m :: ms) = (l.note d m).after (d.act m) ms := rfl

theorem after_append (d : Debouncer σ) (l : Ledger σ) (ms ns : List (Moment σ)) :
    l.after d (ms ++ ns) = (l.after d ms).after (d.after ms) ns := by
  induction ms generalizing d l with
  | nil => rfl
  | cons m ms ih => exact ih _ _

end Ledger

namespace Debouncer

/-! ## Holding events back -/

theorem map_hold (x : PendingEvent (Nat × σ)) (ws : List (PendingEvent (Nat × σ))) :
    (hold x ws).map PendingEvent.plain = hold x.plain (ws.map PendingEvent.plain) := by
  induction ws with
  | nil => rfl
  | cons w ws ih =>
    by_cases h : w.path = x.path
    · simp [hold, h]
    · simp [hold, h, ih]

theorem mem_hold {α : Type} {x y : PendingEvent α} {ws : List (PendingEvent α)}
    (h : y ∈ hold x ws) :
    y = x ∨ y ∈ ws := by
  induction ws with
  | nil => exact .inl (by simpa [hold] using h)
  | cons w ws ih =>
    unfold hold at h
    split_ifs at h
    · rcases List.mem_cons.mp h with rfl | h
      · exact .inl rfl
      · exact .inr (List.mem_cons_of_mem _ h)
    · rcases List.mem_cons.mp h with rfl | h
      · exact .inr List.mem_cons_self
      · exact (ih h).imp id (List.mem_cons_of_mem _)

theorem nodup_hold {α : Type} (x : PendingEvent α) {ws : List (PendingEvent α)}
    (h : (ws.map (·.path)).Nodup) : ((hold x ws).map (·.path)).Nodup := by
  induction ws with
  | nil => simp [hold]
  | cons w ws ih =>
    rw [List.map_cons, List.nodup_cons] at h
    unfold hold
    split_ifs with hw
    · rw [List.map_cons, List.nodup_cons, ← hw]
      exact h
    · rw [List.map_cons, List.nodup_cons]
      refine ⟨fun hm => ?_, ih h.2⟩
      obtain ⟨y, hy, hp⟩ := List.mem_map.mp hm
      rcases mem_hold hy with rfl | hy
      · exact hw hp.symm
      · exact h.1 (List.mem_map.mpr ⟨y, hy, hp⟩)

/-- Nothing is lost when an event is held back: what it takes the place of is superseded. -/
theorem hold_perm {α : Type} (x : PendingEvent α) {ws : List (PendingEvent α)}
    (h : (ws.map (·.path)).Nodup) :
    (hold x ws ++ ws.filter fun y => y.path = x.path).Perm (x :: ws) := by
  induction ws with
  | nil => simp [hold]
  | cons w ws ih =>
    rw [List.map_cons, List.nodup_cons] at h
    by_cases hw : w.path = x.path
    · have hn : ws.filter (fun y => y.path = x.path) = [] := by
        rw [List.filter_eq_nil_iff]
        intro y hy hp
        exact h.1 (List.mem_map.mpr ⟨y, hy, by simpa [hw] using hp⟩)
      simp only [hold, hw, if_true, List.filter_cons, decide_true, hn, List.cons_append]
      exact (List.perm_append_singleton w ws).cons x
    · simp only [hold, hw, if_false, List.filter_cons, decide_false, Bool.false_eq_true,
        List.cons_append]
      exact ((ih h.2).cons w).trans (.swap x w ws)

end Debouncer

/-! ## The last event of each path -/

theorem eraseDups_snoc (ps : List String) (p : String) :
    (ps ++ [p]).eraseDups = ps.eraseDups ++ if p ∈ ps then [] else [p] := by
  rw [List.eraseDups_append]
  congr 1
  by_cases h : p ∈ ps <;> simp [List.removeAll, h, List.eraseDups_cons]

theorem eraseDups_spec (ps : List String) : ps.eraseDups.Nodup ∧ ∀ p, p ∈ ps.eraseDups ↔
    p ∈ ps := by
  induction ps using List.reverseRecOn with
  | nil => simp
  | append_singleton ps q ih =>
    rw [eraseDups_snoc]
    by_cases h : q ∈ ps
    · simp only [h, if_true, List.append_nil, List.mem_append, List.mem_singleton]
      refine ⟨ih.1, fun p => (ih.2 p).trans ⟨.inl, ?_⟩⟩
      rintro (hp | rfl)
      · exact hp
      · exact h
    · simp only [h, if_false, List.mem_append, List.mem_singleton, ih.2, iff_self,
        implies_true, and_true]
      exact ih.1.append (List.nodup_singleton q) (by simpa [ih.2] using h)

theorem find?_snoc (es : List (PendingEvent σ)) (e : PendingEvent σ) (p : String) :
    (es ++ [e]).reverse.find? (fun x => x.path = p) =
      if e.path = p then some e else es.reverse.find? fun x => x.path = p := by
  by_cases h : e.path = p <;> simp [h]

theorem exists_last {es : List (PendingEvent σ)} {p : String} (h : p ∈ es.map (·.path)) :
    ∃ v, es.reverse.find? (fun x => x.path = p) = some v ∧ v.path = p := by
  obtain ⟨e, he, hp⟩ := List.mem_map.mp h
  cases hf : es.reverse.find? (fun x => x.path = p) with
  | none => exact absurd hp (by simpa using List.find?_eq_none.mp hf e (List.mem_reverse.mpr he))
  | some v => exact ⟨v, rfl, by simpa using List.find?_some hf⟩

/-- One more event takes its place among the last ones as the debouncer holds it back: the
induction is on the paths that came before. -/
theorem hold_filterMap (e : PendingEvent σ) (f : String → Option (PendingEvent σ))
    {ps : List String} (hn : ps.Nodup) (hf : ∀ p ∈ ps, ∃ v, f p = some v ∧ v.path = p) :
    (ps.filterMap fun p => if e.path = p then some e else f p) ++
      (if e.path ∈ ps then [] else [e]) =
      Debouncer.hold e (ps.filterMap f) := by
  induction ps with
  | nil => rfl
  | cons p ps ih =>
    obtain ⟨v, hv, hp⟩ := hf p List.mem_cons_self
    rw [List.nodup_cons] at hn
    by_cases h : e.path = p
    · subst h
      have hs : (ps.filterMap fun q => if e.path = q then some e else f q) = ps.filterMap f := by
        apply List.filterMap_congr
        intro q hq
        rw [if_neg]
        rintro rfl
        exact hn.1 hq
      simp [hv, hs, Debouncer.hold, hp]
    · have hve : ¬ v.path = e.path := fun hc => h (hc.symm.trans hp)
      have := ih hn.2 fun q hq => hf q (List.mem_cons_of_mem _ hq)
      simp only [List.filterMap_cons, h, if_false, hv, Debouncer.hold, hve, ← this,
        List.cons_append, List.mem_cons, false_or]

theorem lastOfEach_snoc (es : List (PendingEvent σ)) (e : PendingEvent σ) :
    lastOfEach (es ++ [e]) = Debouncer.hold e (lastOfEach es) := by
  obtain ⟨hn, hm⟩ := eraseDups_spec (es.map (·.path))
  have hh := hold_filterMap e (fun p => es.reverse.find? fun x => x.path = p) hn
    fun p hp => exists_last ((hm p).mp hp)
  unfold lastOfEach
  rw [← hh, List.map_append, List.map_singleton, eraseDups_snoc, List.filterMap_append]
  simp only [find?_snoc, hm]
  congr 1
  split_ifs <;> simp

end SegmentIndex
