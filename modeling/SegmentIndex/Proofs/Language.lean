import SegmentIndex.Pattern.Matcher
import Mathlib.Computability.Language
import Mathlib.Tactic

/-!
# Languages of patterns

A node that is built from characters by sequence, choice, groups and repetitions has a language,
which says nothing of the order in which a match tries its ways. A run of such a node takes words of
its language only, and it succeeds whenever the text goes on with some word of the language after
which the rest of the pattern succeeds: no choice, greedy or reluctant, hides a way through, and
neither does a round that takes nothing.
-/
namespace SegmentIndex.Pattern

namespace Node

/-- Whether a node is built from characters by sequence, choice, groups and repetitions that can be
undone and whose bounds are in order. -/
def isRegular : Node → Bool
  | .empty | .fail | .any _ | .chars .. => true
  | .seq a b | .alt a b => a.isRegular && b.isRegular
  | .group _ body => body.isRegular
  | .rep greed least most body => greed ≠ .possessive && most.all (least ≤ ·) && body.isRegular
  | _ => false

/-- The words that a regular node stands for. -/
def language : Node → Language Char
  | .empty => 1
  | .any newline => {w | ∃ c, w = [c] ∧ (newline = true ∨ c ≠ '\n')}
  | .chars a negated items => {w | ∃ c, w = [c] ∧ classTest a negated items c = true}
  | .seq a b => a.language * b.language
  | .alt a b => a.language + b.language
  | .group _ body => body.language
  | .rep _ least most body => {w | ∃ n, least ≤ n ∧ (∀ m ∈ most, n ≤ m) ∧ w ∈ body.language ^ n}
  | _ => 0

def groups : Node → List Nat
  | .seq a b | .alt a b | .cond _ a b => a.groups ++ b.groups
  | .group i body => i :: body.groups
  | .rep _ _ _ body | .ahead _ body | .behind _ _ body | .atomic body => body.groups
  | _ => []

end Node

/-! ## Points and what lies between them -/

namespace Point

variable {p q r : Point} {w v : List Char} {G H : List Nat}

/-- Whether a point is reached from another one by taking a text. -/
structure Takes (p : Point) (w : List Char) (q : Point) : Prop where
  pos : q.pos = p.pos + w.length
  after : p.after = w ++ q.after

/-- Whether what groups other than some took is the same at two points. -/
def Keeps (p : Point) (G : List Nat) (q : Point) : Prop := ∀ i ∉ G, q.mark? i = p.mark? i

theorem Takes.refl (p : Point) : p.Takes [] p := ⟨rfl, rfl⟩

theorem Takes.trans (h : p.Takes w q) (h' : q.Takes v r) : p.Takes (w ++ v) r := by
  constructor
  · rw [h'.pos, h.pos, List.length_append, Nat.add_assoc]
  · rw [h.after, h'.after, List.append_assoc]

theorem Takes.pos_eq_iff (h : p.Takes w q) : q.pos = p.pos ↔ w = [] := by
  rw [h.pos, ← List.length_eq_zero_iff]
  omega

theorem Takes.take_eq (h : p.Takes w q) : p.after.take (q.pos - p.pos) = w := by
  rw [h.pos, h.after, Nat.add_sub_cancel_left, List.take_left]

theorem takes_advance {c : Char} {rest : List Char} (h : p.after = c :: rest) :
    p.Takes [c] (p.advance c rest) :=
  ⟨rfl, h⟩

theorem Keeps.refl (p : Point) (G : List Nat) : p.Keeps G p := fun _ _ => rfl

theorem Keeps.trans (h : p.Keeps G q) (h' : q.Keeps H r) : p.Keeps (G ++ H) r := by
  intro i hi
  rw [List.mem_append, not_or] at hi
  rw [h' i hi.2, h i hi.1]

theorem Keeps.mono (h : p.Keeps G q) (hG : G ⊆ H) : p.Keeps H q :=
  fun i hi => h i fun hmem => hi (hG hmem)

theorem lookup_filter_ne {marks : List (Nat × List Char)} {i j : Nat} (h : j ≠ i) :
    (marks.filter (·.1 ≠ i)).lookup j = marks.lookup j := by
  induction marks with
  | nil => rfl
  | cons mark rest ih =>
    obtain ⟨n, text⟩ := mark
    by_cases hn : n = i
    · subst hn
      rw [List.filter_cons_of_neg (by simp), ih, List.lookup_cons, beq_false_of_ne h]
    · rw [List.filter_cons_of_pos (by simpa using hn), List.lookup_cons, List.lookup_cons, ih]

theorem mark?_setMark (p : Point) (i j : Nat) (text : List Char) :
    (p.setMark i text).mark? j = if j = i then some text else p.mark? j := by
  unfold setMark mark?
  rw [List.lookup_cons]
  by_cases h : j = i
  · simp [h]
  · rw [if_neg h, beq_false_of_ne h]
    exact lookup_filter_ne h

theorem keeps_setMark (p : Point) (i : Nat) (text : List Char) :
    p.Keeps [i] (p.setMark i text) := by
  intro j hj
  rw [mark?_setMark, if_neg (by simpa using hj)]

end Point

/-! ## Steps of a match -/

/-- Whether a step takes the words of a language and no others, and
records what some groups took and no others. -/
structure Walks (step : Next → Next) (L : Language Char) (G : List Nat) : Prop where
  sound : ∀ {k : Next} {p r : Point}, step k p = some r →
    ∃ w ∈ L, ∃ q, p.Takes w q ∧ p.Keeps G q ∧ k q = some r
  complete : ∀ {k : Next} {p : Point} {w rest : List Char}, w ∈ L → p.after = w ++ rest →
    (∀ q, p.Takes w q → (k q).isSome = true) → (step k p).isSome = true

/-- The words of at most some number of rounds. -/
def atMost (L : Language Char) (n : Nat) : Language Char := {w | ∃ j ≤ n, w ∈ L ^ j}

/-- The words of a round that other ones follow unless it takes nothing. -/
def oneThen (L M : Language Char) : Language Char :=
  {w | ∃ v ∈ L, ∃ u ∈ M, (v = [] → u = []) ∧ w = v ++ u}

theorem atMost_zero (L : Language Char) : atMost L 0 = 1 := by
  ext w
  rw [Language.mem_one]
  constructor
  · rintro ⟨j, hj, hw⟩
    rw [Nat.le_zero.mp hj, pow_zero, Language.mem_one] at hw
    exact hw
  · rintro rfl
    exact ⟨0, le_rfl, by simp⟩

theorem length_le_flatten {S : List (List Char)} (h : ∀ v ∈ S, v ≠ []) :
    S.length ≤ S.flatten.length := by
  induction S with
  | nil => simp
  | cons v S ih =>
    rw [List.forall_mem_cons] at h
    have hv := List.length_pos_of_ne_nil h.1
    have hS := ih h.2
    rw [List.length_cons, List.flatten_cons, List.length_append]
    omega

namespace Walks

variable {step other : Next → Next} {L M : Language Char} {G H : List Nat}

theorem mono (h : Walks step L G) (hG : G ⊆ H) : Walks step L H where
  sound := by
    intro k p r hr
    obtain ⟨w, hw, q, ht, hkeep, hk⟩ := h.sound hr
    exact ⟨w, hw, q, ht, hkeep.mono hG, hk⟩
  complete := h.complete

theorem congr (h : Walks step L G) (hs : ∀ k p, other k p = step k p) : Walks other L G := by
  rwa [show other = step from funext₂ hs]

theorem skip : Walks (fun k p => k p) 1 [] where
  sound := by
    intro k p r hr
    exact ⟨[], Language.nil_mem_one, p, .refl p, .refl p _, hr⟩
  complete := by
    intro k p w rest hw ha hk
    obtain rfl := (Language.mem_one w).mp hw
    exact hk p (.refl p)

theorem char (test : Char → Prop) [DecidablePred test] :
    Walks (fun k p => match p.after with
      | c :: rest => if test c then k (p.advance c rest) else none
      | [] => none) {w | ∃ c, w = [c] ∧ test c} [] where
  sound := by
    intro k p r hr
    cases ha : p.after with
    | nil => simp [ha] at hr
    | cons c rest =>
      simp only [ha] at hr
      split_ifs at hr with hc
      exact ⟨[c], ⟨c, rfl, hc⟩, _, Point.takes_advance ha, fun _ _ => rfl, hr⟩
  complete := by
    rintro k p w rest ⟨c, rfl, hc⟩ ha hk
    rw [List.singleton_append] at ha
    simp only [ha, if_pos hc]
    exact hk _ (Point.takes_advance ha)

theorem seq (h : Walks step L G) (h' : Walks other M H) :
    Walks (fun k p => step (fun q => other k q) p) (L * M) (G ++ H) where
  sound := by
    intro k p r hr
    obtain ⟨w, hw, q, ht, hkeep, hq⟩ := h.sound hr
    obtain ⟨v, hv, q', ht', hkeep', hk⟩ := h'.sound hq
    exact ⟨w ++ v, Language.append_mem_mul hw hv, q', ht.trans ht', hkeep.trans hkeep', hk⟩
  complete := by
    intro k p word rest hword ha hk
    obtain ⟨w, hw, v, hv, rfl⟩ := Language.mem_mul.mp hword
    rw [List.append_assoc] at ha
    refine h.complete hw ha fun q hq => ?_
    have hafter : q.after = v ++ rest := List.append_cancel_left (hq.after.symm.trans ha)
    exact h'.complete hv hafter fun q' hq' => hk q' (hq.trans hq')

theorem alt (h : Walks step L G) (h' : Walks other M H) :
    Walks (fun k p => match step k p with
      | some r => some r
      | none => other k p) (L + M) (G ++ H) where
  sound := by
    intro k p r hr
    cases hs : step k p with
    | some r' =>
      obtain ⟨w, hw, q, ht, hkeep, hk⟩ := h.sound hs
      rw [hs] at hr
      exact ⟨w, .inl hw, q, ht, hkeep.mono (List.subset_append_left G H), hk.trans hr⟩
    | none =>
      rw [hs] at hr
      obtain ⟨w, hw, q, ht, hkeep, hk⟩ := h'.sound hr
      exact ⟨w, .inr hw, q, ht, hkeep.mono (List.subset_append_right G H), hk⟩
  complete := by
    intro k p w rest hw ha hk
    rcases (Language.mem_add L M w).mp hw with hw | hw
    · obtain ⟨r, hr⟩ := Option.isSome_iff_exists.mp (h.complete hw ha hk)
      rw [hr]
      rfl
    · have hother := h'.complete hw ha hk
      cases hs : step k p with
      | some r => rfl
      | none => exact hother

theorem group_sound (h : Walks step L G) {i : Nat} {k : Next} {p r : Point}
    (hr : step (fun q => k (q.setMark i (p.after.take (q.pos - p.pos)))) p = some r) :
    ∃ w ∈ L, ∃ q, p.Takes w q ∧ p.Keeps (i :: G) q ∧ q.mark? i = some w ∧ k q = some r := by
  obtain ⟨w, hw, q, ht, hkeep, hk⟩ := h.sound hr
  rw [ht.take_eq] at hk
  refine ⟨w, hw, q.setMark i w, ⟨ht.pos, ht.after⟩, ?_, ?_, hk⟩
  · exact (hkeep.trans (q.keeps_setMark i w)).mono (by simp)
  · rw [Point.mark?_setMark, if_pos rfl]

theorem group (h : Walks step L G) (i : Nat) :
    Walks (fun k p => step (fun q => k (q.setMark i (p.after.take (q.pos - p.pos)))) p) L (i :: G)
      where
  sound := by
    intro k p r hr
    obtain ⟨w, hw, q, ht, hkeep, -, hk⟩ := h.group_sound hr
    exact ⟨w, hw, q, ht, hkeep, hk⟩
  complete := by
    intro k p w rest hw ha hk
    exact h.complete hw ha fun q hq => hk _ ⟨hq.pos, hq.after⟩

/-! ## Repetitions -/

theorem exactly (h : Walks step L G) (n : Nat) : Walks (exactly step n) (L ^ n) G := by
  induction n with
  | zero =>
    rw [pow_zero]
    exact skip.mono (List.nil_subset G)
  | succ n ih =>
    rw [pow_succ']
    exact (h.seq ih).mono (by simp)

/-- A word of some rounds is one of no more rounds each of which takes something. -/
theorem exists_rounds {n : Nat} {w : List Char} (h : w ∈ atMost L n) :
    ∃ S : List (List Char), w = S.flatten ∧ S.length ≤ n ∧ ∀ v ∈ S, v ∈ L ∧ v ≠ [] := by
  obtain ⟨j, hj, hw⟩ := h
  obtain ⟨S, rfl, rfl, hS⟩ := Language.mem_pow.mp hw
  refine ⟨S.filter fun v => !v.isEmpty, (List.flatten_filter_not_isEmpty).symm, ?_, fun v hv => ?_⟩
  · exact (List.length_filter_le _ S).trans hj
  · rw [List.mem_filter] at hv
    exact ⟨hS v hv.1, by simpa using hv.2⟩

theorem mem_atMost {n : Nat} {S : List (List Char)} (hn : S.length ≤ n) (hS : ∀ v ∈ S, v ∈ L) :
    S.flatten ∈ atMost L n :=
  ⟨S.length, hn, Language.mem_pow.mpr ⟨S, rfl, rfl, hS⟩⟩

theorem nil_mem_atMost (n : Nat) : [] ∈ atMost L n := ⟨0, Nat.zero_le n, by simp⟩

theorem atMost_succ (L : Language Char) (n : Nat) :
    atMost L (n + 1) = oneThen L (atMost L n) + 1 := by
  ext w
  rw [Language.mem_add, Language.mem_one]
  constructor
  · intro hw
    obtain ⟨S, rfl, hn, hS⟩ := exists_rounds hw
    cases S with
    | nil => exact .inr rfl
    | cons v S =>
      rw [List.forall_mem_cons] at hS
      refine .inl ⟨v, hS.1.1, S.flatten, ?_, fun hv => absurd hv hS.1.2, List.flatten_cons⟩
      exact mem_atMost (Nat.le_of_succ_le_succ hn) fun u hu => (hS.2 u hu).1
  · rintro (⟨v, hv, u, ⟨j, hj, hu⟩, -, rfl⟩ | rfl)
    · refine ⟨j + 1, Nat.succ_le_succ hj, ?_⟩
      rw [pow_succ']
      exact Language.append_mem_mul hv hu
    · exact nil_mem_atMost (n + 1)

/-- A round that takes nothing ends a repetition; after any other one it goes on. -/
theorem round (h : Walks step L G) (h' : Walks other M G) (hnil : [] ∈ M) :
    Walks (fun k p => step (fun q => if q.pos = p.pos then k q else other k q) p) (oneThen L M) G
      where
  sound := by
    intro k p r hr
    obtain ⟨v, hv, q, ht, hkeep, hq⟩ := h.sound hr
    split_ifs at hq with hpos
    · obtain rfl := ht.pos_eq_iff.mp hpos
      exact ⟨[], ⟨[], hv, [], hnil, fun _ => rfl, rfl⟩, q, ht, hkeep, hq⟩
    · obtain ⟨u, hu, q', ht', hkeep', hk⟩ := h'.sound hq
      have hne : v ≠ [] := fun hv => hpos (ht.pos_eq_iff.mpr hv)
      refine ⟨v ++ u, ⟨v, hv, u, hu, fun hv => absurd hv hne, rfl⟩, q', ht.trans ht', ?_, hk⟩
      exact (hkeep.trans hkeep').mono (by simp)
  complete := by
    rintro k p word rest ⟨v, hv, u, hu, hlast, rfl⟩ ha hk
    rw [List.append_assoc] at ha
    refine h.complete hv ha fun q hq => ?_
    split_ifs with hpos
    · obtain rfl := hq.pos_eq_iff.mp hpos
      rw [hlast rfl] at hk
      exact hk q hq
    · have hafter : q.after = u ++ rest := List.append_cancel_left (hq.after.symm.trans ha)
      exact h'.complete hu hafter fun q' hq' => hk q' (hq.trans hq')

theorem upToGreedy (h : Walks step L G) (n : Nat) : Walks (upToGreedy step n) (atMost L n) G := by
  induction n with
  | zero =>
    rw [atMost_zero]
    exact skip.mono (List.nil_subset G)
  | succ n ih =>
    rw [atMost_succ]
    exact ((h.round ih (nil_mem_atMost n)).alt skip).mono (by simp)

theorem upToReluctant (h : Walks step L G) (n : Nat) :
    Walks (upToReluctant step n) (atMost L n) G := by
  induction n with
  | zero =>
    rw [atMost_zero]
    exact skip.mono (List.nil_subset G)
  | succ n ih =>
    rw [atMost_succ, add_comm (oneThen L _)]
    exact (skip.alt (h.round ih (nil_mem_atMost n))).mono (List.Subset.refl G)

/-- A repetition takes its least number of rounds and then further
ones, of which there are always enough. -/
theorem rep (h : Walks step L G) {upTo : Nat → Next → Next}
    (hup : ∀ n, Walks (upTo n) (atMost L n) G) {least : Nat}
    {most : Option Nat} (hmost : ∀ m ∈ most, least ≤ m) :
    Walks (fun k p => Pattern.exactly step least (fun q => upTo (roundsLeft least most q) k q) p)
      {w | ∃ n, least ≤ n ∧ (∀ m ∈ most, n ≤ m) ∧ w ∈ L ^ n} G where
  sound := by
    intro k p r hr
    obtain ⟨w, hw, q, ht, hkeep, hq⟩ := (h.exactly least).sound hr
    obtain ⟨v, ⟨j, hj, hv⟩, q', ht', hkeep', hk⟩ := (hup _).sound hq
    refine ⟨w ++ v, ⟨least + j, Nat.le_add_right .., fun m hm => ?_, ?_⟩, q', ht.trans ht',
      (hkeep.trans hkeep').mono (by simp), hk⟩
    · have hle := hmost m hm
      have hleft : roundsLeft least most q ≤ m - least := by
        rw [Option.mem_def] at hm
        rw [hm]
        exact Nat.min_le_left ..
      omega
    · rw [pow_add]
      exact Language.append_mem_mul hw hv
  complete := by
    rintro k p word rest ⟨n, hleast, hn, hword⟩ ha hk
    rw [← Nat.add_sub_cancel' hleast, pow_add] at hword
    obtain ⟨w, hw, v, hv, rfl⟩ := Language.mem_mul.mp hword
    rw [List.append_assoc] at ha
    refine (h.exactly least).complete hw ha fun q hq => ?_
    have hafter : q.after = v ++ rest := List.append_cancel_left (hq.after.symm.trans ha)
    obtain ⟨S, rfl, hlength, hS⟩ := exists_rounds ⟨n - least, le_rfl, hv⟩
    have hrounds : S.length ≤ roundsLeft least most q := by
      have htext : S.length ≤ q.after.length + 1 := by
        have hflat := length_le_flatten fun v hv => (hS v hv).2
        rw [hafter, List.length_append]
        omega
      cases most with
      | none => exact htext
      | some m =>
        have hm := hn m rfl
        exact Nat.le_min.mpr ⟨by omega, htext⟩
    exact (hup _).complete (mem_atMost hrounds fun v hv => (hS v hv).1) hafter fun q' hq' =>
      hk q' (hq.trans hq')

end Walks

/-! ## Nodes -/

theorem Node.walks {n : Node} (h : n.isRegular = true) :
    Walks (fun k p => n.run k p) n.language n.groups := by
  induction n with
  | empty => exact Walks.skip
  | fail =>
    constructor
    · intro k p r hr
      simp [Node.run] at hr
    · intro k p w rest hw
      exact absurd hw (Language.notMem_zero w)
  | any newline =>
    refine (Walks.char fun c => newline = true ∨ c ≠ '\n').congr fun k p => ?_
    unfold Node.run
    cases p.after <;> simp
  | chars a negated items =>
    refine (Walks.char fun c => classTest a negated items c = true).congr fun k p => ?_
    unfold Node.run
    cases p.after <;> rfl
  | seq a b iha ihb =>
    rw [isRegular, Bool.and_eq_true] at h
    exact (iha h.1).seq (ihb h.2)
  | alt a b iha ihb =>
    rw [isRegular, Bool.and_eq_true] at h
    exact (iha h.1).alt (ihb h.2)
  | group i body ih => exact (ih h).group i
  | rep greed least most body ih =>
    simp only [isRegular, Bool.and_eq_true, decide_eq_true_eq] at h
    have hmost : ∀ m ∈ most, least ≤ m := by simpa [Option.all_eq_true] using h.1.2
    cases greed with
    | greedy => exact (ih h.2).rep (ih h.2).upToGreedy hmost
    | reluctant => exact (ih h.2).rep (ih h.2).upToReluctant hmost
    | possessive => exact absurd rfl h.1.1
  | anchor | backref | ahead | behind | atomic | cond => simp [isRegular] at h

end SegmentIndex.Pattern
