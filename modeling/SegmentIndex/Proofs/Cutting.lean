import SegmentIndex.Chunk
import Mathlib.Tactic

/-!
# Where windows end

A window that stops short of the end of a text ends after the last empty line of the place where it
may end, else after the last line end, else after the last space, and where there is none of these
it has its full size. So it is longer than the overlap, and the cutting of a text goes on and comes
to its end: `Cut` follows it with no bound on the number of windows, and what is cut is what `Cut`
says.
-/
namespace SegmentIndex.Chunk

/-! ## The last occurrence of a separator -/

/-- The last occurrence of a separator in a text begins at a place. -/
structure LastAt (separator cs : List Char) (i : Nat) : Prop where
  occurs : separator <+: cs.drop i
  last : ∀ j, separator <+: cs.drop j → j ≤ i

variable {separator cs : List Char}

theorem isInfix_of_drop {j : Nat} (h : separator <+: cs.drop j) : separator <:+: cs :=
  List.infix_iff_prefix_suffix.mpr ⟨_, h, List.drop_suffix j cs⟩

theorem LastAt.cons {i : Nat} (h : LastAt separator cs i) (c : Char) :
    LastAt separator (c :: cs) (i + 1) := by
  refine ⟨h.occurs, ?_⟩
  intro j hj
  cases j with
  | zero => exact Nat.zero_le _
  | succ j => exact Nat.succ_le_succ (h.last j hj)

theorem lastAt_zero {c : Char} (h : separator <+: c :: cs) (hrest : ¬ separator <:+: cs) :
    LastAt separator (c :: cs) 0 := by
  refine ⟨h, ?_⟩
  intro j hj
  cases j with
  | zero => exact Nat.le_refl 0
  | succ j =>
    rw [List.drop_succ_cons] at hj
    exact absurd (isInfix_of_drop hj) hrest

theorem LastAt.add_length_le {i : Nat} (h : LastAt separator cs i) (hne : separator ≠ []) :
    i + separator.length ≤ cs.length := by
  have hlength := h.occurs.length_le
  have hpos := List.length_pos_iff.mpr hne
  rw [List.length_drop] at hlength
  omega

theorem LastAt.isInfix {i : Nat} (h : LastAt separator cs i) : separator <:+: cs :=
  isInfix_of_drop h.occurs

/-- A scan ends with what it had found if the separator does not occur,
and otherwise with its last occurrence. -/
theorem afterLast_go_cases (hne : separator ≠ []) (cs : List Char) (offset : Nat)
    (found : Option Nat) :
    (¬ separator <:+: cs ∧ afterLast.go separator offset found cs = found) ∨
      ∃ i, LastAt separator cs i ∧
        afterLast.go separator offset found cs = some (offset + i + separator.length) := by
  induction cs generalizing offset found with
  | nil => exact .inl ⟨fun h => hne (List.infix_nil.mp h), rfl⟩
  | cons c rest ih =>
    rw [afterLast.go]
    rcases ih (offset + 1) _ with ⟨hrest, hfound⟩ | ⟨i, hi, hfound⟩
    · rw [hfound]
      by_cases hhere : separator <+: c :: rest
      · rw [if_pos (List.isPrefixOf_iff_prefix.mpr hhere)]
        exact .inr ⟨0, lastAt_zero hhere hrest, rfl⟩
      · rw [if_neg (mt List.isPrefixOf_iff_prefix.mp hhere)]
        refine .inl ⟨?_, rfl⟩
        rw [List.infix_cons_iff, not_or]
        exact ⟨hhere, hrest⟩
    · refine .inr ⟨i + 1, hi.cons c, ?_⟩
      rw [hfound]
      congr 1
      omega

theorem afterLast_cases (hne : separator ≠ []) (cs : List Char) :
    (¬ separator <:+: cs ∧ afterLast separator cs = none) ∨
      ∃ i, LastAt separator cs i ∧ afterLast separator cs = some (i + separator.length) := by
  have h := afterLast_go_cases hne cs 0 none
  rw [afterLast]
  simpa only [Nat.zero_add] using h

/-! ## The end of a window -/

/-- The length of a window that may end anywhere in `W`, the text from `lower` characters
after its start up to its full size: it ends after the last empty line of `W`, else after its
last line end, else after its last space. -/
structure BestEnd (W : List Char) (lower size n : Nat) : Prop where
  emptyLine : ['\n', '\n'] <:+: W → ∃ i, LastAt ['\n', '\n'] W i ∧ n = lower + i + 2
  line : ¬ ['\n', '\n'] <:+: W → ['\n'] <:+: W → ∃ i, LastAt ['\n'] W i ∧ n = lower + i + 1
  word : ¬ ['\n', '\n'] <:+: W → ¬ ['\n'] <:+: W → [' '] <:+: W → ∃ i, LastAt [' '] W i ∧
    n = lower + i + 1
  none : ¬ ['\n', '\n'] <:+: W → ¬ ['\n'] <:+: W → ¬ [' '] <:+: W → n = size

variable {W : List Char} {size overlap n : Nat}

theorem bestEnd_nil (lower size : Nat) : BestEnd [] lower size size := by
  have hnone : ∀ {separator : List Char}, separator ≠ [] → ¬ separator <:+: [] := by
    intro separator hne h
    exact hne (List.infix_nil.mp h)
  constructor
  · exact fun h => absurd h (hnone (by simp))
  · exact fun _ h => absurd h (hnone (by simp))
  · exact fun _ _ h => absurd h (hnone (by simp))
  · exact fun _ _ _ => rfl

theorem bestEnd_softEnd {lower : Nat} (h : lower + W.length = size) :
    BestEnd W lower size (softEnd lower W) := by
  unfold softEnd separators
  rcases afterLast_cases (show ['\n', '\n'] ≠ [] by simp) W with ⟨hempty, hnone⟩ | ⟨i, hi, hsome⟩
  · rcases afterLast_cases (show ['\n'] ≠ [] by simp) W with ⟨hline, hnone'⟩ | ⟨i, hi, hsome⟩
    · rcases afterLast_cases (show [' '] ≠ [] by simp) W with ⟨hword, hnone''⟩ | ⟨i, hi, hsome⟩
      · simp only [List.findSome?, hnone, hnone', hnone'']
        exact ⟨fun h => absurd h hempty, fun _ h => absurd h hline, fun _ _ h => absurd h hword,
          fun _ _ _ => h⟩
      · simp only [List.findSome?, hnone, hnone', hsome]
        exact ⟨fun h => absurd h hempty, fun _ h => absurd h hline, fun _ _ _ => ⟨i, hi, rfl⟩,
          fun _ _ h => absurd hi.isInfix h⟩
    · simp only [List.findSome?, hnone, hsome]
      exact ⟨fun h => absurd h hempty, fun _ _ => ⟨i, hi, rfl⟩, fun _ h => absurd hi.isInfix h,
        fun _ h => absurd hi.isInfix h⟩
  · simp only [List.findSome?, hsome]
    exact ⟨fun _ => ⟨i, hi, rfl⟩, fun h => absurd hi.isInfix h, fun h => absurd hi.isInfix h,
      fun h => absurd hi.isInfix h⟩

theorem softEnd_bounds (lower : Nat) (hW : W ≠ []) :
    lower < softEnd lower W ∧ softEnd lower W ≤ lower + W.length := by
  have hpos := List.length_pos_iff.mpr hW
  unfold softEnd
  cases hfound : separators.findSome? fun s => afterLast s W with
  | none =>
    dsimp only
    omega
  | some n =>
    obtain ⟨separator, hmem, hn⟩ := List.exists_of_findSome?_eq_some hfound
    have hne : separator ≠ [] := by
      rintro rfl
      simp [separators] at hmem
    rcases afterLast_cases hne W with ⟨-, hnone⟩ | ⟨i, hi, hsome⟩
    · simp [hnone] at hn
    · have hlength := hi.add_length_le hne
      have hseparator := List.length_pos_iff.mpr hne
      obtain rfl : i + separator.length = n := Option.some.inj (hsome.symm.trans hn)
      dsimp only
      omega

/-! ## The length of a window -/

theorem windowLength_of_le (h : cs.length ≤ size) : windowLength size overlap cs = cs.length := by
  have hdrop : (cs.drop size).isEmpty = true := by simpa using h
  simp only [windowLength, hdrop, if_true, List.length_take]
  omega

theorem windowLength_of_lt (h : size < cs.length) : windowLength size overlap cs =
    if size ≤ earliestEnd size overlap then size
    else softEnd (earliestEnd size overlap) ((cs.take size).drop (earliestEnd size overlap)) := by
  have hdrop : (cs.drop size).isEmpty = false := by simpa using h
  simp only [windowLength, hdrop, Bool.false_eq_true, if_false, ge_iff_le]

/-- A window that stops short of the end of the text has the
best end of the place where it may end. -/
theorem bestEnd_windowLength (overlap : Nat) (h : size < cs.length) :
    BestEnd ((cs.take size).drop (earliestEnd size overlap)) (earliestEnd size overlap) size
      (windowLength size overlap cs) := by
  have hlength : (cs.take size).length = size := List.length_take_of_le h.le
  rw [windowLength_of_lt h]
  split_ifs with hfull
  · rw [List.drop_eq_nil_of_le (by omega)]
    exact bestEnd_nil _ _
  · apply bestEnd_softEnd
    rw [List.length_drop, hlength]
    omega

/-- A window of a text that is not too short for it is longer than the
overlap, and not longer than its full size. -/
theorem windowLength_bounds (hsizes : overlap < size) (h : size ≤ cs.length) :
    overlap < windowLength size overlap cs ∧ windowLength size overlap cs ≤ size := by
  rcases h.eq_or_lt with heq | hlt
  · rw [windowLength_of_le heq.ge]
    omega
  · have hlength : (cs.take size).length = size := List.length_take_of_le h
    rw [windowLength_of_lt hlt]
    split_ifs with hfull
    · omega
    · have hearliest : overlap < earliestEnd size overlap := by
        unfold earliestEnd
        omega
      have hne : (cs.take size).drop (earliestEnd size overlap) ≠ [] := by
        rw [ne_eq, List.drop_eq_nil_iff]
        omega
      have hbounds := softEnd_bounds (earliestEnd size overlap) hne
      rw [List.length_drop, hlength] at hbounds
      omega

/-- The length of a window that stops short of the end of the text does not
depend on what follows its full size. -/
theorem windowLength_append (h : size < cs.length) (more : List Char) :
    windowLength size overlap (cs ++ more) = windowLength size overlap cs := by
  have hlonger : size < (cs ++ more).length := by
    rw [List.length_append]
    omega
  rw [windowLength_of_lt h, windowLength_of_lt hlonger, List.take_append_of_le_length h.le]

/-! ## The cutting of a text -/

/-- The window that is cut off a text at an offset. -/
def windowAt (size overlap : Nat) (text : List Char) (offset : Nat) : List Char :=
  (text.drop offset).take (windowLength size overlap (text.drop offset))

/-- The windows that are cut off a text from an offset on, however many they are: none at the end of
the text, only one if the rest of the text is shorter than a window, and otherwise one and those
that are cut off from `overlap` characters before its end on. -/
inductive Cut (size overlap : Nat) (text : List Char) : Nat → List (Nat × List Char) → Prop where
  | none {offset : Nat} (hend : text.length ≤ offset) : Cut size overlap text offset []
  | last {offset : Nat} (hrest : offset < text.length) (hshort : text.length < offset + size) :
      Cut size overlap text offset [(offset, windowAt size overlap text offset)]
  | more {offset : Nat} {windows : List (Nat × List Char)} (hfull : offset + size ≤ text.length)
      (hnext : Cut size overlap text
      (offset + ((windowAt size overlap text offset).length - overlap)) windows) :
      Cut size overlap text offset ((offset, windowAt size overlap text offset) :: windows)

variable {text : List Char} {offset fuel : Nat}

theorem windowAt_of_le (h : text.length ≤ offset + size) :
    windowAt size overlap text offset = text.drop offset := by
  have hlength : (text.drop offset).length ≤ size := by
    rw [List.length_drop]
    omega
  rw [windowAt, windowLength_of_le hlength, List.take_length]

theorem length_windowAt (hsizes : overlap < size) (h : offset + size ≤ text.length) :
    (windowAt size overlap text offset).length = windowLength size overlap (text.drop offset) := by
  have hlong : size ≤ (text.drop offset).length := by
    rw [List.length_drop]
    omega
  have hbounds := windowLength_bounds hsizes hlong
  exact List.length_take_of_le (hbounds.2.trans hlong)

theorem length_windowAt_bounds (hsizes : overlap < size) (h : offset + size ≤ text.length) :
    overlap < (windowAt size overlap text offset).length ∧
    (windowAt size overlap text offset).length ≤ size := by
  rw [length_windowAt hsizes h]
  apply windowLength_bounds hsizes
  rw [List.length_drop]
  omega

/-- With room for as many windows as the text has characters, the windows of
a text are those that are cut off it. -/
theorem cut_windows (hpos : 0 < overlap) (hsizes : overlap < size)
    (hfuel : text.length < offset + fuel) :
    Cut size overlap text offset (windows size overlap fuel offset (text.drop offset)) := by
  induction fuel generalizing offset with
  | zero => exact .none (by omega)
  | succ fuel ih =>
    rw [windows]
    by_cases hend : text.length ≤ offset
    · rw [if_pos (by simpa using hend)]
      exact .none hend
    rw [if_neg (by simpa using hend)]
    rw [not_le] at hend
    dsimp only
    have hlast : ((text.drop offset).drop (size - 1)).isEmpty = true ↔
        text.length < offset + size := by
      rw [List.isEmpty_iff, List.drop_drop, List.drop_eq_nil_iff]
      omega
    by_cases hshort : text.length < offset + size
    · rw [if_pos (hlast.mpr hshort)]
      exact .last hend hshort
    · rw [not_lt] at hshort
      have hbounds := length_windowAt_bounds hsizes hshort
      rw [if_neg (mt hlast.mp (by omega)), List.drop_drop]
      apply Cut.more hshort
      rw [length_windowAt hsizes hshort] at hbounds ⊢
      apply ih
      omega

end SegmentIndex.Chunk
