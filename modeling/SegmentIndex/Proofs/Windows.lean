import SegmentIndex.Proofs.Cutting

/-!
# What the windows of a text hold

The windows of a text cover it without gaps: each is a slice of the text, each begins `overlap`
characters before the end of the one before it, and what they add to one another is the text. They
end where the cutting says, and as long as windows stop short of the end of the text they stay as
they are when the text goes on.
-/
namespace SegmentIndex.Chunk

variable {size overlap offset : Nat} {text more : List Char} {c : Nat × List Char}
  {windows windows' : List (Nat × List Char)}

/-! ## One window after another -/

/-- A window that does not reach the end of the text is followed by one that begins later, within
the text and `overlap` characters before its end. -/
theorem next_bounds (hpos : 0 < overlap) (hsizes : overlap < size)
    (hfull : offset + size ≤ text.length) :
    offset < offset + ((windowAt size overlap text offset).length - overlap) ∧
      offset + ((windowAt size overlap text offset).length - overlap) < text.length ∧
      offset + ((windowAt size overlap text offset).length - overlap) + overlap =
        offset + (windowAt size overlap text offset).length ∧
      offset + (windowAt size overlap text offset).length ≤ text.length := by
  have hbounds := length_windowAt_bounds hsizes hfull
  omega

theorem Cut.exists_cons (h : Cut size overlap text offset windows)
    (hoffset : offset < text.length) :
    ∃ rest, windows = (offset, windowAt size overlap text offset) :: rest := by
  cases h with
  | none hend => omega
  | last => exact ⟨[], rfl⟩
  | more => exact ⟨_, rfl⟩

/-- Each window is the one that is cut off at its offset, and none begins at the end of the text. -/
theorem Cut.of_mem (h : Cut size overlap text offset windows) (hsizes : overlap < size)
    (hc : c ∈ windows) :
    offset ≤ c.1 ∧ c.1 < text.length ∧ c.2 = windowAt size overlap text c.1 := by
  induction h with
  | none => cases hc
  | last hrest =>
    rw [List.mem_singleton.mp hc]
    exact ⟨Nat.le_refl _, hrest, rfl⟩
  | more hfull hnext ih =>
    rcases List.mem_cons.mp hc with rfl | hc
    · refine ⟨Nat.le_refl _, ?_, rfl⟩
      dsimp only
      omega
    · obtain ⟨hle, hlt, hwindow⟩ := ih hc
      exact ⟨by omega, hlt, hwindow⟩

/-- A window within the text is a slice of it that is neither empty nor too long. -/
theorem windowAt_slice (hsizes : overlap < size) (h : offset < text.length) :
    windowAt size overlap text offset ≠ [] ∧ (windowAt size overlap text offset).length ≤ size ∧
      windowAt size overlap text offset =
        (text.drop offset).take (windowAt size overlap text offset).length := by
  have hlength : 0 < (windowAt size overlap text offset).length ∧
      (windowAt size overlap text offset).length ≤ size := by
    rcases Nat.le_total text.length (offset + size) with hshort | hfull
    · rw [windowAt_of_le hshort, List.length_drop]
      omega
    · have hbounds := length_windowAt_bounds hsizes hfull
      omega
  refine ⟨List.length_pos_iff.mp hlength.1, hlength.2, ?_⟩
  rw [windowAt, List.length_take]
  exact List.take_eq_take_min ..

/-! ## All windows -/

theorem Cut.ascending (h : Cut size overlap text offset windows) (hpos : 0 < overlap)
    (hsizes : overlap < size) :
    windows.Pairwise fun c d => c.1 < d.1 := by
  induction h with
  | none => exact .nil
  | last => exact List.pairwise_singleton _ _
  | more hfull hnext ih =>
    refine .cons ?_ ih
    intro d hd
    have hlater := (hnext.of_mem hsizes hd).1
    have hbounds := next_bounds hpos hsizes hfull
    dsimp only
    omega

theorem Cut.isChain (h : Cut size overlap text offset windows) (hpos : 0 < overlap)
    (hsizes : overlap < size) :
    windows.IsChain fun c d => d.1 + overlap = c.1 + c.2.length := by
  induction h with
  | none => exact .nil
  | last => exact List.isChain_singleton _
  | more hfull hnext ih =>
    have hbounds := next_bounds hpos hsizes hfull
    obtain ⟨rest, rfl⟩ := hnext.exists_cons hbounds.2.1
    exact List.isChain_cons_cons.mpr ⟨hbounds.2.2.1, ih⟩

/-- From an offset on with `overlap` characters after it, every window has so many. -/
theorem Cut.overlap_le (h : Cut size overlap text offset windows) (hpos : 0 < overlap)
    (hsizes : overlap < size)
    (hroom : offset + overlap ≤ text.length) (hc : c ∈ windows) : overlap ≤ c.2.length := by
  induction h with
  | none => cases hc
  | last hrest hshort =>
    rw [List.mem_singleton.mp hc]
    dsimp only
    rw [windowAt_of_le hshort.le, List.length_drop]
    omega
  | more hfull hnext ih =>
    have hbounds := next_bounds hpos hsizes hfull
    rcases List.mem_cons.mp hc with rfl | hc
    · dsimp only
      omega
    · exact ih (by omega) hc

theorem Cut.reaches (h : Cut size overlap text offset windows) (hpos : 0 < overlap)
    (hsizes : overlap < size) (hc : c ∈ windows.getLast?) : c.1 + c.2.length = text.length := by
  induction h with
  | none => cases hc
  | last hrest hshort =>
    rw [List.getLast?_singleton, Option.mem_some_iff] at hc
    subst hc
    rw [windowAt_of_le hshort.le, List.length_drop]
    omega
  | more hfull hnext ih =>
    have hbounds := next_bounds hpos hsizes hfull
    obtain ⟨rest, rfl⟩ := hnext.exists_cons hbounds.2.1
    rw [List.getLast?_cons_cons] at hc
    exact ih hc

/-- The windows without their first `overlap` characters are together the text after these. -/
theorem Cut.flatMap_drop (h : Cut size overlap text offset windows) (hpos : 0 < overlap)
    (hsizes : overlap < size) (hroom : offset + overlap ≤ text.length) :
    windows.flatMap (fun c => c.2.drop overlap) = text.drop (offset + overlap) := by
  induction h with
  | none hend => omega
  | last hrest hshort => simp [windowAt_of_le hshort.le]
  | @more offset windows hfull hnext ih =>
    have hbounds := next_bounds hpos hsizes hfull
    obtain ⟨-, -, hslice⟩ := windowAt_slice hsizes (show offset < text.length by omega)
    rw [List.flatMap_cons, ih (by omega), hbounds.2.2.1]
    generalize windowAt size overlap text offset = window at hbounds hslice
    calc window.drop overlap ++ text.drop (offset + window.length)
        = (window ++ (text.drop offset).drop window.length).drop overlap := by
          rw [List.drop_append_of_le_length (by omega), List.drop_drop]
      _ = ((text.drop offset).take window.length ++ (text.drop offset).drop window.length).drop
        overlap := by
          rw [← hslice]
      _ = text.drop (offset + overlap) := by rw [List.take_append_drop, List.drop_drop]

theorem Cut.isLast_iff (h : Cut size overlap text offset windows) (hpos : 0 < overlap)
    (hsizes : overlap < size)
    {i : Nat} (hc : windows[i]? = some c) : text.length < c.1 + size ↔ i + 1 = windows.length := by
  induction h generalizing i with
  | none => simp at hc
  | last hrest hshort =>
    cases i with
    | zero =>
      obtain rfl := Option.some.inj hc
      exact iff_of_true hshort rfl
    | succ i => simp at hc
  | more hfull hnext ih =>
    have hbounds := next_bounds hpos hsizes hfull
    cases i with
    | zero =>
      obtain rfl := Option.some.inj hc
      obtain ⟨rest, rfl⟩ := hnext.exists_cons hbounds.2.1
      simp only [List.length_cons]
      omega
    | succ i =>
      rw [List.getElem?_cons_succ] at hc
      rw [ih hc, List.length_cons]
      omega

/-! ## The whole text -/

/-- Windows that cover a text: none if it is empty, and otherwise slices of it, the first at
its start, each later one `overlap` characters before the end of the one before it, that
reach its end and together give it back. -/
structure Covers (size overlap : Nat) (text : List Char) (windows : List (Nat × List Char)) :
    Prop where
  eq_nil_iff : windows = [] ↔ text = []
  first : ∀ c ∈ windows.head?, c.1 = 0
  ascending : windows.Pairwise fun c d => c.1 < d.1
  slice : ∀ c ∈ windows, c.2 ≠ [] ∧ c.2.length ≤ size ∧ c.2 = (text.drop c.1).take c.2.length
  next : windows.IsChain fun c d => d.1 + overlap = c.1 + c.2.length
  overlaps : ∀ c ∈ windows.tail, overlap ≤ c.2.length
  reaches : ∀ c ∈ windows.getLast?, c.1 + c.2.length = text.length
  joined : (windows.head?.elim [] fun c => c.2) ++
    windows.tail.flatMap (fun c => c.2.drop overlap) = text

theorem Cut.exists_first (h : Cut size overlap text offset windows) (hpos : 0 < overlap)
    (hsizes : overlap < size) (hoffset : offset < text.length) :
    ∃ rest, windows = (offset, windowAt size overlap text offset) :: rest ∧
    (∀ c ∈ rest, overlap ≤ c.2.length) ∧
      windowAt size overlap text offset ++ rest.flatMap (fun c => c.2.drop overlap) =
        text.drop offset := by
  cases h with
  | none hend => omega
  | last hrest hshort => exact ⟨[], rfl, by simp, by simp [windowAt_of_le hshort.le]⟩
  | more hfull hnext =>
    have hbounds := next_bounds hpos hsizes hfull
    have hroom := hbounds.2.2.1.trans_le hbounds.2.2.2
    obtain ⟨-, -, hslice⟩ := windowAt_slice hsizes hoffset
    refine ⟨_, rfl, fun c hc => hnext.overlap_le hpos hsizes hroom hc, ?_⟩
    rw [hnext.flatMap_drop hpos hsizes hroom, hbounds.2.2.1]
    generalize windowAt size overlap text offset = window at hslice
    calc window ++ text.drop (offset + window.length)
        = (text.drop offset).take window.length ++ (text.drop offset).drop window.length := by
          rw [← hslice, List.drop_drop]
      _ = text.drop offset := List.take_append_drop ..

theorem Cut.covers (h : Cut size overlap text 0 windows) (hpos : 0 < overlap)
    (hsizes : overlap < size) :
    Covers size overlap text windows := by
  by_cases hempty : text = []
  · subst hempty
    cases h with
    | none => constructor <;> simp
    | last hrest => simp at hrest
    | more hfull =>
      rw [List.length_nil] at hfull
      omega
  have hlength := List.length_pos_iff.mpr hempty
  obtain ⟨rest, heq, hoverlaps, hjoined⟩ := h.exists_first hpos hsizes hlength
  constructor
  · rw [heq]
    simp [hempty]
  · intro c hc
    rw [heq, List.head?_cons, Option.mem_some_iff] at hc
    rw [← hc]
  · exact h.ascending hpos hsizes
  · intro c hc
    obtain ⟨-, hlt, hwindow⟩ := h.of_mem hsizes hc
    rw [hwindow]
    exact windowAt_slice hsizes hlt
  · exact h.isChain hpos hsizes
  · rw [heq]
    exact hoverlaps
  · intro c hc
    exact h.reaches hpos hsizes hc
  · rw [heq]
    exact hjoined

/-- Windows that are read as the characters they hold. -/
def characters (chunks : List (Nat × String)) : List (Nat × List Char) :=
  chunks.map fun c => (c.1, c.2.toList)

theorem characters_take (cs : List (Nat × String)) (k : Nat) :
    characters (cs.take k) = (characters cs).take k :=
  List.map_take

theorem characters_injective : Function.Injective characters := by
  apply List.map_injective_iff.mpr
  intro c c' h
  obtain ⟨hoffset, htext⟩ := Prod.mk.inj h
  exact Prod.ext hoffset (String.toList_inj.mp htext)

theorem characters_chunks (size overlap : Nat) (text : String) :
    characters (chunks size overlap text) =
    Chunk.windows size overlap (text.length + 1) 0 text.toList := by
  simp [characters, chunks, List.map_map, Function.comp_def]

theorem cut_chunks (hpos : 0 < overlap) (hsizes : overlap < size) (text : String) :
    Cut size overlap text.toList 0 (characters (chunks size overlap text)) := by
  rw [characters_chunks]
  apply cut_windows hpos hsizes
  rw [String.length_toList]
  omega

theorem chunkText_eq (hpos : 0 < overlap) (hsizes : overlap < size) (text : String) :
    chunkText size overlap text = .ok (chunks size overlap text) := by
  unfold chunkText
  rw [if_neg (by omega), if_neg (by omega), if_neg (by omega)]
  rfl

/-- The cutting of any text comes to its end, and what is cut off covers the text. -/
theorem chunkText_covers (hpos : 0 < overlap) (hsizes : overlap < size) (text : String) :
    ∃ cs, chunkText size overlap text = .ok cs ∧ Cut size overlap text.toList 0 (characters cs) ∧
      Covers size overlap text.toList (characters cs) := by
  have hcut := cut_chunks hpos hsizes text
  exact ⟨_, chunkText_eq hpos hsizes text, hcut, hcut.covers hpos hsizes⟩

/-- A text with an empty line, a line end, spaces and a long word. -/
def sample : String := "ab \n\ncd ef\ngh ijklmnopq"

/-- Its windows, which end after the empty line, after a space, after the
line end, after a space, and in the word. -/
def sampleWindows : List (Nat × String) :=
  [(0, "ab \n\n"), (3, "\n\ncd "), (6, "d ef\n"), (9, "f\ngh "), (12, "h ijkl"), (16, "klmnop"),
   (20, "opq")]

theorem chunkText_sample : chunkText 6 2 sample = .ok sampleWindows := by decide

theorem covers_sample : 0 < 2 ∧ 2 < 6 ∧ ∃ cs, chunkText 6 2 sample = .ok cs ∧ cs = sampleWindows ∧
    Cut 6 2 sample.toList 0 (characters cs) ∧ Covers 6 2 sample.toList (characters cs) := by
  obtain ⟨cs, hcs, hcut, hcovers⟩ :=
    chunkText_covers (show 0 < 2 by decide) (show 2 < 6 by decide) sample
  exact ⟨by decide, by decide, cs, hcs, Except.ok.inj (hcs.symm.trans chunkText_sample),
    hcut, hcovers⟩

/-! ## A text that goes on -/

theorem windowAt_append (hsizes : overlap < size) (h : offset + size < text.length)
    (more : List Char) :
    windowAt size overlap (text ++ more) offset = windowAt size overlap text offset := by
  have hlong : size < (text.drop offset).length := by
    rw [List.length_drop]
    omega
  have hbounds := windowLength_bounds hsizes hlong.le
  unfold windowAt
  rw [List.drop_append_of_le_length (by omega), windowLength_append hlong,
    List.take_append_of_le_length (by omega)]

/-- The first windows of a text are also those of a longer one, as long as
they stop short of the end of the text. -/
theorem Cut.take_append (h : Cut size overlap text offset windows)
    (h' : Cut size overlap (text ++ more) offset windows') (hsizes : overlap < size) {k : Nat}
    (hk : k < windows.length) (hshort : ∀ c ∈ windows.take (k + 1), c.1 + size < text.length) :
    windows'.take (k + 1) = windows.take (k + 1) := by
  induction h generalizing windows' k with
  | none => simp at hk
  | last hrest hbeyond =>
    have hfirst := hshort _ List.mem_cons_self
    dsimp only at hfirst
    omega
  | @more offset windows hfull hnext ih =>
    have hfirst : offset + size < text.length := hshort _ List.mem_cons_self
    have hlonger : offset + size < (text ++ more).length := by
      rw [List.length_append]
      omega
    cases h' with
    | none => omega
    | last => omega
    | more hfull' hnext' =>
      rw [windowAt_append hsizes hfirst] at hnext' ⊢
      rw [List.take_succ_cons, List.take_succ_cons, List.cons_inj_right]
      cases k with
      | zero => rfl
      | succ k =>
        apply ih hnext'
        · exact Nat.lt_of_succ_lt_succ hk
        · intro c hc
          exact hshort c (List.mem_cons_of_mem _ hc)

/-- Windows that stop short of the end of a text do not change when the text goes on. -/
theorem chunkText_append (hpos : 0 < overlap) (hsizes : overlap < size) (t u : String) :
    ∃ cs cs', chunkText size overlap t = .ok cs ∧ chunkText size overlap (t ++ u) = .ok cs' ∧
      ∀ k < cs.length, (∀ c ∈ cs.take (k + 1), c.1 + size < t.length) →
        cs'.take (k + 1) = cs.take (k + 1) := by
  refine ⟨_, _, chunkText_eq hpos hsizes t, chunkText_eq hpos hsizes (t ++ u), ?_⟩
  intro k hk hshort
  have hcut := cut_chunks hpos hsizes t
  have hcut' := cut_chunks hpos hsizes (t ++ u)
  rw [String.toList_append] at hcut'
  apply characters_injective
  rw [characters_take, characters_take]
  apply hcut.take_append hcut' hsizes
  · rwa [characters, List.length_map]
  · intro c hc
    rw [← characters_take] at hc
    obtain ⟨chunk, hchunk, rfl⟩ := List.mem_map.mp hc
    rw [String.length_toList]
    exact hshort chunk hchunk

/-- Of the windows of the text five stop short of its end, so they stay when it goes on. -/
theorem append_sample : 0 < 2 ∧ 2 < 6 ∧ 4 < sampleWindows.length ∧
    (∀ c ∈ sampleWindows.take 5, c.1 + 6 < sample.length) ∧
    ∃ cs, chunkText 6 2 (sample ++ "\n\nr") = .ok cs ∧ cs.take 5 = sampleWindows.take 5 := by
  have hshort : ∀ c ∈ sampleWindows.take 5, c.1 + 6 < sample.length := by decide
  obtain ⟨cs, cs', hcs, hcs', hsame⟩ :=
    chunkText_append (show 0 < 2 by decide) (show 2 < 6 by decide) sample "\n\nr"
  obtain rfl := Except.ok.inj (hcs.symm.trans chunkText_sample)
  exact ⟨by decide, by decide, by decide, hshort, cs', hcs', hsame 4 (by decide) hshort⟩

/-! ## The ends of windows -/

/-- A window ends at the best place if there is text after its full size, and else at the end of the
text; and only the last window could reach beyond the text. -/
theorem chunkText_ends (hpos : 0 < overlap) (hsizes : overlap < size) (text : String) :
    ∃ cs, chunkText size overlap text = .ok cs ∧
      (∀ c ∈ cs, c.1 + size < text.length →
        BestEnd ((text.toList.take (c.1 + size)).drop (c.1 + max (overlap + 1) (size / 2)))
          (max (overlap + 1) (size / 2)) size c.2.length) ∧
      (∀ c ∈ cs, text.length ≤ c.1 + size → c.1 + c.2.length = text.length) ∧
      ∀ i c, cs[i]? = some c → (text.length < c.1 + size ↔ i + 1 = cs.length) := by
  have hcut := cut_chunks hpos hsizes text
  have hlength := String.length_toList (s := text)
  have hwindow : ∀ c ∈ chunks size overlap text,
      c.2.toList = windowAt size overlap text.toList c.1 := by
    intro c hc
    exact (hcut.of_mem hsizes (List.mem_map_of_mem hc)).2.2
  refine ⟨_, chunkText_eq hpos hsizes text, ?_, ?_, ?_⟩
  · intro c hc hlt
    have hlong : size < (text.toList.drop c.1).length := by
      rw [List.length_drop]
      omega
    have hbest := bestEnd_windowLength overlap hlong
    rw [List.take_drop, List.drop_drop] at hbest
    rw [← String.length_toList, hwindow c hc, length_windowAt hsizes (by omega)]
    exact hbest
  · intro c hc hle
    obtain ⟨-, hlt, -⟩ := hcut.of_mem hsizes (List.mem_map_of_mem hc)
    rw [← String.length_toList, hwindow c hc, windowAt_of_le (by omega), List.length_drop]
    dsimp only at hlt
    omega
  · intro i c hc
    have hc' : (characters (chunks size overlap text))[i]? = some (c.1, c.2.toList) := by
      rw [characters, List.getElem?_map, hc]
      rfl
    have hlast := hcut.isLast_iff hpos hsizes hc'
    rwa [hlength, characters, List.length_map] at hlast

theorem ends_sample : 0 < 2 ∧ 2 < 6 ∧ ∃ cs, chunkText 6 2 sample = .ok cs ∧ cs = sampleWindows ∧
    (∀ c ∈ cs, c.1 + 6 < sample.length →
      BestEnd ((sample.toList.take (c.1 + 6)).drop (c.1 + max (2 + 1) (6 / 2)))
        (max (2 + 1) (6 / 2)) 6 c.2.length) ∧
    (∀ c ∈ cs, sample.length ≤ c.1 + 6 → c.1 + c.2.length = sample.length) ∧
    ∀ i c, cs[i]? = some c → (sample.length < c.1 + 6 ↔ i + 1 = cs.length) := by
  obtain ⟨cs, hcs, hends⟩ := chunkText_ends (show 0 < 2 by decide) (show 2 < 6 by decide) sample
  exact ⟨by decide, by decide, cs, hcs, Except.ok.inj (hcs.symm.trans chunkText_sample), hends⟩

end SegmentIndex.Chunk
