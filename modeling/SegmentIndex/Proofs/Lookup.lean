import SegmentIndex.Proofs.Spelling

/-!
# Where the key of a doc string stands

The doc string of a metadata map is looked up in the text of the map: the key stands wherever it is
followed by blanks and a quote. So it is found at the end of every string that ends with the key and
blanks, whose closing quote is then taken for an opening one, and any other string is passed. The
map itself is read with its strings as strings, and ends at the brace behind its entries.
-/
namespace SegmentIndex.Header

open Text (isBlank)

/-! ## The key in a text -/

def docKey : List Char := [':', 'd', 'o', 'c']

/-- Whether a text begins with the key of the doc string, blanks and a quote. -/
def OpensDoc (cs after : List Char) : Prop :=
  ∃ blanks, blanks ≠ [] ∧ (∀ b ∈ blanks, isBlank b = true) ∧ cs = docKey ++ (blanks ++ '"' :: after)

theorem dropBlank_append {blanks : List Char} (h : ∀ b ∈ blanks, isBlank b = true)
    (rest : List Char) :
    Text.dropBlank (blanks ++ rest) = Text.dropBlank rest :=
  List.dropWhile_append_of_pos h

theorem OpensDoc.afterDocKey {cs after : List Char} (h : OpensDoc cs after) :
    afterDocKey cs = some after := by
  obtain ⟨blanks, hne, hblank, rfl⟩ := h
  obtain ⟨b, more, rfl⟩ := List.exists_cons_of_ne_nil hne
  obtain ⟨hb, hmore⟩ := List.forall_mem_cons.mp hblank
  have hdrop : Text.dropBlank (more ++ '"' :: after) = '"' :: after := dropBlank_append hmore _
  show Header.afterDocKey (':' :: 'd' :: 'o' :: 'c' :: b :: (more ++ '"' :: after)) = some after
  rw [Header.afterDocKey]
  simp only [hb, if_true, hdrop]

theorem exists_blanks (cs : List Char) :
    ∃ blanks, (∀ b ∈ blanks, isBlank b = true) ∧ cs = blanks ++ Text.dropBlank cs :=
  ⟨cs.takeWhile isBlank, List.all_eq_true.mp List.all_takeWhile,
    List.takeWhile_append_dropWhile.symm⟩

theorem afterDocKey_of_not_opensDoc {c : Char} {rest : List Char}
    (h : ∀ after, ¬ OpensDoc (c :: rest) after) :
    afterDocKey (c :: rest) = afterDocKey rest := by
  rw [afterDocKey.eq_def]
  dsimp only
  split
  · rename_i after hhere
    split at hhere
    · rename_i b more
      split at hhere
      · rename_i hb
        split at hhere
        · rename_i found hdrop
          obtain ⟨blanks, hblank, hmore⟩ := exists_blanks more
          refine absurd ⟨b :: blanks, List.cons_ne_nil _ _, List.forall_mem_cons.mpr ⟨hb, hblank⟩,
            ?_⟩ (h found)
          rw [hdrop] at hmore
          rw [hmore]
          rfl
        · cases hhere
      · cases hhere
    · cases hhere
  · rfl

theorem afterDocKey_append {skip : List Char} (h : ':' ∉ skip) (rest : List Char) :
    afterDocKey (skip ++ rest) = afterDocKey rest := by
  induction skip with
  | nil => rfl
  | cons c skip ih =>
    obtain ⟨hc, hskip⟩ := not_or.mp (mt List.mem_cons.mpr h)
    rw [List.cons_append, afterDocKey_of_not_opensDoc, ih hskip]
    rintro after ⟨blanks, -, -, heq⟩
    exact hc (List.cons.inj heq).1.symm

/-! ## Strings -/

/-- Whether a text is the key of the doc string with blanks behind it. -/
def IsSpacedKey (v : List Char) : Prop :=
  ∃ blanks, blanks ≠ [] ∧ (∀ b ∈ blanks, isBlank b = true) ∧ v = docKey ++ blanks

/-- Whether a text ends with the key of the doc string and blanks. -/
def EndsInKey (v : List Char) : Prop := ∃ key, IsSpacedKey key ∧ key <:+ v

theorem endsInKey_cons {c : Char} {v : List Char} :
    EndsInKey (c :: v) ↔ IsSpacedKey (c :: v) ∨ EndsInKey v := by
  constructor
  · rintro ⟨key, hkey, hsuffix⟩
    rcases List.suffix_cons_iff.mp hsuffix with rfl | hsuffix
    · exact .inl hkey
    · exact .inr ⟨key, hkey, hsuffix⟩
  · rintro (hkey | ⟨key, hkey, hsuffix⟩)
    · exact ⟨_, hkey, List.suffix_refl _⟩
    · exact ⟨key, hkey, hsuffix.trans (List.suffix_cons c v)⟩

theorem IsSpacedKey.not_isMark {v : List Char} (h : IsSpacedKey v) : ∀ c ∈ v, ¬ IsMark c := by
  obtain ⟨blanks, -, hblank, rfl⟩ := h
  intro c hc
  rcases List.mem_append.mp hc with hc | hc
  · have hplain : ∀ c ∈ docKey, ¬ IsMark c := by simp [docKey, IsMark]
    exact hplain c hc
  · rintro (rfl | rfl) <;> exact absurd (hblank _ hc) (by decide)

/-- What precedes the first quote that no backslash stands in front of is what was written. -/
theorem eq_of_escape_append {v w rest after : List Char} (hw : ∀ c ∈ w, ¬ IsMark c)
    (h : escape v ++ '"' :: rest = w ++ '"' :: after) : v = w ∧ rest = after := by
  induction w generalizing v with
  | nil =>
    cases v with
    | nil => exact ⟨rfl, (List.cons.inj h).2⟩
    | cons c v =>
      by_cases hc : IsMark c
      · rw [escape_mark hc] at h
        exact absurd (List.cons.inj h).1 (by decide)
      · rw [escape_plain hc] at h
        exact absurd (Or.inl (List.cons.inj h).1) hc
  | cons d w ih =>
    obtain ⟨hd, hplain⟩ := List.forall_mem_cons.mp hw
    cases v with
    | nil => exact absurd (Or.inl (List.cons.inj h).1.symm) hd
    | cons c v =>
      by_cases hc : IsMark c
      · rw [escape_mark hc] at h
        exact absurd (Or.inr (List.cons.inj h).1.symm) hd
      · rw [escape_plain hc] at h
        obtain ⟨rfl, hrest⟩ := List.cons.inj h
        obtain ⟨rfl, rfl⟩ := ih hplain hrest
        exact ⟨rfl, rfl⟩

theorem IsSpacedKey.opensDoc {v : List Char} (h : IsSpacedKey v) (rest : List Char) :
    OpensDoc (escape v ++ '"' :: rest) rest := by
  rw [escape_eq_self h.not_isMark]
  obtain ⟨blanks, hne, hblank, rfl⟩ := h
  exact ⟨blanks, hne, hblank, List.append_assoc ..⟩

theorem isSpacedKey_of_opensDoc {v rest after : List Char}
    (h : OpensDoc (escape v ++ '"' :: rest) after) :
    IsSpacedKey v := by
  obtain ⟨blanks, hne, hblank, heq⟩ := h
  have hkey : IsSpacedKey (docKey ++ blanks) := ⟨blanks, hne, hblank, rfl⟩
  rw [← List.append_assoc] at heq
  exact (eq_of_escape_append hkey.not_isMark heq).1 ▸ hkey

theorem EndsInKey.exists_last {v : List Char} (h : EndsInKey v) :
    ∃ b, v.getLast? = some b ∧ isBlank b = true := by
  obtain ⟨key, ⟨blanks, hne, hblank, rfl⟩, front, rfl⟩ := h
  refine ⟨blanks.getLast hne, ?_, hblank _ (List.getLast_mem hne)⟩
  rw [List.getLast?_append, List.getLast?_append, List.getLast?_eq_some_getLast hne]
  rfl

/-- In a string that ends with the key and blanks the key is found, and the closing quote is taken
for an opening one; any other string is passed. -/
theorem afterDocKey_escape (v rest : List Char) :
    (EndsInKey v ∧ afterDocKey (escape v ++ '"' :: rest) = some rest) ∨
      (¬ EndsInKey v ∧ afterDocKey (escape v ++ '"' :: rest) = afterDocKey rest) := by
  induction v with
  | nil =>
    refine .inr ⟨?_, @afterDocKey_append ['"'] (by decide) rest⟩
    rintro ⟨key, ⟨blanks, -, -, rfl⟩, hsuffix⟩
    exact absurd (List.suffix_nil.mp hsuffix) (List.cons_ne_nil _ _)
  | cons c v ih =>
    rw [endsInKey_cons]
    by_cases hkey : IsSpacedKey (c :: v)
    · exact .inl ⟨.inl hkey, (hkey.opensDoc rest).afterDocKey⟩
    · have hskip : afterDocKey (escape (c :: v) ++ '"' :: rest) =
          afterDocKey (escape v ++ '"' :: rest) := by
        by_cases hc : IsMark c
        · rw [escape_mark hc]
          apply @afterDocKey_append ['\\', c]
          rcases hc with rfl | rfl <;> decide
        · have hopens : ∀ after, ¬ OpensDoc (escape (c :: v) ++ '"' :: rest) after :=
            fun _ h => hkey (isSpacedKey_of_opensDoc h)
          rw [escape_plain hc] at hopens ⊢
          exact afterDocKey_of_not_opensDoc hopens
      rw [hskip, or_iff_right hkey]
      exact ih

/-! ## The end of a map -/

/-- Text in which every brace stands in a string. -/
inductive Flat : List Char → Prop
  | nil : Flat []
  | plain {c : Char} {rest : List Char} (hc : c ∉ ['"', '\x7b', '\x7d']) (h : Flat rest) :
    Flat (c :: rest)
  | string (v : List Char) {rest : List Char} (h : Flat rest) :
    Flat ('"' :: (escape v ++ '"' :: rest))

theorem Flat.append {cs rest : List Char} (h : Flat cs) (hr : Flat rest) : Flat (cs ++ rest) := by
  induction h with
  | nil => exact hr
  | plain hc _ ih => exact .plain hc ih
  | string v _ ih =>
    rw [List.cons_append, List.append_assoc]
    exact .string v ih

theorem flat_of_plain {cs : List Char} (h : ∀ c ∈ ['"', '\x7b', '\x7d'], c ∉ cs) : Flat cs := by
  induction cs with
  | nil => exact .nil
  | cons d cs ih =>
    refine .plain (fun hd => h d hd List.mem_cons_self) (ih ?_)
    intro c hc hmem
    exact h c hc (List.mem_cons_of_mem d hmem)

theorem Flat.splitMap_append {cs : List Char} (h : Flat cs) (rest : List Char) (more : Nat) :
    splitMap (cs.length + more + 1) 1 (cs ++ '\x7d' :: rest) = (cs ++ ['\x7d'], rest) := by
  induction h generalizing more with
  | nil => simp [splitMap]
  | @plain c cs hc h ih =>
    simp only [List.mem_cons, List.not_mem_nil, or_false, not_or] at hc
    obtain ⟨hquote, hopen, hclose⟩ := hc
    have hlength : (c :: cs).length + more + 1 = (cs.length + more + 1) + 1 := by
      rw [List.length_cons]
      omega
    rw [hlength, List.cons_append, splitMap, if_neg hquote, if_neg hopen, if_neg hclose, ih]
    rfl
  | @string v cs h ih =>
    -- a string takes one step, however long it is
    have hlength : ('"' :: (escape v ++ '"' :: cs)).length + more + 1 =
        (cs.length + ((escape v).length + 1 + more) + 1) + 1 := by
      simp only [List.length_cons, List.length_append]
      omega
    rw [hlength, List.cons_append, List.append_assoc, List.cons_append, splitMap, if_pos rfl,
      splitString_escape]
    dsimp only
    rw [ih]
    simp

end SegmentIndex.Header
