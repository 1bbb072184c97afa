import SegmentIndex.Header.Form
import Mathlib.Tactic

/-!
# How forms are written

The parts of a namespace form, as they are written: a text between quotes, a name, the gap between
two parts, and the lines in front of the form. Each scanner passes the part that it is there for and
stops where that part ends, whatever the part holds and whatever follows it: a quoted text is read
back, a gap and a name are passed as a whole, and lines in front open no form.
-/
namespace SegmentIndex.Header

open Text (isBlank)

/-! ## Texts between quotes -/

/-- Whether a character stands behind a backslash between quotes. -/
def IsMark (c : Char) : Prop := c = '"' ∨ c = '\\'

instance : DecidablePred IsMark := fun c => inferInstanceAs (Decidable (c = '"' ∨ c = '\\'))

/-- A text as it is written between quotes. -/
def escape : List Char → List Char
  | [] => []
  | c :: rest => if IsMark c then '\\' :: c :: escape rest else c :: escape rest

theorem escape_mark {c : Char} (h : IsMark c) (rest : List Char) :
    escape (c :: rest) = '\\' :: c :: escape rest := by
  rw [escape, if_pos h]

theorem escape_plain {c : Char} (h : ¬ IsMark c) (rest : List Char) :
    escape (c :: rest) = c :: escape rest := by
  rw [escape, if_neg h]

theorem unescape_mark {c : Char} (h : IsMark c) : unescape c = c := by
  rcases h with rfl | rfl <;> rfl

theorem readString_plain {c : Char} (h : ¬ IsMark c) (rest : List Char) :
    readString (c :: rest) = (readString rest).map fun (s, r) => (c :: s, r) := by
  obtain ⟨hquote, hbackslash⟩ := not_or.mp h
  simp [readString, hquote, hbackslash]

theorem splitString_plain {c : Char} (h : ¬ IsMark c) (rest : List Char) :
    splitString (c :: rest) = (c :: (splitString rest).1, (splitString rest).2) := by
  obtain ⟨hquote, hbackslash⟩ := not_or.mp h
  simp [splitString, hquote, hbackslash]

/-- A text that is written between quotes is read back, up to its closing quote. -/
theorem readString_escape (s rest : List Char) :
    readString (escape s ++ '"' :: rest) = some (s, rest) := by
  induction s with
  | nil => simp [escape, readString]
  | cons c s ih =>
    by_cases h : IsMark c
    · rw [escape_mark h, List.cons_append, List.cons_append, readString, ih, Option.map_some,
        unescape_mark h]
    · rw [escape_plain h, List.cons_append, readString_plain h, ih, Option.map_some]

theorem splitString_escape (s rest : List Char) :
    splitString (escape s ++ '"' :: rest) = (escape s ++ ['"'], rest) := by
  induction s with
  | nil => simp [escape, splitString]
  | cons c s ih =>
    by_cases h : IsMark c
    · rw [escape_mark h, List.cons_append, List.cons_append, splitString, ih]
      rfl
    · rw [escape_plain h, List.cons_append, splitString_plain h, ih]
      rfl

theorem escape_eq_self {s : List Char} (h : ∀ c ∈ s, ¬ IsMark c) : escape s = s := by
  induction s with
  | nil => rfl
  | cons c s ih =>
    obtain ⟨hc, hs⟩ := List.forall_mem_cons.mp h
    rw [escape_plain hc, ih hs]

/-! ## Gaps -/

/-- Text that separates the parts of a form: blanks, commas,
and comments with the end of their line. -/
inductive Gap : List Char → Prop
  | nil : Gap []
  | blank {c : Char} {gap : List Char} (hc : isBlank c = true) (h : Gap gap) : Gap (c :: gap)
  | comma {gap : List Char} (h : Gap gap) : Gap (',' :: gap)
  | comment {text gap : List Char} (ht : '\n' ∉ text) (h : Gap gap) :
    Gap (';' :: (text ++ '\n' :: gap))

theorem skipComment_append {text : List Char} (h : '\n' ∉ text) (rest : List Char) :
    skipBlank.skipComment (text ++ '\n' :: rest) = skipBlank rest := by
  induction text with
  | nil => rw [List.nil_append, skipBlank.skipComment, if_pos rfl]
  | cons c text ih =>
    obtain ⟨hc, ht⟩ := not_or.mp (mt List.mem_cons.mpr h)
    rw [List.cons_append, skipBlank.skipComment, if_neg (Ne.symm hc), ih ht]

theorem Gap.skipBlank_append {gap : List Char} (h : Gap gap) (rest : List Char) :
    skipBlank (gap ++ rest) = skipBlank rest := by
  induction h with
  | nil => rfl
  | @blank c gap hc _ ih => rw [List.cons_append, skipBlank, if_pos (by simp [hc]), ih]
  | @comma gap _ ih => rw [List.cons_append, skipBlank, if_pos (by simp), ih]
  | @comment text gap ht _ ih =>
    rw [List.cons_append, List.append_assoc, List.cons_append, skipBlank, if_neg (by decide),
      if_pos rfl, skipComment_append ht, ih]

/-! ## Names -/

theorem isSymbolChar_iff {c : Char} :
    isSymbolChar c = true ↔ isBlank c = false ∧ c ∉ nameStops := by
  simp [isSymbolChar]

/-- Whether a text can be the name of a form: it is not empty, and has no blanks
and none of the marks that end a name. -/
def IsName (name : List Char) : Prop := name ≠ [] ∧ ∀ c ∈ name, isSymbolChar c = true

def EndsName (rest : List Char) : Prop := ∀ c ∈ rest.head?, isSymbolChar c = false

theorem endsName_cons {c : Char} (h : isSymbolChar c = false) (rest : List Char) :
    EndsName (c :: rest) := by
  intro d hd
  rw [List.head?_cons, Option.mem_some_iff] at hd
  exact hd ▸ h

theorem isSymbolChar_of_isBlank {c : Char} (h : isBlank c = true) : isSymbolChar c = false := by
  rw [isSymbolChar, h]
  rfl

theorem Gap.endsName {gap : List Char} (h : Gap gap) {rest : List Char} (hr : EndsName rest) :
    EndsName (gap ++ rest) := by
  cases h with
  | nil => exact hr
  | blank hc _ => exact endsName_cons (isSymbolChar_of_isBlank hc) _
  | comma _ => exact endsName_cons (by decide) _
  | comment _ _ => exact endsName_cons (by decide) _

theorem takeWhile_of_endsName {rest : List Char} (h : EndsName rest) :
    rest.takeWhile isSymbolChar = [] := by
  cases rest with
  | nil => rfl
  | cons c rest => rw [List.takeWhile_cons, h c rfl]; rfl

theorem dropWhile_of_endsName {rest : List Char} (h : EndsName rest) :
    rest.dropWhile isSymbolChar = rest := by
  cases rest with
  | nil => rfl
  | cons c rest => rw [List.dropWhile_cons, h c rfl]; rfl

theorem IsName.takeWhile {name rest : List Char} (h : IsName name) (hr : EndsName rest) :
    (name ++ rest).takeWhile isSymbolChar = name := by
  rw [List.takeWhile_append_of_pos h.2, takeWhile_of_endsName hr, List.append_nil]

theorem IsName.dropWhile {name rest : List Char} (h : IsName name) (hr : EndsName rest) :
    (name ++ rest).dropWhile isSymbolChar = rest := by
  rw [List.dropWhile_append_of_pos h.2, dropWhile_of_endsName hr]

theorem IsName.exists_head {name : List Char} (h : IsName name) :
    ∃ c rest, name = c :: rest ∧ isBlank c = false ∧ c ≠ ',' ∧ c ≠ ';' ∧ c ≠ '^' := by
  obtain ⟨c, rest, rfl⟩ := List.exists_cons_of_ne_nil h.1
  obtain ⟨hb, hs⟩ := isSymbolChar_iff.mp (h.2 c List.mem_cons_self)
  refine ⟨c, rest, rfl, hb, ?_, ?_, ?_⟩ <;>
  · rintro rfl
    exact hs (by decide)

theorem skipBlank_of_stop {c : Char} (hb : isBlank c = false) (hcomma : c ≠ ',')
    (hcomment : c ≠ ';') (rest : List Char) : skipBlank (c :: rest) = c :: rest := by
  rw [skipBlank, if_neg (by simp [hb, hcomma]), if_neg hcomment]

theorem IsName.skipBlank_append {name : List Char} (h : IsName name) (rest : List Char) :
    skipBlank (name ++ rest) = name ++ rest := by
  obtain ⟨c, more, rfl, hb, hcomma, hcomment, -⟩ := h.exists_head
  exact skipBlank_of_stop hb hcomma hcomment _

theorem IsName.readMeta_append {name : List Char} (h : IsName name) (fuel : Nat)
    (doc : Option (List Char))
    (rest : List Char) : readMeta fuel doc (name ++ rest) = (doc, name ++ rest) := by
  obtain ⟨c, more, rfl, -, -, -, hcaret⟩ := h.exists_head
  cases fuel with
  | zero => rw [readMeta]
  | succ fuel =>
    rw [List.cons_append, readMeta]
    all_goals
      rintro _ hc
      exact absurd (List.cons.inj hc).1 hcaret

/-! ## Lines in front of a form -/

/-- Text in front of a form: blank lines and comment lines. -/
inductive Leading : List Char → Prop
  | nil : Leading []
  | blank {c : Char} {rest : List Char} (hc : isBlank c = true) (h : Leading rest) :
    Leading (c :: rest)
  | comment {text rest : List Char} (ht : '\n' ∉ text) (h : Leading rest) :
    Leading (';' :: (text ++ '\n' :: rest))

theorem dropWhile_line {text : List Char} (h : '\n' ∉ text) (rest : List Char) :
    (text ++ '\n' :: rest).dropWhile (· ≠ '\n') = '\n' :: rest := by
  rw [List.dropWhile_append_of_pos]
  · simp
  · intro c hc
    exact decide_eq_true (ne_of_mem_of_not_mem hc h)

theorem formAt_blank {c : Char} (hc : isBlank c = true) (rest : List Char) :
    formAt (c :: rest) = formAt rest := by
  rw [formAt, formAt, Text.dropBlank, List.dropWhile_cons, if_pos hc]
  rfl

theorem formAt_comment (rest : List Char) : formAt (';' :: rest) = none := rfl

theorem formAt_opening {c : Char} (hc : isBlank c = true) (rest : List Char) :
    formAt ('(' :: 'n' :: 's' :: c :: rest) = some (c :: rest) := by
  show (if isBlank c || c = ')' then some (c :: rest) else none) = some (c :: rest)
  rw [hc]
  rfl

/-- Text in front of a form is blank, or its first line opens no form and the
other lines are in front of one again. -/
theorem Leading.blank_or_line {leading : List Char} (h : Leading leading) :
    (∀ rest, formAt (leading ++ rest) = formAt rest) ∨
      ∃ lines, Leading lines ∧ lines.length < leading.length ∧
        ∀ rest, formAt (leading ++ rest) = none ∧
          (leading ++ rest).dropWhile (· ≠ '\n') = '\n' :: (lines ++ rest) := by
  induction h with
  | nil => exact .inl fun rest => rfl
  | @blank c more hc h ih =>
    rcases ih with ih | ⟨lines, hlines, hlength, ih⟩
    · exact .inl fun rest => by rw [List.cons_append, formAt_blank hc, ih]
    · right
      by_cases hnewline : c = '\n'
      · refine ⟨more, h, Nat.lt_succ_self _, fun rest => ⟨?_, ?_⟩⟩
        · rw [List.cons_append, formAt_blank hc, (ih rest).1]
        · rw [hnewline, List.cons_append]
          exact dropWhile_line List.not_mem_nil _
      · refine ⟨lines, hlines, Nat.lt_succ_of_lt hlength, fun rest => ⟨?_, ?_⟩⟩
        · rw [List.cons_append, formAt_blank hc, (ih rest).1]
        · rw [List.cons_append, List.dropWhile_cons, if_pos (by simpa using hnewline), (ih rest).2]
  | @comment text more ht h ih =>
    refine .inr ⟨more, h, ?_, fun rest => ⟨formAt_comment _, ?_⟩⟩
    · rw [List.length_cons, List.length_append, List.length_cons]
      omega
    · rw [List.cons_append, List.append_assoc, List.cons_append, ← List.cons_append]
      apply dropWhile_line
      rw [List.mem_cons, not_or]
      exact ⟨by decide, ht⟩

theorem Leading.afterForm_append {leading : List Char} (h : Leading leading) {c : Char}
    (hc : isBlank c = true) (rest : List Char) {fuel : Nat} (hf : leading.length < fuel) :
    afterForm fuel (leading ++ '(' :: 'n' :: 's' :: c :: rest) = some (c :: rest) := by
  induction fuel generalizing leading with
  | zero => exact absurd hf (Nat.not_lt_zero _)
  | succ fuel ih =>
    rw [afterForm]
    rcases h.blank_or_line with hblank | ⟨lines, hlines, hlength, hline⟩
    · rw [hblank, formAt_opening hc]
    · obtain ⟨hnone, hdrop⟩ := hline ('(' :: 'n' :: 's' :: c :: rest)
      rw [hnone, hdrop]
      exact ih hlines (by omega)

end SegmentIndex.Header
