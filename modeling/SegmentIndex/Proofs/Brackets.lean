import SegmentIndex.Proofs.Rendering

/-!
# Balanced parentheses

The text of a pattern is made of escapes, character classes and single characters. It is balanced if
the parentheses among the single characters are. The parenthesis that closes a capture is the one
after the balanced text that follows the name: there is at most one, and none is found exactly if no
balanced text stands before a parenthesis.
-/
namespace SegmentIndex.Pattern

/-! ## The text of patterns -/

/-- The rest of a character class up to its closing bracket. -/
inductive ClassRest : List Char → Prop
  | close : ClassRest [']']
  | escape {c : Char} {cs : List Char} : ClassRest cs → ClassRest ('\\' :: c :: cs)
  | char {c : Char} {cs : List Char} : c ≠ '\\' → c ≠ ']' → ClassRest cs → ClassRest (c :: cs)

/-- A character class after its opening bracket. A bracket that comes
first, or first after a caret, is a member. -/
inductive IsClass : List Char → Prop
  | plain {cs : List Char} :
    ClassRest cs → (∀ more, cs ≠ ']' :: more) → (∀ more, cs ≠ '^' :: ']' :: more) → IsClass cs
  | bracket {cs : List Char} : ClassRest cs → IsClass (']' :: cs)
  | negated {cs : List Char} : ClassRest cs → IsClass ('^' :: ']' :: cs)

/-- Text whose parentheses outside of escapes and character classes are balanced. -/
inductive Balanced : List Char → Prop
  | nil : Balanced []
  | char {c : Char} {cs : List Char} : c ∉ ['\\', '[', '(', ')'] → Balanced cs → Balanced (c :: cs)
  | escape {c : Char} {cs : List Char} : Balanced cs → Balanced ('\\' :: c :: cs)
  | members {k cs : List Char} : IsClass k → Balanced cs → Balanced ('[' :: (k ++ cs))
  | group {body cs : List Char} : Balanced body → Balanced cs →
    Balanced ('(' :: (body ++ ')' :: cs))

/-- Text that ends outside of escapes and character classes. -/
inductive Outside : List Char → Prop
  | nil : Outside []
  | char {c : Char} {cs : List Char} : c ∉ ['\\', '['] → Outside cs → Outside (c :: cs)
  | escape {c : Char} {cs : List Char} : Outside cs → Outside ('\\' :: c :: cs)
  | members {k cs : List Char} : IsClass k → Outside cs → Outside ('[' :: (k ++ cs))

variable {u v cs k : List Char}

theorem ClassRest.ne_nil (h : ClassRest k) : k ≠ [] := by
  cases h <;> simp

/-- Whether a bracket comes first in a class does not depend on what follows the class. -/
theorem ClassRest.append_ne (hk : ClassRest k) (hbracket : ∀ more, k ≠ ']' :: more)
    (hnegated : ∀ more, k ≠ '^' :: ']' :: more) (rest : List Char) :
    (∀ more, k ++ rest ≠ ']' :: more) ∧ ∀ more, k ++ rest ≠ '^' :: ']' :: more := by
  cases hk with
  | close => exact absurd rfl (hbracket [])
  | escape _ => simp
  | char _ _ hcs =>
    obtain ⟨d, cs, rfl⟩ := List.exists_cons_of_ne_nil hcs.ne_nil
    constructor <;> rintro more hmore <;> simp_all

theorem Balanced.append (h : Balanced u) (h' : Balanced v) : Balanced (u ++ v) := by
  induction h with
  | nil => exact h'
  | char hc _ ih => exact .char hc ih
  | escape _ ih => exact .escape ih
  | members hk _ ih => simpa using Balanced.members hk ih
  | group hbody _ _ ih => simpa using Balanced.group hbody ih

theorem Outside.append (h : Outside u) (h' : Outside v) : Outside (u ++ v) := by
  induction h with
  | nil => exact h'
  | char hc _ ih => exact .char hc ih
  | escape _ ih => exact .escape ih
  | members hk _ ih => simpa using Outside.members hk ih

theorem Balanced.outside (h : Balanced u) : Outside u := by
  induction h with
  | nil => exact .nil
  | char hc _ ih => exact .char (fun hm => hc (by revert hm; simp; tauto)) ih
  | escape _ ih => exact .escape ih
  | members hk _ ih => exact .members hk ih
  | group _ _ ihbody ih => exact .char (by decide) (ihbody.append (.char (by decide) ih))

end SegmentIndex.Pattern

namespace SegmentIndex.PathSpec

open Pattern

variable {depth : Nat} {cs p r u k : List Char}

/-! ## Scanning balanced text -/

theorem map_putBefore_putBefore (u v : List Char) (o : Option (List Char × List Char)) :
    (o.map (putBefore v)).map (putBefore u) = o.map (putBefore (u ++ v)) := by
  cases o <;> simp [putBefore]

theorem map_putBefore_nil (o : Option (List Char × List Char)) : o.map (putBefore []) = o := by
  cases o <;> simp [putBefore]

theorem splitClose_escape (inClass : Bool) (c : Char) (rest : List Char) :
    splitClose depth inClass ('\\' :: c :: rest) =
      (splitClose depth inClass rest).map (putBefore ['\\', c]) := by
  rw [splitClose]

theorem splitClose_classRest (h : ClassRest k) (rest : List Char) :
    splitClose depth true (k ++ rest) = (splitClose depth false rest).map (putBefore k) := by
  induction h with
  | close => simp [splitClose_inClass]
  | escape _ ih =>
    rw [List.cons_append, List.cons_append, splitClose_escape, ih, map_putBefore_putBefore]; rfl
  | char hescape hclose _ ih =>
    rw [List.cons_append, splitClose_inClass _ _ hescape]
    simp only [ne_eq, hclose, not_false_eq_true, decide_true]
    rw [ih, map_putBefore_putBefore]
    rfl

theorem splitClose_isClass (h : IsClass k) (rest : List Char) :
    splitClose depth false ('[' :: (k ++ rest)) =
      (splitClose depth false rest).map (putBefore ('[' :: k)) := by
  cases h with
  | plain hk hbracket hnegated =>
    obtain ⟨hbracket', hnegated'⟩ := hk.append_ne hbracket hnegated rest
    rw [splitClose_class depth hbracket' hnegated', splitClose_classRest hk,
      map_putBefore_putBefore]
    rfl
  | bracket hk =>
    rw [List.cons_append, splitClose, splitClose_classRest hk, map_putBefore_putBefore]
    rfl
  | negated hk =>
    rw [List.cons_append, List.cons_append, splitClose, splitClose_classRest hk,
      map_putBefore_putBefore]
    rfl

theorem splitClose_balanced (h : Balanced u) (depth : Nat) (rest : List Char) :
    splitClose depth false (u ++ rest) = (splitClose depth false rest).map (putBefore u) := by
  induction h generalizing depth rest with
  | nil => rw [List.nil_append, map_putBefore_nil]
  | char hc _ ih =>
    simp only [List.mem_cons, List.not_mem_nil, or_false, not_or] at hc
    rw [List.cons_append, splitClose_other depth _ hc.1 hc.2.1 hc.2.2.1 hc.2.2.2, ih,
      map_putBefore_putBefore]
    rfl
  | escape _ ih =>
    rw [List.cons_append, List.cons_append, splitClose_escape, ih, map_putBefore_putBefore]; rfl
  | members hk _ ih =>
    rw [List.cons_append, List.append_assoc, splitClose_isClass hk, ih, map_putBefore_putBefore]
    rfl
  | group _ _ ihbody ih =>
    rw [List.cons_append, List.append_assoc, List.cons_append, splitClose, ihbody, splitClose, ih]
    simp only [map_putBefore_putBefore]
    simp

/-! ## Scanned text is balanced -/

/-- Text that closes as many parentheses as are given and is balanced otherwise. -/
inductive Closes : Nat → List Char → Prop
  | last {cs : List Char} : Balanced cs → Closes 0 cs
  | more {n : Nat} {body cs : List Char} : Balanced body → Closes n cs →
    Closes (n + 1) (body ++ ')' :: cs)

theorem Closes.append {n : Nat} (h : Balanced u) (h' : Closes n p) : Closes n (u ++ p) := by
  cases h' with
  | last h' => exact .last (h.append h')
  | more hbody hcs =>
    rw [← List.append_assoc]
    exact .more (h.append hbody) hcs

theorem Closes.open {n : Nat} (h : Closes (n + 1) p) : Closes n ('(' :: p) := by
  obtain - | ⟨hbody, hcs⟩ := h
  simpa using hcs.append (.group hbody .nil)

/-- What a scan has passed over, when it starts outside or inside of a character class. -/
def Passed (depth : Nat) (inClass : Bool) (p : List Char) : Prop :=
  if inClass then ∃ k p', p = k ++ p' ∧ ClassRest k ∧ Closes depth p' else Closes depth p

theorem Passed.members (k' : List Char) (h : Passed depth true p)
    (hk : ∀ k p', p = k ++ p' → ClassRest k → IsClass (k' ++ k)) :
    Passed depth false ('[' :: (k' ++ p)) := by
  obtain ⟨k, p', rfl, hrest, hcloses⟩ := h
  simpa [Passed] using Closes.append (.members (hk k p' rfl hrest) .nil) hcloses

/-- A character is no backslash if the scan reads neither an escape
nor a backslash at the end from there. -/
theorem ne_escape {c : Char} {rest : List Char} (hend : c = '\\' → rest = [] → False)
    (hescape : ∀ d more, c = '\\' → rest = d :: more → False) : c ≠ '\\' := by
  intro hc
  cases rest with
  | nil => exact hend hc rfl
  | cons d more => exact hescape d more hc rfl

theorem passed_of_splitClose {inClass : Bool} (h : splitClose depth inClass cs = some (p, r)) :
    Passed depth inClass p := by
  fun_induction splitClose depth inClass cs generalizing p with
  | case1 => simp at h
  | case2 => simp at h
  | case3 depth inClass c rest ih =>
    obtain ⟨p', ho, rfl⟩ := map_putBefore_eq_some h
    cases inClass with
    | false => exact Closes.append (.escape .nil) (ih ho)
    | true =>
      obtain ⟨k, p', rfl, hk, hcloses⟩ := ih ho
      exact ⟨_, p', rfl, .escape hk, hcloses⟩
  | case4 depth c rest hend hescape ih =>
    obtain ⟨p', ho, rfl⟩ := map_putBefore_eq_some h
    by_cases hc : c = ']'
    · subst hc
      exact ⟨[']'], p', rfl, .close, ih ho⟩
    · rw [decide_eq_true hc] at ih ho
      obtain ⟨k, p'', rfl, hk, hcloses⟩ := ih ho
      exact ⟨c :: k, p'', rfl, .char (ne_escape hend hescape) hc hk, hcloses⟩
  | case5 depth rest ih =>
    obtain ⟨p', ho, rfl⟩ := map_putBefore_eq_some h
    exact (ih ho).members ['^', ']'] fun _ _ _ hk => .negated hk
  | case6 depth rest ih =>
    obtain ⟨p', ho, rfl⟩ := map_putBefore_eq_some h
    exact (ih ho).members [']'] fun _ _ _ hk => .bracket hk
  | case7 depth rest hnot hclose ih =>
    obtain ⟨p', ho, rfl⟩ := map_putBefore_eq_some h
    refine (ih ho).members [] fun k p'' hp hk => ?_
    obtain ⟨hrest, -⟩ := splitClose_spec ho
    refine .plain hk ?_ ?_
    · rintro more rfl
      exact hclose _ (by rw [hrest, hp]; rfl)
    · rintro more rfl
      exact hnot _ (by rw [hrest, hp]; rfl)
  | case8 depth rest ih =>
    obtain ⟨p', ho, rfl⟩ := map_putBefore_eq_some h
    exact Closes.open (ih ho)
  | case9 rest =>
    simp only [Option.some.injEq, Prod.mk.injEq] at h
    obtain ⟨rfl, -⟩ := h
    exact Closes.last .nil
  | case10 depth rest ih =>
    obtain ⟨p', ho, rfl⟩ := map_putBefore_eq_some h
    exact Closes.more .nil (ih ho)
  | case11 depth c rest hend hescape _ _ hclass hopen hzero hsucc ih =>
    obtain ⟨p', ho, rfl⟩ := map_putBefore_eq_some h
    have hclose : c ≠ ')' := by
      intro hc
      cases depth with
      | zero => exact hzero rfl hc
      | succ depth => exact hsucc depth rfl hc
    have hc : c ∉ ['\\', '[', '(', ')'] := by
      simp only [List.mem_cons, List.not_mem_nil, or_false, not_or]
      exact ⟨ne_escape hend hescape, fun hc => hclass hc, fun hc => hopen hc, hclose⟩
    exact Closes.append (.char hc .nil) (ih ho)

/-- A capture is closed by the parenthesis after the balanced text of its pattern. -/
theorem splitClose_eq_some_iff :
    splitClose 0 false cs = some (p, r) ↔ Balanced p ∧ cs = p ++ ')' :: r := by
  constructor
  · intro h
    obtain ⟨hbalanced⟩ : Closes 0 p := passed_of_splitClose h
    exact ⟨hbalanced, (splitClose_spec h).1⟩
  · rintro ⟨h, rfl⟩
    rw [splitClose_balanced h, splitClose]
    simp [putBefore]

end SegmentIndex.PathSpec
