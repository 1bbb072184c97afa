import SegmentIndex.Proofs.Brackets
import SegmentIndex.Proofs.Scopes

/-!
# What the reader of patterns takes

The readers of numbers, names and bounds take plain text, in which no bracket and no backslash
stands. A character class is read up to the bracket that closes it.
-/
namespace SegmentIndex.Pattern

/-! ## Plain text -/

/-- The characters that say where escapes, classes and groups begin and end. -/
def brackets : List Char := ['\\', '[', ']', '(', ')']

/-- Text in which no escape, class or group begins or ends. -/
def Plain (cs : List Char) : Prop := ∀ c ∈ cs, c ∉ brackets

instance (cs : List Char) : Decidable (Plain cs) :=
  decidable_of_iff (cs.all (fun c => !brackets.contains c) = true) (by simp [Plain])

/-- Whether a text is the rest of another one after text with a property. -/
def After (P : List Char → Prop) (cs rest : List Char) : Prop := ∃ w, P w ∧ cs = w ++ rest

variable {P Q : List Char → Prop} {cs rest rest' name u v w k : List Char} {c : Char}

theorem not_bracket {p : Char → Bool} (hp : brackets.any p = false) (hc : p c = true) :
    c ∉ brackets :=
  fun hm => List.any_eq_false.mp hp c hm hc

theorem plain_of {p : Char → Bool} (hp : brackets.any p = false) (h : ∀ c ∈ cs, p c = true) :
    Plain cs :=
  fun c hc => not_bracket hp (h c hc)

theorem plain_nil : Plain [] := by simp [Plain]

theorem plain_cons (hc : c ∉ brackets) (h : Plain cs) : Plain (c :: cs) :=
  List.forall_mem_cons.mpr ⟨hc, h⟩

theorem Plain.append (h : Plain u) (h' : Plain v) : Plain (u ++ v) :=
  List.forall_mem_append.mpr ⟨h, h'⟩

theorem Plain.balanced (h : Plain u) : Balanced u := by
  induction u with
  | nil => exact .nil
  | cons c u ih =>
    obtain ⟨hc, h⟩ := List.forall_mem_cons.mp h
    exact .char (fun hm => hc (by revert hm; simp [brackets]; tauto)) (ih h)

theorem Plain.classRest (h : Plain u) (hk : ClassRest k) : ClassRest (u ++ k) := by
  induction u with
  | nil => exact hk
  | cons c u ih =>
    obtain ⟨hc, h⟩ := List.forall_mem_cons.mp h
    simp only [brackets, List.mem_cons, not_or] at hc
    exact .char hc.1 hc.2.2.1 (ih h)

theorem plain_takeWhile {p : Char → Bool} (hp : brackets.any p = false) (cs : List Char) :
    Plain (cs.takeWhile p) := plain_of hp fun _ hc => List.mem_takeWhile_imp hc

namespace After

theorem of_append (h : P w) : After P (w ++ rest) rest := ⟨w, h, rfl⟩

theorem mono (hPQ : ∀ w, P w → Q w) (h : After P cs rest) : After Q cs rest := by
  obtain ⟨w, hw, rfl⟩ := h
  exact .of_append (hPQ w hw)

/-- What comes after text comes after more text if the two make up text of a third kind. -/
theorem trans {R : List Char → Prop} (hPQ : ∀ u v, P u → Q v → R (u ++ v)) (h : After P cs rest)
    (h' : After Q rest rest') : After R cs rest' := by
  obtain ⟨u, hu, rfl⟩ := h
  obtain ⟨v, hv, rfl⟩ := h'
  exact ⟨u ++ v, hPQ u v hu hv, (List.append_assoc _ _ _).symm⟩

theorem plain_refl (cs : List Char) : After Plain cs cs := .of_append plain_nil

theorem plain_cons (hc : c ∉ brackets) (h : After Plain cs rest) : After Plain (c :: cs) rest := by
  obtain ⟨w, hw, rfl⟩ := h
  exact .of_append (Pattern.plain_cons hc hw)

theorem plain_trans (h : After Plain cs rest) (h' : After Plain rest rest') :
    After Plain cs rest' :=
  h.trans (fun _ _ => Plain.append) h'

theorem plain_drop (h : Plain (cs.take n)) : After Plain cs (cs.drop n) :=
  ⟨_, h, (List.take_append_drop n cs).symm⟩

theorem balanced (h : After Plain cs rest) : After Balanced cs rest :=
  h.mono fun _ => Plain.balanced

theorem balanced_trans (h : After Balanced cs rest) (h' : After Balanced rest rest') :
    After Balanced cs rest' :=
  h.trans (fun _ _ => Balanced.append) h'

theorem escape (c : Char) (h : After Plain cs rest) : After Balanced ('\\' :: c :: cs) rest := by
  obtain ⟨w, hw, rfl⟩ := h
  exact ⟨_, Balanced.escape hw.balanced, rfl⟩

theorem members (h : After IsClass cs rest) : After Balanced ('[' :: cs) rest := by
  obtain ⟨w, hw, rfl⟩ := h
  have hafter : After Balanced _ rest := .of_append (Balanced.members hw .nil)
  simpa using hafter

theorem group (h : After Balanced cs (')' :: rest)) : After Balanced ('(' :: cs) rest := by
  obtain ⟨w, hw, rfl⟩ := h
  have hafter : After Balanced _ rest := .of_append (Balanced.group hw .nil)
  simpa using hafter

theorem outside (h : After Balanced cs rest) : After Outside cs rest :=
  h.mono fun _ => Balanced.outside

end After

/-! ## Numbers and names -/

theorem readHex_after {count n : Nat} (h : readHex count cs = .ok (n, rest)) :
    After Plain cs rest := by
  unfold readHex at h
  dsimp only at h
  split_ifs at h with hlength
  cases h
  have htake : (cs.take count).takeWhile isHex = cs.take count := by
    refine (List.takeWhile_prefix isHex).eq_of_length_le ?_
    rw [hlength]
    exact List.length_take_le count cs
  exact .plain_drop (htake ▸ plain_takeWhile rfl _)

theorem readOctal_after {first : Char} {n : Nat} (h : readOctal first cs = .ok (n, rest)) :
    After Plain cs rest := by
  unfold readOctal at h
  dsimp only at h
  split_ifs at h
  cases h
  have hprefix : (cs.take 2).takeWhile isOctal <+: cs :=
    (List.takeWhile_prefix _).trans (List.take_prefix 2 cs)
  refine .plain_drop ?_
  rw [← List.prefix_iff_eq_take.mp hprefix]
  exact plain_takeWhile rfl _

theorem takeWhile_ne_append {mark : Char} (h : mark ∉ name) (rest : List Char) :
    (name ++ mark :: rest).takeWhile (· ≠ mark) = name := by
  have hname : name.takeWhile (· ≠ mark) = name :=
    List.takeWhile_eq_self_iff.mpr fun c hc => by simpa using ne_of_mem_of_not_mem hc h
  rw [List.takeWhile_append, hname]
  simp

theorem readUntil_eq {mark : Char} (h : readUntil mark cs = .ok (name, rest)) :
    cs = name ++ mark :: rest := by
  unfold readUntil at h
  dsimp only at h
  split_ifs at h with hend hempty
  by_cases hm : mark ∈ cs
  · obtain ⟨before, after, rfl, hbefore⟩ := List.eq_append_cons_of_mem hm
    rw [takeWhile_ne_append hbefore] at h
    cases h
    rw [← List.drop_drop, List.drop_left, List.drop_one, List.tail_cons]
  · have hall : cs.takeWhile (· ≠ mark) = cs :=
      List.takeWhile_eq_self_iff.mpr fun c hc => by simpa using ne_of_mem_of_not_mem hc hm
    exact absurd (congrArg List.length hall) hend

theorem readNamed_after {n : Nat} (h : readNamed cs = .ok (n, rest)) : After Plain cs rest := by
  unfold readNamed at h
  split at h
  · split at h
    · cases h
    · rename_i text name rest₁ hname
      split at h
      · rename_i hcode
        cases h
        rw [readUntil_eq hname]
        have hplain : Plain name := plain_of rfl (Text.isNameLetter_of_code hcode)
        exact .plain_cons (by decide) ⟨name ++ ['\x7d'], hplain.append (by decide), by simp⟩
      · cases h
  · cases h

theorem readCode_after {n : Nat} (h : readCode c cs = .ok (some (n, rest))) :
    After Plain cs rest := by
  unfold readCode at h
  split_ifs at h
  · obtain ⟨_, hread, heq⟩ := exists_of_map_eq_ok h
    cases heq
    exact readHex_after hread
  · obtain ⟨_, hread, heq⟩ := exists_of_map_eq_ok h
    cases heq
    exact readHex_after hread
  · obtain ⟨_, hread, heq⟩ := exists_of_map_eq_ok h
    cases heq
    exact readNamed_after hread
  · split at h
    · cases h
    · rename_i hread
      split_ifs at h
      cases h
      exact readHex_after hread
  · cases h

theorem isName_plain (h : Text.isName name = true) : Plain name := by
  cases name with
  | nil => exact plain_nil
  | cons c name =>
    simp only [Text.isName, Bool.and_eq_true, List.all_eq_true] at h
    exact plain_cons (not_bracket rfl h.1) (plain_of rfl h.2)

theorem readName_after {name : String} {mark : Char} (h : readName mark cs = .ok (name, rest)) :
    ∃ text, Plain text ∧ cs = text ++ mark :: rest := by
  unfold readName at h
  split at h
  · cases h
  · rename_i text rest' huntil
    split_ifs at h with hname
    cases h
    exact ⟨text, isName_plain hname, readUntil_eq huntil⟩

/-! ## Group numbers -/

theorem readDigits_plain {afterDigit : Bool} {acc n : Nat}
    (h : Text.readDigits afterDigit acc cs = some n) :
    Plain cs := by
  induction cs generalizing afterDigit acc with
  | nil => exact plain_nil
  | cons c cs ih =>
    rw [Text.readDigits] at h
    split_ifs at h with hc hafter
    · exact plain_cons (by subst hc; decide) (ih h)
    · cases hd : Text.digitValue? c with
      | none => simp [hd] at h
      | some d =>
        rw [hd] at h
        have hdigit : Text.isDigit c = true := Option.isSome_iff_exists.mpr ⟨d, hd⟩
        exact plain_cons (not_bracket rfl hdigit) (ih h)

theorem plain_of_dropBlank (h : Plain (Text.dropBlank cs)) : Plain cs := by
  rw [← List.takeWhile_append_dropWhile (p := Text.isBlank) (l := cs)]
  exact (plain_takeWhile rfl cs).append h

theorem plain_reverse (h : Plain cs.reverse) : Plain cs := fun c hc => h c (List.mem_reverse.mpr hc)

theorem plain_of_trim (h : Plain (Text.trim cs)) : Plain cs :=
  plain_of_dropBlank (plain_reverse
    (plain_of_dropBlank (plain_reverse (by simpa [Text.trim] using h))))

theorem readInt?_plain {i : Int} (h : Text.readInt? (String.ofList cs) = some i) : Plain cs := by
  have hdigits : ∀ {g : Int → Int} {ds : List Char},
      Option.map g (do let n ← Text.readDigits false 0 ds; pure (n : Int)) = some i → Plain ds := by
    intro g ds hds
    cases hn : Text.readDigits false 0 ds with
    | none => simp [hn] at hds
    | some n => exact readDigits_plain hn
  unfold Text.readInt? at h
  rw [String.toList_ofList] at h
  refine plain_of_trim ?_
  split at h
  · rename_i heq
    exact heq ▸ plain_cons (by decide) (hdigits h)
  · rename_i heq
    exact heq ▸ plain_cons (by decide) (hdigits h)
  · exact hdigits h

theorem conditionGroup_plain {s : Scope} {i : Nat} (h : conditionGroup s name = .ok i) :
    Plain name := by
  unfold conditionGroup at h
  dsimp only at h
  split_ifs at h with hname
  · exact isName_plain hname
  · split at h
    · cases h
    · rename_i hread
      exact readInt?_plain hread
    · cases h

/-! ## Escapes and references -/

theorem digit_not_bracket {d : Char} (h : d.isDigit = true) : d ∉ brackets := not_bracket rfl h

theorem referenceNumeral_after (c : Char) (cs : List Char) :
    After Plain cs (referenceNumeral c cs).2.1 := by
  unfold referenceNumeral
  split
  · split_ifs with hdigit
    · split
      · split_ifs with hoctal
        · simp only [Bool.and_eq_true] at hoctal
          exact .plain_cons (digit_not_bracket hdigit)
            (.plain_cons (not_bracket rfl hoctal.2) (.plain_refl _))
        · exact .plain_cons (digit_not_bracket hdigit) (.plain_refl _)
      · exact .plain_cons (digit_not_bracket hdigit) (.plain_refl _)
    · exact .plain_refl _
  · exact .plain_refl _

variable {f : Flags} {s : Scope} {kind : Kind} {node : Node} {item : Item}

theorem readReference_after (h : readReference f s c cs = .ok (node, rest)) :
    After Plain cs rest := by
  rw [readReference_eq] at h
  have hafter := referenceNumeral_after c cs
  split_ifs at h
  · cases h
    exact hafter
  · obtain ⟨_, -, heq⟩ := exists_of_map_eq_ok h
    cases heq
    exact hafter

theorem readEscape_after (h : readEscape f s c cs = .ok (kind, node, rest)) :
    After Plain cs rest := by
  unfold readEscape at h
  split at h
  · cases h
    exact .plain_refl _
  · cases h
    exact .plain_refl _
  · cases h
    exact .plain_refl _
  · split at h
    · cases h
    · rename_i hcode
      cases h
      exact readCode_after hcode
    · split_ifs at h
      · obtain ⟨_, hread, heq⟩ := exists_of_map_eq_ok h
        cases heq
        exact readOctal_after hread
      · obtain ⟨_, hread, heq⟩ := exists_of_map_eq_ok h
        cases heq
        exact readReference_after hread
      · cases h
        exact .plain_refl _

/-! ## Character classes -/

theorem readClassEscape_after (h : readClassEscape c cs = .ok (item, rest)) :
    After Plain cs rest := by
  unfold readClassEscape at h
  split at h
  · cases h
    exact .plain_refl _
  · cases h
    exact .plain_refl _
  · by_cases hb : c = 'b'
    · rw [if_pos hb] at h
      cases h
      exact .plain_refl _
    rw [if_neg hb] at h
    split at h
    · cases h
    · rename_i hcode
      cases h
      exact readCode_after hcode
    · split_ifs at h
      · obtain ⟨_, hread, heq⟩ := exists_of_map_eq_ok h
        cases heq
        exact readOctal_after hread
      · cases h
        exact .plain_refl _

theorem readMember_after (h : readMember cs = .ok (item, rest)) (hne : ∀ more, cs ≠ ']' :: more)
    (hrest : After ClassRest rest rest') : After ClassRest cs rest' := by
  unfold readMember at h
  split at h
  · cases h
  · cases h
  · obtain ⟨w, hw, rfl⟩ := (readClassEscape_after h).trans (fun _ _ => Plain.classRest) hrest
    exact ⟨_, .escape hw, rfl⟩
  · rename_i c more hend hescape
    cases h
    obtain ⟨w, hw, rfl⟩ := hrest
    refine ⟨_, .char (fun hc => ?_) (fun hc => hne _ (by rw [hc])) hw, rfl⟩
    have hnil : w ++ rest' ≠ [] := List.append_ne_nil_of_left_ne_nil hw.ne_nil _
    obtain ⟨d, tail, htail⟩ := List.exists_cons_of_ne_nil hnil
    exact hescape d tail hc htail

/-- What is left after a member ends the class, or it goes on with further members. -/
theorem continueAfter_after {fuel : Nat} {items items' : List Item}
    (ih : ∀ {items cs}, items ≠ [] → readMembers fuel items cs = .ok (items', rest) →
    After ClassRest cs rest)
    (h : readMembers.continueAfter fuel items cs = .ok (items', rest)) :
    ∃ item rest', readMember cs = .ok (item, rest') ∧ After ClassRest rest' rest := by
  unfold readMembers.continueAfter at h
  split at h
  · cases h
  · rename_i first more hread
    cases h
    exact ⟨_, _, hread, ['-', ']'], .char (by decide) (by decide) .close, rfl⟩
  · rename_i first more hne hread
    refine ⟨_, _, hread, ?_⟩
    split at h
    · cases h
    · rename_i last rest' hlast
      split at h
      · split_ifs at h
        obtain ⟨w, hw, rfl⟩ := readMember_after hlast (fun tail heq => hne tail heq)
          (ih (by simp) h)
        exact ⟨_, .char (by decide) (by decide) hw, rfl⟩
      · cases h
  · rename_i first rest' _ _ hread
    exact ⟨_, _, hread, ih (by simp) h⟩

/-- After their first one, members are read up to the bracket that closes the class. -/
theorem readMembers_after {fuel : Nat} {items items' : List Item} (hitems : items ≠ [])
    (h : readMembers fuel items cs = .ok (items', rest)) : After ClassRest cs rest := by
  induction fuel generalizing items cs with
  | zero => simp [readMembers] at h
  | succ fuel ih =>
    rw [readMembers.eq_def] at h
    dsimp only at h
    split at h
    · rw [if_neg (by simpa using hitems)] at h
      cases h
      exact ⟨_, .close, rfl⟩
    · rename_i hne
      obtain ⟨item, rest', hread, hrest⟩ := continueAfter_after ih h
      exact readMember_after hread hne hrest

theorem readMembers_nil {fuel : Nat} {items : List Item}
    (h : readMembers fuel [] cs = .ok (items, rest)) :
    (∃ more, cs = ']' :: more ∧ After ClassRest more rest) ∨
      (∀ more, cs ≠ ']' :: more) ∧ After ClassRest cs rest := by
  rcases fuel with _ | fuel
  · simp [readMembers] at h
  have hcontinue : readMembers.continueAfter fuel [] cs = .ok (items, rest) := by
    rw [readMembers.eq_def] at h
    dsimp only at h
    split at h <;> exact h
  obtain ⟨item, rest', hread, hrest⟩ := continueAfter_after readMembers_after hcontinue
  by_cases hbracket : ∃ more, cs = ']' :: more
  · obtain ⟨more, rfl⟩ := hbracket
    cases hread
    exact .inl ⟨_, rfl, hrest⟩
  · have hne := not_exists.mp hbracket
    exact .inr ⟨hne, readMember_after hread hne hrest⟩

theorem readCaret_of_plain (h : ∀ more, cs ≠ '^' :: more) : readCaret cs = (false, cs) := by
  unfold readCaret
  split
  · exact absurd rfl (h _)
  · rfl

theorem readClass_after (h : readClass f cs = .ok (node, rest)) : After IsClass cs rest := by
  by_cases hcaret : ∃ more, cs = '^' :: more
  · obtain ⟨cs, rfl⟩ := hcaret
    obtain ⟨_, hread, heq⟩ := exists_of_map_eq_ok (o := readMembers (cs.length + 1) [] cs) h
    cases heq
    rcases readMembers_nil hread with ⟨more, rfl, w, hw, rfl⟩ | ⟨hne, w, hw, rfl⟩
    · exact ⟨_, .negated hw, rfl⟩
    · refine ⟨_, .plain (.char (by decide) (by decide) hw) (by simp) ?_, rfl⟩
      rintro more heq
      cases heq
      exact hne _ rfl
  · have hplain := not_exists.mp hcaret
    simp only [readClass, readCaret_of_plain hplain] at h
    obtain ⟨_, hread, heq⟩ := exists_of_map_eq_ok h
    cases heq
    rcases readMembers_nil hread with ⟨more, rfl, w, hw, rfl⟩ | ⟨hne, w, hw, rfl⟩
    · exact ⟨_, .bracket hw, rfl⟩
    · refine ⟨w, .plain hw ?_ ?_, rfl⟩
      · rintro more rfl
        exact hne _ rfl
      · rintro more rfl
        exact hplain _ rfl

/-! ## Repetitions -/

theorem dropDigits_after (cs : List Char) : After Plain cs (cs.dropWhile Char.isDigit) :=
  ⟨_, plain_takeWhile rfl cs, List.takeWhile_append_dropWhile.symm⟩

theorem readBounds_after {least : Nat} {most : Option Nat}
    (h : readBounds cs = .ok (some (least, most, rest))) :
    After Plain cs rest := by
  unfold readBounds at h
  split at h
  · cases h
  · dsimp only at h
    split at h
    · rename_i more heq
      have hbrace : After Plain cs ('\x7d' :: more) := by
        have hdigits := dropDigits_after cs
        rw [← heq]
        split
        · rename_i comma hcomma
          rw [hcomma] at hdigits
          exact hdigits.plain_trans (.plain_cons (by decide) (dropDigits_after comma))
        · exact hdigits
      have hmore : After Plain cs more :=
        hbrace.plain_trans (.plain_cons (by decide) (.plain_refl more))
      repeat' split at h
      all_goals simp_all
    · cases h

theorem Quantifier.after {least : Nat} {most : Option Nat} (h : Quantifier cs least most rest) :
    After Plain cs rest := by
  cases h with
  | star | plus | optional => exact .plain_cons (by decide) (.plain_refl _)
  | bounds h => exact .plain_cons (by decide) (readBounds_after h)

theorem readGreed_after (cs : List Char) : After Plain cs (readGreed cs).2 := by
  unfold readGreed
  split
  · exact .plain_cons (by decide) (.plain_refl _)
  · exact .plain_cons (by decide) (.plain_refl _)
  · exact .plain_refl _

theorem repeatLast_after {items items' : List (Kind × Node)} {least : Nat} {most : Option Nat}
    (h : repeatLast items least most cs = .ok (items', rest)) : After Plain cs rest := by
  unfold repeatLast at h
  split at h
  · cases h
  · cases h
  · cases h
  · cases h
    exact readGreed_after cs

theorem Leaf.after (h : Leaf f cs kind node rest) : After Balanced cs rest := by
  cases h with
  | escape h => exact (readEscape_after (h default)).escape _
  | lineStart | lineEnd | dot | brace =>
    exact (After.plain_cons (by decide) (.plain_refl _)).balanced
  | members h => exact (readClass_after h).members
  | char hc _ =>
    refine ⟨[_], .char (fun hm => hc ?_) .nil, rfl⟩
    simp only [List.mem_cons, List.not_mem_nil, or_false] at hm
    simp only [special, List.mem_cons]
    tauto

end SegmentIndex.Pattern
