import SegmentIndex.Proofs.Consuming

/-!
# Patterns without comments

A comment may hold any parenthesis, in a group of its own or, in a verbose pattern, up to the end
of a line. A reading that comes upon no comment, and upon no letter that switches to the verbose
mode, takes text with balanced parentheses.
-/
namespace SegmentIndex.Pattern

variable {cs rest rest' u : List Char} {f f' : Flags} {s s' : Scope}

/-! ## Mode letters -/

theorem letters_plain (h : ∀ c ∈ u, c ∈ Flags.letters) : Plain u :=
  plain_of (p := Flags.letters.contains) rfl fun c hc => by simpa using h c hc

theorem readAdded_eq {added added' : List Char} {mark : Char}
    (h : readAdded added cs = .ok (added', mark, rest)) :
    ∃ letters, added' = added ++ letters ∧ cs = letters ++ mark :: rest ∧
    (∀ c ∈ letters, c ∈ Flags.letters) ∧
      (mark = ')' ∨ mark ∉ brackets) := by
  induction cs generalizing added with
  | nil => simp [readAdded] at h
  | cons c cs ih =>
    rw [readAdded] at h
    dsimp only at h
    split_ifs at h with hend hletter hlocale hmixed
    · cases h
      refine ⟨[], by simp, rfl, by simp, ?_⟩
      simp only [Bool.or_eq_true, decide_eq_true_eq] at hend
      rcases hend with (rfl | rfl) | rfl
      · exact .inl rfl
      · exact .inr (by decide)
      · exact .inr (by decide)
    · obtain ⟨letters, hadded, rfl, hletters, hmark⟩ := ih h
      refine ⟨c :: letters, by simpa using hadded, rfl, ?_, hmark⟩
      exact List.forall_mem_cons.mpr ⟨by simpa using hletter, hletters⟩

theorem readRemoved_eq {removed removed' : List Char}
    (h : readRemoved removed cs = .ok (removed', rest)) :
    ∃ letters, cs = letters ++ ':' :: rest ∧ ∀ c ∈ letters, c ∈ Flags.letters := by
  induction cs generalizing removed with
  | nil => simp [readRemoved] at h
  | cons c cs ih =>
    rw [readRemoved] at h
    split_ifs at h with hend hletter halphabet
    · cases h
      simp only [Bool.and_eq_true, decide_eq_true_eq] at hend
      exact ⟨[], by simp [hend.1], by simp⟩
    · obtain ⟨letters, rfl, hletters⟩ := ih h
      exact ⟨c :: letters, rfl, List.forall_mem_cons.mpr ⟨by simpa using hletter, hletters⟩⟩

theorem readRemoved_after {removed : List Char} (h : readRemoved [] cs = .ok (removed, rest)) :
    After Plain cs rest := by
  obtain ⟨letters, rfl, hletters⟩ := readRemoved_eq h
  exact ⟨letters ++ [':'], (letters_plain hletters).append (by decide), by simp⟩

theorem readLetters_scoped {added removed : List Char}
    (h : readLetters cs = .ok (.scoped added removed, rest)) :
    (∀ c ∈ added, c ∈ Flags.letters) ∧ (∃ more, cs = added ++ more) ∧ After Plain cs rest := by
  unfold readLetters at h
  simp only [bind, Except.bind, pure, Except.pure, throw, throwThe, MonadExceptOf.throw] at h
  split at h
  · -- the first character is the hyphen before the letters that are switched off
    repeat' split at h
    all_goals cases h
    · rename_i hremoved _ _
      exact ⟨by simp, ⟨_, rfl⟩, .plain_cons (by decide) (readRemoved_after hremoved)⟩
    · rename_i hmark _
      exact absurd trivial hmark
  · split at h
    · cases h
    · rename_i found hadded
      obtain ⟨added', mark, more⟩ := found
      obtain ⟨letters, hletters, rfl, hall, hmark⟩ := readAdded_eq hadded
      rw [List.nil_append] at hletters
      subst hletters
      dsimp only at h
      by_cases hwhole : mark = ')'
      · rw [if_pos hwhole] at h
        cases h
      rw [if_neg hwhole] at h
      have hafter : After Plain (added' ++ mark :: more) more :=
        ⟨added' ++ [mark], (letters_plain hall).append
          (plain_cons (hmark.resolve_left hwhole) plain_nil), by simp⟩
      repeat' split at h
      all_goals cases h
      · rename_i hremoved _ _ _ _
        exact ⟨hall, ⟨_, rfl⟩, hafter.plain_trans (readRemoved_after hremoved)⟩
      · exact ⟨hall, ⟨_, rfl⟩, hafter⟩

theorem readLetters_whole_eq {c : Char} {added : List Char}
    (h : readLetters (c :: cs) = .ok (.whole added, rest)) :
    c :: cs = added ++ ')' :: rest ∧ ∀ c ∈ added, c ∈ Flags.letters := by
  obtain ⟨letters, hadded, heq, hletters, -⟩ := readAdded_eq (readLetters_whole h).2
  rw [List.nil_append] at hadded
  exact hadded ▸ ⟨heq, hletters⟩

theorem Flags.set_verbose {on : Bool} {c : Char} (h : c ≠ 'x' ∨ on = false)
    (hf : f.verbose = false) :
    (f.set on c).verbose = false := by
  unfold set
  split <;> simp_all

theorem Flags.foldl_set_verbose (on : Bool) {letters : List Char} (h : 'x' ∉ letters ∨ on = false)
    (hf : f.verbose = false) : (letters.foldl (·.set on ·) f).verbose = false := by
  induction letters generalizing f with
  | nil => exact hf
  | cons c letters ih =>
    refine ih (h.imp_left fun h hm => h (List.mem_cons_of_mem _ hm))
      (set_verbose (h.imp_left ?_) hf)
    rintro h rfl
    exact h List.mem_cons_self

theorem Flags.within_verbose {added removed : List Char} (h : 'x' ∉ added)
    (hf : f.verbose = false) :
    (f.within added removed).verbose = false := by
  unfold within
  refine foldl_set_verbose false (.inr rfl) (foldl_set_verbose true (.inl h) ?_)
  split_ifs <;> exact hf

/-! ## Comments and verbose patterns -/

/-- Whether a comment begins in a text, outside of escapes and character classes. -/
def HasComment (cs : List Char) : Prop := ∃ u v, cs = u ++ '(' :: '?' :: '#' :: v ∧ Outside u

/-- Whether letters in a text, outside of escapes and
character classes, switch to the verbose mode. -/
def HasVerbose (cs : List Char) : Prop :=
  ∃ u added v, cs = u ++ '(' :: '?' :: (added ++ v) ∧ Outside u ∧
  (∀ c ∈ added, c ∈ Flags.letters) ∧ 'x' ∈ added

/-- Whether neither the modes nor the text let the reader pass over anything. -/
structure Sober (f : Flags) (s : Scope) (cs : List Char) : Prop where
  comment : ¬ HasComment cs
  letters : ¬ HasVerbose cs
  flags : f.verbose = false
  scope : s.flags.verbose = false

namespace After

theorem outside_cons {c : Char} (hc : c ∉ ['\\', '[']) (h : After Outside cs rest) :
    After Outside (c :: cs) rest := by
  obtain ⟨w, hw, rfl⟩ := h
  exact ⟨_, .char hc hw, rfl⟩

theorem mark (h : After Balanced cs rest) : After Balanced ('?' :: cs) rest := by
  obtain ⟨w, hw, rfl⟩ := h
  exact ⟨_, .char (by decide) hw, rfl⟩

theorem opened (h : After Balanced cs rest) : After Outside ('(' :: cs) rest :=
  outside_cons (by decide) h.outside

end After

theorem Sober.after (h : Sober f s cs) (ha : After Outside cs rest) (hf : f'.verbose = false)
    (hs : s'.flags.verbose = false) : Sober f' s' rest := by
  obtain ⟨w, hw, rfl⟩ := ha
  refine ⟨?_, ?_, hf, hs⟩
  · rintro ⟨u, v, rfl, hu⟩
    exact h.comment ⟨w ++ u, v, by simp, hw.append hu⟩
  · rintro ⟨u, added, v, rfl, hu, hletters, hx⟩
    exact h.letters ⟨w ++ u, added, v, by simp, hw.append hu, hletters, hx⟩

theorem Sober.not_comment (h : Sober f s ('(' :: '?' :: '#' :: cs)) : False :=
  h.comment ⟨[], cs, rfl, .nil⟩

theorem Sober.not_verbose {added : List Char} (h : Sober f s ('(' :: '?' :: (added ++ cs)))
    (hletters : ∀ c ∈ added, c ∈ Flags.letters) : 'x' ∉ added :=
  fun hx => h.letters ⟨[], added, cs, rfl, .nil, hletters, hx⟩

/-! ## Readings are balanced -/

theorem Scope.openGroup_flags {name : Option String} {i : Nat}
    (h : s.openGroup name = .ok (i, s')) :
    s'.flags = s.flags := by
  unfold openGroup at h
  split at h
  · cases h
    rfl
  · split_ifs at h
    cases h
    rfl

theorem Opens.after {j : Nat} {name : Option String} (h : Opens cs j name rest) :
    ∃ cs', cs = '(' :: cs' ∧ After Plain cs' rest := by
  cases h with
  | unnamed _ => exact ⟨_, rfl, .plain_refl _⟩
  | named hname =>
    obtain ⟨text, htext, rfl⟩ := readName_after hname
    refine ⟨_, rfl, ?_⟩
    have hopening : Plain ['?', 'P', '<'] := by decide
    exact ⟨['?', 'P', '<'] ++ (text ++ ['>']), hopening.append (htext.append (by decide)), by simp⟩

theorem Covers.after {cover : Cover} {inner : Flags} (h : Covers f cs cover inner rest)
    (hsober : Sober f s cs) :
    inner.verbose = false ∧ ∃ cs', cs = '(' :: cs' ∧ After Plain cs' rest := by
  cases h with
  | plain | atomic | ahead | notAhead =>
    exact ⟨hsober.flags, _, rfl, .plain_cons (by decide) (.plain_cons (by decide) (.plain_refl _))⟩
  | letters hc hread =>
    obtain ⟨hletters, ⟨more, heq⟩, hafter⟩ := readLetters_scoped hread
    rw [heq] at hsober
    exact ⟨Flags.within_verbose (hsober.not_verbose hletters) hsober.flags, _, rfl,
      .plain_cons (by decide) hafter⟩

theorem Behind.after {negated : Bool} (h : Behind cs negated rest) :
    ∃ cs', cs = '(' :: cs' ∧ After Plain cs' rest := by
  cases h <;>
    exact ⟨_, rfl, .plain_cons (by decide)
    (.plain_cons (by decide) (.plain_cons (by decide) (.plain_refl _)))⟩

theorem readUntil_group {name : List Char} (h : readUntil ')' cs = .ok (name, rest))
    (hname : Plain name) :
    After Balanced ('(' :: cs) rest := by
  rw [readUntil_eq h]
  exact .group (.of_append hname.balanced)

/-- A reading that passes over nothing takes balanced text,
and the pattern does not become verbose. -/
theorem Reads.after {k d : Nat} {b : Bool} {stage : Stage} {ns : List Nat}
    {r : Node × Scope × List Char} (h : Reads k f d b stage s cs ns r) (hsober : Sober f s cs) :
    After Balanced cs r.2.2 ∧ r.2.1.flags.verbose = false := by
  induction h with
  | @one k f d b s cs ns a s' rest _ _ ih =>
    exact ih ⟨hsober.comment, hsober.letters, by split_ifs <;> simp [hsober.flags, hsober.scope],
      hsober.scope⟩
  | @more k f d b s cs ns ns' a a' s' s'' rest rest' _ _ ih ih' =>
    obtain ⟨hfirst, hs'⟩ :=
      ih ⟨hsober.comment, hsober.letters, by split_ifs <;> simp [hsober.flags, hsober.scope],
        hsober.scope⟩
    have hbar : After Balanced cs rest :=
      hfirst.balanced_trans (After.plain_cons (by decide) (.plain_refl rest)).balanced
    obtain ⟨hsecond, hs''⟩ := ih' (hsober.after hbar.outside hsober.flags hs')
    exact ⟨hbar.balanced_trans hsecond, hs''⟩
  | stop _ => exact ⟨(After.plain_refl _).balanced, hsober.scope⟩
  | skip hskip _ _ =>
    cases hskip with
    | layout hv _ => exact absurd (hsober.flags.symm.trans hv) Bool.false_ne_true
    | line hv => exact absurd (hsober.flags.symm.trans hv) Bool.false_ne_true
    | comment _ => exact hsober.not_comment.elim
  | leaf hleaf _ ih =>
    obtain ⟨hrest, hs⟩ := ih (hsober.after hleaf.after.outside hsober.flags hsober.scope)
    exact ⟨hleaf.after.balanced_trans hrest, hs⟩
  | @number _ _ _ _ _ _ e _ _ _ _ _ hescape _ ih =>
    have hafter := (readEscape_after hescape).escape e
    obtain ⟨hrest, hs⟩ := ih (hsober.after hafter.outside hsober.flags hsober.scope)
    exact ⟨hafter.balanced_trans hrest, hs⟩
  | @name _ _ _ _ _ _ _ _ _ rest' _ _ hname _ _ _ ih =>
    obtain ⟨text, htext, rfl⟩ := readName_after hname
    have hopening : Plain ['?', 'P', '='] := by decide
    have hgroup : After Balanced ('(' :: '?' :: 'P' :: '=' :: (text ++ ')' :: rest')) rest' :=
      .group ⟨_, (hopening.append htext).balanced, by simp⟩
    obtain ⟨hrest, hs⟩ := ih (hsober.after hgroup.outside hsober.flags hsober.scope)
    exact ⟨hgroup.balanced_trans hrest, hs⟩
  | again hq hlast _ ih =>
    have hafter := (hq.after.plain_trans (repeatLast_after hlast)).balanced
    obtain ⟨hrest, hs⟩ := ih (hsober.after hafter.outside hsober.flags hsober.scope)
    exact ⟨hafter.balanced_trans hrest, hs⟩
  | group hopens hopen _ _ ih ih' =>
    obtain ⟨cs', rfl, hhead⟩ := hopens.after
    have hs' := (Scope.openGroup_flags hopen).symm ▸ hsober.scope
    obtain ⟨hbody, hs''⟩ := ih (hsober.after hhead.balanced.opened hsober.flags hs')
    have hgroup := After.group (hhead.balanced.balanced_trans hbody)
    obtain ⟨hrest, hs⟩ := ih' (hsober.after hgroup.outside hsober.flags hs'')
    exact ⟨hgroup.balanced_trans hrest, hs⟩
  | cover hc _ _ ih ih' =>
    obtain ⟨hinner, cs', rfl, hhead⟩ := hc.after hsober
    obtain ⟨hbody, hs'⟩ := ih (hsober.after hhead.balanced.opened hinner hsober.scope)
    have hgroup := After.group (hhead.balanced.balanced_trans hbody)
    obtain ⟨hrest, hs⟩ := ih' (hsober.after hgroup.outside hsober.flags hs')
    exact ⟨hgroup.balanced_trans hrest, hs⟩
  | behind hb _ _ ih ih' =>
    obtain ⟨cs', rfl, hhead⟩ := hb.after
    obtain ⟨hbody, hs'⟩ := ih (hsober.after hhead.balanced.opened hsober.flags hsober.scope)
    have hgroup := After.group (hhead.balanced.balanced_trans hbody)
    obtain ⟨hrest, hs⟩ := ih' (hsober.after hgroup.outside hsober.flags hs')
    exact ⟨hgroup.balanced_trans hrest, hs⟩
  | ifThen hname hgroup _ _ _ ih ih' =>
    have hcondition := readUntil_group hname (conditionGroup_plain hgroup)
    obtain ⟨hyes, hs'⟩ := ih (hsober.after hcondition.mark.opened hsober.flags hsober.scope)
    have hwhole := After.group (.mark (hcondition.balanced_trans hyes))
    obtain ⟨hrest, hs⟩ := ih' (hsober.after hwhole.outside hsober.flags hs')
    exact ⟨hwhole.balanced_trans hrest, hs⟩
  | @ifElse _ _ _ _ _ _ _ _ _ _ _ _ _ rest₂ _ _ _ rest₃ _ _ hname hgroup _ _ _ _ ih ih' ih'' =>
    have hcondition := readUntil_group hname (conditionGroup_plain hgroup)
    obtain ⟨hyes, hs'⟩ := ih (hsober.after hcondition.mark.opened hsober.flags hsober.scope)
    have hbar : After Balanced ('|' :: rest₂) rest₂ :=
      (After.plain_cons (by decide) (.plain_refl _)).balanced
    have hfirst := (hcondition.balanced_trans hyes).balanced_trans hbar
    obtain ⟨hno, hs''⟩ := ih' (hsober.after hfirst.mark.opened hsober.flags hs')
    have hwhole := After.group (.mark (hfirst.balanced_trans hno))
    obtain ⟨hrest, hs⟩ := ih'' (hsober.after hwhole.outside hsober.flags hs'')
    exact ⟨hwhole.balanced_trans hrest, hs⟩
  | @modes _ f _ s _ _ added rest' _ _ hc hl _ _ ih =>
    obtain ⟨heq, hletters⟩ := readLetters_whole_eq hl
    rw [heq] at hsober ⊢
    have hverbose := Flags.foldl_set_verbose true (.inl (hsober.not_verbose hletters)) hsober.scope
    have hgroup : After Balanced ('(' :: '?' :: (added ++ ')' :: rest')) rest' :=
      .group (.mark (.of_append (letters_plain hletters).balanced))
    obtain ⟨hrest, hs⟩ := ih (hsober.after hgroup.outside hverbose hverbose)
    exact ⟨hgroup.balanced_trans hrest, hs⟩

end SegmentIndex.Pattern
