import SegmentIndex.PathSpec.Compile
import Mathlib

/-!
# Path specs and their tokens

Every path spec that compiles is one way of writing tokens in normal form, and tokens in normal
form are compiled from what is written for them, and from nothing else. The base of a spec is what
stands before its first star or capture.
-/
namespace SegmentIndex.PathSpec

/-! ## Normal form -/

/-- Whether a text begins with a star or a capture. -/
def startsSpecial : List Char → Bool
  | '*' :: _ => true
  | '(' :: '?' :: '<' :: _ => true
  | _ => false

/-- Whether a text is an identifier of ASCII letters, digits and underscores. -/
def IsIdentifier (cs : List Char) : Prop :=
  ∃ c rest, cs = c :: rest ∧ (c.isAlpha = true ∨ c = '_') ∧ ∀ d ∈ rest,
    d.isAlphanum = true ∨ d = '_'

namespace Token

/-- Whether a token is sound by itself. -/
def Sound : Token → Prop
  | .literal text => text ≠ "" ∧ '*' ∉ text.toList ∧ ¬ captureOpen <:+: text.toList
  | .glob _ => True
  | .capture name pattern =>
    IsIdentifier name.toList ∧ (∃ p, Pattern.compile pattern.toList = .ok p) ∧
      splitClose 0 false (pattern.toList ++ [')']) = some (pattern.toList, [])

/-- Whether a token can stand directly before another one. -/
def Meets : Token → Token → Prop
  | .literal _, .literal _ => False
  | .glob false, .glob _ => False
  | _, _ => True

/-- Whether a token can stand directly before a text. -/
def Fits : Token → List Char → Prop
  | .literal _, rest => rest = [] ∨ startsSpecial rest = true
  | .glob false, rest => rest.head? ≠ some '*'
  | _, _ => True

end Token

/-- Whether tokens are in normal form. -/
structure Normal (tokens : List Token) : Prop where
  sound : ∀ t ∈ tokens, t.Sound
  apart : tokens.IsChain Token.Meets
  names : (captureNames tokens).Nodup

/-- Whether a text is what stands before the first star or capture of another one, or all of it. -/
def StandsBefore (base cs : List Char) : Prop :=
  ∃ rest, cs = base ++ rest ∧ (rest = [] ∨ startsSpecial rest = true) ∧
    ∀ n < base.length, startsSpecial (cs.drop n) = false

@[simp] theorem startsSpecial_star (rest : List Char) : startsSpecial ('*' :: rest) = true := rfl

@[simp] theorem startsSpecial_capture (rest : List Char) :
    startsSpecial (captureOpen ++ rest) = true := rfl

theorem ne_star_of_not_special {c : Char} {rest : List Char}
    (h : startsSpecial (c :: rest) = false) : c ≠ '*' := by
  rintro rfl
  simp at h

theorem ne_capture_of_not_special {c : Char} {rest more : List Char}
    (h : startsSpecial (c :: rest) = false)
    (hc : c = '(') : rest ≠ '?' :: '<' :: more := by
  rintro rfl
  subst hc
  simp [startsSpecial] at h

theorem not_special {c : Char} {rest : List Char} (hstar : c ≠ '*')
    (hcapture : ¬ captureOpen <+: c :: rest) : startsSpecial (c :: rest) = false := by
  unfold startsSpecial
  split
  · simp_all
  · simp_all [captureOpen]
  · rfl

/-! ## Captures -/

theorem map_putBefore_eq_some {cs p r : List Char} {o : Option (List Char × List Char)}
    (h : o.map (putBefore cs) = some (p, r)) : ∃ p', o = some (p', r) ∧ p = cs ++ p' := by
  obtain ⟨⟨p', r'⟩, ho, he⟩ := Option.map_eq_some_iff.mp h
  simp only [putBefore, Prod.mk.injEq] at he
  exact ⟨p', by rw [ho, he.2], he.1.symm⟩

theorem splitClose_inClass (depth : Nat) {c : Char} (rest : List Char) (hc : c ≠ '\\') :
    splitClose depth true (c :: rest) = (splitClose depth (c ≠ ']') rest).map (putBefore [c]) := by
  rw [splitClose] <;> simp_all

theorem splitClose_class (depth : Nat) {rest : List Char} (h : ∀ more, rest ≠ ']' :: more)
    (h' : ∀ more, rest ≠ '^' :: ']' :: more) :
    splitClose depth false ('[' :: rest) = (splitClose depth true rest).map (putBefore ['[']) := by
  rw [splitClose] <;> simp_all

theorem splitClose_other (depth : Nat) {c : Char} (rest : List Char) (hescape : c ≠ '\\')
    (hclass : c ≠ '[')
    (hopen : c ≠ '(') (hclose : c ≠ ')') :
    splitClose depth false (c :: rest) = (splitClose depth false rest).map (putBefore [c]) := by
  rw [splitClose] <;> simp_all

/-- Where a capture is closed does not depend on what follows if
that holds after its first characters. -/
theorem splitClose_putBefore {depth depth' : Nat} {inClass inClass' : Bool}
    {cs rest p r : List Char}
    (h : (splitClose depth' inClass' rest).map (putBefore cs) = some (p, r))
    (ih : ∀ {p}, splitClose depth' inClass' rest = some (p, r) →
      rest = p ++ ')' :: r ∧ ∀ r', splitClose depth' inClass' (p ++ ')' :: r') = some (p, r'))
    (hstep : ∀ p', rest = p' ++ ')' :: r →
    ∀ r', splitClose depth inClass (cs ++ (p' ++ ')' :: r')) =
      (splitClose depth' inClass' (p' ++ ')' :: r')).map (putBefore cs)) :
    cs ++ rest = p ++ ')' :: r ∧ ∀ r', splitClose depth inClass (p ++ ')' :: r') =
      some (p, r') := by
  obtain ⟨p', ho, rfl⟩ := map_putBefore_eq_some h
  obtain ⟨hrest, hall⟩ := ih ho
  refine ⟨by rw [hrest, List.append_assoc], fun r' => ?_⟩
  rw [List.append_assoc, hstep p' hrest r', hall]
  rfl

theorem splitClose_spec {depth : Nat} {inClass : Bool} {cs p r : List Char}
    (h : splitClose depth inClass cs = some (p, r)) :
    cs = p ++ ')' :: r ∧ ∀ r', splitClose depth inClass (p ++ ')' :: r') = some (p, r') := by
  fun_induction splitClose depth inClass cs generalizing p with
  | case1 => simp at h
  | case2 => simp at h
  | case3 depth inClass c rest ih =>
    exact splitClose_putBefore h ih fun p' _ r' => by simp [splitClose]
  | case4 depth c rest hend hescape ih =>
    refine splitClose_putBefore h ih fun p' hp' r' => splitClose_inClass depth _ ?_
    rintro rfl
    cases rest with
    | nil => exact hend rfl rfl
    | cons x more => exact hescape x more rfl rfl
  | case5 depth rest ih => exact splitClose_putBefore h ih fun p' _ r' => by simp [splitClose]
  | case6 depth rest ih => exact splitClose_putBefore h ih fun p' _ r' => by simp [splitClose]
  | case7 depth rest hnot hclose ih =>
    -- a bracket that is not closed at once is not closed at once by what follows the capture either
    refine splitClose_putBefore h ih fun p' hp' r' => splitClose_class depth ?_ ?_
    · match p' with
      | [] => simp
      | x :: p' => simp_all
    · match p' with
      | [] => simp
      | [x] => simp
      | x :: y :: p' => simp_all
  | case8 depth rest ih => exact splitClose_putBefore h ih fun p' _ r' => by simp [splitClose]
  | case9 rest => simp_all [splitClose]
  | case10 depth rest ih => exact splitClose_putBefore h ih fun p' _ r' => by simp [splitClose]
  | case11 depth c rest hend hescape _ _ hclass hopen hzero hsucc ih =>
    have hclose : c ≠ ')' := by
      intro hc
      cases depth with
      | zero => exact hzero rfl hc
      | succ depth => exact hsucc depth rfl hc
    refine splitClose_putBefore h ih fun p' hp' r' =>
      splitClose_other depth _ ?_ (fun hc => hclass hc) (fun hc => hopen hc) hclose
    rintro rfl
    cases rest with
    | nil => exact hend rfl rfl
    | cons x more => exact hescape x more rfl rfl

theorem isCaptureName_iff {cs : List Char} : isCaptureName cs = true ↔ IsIdentifier cs := by
  cases cs with
  | nil => simp [isCaptureName, IsIdentifier]
  | cons c rest => simp [isCaptureName, IsIdentifier, isNameStart, isNameRest]

theorem IsIdentifier.not_mem {cs : List Char} (h : IsIdentifier cs) : '>' ∉ cs := by
  obtain ⟨c, rest, rfl, hc, hrest⟩ := h
  intro hm
  rcases List.mem_cons.mp hm with rfl | hm
  · revert hc
    decide
  · have := hrest _ hm
    revert this
    decide

theorem takeWhile_ne {cs : List Char} (h : '>' ∉ cs) : cs.takeWhile (· ≠ '>') = cs := by
  rw [List.takeWhile_eq_self_iff]
  intro c hc
  simp only [decide_eq_true_eq]
  rintro rfl
  exact h hc

theorem takeWhile_name {name : List Char} (h : '>' ∉ name) (body : List Char) :
    (name ++ '>' :: body).takeWhile (· ≠ '>') = name := by
  rw [List.takeWhile_append, takeWhile_ne h]
  simp

theorem mem_of_scanCapture {cs rest : List Char} {name pattern : String}
    (h : scanCapture cs = .ok (name, pattern, rest)) : '>' ∈ cs := by
  by_contra hm
  unfold scanCapture at h
  simp only [takeWhile_ne hm, List.drop_length] at h
  cases h

theorem scanCapture_eq_ok_iff {cs rest : List Char} {name pattern : String} :
    scanCapture cs = .ok (name, pattern, rest) ↔
      (Token.capture name pattern).Sound ∧ cs = name.toList ++
        '>' :: (pattern.toList ++ ')' :: rest) := by
  constructor
  · intro h
    obtain ⟨nameText, body, rfl, hm⟩ := List.eq_append_cons_of_mem (mem_of_scanCapture h)
    unfold scanCapture at h
    simp only [takeWhile_name hm, List.drop_left] at h
    split_ifs at h with hempty hname
    cases hs : splitClose 0 false body with
    | none => simp [hs] at h
    | some split =>
      obtain ⟨p, r⟩ := split
      simp only [hs] at h
      cases hp : Pattern.compile p with
      | error f => cases f <;> simp [hp] at h
      | ok program =>
        simp only [hp, Except.ok.injEq, Prod.mk.injEq] at h
        obtain ⟨rfl, rfl, rfl⟩ := h
        obtain ⟨rfl, hall⟩ := splitClose_spec hs
        simp only [Token.Sound, String.toList_ofList, and_true]
        exact ⟨isCaptureName_iff.mp (by simpa using hname), ⟨program, hp⟩, hall []⟩
  · rintro ⟨⟨hname, ⟨program, hp⟩, hclose⟩, rfl⟩
    have hne : name.toList.isEmpty = false := by
      obtain ⟨c, more, hcs, -⟩ := hname
      rw [hcs]
      rfl
    have hsplit := (splitClose_spec hclose).2 rest
    simp only [scanCapture, takeWhile_name hname.not_mem, List.drop_left, hne,
      isCaptureName_iff.mpr hname, hsplit, String.ofList_toList, hp, Bool.not_true,
      Bool.false_eq_true, if_false]

/-! ## Literal text -/

theorem spanLiteral_cons {c : Char} {rest : List Char} (h : startsSpecial (c :: rest) = false) :
    spanLiteral (c :: rest) = putBefore [c] (spanLiteral rest) := by
  rw [spanLiteral]
  · exact fun hc => ne_star_of_not_special h hc
  · exact fun more hc hrest => ne_capture_of_not_special h hc hrest

theorem spanLiteral_of_special {cs : List Char} (h : cs = [] ∨ startsSpecial cs = true) :
    spanLiteral cs = ([], cs) := by
  rcases h with rfl | h
  · rfl
  · unfold startsSpecial at h
    split at h
    · rfl
    · rfl
    · simp at h

theorem not_special_append {c : Char} {cs rest : List Char} (hstar : '*' ∉ c :: cs)
    (hcapture : ¬ captureOpen <:+: c :: cs) (hr : rest = [] ∨ startsSpecial rest = true) :
    startsSpecial (c :: (cs ++ rest)) = false := by
  refine not_special (fun hc => hstar (by simp [hc])) fun hp => ?_
  -- the opening of a capture lies within the plain text, or what follows
  -- begins with its second or third character
  match cs with
  | [] =>
    rcases hr with rfl | hr
    · simp [captureOpen] at hp
    · unfold startsSpecial at hr
      split at hr <;> simp_all [captureOpen]
  | [d] =>
    rcases hr with rfl | hr
    · simp [captureOpen] at hp
    · unfold startsSpecial at hr
      split at hr <;> simp_all [captureOpen]
  | d :: e :: more =>
    refine hcapture (List.IsPrefix.isInfix ?_)
    simpa [captureOpen] using hp

theorem spanLiteral_append {cs rest : List Char} (hstar : '*' ∉ cs)
    (hcapture : ¬ captureOpen <:+: cs)
    (hr : rest = [] ∨ startsSpecial rest = true) : spanLiteral (cs ++ rest) = (cs, rest) := by
  induction cs with
  | nil => exact spanLiteral_of_special hr
  | cons c cs ih =>
    have hcs : ¬ captureOpen <:+: cs := fun h => hcapture (h.trans (List.suffix_cons c cs).isInfix)
    rw [List.cons_append, spanLiteral_cons (not_special_append hstar hcapture hr),
      ih (fun h => hstar (List.mem_cons_of_mem _ h)) hcs]
    rfl

theorem spanLiteral_spec (cs : List Char) :
    ∃ text rest, spanLiteral cs = (text, rest) ∧ cs = text ++ rest ∧
    '*' ∉ text ∧ ¬ captureOpen <:+: text ∧ (rest = [] ∨ startsSpecial rest = true) := by
  induction cs with
  | nil => exact ⟨[], [], rfl, rfl, by simp, by simp [captureOpen], .inl rfl⟩
  | cons c cs ih =>
    cases hs : startsSpecial (c :: cs) with
    | true =>
      exact ⟨[], c :: cs, spanLiteral_of_special (.inr hs),
        rfl, by simp, by simp [captureOpen], .inr hs⟩
    | false =>
      obtain ⟨text, rest, hspan, rfl, hstar, hcapture, hr⟩ := ih
      refine ⟨c :: text, rest, by rw [spanLiteral_cons hs, hspan]; rfl, rfl, ?_, ?_, hr⟩
      · simp [hstar, (ne_star_of_not_special hs).symm]
      · rw [List.infix_cons_iff]
        rintro (hp | hp)
        · have : captureOpen <+: c :: (text ++ rest) := hp.trans ⟨rest, rfl⟩
          obtain ⟨more, hmore⟩ := this
          rw [← hmore] at hs
          simp at hs
        · exact hcapture hp

/-! ## One token -/

/-- A token fits what is written for a sound one exactly when it can stand before it. -/
theorem Token.fits_render {t u : Token} (hu : u.Sound) {rest : List Char} (hf : u.Fits rest) :
    t.Fits (u.render ++ rest) ↔ t.Meets u := by
  cases u with
  | literal text =>
    obtain ⟨hne, hstar, hcapture⟩ := hu
    obtain ⟨c, cs, hcs⟩ := List.exists_cons_of_ne_nil (fun h => hne (String.toList_eq_nil_iff.mp h))
    rw [hcs] at hstar hcapture
    have hc : c ≠ '*' := fun hc => hstar (by simp [hc])
    match t with
    | .literal _ => simp [Fits, Meets, render, hcs, not_special_append hstar hcapture hf]
    | .glob false => simp [Fits, Meets, render, hcs, hc]
    | .glob true => simp [Fits, Meets]
    | .capture .. => simp [Fits, Meets]
  | glob recursive =>
    match t with
    | .literal _ => cases recursive <;> simp [Fits, Meets, render]
    | .glob false => cases recursive <;> simp [Fits, Meets, render]
    | .glob true => simp [Fits, Meets]
    | .capture .. => simp [Fits, Meets]
  | capture name pattern =>
    match t with
    | .literal _ => simp [Fits, Meets, render]
    | .glob false => simp [Fits, Meets, render, captureOpen]
    | .glob true => simp [Fits, Meets]
    | .capture .. => simp [Fits, Meets]

variable {spec : String} {fuel position : Nat} {seen : List String}

theorem compileFrom_literal {c : Char} {cs text rest : List Char}
    (h : startsSpecial (c :: cs) = false) (hs : spanLiteral (c :: cs) = (text, rest)) :
    compileFrom spec (fuel + 1) position seen (c :: cs) =
      (compileFrom spec fuel (position + text.length) seen rest).map
        (Token.literal (String.ofList text) :: ·) := by
  rw [compileFrom]
  · simp only [hs]
  · exact fun more hc => ne_capture_of_not_special h hc
  · exact fun more hc => absurd hc (ne_star_of_not_special h)
  · exact fun hc => ne_star_of_not_special h hc

theorem compileFrom_capture {cs rest : List Char} {name pattern : String}
    (h : scanCapture cs = .ok (name, pattern, rest)) (hn : name ∉ seen) :
    compileFrom spec (fuel + 1) position seen (captureOpen ++ cs) =
      (compileFrom spec fuel (position + 3 + cs.length - rest.length) (name :: seen) rest).map
        (Token.capture name pattern :: ·) := by
  have hnot : seen.contains name = false := by simpa using hn
  simp only [captureOpen, List.cons_append, List.nil_append, compileFrom, h, hnot]
  rfl

theorem compileFrom_duplicate {cs rest : List Char} {name pattern : String}
    (h : scanCapture cs = .ok (name, pattern, rest)) (hn : name ∈ seen) :
    compileFrom spec (fuel + 1) position seen (captureOpen ++ cs) =
      .error (.path (.duplicateName name) spec position) := by
  have hmem : seen.contains name = true := by simpa using hn
  simp only [captureOpen, List.cons_append, List.nil_append, compileFrom, h, hmem]
  rfl

theorem compileFrom_fault {cs : List Char} {fault : PathFault ⊕ Pattern.Fault}
    (h : scanCapture cs = .error fault) :
    compileFrom spec (fuel + 1) position seen (captureOpen ++ cs) =
      .error (fault.elim (.path · spec position) .pattern) := by
  cases fault <;>
    simp only [captureOpen, List.cons_append, List.nil_append, compileFrom, h, Sum.elim_inl,
    Sum.elim_inr]

theorem compileFrom_render {t : Token} (ht : t.Sound) {rest : List Char} (hf : t.Fits rest)
    (hn : ∀ name ∈ t.captureName?, name ∉ seen) :
    compileFrom spec (fuel + 1) position seen (t.render ++ rest) =
      (compileFrom spec fuel (position + t.render.length) (t.captureName?.toList ++ seen) rest).map
        (t :: ·) := by
  match t with
  | .literal text =>
    obtain ⟨hne, hstar, hcapture⟩ := ht
    have hspan := spanLiteral_append hstar hcapture hf
    obtain ⟨c, cs, hcs⟩ := List.exists_cons_of_ne_nil (fun h => hne (String.toList_eq_nil_iff.mp h))
    rw [hcs] at hstar hcapture hspan
    have htext : text = String.ofList (c :: cs) := by rw [← hcs, String.ofList_toList]
    rw [Token.render, hcs, htext]
    exact compileFrom_literal (not_special_append hstar hcapture hf) hspan
  | .glob true => simp [Token.render, compileFrom, Token.captureName?]
  | .glob false =>
    rw [Token.render, List.singleton_append, compileFrom]
    · rfl
    · rintro more rfl
      simp [Token.Fits] at hf
  | .capture name pattern =>
    have hcs : (Token.capture name pattern).render ++ rest =
        captureOpen ++ (name.toList ++ '>' :: (pattern.toList ++ ')' :: rest)) := by
      simp [Token.render]
    rw [hcs, compileFrom_capture (scanCapture_eq_ok_iff.mpr ⟨ht, rfl⟩) (hn name rfl)]
    congr 2
    simp [Token.render, captureOpen]
    omega

/-- A text that is not empty begins with a sound token before what it fits,
or with a capture that cannot be read. -/
theorem exists_token {cs : List Char} (hne : cs ≠ []) :
    (∃ (t : Token) (rest : List Char), cs = t.render ++ rest ∧ t.Sound ∧ t.Fits rest) ∨
      ∃ after fault, cs = captureOpen ++ after ∧ scanCapture after = .error fault := by
  obtain ⟨c, cs, rfl⟩ := List.exists_cons_of_ne_nil hne
  cases hs : startsSpecial (c :: cs) with
  | false =>
    obtain ⟨text, rest, hspan, hcs, hstar, hcapture, hr⟩ := spanLiteral_spec (c :: cs)
    have hne : text ≠ [] := by
      rintro rfl
      rw [spanLiteral_cons hs] at hspan
      simp [putBefore] at hspan
    refine .inl ⟨.literal (String.ofList text), rest, ?_, ⟨?_, ?_⟩, hr⟩
    · rw [hcs, Token.render, String.toList_ofList]
    · rw [Ne, ← String.toList_eq_nil_iff, String.toList_ofList]
      exact hne
    · rw [String.toList_ofList]
      exact ⟨hstar, hcapture⟩
  | true =>
    unfold startsSpecial at hs
    split at hs
    · rename_i rest heq
      obtain ⟨rfl, rfl⟩ := List.cons.inj heq
      by_cases hstar : ∃ more, cs = '*' :: more
      · obtain ⟨rest, rfl⟩ := hstar
        exact .inl ⟨.glob true, rest, rfl, trivial, trivial⟩
      · refine .inl ⟨.glob false, cs, rfl, trivial, fun hhead => ?_⟩
        obtain ⟨tail, htail⟩ := List.head?_eq_some_iff.mp hhead
        exact hstar ⟨tail, htail⟩
    · rename_i rest heq
      obtain ⟨rfl, rfl⟩ := List.cons.inj heq
      cases hscan : scanCapture rest with
      | error fault => exact .inr ⟨rest, fault, rfl, hscan⟩
      | ok found =>
        obtain ⟨name, pattern, rest'⟩ := found
        obtain ⟨hsound, rfl⟩ := scanCapture_eq_ok_iff.mp hscan
        exact .inl ⟨.capture name pattern, rest', by simp [Token.render, captureOpen],
          hsound, trivial⟩
    · simp at hs

theorem compileFrom_used {t : Token} (ht : t.Sound) {name : String} (ha : name ∈ t.captureName?)
    (hn : name ∈ seen)
    (rest : List Char) : compileFrom spec (fuel + 1) position seen (t.render ++ rest) =
      .error (.path (.duplicateName name) spec position) := by
  match t with
  | .literal _ | .glob _ => simp [Token.captureName?] at ha
  | .capture name' pattern =>
    obtain rfl : name' = name := by simpa [Token.captureName?] using ha
    have hcs : (Token.capture name' pattern).render ++ rest =
        captureOpen ++ (name'.toList ++ '>' :: (pattern.toList ++ ')' :: rest)) := by
      simp [Token.render]
    rw [hcs]
    exact compileFrom_duplicate (scanCapture_eq_ok_iff.mpr ⟨ht, rfl⟩) hn

/-- What compiles begins with a sound token before what it fits, and the rest compiles. -/
theorem compileFrom_cases {cs : List Char} {tokens : List Token}
    (h : compileFrom spec (fuel + 1) position seen cs = .ok tokens) :
    cs = [] ∧ tokens = [] ∨ ∃ t rest more position', cs = t.render ++ rest ∧
      tokens = t :: more ∧ t.Sound ∧
      t.Fits rest ∧ (∀ name ∈ t.captureName?, name ∉ seen) ∧
      compileFrom spec fuel position' (t.captureName?.toList ++ seen) rest = .ok more := by
  rcases eq_or_ne cs [] with rfl | hne
  · exact .inl ⟨rfl, (Except.ok.inj h).symm⟩
  rcases exists_token hne with ⟨t, rest, rfl, ht, hf⟩ | ⟨after, fault, rfl, hscan⟩
  · by_cases hn : ∃ name ∈ t.captureName?, name ∈ seen
    · obtain ⟨name, ha, hn⟩ := hn
      rw [compileFrom_used ht ha hn] at h
      cases h
    · have hn : ∀ name ∈ t.captureName?, name ∉ seen := fun name ha hm => hn ⟨name, ha, hm⟩
      rw [compileFrom_render ht hf hn] at h
      cases hmore : compileFrom spec fuel (position + t.render.length) (t.captureName?.toList ++
        seen) rest with
      | error e =>
        rw [hmore] at h
        cases h
      | ok more =>
        rw [hmore] at h
        cases h
        exact .inr ⟨t, rest, more, _, rfl, rfl, ht, hf, hn, hmore⟩
  · rw [compileFrom_fault hscan] at h
    cases h

/-! ## All tokens -/

theorem captureNames_cons (t : Token) (tokens : List Token) :
    captureNames (t :: tokens) = t.captureName?.toList ++ captureNames tokens := by
  cases h : t.captureName? <;> simp [captureNames, h]

theorem normal_nil : Normal [] := ⟨by simp, .nil, by simp [captureNames]⟩

/-- A first token of tokens in normal form is sound, can stand before
the next one and has a name of its own. -/
theorem normal_cons_iff {t : Token} {tokens : List Token} :
    Normal (t :: tokens) ↔ Normal tokens ∧ t.Sound ∧
    (∀ u ∈ tokens.head?, t.Meets u) ∧ ∀ name ∈ t.captureName?, name ∉ captureNames tokens := by
  have hnames : (captureNames (t :: tokens)).Nodup ↔
      (captureNames tokens).Nodup ∧ ∀ name ∈ t.captureName?, name ∉ captureNames tokens := by
    rw [captureNames_cons]
    cases t.captureName? <;> simp [and_comm]
  constructor
  · rintro ⟨hs, ha, hn⟩
    rw [List.isChain_cons] at ha
    rw [hnames] at hn
    exact ⟨⟨fun u hu => hs u (List.mem_cons_of_mem _ hu), ha.2, hn.1⟩, hs t List.mem_cons_self,
      ha.1, hn.2⟩
  · rintro ⟨⟨hs, ha, hn⟩, ht, hmeets, hname⟩
    exact ⟨List.forall_mem_cons.mpr ⟨ht, hs⟩, List.isChain_cons.mpr ⟨hmeets, ha⟩,
      hnames.mpr ⟨hn, hname⟩⟩

/-- The names of tokens are new, each to the tokens and to the names before them, if the first one
is new to the names before it and the others are new with it put in front. -/
theorem fresh_cons_iff {t : Token} {tokens : List Token} :
    ((∀ name ∈ t.captureName?, name ∉ captureNames tokens) ∧ ∀ name ∈ captureNames (t :: tokens),
      name ∉ seen) ↔
      (∀ name ∈ t.captureName?, name ∉ seen) ∧
        ∀ name ∈ captureNames tokens, name ∉ t.captureName?.toList ++ seen := by
  rw [captureNames_cons]
  cases t.captureName? with
  | none => simp
  | some n =>
    simp only [Option.mem_some_iff, forall_eq', Option.toList_some, List.singleton_append,
      List.mem_cons, not_or]
    constructor
    · rintro ⟨hn, h⟩
      exact ⟨h n (.inl rfl), fun name hm => ⟨fun heq => hn (heq ▸ hm), h name (.inr hm)⟩⟩
    · rintro ⟨hn, h⟩
      exact ⟨fun hm => (h n hm).1 rfl, fun name hm => hm.elim (fun heq => heq ▸ hn) fun hm =>
        (h name hm).2⟩

theorem Token.fits_nil (t : Token) : t.Fits [] := by
  match t with
  | .literal _ | .glob false | .glob true | .capture .. => simp [Token.Fits]

theorem Token.fits_capture (t : Token) (rest : List Char) : t.Fits (captureOpen ++ rest) := by
  match t with
  | .literal _ | .glob false | .glob true | .capture .. =>
    simp [Token.Fits, captureOpen, startsSpecial]

/-- Before tokens in normal form that stand before what every token fits, a token fits if
it can stand before the first of them. -/
theorem Normal.fits_append_iff {tokens : List Token} (h : Normal tokens) {rest : List Char}
    (hrest : ∀ u : Token, u.Fits rest) (t : Token) :
    t.Fits (render tokens ++ rest) ↔ ∀ u ∈ tokens.head?, t.Meets u := by
  induction tokens generalizing t with
  | nil => simpa using hrest t
  | cons u tokens ih =>
    obtain ⟨hnormal, hu, hmeets, -⟩ := normal_cons_iff.mp h
    rw [render_cons, List.append_assoc, Token.fits_render hu ((ih hnormal u).mpr hmeets)]
    simp

/-- Before tokens in normal form, a token fits what is written for them if
it can stand before the first of them. -/
theorem Normal.fits_iff {tokens : List Token} (h : Normal tokens) (t : Token) :
    t.Fits (render tokens) ↔ ∀ u ∈ tokens.head?, t.Meets u := by
  simpa using h.fits_append_iff Token.fits_nil t

theorem Token.Sound.render_ne_nil {t : Token} (h : t.Sound) : t.render ≠ [] := by
  match t with
  | .literal text => exact fun hnil => h.1 (String.toList_eq_nil_iff.mp hnil)
  | .glob true | .glob false | .capture .. => simp [Token.render, captureOpen]

theorem compileFrom_nil : compileFrom spec fuel position seen [] = .ok [] := by
  cases fuel <;> rfl

/-- With a step for each character, a text is compiled to the tokens
in normal form that are written as it. -/
theorem compileFrom_eq_ok_iff {cs : List Char} (hfuel : cs.length ≤ fuel) {tokens : List Token} :
    compileFrom spec fuel position seen cs = .ok tokens ↔
      Normal tokens ∧ render tokens = cs ∧ ∀ name ∈ captureNames tokens, name ∉ seen := by
  induction fuel generalizing position seen cs tokens with
  | zero =>
    obtain rfl := List.eq_nil_of_length_eq_zero (Nat.le_zero.mp hfuel)
    rw [compileFrom_nil, Except.ok.injEq]
    constructor
    · rintro rfl
      exact ⟨normal_nil, rfl, by simp [captureNames]⟩
    · rintro ⟨hn, hr, -⟩
      cases tokens with
      | nil => rfl
      | cons t tokens =>
        have := (normal_cons_iff.mp hn).2.1.render_ne_nil
        simp_all
  | succ fuel ih =>
    have hlength : ∀ {t : Token} {rest : List Char}, t.Sound → (t.render ++ rest).length ≤
      fuel + 1 →
        rest.length ≤ fuel := by
      intro t rest ht hle
      have := List.length_pos_of_ne_nil ht.render_ne_nil
      rw [List.length_append] at hle
      omega
    constructor
    · intro h
      rcases compileFrom_cases h with ⟨rfl, rfl⟩
        | ⟨t, rest, more, position', rfl, rfl, ht, hf, hn, hmore⟩
      · exact ⟨normal_nil, rfl, by simp [captureNames]⟩
      · obtain ⟨hnormal, rfl, hnames⟩ := (ih (hlength ht hfuel)).mp hmore
        obtain ⟨hname, hnames⟩ := fresh_cons_iff.mpr ⟨hn, hnames⟩
        exact ⟨normal_cons_iff.mpr ⟨hnormal, ht, (hnormal.fits_iff t).mp hf, hname⟩, rfl, hnames⟩
    · rintro ⟨hn, rfl, hnames⟩
      cases tokens with
      | nil => exact compileFrom_nil
      | cons t tokens =>
        obtain ⟨hnormal, ht, hmeets, hname⟩ := normal_cons_iff.mp hn
        obtain ⟨hfresh, hnames⟩ := fresh_cons_iff.mp ⟨hname, hnames⟩
        have hfits : t.Fits (render tokens) := (hnormal.fits_iff t).mpr hmeets
        have hmore : compileFrom spec fuel (position + t.render.length)
          (t.captureName?.toList ++ seen)
            (render tokens) = .ok tokens := (ih (hlength ht hfuel)).mpr ⟨hnormal, rfl, hnames⟩
        rw [render_cons, compileFrom_render ht hfits hfresh, hmore]
        rfl

/-- A path spec compiles to the one sequence of tokens in normal form that is written as it. -/
theorem compile_eq_ok_iff {path : String} {tokens : List Token} :
    compile path = .ok tokens ↔ Normal tokens ∧ render tokens = path.toList := by
  rw [compile, compileFrom_eq_ok_iff (Nat.le_of_eq String.length_toList)]
  simp

/-! ## The base -/

theorem standsBefore_append {cs rest : List Char} (hstar : '*' ∉ cs)
    (hcapture : ¬ captureOpen <:+: cs)
    (hr : rest = [] ∨ startsSpecial rest = true) : StandsBefore cs (cs ++ rest) := by
  refine ⟨rest, rfl, hr, fun n hn => ?_⟩
  have hsuffix : cs.drop n <:+ cs := List.drop_suffix n cs
  rw [List.drop_append_of_le_length hn.le]
  rw [List.drop_eq_getElem_cons hn] at hsuffix ⊢
  exact not_special_append (fun hm => hstar (hsuffix.subset hm)) (fun hi =>
    hcapture (hi.trans hsuffix.isInfix)) hr

/-- The base of tokens in normal form is what stands before the first star or capture. -/
theorem Normal.standsBefore {tokens : List Token} (h : Normal tokens) :
    StandsBefore (baseOf tokens).toList (render tokens) := by
  have hempty : ∀ {cs : List Char}, cs = [] ∨ startsSpecial cs = true → StandsBefore [] cs :=
    standsBefore_append (by simp) (by simp [captureOpen])
  match tokens with
  | [] => exact hempty (.inl rfl)
  | .glob true :: _ | .glob false :: _ | .capture .. :: _ => exact hempty (.inr rfl)
  | .literal text :: tokens =>
    obtain ⟨hnormal, ⟨-, hstar, hcapture⟩, hmeets, -⟩ := normal_cons_iff.mp h
    have hbase : baseOf tokens = "" := by
      match tokens with
      | [] | .glob _ :: _ | .capture .. :: _ => rfl
      | .literal _ :: _ => simp [Token.Meets] at hmeets
    rw [baseOf_literal, hbase, String.append_empty]
    exact standsBefore_append hstar hcapture ((hnormal.fits_iff _).mpr hmeets)

/-! ## Path specs and tokens in normal form -/

/-- Path specs that compile and tokens in normal form stand for each other: writing the tokens of a
path spec gives the path spec back, and compiling what is written for tokens in normal form gives
the tokens back. The base is what stands before the first star or capture. -/
theorem compile_render_inverse :
    (∀ (path : String) (tokens : List Token), compile path = .ok tokens →
      String.ofList (render tokens) = path ∧ Normal tokens ∧
        StandsBefore (baseOf tokens).toList path.toList) ∧
      ∀ tokens : List Token, Normal tokens →
        compile (String.ofList (render tokens)) = .ok tokens := by
  constructor
  · intro path tokens h
    obtain ⟨hn, hr⟩ := compile_eq_ok_iff.mp h
    exact ⟨by rw [hr, String.ofList_toList], hn, hr ▸ hn.standsBefore⟩
  · intro tokens hn
    exact compile_eq_ok_iff.mpr ⟨hn, by rw [String.toList_ofList]⟩

/-- A path spec whose literal text, stars and bracket look alike to what they stand next to. -/
def crowded : List Token :=
  [.literal "/d(", .capture "v" "[)](?:a|b)+", .glob true, .glob false, .literal "(?",
    .capture "_n1" "\\)*"]

theorem compile_crowded : compile "/d((?<v>[)](?:a|b)+)***(?(?<_n1>\\)*)" = .ok crowded := by cbv

theorem crowded_inverse :
    String.ofList (render crowded) = "/d((?<v>[)](?:a|b)+)***(?(?<_n1>\\)*)" ∧ Normal crowded ∧
      compile (String.ofList (render crowded)) = .ok crowded := by
  obtain ⟨hr, hn, -⟩ := compile_render_inverse.1 _ _ compile_crowded
  exact ⟨hr, hn, compile_render_inverse.2 crowded hn⟩

end SegmentIndex.PathSpec
