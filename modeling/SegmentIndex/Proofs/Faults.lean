import SegmentIndex.Proofs.Brackets

/-!
# Faults of path specs

A path spec is refused at the first capture that is at fault: what stands before it compiles by
itself, so that it does not matter to a position what follows.
-/
namespace SegmentIndex.PathSpec

open Pattern

/-! ## Captures at fault -/

/-- What is wrong with the text after the opening of a capture,
given the names of the captures before it. -/
inductive Broken (names : List String) : List Char → PathFault → Prop
  | missingNameEnd {cs : List Char} : '>' ∉ cs → Broken names cs .missingNameEnd
  | emptyName {cs : List Char} : Broken names ('>' :: cs) .emptyName
  | badName {name cs : List Char} : name ≠ [] → '>' ∉ name → ¬ IsIdentifier name →
    Broken names (name ++ '>' :: cs) (.badName (String.ofList name))
  | unclosed {name cs : List Char} : IsIdentifier name →
    (∀ p rest, cs = p ++ ')' :: rest → ¬ Balanced p) →
    Broken names (name ++ '>' :: cs) (.unclosed (String.ofList name))
  | badPattern {name p rest : List Char} {reason : String} : IsIdentifier name → Balanced p →
    Pattern.compile p = .error (.malformed reason) →
    Broken names (name ++ '>' :: (p ++ ')' :: rest))
      (.badPattern (String.ofList p) (String.ofList name) reason)
  | duplicateName {name p rest : List Char} {program : Program} : IsIdentifier name → Balanced p →
    Pattern.compile p = .ok program → String.ofList name ∈ names →
    Broken names (name ++ '>' :: (p ++ ')' :: rest)) (.duplicateName (String.ofList name))

variable {names : List String} {cs name p rest after : List Char} {fault : PathFault}

theorem Broken.mono {names' : List String} (h : Broken names cs fault) (hsub : names ⊆ names') :
    Broken names' cs fault := by
  cases h with
  | missingNameEnd h => exact .missingNameEnd h
  | emptyName => exact .emptyName
  | badName hne hend hname => exact .badName hne hend hname
  | unclosed hname hclose => exact .unclosed hname hclose
  | badPattern hname hp hcompile => exact .badPattern hname hp hcompile
  | duplicateName hname hp hcompile hmem => exact .duplicateName hname hp hcompile (hsub hmem)

theorem splitClose_eq_none_iff :
    splitClose 0 false cs = none ↔ ∀ p rest, cs = p ++ ')' :: rest → ¬ Balanced p := by
  rw [Option.eq_none_iff_forall_ne_some]
  constructor
  · intro h p rest hcs hp
    exact h (p, rest) (splitClose_eq_some_iff.mpr ⟨hp, hcs⟩)
  · rintro h ⟨p, rest⟩ hsplit
    obtain ⟨hp, hcs⟩ := splitClose_eq_some_iff.mp hsplit
    exact h p rest hcs hp

theorem isEmpty_false_of_identifier (h : IsIdentifier name) : name.isEmpty = false := by
  obtain ⟨c, more, rfl, -⟩ := h
  rfl

theorem scanCapture_identifier (h : IsIdentifier name) (body : List Char) :
    scanCapture (name ++ '>' :: body) = match splitClose 0 false body with
      | none => .error (.inl (.unclosed (String.ofList name)))
      | some (pattern, rest) =>
        match Pattern.compile pattern with
        | .error (.malformed reason) =>
          .error (.inl (.badPattern (String.ofList pattern) (String.ofList name) reason))
        | .error f => .error (.inr f)
        | .ok _ => .ok (String.ofList name, String.ofList pattern, rest) := by
  unfold scanCapture
  dsimp only
  rw [takeWhile_name h.not_mem, List.drop_left]
  exact (if_neg (by simp [isEmpty_false_of_identifier h])).trans
    (if_neg (by simp [isCaptureName_iff.mpr h]))

theorem Broken.scanCapture_eq (h : Broken [] cs fault) : scanCapture cs = .error (.inl fault) := by
  cases h with
  | missingNameEnd h => simp only [scanCapture, takeWhile_ne h, List.drop_length]
  | emptyName => simp [scanCapture]
  | badName hne hend hname =>
    have hempty : List.isEmpty _ = false := List.isEmpty_eq_false_iff.mpr hne
    have hinvalid : isCaptureName _ = false := Bool.eq_false_iff.mpr fun h =>
      hname (isCaptureName_iff.mp h)
    simp only [scanCapture, takeWhile_name hend, List.drop_left, hempty, hinvalid, Bool.not_false,
      Bool.false_eq_true, if_false, if_true]
  | unclosed hname hclose =>
    simp only [scanCapture_identifier hname, splitClose_eq_none_iff.mpr hclose]
  | badPattern hname hp hcompile =>
    simp only [scanCapture_identifier hname, splitClose_eq_some_iff.mpr ⟨hp, rfl⟩, hcompile]
  | duplicateName _ _ _ hmem => exact absurd hmem List.not_mem_nil

theorem broken_of_scanCapture (h : scanCapture cs = .error (.inl fault)) : Broken [] cs fault := by
  by_cases hm : '>' ∈ cs
  · obtain ⟨name, body, rfl, hname⟩ := List.eq_append_cons_of_mem hm
    by_cases hidentifier : IsIdentifier name
    · rw [scanCapture_identifier hidentifier] at h
      cases hsplit : splitClose 0 false body with
      | none =>
        rw [hsplit] at h
        cases h
        exact .unclosed hidentifier (splitClose_eq_none_iff.mp hsplit)
      | some split =>
        obtain ⟨p, rest⟩ := split
        obtain ⟨hp, rfl⟩ := splitClose_eq_some_iff.mp hsplit
        cases hcompile : Pattern.compile p with
        | error f =>
          simp only [hsplit, hcompile] at h
          cases f with
          | malformed reason =>
            cases h
            exact .badPattern hidentifier hp hcompile
          | _ => cases h
        | ok program => simp [hsplit, hcompile] at h
    · have hinvalid : isCaptureName name = false :=
        Bool.eq_false_iff.mpr fun h => hidentifier (isCaptureName_iff.mp h)
      simp only [scanCapture, takeWhile_name hname, List.drop_left, hinvalid, Bool.not_false,
        if_true] at h
      split_ifs at h with hempty
      · cases h
        rw [List.isEmpty_iff.mp hempty]
        exact .emptyName
      · cases h
        exact .badName (by simpa using hempty) hname hidentifier
  · simp only [scanCapture, takeWhile_ne hm, List.drop_length] at h
    cases h
    exact .missingNameEnd hm

theorem scanCapture_sound {program : Program} (hname : IsIdentifier name) (hp : Balanced p)
    (hcompile : Pattern.compile p = .ok program) (rest : List Char) :
    scanCapture (name ++ '>' :: (p ++ ')' :: rest)) =
      .ok (String.ofList name, String.ofList p, rest) := by
  simp only [scanCapture_identifier hname, splitClose_eq_some_iff.mpr ⟨hp, rfl⟩, hcompile]

/-! ## The first capture at fault -/

variable {spec : String} {fuel position : Nat} {seen : List String} {tokens : List Token}

theorem compileFrom_broken (h : Broken seen cs fault) :
    compileFrom spec (fuel + 1) position seen (captureOpen ++ cs) =
      .error (.path fault spec position) := by
  cases h with
  | missingNameEnd h => exact compileFrom_fault (Broken.scanCapture_eq (.missingNameEnd h))
  | emptyName => exact compileFrom_fault (Broken.scanCapture_eq .emptyName)
  | badName hne hend hname =>
    exact compileFrom_fault (Broken.scanCapture_eq (.badName hne hend hname))
  | unclosed hname hclose =>
    exact compileFrom_fault (Broken.scanCapture_eq (.unclosed hname hclose))
  | badPattern hname hp hcompile =>
    exact compileFrom_fault (Broken.scanCapture_eq (.badPattern hname hp hcompile))
  | duplicateName hname hp hcompile hmem =>
    exact compileFrom_duplicate (scanCapture_sound hname hp hcompile _) hmem

theorem broken_used {t : Token} (ht : t.Sound) {used : String} (ha : used ∈ t.captureName?)
    (hm : used ∈ seen) (rest : List Char) : ∃ after, t.render ++ rest = captureOpen ++ after ∧
      Broken seen after (.duplicateName used) := by
  match t with
  | .literal _ | .glob _ => simp [Token.captureName?] at ha
  | .capture name pattern =>
    obtain rfl : name = used := by simpa [Token.captureName?] using ha
    obtain ⟨hname, ⟨program, hcompile⟩, hclose⟩ := ht
    have hbroken : Broken seen (name.toList ++ '>' :: (pattern.toList ++ ')' :: rest)) _ :=
      .duplicateName hname (splitClose_eq_some_iff.mp hclose).1 hcompile (by simpa using hm)
    rw [String.ofList_toList] at hbroken
    exact ⟨_, by simp [Token.render], hbroken⟩

theorem subset_captureNames (t : Token) (tokens : List Token) (seen : List String) :
    captureNames (t :: tokens) ++ seen ⊆ captureNames tokens ++ (t.captureName?.toList ++ seen) ∧
      captureNames tokens ++ (t.captureName?.toList ++ seen) ⊆ captureNames (t :: tokens) ++
        seen := by
  rw [captureNames_cons]
  constructor <;> intro name hm <;> simp only [List.mem_append] at hm ⊢ <;> tauto

/-- What is refused from a position on has tokens in normal
form before the first capture at fault. -/
theorem exists_broken {spec' : Option String} {position' : Option Nat}
    (h : compileFrom spec fuel position seen cs = .error (.path fault spec' position')) :
    spec' = some spec ∧ ∃ tokens after, Normal tokens ∧
    (∀ name ∈ captureNames tokens, name ∉ seen) ∧
      cs = render tokens ++ (captureOpen ++ after) ∧
        position' = some (position + (render tokens).length) ∧
        Broken (captureNames tokens ++ seen) after fault := by
  induction fuel generalizing position seen cs with
  | zero => cases h
  | succ fuel ih =>
    rcases eq_or_ne cs [] with rfl | hne
    · cases h
    rcases exists_token hne with ⟨t, rest, rfl, ht, hf⟩ | ⟨after, fault', rfl, hscan⟩
    · by_cases hn : ∃ name ∈ t.captureName?, name ∈ seen
      · obtain ⟨name, ha, hn⟩ := hn
        obtain ⟨after, hcs, hbroken⟩ := broken_used ht ha hn rest
        rw [hcs, compileFrom_broken hbroken] at h
        cases h
        exact ⟨rfl, [], after, normal_nil, by simp [captureNames], hcs, rfl, hbroken⟩
      · have hn : ∀ name ∈ t.captureName?, name ∉ seen := fun name ha hm => hn ⟨name, ha, hm⟩
        rw [compileFrom_render ht hf hn] at h
        cases hrest : compileFrom spec fuel (position + t.render.length) (t.captureName?.toList ++
          seen) rest with
        | ok tokens => simp [hrest, Except.map] at h
        | error f =>
          rw [hrest] at h
          cases h
          obtain ⟨hspec, tokens, after, hnormal, hnames, rfl, hposition, hbroken⟩ := ih hrest
          have hmeets := (hnormal.fits_append_iff (fun u => u.fits_capture after) t).mp hf
          obtain ⟨hname, hnames⟩ := fresh_cons_iff.mpr ⟨hn, hnames⟩
          have hall := normal_cons_iff.mpr ⟨hnormal, ht, hmeets, hname⟩
          refine ⟨hspec, t :: tokens, after, hall, hnames, by simp, ?_, ?_⟩
          · rw [hposition, render_cons, List.length_append, Nat.add_assoc]
          · exact hbroken.mono (subset_captureNames t tokens seen).2
    · rw [compileFrom_fault hscan] at h
      cases fault' with
      | inl f =>
        cases h
        exact ⟨rfl, [], after, normal_nil, by simp [captureNames], rfl, rfl,
          (broken_of_scanCapture hscan).mono (List.nil_subset _)⟩
      | inr f => cases h

theorem compileFrom_render_broken (hnormal : Normal tokens)
    (hnames : ∀ name ∈ captureNames tokens, name ∉ seen)
    (h : Broken (captureNames tokens ++ seen) after fault) (hfuel : (render tokens).length < fuel) :
    compileFrom spec fuel position seen (render tokens ++ (captureOpen ++ after)) =
      .error (.path fault spec (position + (render tokens).length)) := by
  induction tokens generalizing fuel position seen with
  | nil =>
    obtain ⟨fuel, rfl⟩ := Nat.exists_eq_add_of_lt hfuel
    exact compileFrom_broken h
  | cons t tokens ih =>
    obtain ⟨hrest, ht, hmeets, hname⟩ := normal_cons_iff.mp hnormal
    obtain ⟨fuel, rfl⟩ := Nat.exists_eq_succ_of_ne_zero (Nat.ne_zero_of_lt hfuel)
    obtain ⟨hfresh, hnames⟩ := fresh_cons_iff.mp ⟨hname, hnames⟩
    have hfits := (hrest.fits_append_iff (fun u => u.fits_capture after) t).mpr hmeets
    have hbroken := h.mono (subset_captureNames t tokens seen).1
    have hlength : (render tokens).length < fuel := by
      have := List.length_pos_of_ne_nil ht.render_ne_nil
      rw [render_cons, List.length_append] at hfuel
      omega
    rw [render_cons, List.append_assoc, compileFrom_render ht hfits hfresh,
      ih hrest hnames hbroken hlength]
    simp only [Except.map, List.length_append, Nat.add_assoc]

/-- A path spec is refused exactly if it has a capture at fault after a text that
compiles by itself: the position is the place of that capture, whose text is at fault
given the names of the captures before it. -/
theorem compile_eq_error_iff {path : String} {fault : PathFault} {spec : Option String}
    {position : Option Nat} :
    compile path = .error (.path fault spec position) ↔
      spec = some path ∧ ∃ before after tokens, path.toList = before ++ captureOpen ++ after ∧
        position = some before.length ∧ compile (String.ofList before) = .ok tokens ∧
          Broken (captureNames tokens) after fault := by
  constructor
  · intro h
    obtain ⟨hspec, tokens, after, hnormal, -, hpath, hposition, hbroken⟩ := exists_broken h
    have hbefore : compile (String.ofList (render tokens)) = .ok tokens :=
      compile_eq_ok_iff.mpr ⟨hnormal, by rw [String.toList_ofList]⟩
    exact ⟨hspec, render tokens, after, tokens, by simpa using hpath, by simpa using hposition,
      hbefore,
      by simpa using hbroken⟩
  · rintro ⟨rfl, before, after, tokens, hpath, rfl, hbefore, hbroken⟩
    obtain ⟨hnormal, hrender⟩ := compile_eq_ok_iff.mp hbefore
    rw [String.toList_ofList] at hrender
    subst hrender
    have hlength : (render tokens).length < path.length := by
      rw [← String.length_toList, hpath]
      simp [captureOpen]
    rw [compile, hpath, List.append_assoc,
      compileFrom_render_broken hnormal (by simp) (by simpa using hbroken) hlength]
    simp

end SegmentIndex.PathSpec
