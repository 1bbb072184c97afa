import SegmentIndex.Proofs.Comments
import SegmentIndex.Proofs.Faults

/-!
# Where captures are closed

The pattern of a capture is read by itself, after the end of the capture was found by its
parentheses. A pattern without comments that does not become verbose is never read a second time, so
all of it is balanced, and its capture is closed by the first parenthesis after it, whatever
follows.
-/
namespace SegmentIndex.Pattern

/-! ## Readers that never ask for the verbose mode -/

/-- Whether a reading does not stop in order to be started again in the verbose mode. -/
def Quiet {α : Type} (o : Except Fault α) : Prop := o ≠ .error .verboseStart

@[simp] theorem quiet_ok {α : Type} (a : α) : Quiet (.ok a : Except Fault α) := by simp [Quiet]

@[simp] theorem quiet_malformed {α : Type} (reason : String) :
    Quiet (.error (.malformed reason) : Except Fault α) := by
  simp [Quiet]

@[simp] theorem quiet_repeatTooLarge {α : Type} :
    Quiet (.error .repeatTooLarge : Except Fault α) := by simp [Quiet]

theorem Quiet.error {α β : Type} {o : Except Fault α} {e : Fault} (h : Quiet o)
    (heq : o = .error e) :
    Quiet (.error e : Except Fault β) := by
  rintro ⟨⟩
  exact h heq

theorem Quiet.map {α β : Type} {o : Except Fault α} (g : α → β) (h : Quiet o) :
    Quiet (o.map g) := by
  cases o with
  | error e => exact h.error rfl
  | ok a => exact quiet_ok _

variable {cs rest : List Char} {f : Flags} {s : Scope} {c : Char}

theorem quiet_readHex (count : Nat) (cs : List Char) : Quiet (readHex count cs) := by
  unfold readHex
  dsimp only
  split_ifs <;> simp

theorem quiet_readOctal (first : Char) (cs : List Char) : Quiet (readOctal first cs) := by
  unfold readOctal
  dsimp only
  split_ifs <;> simp

theorem quiet_readUntil (mark : Char) (cs : List Char) : Quiet (readUntil mark cs) := by
  unfold readUntil
  dsimp only
  split_ifs <;> simp

theorem quiet_readNamed (cs : List Char) : Quiet (readNamed cs) := by
  unfold readNamed
  split
  · split
    · rename_i heq
      exact (quiet_readUntil _ _).error heq
    · split <;> simp
  · simp

theorem quiet_readCode (c : Char) (cs : List Char) : Quiet (readCode c cs) := by
  unfold readCode
  split_ifs
  · exact (quiet_readHex 2 cs).map some
  · exact (quiet_readHex 4 cs).map some
  · exact (quiet_readNamed cs).map some
  · split
    · rename_i heq
      exact (quiet_readHex 8 cs).error heq
    · split_ifs <;> simp
  · simp

theorem quiet_readClassEscape (c : Char) (cs : List Char) : Quiet (readClassEscape c cs) := by
  unfold readClassEscape
  split
  · simp
  · simp
  · by_cases hb : c = 'b'
    · simp [hb]
    rw [if_neg hb]
    split
    · rename_i heq
      exact (quiet_readCode c cs).error heq
    · simp
    · split_ifs
      · exact (quiet_readOctal c cs).map _
      · simp
      · simp

theorem quiet_readMember (cs : List Char) : Quiet (readMember cs) := by
  unfold readMember
  split
  · simp
  · simp
  · exact quiet_readClassEscape _ _
  · simp

theorem quiet_readMembers (fuel : Nat) (items : List Item) (cs : List Char) :
    Quiet (readMembers fuel items cs) := by
  induction fuel generalizing items cs with
  | zero => simp [readMembers]
  | succ fuel ih =>
    have hcontinue : Quiet (readMembers.continueAfter fuel items cs) := by
      unfold readMembers.continueAfter
      split
      · rename_i heq
        exact (quiet_readMember cs).error heq
      · simp
      · split
        · rename_i heq
          exact (quiet_readMember _).error heq
        · split
          · split_ifs
            · simp
            · exact ih _ _
          · simp
      · exact ih _ _
    rw [readMembers.eq_def]
    dsimp only
    split
    · split_ifs
      · exact hcontinue
      · simp
    · exact hcontinue

theorem quiet_readClass (f : Flags) (cs : List Char) : Quiet (readClass f cs) := by
  unfold readClass
  exact (quiet_readMembers _ _ _).map _

theorem quiet_checkBehind (s : Scope) (i : Nat) : Quiet (s.checkBehind i) := by
  unfold Scope.checkBehind
  split
  · simp
  · split_ifs <;> simp

theorem quiet_checkReference (s : Scope) (i : Nat) : Quiet (s.checkReference i) := by
  unfold Scope.checkReference
  split_ifs
  · simp
  · exact quiet_checkBehind s i

theorem quiet_readReference (f : Flags) (s : Scope) (c : Char) (cs : List Char) :
    Quiet (readReference f s c cs) := by
  rw [readReference_eq]
  split_ifs
  · simp
  · simp
  · exact (quiet_checkReference s _).map _
  · simp

theorem quiet_readEscape (f : Flags) (s : Scope) (c : Char) (cs : List Char) :
    Quiet (readEscape f s c cs) := by
  unfold readEscape
  split
  · simp
  · simp
  · simp
  · split
    · rename_i heq
      exact (quiet_readCode c cs).error heq
    · simp
    · split_ifs
      · exact (quiet_readOctal c cs).map _
      · exact (quiet_readReference f s c cs).map _
      · simp
      · simp

theorem quiet_readBounds (cs : List Char) : Quiet (readBounds cs) := by
  unfold readBounds
  split
  · simp
  · dsimp only
    split
    · repeat' split
      all_goals simp
    · simp

theorem quiet_skipLine (cs : List Char) : Quiet (skipLine cs) := by
  fun_induction skipLine cs <;> simp_all

theorem quiet_repeatLast (items : List (Kind × Node)) (least : Nat) (most : Option Nat)
    (cs : List Char) :
    Quiet (repeatLast items least most cs) := by
  unfold repeatLast
  split <;> simp

theorem quiet_readName (mark : Char) (cs : List Char) : Quiet (readName mark cs) := by
  unfold readName
  split
  · rename_i heq
    exact (quiet_readUntil mark cs).error heq
  · split_ifs <;> simp

theorem quiet_skipComment (cs : List Char) : Quiet (skipComment cs) := by
  fun_induction skipComment cs <;> simp_all

theorem quiet_readAdded (added cs : List Char) : Quiet (readAdded added cs) := by
  fun_induction readAdded added cs <;> simp_all

theorem quiet_readRemoved (removed cs : List Char) : Quiet (readRemoved removed cs) := by
  fun_induction readRemoved removed cs <;> simp_all

theorem quiet_readLetters (cs : List Char) : Quiet (readLetters cs) := by
  unfold readLetters
  simp only [bind, Except.bind, pure, Except.pure, throw, throwThe, MonadExceptOf.throw]
  repeat' split
  all_goals try simp
  all_goals rename_i heq
  · exact (quiet_readRemoved _ _).error heq
  · exact (quiet_readAdded _ _).error heq
  · exact (quiet_readRemoved _ _).error heq

theorem quiet_conditionGroup (s : Scope) (name : List Char) : Quiet (conditionGroup s name) := by
  unfold conditionGroup
  dsimp only
  split_ifs
  · split <;> simp
  · split <;> simp

theorem quiet_openGroup (s : Scope) (name : Option String) : Quiet (s.openGroup name) := by
  unfold Scope.openGroup
  split
  · simp
  · split_ifs <;> simp
/-! ## The reader of a pattern -/

/-- Whether letters for the whole pattern are refused here, or make no pattern verbose. -/
def Late (b : Bool) (items : List (Kind × Node)) (f : Flags) (s : Scope) (cs : List Char) : Prop :=
  (b = false ∨ items ≠ []) ∨ Sober f s cs

/-- Whether with some calls left no reader asks to be started again in the verbose mode. -/
structure NoRestart (fuel : Nat) : Prop where
  branches : ∀ f d b s cs, Late b [] f s cs → Quiet (readBranches fuel f d b s cs)
  items : ∀ f d b items s cs, Late b items f s cs → Quiet (readItems fuel f d b items s cs)
  group : ∀ inner wrap f d b items s cs, Quiet (readGroup fuel inner wrap f d b items s cs)
  extension : ∀ f d b items s cs, Late b items f s ('(' :: '?' :: cs) →
    Quiet (readExtension fuel f d b items s cs)
  ahead : ∀ negated f d b items s cs, Quiet (readAhead fuel negated f d b items s cs)
  behind : ∀ negated f d b items s cs, Quiet (readBehind fuel negated f d b items s cs)
  condition : ∀ f d b items s cs, Quiet (readCondition fuel f d b items s cs)

theorem late_cons {b : Bool} {item : Kind × Node} {items : List (Kind × Node)} :
    Late b (item :: items) f s cs :=
  .inl (.inr (List.cons_ne_nil _ _))

theorem late_false {items : List (Kind × Node)} : Late false items f s cs := .inl (.inl rfl)

theorem repeatLast_ne_nil {items items' : List (Kind × Node)} {least : Nat} {most : Option Nat}
    (h : repeatLast items least most cs = .ok (items', rest)) : items' ≠ [] := by
  unfold repeatLast at h
  split at h <;> cases h
  exact List.cons_ne_nil _ _

namespace NoRestart

variable {fuel : Nat} (ih : NoRestart fuel)

include ih

theorem pushed (f : Flags) (d : Nat) (b : Bool) (item : Kind × Node) (items : List (Kind × Node))
    (s : Scope) (cs : List Char) : Quiet (readItems fuel f d b (item :: items) s cs) :=
  ih.items f d b _ s cs late_cons

theorem inside (f : Flags) (d : Nat) (s : Scope) (cs : List Char) :
    Quiet (readBranches fuel f d false s cs) :=
  ih.branches f d false s cs late_false

theorem again (d : Nat) (b : Bool) {items items' : List (Kind × Node)} {least : Nat}
    {most : Option Nat}
    {rest rest' : List Char} (h : repeatLast items least most rest = .ok (items', rest')) :
    Quiet (readItems fuel f d b items' { s with
      templateRepeat := s.templateRepeat || f.template } rest') :=
  ih.items f d b items' _ rest' (.inl (.inr (repeatLast_ne_nil h)))

theorem branches_step (d : Nat) {b : Bool} (h : Late b [] f s cs) :
    Quiet (readBranches (fuel + 1) f d b s cs) := by
  have hitems : Late b [] (if d = 0 then s.flags else f) s cs := by
    refine h.imp_right fun h => ⟨h.comment, h.letters, ?_, h.scope⟩
    split_ifs <;> simp [h.flags, h.scope]
  rw [readBranches]
  split
  · rename_i heq
    exact (ih.items _ _ _ _ _ _ hitems).error heq
  · split
    · rename_i heq
      exact (ih.inside _ _ _ _).error heq
    · simp
  · simp

theorem group_step (inner : Flags) (wrap : Wrap) (d : Nat) (b : Bool) (items : List (Kind × Node)) :
    Quiet (readGroup (fuel + 1) inner wrap f d b items s cs) := by
  rw [readGroup.eq_def]
  dsimp only
  split
  · rename_i heq
    split at heq
    · exact ((quiet_openGroup s _).map _).error heq
    · cases heq
  · split
    · rename_i heq
      exact (ih.inside _ _ _ _).error heq
    · split <;> exact ih.pushed _ _ _ _ _ _ _
    · simp

theorem ahead_step (negated : Bool) (d : Nat) (b : Bool) (items : List (Kind × Node)) :
    Quiet (readAhead (fuel + 1) negated f d b items s cs) := by
  rw [readAhead.eq_def]
  dsimp only
  split
  · rename_i heq
    exact (ih.inside _ _ _ _).error heq
  · exact ih.pushed _ _ _ _ _ _ _
  · simp

theorem behind_step (negated : Bool) (d : Nat) (b : Bool) (items : List (Kind × Node)) :
    Quiet (readBehind (fuel + 1) negated f d b items s cs) := by
  rw [readBehind.eq_def]
  dsimp only
  split
  · rename_i heq
    exact (ih.inside _ _ _ _).error heq
  · exact ih.pushed _ _ _ _ _ _ _
  · simp

theorem condition_step (d : Nat) (b : Bool) (items : List (Kind × Node)) :
    Quiet (readCondition (fuel + 1) f d b items s cs) := by
  rw [readCondition.eq_def]
  dsimp only
  split
  · rename_i heq
    exact (quiet_readUntil _ _).error heq
  split
  · rename_i heq
    exact (quiet_conditionGroup _ _).error heq
  split
  · rename_i heq
    exact (quiet_checkBehind _ _).error heq
  split
  · rename_i heq
    exact (ih.items _ _ _ _ _ _ late_false).error heq
  · exact ih.pushed _ _ _ _ _ _ _
  · split
    · rename_i heq
      exact (ih.items _ _ _ _ _ _ late_false).error heq
    · exact ih.pushed _ _ _ _ _ _ _
    · simp
  · simp

theorem letters_step {c : Char} (d : Nat) {b : Bool} {items : List (Kind × Node)}
    (h : Late b items f s ('(' :: '?' :: c :: cs)) : Quiet (match readLetters (c :: cs) with
      | .error e => .error e
      | .ok (.scoped added removed, rest) =>
        readGroup fuel (f.within added removed) .plain f d b items s rest
      | .ok (.whole added, rest) =>
        if !b || !items.isEmpty then
          .error (.malformed "global flags not at the start of the expression")
        else
          let flags := added.foldl (·.set true ·) s.flags
          if flags.verbose && !f.verbose then .error .verboseStart
          else readItems fuel flags d b items { s with flags := flags } rest) := by
  split
  · rename_i heq
    exact (quiet_readLetters _).error heq
  · exact ih.group _ _ _ _ _ _ _ _
  · rename_i added rest hletters
    obtain ⟨heq, hall⟩ := readLetters_whole_eq hletters
    split_ifs with hfirst
    · simp
    · have hsober : Sober f s ('(' :: '?' :: (added ++ ')' :: rest)) := by
        simp only [Bool.or_eq_true, Bool.not_eq_true', List.isEmpty_eq_false_iff] at hfirst
        exact heq ▸ h.resolve_left hfirst
      have hverbose := Flags.foldl_set_verbose true (.inl (hsober.not_verbose hall)) hsober.scope
      have hgroup : After Balanced ('(' :: '?' :: (added ++ ')' :: rest)) rest :=
        .group (.mark (.of_append (letters_plain hall).balanced))
      dsimp only
      rw [if_neg (by simp [hverbose])]
      exact ih.items _ _ _ _ _ _ (.inr (hsober.after hgroup.outside hverbose hverbose))

theorem extension_step (d : Nat) {b : Bool} {items : List (Kind × Node)}
    (h : Late b items f s ('(' :: '?' :: cs)) :
    Quiet (readExtension (fuel + 1) f d b items s cs) := by
  rw [readExtension.eq_def]
  dsimp only
  split
  · split
    · rename_i heq
      exact (quiet_readName _ _).error heq
    · exact ih.group _ _ _ _ _ _ _ _
  · split
    · rename_i heq
      exact (quiet_readName _ _).error heq
    · split
      · simp
      · split
        · rename_i heq
          exact (quiet_checkReference _ _).error heq
        · exact ih.pushed _ _ _ _ _ _ _
  · exact ih.group _ _ _ _ _ _ _ _
  · split
    · rename_i heq
      exact (quiet_skipComment _).error heq
    · exact ih.items _ _ _ _ _ _ (.inl (h.resolve_right fun hsober => hsober.not_comment))
  · exact ih.ahead _ _ _ _ _ _ _
  · exact ih.ahead _ _ _ _ _ _ _
  · exact ih.behind _ _ _ _ _ _ _
  · exact ih.behind _ _ _ _ _ _ _
  · exact ih.condition _ _ _ _ _ _
  · exact ih.group _ _ _ _ _ _ _ _
  · split
    · exact ih.letters_step d h
    · simp
  · simp

theorem items_step (d : Nat) {b : Bool} {items : List (Kind × Node)} (h : Late b items f s cs) :
    Quiet (readItems (fuel + 1) f d b items s cs) := by
  rw [readItems.eq_def]
  dsimp only
  split
  · simp
  · simp
  · simp
  · rename_i c rest _ _
    by_cases hlayout : (f.verbose && isLayout c) = true
    · rw [if_pos hlayout]
      exact ih.items _ _ _ _ _ _ (.inl (h.resolve_right fun hsober => by
        simp [hsober.flags] at hlayout))
    rw [if_neg hlayout]
    by_cases hline : (f.verbose && decide (c = '#')) = true
    · rw [if_pos hline]
      split
      · rename_i heq
        exact (quiet_skipLine rest).error heq
      · exact ih.items _ _ _ _ _ _ (.inl (h.resolve_right fun hsober => by
          simp [hsober.flags] at hline))
    rw [if_neg hline]
    split
    · split
      · simp
      · split
        · rename_i heq
          exact (quiet_readEscape _ _ _ _).error heq
        · exact ih.pushed _ _ _ _ _ _ _
    · exact ih.pushed _ _ _ _ _ _ _
    · exact ih.pushed _ _ _ _ _ _ _
    · exact ih.pushed _ _ _ _ _ _ _
    · split
      · rename_i heq
        exact (quiet_readClass _ _).error heq
      · exact ih.pushed _ _ _ _ _ _ _
    iterate 3
      · split <;> rename_i heq
        · exact (quiet_repeatLast _ _ _ _).error heq
        · exact ih.again _ _ heq
    · split
      · rename_i heq
        exact (quiet_readBounds _).error heq
      · exact ih.pushed _ _ _ _ _ _ _
      · split <;> rename_i heq
        · exact (quiet_repeatLast _ _ _ _).error heq
        · exact ih.again _ _ heq
    · split
      · exact ih.extension _ _ _ _ _ _ h
      · exact ih.group _ _ _ _ _ _ _ _
    · exact ih.pushed _ _ _ _ _ _ _

end NoRestart

theorem noRestart (fuel : Nat) : NoRestart fuel := by
  induction fuel with
  | zero =>
    constructor <;> intros <;>
      simp [readBranches, readItems, readGroup, readExtension, readAhead, readBehind, readCondition]
  | succ fuel ih =>
    exact {
      branches := fun _ d _ _ _ h => ih.branches_step d h
      items := fun _ d _ _ _ _ h => ih.items_step d h
      group := fun inner wrap _ d b items _ _ => ih.group_step inner wrap d b items
      extension := fun _ d _ _ _ _ h => ih.extension_step d h
      ahead := fun negated _ d b items _ _ => ih.ahead_step negated d b items
      behind := fun negated _ d b items _ _ => ih.behind_step negated d b items
      condition := fun _ d b items _ _ => ih.condition_step d b items }

/-! ## Whole patterns -/

variable {p : List Char} {program : Program}

theorem Scope.quiet_finish (s : Scope) : Quiet s.finish := by
  unfold finish
  split_ifs <;> simp

theorem quiet_readWhole (hcomment : ¬ HasComment p) (hverbose : ¬ HasVerbose p) :
    Quiet (readWhole {} p) := by
  have hsober : Sober {} { flags := {} } p := ⟨hcomment, hverbose, rfl, rfl⟩
  unfold readWhole
  split
  · rename_i heq
    exact ((noRestart _).branches _ _ _ _ _ (.inr hsober)).error heq
  · rename_i node s rest _
    split_ifs
    · simp [Quiet]
    · simp
    · exact s.quiet_finish.map _

theorem balanced_of_readWhole (h : readWhole {} p = .ok program) (hcomment : ¬ HasComment p)
    (hverbose : ¬ HasVerbose p) : Balanced p := by
  have hsober : Sober {} { flags := {} } p := ⟨hcomment, hverbose, rfl, rfl⟩
  unfold readWhole at h
  split at h
  · cases h
  · rename_i node s rest hread
    split_ifs at h with hmixed hrest
    have hbranches : Stage.branches.read (fuelFor p) {} 0 true {} p = .ok (node, s, rest) := hread
    obtain ⟨ns, hreads⟩ := reads_of_read hbranches
    obtain ⟨⟨w, hw, heq⟩, -⟩ := hreads.after hsober
    have hnil : rest = [] := by simpa using hrest
    rw [hnil, List.append_nil] at heq
    exact heq ▸ hw

theorem balanced_of_compile (h : compile p = .ok program) (hcomment : ¬ HasComment p)
    (hverbose : ¬ HasVerbose p) :
    Balanced p := by
  unfold compile at h
  split at h
  · rename_i heq
    exact absurd heq (quiet_readWhole hcomment hverbose)
  · exact balanced_of_readWhole h hcomment hverbose

end SegmentIndex.Pattern

namespace SegmentIndex.PathSpec

open Pattern

/-! ## Captures -/

/-- A capture whose pattern compiles, has no comment and does not become verbose is scanned up to
the end of that pattern, whatever follows, and what follows is scanned next. -/
theorem scanCapture_pattern {name p : List Char} {program : Program} (hname : IsIdentifier name)
    (hp : Pattern.compile p = .ok program) (hcomment : ¬ HasComment p) (hverbose : ¬ HasVerbose p)
    (rest : List Char) :
    scanCapture (name ++ '>' :: (p ++ ')' :: rest)) =
      .ok (String.ofList name, String.ofList p, rest) ∧
      ∀ (spec : String) (fuel position : Nat) (seen : List String), String.ofList name ∉ seen →
        compileFrom spec (fuel + 1) position seen (captureOpen ++
          (name ++ '>' :: (p ++ ')' :: rest))) =
          (compileFrom spec fuel (position + (captureOpen ++ (name ++ '>' :: (p ++ [')']))).length)
            (String.ofList name :: seen) rest).map
              (Token.capture (String.ofList name) (String.ofList p) :: ·) := by
  have hscan := fun rest => scanCapture_sound hname
    (balanced_of_compile hp hcomment hverbose) hp rest
  refine ⟨hscan rest, fun spec fuel position seen hseen => ?_⟩
  have hsound := (scanCapture_eq_ok_iff.mp (hscan rest)).1
  have hrender : captureOpen ++ (name ++ '>' :: (p ++ ')' :: rest)) =
      (Token.capture (String.ofList name) (String.ofList p)).render ++ rest := by
    simp [Token.render]
  rw [hrender, compileFrom_render hsound trivial (by simpa [Token.captureName?] using hseen)]
  simp [Token.render, Token.captureName?]

theorem not_hasComment {p : List Char} (h : ¬ ['(', '?', '#'] <:+: p) : ¬ HasComment p := by
  rintro ⟨u, v, rfl, -⟩
  exact h ⟨u, v, by simp⟩

theorem not_hasVerbose {p : List Char} (h : 'x' ∉ p) : ¬ HasVerbose p := by
  rintro ⟨u, added, v, rfl, -, -, hx⟩
  exact h (by simp [hx])

/-- Groups in groups, classes that begin with a bracket, and escapes inside and outside of them,
before a text that holds more brackets. -/
theorem scanCapture_nested :
    scanCapture "v_1>([])(]|(?P<a>[^])\\]a-d]+)\\)(?=b))*)/(x)[)".toList =
      .ok ("v_1", "([])(]|(?P<a>[^])\\]a-d]+)\\)(?=b))*", "/(x)[)".toList) := by
  have hname : IsIdentifier "v_1".toList := isCaptureName_iff.mp rfl
  obtain ⟨program, hp⟩ : ∃ program, Pattern.compile "([])(]|(?P<a>[^])\\]a-d]+)\\)(?=b))*".toList =
      .ok program :=
    ⟨_, by cbv⟩
  exact (scanCapture_pattern hname hp (not_hasComment (by decide)) (not_hasVerbose (by decide))
    "/(x)[)".toList).1

end SegmentIndex.PathSpec
