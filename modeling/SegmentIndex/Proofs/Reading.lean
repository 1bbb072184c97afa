import SegmentIndex.Pattern.Reader
import Mathlib.Tactic

/-!
# Readings of patterns

What the reader of patterns does when it succeeds, as a relation with one rule for each kind
of item. A reading also tells which groups it refers to by number; a group that is referred
to by its name is not counted among them.
-/
namespace SegmentIndex.Pattern

/-- What is being read: the branches of a group, or the rest of a branch after its items so far. -/
inductive Stage where
  | branches
  | branch (items : List (Kind × Node))

/-- The items of a branch that were read already. -/
def Stage.items : Stage → List (Kind × Node)
  | .branches => []
  | .branch items => items

def Stage.read (fuel : Nat) (f : Flags) (depth : Nat) (first : Bool) :
    Stage → Scope → List Char → Except Fault (Node × Scope × List Char)
  | .branches => readBranches fuel f depth first
  | .branch items => readItems fuel f depth first items

/-! ## What an item begins with -/

/-- Whether a branch ends before a text. -/
def Stops (cs : List Char) : Prop := ∀ c ∈ cs.head?, c = '|' ∨ c = ')'

/-- Whether a verbose pattern passes over a character. -/
def Flags.passes (f : Flags) (c : Char) : Bool := f.verbose && (isLayout c || c = '#')

/-- The characters that do not stand for themselves. -/
def special : List Char := ['\\', '^', '$', '.', '[', '*', '+', '?', '\x7b', '(', '|', ')']

/-- What is passed over, and by how many calls of the reader besides one. -/
inductive Skips (f : Flags) : List Char → Nat → List Char → Prop
  | layout {c : Char} {rest : List Char} : f.verbose = true → isLayout c = true →
  Skips f (c :: rest) 0 rest
  | line {rest rest' : List Char} : f.verbose = true → skipLine rest = .ok rest' →
    Skips f ('#' :: rest) 0 rest'
  | comment {rest rest' : List Char} : skipComment rest = .ok rest' →
    Skips f ('(' :: '?' :: '#' :: rest) 1 rest'

/-- Items that are read in the same way in every scope: places, classes and characters. -/
inductive Leaf (f : Flags) : List Char → Kind → Node → List Char → Prop
  | escape {e : Char} {rest rest' : List Char} {kind : Kind} {node : Node} :
      (∀ s, readEscape f s e rest = .ok (kind, node, rest')) →
      Leaf f ('\\' :: e :: rest) kind node rest'
  | lineStart {rest : List Char} :
    Leaf f ('^' :: rest) .anchor (.anchor (if f.multiline then .lineStart else .textStart) f.ascii)
    rest
  | lineEnd {rest : List Char} :
    Leaf f ('$' :: rest) .anchor (.anchor (if f.multiline then .lineEnd else .lastLineEnd) f.ascii)
    rest
  | dot {rest : List Char} : Leaf f ('.' :: rest) .other (.any f.dotAll) rest
  | members {rest rest' : List Char} {node : Node} :
    readClass f rest = .ok (node, rest') → Leaf f ('[' :: rest) .other node rest'
  | brace {rest : List Char} :
    readBounds rest = .ok none → Leaf f ('\x7b' :: rest) .other (leaf f '\x7b'.toNat) rest
  | char {c : Char} {rest : List Char} :
    c ∉ special → f.passes c = false → Leaf f (c :: rest) .other (leaf f c.toNat) rest

/-- The marks of a repetition. -/
inductive Quantifier : List Char → Nat → Option Nat → List Char → Prop
  | star {rest : List Char} : Quantifier ('*' :: rest) 0 none rest
  | plus {rest : List Char} : Quantifier ('+' :: rest) 1 none rest
  | optional {rest : List Char} : Quantifier ('?' :: rest) 0 (some 1) rest
  | bounds {rest rest' : List Char} {least : Nat} {most : Option Nat} :
    readBounds rest = .ok (some (least, most, rest')) → Quantifier ('\x7b' :: rest) least most rest'

/-- The openings of groups that can be referred to, and by how
many calls of the reader besides two. -/
inductive Opens : List Char → Nat → Option String → List Char → Prop
  | unnamed {rest : List Char} : (∀ more, rest ≠ '?' :: more) → Opens ('(' :: rest) 0 none rest
  | named {rest rest' : List Char} {name : String} :
    readName '>' rest = .ok (name, rest') →
    Opens ('(' :: '?' :: 'P' :: '<' :: rest) 1 (some name) rest'

/-- How a group that cannot be referred to treats its body. -/
inductive Cover where
  | plain
  | atomic
  | ahead (negated : Bool)

def Cover.node : Cover → Node → Node
  | .plain, body => body
  | .atomic, body => .atomic body
  | .ahead negated, body => .ahead negated body

/-- The openings of groups that cannot be referred to, with the modes of the body. -/
inductive Covers (f : Flags) : List Char → Cover → Flags → List Char → Prop
  | plain {rest : List Char} : Covers f ('(' :: '?' :: ':' :: rest) .plain f rest
  | atomic {rest : List Char} : Covers f ('(' :: '?' :: '>' :: rest) .atomic f rest
  | ahead {rest : List Char} : Covers f ('(' :: '?' :: '=' :: rest) (.ahead false) f rest
  | notAhead {rest : List Char} : Covers f ('(' :: '?' :: '!' :: rest) (.ahead true) f rest
  | letters {c : Char} {rest rest' : List Char} {added removed : List Char} :
      (c = '-' ∨ c ∈ Flags.letters) → readLetters (c :: rest) = .ok (.scoped added removed, rest') →
      Covers f ('(' :: '?' :: c :: rest) .plain (f.within added removed) rest'

/-- The opening of a lookbehind. -/
inductive Behind : List Char → Bool → List Char → Prop
  | positive {rest : List Char} : Behind ('(' :: '?' :: '<' :: '=' :: rest) false rest
  | negative {rest : List Char} : Behind ('(' :: '?' :: '<' :: '!' :: rest) true rest

def Scope.enterBehind (s : Scope) : Scope :=
  { s with lookbehind := some (s.lookbehind.getD s.groups) }

/-- The scope after a lookbehind that was entered from a given scope. -/
def Scope.leaveBehind (outside inside : Scope) (body : Node) : Scope :=
  { inside with
    lookbehind := outside.lookbehind
    unevenBehind := inside.unevenBehind ||
      (body.width inside.widthOf).least ≠ (body.width inside.widthOf).most }

def Scope.noteCondition (s : Scope) (i : Nat) : Scope := { s with conditions := i :: s.conditions }

def Scope.noteRepeat (s : Scope) (f : Flags) : Scope :=
  { s with templateRepeat := s.templateRepeat || f.template }

@[simp] theorem Scope.enterBehind_groups (s : Scope) : s.enterBehind.groups = s.groups := rfl

@[simp] theorem Scope.leaveBehind_groups (outside inside : Scope) (body : Node) :
    (outside.leaveBehind inside body).groups = inside.groups := rfl

@[simp] theorem Scope.noteCondition_groups (s : Scope) (i : Nat) :
    (s.noteCondition i).groups = s.groups := rfl

@[simp] theorem Scope.noteRepeat_groups (s : Scope) (f : Flags) :
    (s.noteRepeat f).groups = s.groups := rfl

@[simp] theorem Scope.closeGroup_groups (s : Scope) (i : Nat) (body : Node) :
    (s.closeGroup i body).groups = s.groups := rfl

/-- The number under which a condition refers to a group, unless it gives a name. -/
def conditionNumbers (name : List Char) (i : Nat) : List Nat := if Text.isName name then [] else [i]

/-- Successful readings: the calls that the reader makes at most, the modes, the depth,
whether a pattern begins here, the stage, the scope and the text, then the groups that are
referred to by number and what is read. -/
inductive Reads : Nat → Flags → Nat → Bool → Stage → Scope → List Char → List Nat →
    Node × Scope × List Char → Prop
  | one {k f d b s cs ns a s' rest} :
    Reads k (if d = 0 then s.flags else f) d b (.branch []) s cs ns (a, s', rest) →
    (∀ more, rest ≠ '|' :: more) →
    Reads (k + 1) f d b .branches s cs ns (a, s', rest)
  | more {k f d b s cs ns ns' a a' s' s'' rest rest'} :
    Reads k (if d = 0 then s.flags else f) d b (.branch []) s cs ns (a, s', '|' :: rest) →
    Reads k f d false .branches s' rest ns' (a', s'', rest') →
    Reads (k + 1) f d b .branches s cs (ns ++ ns') (.alt a a', s'', rest')
  | stop {k f d b items s cs} : Stops cs →
    Reads (k + 1) f d b (.branch items) s cs [] (branchOf items, s, cs)
  | skip {k j f d b items s cs rest ns r} :
    Skips f cs j rest → Reads k f d b (.branch items) s rest ns r →
    Reads (k + j + 1) f d b (.branch items) s cs ns r
  | leaf {k f d b items s cs kind node rest ns r} :
    Leaf f cs kind node rest → Reads k f d b (.branch ((kind, node) :: items)) s rest ns r →
    Reads (k + 1) f d b (.branch items) s cs ns r
  | number {k f d b items s e rest i rest' ns r} :
    readEscape f s e rest = .ok (.other, .backref i f.alphabet, rest') →
    Reads k f d b (.branch ((.other, .backref i f.alphabet) :: items)) s rest' ns r →
    Reads (k + 1) f d b (.branch items) s ('\\' :: e :: rest) (i :: ns) r
  | name {k f d b items s rest name i rest' ns r} :
    readName ')' rest = .ok (name, rest') → s.names.lookup name = some i →
    s.checkReference i = .ok () →
    Reads k f d b (.branch ((.other, .backref i f.alphabet) :: items)) s rest' ns r →
    Reads (k + 2) f d b (.branch items) s ('(' :: '?' :: 'P' :: '=' :: rest) ns r
  | again {k f d b items s cs least most rest items' rest' ns r} :
    Quantifier cs least most rest → repeatLast items least most rest = .ok (items', rest') →
    Reads k f d b (.branch items') (s.noteRepeat f) rest' ns r →
    Reads (k + 1) f d b (.branch items) s cs ns r
  | group {k j f d b items s cs name rest i s' ns body s'' rest' ns' r} :
    Opens cs j name rest → s.openGroup name = .ok (i, s') →
    Reads k f (d + 1) false .branches s' rest ns (body, s'', ')' :: rest') →
    Reads k f d b (.branch ((.other, .group i body) :: items)) (s''.closeGroup i body) rest' ns' r →
    Reads (k + j + 2) f d b (.branch items) s cs (ns ++ ns') r
  | cover {k f d b items s cs cover inner rest ns body s' rest' ns' r} :
    Covers f cs cover inner rest → Reads k inner (d + 1) false .branches s rest ns (body, s',
    ')' :: rest') →
    Reads k f d b (.branch ((.other, cover.node body) :: items)) s' rest' ns' r →
    Reads (k + 3) f d b (.branch items) s cs (ns ++ ns') r
  | behind {k f d b items s cs negated rest ns body s' rest' ns' r} :
    Behind cs negated rest → Reads k f (d + 1) false .branches s.enterBehind rest ns (body, s',
    ')' :: rest') →
    Reads k f d b
      (.branch ((.other, .behind negated (body.width s'.widthOf).least body) :: items))
      (s.leaveBehind s' body)
      rest' ns' r →
    Reads (k + 3) f d b (.branch items) s cs (ns ++ ns') r
  | ifThen {k f d b items s rest name i rest₁ ns yes s' rest₂ ns' r} :
    readUntil ')' rest = .ok (name, rest₁) → conditionGroup s name = .ok i →
    (s.noteCondition i).checkBehind i = .ok () →
    Reads k f (d + 1) false (.branch []) (s.noteCondition i) rest₁ ns (yes, s', ')' :: rest₂) →
    Reads k f d b (.branch ((.other, .cond i yes .empty) :: items)) s' rest₂ ns' r →
    Reads (k + 3) f d b (.branch items) s ('(' :: '?' :: '(' :: rest) (conditionNumbers name i ++
      ns ++ ns') r
  | ifElse {k f d b items s rest name i rest₁ ns yes s' rest₂ ns' no s'' rest₃ ns'' r} :
    readUntil ')' rest = .ok (name, rest₁) → conditionGroup s name = .ok i →
    (s.noteCondition i).checkBehind i = .ok () →
    Reads k f (d + 1) false (.branch []) (s.noteCondition i) rest₁ ns (yes, s', '|' :: rest₂) →
    Reads k f (d + 1) false (.branch []) s' rest₂ ns' (no, s'', ')' :: rest₃) →
    Reads k f d b (.branch ((.other, .cond i yes no) :: items)) s'' rest₃ ns'' r →
    Reads (k + 3) f d b (.branch items) s ('(' :: '?' :: '(' :: rest)
      (conditionNumbers name i ++ ns ++ ns' ++ ns'') r
  | modes {k f d s c rest added rest' ns r} :
      (c = '-' ∨ c ∈ Flags.letters) → readLetters (c :: rest) = .ok (.whole added, rest') →
      ((added.foldl (·.set true ·) s.flags).verbose && !f.verbose) = false →
      Reads k (added.foldl (·.set true ·) s.flags) d true (.branch [])
      { s with flags := added.foldl (·.set true ·) s.flags } rest' ns r →
    Reads (k + 2) f d true (.branch []) s ('(' :: '?' :: c :: rest) ns r

/-! ## One step of the reader -/

variable {k j d : Nat} {f : Flags} {b : Bool} {items : List (Kind × Node)} {s : Scope}
  {cs rest : List Char}

theorem not_passes {c : Char} (h : f.passes c = false) :
    (f.verbose && isLayout c) = false ∧ (f.verbose && decide (c = '#')) = false := by
  unfold Flags.passes at h
  cases hv : f.verbose
  · exact ⟨rfl, rfl⟩
  · simpa [hv] using h

theorem readItems_stop (h : Stops cs) :
    readItems (k + 1) f d b items s cs = .ok (branchOf items, s, cs) := by
  cases cs with
  | nil => rw [readItems.eq_def]
  | cons c rest => rcases h c rfl with rfl | rfl <;> rw [readItems.eq_def] <;> rfl

theorem readItems_char {c : Char} (hc : c ∉ special) (hp : f.passes c = false) :
    readItems (k + 1) f d b items s (c :: rest) =
      readItems k f d b ((.other, leaf f c.toNat) :: items) s rest := by
  obtain ⟨hlayout, hline⟩ := not_passes hp
  simp only [special, List.mem_cons, not_or] at hc
  rw [readItems.eq_def]
  dsimp only
  split
  · rename_i heq
    cases heq
  · simp_all
  · simp_all
  · rename_i heq
    cases heq
    rw [if_neg (by simp [hlayout]), if_neg (by simp [hline])]
    split <;> simp_all

theorem readItems_layout {c : Char} (hv : f.verbose = true) (hc : isLayout c = true) :
    readItems (k + 1) f d b items s (c :: rest) = readItems k f d b items s rest := by
  rw [readItems.eq_def]
  dsimp only
  split
  · rename_i heq
    cases heq
  · simp_all [isLayout]
  · simp_all [isLayout]
  · rename_i heq
    cases heq
    rw [if_pos (by simp [hv, hc])]

theorem readItems_skip (h : Skips f cs j rest) :
    readItems (k + j + 1) f d b items s cs = readItems k f d b items s rest := by
  cases h with
  | layout hv hc => exact readItems_layout hv hc
  | line hv h =>
    rw [readItems.eq_def]
    simp [hv, isLayout, h]
  | comment h =>
    rw [readItems.eq_def]
    simp [isLayout]
    rw [readExtension.eq_def]
    simp [h]

theorem readItems_leaf {kind : Kind} {node : Node} (h : Leaf f cs kind node rest) :
    readItems (k + 1) f d b items s cs = readItems k f d b ((kind, node) :: items) s rest := by
  cases h with
  | char hc hp => exact readItems_char hc hp
  | escape h | members h | brace h =>
    rw [readItems.eq_def]
    simp [isLayout, h]
  | lineStart | lineEnd | dot =>
    rw [readItems.eq_def]
    simp [isLayout]

theorem readItems_escape {e : Char} {rest' : List Char} {kind : Kind} {node : Node}
    (h : readEscape f s e rest = .ok (kind, node, rest')) :
    readItems (k + 1) f d b items s ('\\' :: e :: rest) =
      readItems k f d b ((kind, node) :: items) s rest' := by
  rw [readItems.eq_def]
  simp [isLayout, h]

theorem readItems_again {least : Nat} {most : Option Nat} (h : Quantifier cs least most rest) :
    readItems (k + 1) f d b items s cs = match repeatLast items least most rest with
      | .error e => .error e
      | .ok (items, rest) => readItems k f d b items (s.noteRepeat f) rest := by
  cases h with
  | bounds h =>
    rw [readItems.eq_def]
    simp [isLayout, h]
    rfl
  | star | plus | optional =>
    rw [readItems.eq_def]
    simp [isLayout]
    rfl

theorem readItems_extension :
    readItems (k + 1) f d b items s ('(' :: '?' :: rest) = readExtension k f d b items s rest := by
  rw [readItems.eq_def]
  simp [isLayout]

theorem readItems_name {rest' : List Char} {name : String}
    (h : readName ')' rest = .ok (name, rest')) :
    readItems (k + 2) f d b items s ('(' :: '?' :: 'P' :: '=' :: rest) =
      match s.names.lookup name with
      | none => .error (.malformed "unknown group name")
      | some i =>
        match s.checkReference i with
        | .error e => .error e
        | .ok () => readItems k f d b ((.other, .backref i f.alphabet) :: items) s rest' := by
  rw [readItems_extension, readExtension.eq_def]
  rcases hlookup : s.names.lookup name with _ | i
  · simp [h, hlookup]
  · rcases hcheck : s.checkReference i with e | u <;> simp [h, hlookup, hcheck]

theorem readItems_group {name : Option String} (h : Opens cs j name rest) :
    readItems (k + j + 2) f d b items s cs = match s.openGroup name with
      | .error e => .error e
      | .ok (i, s) =>
        match readBranches k f (d + 1) false s rest with
        | .error e => .error e
        | .ok (body, s, ')' :: rest) =>
          readItems k f d b ((.other, .group i body) :: items) (s.closeGroup i body) rest
        | .ok _ => .error (.malformed "missing ), unterminated subpattern") := by
  cases h with
  | unnamed h =>
    have hgroup : readItems (k + 0 + 2) f d b items s ('(' :: rest) =
        readGroup (k + 1) f (.captured none) f d b items s rest := by
      rw [readItems.eq_def]
      simp [isLayout]
    rw [hgroup, readGroup.eq_def]
    dsimp only
    rcases s.openGroup none with e | ⟨i, s⟩ <;> rfl
  | named h =>
    rw [readItems_extension, readExtension.eq_def]
    simp only [h]
    rw [readGroup.eq_def]
    dsimp only
    rcases s.openGroup (some _) with e | ⟨i, s⟩ <;> rfl

theorem readExtension_letters {c : Char} (h : c = '-' ∨ c ∈ Flags.letters) :
    readExtension (k + 1) f d b items s (c :: rest) = match readLetters (c :: rest) with
      | .error e => .error e
      | .ok (.scoped added removed, rest) =>
        readGroup k (f.within added removed) .plain f d b items s rest
      | .ok (.whole added, rest) =>
        if !b || !items.isEmpty then
          .error (.malformed "global flags not at the start of the expression")
        else
          let flags := added.foldl (·.set true ·) s.flags
          if flags.verbose && !f.verbose then .error .verboseStart
          else readItems k flags d b items { s with flags := flags } rest := by
  rw [readExtension.eq_def]
  simp only [Flags.letters, List.mem_cons, List.not_mem_nil, or_false] at h
  rcases h with rfl | rfl | rfl | rfl | rfl | rfl | rfl | rfl | rfl <;> rfl

theorem readItems_cover {cover : Cover} {inner : Flags} (h : Covers f cs cover inner rest) :
    readItems (k + 3) f d b items s cs = match readBranches k inner (d + 1) false s rest with
      | .error e => .error e
      | .ok (body, s, ')' :: rest) => readItems k f d b ((.other, cover.node body) :: items) s rest
      | .ok _ => .error (.malformed "missing ), unterminated subpattern") := by
  cases h with
  | plain | atomic =>
    rw [readItems_extension, readExtension.eq_def]
    simp only
    rw [readGroup.eq_def]
    rfl
  | ahead | notAhead =>
    rw [readItems_extension, readExtension.eq_def]
    simp only
    rw [readAhead.eq_def]
    rfl
  | letters hc h =>
    rw [readItems_extension, readExtension_letters hc]
    simp only [h]
    rw [readGroup.eq_def]
    rfl

theorem readItems_behind {negated : Bool} (h : Behind cs negated rest) :
    readItems (k + 3) f d b items s cs = match readBranches k f (d + 1) false s.enterBehind rest
      with
      | .error e => .error e
      | .ok (body, s', ')' :: rest) =>
        readItems k f d b ((.other, .behind negated (body.width s'.widthOf).least body) :: items)
          (s.leaveBehind s' body) rest
      | .ok _ => .error (.malformed "missing ), unterminated subpattern") := by
  cases h <;>
  · rw [readItems_extension, readExtension.eq_def]
    simp only
    rw [readBehind.eq_def]
    rfl

theorem readItems_condition {name rest' : List Char} (h : readUntil ')' rest = .ok (name, rest')) :
    readItems (k + 3) f d b items s ('(' :: '?' :: '(' :: rest) = match conditionGroup s name with
      | .error e => .error e
      | .ok i =>
        match (s.noteCondition i).checkBehind i with
        | .error e => .error e
        | .ok () =>
          match readItems k f (d + 1) false [] (s.noteCondition i) rest' with
          | .error e => .error e
          | .ok (yes, s, ')' :: rest) =>
            readItems k f d b ((.other, .cond i yes .empty) :: items) s rest
          | .ok (yes, s, '|' :: rest) =>
            match readItems k f (d + 1) false [] s rest with
            | .error e => .error e
            | .ok (no, s, ')' :: rest) =>
              readItems k f d b ((.other, .cond i yes no) :: items) s rest
            | .ok _ => .error (.malformed "conditional backref with more than two branches")
          | .ok _ => .error (.malformed "missing ), unterminated subpattern") := by
  rw [readItems_extension, readExtension.eq_def]
  simp only
  rw [readCondition.eq_def]
  simp only [h]
  rfl

/-! ## Readings of the reader -/

/-- The numeral after a backslash, what follows it, and whether it is an octal number. -/
def referenceNumeral (c : Char) (rest : List Char) : List Char × List Char × Bool :=
  match rest with
  | d :: more =>
    if d.isDigit then
      match more with
      | e :: after =>
        if isOctal c && isOctal d && isOctal e then ([c, d, e], after, true)
        else ([c, d], more, false)
      | [] => ([c, d], more, false)
    else ([c], rest, false)
  | [] => ([c], rest, false)

theorem readReference_eq (c : Char) : readReference f s c rest =
    if (referenceNumeral c rest).2.2 then
      if numeral 8 (referenceNumeral c rest).1 > 0o377 then
        .error (.malformed "octal escape value outside of range")
      else .ok (leaf f (numeral 8 (referenceNumeral c rest).1), (referenceNumeral c rest).2.1)
    else if numeral 10 (referenceNumeral c rest).1 < s.groups then
      (s.checkReference (numeral 10 (referenceNumeral c rest).1)).map fun _ =>
        (.backref (numeral 10 (referenceNumeral c rest).1) f.alphabet,
          (referenceNumeral c rest).2.1)
    else .error (.malformed "invalid group reference") := rfl

theorem readReference_cases {c : Char} {kind : Kind} {node : Node} {rest' : List Char}
    (h : (readReference f s c rest).map (fun (n, rest) => (Kind.other, n, rest)) =
      .ok (kind, node, rest')) :
    (∀ s, (readReference f s c rest).map (fun (n, rest) => (Kind.other, n, rest)) =
      .ok (kind, node, rest')) ∨
      ∃ i, kind = .other ∧ node = .backref i f.alphabet := by
  simp only [readReference_eq] at h ⊢
  generalize referenceNumeral c rest = numeral at h ⊢
  split_ifs at h ⊢ with hoctal hlarge hopen
  · exact .inl fun _ => h
  · exact .inl fun _ => h
  · rcases hc : s.checkReference _ with e | u
    · rw [hc] at h
      cases h
    · rw [hc] at h
      cases h
      exact .inr ⟨_, rfl, rfl⟩
  · cases h

/-- An escape is read in the same way in every scope unless it refers to a group. -/
theorem readEscape_cases {e : Char} {rest' : List Char} {kind : Kind} {node : Node}
    (h : readEscape f s e rest = .ok (kind, node, rest')) :
    (∀ s, readEscape f s e rest = .ok (kind, node, rest')) ∨
      ∃ i, kind = .other ∧ node = .backref i f.alphabet := by
  unfold readEscape at h ⊢
  split at h
  · exact .inl fun _ => h
  · exact .inl fun _ => h
  · exact .inl fun _ => h
  · split at h
    · cases h
    · exact .inl fun _ => h
    · simp only
      split_ifs at h ⊢ with hzero hdigit hletter
      · exact .inl fun _ => h
      · exact readReference_cases h
      · exact .inl fun _ => h

/-- Whether all calls below a number of the reader that succeed are readings. -/
def ReadsBelow (k : Nat) : Prop :=
  ∀ j < k, ∀ f d b stage s cs r, Stage.read j f d b stage s cs = .ok r →
  ∃ ns, Reads j f d b stage s cs ns r

variable {r : Node × Scope × List Char}

theorem ReadsBelow.of_readItems (ih : ReadsBelow k) (hj : j < k)
    (h : readItems j f d b items s cs = .ok r) :
    ∃ ns, Reads j f d b (.branch items) s cs ns r := ih j hj f d b (.branch items) s cs r h

theorem ReadsBelow.of_readBranches (ih : ReadsBelow k) (hj : j < k)
    (h : readBranches j f d b s cs = .ok r) :
    ∃ ns, Reads j f d b .branches s cs ns r := ih j hj f d b .branches s cs r h

theorem reads_of_again {least : Nat} {most : Option Nat} (ih : ReadsBelow (k + 1))
    (hq : Quantifier cs least most rest) (h : readItems (k + 1) f d b items s cs = .ok r) :
    ∃ ns, Reads (k + 1) f d b (.branch items) s cs ns r := by
  rw [readItems_again hq] at h
  rcases hl : repeatLast items least most rest with e | ⟨items', rest'⟩
  · simp [hl] at h
  · simp only [hl] at h
    obtain ⟨ns, hns⟩ := ih.of_readItems (Nat.lt_succ_self k) h
    exact ⟨ns, .again hq hl hns⟩

theorem reads_of_leaf {kind : Kind} {node : Node} (ih : ReadsBelow (k + 1))
    (hl : Leaf f cs kind node rest) (h : readItems (k + 1) f d b items s cs = .ok r) :
    ∃ ns, Reads (k + 1) f d b (.branch items) s cs ns r := by
  rw [readItems_leaf hl] at h
  obtain ⟨ns, hns⟩ := ih.of_readItems (Nat.lt_succ_self k) h
  exact ⟨ns, .leaf hl hns⟩

theorem reads_of_skip (ih : ReadsBelow (k + j + 1)) (hs : Skips f cs j rest)
    (h : readItems (k + j + 1) f d b items s cs = .ok r) :
    ∃ ns, Reads (k + j + 1) f d b (.branch items) s cs ns r := by
  rw [readItems_skip hs] at h
  obtain ⟨ns, hns⟩ := ih.of_readItems (by omega) h
  exact ⟨ns, .skip hs hns⟩

theorem reads_of_escape {e : Char} (ih : ReadsBelow (k + 1))
    (h : readItems (k + 1) f d b items s ('\\' :: e :: rest) = .ok r) :
    ∃ ns, Reads (k + 1) f d b (.branch items) s ('\\' :: e :: rest) ns r := by
  rcases he : readEscape f s e rest with fault | ⟨kind, node, rest'⟩
  · rw [readItems.eq_def] at h
    simp [isLayout, he] at h
  · rcases readEscape_cases he with hall | ⟨i, rfl, rfl⟩
    · exact reads_of_leaf ih (.escape hall) h
    · rw [readItems_escape he] at h
      obtain ⟨ns, hns⟩ := ih.of_readItems (Nat.lt_succ_self k) h
      exact ⟨i :: ns, .number he hns⟩

theorem exists_body {o : Except Fault (Node × Scope × List Char)} {fault : Fault}
    {next : Node → Scope → List Char → Except Fault (Node × Scope × List Char)}
    (h : (match o with
      | .error e => Except.error e
      | .ok (body, s, ')' :: rest) => next body s rest
      | .ok _ => .error fault) = .ok r) :
    ∃ body s rest, o = .ok (body, s, ')' :: rest) ∧ next body s rest = .ok r := by
  split at h
  · cases h
  · exact ⟨_, _, _, rfl, h⟩
  · cases h

theorem reads_of_group {name : Option String} (ih : ReadsBelow (k + j + 2))
    (ho : Opens cs j name rest) (h : readItems (k + j + 2) f d b items s cs = .ok r) :
    ∃ ns, Reads (k + j + 2) f d b (.branch items) s cs ns r := by
  rw [readItems_group ho] at h
  rcases hg : s.openGroup name with e | ⟨i, s'⟩
  · simp [hg] at h
  simp only [hg] at h
  obtain ⟨body, s'', rest', hb, h⟩ := exists_body h
  obtain ⟨ns, hns⟩ := ih.of_readBranches (by omega) hb
  obtain ⟨ns', hns'⟩ := ih.of_readItems (by omega) h
  exact ⟨ns ++ ns', .group ho hg hns hns'⟩

theorem reads_of_cover {cover : Cover} {inner : Flags} (ih : ReadsBelow (k + 3))
    (hc : Covers f cs cover inner rest) (h : readItems (k + 3) f d b items s cs = .ok r) :
    ∃ ns, Reads (k + 3) f d b (.branch items) s cs ns r := by
  rw [readItems_cover hc] at h
  obtain ⟨body, s', rest', hb, h⟩ := exists_body h
  obtain ⟨ns, hns⟩ := ih.of_readBranches (by omega) hb
  obtain ⟨ns', hns'⟩ := ih.of_readItems (by omega) h
  exact ⟨ns ++ ns', .cover hc hns hns'⟩

theorem reads_of_behind {negated : Bool} (ih : ReadsBelow (k + 3)) (hb : Behind cs negated rest)
    (h : readItems (k + 3) f d b items s cs = .ok r) :
    ∃ ns, Reads (k + 3) f d b (.branch items) s cs ns r := by
  rw [readItems_behind hb] at h
  obtain ⟨body, s', rest', hbody, h⟩ := exists_body h
  obtain ⟨ns, hns⟩ := ih.of_readBranches (by omega) hbody
  obtain ⟨ns', hns'⟩ := ih.of_readItems (by omega) h
  exact ⟨ns ++ ns', .behind hb hns hns'⟩

theorem reads_of_condition (ih : ReadsBelow (k + 3))
    (h : readItems (k + 3) f d b items s ('(' :: '?' :: '(' :: rest) = .ok r) :
    ∃ ns, Reads (k + 3) f d b (.branch items) s ('(' :: '?' :: '(' :: rest) ns r := by
  rcases hu : readUntil ')' rest with e | ⟨name, rest₁⟩
  · rw [readItems_extension, readExtension.eq_def] at h
    simp only at h
    rw [readCondition.eq_def] at h
    simp [hu] at h
  rw [readItems_condition hu] at h
  rcases hg : conditionGroup s name with e | i
  · simp [hg] at h
  simp only [hg] at h
  rcases hc : (s.noteCondition i).checkBehind i with e | u
  · simp [hc] at h
  simp only [hc] at h
  split at h
  · cases h
  · rename_i yes s' rest₂ hyes
    obtain ⟨ns, hns⟩ := ih.of_readItems (by omega) hyes
    obtain ⟨ns', hns'⟩ := ih.of_readItems (by omega) h
    exact ⟨_, .ifThen hu hg hc hns hns'⟩
  · rename_i yes s' rest₂ hyes
    obtain ⟨no, s'', rest₃, hno, h⟩ := exists_body h
    obtain ⟨ns, hns⟩ := ih.of_readItems (by omega) hyes
    obtain ⟨ns', hns'⟩ := ih.of_readItems (by omega) hno
    obtain ⟨ns'', hns''⟩ := ih.of_readItems (by omega) h
    exact ⟨_, .ifElse hu hg hc hns hns' hns''⟩
  · cases h

theorem reads_of_letters {c : Char} (ih : ReadsBelow (k + 3)) (hc : c = '-' ∨ c ∈ Flags.letters)
    (h : readItems (k + 3) f d b items s ('(' :: '?' :: c :: rest) = .ok r) :
    ∃ ns, Reads (k + 3) f d b (.branch items) s ('(' :: '?' :: c :: rest) ns r := by
  rcases hl : readLetters (c :: rest) with e | ⟨letters, rest'⟩
  · rw [readItems_extension, readExtension_letters hc] at h
    simp [hl] at h
  rcases letters with added | ⟨added, removed⟩
  · rw [readItems_extension, readExtension_letters hc] at h
    simp only [hl] at h
    split_ifs at h with hfirst hverbose
    simp only [Bool.or_eq_true, Bool.not_eq_true', not_or, Bool.not_eq_false, List.isEmpty_iff]
      at hfirst
    obtain ⟨rfl, rfl⟩ := hfirst
    obtain ⟨ns, hns⟩ := ih.of_readItems (by omega) h
    exact ⟨ns, .modes hc hl (by simpa using hverbose) hns⟩
  · exact reads_of_cover ih (.letters hc hl) h

theorem reads_of_comment (ih : ReadsBelow (k + 2))
    (h : readItems (k + 2) f d b items s ('(' :: '?' :: '#' :: rest) = .ok r) :
    ∃ ns, Reads (k + 2) f d b (.branch items) s ('(' :: '?' :: '#' :: rest) ns r := by
  rcases hc : skipComment rest with e | rest'
  · rw [readItems_extension, readExtension.eq_def] at h
    simp [hc] at h
  · exact reads_of_skip ih (.comment hc) h

theorem reads_of_name (ih : ReadsBelow (k + 2))
    (h : readItems (k + 2) f d b items s ('(' :: '?' :: 'P' :: '=' :: rest) = .ok r) :
    ∃ ns, Reads (k + 2) f d b (.branch items) s ('(' :: '?' :: 'P' :: '=' :: rest) ns r := by
  rcases hn : readName ')' rest with e | ⟨name, rest'⟩
  · rw [readItems_extension, readExtension.eq_def] at h
    simp [hn] at h
  rw [readItems_name hn] at h
  rcases hl : s.names.lookup name with _ | i
  · simp [hl] at h
  simp only [hl] at h
  rcases hc : s.checkReference i with e | u
  · simp [hc] at h
  simp only [hc] at h
  obtain ⟨ns, hns⟩ := ih.of_readItems (by omega) h
  exact ⟨ns, .name hn hl hc hns⟩

theorem reads_of_named (ih : ReadsBelow (k + 3))
    (h : readItems (k + 3) f d b items s ('(' :: '?' :: 'P' :: '<' :: rest) = .ok r) :
    ∃ ns, Reads (k + 3) f d b (.branch items) s ('(' :: '?' :: 'P' :: '<' :: rest) ns r := by
  rcases hn : readName '>' rest with e | ⟨name, rest'⟩
  · rw [readItems_extension, readExtension.eq_def] at h
    simp [hn] at h
  · exact reads_of_group ih (.named hn) h

/-- With two calls left, nothing that begins with a question mark in parentheses can be read. -/
theorem readItems_two : readItems 2 f d b items s ('(' :: '?' :: rest) ≠ .ok r := by
  intro h
  rw [readItems_extension, readExtension.eq_def] at h
  dsimp only at h
  simp only [readGroup, readItems, readAhead, readBehind, readCondition] at h
  split at h
  all_goals repeat' split at h
  all_goals simp at h

theorem reads_of_extension (ih : ReadsBelow (k + 3))
    (h : readItems (k + 3) f d b items s ('(' :: '?' :: rest) = .ok r) :
    ∃ ns, Reads (k + 3) f d b (.branch items) s ('(' :: '?' :: rest) ns r := by
  have hext := h
  rw [readItems_extension, readExtension.eq_def] at hext
  dsimp only at hext
  split at hext
  · exact reads_of_named ih h
  · exact reads_of_name ih h
  · exact reads_of_cover ih .plain h
  · exact reads_of_comment ih h
  · exact reads_of_cover ih .ahead h
  · exact reads_of_cover ih .notAhead h
  · exact reads_of_behind ih .positive h
  · exact reads_of_behind ih .negative h
  · exact reads_of_condition ih h
  · exact reads_of_cover ih .atomic h
  · rename_i c _ _ _ _ _ _ _ _ _ _ _
    by_cases hc : c = '-' ∨ c ∈ Flags.letters
    · exact reads_of_letters ih hc h
    · rw [if_neg (by simpa using hc)] at hext
      cases hext
  · cases hext

theorem reads_of_parenthesis (ih : ReadsBelow (k + 1))
    (h : readItems (k + 1) f d b items s ('(' :: rest) = .ok r) :
    ∃ ns, Reads (k + 1) f d b (.branch items) s ('(' :: rest) ns r := by
  by_cases hmark : ∃ more, rest = '?' :: more
  · obtain ⟨more, rfl⟩ := hmark
    rcases k with _ | _ | k
    · rw [readItems_extension, readExtension] at h
      cases h
    · exact absurd h readItems_two
    · exact reads_of_extension ih h
  · rcases k with _ | k
    · rw [readItems.eq_def] at h
      simp [isLayout, readGroup, readExtension] at h
      split at h <;> cases h
    · exact reads_of_group (j := 0) ih (.unnamed (not_exists.mp hmark)) h

theorem reads_of_readItems (ih : ReadsBelow k) (h : readItems k f d b items s cs = .ok r) :
    ∃ ns, Reads k f d b (.branch items) s cs ns r := by
  rcases k with _ | k
  · simp [readItems] at h
  have hitems := h
  rw [readItems.eq_def] at hitems
  dsimp only at hitems
  split at hitems
  · cases hitems
    exact ⟨[], .stop (by simp [Stops])⟩
  · cases hitems
    exact ⟨[], .stop (by simp [Stops])⟩
  · cases hitems
    exact ⟨[], .stop (by simp [Stops])⟩
  · rename_i c rest hbar hclose
    by_cases hlayout : (f.verbose && isLayout c) = true
    · rw [Bool.and_eq_true] at hlayout
      exact reads_of_skip (j := 0) ih (.layout hlayout.1 hlayout.2) h
    by_cases hline : (f.verbose && decide (c = '#')) = true
    · simp only [Bool.and_eq_true, decide_eq_true_eq] at hline
      obtain ⟨hv, rfl⟩ := hline
      rcases hrest : skipLine rest with e | rest'
      · rw [if_neg hlayout] at hitems
        simp [hv, hrest] at hitems
      · exact reads_of_skip (j := 0) ih (.line hv hrest) h
    rw [if_neg hlayout, if_neg hline] at hitems
    split at hitems
    · cases rest with
      | nil => cases hitems
      | cons e rest => exact reads_of_escape ih h
    · exact reads_of_leaf ih .lineStart h
    · exact reads_of_leaf ih .lineEnd h
    · exact reads_of_leaf ih .dot h
    · rcases hm : readClass f rest with e | ⟨node, rest'⟩
      · simp [hm] at hitems
      · exact reads_of_leaf ih (.members hm) h
    · exact reads_of_again ih .star h
    · exact reads_of_again ih .plus h
    · exact reads_of_again ih .optional h
    · rcases hbounds : readBounds rest with e | _ | ⟨least, most, rest'⟩
      · simp [hbounds] at hitems
      · exact reads_of_leaf ih (.brace hbounds) h
      · exact reads_of_again ih (.bounds hbounds) h
    · exact reads_of_parenthesis ih h
    · refine reads_of_leaf ih (.char ?_ ?_) h
      · simp_all [special]
      · unfold Flags.passes
        revert hlayout hline
        cases f.verbose <;> simp +contextual

theorem reads_of_readBranches (ih : ReadsBelow k) (h : readBranches k f d b s cs = .ok r) :
    ∃ ns, Reads k f d b .branches s cs ns r := by
  rcases k with _ | k
  · simp [readBranches] at h
  rw [readBranches] at h
  split at h
  · cases h
  · rename_i a s' rest hitems
    split at h
    · cases h
    · rename_i a' s'' rest' hbranches
      cases h
      obtain ⟨ns, hns⟩ := ih.of_readItems (Nat.lt_succ_self k) hitems
      obtain ⟨ns', hns'⟩ := ih.of_readBranches (Nat.lt_succ_self k) hbranches
      exact ⟨ns ++ ns', .more hns hns'⟩
  · rename_i hmore hitems
    cases h
    obtain ⟨a, s', rest⟩ := r
    obtain ⟨ns, hns⟩ := ih.of_readItems (Nat.lt_succ_self k) hitems
    exact ⟨ns, .one hns (fun more hrest => hmore a s' more (by rw [hrest]))⟩

theorem readsBelow (k : Nat) : ReadsBelow k := by
  induction k with
  | zero => exact fun j hj => absurd hj (Nat.not_lt_zero j)
  | succ k ih =>
    intro j hj f d b stage s cs r h
    have ihj : ReadsBelow j := fun i hi => ih i (by omega)
    cases stage with
    | branches => exact reads_of_readBranches ihj h
    | branch items => exact reads_of_readItems ihj h

theorem Reads.read {stage : Stage} {ns : List Nat} (h : Reads k f d b stage s cs ns r) :
    stage.read k f d b s cs = .ok r := by
  induction h with
  | one h hmore ih =>
    change readBranches _ _ _ _ _ _ = _
    dsimp only [Stage.read] at ih
    rw [readBranches]
    simp only [ih]
    split
    · rename_i heq
      cases heq
    · rename_i heq
      cases heq
      exact absurd rfl (hmore _)
    · rename_i heq
      exact heq.symm
  | more _ _ ih ih' =>
    change readBranches _ _ _ _ _ _ = _
    dsimp only [Stage.read] at ih ih'
    rw [readBranches]
    simp only [ih, ih']
  | stop hstop => exact readItems_stop hstop
  | skip hskip _ ih => exact (readItems_skip hskip).trans ih
  | leaf hleaf _ ih => exact (readItems_leaf hleaf).trans ih
  | number hescape _ ih => exact (readItems_escape hescape).trans ih
  | name hname hlookup hcheck _ ih =>
    refine (readItems_name hname).trans ?_
    simp only [hlookup, hcheck]
    exact ih
  | again hq hlast _ ih =>
    refine (readItems_again hq).trans ?_
    simp only [hlast]
    exact ih
  | group hopens hopen _ _ ih ih' =>
    refine (readItems_group hopens).trans ?_
    dsimp only [Stage.read] at ih
    simp only [hopen, ih]
    exact ih'
  | cover hc _ _ ih ih' =>
    refine (readItems_cover hc).trans ?_
    dsimp only [Stage.read] at ih
    simp only [ih]
    exact ih'
  | behind hb _ _ ih ih' =>
    refine (readItems_behind hb).trans ?_
    dsimp only [Stage.read] at ih
    simp only [ih]
    exact ih'
  | ifThen hname hgroup hcheck _ _ ih ih' =>
    refine (readItems_condition hname).trans ?_
    dsimp only [Stage.read] at ih
    simp only [hgroup, hcheck, ih]
    exact ih'
  | ifElse hname hgroup hcheck _ _ _ ih ih' ih'' =>
    refine (readItems_condition hname).trans ?_
    dsimp only [Stage.read] at ih ih'
    simp only [hgroup, hcheck, ih, ih']
    exact ih''
  | modes hc hl hverbose _ ih =>
    change readItems _ _ _ _ _ _ _ = _
    rw [readItems_extension, readExtension_letters hc]
    simp only [hl, hverbose]
    exact ih

theorem reads_of_read {stage : Stage} (h : stage.read k f d b s cs = .ok r) :
    ∃ ns, Reads k f d b stage s cs ns r :=
  readsBelow (k + 1) k (Nat.lt_succ_self k) f d b stage s cs r h

end SegmentIndex.Pattern
