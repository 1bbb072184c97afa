import SegmentIndex.Proofs.Scopes

/-!
# Patterns inside larger patterns

A pattern is read as the body of a group of a larger pattern in the same way as alone, only with the
numbers of its groups later, provided that it refers to no group by number and sets no modes for the
whole pattern. The one thing that can stand in the way is a group name that the larger pattern took
before.
-/
namespace SegmentIndex.Pattern

/-! ## Nodes with later groups -/

/-- A node with the numbers of its groups later by some amount. -/
def Node.shift (g : Nat) : Node → Node
  | .seq a b => .seq (a.shift g) (b.shift g)
  | .alt a b => .alt (a.shift g) (b.shift g)
  | .group i body => .group (i + g) (body.shift g)
  | .backref i a => .backref (i + g) a
  | .rep greed least most body => .rep greed least most (body.shift g)
  | .ahead negated body => .ahead negated (body.shift g)
  | .behind negated width body => .behind negated width (body.shift g)
  | .atomic body => .atomic (body.shift g)
  | .cond i yes no => .cond (i + g) (yes.shift g) (no.shift g)
  | n => n

/-- A stage with the numbers of the groups in its items later by some amount. -/
def Stage.shift (g : Nat) : Stage → Stage
  | .branches => .branches
  | .branch items => .branch (items.map fun (kind, n) => (kind, n.shift g))

namespace Node

variable {g : Nat}

theorem shift_of_isAtom {n : Node} (h : n.isAtom = true) : n.shift g = n := by
  cases n <;> first | rfl | cases h

@[simp] theorem isRegular_shift (n : Node) : (n.shift g).isRegular = n.isRegular := by
  induction n <;> simp_all [shift, isRegular]

@[simp] theorem language_shift (n : Node) : (n.shift g).language = n.language := by
  induction n with
  | seq a b iha ihb => exact congrArg₂ (· * ·) iha ihb
  | alt a b iha ihb => exact congrArg₂ (· + ·) iha ihb
  | group i body ih => exact ih
  | rep greed least most body ih =>
    exact congrArg (fun L : Language Char =>
      {w | ∃ n, least ≤ n ∧ (∀ m ∈ most, n ≤ m) ∧ w ∈ L ^ n}) ih
  | _ => rfl

@[simp] theorem groups_shift (n : Node) : (n.shift g).groups = n.groups.map (· + g) := by
  induction n <;> simp_all [shift, groups]

theorem width_shift (n : Node) {widths widths' : Nat → Width}
    (h : ∀ i, widths' (i + g) = widths i) :
    (n.shift g).width widths' = n.width widths := by
  induction n <;> simp_all [shift, width]

theorem ofList_shift (nodes : List Node) :
    (ofList nodes).shift g = ofList (nodes.map (·.shift g)) := by
  induction nodes with
  | nil => rfl
  | cons n rest ih => rw [ofList, shift, ih, List.map_cons, ofList]

end Node

theorem branchOf_shift (g : Nat) (items : List (Kind × Node)) :
    branchOf (items.map fun (kind, n) => (kind, n.shift g)) = (branchOf items).shift g := by
  rw [branchOf, branchOf, Node.ofList_shift, List.map_reverse, List.map_reverse, List.map_reverse]
  simp [Function.comp_def]

theorem Cover.node_shift (g : Nat) (cover : Cover) (body : Node) :
    cover.node (body.shift g) = (cover.node body).shift g := by
  cases cover <;> rfl

theorem repeatLast_shift (g : Nat) {items items' : List (Kind × Node)} {least : Nat}
    {most : Option Nat}
    {rest rest' : List Char} (h : repeatLast items least most rest = .ok (items', rest')) :
    repeatLast (items.map fun (kind, n) => (kind, n.shift g)) least most rest =
      .ok (items'.map fun (kind, n) => (kind, n.shift g), rest') := by
  obtain ⟨n, before, greed, rfl, rfl, hgreed⟩ := exists_of_repeatLast h
  simp [repeatLast, hgreed, Node.shift]

/-! ## Scopes inside larger scopes -/

/-- Whether some names of groups are all different from some others. -/
def Apart (outer names : List (String × Nat)) : Prop := (outer.map (·.1)).Disjoint (names.map (·.1))

theorem Apart.of_prefix {outer names names' : List (String × Nat)} (h : Apart outer names')
    (hp : names <+: names') :
    Apart outer names := by
  intro n ho hn
  exact h ho ((hp.map _).subset hn)

/-- Whether the groups that a scope names, closed or asked about were opened in it. -/
structure Scope.Bounded (s : Scope) : Prop where
  names : ∀ x ∈ s.names, x.2 < s.groups
  closed : ∀ i, s.isClosed i = true → i < s.groups
  conditions : ∀ i ∈ s.conditions, i < s.groups

theorem Scope.Bounded.openGroup {s s' : Scope} (h : s.Bounded) {name : Option String} {i : Nat}
    (ho : s.openGroup name = .ok (i, s')) : s'.Bounded := by
  unfold Scope.openGroup at ho
  split at ho
  · cases ho
    exact
      { names := fun x hx => (h.names x hx).trans (Nat.lt_succ_self _)
        closed := fun i hi => (h.closed i hi).trans (Nat.lt_succ_self _)
        conditions := fun i hi => (h.conditions i hi).trans (Nat.lt_succ_self _) }
  · split_ifs at ho
    cases ho
    exact
      { names := by
          intro x hx
          rcases List.mem_append.mp hx with hx | hx
          · exact (h.names x hx).trans (Nat.lt_succ_self _)
          · rw [List.mem_singleton.mp hx]
            exact Nat.lt_succ_self _
        closed := fun i hi => (h.closed i hi).trans (Nat.lt_succ_self _)
        conditions := fun i hi => (h.conditions i hi).trans (Nat.lt_succ_self _) }

theorem Scope.Bounded.closeGroup {s : Scope} (h : s.Bounded) {i : Nat} (hi : i < s.groups)
    (body : Node) :
    (s.closeGroup i body).Bounded :=
  { h with
    closed := by
      intro j hj
      by_cases hij : j = i
      · exact hij ▸ hi
      · refine h.closed j ?_
        rwa [Scope.isClosed, Scope.closeGroup, List.lookup_cons, beq_false_of_ne hij] at hj }

/-- Whether a scope is another one inside a larger pattern: its groups come later by some
amount, and some names are taken already. -/
structure Nested (g : Nat) (outer : List (String × Nat)) (s s' : Scope) : Prop where
  groups : s'.groups = s.groups + g
  names : s'.names = outer ++ s.names.map fun (n, i) => (n, i + g)
  apart : Apart outer s.names
  closed : ∀ i, s'.closed.lookup (i + g) = s.closed.lookup i
  lookbehind : s'.lookbehind = s.lookbehind.map (· + g)
  unevenBehind : s'.unevenBehind = s.unevenBehind
  templateRepeat : s'.templateRepeat = s.templateRepeat
  bounded : s'.Bounded

section Lookup

variable {α β γ : Type} [BEq α] {entries : List (α × β)} {a : α} {b : β}

theorem lookup_map (f : β → γ) (entries : List (α × β)) (a : α) :
    (entries.map fun (a, b) => (a, f b)).lookup a = (entries.lookup a).map f := by
  induction entries with
  | nil => rfl
  | cons x rest ih =>
    rw [List.map_cons, List.lookup_cons, List.lookup_cons, ih]
    cases a == x.1 <;> rfl

variable [LawfulBEq α]

theorem mem_of_lookup (h : entries.lookup a = some b) : (a, b) ∈ entries := by
  obtain ⟨before, after, rfl, -⟩ := List.lookup_eq_some_iff.mp h
  simp

theorem lookup_eq_none : entries.lookup a = none ↔ a ∉ entries.map (·.1) := by
  rw [List.lookup_eq_none_iff, List.mem_map, not_exists]
  constructor
  · rintro h x ⟨hx, rfl⟩
    simpa using h x hx
  · intro h x hx
    exact bne_iff_ne.mpr fun hn => h x ⟨hx, hn.symm⟩

end Lookup

variable {g : Nat} {outer : List (String × Nat)} {s s' s₁ : Scope}

namespace Nested

theorem isClosed (h : Nested g outer s s') (i : Nat) : s'.isClosed (i + g) = s.isClosed i := by
  rw [Scope.isClosed, Scope.isClosed, h.closed]

theorem widthOf (h : Nested g outer s s') (i : Nat) : s'.widthOf (i + g) = s.widthOf i := by
  rw [Scope.widthOf, Scope.widthOf, h.closed]

theorem width (h : Nested g outer s s') (body : Node) :
    (body.shift g).width s'.widthOf = body.width s.widthOf :=
  body.width_shift h.widthOf

theorem lookup_eq (h : Nested g outer s s') {n : String} {i : Nat}
    (hn : s.names.lookup n = some i) :
    s'.names.lookup n = some (i + g) := by
  have hmem : n ∈ s.names.map (·.1) := List.mem_map_of_mem (mem_of_lookup hn)
  have houter : outer.lookup n = none := lookup_eq_none.mpr fun ho => h.apart ho hmem
  rw [h.names, List.lookup_append, houter, lookup_map (· + g), hn]
  rfl

theorem index_lt (h : Nested g outer s s') {n : String} {i : Nat} (hn : s.names.lookup n = some i) :
    i + g < s'.groups := h.bounded.names _ (mem_of_lookup (h.lookup_eq hn))

theorem checkBehind (h : Nested g outer s s') (i : Nat) :
    s'.checkBehind (i + g) = s.checkBehind i := by
  unfold Scope.checkBehind
  rw [h.lookbehind, h.isClosed]
  cases s.lookbehind with
  | none => rfl
  | some bound => simp

theorem checkReference (h : Nested g outer s s') (i : Nat) :
    s'.checkReference (i + g) = s.checkReference i := by
  rw [Scope.checkReference, Scope.checkReference, h.isClosed, h.checkBehind]

/-! ### What an item does to both scopes -/

/-- A group is opened in both scopes unless its name is taken in the larger one. -/
theorem openGroup (h : Nested g outer s s') {name : Option String} {i : Nat}
    (ho : s.openGroup name = .ok (i, s₁)) :
    (∃ s₁', s'.openGroup name = .ok (i + g, s₁') ∧ Nested g outer s₁ s₁') ∨
      (¬ Apart outer s₁.names ∧ ∃ e, s'.openGroup name = .error e) := by
  cases name with
  | none =>
    cases ho
    have hopen : s'.openGroup none = .ok (s.groups + g, { s' with groups := s'.groups + 1 }) := by
      rw [Scope.openGroup, h.groups]
    exact .inl ⟨_, hopen,
      { h with
        groups := by simp only [h.groups]; omega
        bounded := h.bounded.openGroup hopen }⟩
  | some n =>
    rw [Scope.openGroup] at ho
    split_ifs at ho with hnew
    cases ho
    rw [Option.not_isSome_iff_eq_none] at hnew
    have hlookup : s'.names.lookup n = outer.lookup n := by
      rw [h.names, List.lookup_append, lookup_map (· + g), hnew]
      simp
    by_cases hn : n ∈ outer.map (·.1)
    · have htaken : (s'.names.lookup n).isSome = true := by
        rw [hlookup, Option.isSome_iff_ne_none, ne_eq, lookup_eq_none, not_not]
        exact hn
      refine .inr ⟨fun hapart => hapart hn (by simp), ?_⟩
      exact ⟨_, if_pos htaken⟩
    · have hopen : s'.openGroup (some n) =
          .ok (s.groups + g,
          { s' with groups := s'.groups + 1, names := s'.names ++ [(n, s'.groups)] }) := by
        rw [Scope.openGroup, hlookup, lookup_eq_none.mpr hn, h.groups]
        rfl
      exact .inl ⟨_, hopen,
        { h with
          groups := by simp only [h.groups]; omega
          names := by simp [h.names, h.groups]
          apart := by
            simp only [Apart, List.map_append, List.disjoint_append_right]
            exact ⟨h.apart, by simpa using hn⟩
          bounded := h.bounded.openGroup hopen }⟩

theorem closeGroup (h : Nested g outer s s') {i : Nat} (hi : i < s.groups) (body : Node) :
    Nested g outer (s.closeGroup i body) (s'.closeGroup (i + g) (body.shift g)) := by
  have hi' : i + g < s'.groups := by
    rw [h.groups]
    omega
  have hclosed : ∀ j, (s'.closeGroup (i + g) (body.shift g)).closed.lookup (j + g) =
      (s.closeGroup i body).closed.lookup j := by
    intro j
    simp only [Scope.closeGroup, List.lookup_cons, h.closed, h.width]
    by_cases hj : j = i
    · simp [hj]
    · rw [beq_false_of_ne hj, beq_false_of_ne (fun h => hj (Nat.add_right_cancel h))]
  exact { h with closed := hclosed, bounded := h.bounded.closeGroup hi' _ }

theorem noteRepeat (h : Nested g outer s s') (f : Flags) :
    Nested g outer (s.noteRepeat f) (s'.noteRepeat f) :=
  { h with
    templateRepeat := by simp only [Scope.noteRepeat, h.templateRepeat]
    bounded := { h.bounded with } }

theorem noteCondition (h : Nested g outer s s') {i : Nat} (hi : i + g < s'.groups) :
    Nested g outer (s.noteCondition i) (s'.noteCondition (i + g)) :=
  { h with
    bounded :=
      { h.bounded with
        conditions := by
          intro j hj
          rcases List.mem_cons.mp hj with rfl | hj
          · exact hi
          · exact h.bounded.conditions j hj } }

theorem condition (h : Nested g outer s s') {name : List Char} {i : Nat}
    (hnumbers : conditionNumbers name i = []) (hgroup : conditionGroup s name = .ok i) :
    conditionGroup s' name = .ok (i + g) ∧
    Nested g outer (s.noteCondition i) (s'.noteCondition (i + g)) := by
  have hname : Text.isName name = true := by
    unfold conditionNumbers at hnumbers
    by_contra hname
    rw [if_neg hname] at hnumbers
    cases hnumbers
  rw [conditionGroup] at hgroup ⊢
  simp only [hname, if_true] at hgroup ⊢
  split at hgroup
  · rename_i hlookup
    cases hgroup
    rw [h.lookup_eq hlookup]
    exact ⟨rfl, h.noteCondition (h.index_lt hlookup)⟩
  · cases hgroup

theorem enterBehind (h : Nested g outer s s') : Nested g outer s.enterBehind s'.enterBehind :=
  { h with
    lookbehind := by
      simp only [Scope.enterBehind, h.lookbehind, h.groups]
      cases s.lookbehind <;> rfl
    bounded := { h.bounded with } }

theorem leaveBehind {outside outside' : Scope} (ho : Nested g outer outside outside')
    (h : Nested g outer s s') (body : Node) : Nested g outer (outside.leaveBehind s body)
    (outside'.leaveBehind s' (body.shift g)) :=
  { h with
    lookbehind := ho.lookbehind
    unevenBehind := by simp only [Scope.leaveBehind, h.unevenBehind, h.width]
    bounded := { h.bounded with } }

end Nested

/-! ## Readings inside larger patterns -/

/-- Whether a reading inside a larger pattern goes as it does alone,
which only a name that is taken prevents. -/
def Agrees (g : Nat) (outer : List (String × Nat)) (r : Node × Scope × List Char)
    (o : Except Fault (Node × Scope × List Char)) : Prop :=
  (∃ s', o = .ok (r.1.shift g, s', r.2.2) ∧ Nested g outer r.2.1 s') ∨
    (¬ Apart outer r.2.1.names ∧ ∃ e, o = .error e)

variable {k d : Nat} {f : Flags} {b : Bool} {stage : Stage} {cs rest : List Char} {ns : List Nat}
  {r : Node × Scope × List Char}

theorem Agrees.of_body {o : Except Fault (Node × Scope × List Char)} {fault : Fault} {body : Node}
    {next : Node → Scope → List Char → Except Fault (Node × Scope × List Char)} :
    Agrees g outer (body, s₁, ')' :: rest) o → s₁.names <+: r.2.1.names →
    (∀ s', Nested g outer s₁ s' → Agrees g outer r (next (body.shift g) s' rest)) →
    Agrees g outer r (match o with
      | .error e => .error e
      | .ok (body, s, ')' :: rest) => next body s rest
      | .ok _ => .error fault) := by
  intro h hnames hnext
  rcases h with ⟨s', rfl, hs'⟩ | ⟨hapart, e, rfl⟩
  · exact hnext s' hs'
  · exact .inr ⟨fun h => hapart (h.of_prefix hnames), e, rfl⟩

theorem readBranches_of_items {a : Node} (h : readItems k f (d + 1) b [] s cs = .ok (a, s₁, rest))
    (hmore : ∀ more, rest ≠ '|' :: more) :
    readBranches (k + 1) f (d + 1) b s cs = .ok (a, s₁, rest) := by
  rw [readBranches]
  simp only [Nat.succ_ne_zero, if_false, h]
  split
  · rename_i heq
    cases heq
  · rename_i heq
    cases heq
    exact absurd rfl (hmore _)
  · rename_i heq
    exact heq.symm

theorem Agrees.one {a : Node} (h : Agrees g outer (a, s₁, rest) (readItems k f (d + 1) b [] s cs))
    (hmore : ∀ more, rest ≠ '|' :: more) :
    Agrees g outer (a, s₁, rest) (readBranches (k + 1) f (d + 1) b s cs) := by
  rcases h with ⟨s', hread, hs'⟩ | ⟨hapart, e, hread⟩
  · exact .inl ⟨s', readBranches_of_items hread hmore, hs'⟩
  · refine .inr ⟨hapart, e, ?_⟩
    rw [readBranches]
    simp only [Nat.succ_ne_zero, if_false, hread]

theorem Agrees.more {a a' : Node} {s₂ : Scope} {rest' : List Char}
    (h : Agrees g outer (a, s₁, '|' :: rest) (readItems k f (d + 1) b [] s cs))
    (hnames : s₁.names <+: s₂.names)
    (hnext : ∀ s', Nested g outer s₁ s' →
      Agrees g outer (a', s₂, rest') (readBranches k f (d + 1) false s' rest)) :
    Agrees g outer (.alt a a', s₂, rest') (readBranches (k + 1) f (d + 1) b s cs) := by
  rcases h with ⟨s', hread, hs'⟩ | ⟨hapart, e, hread⟩
  · rcases hnext s' hs' with ⟨s'', hread', hs''⟩ | ⟨hapart', e, hread'⟩
    · refine .inl ⟨s'', ?_, hs''⟩
      rw [readBranches]
      simp only [Nat.succ_ne_zero, if_false, hread, hread']
      rfl
    · refine .inr ⟨hapart', e, ?_⟩
      rw [readBranches]
      simp only [Nat.succ_ne_zero, if_false, hread, hread']
  · refine .inr ⟨fun h => hapart (h.of_prefix hnames), e, ?_⟩
    rw [readBranches]
    simp only [Nat.succ_ne_zero, if_false, hread]

/-- Without modes for the whole pattern, a branch is read in the
modes around it, outside as inside groups. -/
theorem modes_eq (hf : d = 0 → f = {}) (hflags : s.flags = {}) :
    (if d = 0 then s.flags else f) = f := by
  split_ifs with hd
  · rw [hf hd, hflags]
  · rfl

/-- A reading that refers to no group by number and sets no modes for the whole pattern agrees
with the reading inside a larger pattern. -/
theorem Reads.agrees (h : Reads k f d b stage s cs ns r) (hns : ns = []) (hflags : r.2.1.flags = {})
    (hf : d = 0 → f = {}) (hn : Nested g outer s s') :
    Agrees g outer r ((stage.shift g).read k f (d + 1) false s' cs) := by
  induction h generalizing s' with
  | @one k f d b s cs ns a s₁ rest h hmore ih =>
    rw [modes_eq hf (h.grows.flags hflags)] at ih
    exact (ih hns hflags hf hn).one hmore
  | @more k f d b s cs ns ns' a a' s₁ s₂ rest rest' h h' ih ih' =>
    have hflags₁ := h'.grows.flags hflags
    rw [modes_eq hf (h.grows.flags hflags₁)] at ih
    obtain ⟨rfl, rfl⟩ := List.append_eq_nil_iff.mp hns
    exact (ih rfl hflags₁ hf hn).more h'.grows.names fun s' hs' => ih' rfl hflags hf hs'
  | stop hstop =>
    refine .inl ⟨s', ?_, hn⟩
    exact (readItems_stop hstop).trans (by rw [branchOf_shift])
  | skip hskip h ih =>
    have hread := ih hns hflags hf hn
    dsimp only [Stage.shift, Stage.read] at hread ⊢
    rwa [readItems_skip hskip]
  | leaf hleaf h ih =>
    have hread := ih hns hflags hf hn
    simp only [Stage.shift, Stage.read, List.map_cons, Node.shift_of_isAtom hleaf.isAtom] at hread ⊢
    rwa [readItems_leaf hleaf]
  | number => cases hns
  | name hname hlookup hcheck h ih =>
    have hread := ih hns hflags hf hn
    dsimp only [Stage.shift, Stage.read] at hread ⊢
    rw [readItems_name hname, hn.lookup_eq hlookup]
    simp only [hn.checkReference, hcheck]
    exact hread
  | again hq hlast h ih =>
    have hread := ih hns hflags hf (hn.noteRepeat _)
    dsimp only [Stage.shift, Stage.read] at hread ⊢
    rw [readItems_again hq, repeatLast_shift g hlast]
    exact hread
  | group hopens hopen h h' ih ih' =>
    obtain ⟨rfl, rfl⟩ := List.append_eq_nil_iff.mp hns
    have hflags₁ := h'.grows.flags hflags
    dsimp only [Stage.shift, Stage.read] at ih ih' ⊢
    rw [readItems_group hopens]
    rcases hn.openGroup hopen with ⟨s₁', hopen', hn₁⟩ | ⟨hapart, e, hopen'⟩
    · simp only [hopen']
      refine (ih rfl hflags₁ (absurd · (Nat.succ_ne_zero _)) hn₁).of_body h'.grows.names
        fun s₂ hn₂ => ?_
      obtain ⟨rfl, hgroups⟩ := openGroup_index hopen
      have hgrows := h.grows.groups
      dsimp only at hgrows
      exact ih' rfl hflags hf (hn₂.closeGroup (by omega) _)
    · simp only [hopen']
      refine .inr ⟨fun hr => hapart (hr.of_prefix ?_), e, rfl⟩
      exact h.grows.names.trans h'.grows.names
  | cover hc h h' ih ih' =>
    obtain ⟨rfl, rfl⟩ := List.append_eq_nil_iff.mp hns
    have hflags₁ := h'.grows.flags hflags
    dsimp only [Stage.shift, Stage.read] at ih ih' ⊢
    rw [readItems_cover hc]
    refine (ih rfl hflags₁ (absurd · (Nat.succ_ne_zero _)) hn).of_body h'.grows.names fun s₂ hn₂ =>
      ?_
    rw [Cover.node_shift]
    exact ih' rfl hflags hf hn₂
  | behind hb h h' ih ih' =>
    obtain ⟨rfl, rfl⟩ := List.append_eq_nil_iff.mp hns
    have hflags₁ := h'.grows.flags hflags
    dsimp only [Stage.shift, Stage.read] at ih ih' ⊢
    rw [readItems_behind hb]
    refine (ih rfl hflags₁ (absurd · (Nat.succ_ne_zero _)) hn.enterBehind).of_body h'.grows.names
      fun s₂ hn₂ => ?_
    rw [hn₂.width]
    exact ih' rfl hflags hf (hn.leaveBehind hn₂ _)
  | ifThen hname hgroup hcheck h h' ih ih' =>
    obtain ⟨hrest, rfl⟩ := List.append_eq_nil_iff.mp hns
    obtain ⟨hnumbers, rfl⟩ := List.append_eq_nil_iff.mp hrest
    have hflags₁ := h'.grows.flags hflags
    obtain ⟨hgroup', hn₁⟩ := hn.condition hnumbers hgroup
    dsimp only [Stage.shift, Stage.read] at ih ih' ⊢
    rw [readItems_condition hname]
    simp only [hgroup', hn₁.checkBehind, hcheck]
    rcases ih rfl hflags₁ (absurd · (Nat.succ_ne_zero _)) hn₁ with ⟨s₂, hread, hn₂⟩
      | ⟨hapart, e, hread⟩
    · rw [List.map_nil] at hread
      simp only [hread]
      exact ih' rfl hflags hf hn₂
    · rw [List.map_nil] at hread
      simp only [hread]
      exact .inr ⟨fun hr => hapart (hr.of_prefix h'.grows.names), e, rfl⟩
  | ifElse hname hgroup hcheck h h' h'' ih ih' ih'' =>
    obtain ⟨hrest, rfl⟩ := List.append_eq_nil_iff.mp hns
    obtain ⟨hrest', rfl⟩ := List.append_eq_nil_iff.mp hrest
    obtain ⟨hnumbers, rfl⟩ := List.append_eq_nil_iff.mp hrest'
    have hflags₂ := h''.grows.flags hflags
    have hflags₁ := h'.grows.flags hflags₂
    obtain ⟨hgroup', hn₁⟩ := hn.condition hnumbers hgroup
    dsimp only [Stage.shift, Stage.read] at ih ih' ih'' ⊢
    rw [readItems_condition hname]
    simp only [hgroup', hn₁.checkBehind, hcheck]
    rcases ih rfl hflags₁ (absurd · (Nat.succ_ne_zero _)) hn₁ with ⟨s₁', hread, hn₂⟩
      | ⟨hapart, e, hread⟩
    · rw [List.map_nil] at hread
      simp only [hread]
      refine (ih' rfl hflags₂ (absurd · (Nat.succ_ne_zero _)) hn₂).of_body h''.grows.names
        fun s₂' hn₃ => ?_
      exact ih'' rfl hflags hf hn₃
    · rw [List.map_nil] at hread
      simp only [hread]
      exact .inr ⟨fun hr => hapart (hr.of_prefix (h'.grows.names.trans h''.grows.names)), e, rfl⟩
  | modes hc hl _ h => exact absurd hflags (not_modes hc hl h.grows)

end SegmentIndex.Pattern
