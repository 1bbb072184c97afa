import SegmentIndex.Proofs.Language
import SegmentIndex.Proofs.Reading

/-!
# Scopes along a reading

A reading opens groups in the order of their numbers, and only adds to the names. It sets the
modes of the whole pattern to something whenever it comes upon letters for them, so a reading
after which no mode is set came upon none.
-/
namespace SegmentIndex.Pattern

/-! ## Letters for the whole pattern -/

/-- The letters that switch a mode on. -/
def Flags.settable : List Char := ['i', 'm', 's', 'x', 'a', 't', 'u']

theorem Flags.eq_of_set {f : Flags} {c : Char} (h : f.set true c = {}) : f = {} ∧ c ∉ settable := by
  unfold set at h
  split at h
  all_goals first
    | exact absurd h (by simp)
    | exact ⟨h, by simp_all [settable]⟩

theorem Flags.eq_of_foldl_set {f : Flags} {added : List Char}
    (h : added.foldl (·.set true ·) f = {}) :
    f = {} ∧ ∀ c ∈ added, c ∉ settable := by
  induction added generalizing f with
  | nil => exact ⟨h, by simp⟩
  | cons c added ih =>
    obtain ⟨hset, hadded⟩ := ih h
    obtain ⟨hf, hc⟩ := eq_of_set hset
    exact ⟨hf, List.forall_mem_cons.mpr ⟨hc, hadded⟩⟩

theorem readAdded_settable {cs added added' rest : List Char} {mark : Char}
    (h : readAdded added cs = .ok (added', mark, rest)) (hadded : ∀ c ∈ added, c ∈ Flags.settable) :
    ∀ c ∈ added', c ∈ Flags.settable := by
  induction cs generalizing added with
  | nil => simp [readAdded] at h
  | cons c cs ih =>
    rw [readAdded] at h
    dsimp only at h
    split_ifs at h with hend hletter hlocale hmixed
    · cases h
      exact hadded
    · refine ih h ?_
      simp only [List.mem_append, List.mem_singleton]
      rintro e (he | rfl)
      · exact hadded e he
      · simp only [Flags.letters, List.contains_eq_mem, List.mem_cons, Bool.not_eq_true',
          decide_eq_false_iff_not] at hletter
        simp only [Flags.settable, List.mem_cons]
        tauto

theorem readAdded_length {cs added added' rest : List Char} {mark : Char}
    (h : readAdded added cs = .ok (added', mark, rest)) : added.length ≤ added'.length := by
  induction cs generalizing added with
  | nil => simp [readAdded] at h
  | cons c cs ih =>
    rw [readAdded] at h
    dsimp only at h
    split_ifs at h with hend hletter hlocale hmixed
    · cases h
      exact le_rfl
    · have hlength := ih h
      rw [List.length_append] at hlength
      omega

theorem readLetters_whole {c : Char} {rest added rest' : List Char}
    (h : readLetters (c :: rest) = .ok (.whole added, rest')) :
    c ≠ '-' ∧ readAdded [] (c :: rest) = .ok (added, ')', rest') := by
  unfold readLetters at h
  by_cases hc : c = '-'
  · subst hc
    simp only [bind, Except.bind, pure, Except.pure, throw, throwThe, MonadExceptOf.throw] at h
    repeat' split at h
    all_goals simp_all
  · simp only [bind, Except.bind, pure, Except.pure, throw, throwThe, MonadExceptOf.throw] at h
    repeat' split at h
    all_goals simp_all [Prod.ext_iff]

theorem exists_settable {c : Char} {rest added rest' : List Char} (hc : c = '-' ∨ c ∈ Flags.letters)
    (h : readLetters (c :: rest) = .ok (.whole added, rest')) :
    ∃ e ∈ added, e ∈ Flags.settable := by
  obtain ⟨hne, hadded⟩ := readLetters_whole h
  have hall := readAdded_settable hadded (by simp)
  have hletter := hc.resolve_left hne
  suffices hlength : 0 < added.length by
    obtain ⟨e, he⟩ := List.exists_mem_of_length_pos hlength
    exact ⟨e, he, hall e he⟩
  rw [readAdded] at hadded
  dsimp only at hadded
  split_ifs at hadded with hend
  · simp only [Flags.letters, List.mem_cons, List.not_mem_nil, or_false] at hletter
    rcases hletter with rfl | rfl | rfl | rfl | rfl | rfl | rfl | rfl <;> simp at hend
  · exact readAdded_length hadded

/-! ## How scopes grow -/

/-- Whether a scope holds all names of an earlier one, with no fewer groups and no fewer modes. -/
structure Scope.Grows (s s' : Scope) : Prop where
  names : s.names <+: s'.names
  groups : s.groups ≤ s'.groups
  flags : s'.flags = {} → s.flags = {}

namespace Scope.Grows

variable {s s' s'' : Scope}

theorem refl (s : Scope) : s.Grows s := ⟨List.prefix_rfl, le_rfl, id⟩

theorem trans (h : s.Grows s') (h' : s'.Grows s'') : s.Grows s'' :=
  ⟨h.names.trans h'.names, h.groups.trans h'.groups, h.flags ∘ h'.flags⟩

theorem openGroup {name : Option String} {i : Nat} (h : s.openGroup name = .ok (i, s')) :
    s.Grows s' := by
  unfold Scope.openGroup at h
  split at h
  · cases h
    exact ⟨List.prefix_rfl, Nat.le_succ _, id⟩
  · split_ifs at h
    cases h
    exact ⟨List.prefix_append _ _, Nat.le_succ _, id⟩

end Scope.Grows

variable {k d : Nat} {f : Flags} {b : Bool} {stage : Stage} {s : Scope} {cs : List Char}
  {ns : List Nat} {r : Node × Scope × List Char}

theorem openGroup_index {s' : Scope} {name : Option String} {i : Nat}
    (h : s.openGroup name = .ok (i, s')) :
    i = s.groups ∧ s'.groups = s.groups + 1 := by
  unfold Scope.openGroup at h
  split at h
  · cases h
    exact ⟨rfl, rfl⟩
  · split_ifs at h
    cases h
    exact ⟨rfl, rfl⟩

theorem Reads.grows (h : Reads k f d b stage s cs ns r) : s.Grows r.2.1 := by
  induction h with
  | one _ _ ih => exact ih
  | more _ _ ih ih' => exact ih.trans ih'
  | stop => exact .refl _
  | skip _ _ ih | leaf _ _ ih | number _ _ ih | name _ _ _ _ ih => exact ih
  | again _ _ _ ih => exact ⟨ih.names, ih.groups, ih.flags⟩
  | group _ hopen _ _ ih ih' =>
    exact (Scope.Grows.openGroup hopen).trans (ih.trans ⟨ih'.names, ih'.groups, ih'.flags⟩)
  | cover _ _ _ ih ih' => exact ih.trans ih'
  | behind _ _ _ ih ih' =>
    exact .trans ⟨ih.names, ih.groups, ih.flags⟩ ⟨ih'.names, ih'.groups, ih'.flags⟩
  | ifThen _ _ _ _ _ ih ih' => exact .trans ⟨ih.names, ih.groups, ih.flags⟩ ih'
  | ifElse _ _ _ _ _ _ ih ih' ih'' => exact .trans ⟨ih.names, ih.groups, ih.flags⟩ (ih'.trans ih'')
  | modes _ _ _ _ ih =>
    exact ⟨ih.names, ih.groups, fun hr => (Flags.eq_of_foldl_set (ih.flags hr)).1⟩

theorem openGroup_nodup {s' : Scope} {name : Option String} {i : Nat}
    (h : s.openGroup name = .ok (i, s'))
    (hnames : (s.names.map (·.1)).Nodup) : (s'.names.map (·.1)).Nodup := by
  unfold Scope.openGroup at h
  split at h
  · cases h
    exact hnames
  · split_ifs at h with hnew
    cases h
    rw [List.map_append, List.nodup_append]
    refine ⟨hnames, List.nodup_singleton _, ?_⟩
    rintro n hn m hm rfl
    obtain ⟨x, hx, rfl⟩ := List.mem_map.mp hn
    rw [List.map_singleton, List.mem_singleton] at hm
    exact hnew (List.lookup_isSome_iff.mpr ⟨x, hx, beq_iff_eq.mpr hm.symm⟩)

theorem Reads.names_nodup (h : Reads k f d b stage s cs ns r) (hnames : (s.names.map (·.1)).Nodup) :
    (r.2.1.names.map (·.1)).Nodup := by
  induction h with
  | one _ _ ih | skip _ _ ih | leaf _ _ ih | number _ _ ih | name _ _ _ _ ih | again _ _ _ ih
    | modes _ _ _ _ ih =>
    exact ih hnames
  | stop => exact hnames
  | more _ _ ih ih' | cover _ _ _ ih ih' | behind _ _ _ ih ih' | ifThen _ _ _ _ _ ih ih' =>
    exact ih' (ih hnames)
  | group _ hopen _ _ ih ih' => exact ih' (ih (openGroup_nodup hopen hnames))
  | ifElse _ _ _ _ _ _ ih ih' ih'' => exact ih'' (ih' (ih hnames))

theorem Reads.lookbehind (h : Reads k f d b stage s cs ns r) : r.2.1.lookbehind = s.lookbehind := by
  induction h with
  | one _ _ ih | skip _ _ ih | leaf _ _ ih | number _ _ ih | name _ _ _ _ ih | again _ _ _ ih
    | modes _ _ _ _ ih =>
    exact ih
  | stop => rfl
  | more _ _ ih ih' | cover _ _ _ ih ih' | ifThen _ _ _ _ _ ih ih' => exact ih'.trans ih
  | group _ hopen _ _ ih ih' =>
    refine ih'.trans (ih.trans ?_)
    unfold Scope.openGroup at hopen
    split at hopen
    · cases hopen
      rfl
    · split_ifs at hopen
      cases hopen
      rfl
  | behind _ _ _ _ ih' => exact ih'
  | ifElse _ _ _ _ _ _ ih ih' ih'' => exact ih''.trans (ih'.trans ih)

/-- No letters for the whole pattern are read on the way to a scope without modes. -/
theorem not_modes {c : Char} {rest added rest' : List Char} {s' : Scope}
    (hc : c = '-' ∨ c ∈ Flags.letters) (hl : readLetters (c :: rest) = .ok (.whole added, rest'))
    (hgrows : Scope.Grows { s with flags := added.foldl (·.set true ·) s.flags } s') :
    s'.flags ≠ {} := by
  intro hflags
  obtain ⟨e, he, hset⟩ := exists_settable hc hl
  exact (Flags.eq_of_foldl_set (hgrows.flags hflags)).2 e he hset

/-! ## Nodes without other nodes -/

/-- Whether a node takes nothing or one character and holds no other node. -/
def Node.isAtom : Node → Bool
  | .any _ | .chars .. | .anchor .. => true
  | _ => false

theorem exists_of_map_eq_ok {ε α β : Type} {o : Except ε α} {g : α → β} {y : β}
    (h : o.map g = .ok y) :
    ∃ x, o = .ok x ∧ g x = y := by
  cases o with
  | error e => cases h
  | ok x =>
    cases h
    exact ⟨x, rfl, rfl⟩

theorem isAtom_of_readReference {c : Char} {rest rest' : List Char} {node : Node}
    (h : readReference f { groups := 0 } c rest = .ok (node, rest')) : node.isAtom = true := by
  simp only [readReference_eq, Nat.not_lt_zero, if_false] at h
  split_ifs at h
  cases h
  rfl

theorem isAtom_of_readEscape {e : Char} {rest rest' : List Char} {kind : Kind} {node : Node}
    (h : readEscape f { groups := 0 } e rest = .ok (kind, node, rest')) : node.isAtom = true := by
  unfold readEscape at h
  split at h
  · cases h
    rfl
  · cases h
    rfl
  · cases h
    rfl
  · split at h
    · cases h
    · cases h
      rfl
    · split_ifs at h
      · obtain ⟨_, -, hnode⟩ := exists_of_map_eq_ok h
        cases hnode
        rfl
      · obtain ⟨_, hread, hnode⟩ := exists_of_map_eq_ok h
        cases hnode
        exact isAtom_of_readReference hread
      · cases h
        rfl

theorem isAtom_of_readClass {rest rest' : List Char} {node : Node}
    (h : readClass f rest = .ok (node, rest')) :
    node.isAtom = true := by
  unfold readClass at h
  obtain ⟨_, -, hnode⟩ := exists_of_map_eq_ok h
  cases hnode
  rfl

theorem Leaf.isAtom {cs rest : List Char} {kind : Kind} {node : Node}
    (h : Leaf f cs kind node rest) :
    node.isAtom = true := by
  cases h with
  | lineStart | lineEnd | dot | brace | char => rfl
  | members h => exact isAtom_of_readClass h
  | escape h => exact isAtom_of_readEscape (h _)

theorem exists_of_repeatLast {items items' : List (Kind × Node)} {least : Nat} {most : Option Nat}
    {rest rest' : List Char} (h : repeatLast items least most rest = .ok (items', rest')) :
    ∃ n before greed, items = (.other, n) :: before ∧
      items' = (.repeated, .rep greed least most n) :: before ∧
      readGreed rest = (greed, rest') := by
  unfold repeatLast at h
  split at h
  · cases h
  · cases h
  · cases h
  · cases h
    exact ⟨_, _, _, rfl, rfl, rfl⟩

/-! ## Readings of regular nodes -/

theorem isRegular_ofList {nodes : List Node} :
    (Node.ofList nodes).isRegular = true ↔ ∀ n ∈ nodes, n.isRegular = true := by
  induction nodes with
  | nil => simp [Node.ofList, Node.isRegular]
  | cons n rest ih => simp [Node.ofList, Node.isRegular, ih]

theorem isRegular_branchOf {items : List (Kind × Node)} :
    (branchOf items).isRegular = true ↔ ∀ item ∈ items, item.2.isRegular = true := by
  simp only [branchOf, isRegular_ofList, List.mem_map, List.mem_reverse]
  exact ⟨fun h item hitem => h _ ⟨item, hitem, rfl⟩, fun h _ ⟨item, hitem, hn⟩ => hn ▸ h item hitem⟩

/-- A regular node was read from regular items and without references by number. -/
theorem Reads.of_isRegular (h : Reads k f d b stage s cs ns r) (hr : r.1.isRegular = true) :
    (∀ item ∈ stage.items, item.2.isRegular = true) ∧ ns = [] := by
  induction h with
  | one _ _ ih => exact ih hr
  | more _ _ ih ih' =>
    rw [Node.isRegular, Bool.and_eq_true] at hr
    rw [(ih hr.1).2, (ih' hr.2).2]
    exact ⟨by simp [Stage.items], rfl⟩
  | stop => exact ⟨isRegular_branchOf.mp hr, rfl⟩
  | skip _ _ ih | modes _ _ _ _ ih => exact ih hr
  | leaf _ _ ih =>
    obtain ⟨hitems, hns⟩ := ih hr
    exact ⟨(List.forall_mem_cons.mp hitems).2, hns⟩
  | number _ _ ih | name _ _ _ _ ih | behind _ _ _ _ ih | ifThen _ _ _ _ _ _ ih
    | ifElse _ _ _ _ _ _ _ _ ih =>
    have hnot := (List.forall_mem_cons.mp (ih hr).1).1
    cases hnot
  | again _ hl _ ih =>
    obtain ⟨n, before, greed, rfl, rfl, -⟩ := exists_of_repeatLast hl
    obtain ⟨hitems, hns⟩ := ih hr
    simp only [Stage.items, List.forall_mem_cons, Node.isRegular, Bool.and_eq_true] at hitems
    exact ⟨List.forall_mem_cons.mpr ⟨hitems.1.2, hitems.2⟩, hns⟩
  | group _ _ _ _ ih ih' =>
    obtain ⟨hitems, hns'⟩ := ih' hr
    obtain ⟨hbody, hitems⟩ := List.forall_mem_cons.mp hitems
    rw [(ih hbody).2, hns']
    exact ⟨hitems, rfl⟩
  | cover hc _ _ ih ih' =>
    obtain ⟨hall, hns'⟩ := ih' hr
    obtain ⟨hbody, hitems⟩ := List.forall_mem_cons.mp hall
    cases hc with
    | plain | letters =>
      rw [(ih hbody).2, hns']
      exact ⟨hitems, rfl⟩
    | atomic | ahead | notAhead => cases hbody

end SegmentIndex.Pattern
