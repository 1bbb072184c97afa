import SegmentIndex.Proofs.Listing
import SegmentIndex.Proofs.Nesting
import SegmentIndex.Proofs.Rendering

/-!
# Patterns of token sequences

The pattern of some tokens is put together from the patterns of their captures, each of which
becomes the next group. Where these refer to no group by number and set no modes for the whole
pattern, it is sound exactly if no two of its groups have one name, be they captures or groups
inside of captures.
-/
namespace SegmentIndex

namespace Pattern

/-- Whether a pattern is sound by itself, refers to no group by number and sets no modes for the
whole pattern; with its node and the scope at its end. -/
structure ReadAlone (cs : List Char) (node : Node) (s : Scope) : Prop where
  reads : Reads (fuelFor cs) {} 0 true .branches {} cs [] (node, s, [])
  flags : s.flags = {}
  finish : s.finish = .ok ()

/-- Whether a pattern refers to no group by number and sets no modes for the whole pattern. -/
def Selfcontained (cs : List Char) : Prop :=
  ∃ node s, Reads (fuelFor cs) {} 0 true .branches {} cs [] (node, s, []) ∧ s.flags = {}

variable {cs : List Char} {node : Node} {s s₁ : Scope}

theorem readWhole_of_reads (h : Reads (fuelFor cs) {} 0 true .branches {} cs [] (node, s, []))
    (hflags : s.flags = {}) :
    readWhole {} cs = s.finish.map fun _ => ⟨node, s.names⟩ := by
  have hread : readBranches (fuelFor cs) {} 0 true { flags := {} } cs = .ok (node, s, []) := h.read
  simp [readWhole, hread, hflags]

theorem compile_of_reads (h : Reads (fuelFor cs) {} 0 true .branches {} cs [] (node, s, []))
    (hflags : s.flags = {}) :
    compile cs = s.finish.map fun _ => ⟨node, s.names⟩ := by
  rw [compile, readWhole_of_reads h hflags]
  unfold Scope.finish
  split_ifs <;> rfl

/-- A pattern that is read as a regular node is selfcontained if
it sets no modes for the whole pattern. -/
theorem selfcontained_of_isRegular
    (h : readBranches (fuelFor cs) {} 0 true {} cs = .ok (node, s, []))
    (hregular : node.isRegular = true) (hflags : s.flags = {}) : Selfcontained cs := by
  have hread : Stage.branches.read (fuelFor cs) {} 0 true {} cs = .ok (node, s, []) := h
  obtain ⟨ns, hreads⟩ := reads_of_read hread
  obtain ⟨-, rfl⟩ := hreads.of_isRegular hregular
  exact ⟨node, s, hreads, hflags⟩

theorem Selfcontained.readAlone (h : Selfcontained cs) {p : Program}
    (hp : Pattern.compile cs = .ok p) :
    ∃ s, ReadAlone cs p.node s ∧ s.names = p.names := by
  obtain ⟨node, s, hreads, hflags⟩ := h
  rw [compile_of_reads hreads hflags] at hp
  rcases hfinish : s.finish with e | u
  · rw [hfinish] at hp
    cases hp
  · rw [hfinish] at hp
    cases hp
    exact ⟨s, ⟨hreads, hflags, hfinish⟩, rfl⟩

/-! ## Scopes between tokens -/

/-- Whether a scope stands between two tokens: in no
lookbehind, and with nothing against it so far. -/
structure Scope.Settled (s : Scope) : Prop where
  bounded : s.Bounded
  lookbehind : s.lookbehind = none
  unevenBehind : s.unevenBehind = false
  templateRepeat : s.templateRepeat = false

def Scope.keys (s : Scope) : List String := s.names.map (·.1)

theorem Scope.settled_empty : ({} : Scope).Settled :=
  ⟨⟨by simp, by simp [Scope.isClosed], by simp⟩, rfl, rfl, rfl⟩

theorem Scope.Settled.finish (h : s.Settled) : s.finish = .ok () := by
  have hconditions : s.conditions.any (· ≥ s.groups) = false := by
    simpa using h.bounded.conditions
  simp [Scope.finish, hconditions, h.unevenBehind, h.templateRepeat]

/-- The empty scope is nested in a settled scope in which a group was just opened. -/
theorem Scope.Settled.nested (h : s.Settled) {name : Option String} {i : Nat}
    (ho : s.openGroup name = .ok (i, s₁)) :
    Nested i s₁.names {} s₁ := by
  obtain ⟨rfl, hgroups⟩ := openGroup_index ho
  have hfresh : ∀ i, s.closed.lookup (i + s.groups) = none := by
    intro i
    by_contra hclosed
    have hlt := h.bounded.closed (i + s.groups) (Option.isSome_iff_ne_none.mpr hclosed)
    omega
  have hrest : s₁.closed = s.closed ∧ s₁.lookbehind = s.lookbehind ∧
    s₁.unevenBehind = s.unevenBehind ∧
      s₁.templateRepeat = s.templateRepeat := by
    unfold Scope.openGroup at ho
    split at ho
    · cases ho
      exact ⟨rfl, rfl, rfl, rfl⟩
    · split_ifs at ho
      cases ho
      exact ⟨rfl, rfl, rfl, rfl⟩
  obtain ⟨hclosed, hlookbehind, huneven, htemplate⟩ := hrest
  exact
    { groups := by rw [hgroups, Nat.add_comm]
      names := by simp
      apart := by simp [Apart]
      closed := by simpa [hclosed] using hfresh
      lookbehind := hlookbehind.trans h.lookbehind
      unevenBehind := huneven.trans h.unevenBehind
      templateRepeat := htemplate.trans h.templateRepeat
      bounded := h.bounded.openGroup ho }

theorem ReadAlone.settled (h : ReadAlone cs node s) :
    s.lookbehind = none ∧ s.unevenBehind = false ∧ s.templateRepeat = false := by
  have hfinish := h.finish
  unfold Scope.finish at hfinish
  split_ifs at hfinish with hconditions huneven htemplate
  exact ⟨h.reads.lookbehind, by simpa using huneven, by simpa using htemplate⟩

/-- A scope in which a pattern that can be read alone was read stands
between two tokens once its group is closed. -/
theorem ReadAlone.settled_closeGroup {g : Nat} {outer : List (String × Nat)} {s' : Scope}
    (h : ReadAlone cs node s) (hn : Nested g outer s s') (hlt : g < s'.groups) (body : Node) :
    (s'.closeGroup g body).Settled := by
  obtain ⟨hlookbehind, huneven, htemplate⟩ := h.settled
  refine ⟨hn.bounded.closeGroup hlt body, hn.lookbehind.trans ?_, hn.unevenBehind.trans huneven,
    hn.templateRepeat.trans htemplate⟩
  rw [hlookbehind]
  rfl

theorem mem_keys_of_openGroup {name : String} {e : Fault}
    (ho : s.openGroup (some name) = .error e) :
    name ∈ s.keys := by
  rw [Scope.openGroup] at ho
  split_ifs at ho with htaken
  obtain ⟨x, hx, hname⟩ := List.lookup_isSome_iff.mp htaken
  obtain rfl := eq_of_beq hname
  exact List.mem_map_of_mem hx

theorem openGroup_names {name : String} {i : Nat} (ho : s.openGroup (some name) = .ok (i, s₁)) :
    s₁.names = s.names ++ [(name, s.groups)] := by
  rw [Scope.openGroup] at ho
  split_ifs at ho
  cases ho
  rfl

/-- A pattern that can be read alone is read as the body of the next
group unless one of its names is taken. -/
theorem readBody_cases (hs : s.Settled) (hkeys : s.keys.Nodup) (h : ReadAlone cs node s₁)
    (name : String) :
    (∃ s', readBody name s cs = .ok (.group s.groups (node.shift s.groups), s') ∧ s'.Settled ∧
    s'.keys.Nodup ∧
        s'.groups = s₁.groups + s.groups ∧
        s'.names = s.names ++ (name, s.groups) :: s₁.names.map fun (n, i) => (n, i + s.groups)) ∨
      (¬ (s.keys ++ name :: s₁.keys).Nodup ∧ ∃ e, readBody name s cs = .error e) := by
  unfold readBody
  rcases ho : s.openGroup (some name) with e | ⟨i, s₀⟩
  · refine .inr ⟨fun hnodup => ?_, e, rfl⟩
    exact (List.nodup_append.mp hnodup).2.2 _ (mem_keys_of_openGroup ho) _
      (List.mem_cons_self ..) rfl
  · obtain ⟨rfl, -⟩ := openGroup_index ho
    have hnames := openGroup_names ho
    rcases h.reads.agrees rfl h.flags (fun _ => rfl) (hs.nested ho) with ⟨s', hread, hn⟩
      | ⟨hapart, e, hread⟩
    · have hlt : s.groups < s'.groups := by
        have hgrows := h.reads.grows.groups
        rw [hn.groups]
        dsimp only at hgrows ⊢
        omega
      refine .inl ⟨s'.closeGroup s.groups (node.shift s.groups), ?_, h.settled_closeGroup hn hlt _,
        ?_, hn.groups, ?_⟩
      · simp only [Stage.shift, Stage.read] at hread
        simp only [hread]
      · have hall : s'.keys = s₀.keys ++ s₁.keys := by
          simp [Scope.keys, hn.names, Function.comp_def]
        change s'.keys.Nodup
        rw [hall]
        exact (openGroup_nodup ho hkeys).append (h.reads.names_nodup List.nodup_nil) hn.apart
      · refine hn.names.trans ?_
        rw [hnames, List.append_assoc, List.singleton_append]
    · refine .inr ⟨fun hnodup => hapart ?_, e, ?_⟩
      · rw [Apart, hnames, List.map_append]
        have happend : (s.keys ++ [name] ++ s₁.keys).Nodup := by simpa using hnodup
        exact List.disjoint_of_nodup_append happend
      · simp only [Stage.shift, Stage.read] at hread
        simp only [hread]

end Pattern

namespace PathSpec

open Pattern

/-- The names of the groups that a token brings into a pattern: a
capture and the named groups inside of it. -/
def Token.groupNames : Token → List String
  | .capture name pattern =>
    match Pattern.compile pattern.toList with
    | .ok p => name :: p.names.map (·.1)
    | .error _ => [name]
  | _ => []

/-- The names of the groups that tokens bring into a pattern. -/
def groupNames (tokens : List Token) : List String := tokens.flatMap Token.groupNames

/-- Whether the pattern of a token is sound by itself, refers to no group by number
and sets no modes for the whole pattern. -/
def Token.Selfcontained : Token → Prop
  | .capture _ pattern =>
    (∃ p, Pattern.compile pattern.toList = .ok p) ∧ Pattern.Selfcontained pattern.toList
  | _ => True

variable {s : Scope} {token : Token} {tokens : List Token}

theorem tokenNode_cases (hs : s.Settled) (hkeys : s.keys.Nodup) (h : token.Selfcontained) :
    (∃ node s', tokenNode s token = .ok (node, s') ∧ s'.Settled ∧ s'.keys.Nodup ∧
        s'.keys = s.keys ++ token.groupNames) ∨
      (¬ (s.keys ++ token.groupNames).Nodup ∧ ∃ e, tokenNode s token = .error e) := by
  cases token with
  | literal text => exact .inl ⟨_, s, rfl, hs, hkeys, by simp [Token.groupNames]⟩
  | glob recursive =>
    cases recursive <;> exact .inl ⟨_, s, rfl, hs, hkeys, by simp [Token.groupNames]⟩
  | capture name pattern =>
    obtain ⟨⟨p, hp⟩, hself⟩ := h
    obtain ⟨s₁, halone, hnames⟩ := hself.readAlone hp
    have hgroup : (Token.capture name pattern).groupNames = name :: s₁.keys := by
      simp only [Token.groupNames, hp, Scope.keys, hnames]
    rw [hgroup]
    rcases readBody_cases hs hkeys halone name with ⟨s', hread, hs', hkeys', -, hnames'⟩ | herror
    · refine .inl ⟨_, s', hread, hs', hkeys', ?_⟩
      simp [Scope.keys, hnames', Function.comp_def]
    · exact .inr herror

theorem groupNames_cons (token : Token) (tokens : List Token) :
    groupNames (token :: tokens) = token.groupNames ++ groupNames tokens := by
  rw [groupNames, List.flatMap_cons, groupNames]

theorem tokenNodes_cases (hs : s.Settled) (hkeys : s.keys.Nodup)
    (h : ∀ token ∈ tokens, token.Selfcontained) :
    (∃ nodes s', tokenNodes s tokens = .ok (nodes, s') ∧ s'.Settled ∧
    (s.keys ++ groupNames tokens).Nodup) ∨
      (¬ (s.keys ++ groupNames tokens).Nodup ∧ ∃ e, tokenNodes s tokens = .error e) := by
  induction tokens generalizing s with
  | nil => exact .inl ⟨[], s, rfl, hs, by simpa [groupNames] using hkeys⟩
  | cons token rest ih =>
    rw [List.forall_mem_cons] at h
    rw [groupNames_cons, ← List.append_assoc, tokenNodes]
    rcases tokenNode_cases hs hkeys h.1 with ⟨node, s', hnode, hs', hkeys', hall⟩ | ⟨hdup, e, hnode⟩
    · rw [← hall]
      rcases ih hs' hkeys' h.2 with ⟨nodes, s'', hnodes, hs'', hnodup⟩ | ⟨hdup, e, hnodes⟩
      · exact .inl ⟨node :: nodes, s'', by simp only [hnode, hnodes], hs'', hnodup⟩
      · exact .inr ⟨hdup, e, by simp only [hnode, hnodes]⟩
    · exact .inr ⟨fun hnodup => hdup (List.nodup_append.mp hnodup).1, e, by simp only [hnode]⟩

/-- The pattern of selfcontained tokens is sound exactly if no two of its groups have one name. -/
theorem compiles_iff_nodup (h : ∀ token ∈ tokens, token.Selfcontained) :
    Compiles tokens ↔ (groupNames tokens).Nodup := by
  unfold Compiles program
  rcases tokenNodes_cases Scope.settled_empty List.nodup_nil h with ⟨nodes, s, hnodes, hs, hnodup⟩
    | ⟨hdup, e, hnodes⟩
  · refine iff_of_true ⟨⟨Node.ofList nodes, s.names⟩, ?_⟩ hnodup
    simp only [hnodes, hs.finish]
    rfl
  · refine iff_of_false ?_ hdup
    simp [hnodes]

theorem canonicalTokens_eq_ok {t : FileTree} {canonical : List Token}
    (h : canonicalTokens t tokens = .ok canonical) :
    t.canonical (baseOf tokens) = .ok (baseOf canonical) ∧
      afterBase canonical = afterBase tokens := by
  rcases hbase : t.canonical (baseOf tokens) with e | base
  · simp [canonicalTokens, hbase, Except.map] at h
  · obtain ⟨canonical', h', hsame, hafter⟩ := canonicalTokens_spec hbase
    obtain rfl : canonical' = canonical := Except.ok.inj (h'.symm.trans h)
    exact ⟨by rw [hsame], hafter⟩

end PathSpec

namespace Spec

variable {spec : Spec} {t : FileTree}

/-- Whether a spec was compiled from its path, and its captures refer to no group by number
and set no modes for the whole pattern. -/
structure Selfcontained (spec : Spec) : Prop where
  compiled : PathSpec.compile spec.path = .ok spec.segments
  captures : ∀ name pattern, .capture name pattern ∈ spec.segments →
    Pattern.Selfcontained pattern.toList

theorem Selfcontained.tokens (h : spec.Selfcontained) :
    ∀ token ∈ spec.segments, token.Selfcontained := by
  intro token htoken
  cases token with
  | literal | glob => trivial
  | capture name pattern =>
    have hsound := (PathSpec.compile_eq_ok_iff.mp h.compiled).1.sound _ htoken
    exact ⟨hsound.2.1, h.captures name pattern htoken⟩

theorem Selfcontained.compiles_iff (h : spec.Selfcontained) :
    PathSpec.Compiles spec.segments ↔ (PathSpec.groupNames spec.segments).Nodup :=
  PathSpec.compiles_iff_nodup h.tokens

theorem Selfcontained.compiles_canonical_iff (h : spec.Selfcontained) {tokens : List PathSpec.Token}
    (ht : PathSpec.canonicalTokens t spec.segments = .ok tokens) :
    PathSpec.Compiles tokens ↔ (PathSpec.groupNames spec.segments).Nodup := by
  have hafter := (PathSpec.canonicalTokens_eq_ok ht).2
  rw [← PathSpec.compiles_afterBase, hafter, PathSpec.compiles_afterBase, h.compiles_iff]

end Spec

end SegmentIndex
