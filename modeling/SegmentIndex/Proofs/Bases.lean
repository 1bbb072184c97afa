import SegmentIndex.Proofs.Paths
import SegmentIndex.Proofs.Splitting

/-!
# Bases that stop within a name

A base is made canonical as if it were a whole path, although a star or a capture may go on within
its last name. A base that a canonical path begins with is its own canonical form unless it stops
after one or two dots. So a canonical path that the tokens take as they were compiled is matched,
unless the base stops so; then the dots are lost, and the path is matched only if the other tokens
take the dots with the rest of the path.
-/
namespace SegmentIndex

namespace PathSpec

open Pattern

theorem prefix_baseOf_of_run {tokens : List Token} {s s' : Scope} {nodes : List Node}
    (hnodes : tokenNodes s tokens = .ok (nodes, s')) {k : Next} {p r : Pattern.Point}
    (hr : (Node.ofList nodes).run k p = some r) : (baseOf tokens).toList <+: p.after := by
  induction tokens generalizing s nodes p with
  | nil => exact List.nil_prefix
  | cons token rest ih =>
    obtain ⟨node, s₁, nodes', hnode, hrest, rfl⟩ := exists_of_tokenNodes hnodes
    cases token with
    | literal text =>
      cases hnode
      obtain ⟨w, hw, q, ht, -, hq⟩ := (Node.walks (isRegular_text text.toList)).sound hr
      obtain rfl := mem_language_text.mp hw
      obtain ⟨more, hmore⟩ := ih hrest hq
      refine ⟨more, ?_⟩
      rw [baseOf_literal, String.toList_append, List.append_assoc, hmore]
      exact ht.after.symm
    | glob recursive => exact List.nil_prefix
    | capture name pattern => exact List.nil_prefix

theorem prefix_baseOf_of_fullMatch {tokens : List Token} {program : Program}
    (hp : PathSpec.program tokens = .ok program) {cs : List Char} {marks : List (Nat × List Char)}
    (hm : program.fullMatch cs = some marks) :
    (baseOf tokens).toList <+: cs := by
  obtain ⟨nodes, s, hnodes, rfl⟩ := exists_of_program hp
  obtain ⟨r, hr, -⟩ := Option.map_eq_some_iff.mp hm
  exact prefix_baseOf_of_run hnodes hr

theorem canonicalTokens_of_canonical {t : FileTree} {tokens : List Token}
    (h : t.canonical (baseOf tokens) = .ok (baseOf tokens)) :
    canonicalTokens t tokens = .ok tokens := by
  simp [canonicalTokens, h, Except.map]

theorem canonicalTokens_of_ne {t : FileTree} {tokens : List Token} {base : String}
    (h : t.canonical (baseOf tokens) = .ok base) (hne : base ≠ baseOf tokens) :
    canonicalTokens t tokens = .ok (.literal base :: afterBase tokens) := by
  simp [canonicalTokens, h, hne, Except.map]

end PathSpec

/-- A canonical path is matched exactly if the pattern of the canonical tokens takes it. -/
theorem Spec.exists_match_iff {t : FileTree} {spec : Spec} {tokens : List PathSpec.Token}
    {path : String} (ht : PathSpec.canonicalTokens t spec.segments = .ok tokens)
    (hc : t.canonical path = .ok path) :
    (∃ m, spec.matchPath t path = .ok (some m)) ↔
      ∃ p, PathSpec.program tokens = .ok p ∧ (p.fullMatch path.toList).isSome = true := by
  constructor
  · rintro ⟨m, hm⟩
    obtain ⟨tokens', p, c, ht', hp, hc', htaken⟩ := exists_of_matchPath hm
    obtain rfl : tokens = tokens' := Except.ok.inj (ht.symm.trans ht')
    obtain rfl : path = c := Except.ok.inj (hc.symm.trans hc')
    obtain ⟨marks, hmarks, -⟩ := Option.map_eq_some_iff.mp htaken.symm
    exact ⟨p, hp, by rw [hmarks]; rfl⟩
  · rintro ⟨p, hp, htaken⟩
    obtain ⟨marks, hmarks⟩ := Option.isSome_iff_exists.mp htaken
    rw [matchPath_eq ht hp hc, matchCanonical, hmarks]
    exact ⟨_, rfl⟩

open FileTree in
/-- A canonical path that the tokens of a spec take as they were compiled is matched, with the
same captures, unless the base stops after one or two dots. Then it is matched exactly if the
tokens with the dots resolved take it. -/
theorem match_kept_iff {t : FileTree} (h : t.Linkless) {spec : Spec} {path : String}
    {p : Pattern.Program} (hbase : Path.isAbsolute (PathSpec.baseOf spec.segments) = true)
    (hpath : Path.isAbsolute path = true) (hcanonical : t.canonical path = .ok path)
    (hp : PathSpec.program spec.segments = .ok p) {marks : List (Nat × List Char)}
    (hm : p.fullMatch path.toList = some marks) :
    ∃ dir x, PathSpec.baseOf spec.segments = pathOf (dir ++ [x]) ∧
    (∀ n ∈ dir ++ [x], '/' ∉ n.toList) ∧
      ((∃ m, spec.matchPath t path = .ok (some m)) ↔ (x ≠ "." ∧ x ≠ "..") ∨
        ∃ q, PathSpec.program (.literal (pathOf (descend dir x)) ::
          PathSpec.afterBase spec.segments) = .ok q ∧
          (q.fullMatch path.toList).isSome = true) ∧
      (x ≠ "." ∧ x ≠ ".." → ∀ m, spec.matchPath t path = .ok (some m) →
        m.captures = p.captures marks) := by
  have hstart := PathSpec.prefix_baseOf_of_fullMatch hp hm
  obtain ⟨dir, x, n, more, hdir, hb, -, hslash, hx⟩ := h.exists_concat hbase hpath hcanonical hstart
  have hxslash : '/' ∉ x.toList := fun hmem => hslash n (by simp) (hx.subset hmem)
  have hnames : ∀ n ∈ dir ++ [x], '/' ∉ n.toList := no_slash_append hdir (by simpa using hxslash)
  have hnull : NullFree (pathOf (dir ++ [x])) := fun hmem =>
    ((h.canonical_eq_ok_iff hpath).mp hcanonical).1 (hstart.subset (hb ▸ hmem))
  by_cases hdots : x = "." ∨ x = ".."
  · have hnot : ¬ (x ≠ "." ∧ x ≠ "..") := by tauto
    refine ⟨dir, x, hb, hnames, ?_, fun hno => absurd hno hnot⟩
    have htokens : PathSpec.canonicalTokens t spec.segments =
        .ok (.literal (pathOf (descend dir x)) :: PathSpec.afterBase spec.segments) := by
      refine PathSpec.canonicalTokens_of_ne ?_ ?_
      · rw [hb]
        exact h.canonical_of_dots hdir hxslash hnull hdots
      · rw [hb]
        exact pathOf_descend_ne hdir hxslash hdots
    rw [or_iff_right hnot]
    exact Spec.exists_match_iff htokens hcanonical
  · rw [not_or] at hdots
    have htokens : PathSpec.canonicalTokens t spec.segments = .ok spec.segments := by
      refine PathSpec.canonicalTokens_of_canonical ?_
      rw [hb]
      exact h.canonical_concat hdir hxslash hnull hdots.1 hdots.2
    have hmatch := Spec.matchPath_eq htokens hp hcanonical
    rw [Spec.matchCanonical, hm] at hmatch
    refine ⟨dir, x, hb, hnames, iff_of_true ⟨_, hmatch⟩ (.inl hdots), ?_⟩
    intro _ m hm'
    rw [hmatch] at hm'
    cases hm'
    rfl

namespace Dotted

/-- A directory with a file whose name begins with a dot, and one whose name does not. -/
def tree : FileTree :=
  ⟨[(["d"], .dir), (["d", ".ab"], .file ⟨#[]⟩), (["d", "v1"], .file ⟨#[]⟩)], []⟩

theorem linkless_tree : tree.Linkless :=
  FileTree.linkless_of_entries (by simp [tree])

/-- A spec whose base stops within a name. -/
def versions : Spec := ⟨"/d/v*", [.literal "/d/v", .glob false], "/d/v", "chunked", [], [], false⟩

/-- A spec whose base stops after a dot. -/
def hidden : Spec := ⟨"/d/.*", [.literal "/d/.", .glob false], "/d/.", "chunked", [], [], false⟩

theorem versions_kept : tree.Linkless ∧ Path.isAbsolute (PathSpec.baseOf versions.segments) = true ∧
    Path.isAbsolute "/d/v1" = true ∧ tree.canonical "/d/v1" = .ok "/d/v1" ∧
    ∃ p marks, PathSpec.program versions.segments = .ok p ∧
      p.fullMatch "/d/v1".toList = some marks ∧
      ∃ m, versions.matchPath tree "/d/v1" = .ok (some m) := by
  have hbase : Path.isAbsolute (PathSpec.baseOf versions.segments) = true := by cbv
  have hpath : Path.isAbsolute "/d/v1" = true := by cbv
  have hcanonical : tree.canonical "/d/v1" = .ok "/d/v1" := by cbv
  have hp : PathSpec.program versions.segments =
      .ok ⟨.seq (.text "/d/v".toList) (.seq PathSpec.starNode .empty), []⟩ := by cbv
  have hm : Pattern.Program.fullMatch ⟨.seq (.text "/d/v".toList) (.seq PathSpec.starNode .empty),
    []⟩
      "/d/v1".toList = some [] := by cbv
  obtain ⟨dir, x, hb, hnames, hiff, -⟩ := match_kept_iff linkless_tree hbase hpath hcanonical hp hm
  have hsame := congrArg Path.names hb
  have hsplit : Path.names (PathSpec.baseOf versions.segments) = "" :: (["d"] ++ ["v"]) := by cbv
  rw [FileTree.names_pathOf (by simp) hnames, hsplit] at hsame
  obtain ⟨-, hx⟩ := List.append_inj' (List.cons.inj hsame).2 rfl
  obtain rfl : "v" = x := List.singleton_inj.mp hx
  exact ⟨linkless_tree, hbase, hpath, hcanonical, _, _, hp, hm, hiff.mpr (.inl (by decide))⟩

/-- A canonical path is taken by the tokens of a spec as they were compiled, and is not matched. -/
theorem hidden_lost : tree.Linkless ∧ PathSpec.compile hidden.path = .ok hidden.segments ∧
    Path.isAbsolute (PathSpec.baseOf hidden.segments) = true ∧ Path.isAbsolute "/d/.ab" = true ∧
    tree.canonical "/d/.ab" = .ok "/d/.ab" ∧
    (∃ p, PathSpec.program hidden.segments = .ok p ∧ (p.fullMatch "/d/.ab".toList).isSome = true) ∧
    hidden.matchPath tree "/d/.ab" = .ok none :=
  ⟨linkless_tree, by cbv, by cbv, by cbv, by cbv, ⟨_, by cbv, by cbv⟩, by cbv⟩

end Dotted

end SegmentIndex
