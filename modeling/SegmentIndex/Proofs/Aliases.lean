import SegmentIndex.Proofs.Effects
import SegmentIndex.Proofs.Routes

/-!
# Files with several names

A file is found under the canonical forms of the paths that a walk lists. As long as links form no
circle, such a form is one that matching a single path gives back, so events of the file are
followed under the name that it was found with. A walk lists no path twice, and only links give two
paths the same form: then the file is found as often as there are links to it among the paths, and
it is processed and counted as often.
-/
namespace SegmentIndex

section

variable {t t' : FileTree} {spec : Spec} {found : List MatchedFile} {m : MatchedFile}

namespace Spec

/-- The paths that are looked at for a spec. -/
def walked (t : FileTree) (spec : Spec) : List String :=
  match spec.program t with
  | .error _ => []
  | .ok (tokens, _) => candidates t (PathSpec.baseOf tokens)

/-- The file that a path is matched as, if it is. -/
def matched? (t : FileTree) (spec : Spec) (path : String) : Option MatchedFile :=
  match spec.matchPath t path with
  | .ok m => m
  | .error _ => none

theorem matched?_eq_some {path : String} :
    spec.matched? t path = some m ↔ spec.matchPath t path = .ok (some m) := by
  unfold matched?
  rcases spec.matchPath t path with f | m' <;> simp

theorem matchPath_congr {p q : String} (h : t.canonical p = t.canonical q) :
    spec.matchPath t p = spec.matchPath t q := by
  unfold matchPath
  rw [h]

/-- What is found are the files that the walked paths are matched as one by one. -/
theorem matchFiles_eq_filterMap (h : spec.matchFiles t = .ok found) :
    found = (spec.walked t).filterMap (spec.matched? t) ∧
      ∀ path ∈ spec.walked t, ∃ r, spec.matchPath t path = .ok r := by
  unfold matchFiles at h
  rcases hp : spec.program t with f | ⟨tokens, p⟩
  · simp [hp] at h
  simp only [hp] at h
  split_ifs at h
  simp only [walked, hp]
  generalize candidates t (PathSpec.baseOf tokens) = paths at h
  induction paths generalizing found with
  | nil => simpa [matchAll, eq_comm] using h
  | cons path rest ih =>
    unfold matchAll at h
    cases hc : t.canonical path with
    | error f => simp [hc] at h
    | ok c =>
      simp only [hc] at h
      obtain ⟨more, hmore, rfl⟩ := Pattern.exists_of_map_eq_ok h
      obtain ⟨rfl, hrest⟩ := ih hmore
      have hmatch : spec.matchPath t path = .ok (spec.matchCanonical p c) := by
        simp [matchPath, hp, hc, Except.map]
      have hmatched : spec.matched? t path = spec.matchCanonical p c := by simp [matched?, hmatch]
      refine ⟨?_, List.forall_mem_cons.mpr ⟨⟨_, hmatch⟩, hrest⟩⟩
      rw [List.filterMap_cons, hmatched]
      cases spec.matchCanonical p c <;> rfl

theorem exists_walked (h : spec.matchFiles t = .ok found) (hm : m ∈ found) :
    ∃ path ∈ spec.walked t, spec.matchPath t path = .ok (some m) := by
  rw [(matchFiles_eq_filterMap h).1, List.mem_filterMap] at hm
  obtain ⟨path, hpath, hmatched⟩ := hm
  exact ⟨path, hpath, matched?_eq_some.mp hmatched⟩

end Spec

/-! ## Found again -/

/-- Where links form no circle, a file that is found is the one that its path is matched as, and
later events of the path are followed for that file: also when what is in files has changed by
then, or when files and links are gone. -/
theorem Spec.found_again {ν : Type} (h : t.Acyclic) (hfound : spec.matchFiles t = .ok found)
    (hm : m ∈ found) :
    spec.matchPath t m.path = .ok (some m) ∧ ∀ (e : Engine ν) (i : Index ν),
      (∀ (t' : FileTree) (kind : String), t.SameShape t' → kind = "create" ∨ kind = "modify" →
        i.reindex e t' kind m.path spec =
          ((i.followContent e t' (kind = "modify") spec m).1, .ok (some (e.resultFor t' spec m)))) ∧
      ∀ t' : FileTree, t'.LinksWithin t →
        i.reindex e t' "delete" m.path spec = (i.followRemoval spec m.path, .ok none) := by
  obtain ⟨path, -, hpath⟩ := exists_walked hfound hm
  have hstays : ∀ t' : FileTree, t'.LinksWithin t → t'.canonical m.path = .ok m.path := by
    intro t' hlinks
    exact h.canonical_canonical (canonical_of_matchPath hpath) hlinks
  refine ⟨matchPath_of_matchFiles hfound hm (hstays t (.refl t)), ?_⟩
  intro e i
  constructor
  · intro t' kind hshape hkind
    have hfound' : spec.matchFiles t' = .ok found := hshape.matchFiles_eq spec ▸ hfound
    have hmatch := matchPath_of_matchFiles hfound' hm (hstays t' hshape.linksWithin)
    rw [Index.reindex_of_matchPath hkind hmatch, Index.result_followContent]
  · intro t' hlinks
    simp [Index.reindex, Index.eventKinds, hstays t' hlinks]

end

namespace Linked

/-- A directory with a file and a link to it, a link to the directory, and
a link that leads on through that one. -/
def tree : FileTree :=
  ⟨[(["d"], .dir), (["d", "a"], .file ⟨#[]⟩), (["d", "b"], .link "a"), (["e"], .link "d"),
    (["f"], .link "e/a")], []⟩

/-- A spec for the files of the directory, by way of the link to it. -/
def spec : Spec := ⟨"/e/*", [.literal "/e/", .glob false], "/e/", "chunked", [], [], false⟩

/-- The pattern of the spec in its canonical form. -/
def program : Pattern.Program := ⟨.seq (.text "/d/".toList) (.seq PathSpec.starNode .empty), []⟩

/-- The file as it belongs to the spec. -/
def found : MatchedFile := ⟨"/d/a", [], [], some spec⟩

theorem startOf_targets : FileTree.startOf ["d"] "a" = ["d"] ∧ FileTree.startOf [] "d" = [] ∧
    FileTree.startOf [] "e/a" = [] := by
  refine ⟨?_, ?_, ?_⟩ <;> cbv

theorem names_targets : Path.names "a" = ["a"] ∧ Path.names "d" = ["d"] ∧
    Path.names "e/a" = ["e", "a"] := by
  refine ⟨?_, ?_, ?_⟩ <;> cbv

theorem acyclic_tree : tree.Acyclic := by
  intro l ⟨target, hentry, hmeets⟩
  obtain ⟨hstart_a, hstart_d, hstart_f⟩ := startOf_targets
  obtain ⟨hnames_a, hnames_d, hnames_f⟩ := names_targets
  have hdir : tree.linkAt? [] "d" = none := by cbv
  have hd : ∀ l, ¬ tree.Meets [] ["d"] l := by
    intro l
    rw [FileTree.meets_of_plain hdir]
    exact FileTree.not_meets_nil
  have ha : ∀ l, ¬ tree.Meets ["d"] ["a"] l := by
    intro l
    rw [FileTree.meets_of_plain (by cbv)]
    exact FileTree.not_meets_nil
  have hmem := FileTree.mem_entries (by rintro rfl; cases hentry) hentry
  simp only [tree, List.mem_cons, Prod.mk.injEq, reduceCtorEq, and_false, Entry.link.injEq,
    List.not_mem_nil, or_false, false_or] at hmem
  rcases hmem with ⟨rfl, rfl⟩ | ⟨rfl, rfl⟩ | ⟨rfl, rfl⟩
  · rw [show ["d", "b"].dropLast = ["d"] from rfl, hstart_a, hnames_a] at hmeets
    exact ha _ hmeets
  · rw [show ["e"].dropLast = [] from rfl, hstart_d, hnames_d] at hmeets
    exact hd _ hmeets
  · rw [show ["f"].dropLast = [] from rfl, hstart_f, hnames_f] at hmeets
    have hlink : tree.linkAt? [] "e" = some "d" := by cbv
    have hway : tree.Leads (FileTree.startOf [] "d") (Path.names "d") ["d"] := by
      rw [hstart_d, hnames_d]
      exact .plain (by decide) hdir (.done ["d"])
    rcases (FileTree.meets_of_link hlink hway).mp hmeets with heq | hpasses | hrest
    · simp at heq
    · rw [FileTree.passes_of_linkAt? hlink, hstart_d, hnames_d] at hpasses
      exact hd _ hpasses
    · exact ha _ hrest

theorem program_spec : spec.program tree = .ok ([.literal "/d/", .glob false], program) := by cbv

theorem candidates_tree : Spec.candidates tree "/d/" = ["/d/a", "/d/b"] := by
  have hclean : Path.clean "/d/" = "/d" := by cbv
  have hat : tree.at? "/d" = .ok (["d"], .dir) := by cbv
  have hbelow : tree.filesBelow "/d/" = ["/d/a", "/d/b"] := by cbv
  simp [Spec.candidates, hclean, FileTree.isFile, FileTree.isDir, hat, hbelow]

theorem matchFiles_spec : spec.matchFiles tree = .ok [found, found] := by
  have hlong : tree.isTooLong (Path.clean "/d/") = false := by cbv
  have hall : spec.matchAll tree program ["/d/a", "/d/b"] = .ok [found, found] := by cbv
  simp only [Spec.matchFiles, program_spec]
  simp [PathSpec.baseOf, hlong, candidates_tree, hall]

theorem linked_found_again : tree.Acyclic ∧ spec.matchFiles tree = .ok [found, found] ∧
    found ∈ [found, found] ∧
    spec.matchPath tree found.path = .ok (some found) ∧ ∀ (e : Engine Unit) (i : Index Unit),
      (∀ (t' : FileTree) (kind : String), tree.SameShape t' → kind = "create" ∨ kind = "modify" →
        i.reindex e t' kind found.path spec =
          ((i.followContent e t' (kind = "modify") spec found).1,
            .ok (some (e.resultFor t' spec found)))) ∧
      ∀ t' : FileTree, t'.LinksWithin tree →
        i.reindex e t' "delete" found.path spec = (i.followRemoval spec found.path, .ok none) :=
  ⟨acyclic_tree, matchFiles_spec, List.mem_cons_self,
    Spec.found_again acyclic_tree matchFiles_spec List.mem_cons_self⟩

end Linked

section

variable {t : FileTree} {spec : Spec} {found : List MatchedFile}

/-! ## Found once -/

/-- What is made of distinct things is distinct exactly if no two of them give the same. -/
theorem nodup_filterMap_iff {α β : Type} {f : α → Option β} {xs : List α} (hxs : xs.Nodup) :
    (xs.filterMap f).Nodup ↔ ∀ x ∈ xs, ∀ y ∈ xs, x ≠ y → ∀ b, f x = some b → f y ≠ some b := by
  rw [List.Nodup, List.pairwise_filterMap]
  constructor
  · intro hpairs x hx y hy hne b hb hb'
    have hsymm : Std.Symm fun x y => ∀ b, f x = some b → ∀ b', f y = some b' → b ≠ b' :=
      ⟨fun x y h b hb b' hb' heq => h b' hb' b hb heq.symm⟩
    exact hpairs.forall hx hy hne b hb b hb' rfl
  · intro hapart
    apply hxs.pairwise_of_forall_ne
    intro x hx y hy hne b hb b' hb' heq
    exact hapart x hx y hy hne b hb (heq ▸ hb')

namespace Spec

/-- The paths that are looked at are those of one walk, if they are more than one. -/
theorem candidates_eq (t : FileTree) (base : String) :
    candidates t base = [] ∨ candidates t base = [base] ∨ ∃ top,
      candidates t base = t.filesBelow top := by
  unfold candidates
  dsimp only
  split_ifs
  · exact .inl rfl
  · exact .inr (.inl rfl)
  · exact .inr (.inr ⟨base, rfl⟩)
  · exact .inr (.inr ⟨Path.parent base, rfl⟩)
  · exact .inl rfl

theorem walked_eq (t : FileTree) (spec : Spec) :
    (∃ paths, spec.walked t = paths ∧ paths.length ≤ 1) ∨ ∃ top,
      spec.walked t = t.filesBelow top := by
  unfold walked
  rcases spec.program t with f | ⟨tokens, p⟩
  · exact .inl ⟨[], rfl, Nat.zero_le _⟩
  · rcases candidates_eq t (PathSpec.baseOf tokens) with hnone | hone | hwalk
    · exact .inl ⟨[], hnone, Nat.zero_le _⟩
    · exact .inl ⟨[PathSpec.baseOf tokens], hone, Nat.le_refl _⟩
    · exact .inr hwalk

theorem nodup_walked (h : t.Lawful) (hd : (t.entries.map (·.1)).Nodup) (spec : Spec) :
    (spec.walked t).Nodup := by
  rcases walked_eq t spec with ⟨paths, heq, hlength⟩ | ⟨top, heq⟩
  · rw [heq]
    match paths, hlength with
    | [], _ => exact List.nodup_nil
    | [path], _ => exact List.nodup_singleton path
  · rw [heq]
    exact h.nodup_filesBelow hd top

/-- Two of the paths that are looked at have the same canonical form only if one
of them ends with the name of a link. -/
theorem endsAtLink_of_canonical_eq (h : t.Lawful) {p q c : String} (hp : p ∈ spec.walked t)
    (hq : q ∈ spec.walked t)
    (hne : p ≠ q) (hpc : t.canonical p = .ok c) (hqc : t.canonical q = .ok c) :
    t.EndsAtLink p ∨ t.EndsAtLink q := by
  rcases walked_eq t spec with ⟨paths, heq, hlength⟩ | ⟨top, heq⟩
  · rw [heq] at hp hq
    match paths, hlength with
    | [], _ => cases hp
    | [path], _ =>
      exact absurd ((List.mem_singleton.mp hp).trans (List.mem_singleton.mp hq).symm) hne
  · rw [heq] at hp hq
    by_contra hnone
    rw [not_or] at hnone
    exact hne (h.eq_of_canonical_eq hp hq hpc hqc hnone.1 hnone.2)

/-- The files that are found, and so the results of an ingest of them, have distinct paths
exactly if no link among the paths that are looked at leads to a file that is matched and
that another one of these paths leads to. -/
theorem paths_nodup_iff {ν : Type} (h : t.Lawful) (hd : (t.entries.map (·.1)).Nodup)
    (hfound : spec.matchFiles t = .ok found) :
    (∀ (e : Engine ν) (i : Index ν), (i.ingestMatches e t spec found).2.map (·.path) =
      found.map (·.path)) ∧
      ((found.map (·.path)).Nodup ↔ ∀ p ∈ spec.walked t, ∀ q ∈ spec.walked t, p ≠ q →
      t.EndsAtLink p →
        t.canonical p = t.canonical q → spec.matchPath t p = .ok none) := by
  obtain ⟨hall, hmatches⟩ := matchFiles_eq_filterMap hfound
  have hwalked := nodup_walked h hd spec
  constructor
  · intro e i
    rw [Index.results_ingestMatches, List.map_map]
    apply List.map_congr_left
    intro m _
    exact e.path_resultFor t spec m
  have hpath : ∀ p c, (spec.matched? t p).map (·.path) = some c → ∃ m,
    spec.matchPath t p = .ok (some m) ∧
      t.canonical p = .ok c := by
    intro p c hc
    obtain ⟨m, hm, rfl⟩ := Option.map_eq_some_iff.mp hc
    exact ⟨m, matched?_eq_some.mp hm, canonical_of_matchPath (matched?_eq_some.mp hm)⟩
  rw [hall, List.map_filterMap, nodup_filterMap_iff hwalked]
  constructor
  · intro hapart p hp q hq hne _ hsame
    obtain ⟨r, hr⟩ := hmatches p hp
    cases r with
    | none => exact hr
    | some m =>
      have hmp : spec.matched? t p = some m := matched?_eq_some.mpr hr
      have hmq : spec.matched? t q = some m := matched?_eq_some.mpr (matchPath_congr hsame ▸ hr)
      exact absurd (by rw [hmq]; rfl) (hapart p hp q hq hne m.path (by rw [hmp]; rfl))
  · intro hlinks p hp q hq hne c hc hc'
    obtain ⟨m, hm, hpc⟩ := hpath p c hc
    obtain ⟨m', hm', hqc⟩ := hpath q c hc'
    rcases endsAtLink_of_canonical_eq h hp hq hne hpc hqc with hlink | hlink
    · have hnone := hlinks p hp q hq hne hlink (hpc.trans hqc.symm)
      simp [hm] at hnone
    · have hnone := hlinks q hq p hp hne.symm hlink (hqc.trans hpc.symm)
      simp [hm'] at hnone

end Spec

end

namespace Linked

theorem lawful_tree : tree.Lawful where
  proper := by
    simp only [tree, List.forall_mem_cons]
    decide
  nullFree := by
    simp only [tree, List.forall_mem_cons]
    decide
  size_le := by
    simp only [tree, List.forall_mem_cons]
    decide
  parent := by
    simp only [tree, List.forall_mem_cons, ne_eq, reduceCtorEq, not_false_eq_true, true_and]
    exact ⟨rfl, rfl, rfl, rfl, rfl, by simp⟩

theorem nodup_tree : (tree.entries.map (·.1)).Nodup := by
  simp only [tree, List.map_cons, List.map_nil]
  decide

theorem linked_nodup_iff : tree.Lawful ∧ (tree.entries.map (·.1)).Nodup ∧
    spec.matchFiles tree = .ok [found, found] ∧
    (∀ (e : Engine Unit) (i : Index Unit),
        (i.ingestMatches e tree spec [found, found]).2.map (·.path) = [found, found].map (·.path)) ∧
      (([found, found].map (·.path)).Nodup ↔ ∀ p ∈ spec.walked tree, ∀ q ∈ spec.walked tree, p ≠ q →
        tree.EndsAtLink p → tree.canonical p = tree.canonical q →
          spec.matchPath tree p = .ok none) :=
  ⟨lawful_tree, nodup_tree, matchFiles_spec,
    Spec.paths_nodup_iff lawful_tree nodup_tree matchFiles_spec⟩

/-- A file with a link beside it is found twice. -/
theorem linked_found_twice : tree.Lawful ∧ (tree.entries.map (·.1)).Nodup ∧ tree.Acyclic ∧
    PathSpec.compile spec.path = .ok spec.segments ∧ PathSpec.Compiles spec.segments ∧
    ∃ files, spec.matchFiles tree = .ok files ∧ ¬ (files.map (·.path)).Nodup := by
  refine ⟨lawful_tree, nodup_tree, acyclic_tree, by cbv, ?_, [found, found], matchFiles_spec, ?_⟩
  · exact ⟨⟨.seq (.text "/e/".toList) (.seq PathSpec.starNode .empty), []⟩, by cbv⟩
  · simp

end Linked

end SegmentIndex
