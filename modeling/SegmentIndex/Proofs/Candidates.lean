import SegmentIndex.Proofs.Bases
import SegmentIndex.Proofs.Walks

/-!
# Where the files of a spec are looked for

The files of a spec are looked for in one place only: the base itself when it leads to a file, the
files below it when it leads to a directory, and otherwise the files below its parent. So a file
that belongs to a spec is found exactly if what its base leads to, if anything, lies on the way to
the file. A base that stops within a name and leads to an entry of that name hides the files whose
names go on.
-/
namespace SegmentIndex

theorem utf8ByteSize_mono {a b : String} (h : a.toList <+: b.toList) :
    a.utf8ByteSize ≤ b.utf8ByteSize := by
  obtain ⟨cs, hcs⟩ := h
  have hb : b = a ++ .ofList cs := by
    apply String.toList_injective
    rw [String.toList_append, String.toList_ofList, hcs]
  rw [hb, String.utf8ByteSize_append]
  omega

open FileTree

section Candidates

variable {t : FileTree} (h : t.Lawful) (hl : t.Linkless) {dir : Location} {x : String}
  (hx : t.Sought dir x)

include h hl hx

theorem at?_parent : t.at? (pathOf dir) = .ok (dir, .dir) :=
  h.at?_of_entry? hl hx.stands ((utf8ByteSize_mono (prefix_pathOf_append dir [x])).trans hx.path_le)

theorem at?_clean : t.at? (Path.clean (pathOf (dir ++ [x]))) = t.at? (pathOf (dir ++ [x])) := by
  have hdir := h.proper_of_entry? hx.stands
  rcases hx.name with rfl | hname
  · rw [clean_pathOf_concat hdir hx.no_slash (by decide), h.at?_of_sought hl hx, descend_empty,
      at?_parent h hl hx, hx.stands]
  · rw [clean_pathOf_concat hdir hx.no_slash hname.ne_dots, descend_of_proper hname]

theorem isTooLong_clean : t.isTooLong (Path.clean (pathOf (dir ++ [x]))) = false := by
  rw [isTooLong, at?_clean h hl hx, h.at?_of_sought hl hx]
  cases t.entry? (descend dir x) <;> rfl

theorem candidates_cases :
    (∃ bytes, t.entry? (descend dir x) = some (.file bytes) ∧
      Spec.candidates t (pathOf (dir ++ [x])) = [pathOf (dir ++ [x])]) ∨
    (t.entry? (descend dir x) = some .dir ∧
      Spec.candidates t (pathOf (dir ++ [x])) = t.filesBelow (pathOf (dir ++ [x]))) ∨
    (t.entry? (descend dir x) = none ∧ Proper x ∧
      Spec.candidates t (pathOf (dir ++ [x])) = t.filesBelow (pathOf dir)) := by
  have hat := h.at?_of_sought hl hx
  simp only [Spec.candidates, pathOf_ne_empty, isFile, isDir, at?_clean h hl hx, hat, if_false]
  rcases he : t.entry? (descend dir x) with _ | _ | bytes | target
  · have hname : Proper x := by
      refine hx.name.resolve_left ?_
      rintro rfl
      rw [descend_empty, hx.stands] at he
      cases he
    have hdir := h.proper_of_entry? hx.stands
    simp [hname, parent_pathOf_concat hdir hx.no_slash hname, at?_parent h hl hx,
      endsWith_slash_concat dir hname.ne_empty hname.no_slash]
  · simp
  · simp
  · exact absurd he (hl _ _)

theorem exists_of_candidates {p : String} (hp : p ∈ Spec.candidates t (pathOf (dir ++ [x]))) :
    p = pathOf (dir ++ [x]) ∨ ∃ place e, (place, e) ∈ t.entries ∧ p = pathOf place := by
  rcases candidates_cases h hl hx with ⟨bytes, -, hc⟩ | ⟨he, hc⟩ | ⟨-, -, hc⟩
  · rw [hc, List.mem_singleton] at hp
    exact .inl hp
  · have hat := h.at?_of_sought hl hx
    rw [he] at hat
    rw [hc] at hp
    obtain ⟨place, e, hmem, -, rfl⟩ := h.exists_of_filesBelow hx.isPathOf hat hp
    exact .inr ⟨place, e, hmem, rfl⟩
  · rw [hc] at hp
    obtain ⟨place, e, hmem, -, rfl⟩ := h.exists_of_filesBelow (.inl rfl) (at?_parent h hl hx) hp
    exact .inr ⟨place, e, hmem, rfl⟩

/-- A file that the names of a base lead towards is looked at exactly if
what the base leads to lies on its way. -/
theorem mem_candidates {place : Location} {bytes : ByteArray}
    (he : t.entry? place = some (.file bytes))
    (hsize : (pathOf place).utf8ByteSize ≤ maxPathBytes) (hway : dir <+: place) :
    pathOf place ∈ Spec.candidates t (pathOf (dir ++ [x])) ↔
      ∀ at_ e, t.at? (pathOf (dir ++ [x])) = .ok (at_, e) → at_ <+: place := by
  have hat := h.at?_of_sought hl hx
  rcases candidates_cases h hl hx with ⟨bytes', hbase, hc⟩ | ⟨hbase, hc⟩ | ⟨hbase, -, hc⟩
  · have hname : descend dir x = dir ++ [x] := by
      refine descend_of_proper (hx.name.resolve_left ?_) dir
      rintro rfl
      rw [descend_empty, hx.stands] at hbase
      cases hbase
    rw [hname] at hbase hat
    rw [hbase] at hat
    rw [hc, hat, List.mem_singleton]
    constructor
    · intro heq at_ e hok
      cases hok
      rw [h.eq_of_pathOf_eq (mem_entries (ne_nil_of_file he) he) (mem_entries (by simp) hbase) heq]
    · intro hon
      obtain ⟨more, rfl⟩ := hon _ _ rfl
      by_cases hmore : more = []
      · rw [hmore, List.append_nil]
      · -- nothing stands below a file
        rw [h.dir_of_append he hmore] at hbase
        cases hbase
  · rw [hbase] at hat
    rw [hc, h.mem_filesBelow hx.isPathOf hl hat hbase he hsize, hat]
    simp
  · rw [hbase] at hat
    rw [hc, h.mem_filesBelow (.inl rfl) hl (at?_parent h hl hx) hx.stands he hsize, hat]
    simp [hway]

end Candidates

/-- A base in canonical form that the path of an entry begins with can be looked up. -/
theorem exists_sought {t : FileTree} (h : t.Lawful) (hl : t.Linkless) {base : String}
    (habs : Path.isAbsolute base = true) (hbase : t.canonical base = .ok base) {place : Location}
    {e : Entry} (hne : place ≠ []) (he : t.entry? place = some e)
    (hsize : (pathOf place).utf8ByteSize ≤ maxPathBytes)
    (hstart : base.toList <+: (pathOf place).toList) :
    ∃ dir x, base = pathOf (dir ++ [x]) ∧ t.Sought dir x ∧ dir <+: place := by
  have hmem := mem_entries hne he
  obtain ⟨dir, x, n, more, hdir, rfl, hpath, hslash, hx⟩ :=
    hl.exists_concat habs (isAbsolute_pathOf place) (h.canonical_pathOf hl hmem) hstart
  have hplace : ∀ m ∈ place, '/' ∉ m.toList := fun m hm => (h.proper _ hmem m hm).no_slash
  obtain rfl := (pathOf_inj hne (by simp) hplace (no_slash_append hdir hslash)).mp hpath
  have hxslash : '/' ∉ x.toList := fun hin => hslash n (by simp) (hx.subset hin)
  have hnull := ((hl.canonical_eq_ok_iff habs).mp hbase).1
  have hdots : ¬ (x = "." ∨ x = "..") := by
    intro hdots
    rw [hl.canonical_of_dots hdir hxslash hnull hdots] at hbase
    exact pathOf_descend_ne hdir hxslash hdots (Except.ok.inj hbase)
  rw [not_or] at hdots
  refine ⟨dir, x, rfl, ?_, List.prefix_append _ _⟩
  exact {
    stands := h.dir_of_append he (by simp)
    name := or_iff_not_imp_left.mpr fun hempty => ⟨hempty, hdots.1, hdots.2, hxslash⟩
    name_le := (utf8ByteSize_mono hx).trans (h.size_le _ hmem n (by simp))
    path_le := (utf8ByteSize_mono hstart).trans hsize }

namespace Spec

variable {t : FileTree} {spec : Spec}

theorem matchAll_of_canonical (p : Pattern.Program) {paths : List String}
    (h : ∀ path ∈ paths, t.canonical path = .ok path) :
    spec.matchAll t p paths = .ok (paths.filterMap (spec.matchCanonical p)) := by
  induction paths with
  | nil => rfl
  | cons path rest ih =>
    rw [List.forall_mem_cons] at h
    rw [matchAll, h.1, List.filterMap_cons]
    simp only [ih h.2]
    cases spec.matchCanonical p path <;> rfl

end Spec

/-- The candidates of a base in canonical form that can be looked
up are matched one by one, as they are. -/
theorem matchFiles_of_sought {t : FileTree} (h : t.Lawful) (hl : t.Linkless) {spec : Spec}
    {dir : Location} {x : String} (hx : t.Sought dir x)
    (hb : PathSpec.baseOf spec.segments = pathOf (dir ++ [x]))
    (hbase : t.canonical (PathSpec.baseOf spec.segments) = .ok (PathSpec.baseOf spec.segments))
    {p : Pattern.Program} (hp : PathSpec.program spec.segments = .ok p) : spec.matchFiles t =
      .ok ((Spec.candidates t (PathSpec.baseOf spec.segments)).filterMap
        (spec.matchCanonical p)) := by
  have ht := PathSpec.canonicalTokens_of_canonical hbase
  rw [hb] at hbase
  have hall : ∀ path ∈ Spec.candidates t (pathOf (dir ++ [x])), t.canonical path = .ok path := by
    intro path hpath
    rcases exists_of_candidates h hl hx hpath with rfl | ⟨place, e, hmem, rfl⟩
    · exact hbase
    · exact h.canonical_pathOf hl hmem
  simp only [Spec.matchFiles, Spec.program, ht, hp, hb, isTooLong_clean h hl hx,
    Bool.false_eq_true, if_false, Spec.matchAll_of_canonical p hall]

/-- The files of a spec whose base is its own canonical form can be looked for, and
a file that belongs to the spec is found exactly if what the base leads to, if
anything, lies on the way to the file. -/
theorem found_iff_on_way {t : FileTree} (h : t.Lawful) (hl : t.Linkless) {spec : Spec}
    (habs : Path.isAbsolute (PathSpec.baseOf spec.segments) = true)
    (hbase : t.canonical (PathSpec.baseOf spec.segments) = .ok (PathSpec.baseOf spec.segments))
    {place : Location} {bytes : ByteArray} (he : t.entry? place = some (.file bytes))
    (hsize : (pathOf place).utf8ByteSize ≤ maxPathBytes) {m : MatchedFile}
    (hm : spec.matchPath t (pathOf place) = .ok (some m)) :
    ∃ found, spec.matchFiles t = .ok found ∧ (pathOf place ∈ found.map (·.path) ↔
      ∀ at_ e, t.at? (PathSpec.baseOf spec.segments) = .ok (at_, e) → at_ <+: place) := by
  have hne := ne_nil_of_file he
  have hcanonical := h.canonical_pathOf hl (mem_entries hne he)
  obtain ⟨tokens, p, c, ht, hp, hc, htaken⟩ := Spec.exists_of_matchPath hm
  obtain rfl := Except.ok.inj ((PathSpec.canonicalTokens_of_canonical hbase).symm.trans ht)
  obtain rfl := Except.ok.inj (hcanonical.symm.trans hc)
  obtain ⟨marks, hmarks, -⟩ := Option.map_eq_some_iff.mp htaken.symm
  have hstart := PathSpec.prefix_baseOf_of_fullMatch hp hmarks
  obtain ⟨dir, x, hb, hx, hway⟩ := exists_sought h hl habs hbase hne he hsize hstart
  refine ⟨_, matchFiles_of_sought h hl hx hb hbase hp, ?_⟩
  rw [hb, ← mem_candidates h hl hx he hsize hway, List.mem_map]
  constructor
  · rintro ⟨m', hm', hpath⟩
    obtain ⟨path, hcandidate, hm'⟩ := List.mem_filterMap.mp hm'
    obtain ⟨marks', -, rfl⟩ := Option.map_eq_some_iff.mp hm'
    rwa [← hpath]
  · intro hin
    refine ⟨m, List.mem_filterMap.mpr ⟨_, hin, htaken.symm⟩, ?_⟩
    obtain ⟨marks', -, rfl⟩ := Option.map_eq_some_iff.mp htaken.symm
    rfl

namespace Hiding

/-- A directory with two files, and a directory beside them whose
name the name of one file goes on from. -/
def tree : FileTree :=
  ⟨[(["d"], .dir), (["d", "v"], .dir), (["d", "v1"], .file ⟨#[]⟩), (["d", "w1"], .file ⟨#[]⟩)], []⟩

theorem lawful_tree : tree.Lawful where
  proper := by
    simp only [tree, List.forall_mem_cons]
    decide
  nullFree := by
    simp only [tree, List.forall_mem_cons]
    decide
  size_le := by
    simp only [tree, List.forall_mem_cons]
    decide
  parent := by
    simp only [tree, List.forall_mem_cons, ne_eq, reduceCtorEq, not_false_eq_true, true_and]
    exact ⟨rfl, rfl, rfl, rfl, by simp⟩

theorem linkless_tree : tree.Linkless := linkless_of_entries (by simp [tree])

/-- A spec whose base leads to nothing. -/
def words : Spec := ⟨"/d/w*", [.literal "/d/w", .glob false], "/d/w", "chunked", [], [], false⟩

/-- A spec whose base leads to a directory. -/
def versions : Spec := ⟨"/d/v*", [.literal "/d/v", .glob false], "/d/v", "chunked", [], [], false⟩

theorem words_found : tree.Lawful ∧ tree.Linkless ∧
    Path.isAbsolute (PathSpec.baseOf words.segments) = true ∧
    tree.canonical (PathSpec.baseOf words.segments) = .ok (PathSpec.baseOf words.segments) ∧
    tree.entry? ["d", "w1"] = some (.file ⟨#[]⟩) ∧ (pathOf ["d", "w1"]).utf8ByteSize ≤
      maxPathBytes ∧
    (∃ m, words.matchPath tree (pathOf ["d", "w1"]) = .ok (some m)) ∧
    ∃ found, words.matchFiles tree = .ok found ∧ pathOf ["d", "w1"] ∈ found.map (·.path) := by
  have habs : Path.isAbsolute (PathSpec.baseOf words.segments) = true := by cbv
  have hbase : tree.canonical (PathSpec.baseOf words.segments) =
      .ok (PathSpec.baseOf words.segments) := by cbv
  have he : tree.entry? ["d", "w1"] = some (.file ⟨#[]⟩) := by cbv
  have hsize : (pathOf ["d", "w1"]).utf8ByteSize ≤ maxPathBytes := by decide
  have hm : words.matchPath tree (pathOf ["d", "w1"]) =
      .ok (some ⟨"/d/w1", [], [], some words⟩) := by cbv
  obtain ⟨found, hfound, hiff⟩ := found_iff_on_way lawful_tree linkless_tree habs hbase he hsize hm
  have hnothing : tree.at? (PathSpec.baseOf words.segments) = .error .notFound := by cbv
  refine ⟨lawful_tree, linkless_tree, habs, hbase, he, hsize, ⟨_, hm⟩, found, hfound, hiff.mpr ?_⟩
  intro at_ e hat
  rw [hnothing] at hat
  cases hat

/-- A file whose path is matched is not found when the base of
the spec leads to a directory beside it. -/
theorem versions_hidden : tree.Lawful ∧ tree.Linkless ∧
    PathSpec.compile versions.path = .ok versions.segments ∧
    Path.isAbsolute (PathSpec.baseOf versions.segments) = true ∧
    tree.canonical (PathSpec.baseOf versions.segments) = .ok (PathSpec.baseOf versions.segments) ∧
    tree.entry? ["d", "v1"] = some (.file ⟨#[]⟩) ∧ tree.canonical "/d/v1" = .ok "/d/v1" ∧
    (∃ m, versions.matchPath tree "/d/v1" = .ok (some m)) ∧
    ∃ found, versions.matchFiles tree = .ok found ∧ "/d/v1" ∉ found.map (·.path) := by
  have hm : versions.matchPath tree "/d/v1" = .ok (some ⟨"/d/v1", [], [], some versions⟩) := by cbv
  refine ⟨lawful_tree, linkless_tree, by cbv, by cbv, by cbv, by cbv, by cbv, ⟨_, hm⟩, [], ?_,
    List.not_mem_nil⟩
  have hprogram : versions.program tree =
      .ok (versions.segments, ⟨.seq (.text "/d/v".toList) (.seq PathSpec.starNode .empty),
      []⟩) := by cbv
  have hlong : tree.isTooLong (Path.clean (PathSpec.baseOf versions.segments)) = false := by cbv
  have hbase : PathSpec.baseOf versions.segments = "/d/v" := by cbv
  have hclean : Path.clean "/d/v" = "/d/v" := by cbv
  have hat : tree.at? "/d/v" = .ok (["d", "v"], .dir) := by cbv
  have hnames : tree.childNames ["d", "v"] = [] := by cbv
  have hcandidates : Spec.candidates tree (PathSpec.baseOf versions.segments) = [] := by
    simp [Spec.candidates, hbase, hclean, isFile, isDir, filesBelow, hat, walk, hnames]
  simp only [Spec.matchFiles, hprogram, hlong, hcandidates]
  rfl

end Hiding

end SegmentIndex
