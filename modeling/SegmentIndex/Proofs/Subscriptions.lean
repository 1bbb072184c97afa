import SegmentIndex.Proofs.Bases

/-!
# Subscriptions

A spec is watched at one directory, and with those below it unless all that stands after the base is
stars and text without slashes. In any tree, with links or without, a canonical path is that of a
location, perhaps with a slash at its end. So when the base does not itself stop at the name of a
directory, the directory that is watched is on the way to every path that the spec matches, and
holds it itself when those below it are not watched.
-/
namespace SegmentIndex

namespace Path

/-- The directory of a path is what stands before its last slash, if
that does not end with a slash itself. -/
theorem directory_eq {path : String} {d x : List Char} (hpath : path.toList = d ++ '/' :: x)
    (hx : '/' ∉ x)
    (hd : ¬ ['/'] <:+ d) : directory path = if d = [] then "/" else String.ofList d := by
  have hname : ∀ c ∈ x.reverse, decide (c ≠ '/') = true := by
    intro c hc
    have hne : c ≠ '/' := fun heq => hx (heq ▸ List.mem_reverse.mp hc)
    simpa using hne
  have hhead : (path.toList.reverse.dropWhile (· ≠ '/')).reverse = d ++ ['/'] := by
    rw [hpath, List.reverse_append, List.reverse_cons, List.append_assoc,
      List.dropWhile_append_of_pos hname]
    simp
  unfold directory
  rw [hhead]
  rcases List.eq_nil_or_concat d with rfl | ⟨init, c, rfl⟩
  · rfl
  · have hc : c ≠ '/' := by
      intro heq
      apply hd
      rw [heq, List.concat_eq_append]
      exact List.suffix_append _ _
    simp [hc]

end Path

namespace FileTree

variable {t : FileTree}

/-! ## Canonical forms in any tree -/

theorem appendNames_eq (at_ : Location) (rest : List String) :
    appendNames at_ rest = rest.foldl descend at_ ∨ appendNames at_ rest =
      rest.foldl descend [] := by
  unfold appendNames
  split
  · exact .inr rfl
  · exact .inl rfl

theorem proper_appendNames {at_ : Location} {rest : List String} (hat : ∀ n ∈ at_, Proper n)
    (hrest : ∀ n ∈ rest, '/' ∉ n.toList) : ∀ n ∈ appendNames at_ rest, Proper n := by
  rcases appendNames_eq at_ rest with h | h
  · rw [h]
    exact proper_foldl_descend hrest hat
  · rw [h]
    exact proper_foldl_descend hrest (by simp)

/-- Whether the links met so far lead to locations whose names are those of entries. -/
def KnownProper (seen : List (Location × Option Location)) : Prop :=
  ∀ place known, (place, some known) ∈ seen → ∀ n ∈ known, Proper n

theorem KnownProper.cons {seen : List (Location × Option Location)} (h : KnownProper seen)
    (place : Location)
    {known : Option Location} (hknown : ∀ location ∈ known, ∀ n ∈ location, Proper n) :
    KnownProper ((place, known) :: seen) := by
  intro place' known' hmem
  rcases List.mem_cons.mp hmem with heq | hmem
  · rw [Prod.mk.injEq] at heq
    exact hknown known' heq.2.symm
  · exact h place' known' hmem

theorem proper_canonicalFrom {fuel : Nat} {seen : List (Location × Option Location)}
    {at_ : Location} {rest : List String} {c : Canonical}
    (hc : t.canonicalFrom fuel seen at_ rest = .ok c) (hseen : KnownProper seen)
    (hat : ∀ n ∈ at_, Proper n) (hrest : ∀ n ∈ rest, '/' ∉ n.toList) :
    (∀ n ∈ c.location, Proper n) ∧ KnownProper c.seen := by
  induction fuel generalizing seen at_ rest c with
  | zero =>
    obtain rfl := Except.ok.inj hc
    exact ⟨proper_appendNames hat hrest, hseen⟩
  | succ fuel ih =>
    cases rest with
    | nil =>
      obtain rfl := Except.ok.inj hc
      exact ⟨hat, hseen⟩
    | cons name rest =>
      obtain ⟨hname, hrest⟩ := List.forall_mem_cons.mp hrest
      have hnext : ∀ n ∈ [name].foldl descend at_, Proper n :=
        proper_foldl_descend (by simpa using hname) hat
      rw [List.foldl_cons, List.foldl_nil] at hnext
      simp only [canonicalFrom] at hc
      split_ifs at hc with hempty hdots hnull
      · exact ih hc hseen hat hrest
      · exact ih hc hseen (fun n hn => hat n (List.mem_of_mem_dropLast hn)) hrest
      · rw [descend, if_neg hempty, if_neg hdots] at hnext
        split at hc
        · rename_i target _
          split at hc
          · rename_i known hlookup
            exact ih hc hseen (hseen _ _ (Pattern.mem_of_lookup hlookup)) hrest
          · obtain rfl := Except.ok.inj hc
            exact ⟨proper_appendNames hnext hrest, hseen⟩
          · -- a link met for the first time is resolved by itself, marked as not yet known
            have hstart : ∀ n ∈ (if Path.isAbsolute target then [] else at_), Proper n := by
              split_ifs
              · simp
              · exact hat
            split at hc
            · cases hc
            · rename_i inner hinner
              obtain ⟨hlocation, hknown⟩ := ih hinner (hseen.cons _ (by simp)) hstart
                fun n hn => Path.no_slash_of_mem_names hn
              split_ifs at hc
              · exact ih hc (hknown.cons _ (by simpa using hlocation)) hlocation hrest
              · obtain rfl := Except.ok.inj hc
                exact ⟨proper_appendNames hlocation hrest, hknown⟩
        · exact ih hc hseen hnext hrest

/-- The canonical form of an absolute path is the path of a
location, perhaps with a slash at its end. -/
theorem exists_location_of_canonical {path c : String} (habs : Path.isAbsolute path = true)
    (hc : t.canonical path = .ok c) : ∃ loc : Location, (∀ n ∈ loc, Proper n) ∧
      (c = pathOf loc ∨ c = pathOf (loc ++ [""])) := by
  simp only [canonical, habs, Bool.not_true, Bool.false_eq_true, if_false] at hc
  obtain ⟨loc, hloc, rfl⟩ := Pattern.exists_of_map_eq_ok hc
  obtain ⟨found, hfound, rfl⟩ := Pattern.exists_of_map_eq_ok hloc
  obtain ⟨hproper, -⟩ := proper_canonicalFrom hfound (fun _ _ hmem =>
    absurd hmem (by simp)) (by simp)
    fun n hn => Path.no_slash_of_mem_names hn
  refine ⟨found.location, hproper, ?_⟩
  split_ifs with hslash
  · refine .inr (pathOf_concat_empty fun hroot => ?_)
    rw [hroot, endsWith_slash_root] at hslash
    simp at hslash
  · exact .inl rfl

theorem canonical_of_not_absolute {path : String} (h : Path.isAbsolute path = false) :
    t.canonical path = .ok path := by
  simp [canonical, h]

/-! ## Directories of paths -/

/-- The directory of the path of a location is the path of the names before the last. -/
theorem directory_pathOf {dir : Location} {x : String} (hdir : ∀ n ∈ dir, Proper n)
    (hx : '/' ∉ x.toList) :
    Path.directory (pathOf (dir ++ [x])) = pathOf dir := by
  by_cases hroot : dir = []
  · subst hroot
    exact Path.directory_eq (d := []) (x := x.toList) (by simp [toList_pathOf]) hx (by simp)
  · have hpath : (pathOf (dir ++ [x])).toList = (pathOf dir).toList ++ '/' :: x.toList := by
      rw [toList_pathOf_append hroot (by simp), toList_pathOf [x]]
      simp
    have hend : ¬ ['/'] <:+ (pathOf dir).toList := by
      rw [← Path.endsWith_slash_iff, endsWith_slash_pathOf hroot hdir]
      simp
    rw [Path.directory_eq hpath hx hend, if_neg (by simp), String.ofList_toList]

/-- A location whose path begins with that of some names and one more text has these names first. -/
theorem exists_names_of_prefix {dir loc : Location} {x : String} (hdir : ∀ n ∈ dir, Proper n)
    (hx : '/' ∉ x.toList) (hloc : ∀ n ∈ loc, Proper n) (hne : loc ≠ [])
    (h : (pathOf (dir ++ [x])).toList <+: (pathOf loc).toList) :
    ∃ name more, loc = dir ++ name :: more := by
  obtain ⟨before, x', n, after, hpath, hbase, -⟩ := Path.prefix_names h
  rw [names_pathOf_concat hdir hx, ← List.cons_append] at hbase
  rw [names_pathOf hne fun n hn => (hloc n hn).no_slash] at hpath
  obtain ⟨hbefore, -⟩ := List.append_inj' hbase rfl
  rw [← hbefore, List.cons_append, List.cons.injEq] at hpath
  exact ⟨n, after, hpath.2⟩

theorem toList_pathOf_concat_append (dir : Location) (x y : String) :
    (pathOf (dir ++ [x ++ y])).toList = (pathOf (dir ++ [x])).toList ++ y.toList := by
  have hone : ∀ z : String, (pathOf (dir ++ [z])).toList = (dir.flatMap fun n => '/' :: n.toList) ++
      '/' :: z.toList := by
    intro z
    rw [toList_pathOf_eq (by simp), List.flatMap_append, List.flatMap_singleton]
  rw [hone, hone, String.toList_append]
  simp

end FileTree

namespace PathSpec

/-- The pieces of some tokens are their base and then pieces of the tokens after it. -/
theorem flatten_pieces {tokens : List Token} {pieces : List (List Char)}
    (h : List.Forall₂ (fun token piece => piece ∈ Token.language token) tokens pieces) :
    ∃ more, List.Forall₂ (fun token piece => piece ∈ Token.language token) (afterBase tokens) more ∧
      pieces.flatten = (baseOf tokens).toList ++ more.flatten := by
  induction h with
  | nil => exact ⟨[], .nil, rfl⟩
  | @cons token piece tokens pieces hpiece hpieces ih =>
    cases token with
    | literal text =>
      obtain ⟨more, hmore, hflatten⟩ := ih
      have hpiece : piece = text.toList := hpiece
      refine ⟨more, hmore, ?_⟩
      rw [List.flatten_cons, hflatten, hpiece, baseOf_literal, String.toList_append,
        List.append_assoc]
    | glob recursive => exact ⟨piece :: pieces, .cons hpiece hpieces, rfl⟩
    | capture name pattern => exact ⟨piece :: pieces, .cons hpiece hpieces, rfl⟩

/-- Whether a file of a spec may lie deeper is seen in the tokens after its base. -/
theorem needsRecursion_eq_false {tokens : List Token} (h : needsRecursion tokens = false) :
    ∀ token ∈ afterBase tokens, token = .glob false ∨ ∃ text :
    String, token = .literal text ∧ '/' ∉ text.toList := by
  intro token htoken
  have hflat := List.any_eq_false.mp h token htoken
  cases token with
  | literal text =>
    refine .inr ⟨text, rfl, ?_⟩
    simpa using hflat
  | glob recursive =>
    cases recursive with
    | true => exact absurd rfl hflat
    | false => exact .inl rfl
  | capture name pattern => exact absurd rfl hflat

theorem no_slash_flatten {tokens : List Token} {pieces : List (List Char)}
    (hflat : ∀ token ∈ tokens, token = .glob false ∨ ∃ text : String, token = .literal text ∧
    '/' ∉ text.toList)
    (h : List.Forall₂ (fun token piece => piece ∈ Token.language token) tokens pieces) :
    '/' ∉ pieces.flatten := by
  induction h with
  | nil => simp
  | @cons token piece tokens pieces hpiece _ ih =>
    rw [List.forall_mem_cons] at hflat
    rw [List.flatten_cons, List.mem_append, not_or]
    refine ⟨?_, ih hflat.2⟩
    rcases hflat.1 with rfl | ⟨text, rfl, htext⟩
    · exact hpiece
    · have hpiece : piece = text.toList := hpiece
      rwa [hpiece]

/-- What tokens without recursion match goes on after their base within one name. -/
theorem exists_rest_of_flat {tokens : List Token} {program : Pattern.Program}
    (hp : PathSpec.program tokens = .ok program) {cs : List Char} {marks : List (Nat × List Char)}
    (hm : program.fullMatch cs = some marks) (h : needsRecursion tokens = false) :
    ∃ rest, cs = (baseOf tokens).toList ++ rest ∧ '/' ∉ rest := by
  have hflat := needsRecursion_eq_false h
  have hregular : ∀ token ∈ tokens, token.IsRegular := by
    rw [← isRegular_afterBase]
    intro token htoken
    rcases hflat token htoken with rfl | ⟨text, rfl, -⟩ <;> trivial
  obtain ⟨pieces, hs, -⟩ := splits_of_fullMatch hregular hp hm
  obtain ⟨more, hmore, hflatten⟩ := flatten_pieces hs.pieces
  exact ⟨more.flatten, hs.flatten.symm.trans hflatten, no_slash_flatten hflat hmore⟩

end PathSpec

namespace Spec

open FileTree

variable {t : FileTree} {spec : Spec}

/-- The directory to watch for a base in canonical form. -/
def watchRoot (t : FileTree) (base : String) : String :=
  if base ≠ "" && t.isDir base then base
  else if Path.directory base = "" then "." else Path.directory base

theorem watchTarget_eq {tokens : List PathSpec.Token}
    (h : PathSpec.canonicalTokens t spec.segments = .ok tokens) :
    spec.watchTarget t = .ok (watchRoot t (PathSpec.baseOf tokens),
      PathSpec.needsRecursion tokens) := by
  rw [watchTarget, h]
  rfl

/-- A base that stops at a slash, or within a name that is not that of a directory, is watched
at the directory of the names before. -/
theorem exists_root {loc : Location} {base : String} (hloc : ∀ n ∈ loc, Proper n)
    (hbase : base = pathOf loc ∨ base = pathOf (loc ++ [""]))
    (hstop : base.endsWith "/" = true ∨ t.isDir base = false) : ∃ (dir : Location) (x : String),
      (∀ n ∈ dir, Proper n) ∧ '/' ∉ x.toList ∧ base = pathOf (dir ++ [x]) ∧
        (watchRoot t base = pathOf dir ∨ watchRoot t base = pathOf (dir ++ [""])) := by
  have hslash : base = pathOf (loc ++ [""]) → watchRoot t base = pathOf loc ∨ watchRoot t base =
      pathOf (loc ++ [""]) := by
    rintro rfl
    unfold watchRoot
    rw [directory_pathOf hloc (by simp), if_neg (pathOf_ne_empty loc)]
    split_ifs
    · exact .inr rfl
    · exact .inl rfl
  rcases hbase with hbase | hbase
  · rcases List.eq_nil_or_concat loc with rfl | ⟨dir, x, rfl⟩
    · exact ⟨[], "", hloc, by simp, hbase, hslash hbase⟩
    · rw [List.concat_eq_append] at hloc hbase
      have hdir : ∀ n ∈ dir, Proper n := fun n hn => hloc n (List.mem_append_left _ hn)
      have hx : Proper x := hloc x (by simp)
      refine ⟨dir, x, hdir, hx.no_slash, hbase, .inl ?_⟩
      rw [hbase, endsWith_slash_pathOf (by simp) hloc] at hstop
      have hnot : t.isDir (pathOf (dir ++ [x])) = false := by simpa using hstop
      unfold watchRoot
      rw [hbase, hnot, directory_pathOf hdir hx.no_slash, if_neg (pathOf_ne_empty dir)]
      simp
  · exact ⟨loc, "", hloc, by simp, hbase, hslash hbase⟩

/-- If the base of a spec is absolute and, in canonical form, ends with a slash or is no directory,
then every path that the spec matches and that does not end with a slash lies below the directory
that is watched for the spec. If those below it are not watched, it is the directory of the path
itself. -/
theorem watchTarget_covers {path : String} {m : MatchedFile}
    (hbase : Path.isAbsolute (PathSpec.baseOf spec.segments) = true)
    (hstop : ∀ base, t.canonical (PathSpec.baseOf spec.segments) = .ok base →
      base.endsWith "/" = true ∨ t.isDir base = false)
    (hm : spec.matchPath t path = .ok (some m)) (hpath : m.path.endsWith "/" = false) :
    ∃ root recursive, spec.watchTarget t = .ok (root, recursive) ∧
      ∃ (dir : Location) (name : String) (more : List String),
        (∀ n ∈ dir ++ name :: more, Proper n) ∧
        (root = pathOf dir ∨ root = pathOf (dir ++ [""])) ∧ m.path = pathOf (dir ++ name :: more) ∧
        (recursive = false → more = [] ∧ Path.directory m.path = pathOf dir) := by
  obtain ⟨tokens, program, c, ht, hp, hc, hmatch⟩ := exists_of_matchPath hm
  obtain ⟨marks, hmarks, rfl⟩ := Option.map_eq_some_iff.mp hmatch.symm
  have hcanonical := (PathSpec.canonicalTokens_eq_ok ht).1
  obtain ⟨base, hbaseloc, hbaseeq⟩ := exists_location_of_canonical hbase hcanonical
  obtain ⟨dir, x, hdir, hx, hstart, hroot⟩ := exists_root hbaseloc hbaseeq (hstop _ hcanonical)
  have hprefix := PathSpec.prefix_baseOf_of_fullMatch hp hmarks
  -- the match begins with an absolute base, so it is the canonical form of an absolute path
  have hcabs : Path.isAbsolute c = true := by
    obtain ⟨more, hmore⟩ := hprefix
    rw [Path.isAbsolute_iff, ← hmore, hstart, toList_pathOf]
    exact ⟨_, rfl⟩
  have habs : Path.isAbsolute path = true := by
    by_contra hnot
    rw [Bool.not_eq_true] at hnot
    obtain rfl : path = c := Except.ok.inj ((canonical_of_not_absolute hnot).symm.trans hc)
    exact absurd hcabs (by simp [hnot])
  obtain ⟨loc, hloc, hceq⟩ := exists_location_of_canonical habs hc
  have hcloc : c = pathOf loc := by
    rcases hceq with hceq | hceq
    · exact hceq
    · rw [hceq, endsWith_slash_concat_empty] at hpath
      cases hpath
  have hne : loc ≠ [] := by
    rintro rfl
    rw [hcloc, endsWith_slash_root] at hpath
    cases hpath
  rw [hstart, hcloc] at hprefix
  obtain ⟨name, more, rfl⟩ := exists_names_of_prefix hdir hx hloc hne hprefix
  refine ⟨_, _, watchTarget_eq ht, dir, name, more, hloc, hroot, hcloc, fun hflat => ?_⟩
  obtain ⟨rest, hrest, hslash⟩ := PathSpec.exists_rest_of_flat hp hmarks hflat
  have hlast : pathOf (dir ++ name :: more) = pathOf (dir ++ [x ++ String.ofList rest]) := by
    apply String.toList_injective
    rw [toList_pathOf_concat_append, String.toList_ofList, ← hcloc, ← hstart]
    exact hrest
  have hnames : dir ++ name :: more = dir ++ [x ++ String.ofList rest] := by
    refine (pathOf_inj hne (by simp) (fun n hn => (hloc n hn).no_slash) ?_).mp hlast
    exact no_slash_append hdir (by simp [hx, hslash])
  obtain ⟨rfl, rfl⟩ := List.cons.inj (List.append_cancel_left hnames)
  refine ⟨rfl, ?_⟩
  have hname := hloc _ (List.mem_append_right dir (List.mem_singleton_self _))
  change Path.directory c = _
  rw [hcloc, directory_pathOf hdir hname.no_slash]

end Spec

namespace Detour

/-- A directory with a file, and a link to the directory. -/
def tree : FileTree := ⟨[(["d"], .dir), (["d", "v1"], .file ⟨#[]⟩), (["w"], .link "d")], []⟩

/-- A spec whose base goes through the link and stops within a name. -/
def versions : Spec := ⟨"/w/v*", [.literal "/w/v", .glob false], "/w/v", "chunked", [], [], false⟩

/-- The directory behind the link is watched alone, and it is
the one of the path that is matched. -/
theorem versions_covered : Path.isAbsolute (PathSpec.baseOf versions.segments) = true ∧
    tree.canonical (PathSpec.baseOf versions.segments) = .ok "/d/v" ∧ tree.isDir "/d/v" = false ∧
    (∃ m, versions.matchPath tree "/w/v1" = .ok (some m) ∧ m.path = "/d/v1") ∧
    versions.watchTarget tree = .ok ("/d", false) ∧ Path.directory "/d/v1" = "/d" := by
  have hbase : Path.isAbsolute (PathSpec.baseOf versions.segments) = true := by decide +kernel
  have hcanonical : tree.canonical (PathSpec.baseOf versions.segments) = .ok "/d/v" := by decide +kernel
  have hfile : tree.isDir "/d/v" = false := by decide +kernel
  have hm : versions.matchPath tree "/w/v1" = .ok (some ⟨"/d/v1", [], [], some versions⟩) := by
    decide +kernel
  have hslash : "/d/v1".endsWith "/" = false := by
    rw [Bool.eq_false_iff, ne_eq, Path.endsWith_slash_iff]
    decide
  have htokens : PathSpec.canonicalTokens tree versions.segments =
      .ok [.literal "/d/v", .glob false] := by decide +kernel
  have hparent : Path.directory "/d/v" = "/d" := by decide
  have htarget : versions.watchTarget tree = .ok ("/d", false) := by
    have hwatch : Spec.watchRoot tree "/d/v" = "/d" := by simp [Spec.watchRoot, hfile, hparent]
    rw [Spec.watchTarget_eq htokens]
    exact congrArg (fun root => Except.ok (root, false)) hwatch
  refine ⟨hbase, hcanonical, hfile, ⟨_, hm, rfl⟩, htarget, ?_⟩
  have hstop : ∀ base, tree.canonical (PathSpec.baseOf versions.segments) = .ok base →
      base.endsWith "/" = true ∨ tree.isDir base = false := by
    intro base hb
    obtain rfl : "/d/v" = base := Except.ok.inj (hcanonical.symm.trans hb)
    exact .inr hfile
  obtain ⟨root, recursive, hroot, dir, name, more, hproper, hdir, -, hflat⟩ :=
    Spec.watchTarget_covers hbase hstop hm hslash
  rw [htarget] at hroot
  cases hroot
  obtain ⟨-, hdirectory⟩ := hflat rfl
  rcases hdir with hdir | hdir
  · rw [hdirectory, ← hdir]
  · have hend := FileTree.endsWith_slash_concat_empty dir
    rw [← hdir, Path.endsWith_slash_iff] at hend
    exact absurd hend (by decide)

end Detour

end SegmentIndex
