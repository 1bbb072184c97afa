import SegmentIndex.Proofs.Changes
import SegmentIndex.Proofs.Listing

/-!
# Canonical path texts

A path text is its names with slashes between them, and an absolute path is the path of the names
after its first slash. Without links, the canonical form of an absolute path drops empty names and
dots, so a path that is its own canonical form is the path of a location, perhaps with a slash at
its end. A text that such a path begins with is its own canonical form too, unless it stops after
one or two dots.
-/
namespace SegmentIndex

namespace Path

/-! ## Names and slashes -/

theorem splitSlashes_ne_nil (cs : List Char) : splitSlashes cs ≠ [] := by
  cases cs with
  | nil => simp [splitSlashes]
  | cons c cs =>
    rw [splitSlashes]
    split
    · simp
    · split_ifs <;> simp

theorem splitSlashes_slash (cs : List Char) : splitSlashes ('/' :: cs) = [] :: splitSlashes cs := by
  rw [splitSlashes]
  split
  · exact absurd ‹_› (splitSlashes_ne_nil cs)
  · simp_all

theorem splitSlashes_cons {c : Char} (hc : c ≠ '/') (cs : List Char) :
    ∃ n ns, splitSlashes cs = n :: ns ∧ splitSlashes (c :: cs) = (c :: n) :: ns := by
  rcases h : splitSlashes cs with _ | ⟨n, ns⟩
  · exact absurd h (splitSlashes_ne_nil cs)
  · exact ⟨n, ns, rfl, by simp [splitSlashes, h, hc]⟩

theorem intercalate_splitSlashes (cs : List Char) : ['/'].intercalate (splitSlashes cs) = cs := by
  induction cs with
  | nil => rfl
  | cons c cs ih =>
    by_cases hc : c = '/'
    · subst hc
      rw [splitSlashes_slash]
      rcases h : splitSlashes cs with _ | ⟨n, ns⟩
      · exact absurd h (splitSlashes_ne_nil cs)
      · rw [List.intercalate_cons_cons, ← h, ih]
        rfl
    · obtain ⟨n, ns, h, h'⟩ := splitSlashes_cons hc cs
      rw [h']
      rw [h] at ih
      cases ns with
      | nil => simpa using ih
      | cons m ms =>
        rw [List.intercalate_cons_cons] at ih ⊢
        rw [← ih]
        rfl

theorem splitSlashes_append {n : List Char} (hn : '/' ∉ n) (cs : List Char) :
    splitSlashes (n ++ '/' :: cs) = n :: splitSlashes cs := by
  induction n with
  | nil => exact splitSlashes_slash cs
  | cons c n ih =>
    rw [List.mem_cons, not_or] at hn
    rw [List.cons_append, splitSlashes, ih hn.2]
    simp [Ne.symm hn.1]

theorem splitSlashes_intercalate {ns : List (List Char)} (hne : ns ≠ []) (hns : ∀ n ∈ ns, '/' ∉ n) :
    splitSlashes (['/'].intercalate ns) = ns := by
  induction ns with
  | nil => exact absurd rfl hne
  | cons n ns ih =>
    rw [List.forall_mem_cons] at hns
    cases ns with
    | nil => simpa using splitSlashes_of_no_slash hns.1
    | cons m ms =>
      rw [List.intercalate_cons_cons, List.append_assoc, List.singleton_append,
        splitSlashes_append hns.1, ih (by simp) hns.2]

theorem no_slash_of_mem {cs n : List Char} (h : n ∈ splitSlashes cs) : '/' ∉ n := by
  induction cs generalizing n with
  | nil => simp_all [splitSlashes]
  | cons c cs ih =>
    by_cases hc : c = '/'
    · subst hc
      rw [splitSlashes_slash, List.mem_cons] at h
      rcases h with rfl | h
      · simp
      · exact ih h
    · obtain ⟨m, ms, h₁, h₂⟩ := splitSlashes_cons hc cs
      rw [h₂, List.mem_cons] at h
      rcases h with rfl | h
      · have hm := ih (n := m) (by simp [h₁])
        simp [Ne.symm hc, hm]
      · exact ih (by simp [h₁, h])

theorem prefix_splitSlashes {cs ds : List Char} (h : cs <+: ds) : ∃ before x n after,
    splitSlashes ds = before ++ n :: after ∧ splitSlashes cs = before ++ [x] ∧ x <+: n := by
  induction cs generalizing ds with
  | nil =>
    rcases hd : splitSlashes ds with _ | ⟨n, ns⟩
    · exact absurd hd (splitSlashes_ne_nil ds)
    · exact ⟨[], [], n, ns, rfl, rfl, List.nil_prefix⟩
  | cons c cs ih =>
    cases ds with
    | nil => exact absurd h (by simp)
    | cons d ds =>
    obtain ⟨rfl, htail⟩ := List.cons_prefix_cons.mp h
    obtain ⟨before, x, n, after, hds, hcs, hx⟩ := ih htail
    by_cases hc : c = '/'
    · subst hc
      exact ⟨[] :: before, x, n, after, by rw [splitSlashes_slash, hds]; rfl, by
        rw [splitSlashes_slash, hcs]; rfl, hx⟩
    · obtain ⟨m, ms, h₁, h₂⟩ := splitSlashes_cons hc cs
      obtain ⟨m', ms', h₁', h₂'⟩ := splitSlashes_cons hc ds
      rw [h₁] at hcs
      rw [h₁'] at hds
      cases before with
      | nil =>
        obtain ⟨rfl, rfl⟩ := List.cons.inj hcs
        obtain ⟨rfl, rfl⟩ := List.cons.inj hds
        exact ⟨[], c :: m, c :: m', ms', h₂', h₂, List.cons_prefix_cons.mpr ⟨rfl, hx⟩⟩
      | cons b bs =>
        obtain ⟨rfl, rfl⟩ := List.cons.inj hcs
        obtain ⟨rfl, rfl⟩ := List.cons.inj hds
        exact ⟨(c :: m') :: bs, x, n, after, h₂', h₂, hx⟩

theorem endsWith_slash_iff {path : String} : path.endsWith "/" = true ↔ ['/'] <:+ path.toList := by
  have hslice : path.toSlice.endsWith "/" = true ↔ "/".toList <:+ path.toSlice.copy.toList :=
    String.Slice.endsWith_string_iff
  rwa [String.copy_toSlice] at hslice

/-! ## Absolute paths -/

theorem no_slash_of_mem_names {path n : String} (h : n ∈ names path) : '/' ∉ n.toList := by
  obtain ⟨cs, hcs, rfl⟩ := List.mem_map.mp h
  simpa using no_slash_of_mem hcs

theorem prefix_names {base path : String} (h : base.toList <+: path.toList) : ∃ before x n after,
    names path = before ++ n :: after ∧ names base = before ++ [x] ∧ x.toList <+: n.toList := by
  obtain ⟨before, x, n, after, hpath, hbase, hx⟩ := prefix_splitSlashes h
  refine ⟨before.map .ofList, .ofList x, .ofList n, after.map .ofList, ?_, ?_, by simpa using hx⟩
  · simp [names, hpath]
  · simp [names, hbase]

theorem isAbsolute_iff {path : String} :
    isAbsolute path = true ↔ ∃ cs, path.toList = '/' :: cs := by
  rw [isAbsolute, String.startsWith_string_iff]
  constructor
  · rintro ⟨cs, hcs⟩
    exact ⟨cs, hcs.symm⟩
  · rintro ⟨cs, hcs⟩
    exact ⟨cs, hcs.symm⟩

end Path

namespace FileTree

theorem toList_pathOf (ns : Location) :
    (pathOf ns).toList = '/' :: ['/'].intercalate (ns.map String.toList) := by
  rw [pathOf, String.toList_append, String.toList_intercalate]
  rfl

theorem pathOf_nil : pathOf [] = "/" := by decide

theorem toList_pathOf_eq {ns : Location} (hne : ns ≠ []) :
    (pathOf ns).toList = ns.flatMap fun n => '/' :: n.toList := by
  rw [toList_pathOf]
  induction ns with
  | nil => exact absurd rfl hne
  | cons n ns ih =>
    cases ns with
    | nil => simp
    | cons m ms =>
      have hrest := ih (by simp)
      rw [List.map_cons, List.map_cons, List.intercalate_cons_cons, List.flatMap_cons, ← hrest]
      simp

theorem toList_pathOf_append {ns ms : Location} (hns : ns ≠ []) (hms : ms ≠ []) :
    (pathOf (ns ++ ms)).toList = (pathOf ns).toList ++ (pathOf ms).toList := by
  rw [toList_pathOf_eq hns, toList_pathOf_eq hms, toList_pathOf_eq (by simp [hns]),
    List.flatMap_append]

/-- The path of a location begins with that of each location on the way to it. -/
theorem prefix_pathOf_append (ns ms : Location) :
    (pathOf ns).toList <+: (pathOf (ns ++ ms)).toList := by
  by_cases hms : ms = []
  · simp [hms]
  · by_cases hns : ns = []
    · subst hns
      rw [toList_pathOf, toList_pathOf]
      exact List.cons_prefix_cons.mpr ⟨rfl, List.nil_prefix⟩
    · rw [toList_pathOf_append hns hms]
      exact List.prefix_append _ _

theorem isAbsolute_pathOf (ns : Location) : Path.isAbsolute (pathOf ns) = true :=
  Path.isAbsolute_iff.mpr ⟨_, toList_pathOf ns⟩

@[simp] theorem pathOf_ne_empty (ns : Location) : pathOf ns ≠ "" := by
  intro heq
  have habs := isAbsolute_pathOf ns
  rw [heq] at habs
  exact absurd habs (by decide)

theorem assemble_slash (ns : Location) : Path.assemble "/" ns = pathOf ns := by
  unfold Path.assemble
  exact if_neg (pathOf_ne_empty ns)

theorem eq_pathOf_of_isAbsolute {path : String} (h : Path.isAbsolute path = true) :
    ∃ ns, ns ≠ [] ∧ Path.names path = "" :: ns ∧ path = pathOf ns := by
  obtain ⟨cs, hcs⟩ := Path.isAbsolute_iff.mp h
  have hnames : Path.names path = "" :: (Path.splitSlashes cs).map .ofList := by
    rw [Path.names, hcs, Path.splitSlashes_slash]
    rfl
  refine ⟨(Path.splitSlashes cs).map .ofList, by simpa using Path.splitSlashes_ne_nil cs,
    hnames, ?_⟩
  apply String.toList_injective
  rw [toList_pathOf, hcs, List.map_map]
  simpa [Function.comp_def] using (Path.intercalate_splitSlashes cs).symm

theorem names_pathOf {ns : Location} (hne : ns ≠ []) (hns : ∀ n ∈ ns, '/' ∉ n.toList) :
    Path.names (pathOf ns) = "" :: ns := by
  have hsplit : Path.splitSlashes (['/'].intercalate (ns.map String.toList)) =
      ns.map String.toList :=
    Path.splitSlashes_intercalate (by simpa using hne) (by simpa using hns)
  rw [Path.names, toList_pathOf, Path.splitSlashes_slash, hsplit]
  simp [Function.comp_def]

theorem pathOf_inj {ns ms : Location} (hns : ns ≠ []) (hms : ms ≠ [])
    (hn : ∀ n ∈ ns, '/' ∉ n.toList)
    (hm : ∀ n ∈ ms, '/' ∉ n.toList) : pathOf ns = pathOf ms ↔ ns = ms := by
  refine ⟨fun h => ?_, congrArg pathOf⟩
  have hnames := congrArg Path.names h
  rw [names_pathOf hns hn, names_pathOf hms hm] at hnames
  exact (List.cons.inj hnames).2

/-! ## Canonical forms without links -/

/-- One name further from a location, without looking at the tree. -/
def descend (at_ : Location) (n : String) : Location :=
  if n = "" || n = "." then at_ else if n = ".." then at_.dropLast else at_ ++ [n]

/-- Whether a name can be that of an entry of a directory. -/
structure Proper (n : String) : Prop where
  ne_empty : n ≠ ""
  ne_dot : n ≠ "."
  ne_dots : n ≠ ".."
  no_slash : '/' ∉ n.toList

instance (n : String) : Decidable (Proper n) :=
  decidable_of_iff (n ≠ "" ∧ n ≠ "." ∧ n ≠ ".." ∧ '/' ∉ n.toList)
    ⟨fun ⟨hempty, hdot, hdots, hslash⟩ => ⟨hempty, hdot, hdots, hslash⟩,
      fun h => ⟨h.ne_empty, h.ne_dot, h.ne_dots, h.no_slash⟩⟩

theorem no_slash_append {dir more : Location} (hdir : ∀ n ∈ dir, Proper n)
    (hmore : ∀ n ∈ more, '/' ∉ n.toList) :
    ∀ n ∈ dir ++ more, '/' ∉ n.toList := by
  intro n hn
  rcases List.mem_append.mp hn with hn | hn
  · exact (hdir n hn).no_slash
  · exact hmore n hn

theorem descend_of_proper {n : String} (h : Proper n) (at_ : Location) :
    descend at_ n = at_ ++ [n] := by
  simp [descend, h.ne_empty, h.ne_dot, h.ne_dots]

theorem descend_empty (at_ : Location) : descend at_ "" = at_ := by simp [descend]

theorem foldl_descend {ns : List String} (h : ∀ n ∈ ns, Proper n) (at_ : Location) :
    ns.foldl descend at_ = at_ ++ ns := by
  induction ns generalizing at_ with
  | nil => simp
  | cons n ns ih =>
    rw [List.forall_mem_cons] at h
    rw [List.foldl_cons, descend_of_proper h.1, ih h.2, List.append_assoc, List.singleton_append]

theorem proper_foldl_descend {ns : List String} (h : ∀ n ∈ ns, '/' ∉ n.toList) {at_ : Location}
    (hat : ∀ n ∈ at_, Proper n) : ∀ n ∈ ns.foldl descend at_, Proper n := by
  induction ns generalizing at_ with
  | nil => exact hat
  | cons n ns ih =>
    rw [List.forall_mem_cons] at h
    refine ih h.2 ?_
    unfold descend
    split_ifs with hempty hdots
    · exact hat
    · exact fun m hm => hat m (List.mem_of_mem_dropLast hm)
    · simp only [Bool.or_eq_true, decide_eq_true_eq, not_or] at hempty
      intro m hm
      rcases List.mem_append.mp hm with hm | hm
      · exact hat m hm
      · rw [List.mem_singleton.mp hm]
        exact ⟨hempty.1, hempty.2, hdots, h.1⟩

variable {t : FileTree}

theorem linkless_of_entries (h : ∀ e ∈ t.entries, ∀ target, e.2 ≠ .link target) : t.Linkless := by
  intro place target he
  unfold entry? at he
  split_ifs at he
  · cases he
  · obtain ⟨before, after, hentries, -⟩ := List.lookup_eq_some_iff.mp he
    exact h (place, .link target) (by simp [hentries]) target rfl

theorem Linkless.canonicalFrom_ok (h : t.Linkless) {ns : List String} (hnull : ∀ n ∈ ns, NullFree n)
    {fuel : Nat}
    (hfuel : ns.length < fuel) (seen : List (Location × Option Location)) (at_ : Location) :
    t.canonicalFrom fuel seen at_ ns = .ok ⟨ns.foldl descend at_, true, seen⟩ := by
  induction ns generalizing fuel at_ with
  | nil =>
    obtain ⟨n, rfl⟩ := Nat.exists_eq_succ_of_ne_zero (Nat.ne_of_gt hfuel)
    rfl
  | cons name rest ih =>
    obtain ⟨n, rfl⟩ := Nat.exists_eq_succ_of_ne_zero (Nat.ne_zero_of_lt hfuel)
    obtain ⟨hname, hrest⟩ := List.forall_mem_cons.mp hnull
    have hn : rest.length < n := Nat.lt_of_succ_lt_succ hfuel
    have hclean : name.toList.contains '\x00' = false := by simpa [NullFree] using hname
    rw [List.foldl_cons]
    simp only [canonicalFrom, descend, hclean, Bool.false_eq_true, if_false]
    split_ifs
    · exact ih hrest hn _
    · exact ih hrest hn _
    · split
      · exact absurd ‹_› (h _ _)
      · exact ih hrest hn _

theorem Linkless.nullFree_of_canonicalFrom (h : t.Linkless) {ns : List String} {fuel : Nat}
    (hfuel : ns.length < fuel) {seen : List (Location × Option Location)} {at_ : Location}
    {c : Canonical} (hc : t.canonicalFrom fuel seen at_ ns = .ok c) : ∀ n ∈ ns, NullFree n := by
  induction ns generalizing fuel at_ with
  | nil => simp
  | cons name rest ih =>
    obtain ⟨n, rfl⟩ := Nat.exists_eq_succ_of_ne_zero (Nat.ne_zero_of_lt hfuel)
    have hn : rest.length < n := Nat.lt_of_succ_lt_succ hfuel
    rw [List.forall_mem_cons]
    simp only [canonicalFrom] at hc
    split_ifs at hc with hempty hdots hnull
    · simp only [Bool.or_eq_true, decide_eq_true_eq] at hempty
      exact ⟨by rcases hempty with rfl | rfl <;> decide, ih hn hc⟩
    · exact ⟨by rw [hdots]; decide, ih hn hc⟩
    · refine ⟨by simpa [NullFree] using hnull, ?_⟩
      split at hc
      · exact absurd ‹_› (h _ _)
      · exact ih hn hc

/-- The canonical form of an absolute path in a tree without links. -/
def settled (path : String) : String :=
  let s := pathOf ((Path.names path).foldl descend [])
  if path.endsWith "/" && !s.endsWith "/" then s ++ "/" else s

theorem Linkless.canonical_eq_ok_iff (h : t.Linkless) {path c : String}
    (habs : Path.isAbsolute path = true) :
    t.canonical path = .ok c ↔ NullFree path ∧ c = settled path := by
  simp only [canonical, habs, Bool.not_true, Bool.false_eq_true, if_false, canonicalLocation]
  generalize hfuel : (Path.names path).length + t.linkNames + t.entries.length + 1 = fuel
  have hlt : (Path.names path).length < fuel := by omega
  constructor
  · intro hc
    rcases hfrom : t.canonicalFrom fuel [] [] (Path.names path) with e | place
    · rw [hfrom] at hc
      cases hc
    · have hnull := h.nullFree_of_canonicalFrom hlt hfrom
      rw [h.canonicalFrom_ok hnull hlt] at hc
      exact ⟨Path.nullFree_names.mp hnull, (Except.ok.inj hc).symm⟩
  · rintro ⟨hnull, rfl⟩
    rw [h.canonicalFrom_ok (Path.nullFree_names.mpr hnull) hlt]
    rfl

theorem settled_eq (path : String) : settled path =
    if path.endsWith "/" && !(pathOf ((Path.names path).foldl descend [])).endsWith "/" then
      pathOf ((Path.names path).foldl descend []) ++ "/"
    else pathOf ((Path.names path).foldl descend []) := rfl

theorem pathOf_concat_empty {ns : Location} (hne : ns ≠ []) :
    pathOf ns ++ "/" = pathOf (ns ++ [""]) := by
  apply String.toList_injective
  rw [toList_pathOf_append hne (by simp), String.toList_append]
  rfl

theorem endsWith_slash_root : (pathOf []).endsWith "/" = true := by
  rw [Path.endsWith_slash_iff, toList_pathOf]
  exact List.suffix_rfl

theorem endsWith_slash_concat (ns : Location) {n : String} (hempty : n ≠ "")
    (hslash : '/' ∉ n.toList) :
    (pathOf (ns ++ [n])).endsWith "/" = false := by
  rw [Bool.eq_false_iff, ne_eq, Path.endsWith_slash_iff, toList_pathOf_eq (by simp),
    List.flatMap_append]
  rintro ⟨before, hend⟩
  have hlast := congrArg List.getLast? hend
  have hne : n.toList ≠ [] := by simpa using hempty
  simp only [List.flatMap_singleton, List.getLast?_append, Option.some_or, List.getLast?_cons,
    List.getLast?_nil, List.getLast?_eq_some_getLast hne, Option.getD_some, Option.getD_none,
    Option.some.injEq] at hlast
  have hmem := List.getLast_mem hne
  rw [← hlast] at hmem
  exact hslash hmem

theorem endsWith_slash_pathOf {ns : Location} (hne : ns ≠ []) (hns : ∀ n ∈ ns, Proper n) :
    (pathOf ns).endsWith "/" = false := by
  have hlast := hns _ (List.getLast_mem hne)
  rw [← List.dropLast_append_getLast hne]
  exact endsWith_slash_concat _ hlast.ne_empty hlast.no_slash

theorem endsWith_slash_concat_empty (ns : Location) :
    (pathOf (ns ++ [""])).endsWith "/" = true := by
  rw [Path.endsWith_slash_iff, toList_pathOf_eq (by simp), List.flatMap_append]
  exact List.suffix_append _ _

/-- A path that is its own canonical form is that of a location, perhaps with a slash at its end. -/
theorem Linkless.exists_location (h : t.Linkless) {path : String}
    (habs : Path.isAbsolute path = true)
    (hp : t.canonical path = .ok path) : NullFree path ∧ ∃ loc : Location, (∀ n ∈ loc, Proper n) ∧
      (path = pathOf loc ∨ path = pathOf (loc ++ [""])) := by
  obtain ⟨hnull, hpath⟩ := (h.canonical_eq_ok_iff habs).mp hp
  have hproper : ∀ n ∈ (Path.names path).foldl descend [], Proper n :=
    proper_foldl_descend (fun n hn => Path.no_slash_of_mem_names hn) (by simp)
  refine ⟨hnull, _, hproper, ?_⟩
  rw [settled_eq] at hpath
  split_ifs at hpath with hslash
  · refine .inr (hpath.trans (pathOf_concat_empty fun hroot => ?_))
    rw [hroot, endsWith_slash_root] at hslash
    simp at hslash
  · exact .inl hpath

/-- All names but the last of a path that is its own canonical form are those of entries. -/
theorem Linkless.proper_of_canonical (h : t.Linkless) {ns : Location} (hne : ns ≠ [])
    (hns : ∀ n ∈ ns, '/' ∉ n.toList)
    (hp : t.canonical (pathOf ns) = .ok (pathOf ns)) : ∀ n ∈ ns.dropLast, Proper n := by
  obtain ⟨-, loc, hloc, hpath⟩ := h.exists_location (isAbsolute_pathOf ns) hp
  have hlocslash : ∀ n ∈ loc, '/' ∉ n.toList := fun n hn => (hloc n hn).no_slash
  have hlast : ∀ n ∈ loc ++ [""], '/' ∉ n.toList := no_slash_append hloc (by decide)
  have hnames : ns = loc ∨ ns = loc ++ [""] := by
    rcases hpath with hpath | hpath
    · by_cases hroot : loc = []
      · subst hroot
        exact .inr ((pathOf_inj hne (by simp) hns hlast).mp hpath)
      · exact .inl ((pathOf_inj hne hroot hns hlocslash).mp hpath)
    · exact .inr ((pathOf_inj hne (by simp) hns hlast).mp hpath)
  rcases hnames with rfl | rfl
  · exact fun n hn => hloc n (List.mem_of_mem_dropLast hn)
  · simpa using hloc

/-- What a path that is its own canonical form begins with is the path of the names on the way to a
location, and one more text that the next name begins with. -/
theorem Linkless.exists_concat (h : t.Linkless) {base path : String}
    (hbase : Path.isAbsolute base = true) (habs : Path.isAbsolute path = true)
    (hp : t.canonical path = .ok path) (hstart : base.toList <+: path.toList) :
    ∃ (dir : Location) (x n : String) (more : List String), (∀ m ∈ dir, Proper m) ∧
    base = pathOf (dir ++ [x]) ∧
      path = pathOf (dir ++ n :: more) ∧ (∀ m ∈ n :: more, '/' ∉ m.toList) ∧
      x.toList <+: n.toList := by
  obtain ⟨before, x, n, after, hpath, hbase', hx⟩ := Path.prefix_names hstart
  obtain ⟨ns, hne, hnames, rfl⟩ := eq_pathOf_of_isAbsolute hbase
  obtain ⟨ms, hms, hmnames, rfl⟩ := eq_pathOf_of_isAbsolute habs
  rw [hnames] at hbase'
  rw [hmnames] at hpath
  cases before with
  | nil =>
    simp only [List.nil_append, List.cons.injEq] at hbase'
    exact absurd hbase'.2 hne
  | cons b dir =>
    simp only [List.cons_append, List.cons.injEq] at hbase' hpath
    obtain ⟨rfl, rfl⟩ := hbase'
    obtain ⟨-, rfl⟩ := hpath
    have hslash : ∀ m ∈ dir ++ n :: after, '/' ∉ m.toList := by
      intro m hm
      have hname : m ∈ Path.names (pathOf (dir ++ n :: after)) := by
        rw [hmnames]
        exact List.mem_cons_of_mem _ hm
      exact Path.no_slash_of_mem_names hname
    refine ⟨dir, x, n, after, ?_, rfl, rfl, fun m hm => hslash m (List.mem_append_right _ hm), hx⟩
    intro m hm
    refine h.proper_of_canonical hms hslash hp m ?_
    rw [List.dropLast_append_of_ne_nil (by simp)]
    exact List.mem_append_left _ hm

section Prefix

variable {dir : Location} {x : String} (hdir : ∀ m ∈ dir, Proper m) (hx : '/' ∉ x.toList)

include hdir hx

theorem names_pathOf_concat : Path.names (pathOf (dir ++ [x])) = "" :: (dir ++ [x]) := by
  exact names_pathOf (by simp) (no_slash_append hdir (by simpa using hx))

theorem foldl_descend_concat :
    (Path.names (pathOf (dir ++ [x]))).foldl descend [] = descend dir x := by
  rw [names_pathOf_concat hdir hx, List.foldl_cons, descend_empty, List.foldl_append,
    foldl_descend hdir, List.nil_append]
  rfl

theorem pathOf_descend_ne (hdots : x = "." ∨ x = "..") :
    pathOf (descend dir x) ≠ pathOf (dir ++ [x]) := by
  intro heq
  have hproper : ∀ n ∈ descend dir x, Proper n := by
    rw [← foldl_descend_concat hdir hx]
    exact proper_foldl_descend (fun n hn => Path.no_slash_of_mem_names hn) (by simp)
  have hmem : x ∈ Path.names (pathOf (descend dir x)) := by
    rw [heq, names_pathOf_concat hdir hx]
    simp
  by_cases hroot : descend dir x = []
  · rw [hroot, pathOf_nil, show Path.names "/" = ["", ""] by decide] at hmem
    rcases hdots with rfl | rfl <;> simp at hmem
  · rw [names_pathOf hroot fun n hn => (hproper n hn).no_slash, List.mem_cons] at hmem
    rcases hmem with rfl | hmem
    · simp at hdots
    · have hname := hproper x hmem
      rcases hdots with rfl | rfl
      · exact hname.ne_dot rfl
      · exact hname.ne_dots rfl

theorem rootOf_pathOf_concat : Path.rootOf (pathOf (dir ++ [x])) = "/" := by
  have hlead : Path.leadingSlashes (pathOf (dir ++ [x])) = 1 := by
    rw [Path.leadingSlashes, toList_pathOf, List.takeWhile_cons_of_pos (by simp), List.length_cons]
    cases dir with
    | nil =>
      rcases hcs : x.toList with _ | ⟨c, cs⟩
      · simp [hcs]
      · rw [hcs, List.mem_cons, not_or] at hx
        simp [hcs, Ne.symm hx.1]
    | cons n ns =>
      have hn := hdir n (by simp)
      have hslash := hn.no_slash
      rcases hcs : n.toList with _ | ⟨c, cs⟩
      · exact absurd (String.toList_eq_nil_iff.mp hcs) hn.ne_empty
      · rw [hcs, List.mem_cons, not_or] at hslash
        cases ns <;> simp [hcs, Ne.symm hslash.1]
  rw [Path.rootOf, hlead]
  rfl

theorem plainNames_pathOf_concat (hdots : x ≠ "..") :
    Path.plainNames (pathOf (dir ++ [x])) = descend dir x := by
  have hkept : dir.filter (fun n => n ≠ "" && n ≠ ".") = dir := by
    refine List.filter_eq_self.mpr fun n hn => ?_
    simp [(hdir n hn).ne_empty, (hdir n hn).ne_dot]
  rw [Path.plainNames, names_pathOf_concat hdir hx, List.filter_cons_of_neg (by simp),
    List.filter_append, hkept]
  by_cases hempty : x = "" ∨ x = "."
  · rcases hempty with rfl | rfl <;> simp [descend]
  · rw [not_or] at hempty
    simp [descend, hempty.1, hempty.2, hdots]

theorem clean_pathOf_concat (hdots : x ≠ "..") :
    Path.clean (pathOf (dir ++ [x])) = pathOf (descend dir x) := by
  rw [Path.clean, rootOf_pathOf_concat hdir hx, plainNames_pathOf_concat hdir hx hdots,
    assemble_slash]

theorem parent_pathOf_concat (hname : Proper x) :
    Path.parent (pathOf (dir ++ [x])) = pathOf dir := by
  rw [Path.parent, rootOf_pathOf_concat hdir hx, plainNames_pathOf_concat hdir hx hname.ne_dots,
    descend_of_proper hname, List.dropLast_concat, assemble_slash]

theorem Linkless.canonical_concat (h : t.Linkless) (hnull : NullFree (pathOf (dir ++ [x])))
    (hdot : x ≠ ".")
    (hdots : x ≠ "..") : t.canonical (pathOf (dir ++ [x])) = .ok (pathOf (dir ++ [x])) := by
  refine (h.canonical_eq_ok_iff (isAbsolute_pathOf _)).mpr ⟨hnull, ?_⟩
  rw [settled_eq, foldl_descend_concat hdir hx]
  by_cases hempty : x = ""
  · subst hempty
    rw [descend_empty, endsWith_slash_concat_empty]
    by_cases hroot : dir = []
    · subst hroot
      rw [endsWith_slash_root]
      rfl
    · rw [endsWith_slash_pathOf hroot hdir]
      exact (pathOf_concat_empty hroot).symm
  · rw [descend_of_proper ⟨hempty, hdot, hdots, hx⟩, endsWith_slash_concat _ hempty hx]
    rfl

/-- A text that stops after one or two dots is not its own canonical
form, which is the path of a directory. -/
theorem Linkless.canonical_of_dots (h : t.Linkless) (hnull : NullFree (pathOf (dir ++ [x])))
    (hdots : x = "." ∨ x = "..") :
    t.canonical (pathOf (dir ++ [x])) = .ok (pathOf (descend dir x)) := by
  refine (h.canonical_eq_ok_iff (isAbsolute_pathOf _)).mpr ⟨hnull, ?_⟩
  have hempty : x ≠ "" := by rcases hdots with rfl | rfl <;> decide
  rw [settled_eq, foldl_descend_concat hdir hx, endsWith_slash_concat _ hempty hx]
  rfl

end Prefix

end FileTree

end SegmentIndex
