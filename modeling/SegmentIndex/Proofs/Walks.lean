import SegmentIndex.Proofs.Paths

/-!
# Walking through directories

In a tree as a file system can hold it, every entry stands in a directory under a name that can be
looked up. There, without links, the path of a location leads to what stands at it, and a walk lists
exactly the files below a directory, each as the path of its location.
-/
namespace SegmentIndex.FileTree

variable {t : FileTree}

/-- Whether a tree is one that a file system can hold: the way to each entry goes through
directories, and its names can be looked up. -/
structure Lawful (t : FileTree) : Prop where
  proper : ∀ e ∈ t.entries, ∀ n ∈ e.1, Proper n
  nullFree : ∀ e ∈ t.entries, ∀ n ∈ e.1, NullFree n
  size_le : ∀ e ∈ t.entries, ∀ n ∈ e.1, n.utf8ByteSize ≤ maxNameBytes
  parent : ∀ e ∈ t.entries, e.1 ≠ [] ∧ t.entry? e.1.dropLast = some .dir

theorem entry?_nil : t.entry? [] = some .dir := rfl

theorem mem_entries {place : Location} {e : Entry} (hne : place ≠ [])
    (he : t.entry? place = some e) :
    (place, e) ∈ t.entries := by
  unfold entry? at he
  rw [if_neg hne] at he
  obtain ⟨before, after, hentries, -⟩ := List.lookup_eq_some_iff.mp he
  simp [hentries]

theorem ne_nil_of_file {place : Location} {bytes : ByteArray}
    (he : t.entry? place = some (.file bytes)) :
    place ≠ [] := by
  rintro rfl
  rw [entry?_nil] at he
  cases he

/-- Whether the names on the way to a directory and one more text can be looked up. -/
structure Sought (t : FileTree) (dir : Location) (x : String) : Prop where
  stands : t.entry? dir = some .dir
  name : x = "" ∨ Proper x
  name_le : x.utf8ByteSize ≤ maxNameBytes
  path_le : (pathOf (dir ++ [x])).utf8ByteSize ≤ maxPathBytes

theorem Sought.no_slash {dir : Location} {x : String} (hx : t.Sought dir x) : '/' ∉ x.toList := by
  rcases hx.name with rfl | hname
  · decide
  · exact hname.no_slash

namespace Lawful

variable (h : t.Lawful)

include h

theorem proper_of_entry? {place : Location} {e : Entry} (he : t.entry? place = some e) :
    ∀ n ∈ place, Proper n := by
  by_cases hroot : place = []
  · simp [hroot]
  · exact h.proper _ (mem_entries hroot he)

theorem eq_of_pathOf_eq {place place' : Location} {e e' : Entry} (hmem : (place, e) ∈ t.entries)
    (hmem' : (place', e') ∈ t.entries) (heq : pathOf place = pathOf place') : place = place' :=
  (pathOf_inj (h.parent _ hmem).1 (h.parent _ hmem').1 (fun n hn => (h.proper _ hmem n hn).no_slash)
    fun n hn => (h.proper _ hmem' n hn).no_slash).mp heq

theorem dir_of_append {place more : Location} {e : Entry} (he : t.entry? (place ++ more) = some e)
    (hne : more ≠ []) :
    t.entry? place = some .dir := by
  induction more using List.reverseRecOn generalizing e with
  | nil => exact absurd rfl hne
  | append_singleton before n ih =>
    obtain ⟨-, hparent⟩ := h.parent _ (mem_entries (by simp) he)
    rw [← List.append_assoc, List.dropLast_concat] at hparent
    by_cases hbefore : before = []
    · rwa [hbefore, List.append_nil] at hparent
    · exact ih hparent hbefore

/-! ## Looking paths up -/

theorem resolve_dirs {at_ dirs : Location} (he : t.entry? (at_ ++ dirs) = some .dir)
    (fuel links : Nat) (follow : Bool)
    (rest : List String) : t.resolve (fuel + dirs.length) links follow at_ (dirs ++ rest) =
      t.resolve fuel links follow (at_ ++ dirs) rest := by
  induction dirs generalizing at_ with
  | nil => simp
  | cons n dirs ih =>
    rw [List.append_cons] at he ⊢
    have hnext : t.entry? (at_ ++ [n]) = some .dir := by
      by_cases hdirs : dirs = []
      · rwa [hdirs, List.append_nil] at he
      · exact h.dir_of_append he hdirs
    have hn : Proper n := h.proper_of_entry? hnext n (by simp)
    have hsize : ¬ n.utf8ByteSize > maxNameBytes :=
      Nat.not_lt.mpr (h.size_le _ (mem_entries (by simp) hnext) n (by simp))
    rw [List.length_cons, ← Nat.add_assoc, List.cons_append]
    simp only [resolve, h.dir_of_append hnext (by simp), hn.ne_empty, hn.ne_dot, hn.ne_dots, hsize,
      hnext, decide_false, Bool.or_self, Bool.false_eq_true, if_false]
    exact ih he

/-- The path of the names on the way to a directory and one more text leads to what stands there. -/
theorem at?_of_sought (hl : t.Linkless) {dir : Location} {x : String} (hx : t.Sought dir x) :
    t.at? (pathOf (dir ++ [x])) =
      match t.entry? (descend dir x) with
      | some e => .ok (descend dir x, e)
      | none => .error .notFound := by
  have hfind : ∃ fuel, t.find true (pathOf (dir ++ [x])) = t.resolve (fuel + 2) 0 true dir [x] := by
    simp only [find, pathOf_ne_empty, if_false, Nat.not_lt.mpr hx.path_le,
      isAbsolute_pathOf, if_true, names_pathOf_concat (h.proper_of_entry? hx.stands) hx.no_slash,
      List.length_cons, List.length_append,
      List.length_nil]
    generalize (maxLinks + 1) * (t.linkNames + 1) = fuel
    refine ⟨fuel, ?_⟩
    rw [show dir.length + (0 + 1) + 1 + fuel + 1 = (fuel + 2 + dir.length) + 1 by omega, resolve]
    simp only [entry?_nil, decide_true, Bool.true_or, if_true]
    have hway : t.entry? ([] ++ dir) = some .dir := hx.stands
    exact h.resolve_dirs hway _ _ _ _
  obtain ⟨fuel, hfind⟩ := hfind
  rw [at?, hfind]
  rcases hx.name with rfl | hname
  · simp [resolve, hx.stands, descend_empty, bind, Except.bind]
  · rw [descend_of_proper hname]
    have hsize : ¬ x.utf8ByteSize > maxNameBytes := Nat.not_lt.mpr hx.name_le
    simp only [resolve, hx.stands, hname.ne_empty, hname.ne_dot, hname.ne_dots, hsize, decide_false,
      Bool.or_self, Bool.false_eq_true, if_false]
    rcases he : t.entry? (dir ++ [x]) with _ | _ | _ | target
    · rfl
    · simp [bind, Except.bind, he]
    · simp [bind, Except.bind, he]
    · exact absurd he (hl _ _)

theorem at?_of_entry? (hl : t.Linkless) {place : Location} {e : Entry}
    (he : t.entry? place = some e) (hsize : (pathOf place).utf8ByteSize ≤ maxPathBytes) :
    t.at? (pathOf place) = .ok (place, e) := by
  rcases List.eq_nil_or_concat' place with rfl | ⟨dir, n, rfl⟩
  · have hroot : t.Sought [] "" := ⟨entry?_nil, .inl rfl, by decide, by decide⟩
    rw [show pathOf [] = pathOf ([] ++ [""]) by decide, h.at?_of_sought hl hroot, descend_empty, he]
  · have hn : Proper n := h.proper_of_entry? he n (by simp)
    have hname := h.size_le _ (mem_entries (by simp) he) n (by simp)
    rw [h.at?_of_sought hl ⟨h.dir_of_append he (by simp), .inr hn, hname, hsize⟩,
      descend_of_proper hn, he]

theorem canonical_pathOf (hl : t.Linkless) {place : Location} {e : Entry}
    (hmem : (place, e) ∈ t.entries) :
    t.canonical (pathOf place) = .ok (pathOf place) := by
  have hproper := h.proper _ hmem
  have hnull : NullFree (pathOf place) := by
    rw [← Path.nullFree_names, names_pathOf (h.parent _ hmem).1 fun n hn => (hproper n hn).no_slash,
      List.forall_mem_cons]
    exact ⟨by decide, h.nullFree _ hmem⟩
  obtain ⟨dir, n, rfl⟩ := (List.eq_nil_or_concat' place).resolve_left (h.parent _ hmem).1
  have hn := hproper n (by simp)
  have hdir : ∀ m ∈ dir, Proper m := fun m hm => hproper m (List.mem_append_left _ hm)
  exact hl.canonical_concat hdir hn.no_slash hnull hn.ne_dot hn.ne_dots

end Lawful

/-! ## Files below a directory -/

theorem mem_childNames {at_ : Location} {n : String} :
    n ∈ t.childNames at_ ↔ ∃ e, (at_ ++ [n], e) ∈ t.entries := by
  unfold childNames sortNames Value.sortTexts
  rw [List.mem_mergeSort, List.mem_filterMap]
  constructor
  · rintro ⟨⟨place, e⟩, hmem, hlast⟩
    dsimp only at hlast
    split_ifs at hlast with hchild
    rw [Bool.and_eq_true, decide_eq_true_eq, List.isPrefixOf_iff_prefix] at hchild
    obtain ⟨hlength, more, rfl⟩ := hchild
    obtain ⟨m, rfl⟩ : ∃ m, more = [m] := List.length_eq_one_iff.mp (by simpa using hlength)
    obtain rfl : m = n := by simpa using hlast
    exact ⟨e, hmem⟩
  · rintro ⟨e, hmem⟩
    exact ⟨_, hmem, by simp⟩

/-- Whether a text is the path of a location, or that path with a slash at its end. -/
def IsPathOf (top : String) (at_ : Location) : Prop := top = pathOf at_ ∨ top = pathOf (at_ ++ [""])

theorem Sought.isPathOf {dir : Location} {x : String} (hx : t.Sought dir x) :
    IsPathOf (pathOf (dir ++ [x])) (descend dir x) := by
  rcases hx.name with rfl | hname
  · rw [descend_empty]
    exact .inr rfl
  · rw [descend_of_proper hname]
    exact .inl rfl

theorem join_pathOf {top : String} {at_ : Location} (hat : ∀ n ∈ at_, Proper n)
    (htop : IsPathOf top at_) {n : String}
    (hn : '/' ∉ n.toList) : Path.join top n = pathOf (at_ ++ [n]) := by
  have hrel : Path.isAbsolute n = false := Path.isAbsolute_of_no_slash hn
  have hslash : pathOf (at_ ++ [""]) ++ n = pathOf (at_ ++ [n]) := by
    apply String.toList_injective
    rw [String.toList_append, toList_pathOf_eq (by simp), toList_pathOf_eq (by simp),
      List.flatMap_append, List.flatMap_append, List.append_assoc]
    simp
  have hends : Path.join (pathOf (at_ ++ [""])) n = pathOf (at_ ++ [n]) := by
    simp only [Path.join, hrel, endsWith_slash_concat_empty, Bool.or_true, if_true,
      Bool.false_eq_true, if_false, hslash]
  rcases htop with rfl | rfl
  · by_cases hroot : at_ = []
    · subst hroot
      exact hends
    · simp only [Path.join, hrel, pathOf_ne_empty, endsWith_slash_pathOf hroot hat, decide_false,
        Bool.or_false, Bool.false_eq_true, if_false, pathOf_concat_empty hroot, hslash]
  · exact hends

namespace Lawful

variable (h : t.Lawful)

include h

theorem proper_of_childNames {at_ : Location} {n : String} (hn : n ∈ t.childNames at_) :
    ∀ m ∈ at_ ++ [n], Proper m := by
  obtain ⟨e, hmem⟩ := mem_childNames.mp hn
  exact h.proper _ hmem

theorem exists_of_walk {fuel : Nat} {top : String} {at_ : Location} (htop : IsPathOf top at_)
    {p : String} (hp : p ∈ t.walk fuel top at_) :
    ∃ rest e, (at_ ++ rest, e) ∈ t.entries ∧ p = pathOf (at_ ++ rest) := by
  induction fuel generalizing top at_ with
  | zero => simp [walk] at hp
  | succ fuel ih =>
    have hjoin : ∀ n ∈ t.childNames at_, Path.join top n = pathOf (at_ ++ [n]) := by
      intro n hn
      have hproper := h.proper_of_childNames hn
      exact join_pathOf (fun m hm => hproper m (List.mem_append_left _ hm)) htop
        (hproper n (by simp)).no_slash
    simp only [walk, List.mem_append, List.mem_map, List.mem_flatMap, List.mem_filter] at hp
    rcases hp with ⟨n, ⟨hn, -⟩, rfl⟩ | ⟨n, ⟨hn, -⟩, hp⟩
    · obtain ⟨e, hmem⟩ := mem_childNames.mp hn
      exact ⟨[n], e, hmem, hjoin n hn⟩
    · obtain ⟨rest, e, hmem, rfl⟩ := ih (.inl (hjoin n hn)) hp
      rw [List.append_assoc] at hmem ⊢
      exact ⟨[n] ++ rest, e, hmem, rfl⟩

theorem mem_walk (hl : t.Linkless) {fuel : Nat} {top : String} {at_ rest : Location}
    (htop : IsPathOf top at_)
    {bytes : ByteArray} (he : t.entry? (at_ ++ rest) = some (.file bytes)) (hne : rest ≠ [])
    (hfuel : rest.length ≤ fuel) (hsize : (pathOf (at_ ++ rest)).utf8ByteSize ≤ maxPathBytes) :
    pathOf (at_ ++ rest) ∈ t.walk fuel top at_ := by
  induction rest generalizing fuel top at_ with
  | nil => exact absurd rfl hne
  | cons n rest ih =>
    obtain ⟨fuel, rfl⟩ := Nat.exists_eq_succ_of_ne_zero (Nat.ne_zero_of_lt hfuel)
    have hproper := h.proper_of_entry? he
    have hat : ∀ m ∈ at_, Proper m := fun m hm => hproper m (List.mem_append_left _ hm)
    have hjoin := join_pathOf hat htop (hproper n (by simp)).no_slash
    simp only [walk, List.mem_append, List.mem_map, List.mem_flatMap, List.mem_filter]
    by_cases hrest : rest = []
    · subst hrest
      have hfile : t.leadsToDir at_ n = false := by
        simp [leadsToDir, isDir, h.at?_of_entry? hl he hsize]
      exact .inl ⟨n, ⟨mem_childNames.mpr ⟨_, mem_entries (by simp) he⟩, by simp [hfile]⟩, hjoin⟩
    · rw [List.append_cons] at he hsize ⊢
      have hdir := h.dir_of_append he hrest
      have hreal : t.isRealDir at_ n = true := by simp [isRealDir, hdir]
      have hwalk := ih (.inl hjoin) he hrest (Nat.le_of_succ_le_succ hfuel) hsize
      exact .inr ⟨n, ⟨mem_childNames.mpr ⟨_, mem_entries (by simp) hdir⟩, hreal⟩, hwalk⟩

end Lawful

theorem length_le_depth {place : Location} {e : Entry} (hmem : (place, e) ∈ t.entries) :
    place.length ≤ t.depth := by
  have hlength : place.length ∈ 0 :: t.entries.map (·.1.length) :=
    List.mem_cons_of_mem _ (List.mem_map_of_mem hmem)
  exact List.le_max?_getD_of_mem (k := 0) hlength

namespace Lawful

variable (h : t.Lawful) {top : String} {at_ : Location} (htop : IsPathOf top at_)

include h htop

theorem exists_of_filesBelow (hat : t.at? top = .ok (at_, .dir)) {p : String}
    (hp : p ∈ t.filesBelow top) :
    ∃ place e, (place, e) ∈ t.entries ∧ at_ <+: place ∧ p = pathOf place := by
  simp only [filesBelow, hat] at hp
  obtain ⟨rest, e, hmem, rfl⟩ := h.exists_of_walk htop hp
  exact ⟨_, e, hmem, List.prefix_append _ _, rfl⟩

theorem mem_filesBelow (hl : t.Linkless) (hat : t.at? top = .ok (at_, .dir))
    (hdir : t.entry? at_ = some .dir)
    {place : Location} {bytes : ByteArray} (he : t.entry? place = some (.file bytes))
    (hsize : (pathOf place).utf8ByteSize ≤ maxPathBytes) :
    pathOf place ∈ t.filesBelow top ↔ at_ <+: place := by
  have hplace := mem_entries (ne_nil_of_file he) he
  constructor
  · intro hp
    obtain ⟨place', e, hmem, hstart, heq⟩ := h.exists_of_filesBelow htop hat hp
    rwa [h.eq_of_pathOf_eq hplace hmem heq]
  · rintro ⟨rest, rfl⟩
    have hrest : rest ≠ [] := by
      rintro rfl
      simp [hdir] at he
    have hfuel : rest.length ≤ t.depth + 1 := by
      have hdepth := length_le_depth hplace
      rw [List.length_append] at hdepth
      omega
    simp only [filesBelow, hat]
    exact h.mem_walk hl htop he hrest hfuel hsize

end Lawful

end SegmentIndex.FileTree
