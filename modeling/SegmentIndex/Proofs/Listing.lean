import SegmentIndex.Matching
import Mathlib.Tactic

/-!
# When the files of a spec can be looked for

Looking for the files of a spec whose pattern is sound fails for two reasons only: its base cannot
be made canonical, because it holds a null character, or its base is too long for the file system.
What is found in the tree by looking names up or walking through directories holds no null
characters, so the candidates never fail.
-/
namespace SegmentIndex

/-! ## Names without null characters -/

/-- Whether a text holds no null character. -/
def NullFree (s : String) : Prop := '\x00' ∉ s.toList

instance (s : String) : Decidable (NullFree s) := inferInstanceAs (Decidable (¬ '\x00' ∈ s.toList))

namespace Path

theorem mem_splitSlashes {c : Char} (hc : c ≠ '/') (cs : List Char) :
    (∃ n ∈ splitSlashes cs, c ∈ n) ↔ c ∈ cs := by
  induction cs with
  | nil => simp [splitSlashes]
  | cons d cs ih =>
    rw [List.mem_cons, ← ih, splitSlashes]
    cases splitSlashes cs with
    | nil => simp
    | cons n ns =>
      dsimp only
      split_ifs with hd
      · simp [hd, hc]
      · simp [or_assoc]

theorem nullFree_names {path : String} : (∀ n ∈ names path, NullFree n) ↔ NullFree path := by
  rw [← not_iff_not]
  simp only [NullFree, not_forall, not_not, names, List.mem_map]
  rw [← mem_splitSlashes (by decide)]
  constructor
  · rintro ⟨n, ⟨cs, hcs, rfl⟩, hn⟩
    exact ⟨cs, hcs, by simpa using hn⟩
  · rintro ⟨cs, hcs, hn⟩
    exact ⟨String.ofList cs, ⟨cs, hcs, rfl⟩, by simpa using hn⟩

theorem mem_intercalate {c : Char} {n : List Char} {ns : List (List Char)} (separator : List Char)
    (hn : n ∈ ns) (hc : c ∈ n) : c ∈ separator.intercalate ns := by
  induction ns with
  | nil => simp at hn
  | cons m ms ih =>
    cases ms with
    | nil => simp_all
    | cons m' ms =>
      rw [List.intercalate_cons_cons]
      rcases List.mem_cons.mp hn with rfl | hn
      · simp [hc]
      · simp [ih hn]

theorem nullFree_of_clean {path : String} (h : NullFree (clean path)) : NullFree path := by
  rw [← nullFree_names]
  intro n hn hnull
  have hplain : n ∈ plainNames path := by
    refine List.mem_filter.mpr ⟨hn, ?_⟩
    simp only [Bool.and_eq_true, decide_eq_true_eq]
    constructor <;> rintro rfl <;> simp at hnull
  have hin : '\x00' ∈ (rootOf path ++ "/".intercalate (plainNames path)).toList := by
    rw [String.toList_append, String.toList_intercalate, List.mem_append]
    exact .inr (mem_intercalate _ (List.mem_map_of_mem hplain) hnull)
  refine h ?_
  unfold clean assemble
  dsimp only
  split_ifs with he
  · simp [he] at hin
  · exact hin

theorem nullFree_join {path more : String} (hp : NullFree path) (hm : NullFree more) :
    NullFree (join path more) := by
  unfold join
  split_ifs
  · exact hm
  · simp_all [NullFree]
  · simp_all [NullFree]

end Path

namespace FileTree

variable {t : FileTree}

/-- Whether a tree is one that a file system can hold: no name and
no link target holds a null character. -/
structure Plain (t : FileTree) : Prop where
  names : ∀ e ∈ t.entries, ∀ n ∈ e.1, NullFree n
  targets : ∀ e ∈ t.entries, ∀ target, e.2 = .link target → NullFree target

namespace Plain

variable (h : t.Plain)

include h

theorem of_entry? {place : Location} {e : Entry} (he : t.entry? place = some e) :
    (∀ n ∈ place, NullFree n) ∧ ∀ target, e = .link target → ∀ n ∈ Path.names target,
      NullFree n := by
  unfold entry? at he
  split_ifs at he with hroot
  · cases he
    simp [hroot]
  · obtain ⟨before, after, hentries, -⟩ := List.lookup_eq_some_iff.mp he
    have hmem : (place, e) ∈ t.entries := by simp [hentries]
    exact ⟨h.names _ hmem, fun target ht => Path.nullFree_names.mpr (h.targets _ hmem target ht)⟩

/-! ## Paths that are looked up -/

theorem nullFree_of_resolve {fuel links : Nat} {at_ place : Location} {ns : List String}
    (hr : t.resolve fuel links true at_ ns = .ok place) : ∀ n ∈ ns, NullFree n := by
  induction fuel generalizing links at_ ns with
  | zero => simp [resolve] at hr
  | succ fuel ih =>
    cases ns with
    | nil => simp
    | cons name rest =>
      rw [List.forall_mem_cons]
      have hname : ∀ e, t.entry? (at_ ++ [name]) = some e → NullFree name :=
        fun e he => (h.of_entry? he).1 name (by simp)
      unfold resolve at hr
      split at hr
      · by_cases hdot : name = "" ∨ name = "."
        · rw [if_pos (by simpa using hdot)] at hr
          exact ⟨by rcases hdot with rfl | rfl <;> decide, ih hr⟩
        rw [if_neg (by simpa using hdot)] at hr
        by_cases hdots : name = ".."
        · rw [if_pos hdots] at hr
          exact ⟨by rw [hdots]; decide, ih hr⟩
        rw [if_neg hdots] at hr
        by_cases hlong : name.utf8ByteSize > maxNameBytes
        · simp [hlong] at hr
        rw [if_neg hlong] at hr
        split at hr
        · simp at hr
        · simp only [Bool.not_true, Bool.and_false, Bool.false_eq_true, if_false] at hr
          by_cases hlinks : links ≥ maxLinks
          · simp [hlinks] at hr
          rw [if_neg hlinks] at hr
          exact ⟨hname _ ‹_›, fun n hn => ih hr n (List.mem_append_right _ hn)⟩
        · exact ⟨hname _ ‹_›, ih hr⟩
      · simp at hr

theorem nullFree_of_at? {path : String} {x : Location × Entry} (hx : t.at? path = .ok x) :
    NullFree path := by
  unfold at? at hx
  cases hf : t.find true path with
  | error fault => simp [hf, bind, Except.bind] at hx
  | ok place =>
    unfold find at hf
    split_ifs at hf <;> exact Path.nullFree_names.mp (h.nullFree_of_resolve hf)

theorem nullFree_of_isFile {path : String} (hf : t.isFile path = true) : NullFree path := by
  unfold isFile at hf
  split at hf
  · exact h.nullFree_of_at? ‹_›
  · simp at hf

theorem nullFree_of_isDir {path : String} (hd : t.isDir path = true) : NullFree path := by
  unfold isDir at hd
  split at hd
  · exact h.nullFree_of_at? ‹_›
  · simp at hd

/-! ## Paths that are walked to -/

theorem nullFree_of_childNames {at_ : Location} {n : String} (hn : n ∈ t.childNames at_) :
    NullFree n := by
  unfold childNames sortNames Value.sortTexts at hn
  rw [List.mem_mergeSort, List.mem_filterMap] at hn
  obtain ⟨⟨place, e⟩, hmem, hlast⟩ := hn
  dsimp only at hlast
  split_ifs at hlast
  exact h.names _ hmem n (List.mem_of_getLast? hlast)

theorem nullFree_of_walk {fuel : Nat} {top : String} {at_ : Location} (htop : NullFree top) :
    ∀ p ∈ t.walk fuel top at_, NullFree p := by
  induction fuel generalizing top at_ with
  | zero => simp [walk]
  | succ fuel ih =>
    intro p hp
    simp only [walk, List.mem_append, List.mem_map, List.mem_flatMap, List.mem_filter] at hp
    rcases hp with ⟨n, ⟨hn, -⟩, rfl⟩ | ⟨n, ⟨hn, -⟩, hp⟩
    · exact Path.nullFree_join htop (h.nullFree_of_childNames hn)
    · exact ih (Path.nullFree_join htop (h.nullFree_of_childNames hn)) p hp

theorem nullFree_of_filesBelow {path : String} (hpath : NullFree path) :
    ∀ p ∈ t.filesBelow path, NullFree p := by
  unfold filesBelow
  split
  · exact h.nullFree_of_walk hpath
  · simp

theorem nullFree_of_candidates (base : String) : ∀ p ∈ Spec.candidates t base, NullFree p := by
  unfold Spec.candidates
  dsimp only
  split_ifs with hempty hfile hdir hparent
  · simp
  · simpa using Path.nullFree_of_clean (h.nullFree_of_isFile hfile)
  · exact h.nullFree_of_filesBelow (Path.nullFree_of_clean (h.nullFree_of_isDir hdir))
  · rw [Bool.and_eq_true] at hparent
    exact h.nullFree_of_filesBelow (h.nullFree_of_isDir hparent.1)
  · simp

/-! ## Canonical forms -/

theorem canonicalFrom_ok (fuel : Nat) (seen : List (Location × Option Location)) (at_ : Location)
    {ns : List String} (hns : ∀ n ∈ ns, NullFree n) :
    ∃ c, t.canonicalFrom fuel seen at_ ns = .ok c := by
  induction fuel generalizing seen at_ ns with
  | zero => exact ⟨_, rfl⟩
  | succ fuel ih =>
    cases ns with
    | nil => exact ⟨_, rfl⟩
    | cons name rest =>
      obtain ⟨hname, hrest⟩ := List.forall_mem_cons.mp hns
      have hnull : name.toList.contains '\x00' = false := by simpa [NullFree] using hname
      simp only [canonicalFrom, hnull, Bool.false_eq_true, if_false]
      split_ifs
      · exact ih _ _ hrest
      · exact ih _ _ hrest
      · split
        · rename_i target he
          split
          · exact ih _ _ hrest
          · exact ⟨_, rfl⟩
          · obtain ⟨inner, hinner⟩ := ih ((at_ ++ [name], none) :: seen)
              (if Path.isAbsolute target then [] else at_) ((h.of_entry? he).2 target rfl)
            simp only [hinner]
            split_ifs
            · exact ih _ _ hrest
            · exact ⟨_, rfl⟩
        · exact ih _ _ hrest

theorem canonical_ok {path : String} (hpath : NullFree path) : ∃ c, t.canonical path = .ok c := by
  unfold canonical
  split_ifs
  · exact ⟨_, rfl⟩
  · obtain ⟨c, hc⟩ := h.canonicalFrom_ok ((Path.names path).length + t.linkNames +
      t.entries.length + 1) [] []
      (Path.nullFree_names.mpr hpath)
    simp only [canonicalLocation, hc, Except.map]
    exact ⟨_, rfl⟩

theorem matchAll_ok (spec : Spec) (p : Pattern.Program) {paths : List String}
    (hpaths : ∀ path ∈ paths, NullFree path) : ∃ found, spec.matchAll t p paths = .ok found := by
  induction paths with
  | nil => exact ⟨[], rfl⟩
  | cons path rest ih =>
    obtain ⟨hpath, hrest⟩ := List.forall_mem_cons.mp hpaths
    obtain ⟨c, hc⟩ := h.canonical_ok hpath
    obtain ⟨found, hfound⟩ := ih hrest
    simp only [Spec.matchAll, hc, hfound]
    exact ⟨_, rfl⟩

end Plain

end FileTree

/-! ## Patterns -/

namespace PathSpec

@[simp] theorem baseOf_afterBase (tokens : List Token) : baseOf (afterBase tokens) = "" := by
  induction tokens with
  | nil => rfl
  | cons token rest ih => cases token <;> simp [afterBase, ih]

@[simp] theorem afterBase_afterBase (tokens : List Token) :
    afterBase (afterBase tokens) = afterBase tokens := by
  induction tokens with
  | nil => rfl
  | cons token rest ih => cases token <;> simp [afterBase, ih]

/-- Whether the pattern of some tokens is sound. -/
def Compiles (tokens : List Token) : Prop := ∃ p, program tokens = .ok p

theorem compiles_literal (text : String) (ts : List Token) :
    Compiles (.literal text :: ts) ↔ Compiles ts := by
  unfold Compiles program
  rw [tokenNodes]
  simp only [tokenNode]
  rcases tokenNodes {} ts with f | ⟨nodes, s⟩
  · simp
  · simp only [Except.map]
    cases s.finish <;> simp

theorem compiles_afterBase (tokens : List Token) :
    Compiles (afterBase tokens) ↔ Compiles tokens := by
  induction tokens with
  | nil => rfl
  | cons token rest ih =>
    cases token with
    | literal text => exact ih.trans (compiles_literal text rest).symm
    | glob recursive => rfl
    | capture name pattern => rfl

theorem canonicalTokens_spec {t : FileTree} {tokens : List Token} {base : String}
    (h : t.canonical (baseOf tokens) = .ok base) :
    ∃ canonical, canonicalTokens t tokens = .ok canonical ∧
      baseOf canonical = base ∧ afterBase canonical = afterBase tokens := by
  simp only [canonicalTokens, h]
  by_cases hb : base = baseOf tokens
  · exact ⟨tokens, by simp [Except.map, hb], hb.symm, rfl⟩
  · exact ⟨.literal base :: afterBase tokens, by simp [Except.map, hb], by simp, by
      simp [afterBase]⟩

end PathSpec

namespace Spec

variable {t : FileTree} {spec : Spec}

/-- Whether the base of a spec can be made canonical and is not too long for the file system. -/
def Searchable (t : FileTree) (spec : Spec) : Prop :=
  ∃ base, t.canonical (PathSpec.baseOf spec.segments) = .ok base ∧
    t.isTooLong (Path.clean base) = false

/-- The files of a spec with a sound pattern can be looked for exactly if its base can. -/
theorem matchFiles_ok_iff (h : t.Plain) (hc : PathSpec.Compiles spec.segments) :
    (∃ found, spec.matchFiles t = .ok found) ↔ spec.Searchable t := by
  constructor
  · rintro ⟨found, hfound⟩
    unfold matchFiles program at hfound
    cases hb : t.canonical (PathSpec.baseOf spec.segments) with
    | error f => simp [PathSpec.canonicalTokens, hb, Except.map] at hfound
    | ok base =>
      obtain ⟨tokens, htokens, hbase, -⟩ := PathSpec.canonicalTokens_spec hb
      refine ⟨base, hb, ?_⟩
      rw [htokens] at hfound
      cases hp : PathSpec.program tokens with
      | error f => simp [hp] at hfound
      | ok p =>
        simp only [hp, hbase] at hfound
        split_ifs at hfound with hlong
        simpa using hlong
  · rintro ⟨base, hb, hlong⟩
    obtain ⟨tokens, htokens, hbase, hafter⟩ := PathSpec.canonicalTokens_spec hb
    obtain ⟨p, hp⟩ : PathSpec.Compiles tokens := by
      rwa [← PathSpec.compiles_afterBase, hafter, PathSpec.compiles_afterBase]
    obtain ⟨found, hfound⟩ := h.matchAll_ok spec p (h.nullFree_of_candidates base)
    refine ⟨found, ?_⟩
    simp only [matchFiles, program, htokens, hp, hbase, hlong, Bool.false_eq_true, if_false, hfound]

end Spec

/-! ## Names that are too long -/

theorem Path.isAbsolute_of_no_slash {path : String} (h : '/' ∉ path.toList) :
    isAbsolute path = false := by
  unfold isAbsolute
  by_contra habs
  rw [Bool.not_eq_false, String.startsWith_string_iff] at habs
  exact h (habs.subset (by decide))

theorem Path.splitSlashes_of_no_slash {cs : List Char} (h : '/' ∉ cs) : splitSlashes cs = [cs] := by
  induction cs with
  | nil => rfl
  | cons c cs ih =>
    rw [List.mem_cons, not_or] at h
    rw [splitSlashes, ih h.2]
    simp [Ne.symm h.1]

theorem Path.names_of_no_slash {name : String} (h : '/' ∉ name.toList) : names name = [name] := by
  simp [names, splitSlashes_of_no_slash h]

theorem Path.clean_of_no_slash {name : String} (h : '/' ∉ name.toList) (hempty : name ≠ "")
    (hdot : name ≠ ".") :
    clean name = name := by
  have hroot : rootOf name = "" := by
    have hlead : leadingSlashes name = 0 := by
      unfold leadingSlashes
      cases hcs : name.toList with
      | nil => rfl
      | cons c cs =>
        rw [hcs, List.mem_cons, not_or] at h
        simp [Ne.symm h.1]
    simp [rootOf, hlead]
  have hplain : plainNames name = [name] := by simp [plainNames, names_of_no_slash h, hempty, hdot]
  simp [clean, assemble, hroot, hplain, hempty]

/-- A name with more bytes than a file system allows cannot be looked up, whatever there is. -/
theorem FileTree.isTooLong_of_name {t : FileTree} {name : String}
    (hdir : t.entry? t.workDir = some .dir)
    (hslash : '/' ∉ name.toList) (hlong : maxNameBytes < name.utf8ByteSize)
    (hpath : name.utf8ByteSize ≤ maxPathBytes) : t.isTooLong name = true := by
  have hne : ∀ s : String, s.utf8ByteSize ≤ maxNameBytes → name ≠ s := by
    rintro s hs rfl
    omega
  have habs : Path.isAbsolute name = false := Path.isAbsolute_of_no_slash hslash
  have hfind : t.find true name = .error .nameTooLong := by
    simp only [find, hne "" (by decide), if_false, Nat.not_lt.mpr hpath, habs,
      Path.names_of_no_slash hslash, Bool.false_eq_true]
    simp [resolve, hdir, hne "" (by decide), hne "." (by decide), hne ".." (by decide), hlong]
  simp [isTooLong, at?, hfind, bind, Except.bind]

end SegmentIndex
