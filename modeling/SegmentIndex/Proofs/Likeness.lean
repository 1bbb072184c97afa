import SegmentIndex.Proofs.Locality
import Mathlib.Data.String.Basic

/-!
# Trees that differ in one file

Where files are, how they are called and which of them belong to a spec does not depend on what is
in them. Two trees that differ in the bytes of one file have the same paths, the same canonical
forms and the same matches, and every path that does not lead to that file leads to the same bytes
in both.
-/
namespace SegmentIndex

namespace Value

theorem textLe_iff {a b : String} : textLe a b = true ↔ a ≤ b := by
  rw [textLe, Bool.or_eq_true, decide_eq_true_eq, decide_eq_true_eq, le_iff_lt_or_eq]

theorem textLe_total (a b : String) : (textLe a b || textLe b a) = true := by
  rw [Bool.or_eq_true, textLe_iff, textLe_iff]
  exact le_total a b

theorem textLe_trans (a b c : String) (hab : textLe a b = true) (hbc : textLe b c = true) :
    textLe a c = true :=
  textLe_iff.mpr ((textLe_iff.mp hab).trans (textLe_iff.mp hbc))

theorem pairwise_sortTexts (texts : List String) : (sortTexts texts).Pairwise (· ≤ ·) :=
  (List.pairwise_mergeSort textLe_trans textLe_total texts).imp textLe_iff.mp

theorem sortTexts_perm {xs ys : List String} (h : xs.Perm ys) : sortTexts xs = sortTexts ys := by
  have hperm : (sortTexts xs).Perm (sortTexts ys) :=
    (List.mergeSort_perm ..).trans (h.trans (List.mergeSort_perm ..).symm)
  exact hperm.eq_of_pairwise (fun a b _ _ => le_antisymm) (pairwise_sortTexts xs)
    (pairwise_sortTexts ys)

end Value

variable {t t' : FileTree} {place : Location}

/-- An entry without the bytes of a file. -/
def Entry.outline : Entry → Entry
  | .file _ => .file .empty
  | e => e

/-- How many names the target of a link has. -/
def Entry.targetLength : Entry → Nat
  | .link target => (Path.names target).length
  | _ => 0

namespace FileTree

/-- The entries of a tree without the bytes of files. -/
def outlines (t : FileTree) : List (Location × Entry) := t.entries.map fun e => (e.1, e.2.outline)

/-- Whether two trees have the same files, links and directories, and
differ in the bytes of files at most. -/
structure SameShape (t t' : FileTree) : Prop where
  workDir : t.workDir = t'.workDir
  entries : t.outlines.Perm t'.outlines
  entry : ∀ place, (t.entry? place).map Entry.outline = (t'.entry? place).map Entry.outline

/-- Whether two trees differ in the bytes of the file at one place at most. -/
structure SameBut (place : Location) (t t' : FileTree) : Prop where
  workDir : t.workDir = t'.workDir
  entries : t.outlines.Perm t'.outlines
  file : ∃ bytes bytes', t.entry? place = some (.file bytes) ∧ t'.entry? place = some (.file bytes')
  others : ∀ other, other ≠ place → t.entry? other = t'.entry? other

theorem SameBut.sameShape (h : t.SameBut place t') : t.SameShape t' := by
  refine ⟨h.workDir, h.entries, fun other => ?_⟩
  by_cases hp : other = place
  · obtain ⟨bytes, bytes', hb, hb'⟩ := h.file
    rw [hp, hb, hb']
    rfl
  · rw [h.others other hp]

namespace SameShape

variable (h : t.SameShape t')

include h

/-- At every place the two trees have nothing, a directory, the same link, or a file. -/
theorem cases_entry (place : Location) :
    (t.entry? place = none ∧ t'.entry? place = none) ∨
      (t.entry? place = some .dir ∧ t'.entry? place = some .dir) ∨
      (∃ target, t.entry? place = some (.link target) ∧ t'.entry? place = some (.link target)) ∨
      ∃ bytes bytes', t.entry? place = some (.file bytes) ∧
        t'.entry? place = some (.file bytes') := by
  have he := h.entry place
  generalize t.entry? place = x at he ⊢
  generalize t'.entry? place = y at he ⊢
  rcases x with _ | _ | bytes | target <;> rcases y with _ | _ | bytes' | target' <;>
    simp_all [Entry.outline]

/-! ## Looking paths up -/

theorem linkNames_eq : t.linkNames = t'.linkNames := by
  have houtline : ∀ t : FileTree,
      t.linkNames = (t.outlines.map fun e => e.2.targetLength).foldr (· + ·) 0 := by
    intro t
    rw [linkNames, outlines, List.map_map]
    congr 1
    refine List.map_congr_left fun e _ => ?_
    obtain ⟨place, _ | bytes | target⟩ := e <;> rfl
  rw [houtline, houtline]
  exact (h.entries.map _).foldr_eq 0

theorem resolve_eq (fuel links : Nat) (follow : Bool) (at_ : Location) (ns : List String) :
    t.resolve fuel links follow at_ ns = t'.resolve fuel links follow at_ ns := by
  induction fuel generalizing links at_ ns with
  | zero => rfl
  | succ fuel ih =>
    cases ns with
    | nil => rfl
    | cons name rest =>
      simp only [resolve]
      rcases h.cases_entry at_ with ⟨ht, ht'⟩ | ⟨ht, ht'⟩ | ⟨_, ht, ht'⟩ | ⟨_, _, ht, ht'⟩ <;>
        simp only [ht, ht', ih]
      rcases h.cases_entry (at_ ++ [name]) with ⟨hn, hn'⟩ | ⟨hn, hn'⟩ | ⟨_, hn, hn'⟩
        | ⟨_, _, hn, hn'⟩ <;>
        simp only [hn, hn']

theorem find_eq (follow : Bool) (path : String) : t.find follow path = t'.find follow path := by
  simp only [find, h.linkNames_eq, h.workDir, h.resolve_eq]

theorem at?_eq (path : String) :
    (t.at? path).map (fun e => (e.1, e.2.outline)) = (t'.at? path).map fun e =>
      (e.1, e.2.outline) := by
  simp only [at?, h.find_eq]
  rcases t'.find true path with f | place
  · rfl
  · simp only [bind, Except.bind]
    rcases h.cases_entry place with ⟨ht, ht'⟩ | ⟨ht, ht'⟩ | ⟨_, ht, ht'⟩ | ⟨_, _, ht, ht'⟩ <;>
      simp [ht, ht', Except.map]
    rfl

theorem cases_at? (path : String) :
    (∃ fault, t.at? path = .error fault ∧ t'.at? path = .error fault) ∨
      ∃ place e e', t.at? path = .ok (place, e) ∧ t'.at? path = .ok (place, e') ∧
        e.outline = e'.outline := by
  have he := h.at?_eq path
  rcases ht : t.at? path with f | ⟨place, e⟩ <;> rcases ht' : t'.at? path with f' | ⟨place', e'⟩ <;>
    simp_all [Except.map]

theorem isFile_eq (path : String) : t.isFile path = t'.isFile path := by
  unfold isFile
  rcases h.cases_at? path with ⟨fault, ht, ht'⟩ | ⟨_, e, e', ht, ht', he⟩ <;> rw [ht, ht']
  cases e <;> cases e' <;> simp_all [Entry.outline]

theorem isDir_eq (path : String) : t.isDir path = t'.isDir path := by
  unfold isDir
  rcases h.cases_at? path with ⟨fault, ht, ht'⟩ | ⟨_, e, e', ht, ht', he⟩ <;> rw [ht, ht']
  cases e <;> cases e' <;> simp_all [Entry.outline]

theorem isTooLong_eq (path : String) : t.isTooLong path = t'.isTooLong path := by
  unfold isTooLong
  rcases h.cases_at? path with ⟨fault, ht, ht'⟩ | ⟨_, e, e', ht, ht', he⟩ <;> rw [ht, ht']

/-! ## Walking through directories -/

theorem childNames_eq (at_ : Location) : t.childNames at_ = t'.childNames at_ := by
  have houtline : ∀ t : FileTree, t.childNames at_ = sortNames (t.outlines.filterMap fun e =>
      if e.1.length = at_.length + 1 && at_.isPrefixOf e.1 then e.1.getLast? else none) := by
    intro t
    rw [childNames, outlines, List.filterMap_map]
    rfl
  rw [houtline, houtline]
  exact Value.sortTexts_perm (h.entries.filterMap _)

theorem isRealDir_eq (at_ : Location) (name : String) :
    t.isRealDir at_ name = t'.isRealDir at_ name := by
  unfold isRealDir
  rcases h.cases_entry (at_ ++ [name]) with ⟨ht, ht'⟩ | ⟨ht, ht'⟩ | ⟨_, ht, ht'⟩
    | ⟨_, _, ht, ht'⟩ <;> rw [ht, ht']

theorem walk_eq (fuel : Nat) (top : String) (at_ : Location) :
    t.walk fuel top at_ = t'.walk fuel top at_ := by
  induction fuel generalizing top at_ with
  | zero => rfl
  | succ fuel ih => simp only [walk, leadsToDir, h.childNames_eq, h.isDir_eq, h.isRealDir_eq, ih]

theorem depth_eq : t.depth = t'.depth := by
  have houtline : ∀ t : FileTree, t.depth = (t.outlines.map (·.1.length)).foldl max 0 := by
    intro t
    rw [depth, outlines, List.map_map]
    rfl
  rw [houtline, houtline]
  exact (h.entries.map _).foldl_eq 0

theorem filesBelow_eq (path : String) : t.filesBelow path = t'.filesBelow path := by
  unfold filesBelow
  rcases h.cases_at? path with ⟨fault, ht, ht'⟩ | ⟨_, e, e', ht, ht', he⟩ <;> rw [ht, ht']
  cases e <;> cases e' <;> simp_all [Entry.outline, h.walk_eq, h.depth_eq]

/-! ## Canonical paths and matches -/

theorem canonicalFrom_eq (fuel : Nat) (seen : List (Location × Option Location)) (at_ : Location)
    (ns : List String) : t.canonicalFrom fuel seen at_ ns = t'.canonicalFrom fuel seen at_ ns := by
  induction fuel generalizing seen at_ ns with
  | zero => rfl
  | succ fuel ih =>
    cases ns with
    | nil => rfl
    | cons name rest =>
      simp only [canonicalFrom, ih]
      rcases h.cases_entry (at_ ++ [name]) with ⟨hn, hn'⟩ | ⟨hn, hn'⟩ | ⟨_, hn, hn'⟩
        | ⟨_, _, hn, hn'⟩ <;>
        simp only [hn, hn']

theorem canonical_eq (path : String) : t.canonical path = t'.canonical path := by
  have hlength : t.entries.length = t'.entries.length := by
    simpa [outlines] using h.entries.length_eq
  simp only [canonical, canonicalLocation, h.linkNames_eq, hlength, h.canonicalFrom_eq]

theorem matchFiles_eq (spec : Spec) : spec.matchFiles t = spec.matchFiles t' := by
  have hall : ∀ p paths, spec.matchAll t p paths = spec.matchAll t' p paths := by
    intro p paths
    induction paths with
    | nil => rfl
    | cons path rest ih => simp only [Spec.matchAll, h.canonical_eq, ih]
  simp only [Spec.matchFiles, Spec.program, PathSpec.canonicalTokens, Spec.candidates,
    h.canonical_eq, h.isTooLong_eq, h.isFile_eq, h.isDir_eq, h.filesBelow_eq, hall]

theorem nameAt_eq (path : String) : t.nameAt path = t'.nameAt path := by
  have hpackages : ∀ fuel directory,
      t.packagesAround fuel directory = t'.packagesAround fuel directory := by
    intro fuel
    induction fuel with
    | zero => exact fun _ => rfl
    | succ fuel ih => exact fun directory => by simp only [packagesAround, h.isFile_eq, ih]
  simp only [nameAt, moduleName, hpackages]

end SameShape

/-! ## Bytes -/

def leadsTo (t : FileTree) (place : Location) (path : String) : Bool :=
  match t.find true (Path.clean path) with
  | .ok at_ => at_ = place
  | .error _ => false

theorem SameBut.bytesAt_eq (h : t.SameBut place t') {path : String}
    (hp : t.leadsTo place path = false) :
    t.bytesAt (Path.clean path) = t'.bytesAt (Path.clean path) := by
  have hat : t.at? (Path.clean path) = t'.at? (Path.clean path) := by
    unfold leadsTo at hp
    simp only [at?, ← h.sameShape.find_eq]
    cases hf : t.find true (Path.clean path) with
    | error fault => rfl
    | ok at_ =>
      simp only [hf, decide_eq_false_iff_not] at hp
      simp only [bind, Except.bind, h.others at_ hp]
  simp only [bytesAt, read, hat]

end FileTree

/-- A file that is not the one in which two trees differ is cut into the
same segments, with the same vectors. -/
theorem Engine.prepare_eq {ν : Type} {e : Engine ν} {spec : Spec} {m : MatchedFile}
    (h : t.SameBut place t')
    (hr : e.registry.Standard spec.strategy) (hm : t.leadsTo place m.path = false) :
    e.prepare t spec m = e.prepare t' spec m := by
  unfold prepare
  rw [segmentsOf_congr hr (h.bytesAt_eq hm) (h.sameShape.nameAt_eq m.path)]

end SegmentIndex
