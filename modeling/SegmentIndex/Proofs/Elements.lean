import SegmentIndex.Proofs.Options
import SegmentIndex.Proofs.Precedence
import SegmentIndex.Proofs.Transcript

/-!
# Segments of code elements

The elements that options ask for become segments, in the order of the analyzer and numbered
without gaps. Each stores the whole record of its element as JSON text, from which the record is
read back, and all of them are accepted.
-/
namespace SegmentIndex

/-! ## Which elements are kept -/

namespace ElementSelection

/-- Whether options ask for an element: for any, unless they ask for what is
public or list the kinds they ask for. -/
def Wants (options : Entries) (e : CodeElement) : Prop :=
  (Entries.get? options "visibility" = some (.str "public-only") → e.visibility = "public") ∧
    ∀ kinds ∈ (Entries.get? options "element_types").bind members?, .str e.kind ∈ kinds

instance (options : Entries) (e : CodeElement) : Decidable (Wants options e) :=
  inferInstanceAs (Decidable (_ ∧ _))

theorem eq_str_of_same {name : String} {v : Value} (h : Value.same (.str name) v = true) :
    v = .str name := by
  cases v <;> simp_all [Value.same, Value.numberParts]

theorem mem_of_kindSet {items : List Value} {kinds : List String} (h : kindSet items = .ok kinds)
    (name : String) :
    name ∈ kinds ↔ .str name ∈ items := by
  obtain ⟨hsub, hall, -⟩ := Value.mem_set items
  unfold kindSet at h
  split at h
  · cases h
  · dsimp only at h
    split at h
    · cases h
      rw [Value.sortTexts, List.mem_mergeSort, List.mem_filterMap]
      constructor
      · rintro ⟨v, hv, hname⟩
        obtain rfl : v = .str name := by cases v <;> simp_all [Value.str?]
        exact hsub _ hv
      · intro hitem
        obtain ⟨w, hw, rfl | hsame⟩ := hall _ hitem
        · exact ⟨_, hw, rfl⟩
        · exact ⟨w, hw, by rw [eq_str_of_same hsame, Value.str?]⟩
    · split at h <;> cases h

theorem of_resolve {options : Entries} {s : ElementSelection} (h : resolve options = .ok s) :
    (s.publicOnly = true ↔ Entries.get? options "visibility" = some (.str "public-only")) ∧
      match (Entries.get? options "element_types").bind members? with
      | none => s.kinds = none
      | some items => ∃ kinds, s.kinds = some kinds ∧ kindSet items = .ok kinds := by
  have hvisible : ∀ name, (Entries.get? options "visibility").getD (.str "all") = .str name →
      (name = "public-only" ↔ Entries.get? options "visibility" = some (.str "public-only")) := by
    intro name hname
    cases hv : Entries.get? options "visibility" <;> simp_all
    rintro rfl
    simp at hname
  unfold resolve at h
  dsimp only at h
  split at h
  · rename_i name hname
    split_ifs at h
    cases hk : Entries.get? options "element_types" with
    | none =>
      simp only [hk, Option.getD_none] at h
      cases h
      exact ⟨by simpa using hvisible name hname, rfl⟩
    | some v =>
      simp only [hk, Option.getD_some] at h
      split at h
      · cases h
        exact ⟨by simpa using hvisible name hname, rfl⟩
      · split at h
        · cases h
        · rename_i items hitems
          cases hset : kindSet items with
          | error f => simp [hset, Except.map] at h
          | ok kinds =>
            simp only [hset, Except.map] at h
            cases h
            exact ⟨by simpa using hvisible name hname, by simp [hitems, hset]⟩
  · cases h

theorem keeps_iff {options : Entries} {s : ElementSelection} (h : resolve options = .ok s)
    (e : CodeElement) :
    s.keeps e = true ↔ Wants options e := by
  obtain ⟨hvisible, hkinds⟩ := of_resolve h
  have hpublic : (!s.publicOnly || decide (e.visibility = "public")) = true ↔
      (Entries.get? options "visibility" = some (.str "public-only") →
      e.visibility = "public") := by
    rw [← hvisible]
    cases s.publicOnly <;> simp
  unfold keeps Wants
  rw [Bool.and_eq_true, hpublic]
  refine and_congr_right fun _ => ?_
  split at hkinds
  · rename_i hnone
    simp [hkinds, hnone]
  · rename_i items hsome
    obtain ⟨kinds, hk, hset⟩ := hkinds
    simp [hk, hsome, mem_of_kindSet hset]

end ElementSelection

/-! ## What a segment records -/

/-- What the segment of a file's element holds, if the element is the one
of a number among those that are kept. -/
structure Records (path : String) (number : ℕ) (e : CodeElement) (s : Segment) : Prop where
  fileId : s.fileId = path
  id : s.id = path ++ "#" ++ toString number
  text : (∃ doc, e.doc = some doc ∧ Text.allBlank doc = false ∧ s.text = doc) ∨
    (∀ doc, e.doc = some doc → Text.allBlank doc = true) ∧ s.text = e.qualifiedName
  record : ∃ w, Json.decode s.content = some w ∧ Value.Reorders e.toValue w

namespace CodeElement

variable {e : CodeElement}

theorem isData_toValue (h : (Value.map e.extra).isData = true) : e.toValue.isData = true := by
  cases hdoc : e.doc <;> cases hns : e.ns <;>
    simp [toValue, Value.isData, Value.entriesData, hdoc, hns] <;> simpa [Value.isData] using h

theorem embedText_cases (e : CodeElement) :
    (∃ doc, e.doc = some doc ∧ Text.allBlank doc = false ∧ e.embedText = doc) ∨
      (∀ doc, e.doc = some doc → Text.allBlank doc = true) ∧ e.embedText = e.qualifiedName := by
  unfold embedText
  cases e.doc with
  | none => exact .inr ⟨by simp, rfl⟩
  | some doc => cases hblank : Text.allBlank doc <;> simp [hblank]

theorem qualifiedName_ne_empty (h : e.name ≠ "") : e.qualifiedName ≠ "" := by
  unfold qualifiedName
  split
  · split_ifs
    · exact h
    · simp
  · exact h

theorem embedText_ne_empty (h : e.name ≠ "") : e.embedText ≠ "" := by
  rcases e.embedText_cases with ⟨doc, -, hblank, htext⟩ | ⟨-, htext⟩
  · rw [htext]
    rintro rfl
    exact absurd hblank (by decide)
  · rw [htext]
    exact qualifiedName_ne_empty h

theorem encodeAscii_toValue_ne_empty (e : CodeElement) : Json.encodeAscii e.toValue ≠ "" := by
  intro h
  have htext := congrArg String.toList h
  rw [Json.encodeAscii, String.toList_ofList] at htext
  exact List.cons_ne_nil _ _ htext

theorem fault?_segment (h : e.name ≠ "") (path : String) (source : Entries) (i : ℕ) :
    (Draft.ready (e.segment path source i)).fault? = none := by
  simp [Draft.fault?, segment, Segment.make, embedText_ne_empty h, encodeAscii_toValue_ne_empty]

theorem records_segment (h : (Value.map e.extra).isData = true) (path : String)
    (source : Entries) (i : ℕ) :
    Records path i e (e.segment path source i) where
  fileId := rfl
  id := rfl
  text := e.embedText_cases
  record := ⟨_, Json.decode_encodeAscii (isData_toValue h), Value.reorders_sorted _⟩

end CodeElement

namespace Widget

def declared : CodeElement where
  name := "Widget"
  kind := "class"
  visibility := "public"
  doc := some "A widget."
  ns := some "sample"
  language := "python"
  extra := [("line", .int 3), ("bases", .list [])]

def helper : CodeElement where
  name := "_helper"
  kind := "method"
  visibility := "protected"
  doc := none
  ns := some "sample"
  language := "python"
  extra := [("line", .int 5), ("owner", .str "Widget")]

/-- A method with a blank description and values of all kinds. -/
def render : CodeElement where
  name := "render"
  kind := "method"
  visibility := "public"
  doc := some " \n"
  ns := some "sample"
  language := "python"
  extra := [("owner", .str "Widget"),
    ("marks", .map [("é\n", .list [.null, .bool true, .int (-12)]), ("\"\x00", .str "😀\x7f\\")])]

def analyze : Analyzer := fun _ _ => .ok [declared, helper, render]

/-- Options that ask for what is public and list two kinds. -/
def options : Entries :=
  [("visibility", .str "public-only"), ("element_types", .list [.str "class", .str "method"])]

end Widget

end SegmentIndex
