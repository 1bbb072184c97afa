import SegmentIndex.Header.Code
import SegmentIndex.Proofs.Spelling

/-!
# What a form declares

A namespace form that is written with a doc string after its name declares that name and that doc
string, whatever stands in front of the form, between its parts and behind them.
-/
namespace SegmentIndex.Header

open Text (isBlank)

/-- Where the doc string of a form is: in the metadata in front of its
name, or else in the string behind it. -/
def Documents (given : Option (List Char)) (after doc : List Char) : Prop :=
  given = some doc ∨
    given = none ∧ ∃ value more, skipBlank after = '"' :: value ∧
    readString value = some (doc, more)

/-- A form is read part by part: its opening, its metadata, its name and its doc string. -/
theorem ofForm_of_parts {content : String} {rest after name doc : List Char}
    {given : Option (List Char)}
    (hopening : afterForm (content.toList.length + 1) content.toList = some rest)
    (hmeta : readMeta (rest.length + 1) none (skipBlank rest) = (given, name ++ after))
    (hname : IsName name) (hafter : EndsName after) (hdoc : Documents given after doc)
    (hfilled : isDoc doc = true) :
    ofForm content = .ok ⟨String.ofList name, String.ofList doc⟩ := by
  have hne : name.isEmpty = false := List.isEmpty_eq_false_iff.mpr hname.1
  unfold ofForm
  simp only [hopening, hmeta, hname.takeWhile hafter, hname.dropWhile hafter, hne,
    Bool.false_eq_true, if_false]
  rcases hdoc with rfl | ⟨rfl, value, more, hvalue, hread⟩
  · simp only [hfilled, if_true]
  · simp only [hvalue, hread, Option.map_some, hfilled, if_true]

def quote (s : String) : String := "\"" ++ String.ofList (escape s.toList) ++ "\""

/-- A form with a doc string after its name, and the text around it. -/
structure DocForm where
  leading : String
  space : String
  name : String
  gap : String
  doc : String
  trailing : String
  leads : Leading leading.toList
  parts : Gap space.toList
  opens : ∀ c ∈ space.toList.head?, isBlank c = true
  spaced : space ≠ ""
  named : IsName name.toList
  follows : Gap gap.toList
  documented : Text.allBlank doc = false

namespace DocForm

variable (f : DocForm)

def text : String := f.leading ++ "(ns" ++ f.space ++ f.name ++ f.gap ++ quote f.doc ++ f.trailing

def afterName : List Char :=
  f.gap.toList ++ '"' :: (escape f.doc.toList ++ '"' :: f.trailing.toList)

theorem toList_text :
    f.text.toList = f.leading.toList ++ '(' :: 'n' :: 's' ::
      (f.space.toList ++ (f.name.toList ++ f.afterName)) := by
  simp [text, quote, afterName]

theorem exists_space : ∃ c rest, f.space.toList = c :: rest ∧ isBlank c = true := by
  cases h : f.space.toList with
  | nil => exact absurd (String.toList_eq_nil_iff.mp h) f.spaced
  | cons c rest => exact ⟨c, rest, rfl, f.opens c (by rw [h]; rfl)⟩

theorem afterForm_text :
    afterForm (f.text.toList.length + 1) f.text.toList =
      some (f.space.toList ++ (f.name.toList ++ f.afterName)) := by
  obtain ⟨c, rest, hspace, hc⟩ := f.exists_space
  rw [toList_text, hspace]
  apply f.leads.afterForm_append hc
  rw [List.length_append]
  omega

/-- What follows the opening of the form has no metadata in front of the name. -/
theorem readMeta_space (fuel : Nat) :
    readMeta fuel none (skipBlank (f.space.toList ++ (f.name.toList ++ f.afterName))) =
      (none, f.name.toList ++ f.afterName) := by
  rw [f.parts.skipBlank_append, f.named.skipBlank_append]
  exact f.named.readMeta_append fuel none _

theorem endsName_afterName : EndsName f.afterName :=
  f.follows.endsName (endsName_cons (by decide) _)

theorem documents : Documents none f.afterName f.doc.toList := by
  refine .inr ⟨rfl, _, f.trailing.toList, ?_, readString_escape _ _⟩
  rw [afterName, f.follows.skipBlank_append]
  exact skipBlank_of_stop (by decide) (by decide) (by decide) _

end DocForm

/-- A form that is written with a doc string after its name is read back, in a file that is no
module: its name and its doc string, whatever the other text is. -/
theorem ofFile_docForm (t : FileTree) {path : String} (hp : isModulePath path = false)
    (f : DocForm) :
    ofFile t path f.text = .ok ⟨f.name, f.doc⟩ := by
  have hform : ofForm f.text = .ok ⟨f.name, f.doc⟩ := by
    have hdoc : isDoc f.doc.toList = true := by rw [isDoc, ← Text.allBlank, f.documented]; rfl
    have h := ofForm_of_parts f.afterForm_text (f.readMeta_space _) f.named f.endsName_afterName
      f.documents hdoc
    rw [String.ofList_toList, String.ofList_toList] at h
    exact h
  rw [ofFile, hp, hform]
  rfl

theorem isName_app : IsName "my.app".toList := ⟨by decide, List.all_eq_true.mp (by decide)⟩

/-- A form between comments that look like forms, with quotes and a line end in its doc string. -/
def busyForm : DocForm where
  leading := "\n ;(ns a \"b\")\n"
  space := " ,;\"(\n\t"
  name := "my.app"
  gap := ""
  doc := "a \"b\" \\\n;c"
  trailing := " \"d\")"
  leads :=
    .blank (by decide) (.blank (by decide)
      (@Leading.comment "(ns a \"b\")".toList [] (by decide) .nil))
  parts :=
    .blank (by decide)
      (.comma (@Gap.comment "\"(".toList ['\t'] (by decide) (.blank (by decide) .nil)))
  opens := by
    intro c hc
    obtain rfl : ' ' = c := Option.some.inj hc
    exact Text.isBlank_space
  spaced := by decide
  named := isName_app
  follows := .nil
  documented := by decide

theorem ofFile_busyForm : isModulePath "/src/app.clj" = false ∧
    ofFile ⟨[], []⟩ "/src/app.clj" busyForm.text = .ok ⟨"my.app", "a \"b\" \\\n;c"⟩ :=
  ⟨by decide, ofFile_docForm _ (by decide) busyForm⟩

end SegmentIndex.Header
