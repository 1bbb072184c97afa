import SegmentIndex.Proofs.Forms
import SegmentIndex.Proofs.Lookup

/-!
# The doc string of a metadata map

A form with a metadata map declares its name, and as its doc string the value of the `:doc` entry,
wherever that entry stands, unless a string in front of it ends with the key and blanks: then it is
the key behind that string. So the strings of a map are read as strings where the map ends, and as
plain text where its doc string is looked up.
-/
namespace SegmentIndex.Header

open Text (isBlank)

/-! ## Entries -/

/-- Whether a character can stand in a key: it can stand in a name, and is neither a colon nor a
backslash. Letters are such characters. -/
def isKeyChar (c : Char) : Bool := isSymbolChar c && c ≠ ':' && c ≠ '\\'

/-- An entry of a metadata map: a key, which is written behind a colon, and a string. -/
structure MetaEntry where
  key : String
  value : String
  deriving DecidableEq, Repr

namespace MetaEntry

/-- Whether the key of an entry can be written. -/
def IsSound (e : MetaEntry) : Prop := ∀ c ∈ e.key.toList, isKeyChar c = true

def text (e : MetaEntry) : String := ":" ++ e.key ++ " " ++ quote e.value

theorem toList_text (e : MetaEntry) :
    e.text.toList = ':' :: (e.key.toList ++ ' ' :: '"' :: (escape e.value.toList ++ ['"'])) := by
  simp [text, quote]

variable {e : MetaEntry}

theorem IsSound.not_mem {c : Char} (h : e.IsSound) (hc : isKeyChar c = false) :
    c ∉ e.key.toList := by
  intro hmem
  rw [h c hmem] at hc
  exact absurd hc (by decide)

theorem IsSound.not_blank (h : e.IsSound) : ∀ c ∈ e.key.toList, (!isBlank c) = true := by
  intro c hc
  have hkey := h c hc
  rw [isKeyChar, Bool.and_eq_true, Bool.and_eq_true] at hkey
  rw [(isSymbolChar_iff.mp hkey.1.1).1]
  rfl

theorem IsSound.not_opensDoc (h : e.IsSound) (hkey : e.key ≠ "doc") (rest after : List Char) :
    ¬ OpensDoc (':' :: (e.key.toList ++ ' ' :: rest)) after := by
  rintro ⟨blanks, hne, hblank, heq⟩
  obtain ⟨b, more, rfl⟩ := List.exists_cons_of_ne_nil hne
  -- a key ends at the first blank
  have hword := congrArg (List.takeWhile (!isBlank ·)) (List.cons.inj heq).2
  have hb : (!isBlank b) = false := by rw [hblank b List.mem_cons_self]; rfl
  rw [List.takeWhile_append_of_pos h.not_blank, List.takeWhile_cons] at hword
  have hdoc : ['d', 'o', 'c'] = e.key.toList := by
    simpa [hb, Text.isBlank_space, List.takeWhile_cons, (by decide : isBlank 'd' = false),
      (by decide : isBlank 'o' = false), (by decide : isBlank 'c' = false)] using hword.symm
  exact hkey (String.toList_inj.mp hdoc.symm)

theorem afterDocKey_of_doc (hkey : e.key = "doc") (rest : List Char) :
    afterDocKey (e.text.toList ++ rest) = some (escape e.value.toList ++ '"' :: rest) := by
  apply OpensDoc.afterDocKey
  refine ⟨[' '], List.cons_ne_nil _ _, List.forall_mem_singleton.mpr Text.isBlank_space, ?_⟩
  rw [toList_text, hkey]
  simp [docKey]

/-- The search passes any other entry, unless its string ends with the key and blanks. -/
theorem IsSound.afterDocKey_cases (h : e.IsSound) (hkey : e.key ≠ "doc") (rest : List Char) :
    (EndsInKey e.value.toList ∧ afterDocKey (e.text.toList ++ rest) = some rest) ∨
      (¬ EndsInKey e.value.toList ∧ afterDocKey (e.text.toList ++ rest) = afterDocKey rest) := by
  have hpass : afterDocKey (e.text.toList ++ rest) =
      afterDocKey (escape e.value.toList ++ '"' :: rest) := by
    have hskip : ':' ∉ e.key.toList ++ [' ', '"'] := by
      rw [List.mem_append, not_or]
      exact ⟨h.not_mem (by decide), by decide⟩
    have htext : e.text.toList ++ rest =
        ':' :: ((e.key.toList ++ [' ', '"']) ++ (escape e.value.toList ++ '"' :: rest)) := by
      simp [toList_text]
    rw [htext, afterDocKey_of_not_opensDoc, afterDocKey_append hskip]
    intro after
    rw [List.append_assoc]
    exact h.not_opensDoc hkey _ after
  rw [hpass]
  exact afterDocKey_escape e.value.toList rest

end MetaEntry

/-- Entries as they are written, with spaces between them. -/
def entriesText (entries : List MetaEntry) : String := " ".intercalate (entries.map MetaEntry.text)

theorem toList_entriesText_singleton (e : MetaEntry) :
    (entriesText [e]).toList = e.text.toList := by
  simp [entriesText]

theorem toList_entriesText_cons (e next : MetaEntry) (rest : List MetaEntry) :
    (entriesText (e :: next :: rest)).toList = e.text.toList ++
      ' ' :: (entriesText (next :: rest)).toList := by
  simp [entriesText]

theorem MetaEntry.IsSound.flat {e : MetaEntry} (h : e.IsSound) : Flat e.text.toList := by
  have hkey : Flat e.key.toList := by
    apply flat_of_plain
    intro c hc
    refine h.not_mem ?_
    simp only [List.mem_cons, List.not_mem_nil, or_false] at hc
    rcases hc with rfl | rfl | rfl <;> decide
  rw [toList_text]
  exact .plain (by decide) (hkey.append (.plain (by decide) (.string _ .nil)))

theorem flat_entriesText {entries : List MetaEntry} (h : ∀ e ∈ entries, e.IsSound) :
    Flat (entriesText entries).toList := by
  induction entries with
  | nil => exact .nil
  | cons e rest ih =>
    obtain ⟨he, hrest⟩ := List.forall_mem_cons.mp h
    cases rest with
    | nil =>
      rw [toList_entriesText_singleton]
      exact he.flat
    | cons next rest =>
      rw [toList_entriesText_cons]
      exact he.flat.append (.plain (by decide) (ih hrest))

/-! ## The doc string of a map -/

/-- Which doc string is found among entries: the one of its entry, or what stands between a string
that ends with the key and blanks and the next string. -/
inductive Found : List MetaEntry → String → Prop
  | entry {e : MetaEntry} {rest : List MetaEntry} (hkey : e.key = "doc") : Found (e :: rest) e.value
  | misread {e next : MetaEntry} {rest : List MetaEntry} (hkey : e.key ≠ "doc")
      (hends : EndsInKey e.value.toList) :
      Found (e :: next :: rest) (" :" ++ next.key ++ " ")
  | later {e next : MetaEntry} {rest : List MetaEntry} {doc : String} (hkey : e.key ≠ "doc")
      (hends : ¬ EndsInKey e.value.toList) (h : Found (next :: rest) doc) :
      Found (e :: next :: rest) doc

theorem mem_rest_of_ne {e : MetaEntry} {rest : List MetaEntry} {doc : String} (hkey : e.key ≠ "doc")
    (h : ⟨"doc", doc⟩ ∈ e :: rest) : ⟨"doc", doc⟩ ∈ rest := by
  rcases List.mem_cons.mp h with he | h
  · exact absurd (congrArg MetaEntry.key he).symm hkey
  · exact h

theorem exists_found {entries : List MetaEntry} {doc : String} (h : ⟨"doc", doc⟩ ∈ entries) :
    ∃ d, Found entries d := by
  induction entries with
  | nil => exact absurd h List.not_mem_nil
  | cons e rest ih =>
    by_cases hkey : e.key = "doc"
    · exact ⟨_, .entry hkey⟩
    · have hrest := mem_rest_of_ne hkey h
      obtain ⟨next, more, rfl⟩ := List.exists_cons_of_ne_nil (List.ne_nil_of_mem hrest)
      by_cases hends : EndsInKey e.value.toList
      · exact ⟨_, .misread hkey hends⟩
      · obtain ⟨d, hd⟩ := ih hrest
        exact ⟨d, .later hkey hends hd⟩

theorem exists_tail (e : MetaEntry) (rest : List MetaEntry) :
    ∃ tail, (entriesText (e :: rest)).toList = e.text.toList ++ tail := by
  cases rest with
  | nil => exact ⟨[], by rw [toList_entriesText_singleton, List.append_nil]⟩
  | cons next rest => exact ⟨_, toList_entriesText_cons e next rest⟩

theorem MetaEntry.IsSound.readString_key {e : MetaEntry} (h : e.IsSound) (rest : List Char) :
    ∃ more, readString (' ' :: (e.text.toList ++ rest)) =
      some ((" :" ++ e.key ++ " ").toList, more) := by
  have hplain : ∀ c ∈ (" :" ++ e.key ++ " ").toList, ¬ IsMark c := by
    intro c hc hmark
    have hnot : isKeyChar c = false := by rcases hmark with rfl | rfl <;> decide
    have hcases : c = ' ' ∨ c = ':' ∨ c ∈ e.key.toList := by simpa [or_comm, or_left_comm] using hc
    rcases hcases with rfl | rfl | hkey
    · exact absurd hmark (by decide)
    · exact absurd hmark (by decide)
    · exact h.not_mem hnot hkey
  refine ⟨escape e.value.toList ++ '"' :: rest, ?_⟩
  have htext : ' ' :: (e.text.toList ++ rest) =
      (" :" ++ e.key ++ " ").toList ++ '"' :: (escape e.value.toList ++ '"' :: rest) := by
    simp [toList_text]
  rw [htext, ← escape_eq_self hplain, readString_escape, escape_eq_self hplain]

theorem Found.read {entries : List MetaEntry} {doc : String} (h : Found entries doc)
    (hs : ∀ e ∈ entries, e.IsSound) (rest : List Char) : ∃ value more,
      afterDocKey ((entriesText entries).toList ++ rest) = some value ∧
        readString value = some (doc.toList, more) := by
  induction h with
  | @entry e others hkey =>
    obtain ⟨tail, htail⟩ := exists_tail e others
    rw [htail, List.append_assoc, MetaEntry.afterDocKey_of_doc hkey]
    exact ⟨_, _, rfl, readString_escape _ _⟩
  | @misread e next others hkey hends =>
    obtain ⟨he, hnext, -⟩ := List.forall_mem_cons.mp hs |>.imp_right List.forall_mem_cons.mp
    obtain ⟨tail, htail⟩ := exists_tail next others
    obtain ⟨more, hmore⟩ := hnext.readString_key (tail ++ rest)
    rw [toList_entriesText_cons, List.append_assoc, htail, List.cons_append, List.append_assoc]
    rcases he.afterDocKey_cases hkey (' ' :: (next.text.toList ++ (tail ++ rest))) with ⟨-, hfound⟩
      | ⟨hnot, -⟩
    · exact ⟨_, more, hfound, hmore⟩
    · exact absurd hends hnot
  | @later e next others doc hkey hends _ ih =>
    obtain ⟨he, hothers⟩ := List.forall_mem_cons.mp hs
    rw [toList_entriesText_cons, List.append_assoc, List.cons_append]
    rcases he.afterDocKey_cases hkey (' ' :: ((entriesText (next :: others)).toList ++ rest)) with
      ⟨hyes, -⟩ | ⟨-, hpass⟩
    · exact absurd hyes hends
    · rw [hpass]
      obtain ⟨value, more, hfound, hread⟩ := ih hothers
      exact ⟨value, more, (@afterDocKey_append [' '] (by decide) _).trans hfound, hread⟩

/-- Whether another doc string is found than the one of its entry: the first string
that ends with the key and blanks stands in front of that entry, and the key that
follows is, between blanks, another text. -/
def Misled (entries : List MetaEntry) (doc : String) : Prop :=
  ∃ before e next after, entries = before ++ e :: next :: after ∧
    (∀ x ∈ before, ¬ EndsInKey x.value.toList) ∧
    EndsInKey e.value.toList ∧ ⟨"doc", doc⟩ ∈ next :: after ∧ doc ≠ " :" ++ next.key ++ " "

theorem not_misled_of_doc {e : MetaEntry} {rest : List MetaEntry} {doc : String}
    (hkey : e.key = "doc")
    (hdistinct : ((e :: rest).map (·.key)).Nodup) : ¬ Misled (e :: rest) doc := by
  rintro ⟨before, d, next, after, hentries, -, -, hdoc, -⟩
  have hlater : ⟨"doc", doc⟩ ∈ rest := by
    cases before with
    | nil => exact (List.cons.inj hentries).2 ▸ hdoc
    | cons x before =>
      rw [(List.cons.inj hentries).2]
      exact List.mem_append_right _ (List.mem_cons_of_mem _ hdoc)
  rw [List.map_cons, List.nodup_cons, hkey] at hdistinct
  exact hdistinct.1 (List.mem_map_of_mem hlater)

theorem misled_cons_iff {e : MetaEntry} {rest : List MetaEntry} {doc : String}
    (hends : ¬ EndsInKey e.value.toList) :
    Misled (e :: rest) doc ↔ Misled rest doc := by
  constructor
  · rintro ⟨before, d, next, after, hentries, hbefore, hd, hdoc, hne⟩
    cases before with
    | nil => exact absurd ((List.cons.inj hentries).1 ▸ hd) hends
    | cons x before =>
      exact ⟨before, d, next, after, (List.cons.inj hentries).2,
        (List.forall_mem_cons.mp hbefore).2, hd, hdoc, hne⟩
  · rintro ⟨before, d, next, after, rfl, hbefore, hd, hdoc, hne⟩
    exact ⟨e :: before, d, next, after, rfl, List.forall_mem_cons.mpr ⟨hends, hbefore⟩, hd,
      hdoc, hne⟩

/-- The doc string that is found is the one of its entry unless the search is misled. -/
theorem Found.eq_iff {entries : List MetaEntry} {d doc : String} (h : Found entries d)
    (hdistinct : (entries.map (·.key)).Nodup) (hdoc : ⟨"doc", doc⟩ ∈ entries) :
    d = doc ↔ ¬ Misled entries doc := by
  induction h with
  | @entry e rest hkey =>
    have hvalue : e.value = doc := by
      rcases List.mem_cons.mp hdoc with rfl | hrest
      · rfl
      · rw [List.map_cons, List.nodup_cons, hkey] at hdistinct
        exact absurd (List.mem_map_of_mem hrest) hdistinct.1
    exact iff_of_true hvalue (not_misled_of_doc hkey hdistinct)
  | @misread e next rest hkey hends =>
    constructor
    · rintro rfl ⟨before, x, y, after, hentries, hbefore, -, -, hne⟩
      cases before with
      | nil =>
        obtain ⟨rfl, hrest⟩ := List.cons.inj hentries
        exact hne (by rw [(List.cons.inj hrest).1])
      | cons z before =>
        rw [(List.cons.inj hentries).1] at hends
        exact hbefore z List.mem_cons_self hends
    · intro hnot
      by_contra hne
      exact hnot ⟨[], e, next, rest, rfl, by simp, hends, mem_rest_of_ne hkey hdoc, Ne.symm hne⟩
  | @later e next rest d hkey hends _ ih =>
    rw [misled_cons_iff hends]
    exact ih (List.nodup_cons.mp hdistinct).2 (mem_rest_of_ne hkey hdoc)

/-! ## Forms with metadata -/

/-- A form with a metadata map in front of its name. -/
structure MapForm where
  entries : List MetaEntry
  name : String
  sound : ∀ e ∈ entries, e.IsSound
  distinct : (entries.map (·.key)).Nodup
  named : IsName name.toList

namespace MapForm

variable (f : MapForm)

def text : String := "(ns ^\x7b" ++ entriesText f.entries ++ "\x7d " ++ f.name ++ ")"

/-- The map of the form, after its opening brace, and what follows it. -/
def body : List Char := (entriesText f.entries).toList ++ '\x7d' :: ' ' :: (f.name.toList ++ [')'])

theorem toList_text : f.text.toList = [] ++ '(' :: 'n' :: 's' :: ' ' :: '^' :: '\x7b' ::
    f.body := by
  simp [text, body]

theorem afterForm_text :
    afterForm (f.text.toList.length + 1) f.text.toList = some (' ' :: '^' :: '\x7b' :: f.body) := by
  rw [toList_text]
  exact Leading.nil.afterForm_append Text.isBlank_space _ (Nat.succ_pos _)

theorem splitMap_body : splitMap (f.body.length + 2) 0 ('\x7b' :: f.body) =
    ('\x7b' :: ((entriesText f.entries).toList ++ ['\x7d']), ' ' :: (f.name.toList ++ [')'])) := by
  have hlength : f.body.length + 1 = (entriesText f.entries).toList.length +
      (f.name.toList.length + 3) + 1 := by
    simp only [body, List.length_append, List.length_cons, List.length_nil]
  rw [splitMap, if_neg (by decide), if_pos rfl, hlength, body,
    (flat_entriesText f.sound).splitMap_append]

/-- The metadata of the form give the doc string that is found among its entries. -/
theorem readMeta_text {doc : String} (h : Found f.entries doc) (fuel : Nat) :
    readMeta (fuel + 1) none (skipBlank (' ' :: '^' :: '\x7b' :: f.body)) =
      (some doc.toList, f.name.toList ++ [')']) := by
  have hspace : Gap [' '] := .blank Text.isBlank_space .nil
  have hopen : skipBlank (' ' :: '^' :: '\x7b' :: f.body) = '^' :: '\x7b' :: f.body :=
    (hspace.skipBlank_append _).trans (skipBlank_of_stop (by decide) (by decide) (by decide) _)
  have hname : skipBlank (' ' :: (f.name.toList ++ [')'])) = f.name.toList ++ [')'] :=
    (hspace.skipBlank_append _).trans (f.named.skipBlank_append _)
  obtain ⟨value, more, hfound, hread⟩ := h.read f.sound ['\x7d']
  have hkey : afterDocKey ('\x7b' :: ((entriesText f.entries).toList ++ ['\x7d'])) = some value :=
    (@afterDocKey_append ['\x7b'] (by decide) _).trans hfound
  rw [hopen, readMeta, splitMap_body]
  simp only [hkey, hread, Option.map_some, hname]
  exact f.named.readMeta_append fuel _ _

theorem ofForm_text {doc : String} (h : Found f.entries doc) (hdoc : Text.allBlank doc = false) :
    ofForm f.text = .ok ⟨f.name, doc⟩ := by
  have hfilled : isDoc doc.toList = true := by rw [isDoc, ← Text.allBlank, hdoc]; rfl
  have hform := ofForm_of_parts f.afterForm_text (f.readMeta_text h _) f.named
    (endsName_cons (by decide) [])
    (.inl rfl) hfilled
  rw [String.ofList_toList, String.ofList_toList] at hform
  exact hform

end MapForm

theorem Found.allBlank_eq_false {entries : List MetaEntry} {d : String} (h : Found entries d)
    (hfilled : ∀ e ∈ entries, e.key = "doc" → Text.allBlank e.value = false) :
    Text.allBlank d = false := by
  induction h with
  | entry hkey => exact hfilled _ List.mem_cons_self hkey
  | misread => simp [Text.allBlank, (by decide : isBlank ':' = false)]
  | later _ _ _ ih => exact ih fun e he => hfilled e (List.mem_cons_of_mem _ he)

/-- A form with a metadata map declares its name, in a file that is no module, and its doc string is
the one of the entry of that key unless the search for the key is misled. -/
theorem ofFile_mapForm_iff (t : FileTree) {path doc : String} (hp : isModulePath path = false)
    (f : MapForm) (hdoc : ⟨"doc", doc⟩ ∈ f.entries) (hfilled : Text.allBlank doc = false) :
    (∃ d, ofFile t path f.text = .ok ⟨f.name, d⟩) ∧
      (ofFile t path f.text = .ok ⟨f.name, doc⟩ ↔ ¬ Misled f.entries doc) := by
  obtain ⟨d, hd⟩ := exists_found hdoc
  have hblank : Text.allBlank d = false := by
    apply hd.allBlank_eq_false
    intro e he hkey
    rw [List.inj_on_of_nodup_map f.distinct he hdoc hkey]
    exact hfilled
  have hfile : ofFile t path f.text = .ok ⟨f.name, d⟩ := by
    rw [ofFile, hp, f.ofForm_text hd hblank]
    rfl
  refine ⟨⟨d, hfile⟩, ?_⟩
  rw [hfile, ← hd.eq_iff f.distinct hdoc]
  simp

/-- A form whose first string has the key, quotes and braces in it. -/
def citingForm : MapForm where
  entries := [⟨"author", "x\x7d :doc \"y\" \\"⟩, ⟨"doc", "Core \x7b."⟩]
  name := "my.app"
  sound := by
    simp only [List.forall_mem_cons, List.not_mem_nil, false_implies, implies_true, and_true]
    exact ⟨List.all_eq_true.mp (by decide), List.all_eq_true.mp (by decide)⟩
  distinct := by decide
  named := isName_app

theorem not_misled_citingForm : ¬ Misled citingForm.entries "Core \x7b." := by
  rintro ⟨before, e, next, after, hentries, -, hends, -, -⟩
  obtain ⟨b, hlast, hb⟩ := hends.exists_last
  match before, hentries with
  | [], hentries =>
    obtain ⟨rfl, -⟩ := List.cons.inj hentries
    obtain rfl : '\\' = b := Option.some.inj hlast
    exact absurd hb (by decide)
  | [_], hentries => exact absurd (congrArg List.length hentries) (by simp [citingForm])
  | _ :: _ :: _, hentries => exact absurd (congrArg List.length hentries) (by simp [citingForm])

theorem ofFile_citingForm : isModulePath "/src/app.clj" = false ∧
    ⟨"doc", "Core \x7b."⟩ ∈ citingForm.entries ∧ Text.allBlank "Core \x7b." = false ∧
    ofFile ⟨[], []⟩ "/src/app.clj" citingForm.text = .ok ⟨"my.app", "Core \x7b."⟩ :=
  ⟨by decide, by decide, by decide,
    (ofFile_mapForm_iff _ (by decide) citingForm (by decide) (by decide)).2.mpr
    not_misled_citingForm⟩

/-- A form whose first string ends with the key and a blank. -/
def misledForm : MapForm where
  entries := [⟨"author", "see :doc "⟩, ⟨"doc", "Core"⟩]
  name := "my.app"
  sound := by
    simp only [List.forall_mem_cons, List.not_mem_nil, false_implies, implies_true, and_true]
    exact ⟨List.all_eq_true.mp (by decide), List.all_eq_true.mp (by decide)⟩
  distinct := by decide
  named := isName_app

/-- The doc string of its entry is not found: what is found is the key itself. -/
theorem ofFile_misledForm : ⟨"doc", "Core"⟩ ∈ misledForm.entries ∧ Text.allBlank "Core" = false ∧
    ofFile ⟨[], []⟩ "/src/app.clj" misledForm.text = .ok ⟨"my.app", " :doc "⟩ := by
  have hends : EndsInKey "see :doc ".toList := by
    have hkey : IsSpacedKey ":doc ".toList :=
      ⟨[' '], List.cons_ne_nil _ _, List.forall_mem_singleton.mpr Text.isBlank_space, rfl⟩
    exact ⟨":doc ".toList, hkey, by decide⟩
  refine ⟨by decide, by decide, ?_⟩
  rw [ofFile, if_neg (by decide), misledForm.ofForm_text (.misread (by decide) hends) (by decide)]
  rfl

end SegmentIndex.Header
