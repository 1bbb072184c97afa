import SegmentIndex.Value.Json
import Mathlib

/-!
# JSON text of data and back

Data is a value without floats in which no map has a key twice. Its JSON text is read back as the
same data, with the entries of every map sorted by their keys. The proof follows the text: each
reader takes exactly what was written for its part, in front of any text that can follow.
-/
namespace SegmentIndex

namespace Value

mutual

/-- Whether a value holds no float and no map with a key twice. -/
def isData : Value → Bool
  | .float _ => false
  | .list items => areData items
  | .map entries => decide (entries.map (·.1)).Nodup && entriesData entries
  | _ => true

def areData : List Value → Bool
  | [] => true
  | v :: rest => isData v && areData rest

def entriesData : List (String × Value) → Bool
  | [] => true
  | (_, v) :: rest => isData v && entriesData rest

end

mutual

/-- A value with the entries of every map sorted by their keys. -/
def sorted : Value → Value
  | .list items => .list (sortedItems items)
  | .map entries => .map (sortedEntries entries)
  | v => v

/-- The items of a list, each sorted. -/
def sortedItems : List Value → List Value
  | [] => []
  | v :: rest => sorted v :: sortedItems rest

/-- The entries of a map by their keys, with each value sorted. -/
def sortedEntries : List (String × Value) → List (String × Value)
  | [] => []
  | (k, v) :: rest => Json.insertByKey (k, sorted v) (sortedEntries rest)

end

/-- Whether a value is made from another one by putting entries of
maps, at any depth, in another order. -/
inductive Reorders : Value → Value → Prop
  | refl (v : Value) : Reorders v v
  | trans {u v w : Value} : Reorders u v → Reorders v w → Reorders u w
  | item {before after : List Value} {v w : Value} :
    Reorders v w → Reorders (.list (before ++ v :: after)) (.list (before ++ w :: after))
  | entry {before after : List (String × Value)} {key : String} {v w : Value} :
    Reorders v w → Reorders (.map (before ++ (key, v) :: after))
    (.map (before ++ (key, w) :: after))
  | order {entries entries' : List (String × Value)} :
    entries.Perm entries' → Reorders (.map entries) (.map entries')

end Value

namespace Json

/-! ## Sorting by key -/

theorem perm_insertByKey {α : Type} (e : String × α) (es : List (String × α)) :
    (insertByKey e es).Perm (e :: es) := by
  induction es with
  | nil => exact .refl _
  | cons f rest ih =>
    rw [insertByKey]
    split_ifs
    · exact .refl _
    · exact (ih.cons f).trans (.swap e f rest)

theorem forall₂_insertByKey {α β : Type} {R : α → β → Prop} {a : String × α} {b : String × β}
    {as : List (String × α)} {bs : List (String × β)} (hab : a.1 = b.1 ∧ R a.2 b.2)
    (h : List.Forall₂ (fun a b => a.1 = b.1 ∧ R a.2 b.2) as bs) :
    List.Forall₂ (fun a b => a.1 = b.1 ∧ R a.2 b.2) (insertByKey a as) (insertByKey b bs) := by
  induction h with
  | nil => exact .cons hab .nil
  | cons hcd hrest ih =>
    rw [insertByKey, insertByKey, hab.1, hcd.1]
    split_ifs
    · exact .cons hab (.cons hcd hrest)
    · exact .cons hcd ih

end Json

namespace Value

theorem perm_sortedEntries (entries : List (String × Value)) :
    (sortedEntries entries).Perm (entries.map fun e => (e.1, e.2.sorted)) := by
  induction entries with
  | nil => exact .refl _
  | cons e rest ih => exact (Json.perm_insertByKey _ _).trans (ih.cons _)

mutual

theorem reorders_sorted : (v : Value) → Reorders v v.sorted
  | .null | .bool _ | .int _ | .float _ | .str _ => .refl _
  | .list items => reorders_items [] items
  | .map entries => (reorders_entries [] entries).trans (.order (perm_sortedEntries entries).symm)

theorem reorders_items : (before items : List Value) →
    Reorders (.list (before ++ items)) (.list (before ++ sortedItems items))
  | _, [] => .refl _
  | before, v :: rest => by
    have hrest := reorders_items (before ++ [v.sorted]) rest
    rw [List.append_assoc, List.append_assoc] at hrest
    exact .trans (.item (reorders_sorted v)) hrest

theorem reorders_entries : (before entries : List (String × Value)) →
    Reorders (.map (before ++ entries)) (.map (before ++ entries.map fun e => (e.1, e.2.sorted)))
  | _, [] => .refl _
  | before, (k, v) :: rest => by
    have hrest := reorders_entries (before ++ [(k, v.sorted)]) rest
    rw [List.append_assoc, List.append_assoc] at hrest
    exact .trans (.entry (reorders_sorted v)) hrest

end

end Value

namespace Json

/-! ## Four hexadecimal digits -/

theorem hexValue?_digitChar : ∀ d < 16, hexValue? (Nat.digitChar d) = some d := by decide

theorem hexDigits_one {n : Nat} (h : n < 16) : Text.hexDigits 1 n = [Nat.digitChar n] := by
  simp [Text.hexDigits, Nat.toDigits_of_lt_base h]

theorem hexDigits_succ {width : Nat} (hw : 0 < width) (n : Nat) :
    Text.hexDigits (width + 1) n = Text.hexDigits width (n / 16) ++ [Nat.digitChar (n % 16)] := by
  unfold Text.hexDigits
  rcases Nat.lt_or_ge n 16 with h | h
  · have hzero : n / 16 = 0 := Nat.div_eq_of_lt h
    obtain ⟨width, rfl⟩ := Nat.exists_eq_succ_of_ne_zero hw.ne'
    simp [Nat.toDigits_of_lt_base h, hzero, Nat.mod_eq_of_lt h, List.replicate_succ']
  · simp [Nat.toDigits_of_base_le (by decide) h]

theorem readUnit_hexDigits {n : Nat} (h : n < 65536) (rest : List Char) :
    readUnit (Text.hexDigits 4 n ++ rest) = some (n, rest) := by
  have hdigits : Text.hexDigits 4 n =
    [Nat.digitChar (n / 16 / 16 / 16), Nat.digitChar (n / 16 / 16 % 16),
      Nat.digitChar (n / 16 % 16), Nat.digitChar (n % 16)] := by
    rw [hexDigits_succ (by decide), hexDigits_succ (by decide), hexDigits_succ (by decide),
      hexDigits_one (by omega)]
    rfl
  rw [hdigits]
  simp only [List.cons_append, List.nil_append, readUnit,
    hexValue?_digitChar _ (show n / 16 / 16 / 16 < 16 by omega),
    hexValue?_digitChar _ (Nat.mod_lt _ (show 16 > 0 by decide)), Option.bind_eq_bind,
      Option.bind_some,
    Option.pure_def]
  congr 2
  omega

/-! ## Strings -/

theorem toNat_bounds (c : Char) : c.toNat < 0xd800 ∨ 0xdfff < c.toNat ∧ c.toNat < 0x110000 :=
  c.valid

theorem readPair_small (c : Char) (rest : List Char) : readPair c.toNat rest = (c, rest) := by
  have hc := toNat_bounds c
  unfold readPair
  rw [if_neg (by simp; omega), if_neg (by simp; omega), Char.ofNat_toNat]

theorem readPair_units {high low : Nat} (hhigh : 0xd800 ≤ high ∧ high < 0xdc00)
    (hlow : 0xdc00 ≤ low ∧ low < 0xe000) (rest : List Char) : readPair high (unit low ++ rest) =
      (Char.ofNat (0x10000 + (high - 0xd800) * 0x400 + (low - 0xdc00)), rest) := by
  unfold readPair
  rw [if_pos (by simpa using hhigh)]
  simp only [unit, List.cons_append, List.nil_append]
  rw [readUnit_hexDigits (by omega)]
  dsimp only
  rw [if_pos (by simpa using hlow)]

theorem readPair_large {c : Char} (h : 0x10000 ≤ c.toNat) (rest : List Char) :
    readPair (0xd800 + (c.toNat - 0x10000) / 0x400) (unit (0xdc00 + (c.toNat - 0x10000) % 0x400) ++
      rest) =
      (c, rest) := by
  have hc := toNat_bounds c
  rw [readPair_units (by omega) (by omega)]
  have hcode : 0x10000 + (0xd800 + (c.toNat - 0x10000) / 0x400 - 0xd800) * 0x400 +
      (0xdc00 + (c.toNat - 0x10000) % 0x400 - 0xdc00) = c.toNat := by omega
  rw [hcode, Char.ofNat_toNat]

variable {fuel : Nat} {acc rest : List Char}

theorem readString_unit {n : Nat} (h : n < 65536) :
    readString (fuel + 1) acc (unit n ++ rest) =
      readString fuel ((readPair n rest).1 :: acc) (readPair n rest).2 := by
  rw [readString.eq_def]
  simp only [unit, List.cons_append, List.nil_append, readUnit_hexDigits h]

theorem readString_escapedUnits (c : Char) :
    readString (fuel + 1) acc (escapedUnits c ++ rest) = readString fuel (c :: acc) rest := by
  have hc := toNat_bounds c
  unfold escapedUnits
  dsimp only
  split_ifs with hsmall
  · rw [readString_unit hsmall, readPair_small]
  · rw [List.append_assoc, readString_unit (by omega), readPair_large (by omega)]

/-- A character is escaped by a letter or by its code units, or stands for itself. -/
theorem escaped_cases (c : Char) :
    (∃ e, shortEscape? e = some c ∧ escaped true c = ['\\', e]) ∨ escaped true c = escapedUnits c ∨
      escaped true c = [c] ∧ c ≠ '"' ∧ c ≠ '\\' ∧ ¬ c.toNat < 0x20 := by
  unfold escaped
  by_cases hquote : c = '"'
  · exact .inl ⟨'"', by rw [hquote]; rfl, if_pos hquote⟩
  rw [if_neg hquote]
  by_cases hslash : c = '\\'
  · exact .inl ⟨'\\', by rw [hslash]; rfl, if_pos hslash⟩
  rw [if_neg hslash]
  by_cases hnewline : c = '\n'
  · exact .inl ⟨'n', by rw [hnewline]; rfl, if_pos hnewline⟩
  rw [if_neg hnewline]
  by_cases hreturn : c = '\r'
  · exact .inl ⟨'r', by rw [hreturn]; rfl, if_pos hreturn⟩
  rw [if_neg hreturn]
  by_cases htab : c = '\t'
  · exact .inl ⟨'t', by rw [htab]; rfl, if_pos htab⟩
  rw [if_neg htab]
  by_cases hback : c = '\x08'
  · exact .inl ⟨'b', by rw [hback]; rfl, if_pos hback⟩
  rw [if_neg hback]
  by_cases hform : c = '\x0c'
  · exact .inl ⟨'f', by rw [hform]; rfl, if_pos hform⟩
  rw [if_neg hform]
  split_ifs with hcontrol hascii
  · exact .inr (.inl (by simp [escapedUnits, show c.toNat < 0x10000 by omega]))
  · exact .inr (.inl rfl)
  · exact .inr (.inr ⟨rfl, hquote, hslash, hcontrol⟩)

theorem readString_escaped (c : Char) :
    readString (fuel + 1) acc (escaped true c ++ rest) = readString fuel (c :: acc) rest := by
  rcases escaped_cases c with ⟨e, he, htext⟩ | htext | ⟨htext, hquote, hslash, hcontrol⟩
  · have hu : e ≠ 'u' := by
      rintro rfl
      cases he
    rw [htext, readString.eq_def]
    simp only [List.cons_append, List.nil_append]
    split <;> simp_all
  · rw [htext]
    exact readString_escapedUnits c
  · rw [htext, readString.eq_def]
    simp only [List.cons_append, List.nil_append]
    split <;> simp_all

theorem readString_encoded (cs : List Char) (hfuel : cs.length < fuel) :
    readString fuel acc (cs.flatMap (escaped true) ++ '"' :: rest) =
      some (String.ofList (acc.reverse ++ cs), rest) := by
  induction cs generalizing fuel acc with
  | nil =>
    obtain ⟨fuel, rfl⟩ := Nat.exists_eq_succ_of_ne_zero (Nat.ne_zero_of_lt hfuel)
    simp [readString]
  | cons c cs ih =>
    obtain ⟨fuel, rfl⟩ := Nat.exists_eq_succ_of_ne_zero (Nat.ne_zero_of_lt hfuel)
    rw [List.flatMap_cons, List.append_assoc, readString_escaped, ih (by simpa using hfuel)]
    simp

/-! ## Numbers -/

/-- Whether a value can stand directly before a text. -/
def Ends (rest : List Char) : Prop := ∀ c ∈ rest.head?, c ∈ [',', ']', '\x7d']

theorem Ends.of_head {c : Char} (hc : c ∈ [',', ']', '\x7d']) (cs : List Char) :
    Ends (c :: cs) := by
  simpa [Ends] using hc

theorem Ends.not_number {c : Char} (h : Ends rest) (hc : c ∈ rest.head?) :
    c.isDigit = false ∧ c ≠ '.' ∧ c ≠ 'e' ∧ c ≠ 'E' := by
  have hmem := h c hc
  simp only [List.mem_cons, List.not_mem_nil, or_false] at hmem
  rcases hmem with rfl | rfl | rfl <;> decide

theorem span_digits {ds : List Char} (hds : ∀ c ∈ ds, c.isDigit = true) (h : Ends rest) :
    (ds ++ rest).span Char.isDigit = (ds, rest) := by
  rw [List.span_eq_takeWhile_dropWhile, List.takeWhile_append_of_pos hds,
    List.dropWhile_append_of_pos hds]
  cases rest with
  | nil => simp
  | cons c rest => simp [(h.not_number (c := c) rfl).1]

theorem Ends.readFraction (h : Ends rest) : readFraction rest = ([], rest) := by
  unfold Json.readFraction
  split
  · exact absurd rfl (h.not_number rfl).2.1
  · rfl

theorem Ends.readExponent (h : Ends rest) : readExponent rest = none := by
  cases rest with
  | nil => rfl
  | cons c rest =>
    obtain ⟨-, -, he, hE⟩ := h.not_number (c := c) rfl
    simp [Json.readExponent, he, hE]

theorem head_toDigits {n : Nat} (h : 0 < n) : (Nat.toDigits 10 n).head? ≠ some '0' := by
  induction n using Nat.strong_induction_on with
  | _ n ih =>
    rcases Nat.lt_or_ge n 10 with hn | hn
    · rw [Nat.toDigits_of_lt_base hn]
      interval_cases n <;> decide
    · rw [Nat.toDigits_of_base_le (by decide) hn, List.head?_append_of_ne_nil _ Nat.toDigits_ne_nil]
      exact ih (n / 10) (by omega) (by omega)

theorem isDigit_toDigits {n : Nat} : ∀ c ∈ Nat.toDigits 10 n, c.isDigit = true :=
  fun _ hc => Nat.isDigit_of_mem_toDigits (by decide) (by decide) hc

theorem digitsValue_toDigits (n : Nat) : digitsValue (Nat.toDigits 10 n) = n := by
  rw [digitsValue, ← Nat.toList_repr, String.ofList_toList, Nat.toNat?_repr]
  rfl

/-- A sign and digits in front of what ends a value are read as a whole number. -/
theorem readNumber_of_sign {cs : List Char} {negative : Bool} {n : Nat} (h : Ends rest)
    (hsign : readSign cs = (negative, Nat.toDigits 10 n ++ rest)) :
    readNumber cs = some (.int (if negative then -n else n), rest) := by
  have hplain : ((Nat.toDigits 10 n).isEmpty ||
      decide ((Nat.toDigits 10 n).length > 1) && decide ((Nat.toDigits 10 n).head? = some '0')) =
      false := by
    rw [List.isEmpty_eq_false_iff.mpr Nat.toDigits_ne_nil, Bool.false_or]
    rcases Nat.eq_zero_or_pos n with rfl | hn
    · rfl
    · simp [head_toDigits hn]
  simp only [readNumber, hsign, span_digits isDigit_toDigits h, hplain, h.readFraction,
    h.readExponent, digitsValue_toDigits]
  simp

theorem toList_toString_int (n : ℤ) :
    ∃ (negative : Bool) (m : ℕ), (if negative then -(m : ℤ) else m) = n ∧
    (toString n).toList = (if negative then ['-'] else []) ++ Nat.toDigits 10 m := by
  cases n with
  | ofNat n => exact ⟨false, n, by simp, by simp [toString, Nat.toList_repr, Int.repr]⟩
  | negSucc n =>
    exact ⟨true, n + 1, by simp [Int.negSucc_eq], by simp [toString, Nat.toList_repr, Int.repr]⟩

theorem readWord_digits {ds : List Char} (hne : ds ≠ []) (hds : ∀ c ∈ ds, c.isDigit = true)
    (negative : Bool) :
    readWord ((if negative then ['-'] else []) ++ (ds ++ rest)) = none := by
  obtain ⟨d, ds, rfl⟩ := List.exists_cons_of_ne_nil hne
  have hd := hds d (by simp)
  have hfirst : ∀ c, c.isDigit = false → (c == d) = false := fun c hc => by
    simpa using fun h : c = d => by simp [← h, hc] at hd
  cases negative <;> simp [readWord, words, List.find?, List.isPrefixOf, hfirst]

theorem readSign_digits {ds : List Char} (hne : ds ≠ []) (hds : ∀ c ∈ ds, c.isDigit = true)
    (negative : Bool) :
    readSign ((if negative then ['-'] else []) ++ (ds ++ rest)) = (negative, ds ++ rest) := by
  cases negative with
  | true => rfl
  | false =>
    obtain ⟨d, ds, rfl⟩ := List.exists_cons_of_ne_nil hne
    have hd := hds d (by simp)
    simp only [Bool.false_eq_true, if_false, List.nil_append, List.cons_append]
    unfold readSign
    split
    · simp_all
    · rfl

/-! ## Values -/

/-- Whether a text is read as a value, in front of anything that can follow one. -/
structure Denotes (t : List Char) (w : Value) : Prop where
  starts : ∃ c cs, t = c :: cs ∧ isSpace c = false ∧ c ≠ ']'
  read : ∀ {fuel rest}, t.length < fuel → Ends rest → readValue fuel (t ++ rest) = some (w, rest)

theorem readValue_space (fuel : ℕ) (cs : List Char) :
    readValue fuel (' ' :: cs) = readValue fuel cs := by
  cases fuel with
  | zero => rfl
  | succ fuel => rfl

theorem skip_of_not_space {c : Char} {cs : List Char} (h : isSpace c = false) :
    skip (c :: cs) = c :: cs := by
  simp [skip, h]

/-- Whether a character begins neither space nor a string, a list, a map or the end of a list. -/
def Bare (c : Char) : Prop := isSpace c = false ∧ c ≠ '"' ∧ c ≠ '[' ∧ c ≠ ']' ∧ c ≠ '\x7b'

theorem bare_of_isDigit {c : Char} (h : c.isDigit = true) : Bare c := by
  have hne : ∀ d : Char, d.isDigit = false → c ≠ d := fun d hd hcd => by simp [hcd, hd] at h
  simp [Bare, isSpace, hne]

theorem readValue_bare {c : Char} {cs : List Char} (h : Bare c) :
    readValue (fuel + 1) (c :: cs) = (readWord (c :: cs)).or (readNumber (c :: cs)) := by
  obtain ⟨hspace, hquote, hlist, -, hmap⟩ := h
  rw [readValue.eq_def]
  simp only [skip_of_not_space hspace]
  split <;> simp_all
  split <;> simp_all

theorem Denotes.of_bare {c : Char} {cs : List Char} {w : Value} (hc : Bare c)
    (hread : ∀ {rest}, Ends rest →
      (readWord (c :: cs ++ rest)).or (readNumber (c :: cs ++ rest)) = some (w, rest)) :
      Denotes (c :: cs) w where
  starts := ⟨c, cs, rfl, hc.1, hc.2.2.2.1⟩
  read {fuel rest} hfuel hends := by
    obtain ⟨fuel, rfl⟩ := Nat.exists_eq_succ_of_ne_zero (Nat.ne_zero_of_lt hfuel)
    exact (readValue_bare hc).trans (hread hends)

theorem denotes_word {c : Char} {cs : List Char} {w : Value}
    (h : (c :: cs, w) ∈ [(['n', 'u', 'l', 'l'], .null), (['t', 'r', 'u', 'e'], .bool true),
      (['f', 'a', 'l', 's', 'e'], Value.bool false)]) : Denotes (c :: cs) w := by
  simp only [List.mem_cons, List.not_mem_nil, or_false, Prod.mk.injEq, List.cons.injEq] at h
  obtain ⟨⟨rfl, rfl⟩, rfl⟩ | ⟨⟨rfl, rfl⟩, rfl⟩ | ⟨⟨rfl, rfl⟩, rfl⟩ := h <;>
    exact .of_bare (by simp [Bare, isSpace]) fun _ => rfl

theorem denotes_int (n : ℤ) : Denotes (toString n).toList (.int n) := by
  obtain ⟨negative, m, hn, htext⟩ := toList_toString_int n
  have hread : ∀ {rest}, Ends rest →
      (readWord ((toString n).toList ++ rest)).or (readNumber ((toString n).toList ++ rest)) =
        some (.int n, rest) := by
    intro rest hends
    rw [htext, List.append_assoc, readWord_digits Nat.toDigits_ne_nil isDigit_toDigits,
      Option.none_or, readNumber_of_sign hends
      (readSign_digits Nat.toDigits_ne_nil isDigit_toDigits negative), hn]
  obtain ⟨d, ds, hds⟩ := List.exists_cons_of_ne_nil (Nat.toDigits_ne_nil (b := 10) (n := m))
  have hd : Bare d := bare_of_isDigit (isDigit_toDigits (n := m) d (by simp [hds]))
  rw [htext, hds] at hread ⊢
  cases negative with
  | true => exact .of_bare (by simp [Bare, isSpace]) hread
  | false => exact .of_bare hd hread

theorem escapedUnits_ne_nil (c : Char) : escapedUnits c ≠ [] := by
  unfold escapedUnits
  dsimp only
  split_ifs <;> exact List.cons_ne_nil _ _

theorem escaped_ne_nil (c : Char) : escaped true c ≠ [] := by
  rcases escaped_cases c with ⟨e, -, htext⟩ | htext | ⟨htext, -⟩
  · rw [htext]
    exact List.cons_ne_nil _ _
  · rw [htext]
    exact escapedUnits_ne_nil c
  · rw [htext]
    exact List.cons_ne_nil _ _

theorem length_le_flatMap_escaped (cs : List Char) :
    cs.length ≤ (cs.flatMap (escaped true)).length := by
  induction cs with
  | nil => simp
  | cons c cs ih =>
    have hc := List.length_pos_of_ne_nil (escaped_ne_nil c)
    rw [List.flatMap_cons, List.length_append, List.length_cons]
    omega

theorem readString_encodeString {s : String} (h : (encodeString true s).length ≤ fuel)
    (rest : List Char) :
    ∃ cs, encodeString true s ++ rest = '"' :: cs ∧ readString fuel [] cs = some (s, rest) := by
  have hlength := length_le_flatMap_escaped s.toList
  simp only [encodeString, List.length_cons, List.length_append, List.length_nil] at h
  refine ⟨s.toList.flatMap (escaped true) ++ '"' :: rest, by simp [encodeString], ?_⟩
  exact (readString_encoded _ (by omega)).trans (by simp)

theorem denotes_string (s : String) : Denotes (encodeString true s) (.str s) where
  starts := ⟨'"', _, rfl, rfl, by decide⟩
  read {fuel rest} hfuel _ := by
    obtain ⟨fuel, rfl⟩ := Nat.exists_eq_succ_of_ne_zero (Nat.ne_zero_of_lt hfuel)
    obtain ⟨cs, hcs, hread⟩ := readString_encodeString (Nat.lt_succ_iff.mp hfuel) rest
    rw [hcs, readValue.eq_def]
    simp only [skip_of_not_space (show isSpace '"' = false from rfl), hread, Option.map_some]

/-! ## Lists and maps -/

theorem readItems_space (fuel : ℕ) (cs : List Char) :
    readItems fuel (' ' :: cs) = readItems fuel cs := by
  cases fuel with
  | zero => rfl
  | succ fuel => simp only [readItems, readValue_space]

theorem readEntries_space (fuel : ℕ) (acc : Entries) (cs : List Char) :
    readEntries fuel acc (' ' :: cs) = readEntries fuel acc cs := by
  cases fuel with
  | zero => rfl
  | succ fuel => rfl

theorem readItems_joined {ts : List (List Char)} {ws : List Value} (h : List.Forall₂ Denotes ts ws)
    (hne : ts ≠ []) (hfuel : (joined ts).length + 1 < fuel) (rest : List Char) :
    readItems fuel (joined ts ++ ']' :: rest) = some (ws, rest) := by
  induction h generalizing fuel with
  | nil => exact absurd rfl hne
  | @cons t w ts ws ht hts ih =>
    obtain ⟨fuel, rfl⟩ := Nat.exists_eq_succ_of_ne_zero (Nat.ne_zero_of_lt hfuel)
    rw [readItems.eq_def]
    cases hts with
    | nil =>
      rw [joined] at hfuel ⊢
      have hread := ht.read (show t.length < fuel by omega) (.of_head (show ']' ∈ _ by decide) rest)
      simp only [hread, skip_of_not_space (show isSpace ']' = false from rfl)]
    | @cons t' w' ts ws ht' hts =>
      simp only [joined, List.length_append, List.length_cons] at hfuel
      have hread := ht.read (show t.length < fuel by omega)
        (.of_head (show ',' ∈ _ by decide) (' ' :: (joined (t' :: ts) ++ ']' :: rest)))
      have hrest := ih (by simp) (show (joined (t' :: ts)).length + 1 < fuel by omega)
      simp only [joined, List.append_assoc, List.cons_append, hread,
        skip_of_not_space (show isSpace ',' = false from rfl), readItems_space, hrest,
        Option.map_some]

theorem put_of_notMem {k : String} {v : Value} {es : Entries} (h : k ∉ es.map (·.1)) :
    Entries.put k v es = es ++ [(k, v)] := by
  induction es with
  | nil => rfl
  | cons e rest ih =>
    rw [List.map_cons, List.mem_cons, not_or] at h
    rw [Entries.put, if_neg (Ne.symm h.1), ih h.2, List.cons_append]

theorem readEntries_entryText {k : String} {t : List Char} {w : Value} (ht : Denotes t w)
    (hfuel : (entryText true (k, t)).length ≤ fuel) (acc : Entries) (rest : List Char) :
    readEntries (fuel + 1) acc (entryText true (k, t) ++ ',' :: rest) =
        readEntries fuel (Entries.put k w acc) rest ∧
      readEntries (fuel + 1) acc (entryText true (k, t) ++ '\x7d' :: rest) =
        some (Entries.put k w acc, rest) := by
  simp only [entryText, List.length_append, List.length_cons] at hfuel
  have hcomma := ht.read (show t.length < fuel by omega) (.of_head (show ',' ∈ _ by decide) rest)
  have hclose := ht.read (show t.length < fuel by omega) (.of_head (show '\x7d' ∈ _ by decide) rest)
  constructor
  all_goals
    simp only [entryText, List.append_assoc, List.cons_append]
    obtain ⟨cs, hcs, hread⟩ := readString_encodeString (show (encodeString true k).length ≤
      fuel by omega) _
    rw [hcs, readEntries.eq_def]
    simp only [skip_of_not_space (show isSpace '"' = false from rfl), hread,
      skip_of_not_space (show isSpace ':' = false from rfl), readValue_space, hcomma, hclose,
      skip_of_not_space (show isSpace ',' = false from rfl),
        skip_of_not_space (show isSpace '\x7d' = false from rfl)]

theorem readEntries_joined (acc : Entries) {es : List (String × List Char)} {ws : Entries}
    (h : List.Forall₂ (fun e w => e.1 = w.1 ∧ Denotes e.2 w.2) es ws) (hne : es ≠ [])
    (hnodup : ((acc ++ ws).map (·.1)).Nodup)
    (hfuel : (joined (es.map (entryText true))).length + 1 < fuel) (rest : List Char) :
    readEntries fuel acc (joined (es.map (entryText true)) ++ '\x7d' :: rest) =
      some (acc ++ ws, rest) := by
  induction h generalizing fuel acc with
  | nil => exact absurd rfl hne
  | @cons e w es ws he hes ih =>
    obtain ⟨k, t⟩ := e
    obtain ⟨k', w⟩ := w
    obtain ⟨rfl, ht⟩ : k = k' ∧ Denotes t w := he
    obtain ⟨fuel, rfl⟩ := Nat.exists_eq_succ_of_ne_zero (Nat.ne_zero_of_lt hfuel)
    have hput : Entries.put k w acc = acc ++ [(k, w)] := by
      refine put_of_notMem fun hk => ?_
      rw [List.map_append, List.nodup_append] at hnodup
      exact hnodup.2.2 k hk k (by simp) rfl
    cases hes with
    | nil =>
      simp only [List.map_cons, List.map_nil, joined] at hfuel ⊢
      rw [(readEntries_entryText ht (by omega) acc rest).2, hput]
    | @cons e' w' es ws he' hes =>
      simp only [List.map_cons, joined, List.length_append, List.length_cons] at hfuel
      have hlength : (joined ((e' :: es).map (entryText true))).length + 1 < fuel := by
        rw [List.map_cons]
        omega
      have hrest := ih (acc ++ [(k, w)]) (by simp) (by simpa using hnodup) hlength
      simp only [List.map_cons, joined, List.append_assoc, List.cons_append] at hrest ⊢
      rw [(readEntries_entryText ht (by omega) acc _).1, readEntries_space, hput, hrest,
        List.nil_append]

theorem Denotes.list {ts : List (List Char)} {ws : List Value} (h : List.Forall₂ Denotes ts ws) :
    Denotes ('[' :: (joined ts ++ [']'])) (.list ws) where
  starts := ⟨'[', _, rfl, rfl, by decide⟩
  read {fuel rest} hfuel _ := by
    simp only [List.length_cons, List.length_append, List.length_nil] at hfuel
    obtain ⟨fuel, rfl⟩ := Nat.exists_eq_succ_of_ne_zero (Nat.ne_zero_of_lt hfuel)
    rw [readValue.eq_def]
    cases h with
    | nil => simp [joined, skip, isSpace]
    | @cons t w ts ws ht hts =>
      have hread := readItems_joined (.cons ht hts) (by simp) (show _ < fuel by omega) rest
      obtain ⟨c, cs, hcs, hspace, hc⟩ := ht.starts
      obtain ⟨more, hmore⟩ : ∃ more, joined (t :: ts) = c :: more := by
        cases ts <;> simp [joined, hcs]
      rw [hmore] at hread ⊢
      simp only [List.cons_append, List.append_assoc, List.nil_append] at hread ⊢
      simp only [skip_of_not_space (show isSpace '[' = false from rfl), skip_of_not_space hspace]
      split
      · rename_i heq
        exact absurd (List.cons.inj heq).1 hc
      · rw [hread]
        rfl

theorem Denotes.map {es : List (String × List Char)} {ws : Entries}
    (h : List.Forall₂ (fun e w => e.1 = w.1 ∧ Denotes e.2 w.2) es ws)
    (hnodup : (ws.map (·.1)).Nodup) :
    Denotes ('\x7b' :: (joined (es.map (entryText true)) ++ ['\x7d'])) (.map ws) where
  starts := ⟨'\x7b', _, rfl, rfl, by decide⟩
  read {fuel rest} hfuel _ := by
    simp only [List.length_cons, List.length_append, List.length_nil] at hfuel
    obtain ⟨fuel, rfl⟩ := Nat.exists_eq_succ_of_ne_zero (Nat.ne_zero_of_lt hfuel)
    rw [readValue.eq_def]
    cases h with
    | nil => simp [joined, skip, isSpace]
    | @cons e w es ws he hes =>
      have hread := readEntries_joined [] (.cons he hes) (by simp) hnodup (show _ < fuel by
        omega) rest
      obtain ⟨more, hmore⟩ : ∃ more, joined ((e :: es).map (entryText true)) = '"' :: more := by
        cases es <;> simp [joined, entryText, encodeString]
      rw [hmore] at hread ⊢
      simp only [List.cons_append, List.append_assoc, List.nil_append] at hread ⊢
      simp only [skip_of_not_space (show isSpace '\x7b' = false from rfl),
        skip_of_not_space (show isSpace '"' = false from rfl)]
      split
      · simp_all
      · rw [hread]
        rfl

mutual

theorem denotes_encode : (v : Value) → v.isData = true → Denotes (encode true v) v.sorted
  | .null, _ => (denotes_word (by simp) : Denotes ['n', 'u', 'l', 'l'] .null)
  | .bool true, _ => (denotes_word (by simp) : Denotes ['t', 'r', 'u', 'e'] (.bool true))
  | .bool false, _ => (denotes_word (by simp) : Denotes ['f', 'a', 'l', 's', 'e'] (.bool false))
  | .int n, _ => denotes_int n
  | .str s, _ => denotes_string s
  | .list items, h => .list (denotes_encodeItems items h)
  | .map entries, h => by
    simp only [Value.isData, Bool.and_eq_true, decide_eq_true_eq] at h
    refine .map (denotes_encodeEntries entries h.2) ?_
    have hperm := (Value.perm_sortedEntries entries).map (·.1)
    rw [List.map_map] at hperm
    exact hperm.nodup_iff.mpr h.1

theorem denotes_encodeItems : (items : List Value) → Value.areData items = true →
    List.Forall₂ Denotes (encodeItems true items) (Value.sortedItems items)
  | [], _ => .nil
  | v :: rest, h => by
    simp only [Value.areData, Bool.and_eq_true] at h
    exact .cons (denotes_encode v h.1) (denotes_encodeItems rest h.2)

theorem denotes_encodeEntries :
    (entries : List (String × Value)) → Value.entriesData entries = true →
    List.Forall₂ (fun e w => e.1 = w.1 ∧ Denotes e.2 w.2) (encodeEntries true entries)
      (Value.sortedEntries entries)
  | [], _ => .nil
  | (k, v) :: rest, h => by
    simp only [Value.entriesData, Bool.and_eq_true] at h
    exact forall₂_insertByKey ⟨rfl, denotes_encode v h.1⟩ (denotes_encodeEntries rest h.2)

end

theorem decode_encodeAscii {v : Value} (h : v.isData = true) :
    decode (encodeAscii v) = some v.sorted := by
  have hfuel : (encode true v).length < 2 * (encodeAscii v).length + 2 := by
    rw [encodeAscii, String.length_ofList]
    omega
  have hread := (denotes_encode v h).read hfuel (show Ends [] by simp [Ends])
  rw [decode, encodeAscii, String.toList_ofList]
  rw [encodeAscii, List.append_nil] at hread
  rw [hread]
  rfl

end Json

end SegmentIndex
