import SegmentIndex.Proofs.Filters
import SegmentIndex.Proofs.Histories
import SegmentIndex.Proofs.Likeness
import SegmentIndex.Proofs.Sameness

/-!
# Choices that are complete

The schema of the filters lists every field that was recorded. Of equal values of a field only the
one that came first is remembered, and equal values can have different plain forms, as `True`, `1`
and `1.0` have. So the choices for a field are the plain forms of the values that came before all
that equal them, and they are complete exactly if every plain form is one of these. Which of them
are missing depends on the order of the calls. None are missing, in any order, if the numbers and
truth values of each field are of one kind other than doubles.
-/
namespace SegmentIndex

namespace Table

variable {α : Type} {t : Table α}

theorem keys_alter (key : String) (f : Option α → α) (t : Table α) :
    (alter key f t).map (·.1) = if key ∈ t.map (·.1) then t.map (·.1) else t.map (·.1) ++
      [key] := by
  induction t with
  | nil => rfl
  | cons x rest ih =>
    obtain ⟨k, a⟩ := x
    unfold alter
    by_cases hk : k = key
    · simp [hk]
    · rw [if_neg hk, List.map_cons, ih]
      by_cases hmem : key ∈ rest.map (·.1)
      · simp [hmem]
      · simp [hmem, Ne.symm hk]

theorem nodup_alter (h : (t.map (·.1)).Nodup) (key : String) (f : Option α → α) :
    ((alter key f t).map (·.1)).Nodup := by
  rw [keys_alter]
  split_ifs with hmem
  · exact h
  · exact List.nodup_append.mpr ⟨h, List.nodup_singleton _, by
      simpa using fun a ha => ne_of_mem_of_not_mem ha hmem⟩

theorem mem_keys_alter {key k : String} {f : Option α → α} :
    k ∈ (alter key f t).map (·.1) ↔ k ∈ t.map (·.1) ∨ k = key := by
  rw [keys_alter]
  split_ifs with hmem
  · refine (or_iff_left_of_imp ?_).symm
    rintro rfl
    exact hmem
  · rw [List.mem_append, List.mem_singleton]

/-- Under distinct keys, what a table holds at a key is the value of its entry. -/
theorem get?_eq_some_iff (h : (t.map (·.1)).Nodup) {key : String} {a : α} :
    get? key t = some a ↔ (key, a) ∈ t := by
  induction t with
  | nil => simp
  | cons x rest ih =>
    obtain ⟨k, b⟩ := x
    rw [List.map_cons, List.nodup_cons] at h
    rw [get?_cons, List.mem_cons, Prod.mk.injEq]
    split_ifs with hk
    · have hnone : (key, a) ∉ rest := fun hmem => h.1 (hk ▸ List.mem_map.mpr ⟨_, hmem, rfl⟩)
      rw [or_iff_left hnone, Option.some.injEq, and_iff_right hk, eq_comm]
    · rw [ih h.2, or_iff_right (mt And.left hk)]

end Table

/-! ## Values that are remembered -/

namespace Value

theorem mem_addTo {set : List Value} {v w : Value} :
    w ∈ addTo set v ↔ w ∈ set ∨ w = v ∧ ∀ u ∈ set, same v u = false := by
  unfold addTo
  by_cases hknown : set.any (same v) = true
  · obtain ⟨u, hu, hsame⟩ := List.any_eq_true.mp hknown
    rw [if_pos hknown]
    refine (or_iff_left ?_).symm
    rintro ⟨-, hnone⟩
    exact Bool.false_ne_true ((hnone u hu).symm.trans hsame)
  · rw [if_neg hknown, List.mem_append, List.mem_singleton]
    have hnone : ∀ u ∈ set, same v u = false := by simpa using hknown
    rw [and_iff_left hnone]

end Value

namespace Stats

def remembered (entries : Entries) : Table (List Value) := entries.foldl remember []

/-- The values under a name in a table. -/
def had (values : Table (List Value)) (name : String) : List Value :=
  (Table.get? name values).getD []

/-- Whether a value was recorded for a field before all values that equal it. -/
def Leads (entries : Entries) (name : String) (v : Value) : Prop :=
  ∃ before, before ++ [(name, v)] <+: entries ∧
    ∀ w, (name, w) ∈ before → Value.same (indexed v) (indexed w) = false

variable {entries : Entries} {entry : String × Value} {name : String} {v w : Value}

theorem remembered_concat (entries : Entries) (entry : String × Value) :
    remembered (entries ++ [entry]) = remember (remembered entries) entry := by
  simp [remembered]

theorem nodup_keys_remembered (entries : Entries) : ((remembered entries).map (·.1)).Nodup := by
  induction entries using List.reverseRecOn with
  | nil => exact List.nodup_nil
  | append_singleton entries entry ih =>
    rw [remembered_concat]
    exact Table.nodup_alter ih _ _

theorem mem_keys_remembered : name ∈ (remembered entries).map (·.1) ↔ ∃ v, (name, v) ∈ entries := by
  induction entries using List.reverseRecOn with
  | nil => simp [remembered]
  | append_singleton entries entry ih =>
    rw [remembered_concat, remember, Table.mem_keys_alter, ih]
    simp only [List.mem_append, List.mem_singleton, exists_or]
    refine or_congr_right ⟨?_, ?_⟩
    · rintro rfl
      exact ⟨entry.2, rfl⟩
    · rintro ⟨v, rfl⟩
      rfl

theorem had_remembered_concat (entries : Entries) (entry : String × Value) (name : String) :
    had (remembered (entries ++ [entry])) name =
      if name = entry.1 then Value.addTo (had (remembered entries) name) (indexed entry.2)
      else had (remembered entries) name := by
  rw [remembered_concat, had, remember, Table.get?_alter]
  split_ifs with hname
  · rw [hname]
    rfl
  · rfl

theorem leads_concat : Leads (entries ++ [entry]) name v ↔
    Leads entries name v ∨
      entry = (name, v) ∧ ∀ w, (name, w) ∈ entries →
        Value.same (indexed v) (indexed w) = false := by
  constructor
  · rintro ⟨before, hbefore, hfirst⟩
    rcases List.prefix_concat_iff.mp hbefore with heq | hprefix
    · obtain ⟨rfl, hlast⟩ := List.append_inj' heq rfl
      exact .inr ⟨(List.singleton_inj.mp hlast).symm, hfirst⟩
    · exact .inl ⟨before, hprefix, hfirst⟩
  · rintro (⟨before, hbefore, hfirst⟩ | ⟨rfl, hfirst⟩)
    · exact ⟨before, hbefore.trans (List.prefix_append ..), hfirst⟩
    · exact ⟨entries, List.prefix_rfl, hfirst⟩

theorem Leads.mem (h : Leads entries name v) : (name, v) ∈ entries := by
  obtain ⟨before, hbefore, -⟩ := h
  exact hbefore.subset (by simp)

theorem hashable_indexed (v : Value) : (indexed v).hashable = true := by
  unfold indexed
  split_ifs with h
  · exact h
  · rfl

theorem number_of_indexed (h : (indexed v).isNumber = true) :
    v.isNumber = true ∧ (indexed v).kindName = v.kindName := by
  unfold indexed at h ⊢
  split_ifs at h ⊢
  · exact ⟨h, rfl⟩
  · cases h

/-- Every value that was recorded is remembered itself or by one that it equals. -/
theorem exists_had (h : (name, v) ∈ entries) :
    ∃ w ∈ had (remembered entries) name, w = indexed v ∨ Value.same (indexed v) w = true := by
  induction entries using List.reverseRecOn with
  | nil => cases h
  | append_singleton entries entry ih =>
    rw [had_remembered_concat]
    rcases List.mem_append.mp h with h | h
    · obtain ⟨w, hw, hsame⟩ := ih h
      refine ⟨w, ?_, hsame⟩
      split_ifs
      · exact Value.mem_addTo.mpr (.inl hw)
      · exact hw
    · obtain rfl := List.mem_singleton.mp h
      rw [if_pos rfl]
      by_cases hknown : ∃ w ∈ had (remembered entries) name, Value.same (indexed v) w = true
      · obtain ⟨w, hw, hsame⟩ := hknown
        exact ⟨w, Value.mem_addTo.mpr (.inl hw), .inr hsame⟩
      · have hnone : ∀ w ∈ had (remembered entries) name, Value.same (indexed v) w = false := by
          simpa using hknown
        exact ⟨indexed v, Value.mem_addTo.mpr (.inr ⟨rfl, hnone⟩), .inl rfl⟩

theorem mem_had_iff {values : Table (List Value)} (h : (values.map (·.1)).Nodup) :
    v ∈ had values name ↔ ∃ vs, (name, vs) ∈ values ∧ v ∈ vs := by
  simp only [← Table.get?_eq_some_iff h, had]
  cases Table.get? name values with
  | none => simp
  | some vs => simp

theorem of_mem_had (h : w ∈ had (remembered entries) name) :
    ∃ v, (name, v) ∈ entries ∧ w = indexed v := by
  obtain ⟨vs, hvs, hw⟩ := (mem_had_iff (nodup_keys_remembered entries)).mp h
  rcases of_mem_remembered hvs hw with ⟨vs', hnone, -⟩ | hentry
  · cases hnone
  · exact hentry

/-- A value that equals none of those remembered equals none of
those recorded, as equality is transitive. -/
theorem unequal_had_iff : (∀ w ∈ had (remembered entries) name, Value.same (indexed v) w = false) ↔
    ∀ w, (name, w) ∈ entries → Value.same (indexed v) (indexed w) = false := by
  constructor
  · intro hnone w hw
    obtain ⟨u, hu, rfl | hsame⟩ := exists_had hw
    · exact hnone _ hu
    · obtain ⟨u, -, rfl⟩ := of_mem_had hu
      have hunequal := hnone _ hu
      by_contra hequal
      rw [Bool.not_eq_false] at hequal
      have htrans := Value.same_trans (hashable_indexed v) (hashable_indexed w) (hashable_indexed u)
        hequal hsame
      exact Bool.false_ne_true (hunequal.symm.trans htrans)
  · intro hnone w hw
    obtain ⟨u, hu, rfl⟩ := of_mem_had hw
    exact hnone u hu

/-- What is remembered for a field are the values that came before all that equal them. -/
theorem mem_had : w ∈ had (remembered entries) name ↔ ∃ v, Leads entries name v ∧
    indexed v = w := by
  induction entries using List.reverseRecOn generalizing w with
  | nil => simp [remembered, had, Leads]
  | append_singleton entries entry ih =>
    obtain ⟨k, x⟩ := entry
    rw [had_remembered_concat]
    simp only [leads_concat, Prod.mk.injEq]
    by_cases hname : name = k
    · subst hname
      rw [if_pos rfl, Value.mem_addTo, ih, unequal_had_iff]
      constructor
      · rintro (⟨v, hv, rfl⟩ | ⟨rfl, hfirst⟩)
        · exact ⟨v, .inl hv, rfl⟩
        · exact ⟨x, .inr ⟨⟨rfl, rfl⟩, hfirst⟩, rfl⟩
      · rintro ⟨v, hv | ⟨⟨-, rfl⟩, hfirst⟩, rfl⟩
        · exact .inl ⟨v, hv, rfl⟩
        · exact .inr ⟨rfl, hfirst⟩
    · rw [if_neg hname, ih]
      simp [Ne.symm hname]

def Call.recorded : Call → Entries
  | success _ metadata _ => metadata.flatten
  | _ => []

theorem values_run (call : Call) (s : Stats) :
    (call.run s).values = call.recorded.foldl remember s.values := by
  cases call with
  | register paths => exact values_register paths s
  | success source metadata counting => exact values_recordSuccess s source metadata counting
  | adjust source documents segments => exact values_onSource ..
  | failure record counting => exact values_recordFailure s record counting
  | _ => rfl

theorem values_runAll (s : Stats) (calls : List Call) :
    (s.runAll calls).values = (calls.flatMap Call.recorded).foldl remember s.values := by
  induction calls using List.reverseRecOn with
  | nil => rfl
  | append_singleton calls call ih =>
    rw [runAll_concat, values_run, ih, List.flatMap_append, List.foldl_append,
      List.flatMap_singleton]

end Stats

/-! ## Schemas -/

namespace Schema

open Stats

variable {entries : Entries} {table table' : Table (List String)} {shown : String → String → Prop}

def ofFields (table : Table (List String)) : Value :=
  withProperties (.map (table.map fun (k, texts) => (k, property texts)))

theorem ofFields_injective : Function.Injective ofFields := by
  have hproperty : Function.Injective fun field : String × List String =>
      (field.1, property field.2) := by
    rintro ⟨k, texts⟩ ⟨k', texts'⟩ h
    simp only [property, Prod.mk.injEq, Value.map.injEq, List.cons.injEq, Value.list.injEq] at h
    have htexts : texts = texts' := List.map_injective_iff.mpr (fun a b => Value.str.inj) h.2.2.1.2
    rw [h.1, htexts]
  intro table table' h
  simp only [ofFields, withProperties, Value.map.injEq, List.cons.injEq, Prod.mk.injEq, true_and,
    and_true] at h
  exact List.map_injective_iff.mpr hproperty h

/-- Whether fields are those of entries, in order, each with some of
the plain forms of its values, in order. -/
structure Lists (entries : Entries) (shown : String → String → Prop) (table : Table (List String)) :
    Prop where
  sorted : (table.map (·.1)).SortedLT
  names : ∀ name, name ∈ table.map (·.1) ↔ ∃ v, (name, v) ∈ entries
  choices : ∀ name texts, (name, texts) ∈ table → texts.SortedLT ∧ ∀ text, text ∈ texts ↔
    shown name text

theorem Lists.subset (h : Lists entries shown table) (h' : Lists entries shown table') :
    table ⊆ table' := by
  rintro ⟨name, texts⟩ hmem
  have hname : name ∈ table.map (·.1) := List.mem_map_of_mem hmem
  rw [h.names, ← h'.names] at hname
  obtain ⟨⟨name', texts'⟩, hmem', rfl⟩ := List.mem_map.mp hname
  obtain ⟨hsorted, hchoices⟩ := h.choices _ _ hmem
  obtain ⟨hsorted', hchoices'⟩ := h'.choices _ _ hmem'
  obtain rfl := hsorted.eq_of_mem_iff hsorted' fun text =>
    (hchoices text).trans (hchoices' text).symm
  exact hmem'

theorem Lists.unique (h : Lists entries shown table) (h' : Lists entries shown table') :
    table = table' := by
  have hsorted := List.pairwise_map.mp h.sorted.pairwise
  have hsorted' := List.pairwise_map.mp h'.sorted.pairwise
  have hirrefl : Std.Irrefl fun a b : String × List String => a.1 < b.1 := ⟨fun a => lt_irrefl a.1⟩
  have hanti : Std.Antisymm fun a b : String × List String =>
      a.1 < b.1 := ⟨fun a b hab hba => absurd hba hab.not_gt⟩
  exact List.Subset.antisymm_of_pairwise hsorted hsorted' (h.subset h') (h'.subset h)

theorem sortedLT_dedup {texts : List String} (h : texts.Pairwise (· ≤ ·)) :
    (dedup texts).SortedLT := by
  rw [List.sortedLT_iff_pairwise]
  induction texts with
  | nil => exact .nil
  | cons a rest ih =>
    obtain ⟨hle, hrest⟩ := List.pairwise_cons.mp h
    cases rest with
    | nil => exact List.pairwise_singleton _ _
    | cons b rest =>
      rw [dedup]
      split_ifs with hab
      · exact ih hrest
      · refine List.pairwise_cons.mpr ⟨fun c hc => ?_, ih hrest⟩
        have hbc : b ≤ c := by
          rcases List.mem_cons.mp (mem_dedup.mp hc) with rfl | hmem
          · exact le_rfl
          · exact List.rel_of_pairwise_cons hrest hmem
        exact (lt_of_le_of_ne (hle b List.mem_cons_self) hab).trans_le hbc

theorem sortedLT_choices (vs : List Value) : (choices vs).SortedLT :=
  sortedLT_dedup (Value.pairwise_sortTexts _)

theorem sortedLT_byKey {α : Type} {t : Table α} (h : (t.map (·.1)).Nodup) :
    ((byKey t).map (·.1)).SortedLT := by
  have hle : ((byKey t).map (·.1)).Pairwise (· ≤ ·) := by
    refine List.pairwise_map.mpr ((List.pairwise_mergeSort ?_ ?_ t).imp Value.textLe_iff.mp)
    · exact fun a b c => Value.textLe_trans a.1 b.1 c.1
    · exact fun a b => Value.textLe_total a.1 b.1
  have hnodup : ((byKey t).map (·.1)).Nodup := ((List.mergeSort_perm ..).map _).nodup_iff.mpr h
  rw [List.sortedLT_iff_pairwise]
  exact (hle.and hnodup).imp fun hab => lt_of_le_of_ne hab.1 hab.2

theorem keys_fields (values : Table (List Value)) :
    (fields values).map (·.1) = (byKey values).map (·.1) := by
  rw [fields, List.map_map]
  rfl

/-- What the schema shows of entries: the plain forms of the values
that came before all that equal them. -/
def SeenFirst (entries : Entries) (name text : String) : Prop :=
  ∃ v, Leads entries name v ∧ v.plain = text

/-- What there is to show of entries: the plain forms of all values. -/
def Seen (entries : Entries) (name text : String) : Prop :=
  ∃ v, (name, v) ∈ entries ∧ v.plain = text

theorem offers_remembered {s : Stats} (hs : s.values = remembered entries) {name text : String} :
    Offers s name text ↔ SeenFirst entries name text := by
  have hnodup := nodup_keys_remembered entries
  rw [offers_iff, hs]
  constructor
  · rintro ⟨vs, hvs, w, hw, rfl⟩
    obtain ⟨v, hv, rfl⟩ := mem_had.mp ((mem_had_iff hnodup).mpr ⟨vs, hvs, hw⟩)
    exact ⟨v, hv, (Value.plain_indexed v).symm⟩
  · rintro ⟨v, hv, rfl⟩
    obtain ⟨vs, hvs, hmem⟩ := (mem_had_iff hnodup).mp (mem_had.mpr ⟨v, hv, rfl⟩)
    exact ⟨vs, hvs, _, hmem, Value.plain_indexed v⟩

/-- The schema lists the fields of what was recorded, with the choices that were seen first. -/
theorem lists_seenFirst {s : Stats} (hs : s.values = remembered entries) :
    Lists entries (SeenFirst entries) (fields s.metadataValues) := by
  have hkeys : s.metadataValues.map (·.1) = (byKey (remembered entries)).map (·.1) := by
    rw [metadataValues, List.map_map, hs]
    rfl
  have hsorted : (s.metadataValues.map (·.1)).SortedLT := by
    rw [hkeys]
    exact sortedLT_byKey (nodup_keys_remembered entries)
  have hfields := sortedLT_byKey hsorted.nodup
  rw [← keys_fields] at hfields
  refine ⟨hfields, fun name => ?_, fun name texts hmem => ⟨?_, fun text => ?_⟩⟩
  · rw [keys_fields, byKey, ((List.mergeSort_perm ..).map _).mem_iff, hkeys, byKey,
      ((List.mergeSort_perm ..).map _).mem_iff, mem_keys_remembered]
  · obtain ⟨⟨name', vs⟩, -, heq⟩ := List.mem_map.mp hmem
    rw [← (Prod.mk.inj heq).2]
    exact sortedLT_choices vs
  · rw [← offers_remembered hs]
    constructor
    · exact fun htext => ⟨texts, hmem, htext⟩
    · rintro ⟨texts', hmem', htext⟩
      have hunique := (Table.get?_eq_some_iff hfields.nodup).mpr hmem
      rw [(Table.get?_eq_some_iff hfields.nodup).mpr hmem'] at hunique
      rwa [← Option.some.inj hunique]

/-- Whether a schema lists the fields of entries with the choices that are to be shown. -/
def Shows (entries : Entries) (shown : String → String → Prop) (schema : Value) : Prop :=
  ∃ table, Lists entries shown table ∧ schema = ofFields table

theorem SeenFirst.seen {name text : String} (h : SeenFirst entries name text) :
    Seen entries name text := by
  obtain ⟨v, hv, rfl⟩ := h
  exact ⟨v, hv.mem, rfl⟩

/-- Whether equal values of a field have the same plain form. -/
def Legible (entries : Entries) : Prop :=
  ∀ name v w, (name, v) ∈ entries → (name, w) ∈ entries →
    Value.same (indexed v) (indexed w) = true → v.plain = w.plain

theorem Legible.of_perm {entries' : Entries} (hperm : entries'.Perm entries) (h : Legible entries) :
    Legible entries' :=
  fun name v w hv hw => h name v w (hperm.mem_iff.mp hv) (hperm.mem_iff.mp hw)

/-- Equal values have the same plain form if the numbers and truth values of a
field are of one kind, and no doubles. -/
theorem legible_of_kinds (h : ∀ name v w, (name, v) ∈ entries → (name, w) ∈ entries →
    v.isNumber = true →
    w.isNumber = true → v.kindName = w.kindName ∧ v.kindName ≠ "float") : Legible entries := by
  intro name v w hv hw hsame
  rcases Value.eq_or_numbers_of_same (hashable_indexed v) (hashable_indexed w) hsame with heq
    | ⟨hnv, hnw, hdouble⟩
  · rw [← Value.plain_indexed v, heq, Value.plain_indexed]
  · obtain ⟨hv', hkv⟩ := number_of_indexed hnv
    obtain ⟨hw', hkw⟩ := number_of_indexed hnw
    obtain ⟨hkinds, hnone⟩ := h name v w hv hw hv' hw'
    rw [hkv, hkw] at hdouble
    exact absurd (hdouble hkinds) hnone

/-- If equal values have the same plain form, then those that came first have all plain forms. -/
theorem Legible.seenFirst (hplain : Legible entries) {name text : String}
    (h : Seen entries name text) :
    SeenFirst entries name text := by
  obtain ⟨v, hv, rfl⟩ := h
  obtain ⟨u, hu, hsame⟩ := exists_had hv
  obtain ⟨w, hw, rfl⟩ := mem_had.mp hu
  refine ⟨w, hw, ?_⟩
  rcases hsame with heq | hsame
  · rw [← Value.plain_indexed w, heq, Value.plain_indexed]
  · exact (hplain name v w hv hw.mem hsame).symm

theorem shows_seen_iff {s : Stats} (hs : s.values = remembered entries) :
    Shows entries (Seen entries) (ofValues s.metadataValues) ↔
      ∀ name text, Seen entries name text → SeenFirst entries name text := by
  have hfirst := lists_seenFirst hs
  constructor
  · rintro ⟨table, htable, heq⟩ name _ ⟨v, hv, rfl⟩
    obtain rfl := ofFields_injective heq
    obtain ⟨⟨name, texts⟩, hmem, rfl⟩ := List.mem_map.mp ((htable.names name).mpr ⟨v, hv⟩)
    have hshown := ((htable.choices name texts hmem).2 v.plain).mpr ⟨v, hv, rfl⟩
    exact ((hfirst.choices name texts hmem).2 v.plain).mp hshown
  · intro hall
    refine ⟨_, ⟨hfirst.sorted, hfirst.names, fun name texts hmem => ?_⟩, rfl⟩
    obtain ⟨hsorted, hchoices⟩ := hfirst.choices name texts hmem
    exact ⟨hsorted, fun text => (hchoices text).trans ⟨SeenFirst.seen, hall name text⟩⟩

theorem Lists.of_perm {entries' : Entries} (hperm : entries'.Perm entries)
    (h : Lists entries' (Seen entries') table) :
    Lists entries (Seen entries) table := by
  refine ⟨h.sorted, fun name => ?_,
    fun name texts hmem => ⟨(h.choices name texts hmem).1, fun text => ?_⟩⟩
  · simp only [h.names, hperm.mem_iff]
  · simp only [(h.choices name texts hmem).2, Seen, hperm.mem_iff]

end Schema

/-! ## After any calls -/

namespace Stats

open Schema

def schemaAfter (s : Stats) (calls : List Call) : Value := ofValues (s.runAll calls).metadataValues

/-- After any calls the schema lists the fields that were recorded, each with the plain forms of the
values that came before all that equal them. So it shows the plain forms of all values exactly if
each of them is that of a value which came first. If equal values of a field have the same plain
form, it does so whatever the order of the calls. -/
theorem schema_complete_iff {maxFailures maxSources : Int} {start : Stats}
    (h : Stats.new maxFailures maxSources = .ok start) (calls : List Call) :
    let entries := calls.flatMap Call.recorded
    Shows entries (SeenFirst entries) (start.schemaAfter calls) ∧
      (Shows entries (Seen entries) (start.schemaAfter calls) ↔
        ∀ name text, Seen entries name text → SeenFirst entries name text) ∧
      (Legible entries → ∀ calls', calls'.Perm calls →
        Shows entries (Seen entries) (start.schemaAfter calls') ∧
          start.schemaAfter calls' = start.schemaAfter calls) := by
  intro entries
  have hvalues : ∀ calls, (start.runAll calls).values =
      remembered (calls.flatMap Call.recorded) := by
    intro calls
    rw [values_runAll, eq_empty_of_new h]
    rfl
  refine ⟨⟨_, lists_seenFirst (hvalues calls), rfl⟩, shows_seen_iff (hvalues calls), ?_⟩
  intro hplain calls' hperm
  have hentries : (calls'.flatMap Call.recorded).Perm entries := hperm.flatMap_right _
  have hplain' := hplain.of_perm hentries
  obtain ⟨table, htable, heq⟩ := (shows_seen_iff (hvalues calls)).mpr fun _ _ => hplain.seenFirst
  obtain ⟨table', htable', heq'⟩ := (shows_seen_iff (hvalues calls')).mpr fun _ _ =>
    hplain'.seenFirst
  have hlists := htable'.of_perm hentries
  refine ⟨⟨table', hlists, heq'⟩, ?_⟩
  rw [schemaAfter, schemaAfter, heq, heq', hlists.unique htable]

/-- Calls that record a truth value and a text for one file, and a list for another. -/
def Call.legible : List Call :=
  [.success none [[("flag", .bool true)], [("flag", .str "1")]] true,
    .success none [[("flag", .list [.int 1])]] false]

theorem legible_recorded : Legible (Call.legible.flatMap Call.recorded) := by
  apply legible_of_kinds
  have hrecorded : Call.legible.flatMap Call.recorded =
      [("flag", .bool true), ("flag", .str "1"), ("flag", .list [.int 1])] := rfl
  have hnumber : ∀ name v, (name, v) ∈ Call.legible.flatMap Call.recorded → v.isNumber = true →
      v = .bool true := by
    rw [hrecorded]
    intro name v hv hn
    simp only [List.mem_cons, List.not_mem_nil, or_false, Prod.mk.injEq] at hv
    rcases hv with ⟨-, rfl⟩ | ⟨-, rfl⟩ | ⟨-, rfl⟩
    · rfl
    · cases hn
    · cases hn
  intro name v w hv hw hnv hnw
  rw [hnumber name v hv hnv, hnumber name w hw hnw]
  exact ⟨rfl, by decide⟩

/-- These values are not equal, so the schema shows all of them. -/
theorem legible_complete : Stats.new 20 100 = .ok (empty 20 100) ∧
    Legible (Call.legible.flatMap Call.recorded) ∧
    Shows (Call.legible.flatMap Call.recorded) (Seen (Call.legible.flatMap Call.recorded))
      ((empty 20 100).schemaAfter Call.legible.reverse) := by
  obtain ⟨-, -, hlegible⟩ := @schema_complete_iff 20 100 _ rfl Call.legible
  exact ⟨rfl, legible_recorded, (hlegible legible_recorded _ (List.reverse_perm _)).1⟩

/-- Calls that record the number one and a truth value. -/
def Call.flags : List Call :=
  [.success none [[("flag", .int 1)]] true, .success none [[("flag", .bool true)]] true]

theorem schemaAfter_flags : (empty 20 100).schemaAfter Call.flags = ofFields [("flag", ["1"])] := by
  cbv

theorem schemaAfter_reverse_flags :
    (empty 20 100).schemaAfter Call.flags.reverse = ofFields [("flag", ["True"])] := by
  cbv

/-- The truth value equals the number that came first and is not
shown; in the other order it is the number. -/
theorem flags_incomplete : Stats.new 20 100 = .ok (empty 20 100) ∧
    ¬ Shows (Call.flags.flatMap Call.recorded) (Seen (Call.flags.flatMap Call.recorded))
      ((empty 20 100).schemaAfter Call.flags) ∧
    Call.flags.reverse.Perm Call.flags ∧
    (empty 20 100).schemaAfter Call.flags.reverse ≠ (empty 20 100).schemaAfter Call.flags := by
  refine ⟨rfl, ?_, List.reverse_perm _, ?_⟩
  · rintro ⟨table, htable, heq⟩
    rw [schemaAfter_flags] at heq
    obtain rfl := ofFields_injective heq
    have hseen : Seen (Call.flags.flatMap Call.recorded) "flag" "True" :=
      ⟨.bool true, by simp [Call.flags, Call.recorded], rfl⟩
    have hshown := ((htable.choices "flag" ["1"] (List.mem_singleton_self _)).2 "True").mpr hseen
    simp at hshown
  · rw [schemaAfter_flags, schemaAfter_reverse_flags]
    intro heq
    have htables := ofFields_injective heq
    simp at htables

end Stats

end SegmentIndex
