import SegmentIndex.Proofs.Choices
import SegmentIndex.Proofs.Naming

/-!
# Options that are neither taken nor refused

A strategy takes its options or refuses them, and a source with refused options is refused in the
same way. Two built-in strategies can stop at options instead. A choice that is looked up by its
name cannot be a list or a map. Of the listed kinds of elements a set is made, which no list and no
map can be a member of; and what is no kind is sorted for the message, which is possible for numbers
or for texts, but not for both or for null with anything else.
-/
namespace SegmentIndex

/-- Whether an outcome is a result or a refusal of options. -/
def Decided {α : Type} (o : Except Failure α) : Prop :=
  (∃ a, o = .ok a) ∨ ∃ fault, o = .error (.options fault)

theorem decided_ok {α : Type} (a : α) : Decided (.ok a : Except Failure α) := .inl ⟨a, rfl⟩

theorem decided_options {α : Type} (fault : OptionFault) :
    Decided (.error (.options fault) : Except Failure α) :=
  .inr ⟨fault, rfl⟩

theorem not_decided_raised {α : Type} (kind : RaisedKind) (message : String) :
    ¬ Decided (.error (.raised kind message) : Except Failure α) := by
  rintro (⟨a, h⟩ | ⟨fault, h⟩) <;> cases h

theorem decided_error_iff {α : Type} (f : Failure) :
    Decided (.error f : Except Failure α) ↔ ∃ fault, f = .options fault := by
  simp [Decided]

theorem decided_map {α β : Type} (g : α → β) (o : Except Failure α) :
    Decided (o.map g) ↔ Decided o := by
  cases o <;> simp [Decided, Except.map]

/-! ## Sets of values and their order -/

namespace Value

/-- Whether two values can stand in one order: both are numbers, both
are texts, or neither is any of these. -/
def Comparable (v w : Value) : Prop := v.isNumber = w.isNumber ∧ v.str?.isSome = w.str?.isSome

instance (v w : Value) : Decidable (Comparable v w) := by unfold Comparable; infer_instance

/-- Whether a value is no kind of element. -/
def Stray (v : Value) : Prop := ∀ name ∈ elementKinds, v ≠ .str name

instance (v : Value) : Decidable (Stray v) := by unfold Stray; infer_instance

theorem stray_iff {v : Value} : v.Stray ↔ v.str?.any elementKinds.contains = false := by
  cases v with
  | str s =>
    simp only [Stray, str?, Option.any_some, List.contains_eq_mem, decide_eq_false_iff_not]
    exact ⟨fun h hs => h s hs rfl, fun h name hname hs => h (Value.str.inj hs ▸ hname)⟩
  | _ => simp [Stray, str?]

theorem stray_of_isNumber {v : Value} (h : v.isNumber = true) : v.Stray := by
  rintro name - rfl
  cases h

theorem eq_null {v : Value} (hashed : v.hashable = true) (hnumber : v.isNumber = false)
    (htext : v.str?.isSome = false) : v = .null := by
  cases v with
  | null => rfl
  | str s => cases htext
  | list items => cases hashed
  | map entries => cases hashed
  | _ => cases hnumber

theorem not_text_of_isNumber {v : Value} (h : v.isNumber = true) : v.str?.isSome = false := by
  cases v with
  | str s => cases h
  | _ => rfl

theorem comparable_of_numbers {v w : Value} (hv : v.isNumber = true) (hw : w.isNumber = true) :
    v.Comparable w :=
  ⟨hv.trans hw.symm, (not_text_of_isNumber hv).trans (not_text_of_isNumber hw).symm⟩

theorem comparable_of_texts {v w : Value} (hv : v.str?.isSome = true) (hw : w.str?.isSome = true) :
    v.Comparable w := by
  obtain ⟨s, hs⟩ := Option.isSome_iff_exists.mp hv
  obtain ⟨t, ht⟩ := Option.isSome_iff_exists.mp hw
  cases v <;> cases hs
  cases w <;> cases ht
  exact ⟨rfl, rfl⟩

/-- Equal values are the same or numbers, so they stand in one order and are strays alike. -/
theorem comparable_of_same {v w : Value} (hv : v.hashable = true) (hw : w.hashable = true)
    (h : v = w ∨ same v w = true) : v.Comparable w ∧ (v.Stray → w.Stray) := by
  have hcases : v = w ∨ v.isNumber = true ∧ w.isNumber = true :=
    h.elim .inl fun h => (eq_or_numbers_of_same hv hw h).imp_right fun h => ⟨h.1, h.2.1⟩
  rcases hcases with rfl | ⟨hn, hn'⟩
  · exact ⟨⟨rfl, rfl⟩, id⟩
  · exact ⟨comparable_of_numbers hn hn', fun _ => stray_of_isNumber hn'⟩

theorem pairwise_addTo {set : List Value} (h : set.Pairwise fun v w => same w v = false)
    (v : Value) :
    (addTo set v).Pairwise fun v w => same w v = false := by
  unfold addTo
  split_ifs with hknown
  · exact h
  · have hnone : ∀ u ∈ set, same v u = false := by simpa using hknown
    exact List.pairwise_append.mpr ⟨h, List.pairwise_singleton _ _, by simpa using hnone⟩

/-- The values of a set are listed, and each listed value equals one of
the set. No two of the set are equal. -/
theorem mem_set (items : List Value) :
    (∀ v ∈ items.foldl addTo [], v ∈ items) ∧
      (∀ v ∈ items, ∃ w ∈ items.foldl addTo [], v = w ∨ same v w = true) ∧
      (items.foldl addTo []).Pairwise fun v w => same w v = false := by
  induction items using List.reverseRecOn with
  | nil => simp
  | append_singleton items v ih =>
    obtain ⟨hsub, hall, hapart⟩ := ih
    rw [List.foldl_concat]
    refine ⟨fun w hw => ?_, fun w hw => ?_, pairwise_addTo hapart v⟩
    · rcases mem_addTo.mp hw with hw | ⟨rfl, -⟩
      · exact List.mem_append_left _ (hsub w hw)
      · simp
    · rcases List.mem_append.mp hw with hw | hw
      · obtain ⟨u, hu, heq⟩ := hall w hw
        exact ⟨u, mem_addTo.mpr (.inl hu), heq⟩
      · obtain rfl := List.mem_singleton.mp hw
        by_cases hknown : ∃ u ∈ items.foldl addTo [], same w u = true
        · obtain ⟨u, hu, hsame⟩ := hknown
          exact ⟨u, mem_addTo.mpr (.inl hu), .inr hsame⟩
        · exact ⟨w, mem_addTo.mpr (.inr ⟨rfl, by simpa using hknown⟩), .inl rfl⟩

/-- Different values that can be in a set are sorted unless two of them stand in no order. -/
theorem sorted?_eq_none_iff {vs : List Value} (hashed : ∀ v ∈ vs, v.hashable = true)
    (hapart : vs.Pairwise fun v w => same w v = false) :
    sorted? vs = none ↔ ∃ v ∈ vs, ∃ w ∈ vs, ¬ v.Comparable w := by
  unfold sorted?
  constructor
  · intro h
    split_ifs at h with hlength hnumbers htexts
    simp only [List.all_eq_true, not_forall, Bool.not_eq_true] at hnumbers htexts
    obtain ⟨v, hv, hnumber⟩ := hnumbers
    obtain ⟨w, hw, htext⟩ := htexts
    by_contra hnone
    push Not at hnone
    -- all are then neither numbers nor texts, and of null there is only one
    have hnull : ∀ u ∈ vs, u = .null := fun u hu =>
      eq_null (hashed u hu) ((hnone u hu v hv).1.trans hnumber) ((hnone u hu w hw).2.trans htext)
    rcases vs with _ | ⟨u, _ | ⟨u', us⟩⟩
    · exact absurd hv List.not_mem_nil
    · exact hlength le_rfl
    · have hsame := (List.pairwise_cons.mp hapart).1 u' List.mem_cons_self
      rw [hnull u (by simp), hnull u' (by simp)] at hsame
      exact Bool.noConfusion hsame
  · rintro ⟨v, hv, w, hw, hno⟩
    split_ifs with hlength hnumbers htexts
    · rcases vs with _ | ⟨u, _ | ⟨u', us⟩⟩
      · exact absurd hv List.not_mem_nil
      · rw [List.mem_singleton.mp hv, List.mem_singleton.mp hw] at hno
        exact absurd ⟨rfl, rfl⟩ hno
      · simp at hlength
    · rw [List.all_eq_true] at hnumbers
      exact absurd (comparable_of_numbers (hnumbers v hv) (hnumbers w hw)) hno
    · rw [List.all_eq_true] at htexts
      exact absurd (comparable_of_texts (htexts v hv) (htexts w hw)) hno
    · rfl

end Value

/-! ## Listed kinds -/

namespace ElementSelection

/-- Whether the kinds of a list cannot be made a set, or what
is no kind among them cannot be sorted. -/
def Upset (items : List Value) : Prop :=
  (∃ v ∈ items, v.hashable = false) ∨ ∃ v ∈ items, ∃ w ∈ items, v.Stray ∧ w.Stray ∧ ¬ v.Comparable w

instance (items : List Value) : Decidable (Upset items) := by unfold Upset; infer_instance

variable {items : List Value}

/-- Two strays of a set stand in no order exactly if two of the strays that are listed do not. -/
theorem exists_strays_iff (hashed : ∀ v ∈ items, v.hashable = true) :
    (∃ v ∈ items.foldl Value.addTo [], ∃ w ∈ items.foldl Value.addTo [], v.Stray ∧ w.Stray ∧
    ¬ v.Comparable w) ↔
      ∃ v ∈ items, ∃ w ∈ items, v.Stray ∧ w.Stray ∧ ¬ v.Comparable w := by
  obtain ⟨hsub, hall, -⟩ := Value.mem_set items
  constructor
  · rintro ⟨v, hv, w, hw, h⟩
    exact ⟨v, hsub v hv, w, hsub w hw, h⟩
  · rintro ⟨v, hv, w, hw, hsv, hsw, hno⟩
    obtain ⟨v', hv', hequal⟩ := hall v hv
    obtain ⟨w', hw', hequal'⟩ := hall w hw
    obtain ⟨hvv', hstray⟩ := Value.comparable_of_same (hashed v hv) (hashed v' (hsub v' hv')) hequal
    obtain ⟨hww', hstray'⟩ := Value.comparable_of_same (hashed w hw)
      (hashed w' (hsub w' hw')) hequal'
    refine ⟨v', hv', w', hw', hstray hsv, hstray' hsw, fun h => hno ?_⟩
    exact ⟨hvv'.1.trans (h.1.trans hww'.1.symm), hvv'.2.trans (h.2.trans hww'.2.symm)⟩

/-- The strays of a set are sorted unless two of those that are listed stand in no order. -/
theorem sorted?_strays_eq_none_iff (hashed : ∀ v ∈ items, v.hashable = true) :
    Value.sorted? ((items.foldl Value.addTo []).filter fun v => !v.str?.any elementKinds.contains) =
      none ↔
      ∃ v ∈ items, ∃ w ∈ items, v.Stray ∧ w.Stray ∧ ¬ v.Comparable w := by
  obtain ⟨hsub, -, hapart⟩ := Value.mem_set items
  rw [← exists_strays_iff hashed]
  generalize items.foldl Value.addTo [] = set at hsub hapart ⊢
  have hmem : ∀ v, v ∈ set.filter (fun v => !v.str?.any elementKinds.contains) ↔
      v ∈ set ∧ v.Stray := by
    intro v
    rw [List.mem_filter, Value.stray_iff, Bool.not_eq_true']
  rw [Value.sorted?_eq_none_iff (fun v hv => hashed v (hsub v ((hmem v).mp hv).1))
    (hapart.filter _)]
  constructor
  · rintro ⟨v, hv, w, hw, hno⟩
    exact ⟨v, ((hmem v).mp hv).1, w, ((hmem w).mp hw).1, ((hmem v).mp hv).2,
      ((hmem w).mp hw).2, hno⟩
  · rintro ⟨v, hv, w, hw, hsv, hsw, hno⟩
    exact ⟨v, (hmem v).mpr ⟨hv, hsv⟩, w, (hmem w).mpr ⟨hw, hsw⟩, hno⟩

theorem decided_kindSet_iff (items : List Value) : Decided (kindSet items) ↔ ¬ Upset items := by
  unfold kindSet
  cases hf : items.find? fun v => !v.hashable with
  | some v =>
    have hv : v.hashable = false := by simpa using List.find?_some hf
    exact iff_of_false (not_decided_raised _ _)
      (not_not.mpr (.inl ⟨v, List.mem_of_find?_eq_some hf, hv⟩))
  | none =>
    have hashed : ∀ v ∈ items, v.hashable = true := by simpa using hf
    have hupset : Upset items ↔ ∃ v ∈ items, ∃ w ∈ items, v.Stray ∧ w.Stray ∧ ¬ v.Comparable w :=
      or_iff_right fun ⟨v, hv, h⟩ => Bool.false_ne_true (h.symm.trans (hashed v hv))
    rw [hupset, ← sorted?_strays_eq_none_iff hashed]
    dsimp only
    split_ifs with hempty
    · rw [List.isEmpty_iff.mp hempty]
      exact iff_of_true (decided_ok _) (by simp [Value.sorted?])
    · split
      · exact iff_of_true (decided_options _) (by simp_all)
      · exact iff_of_false (not_decided_raised _ _) (by simp_all)

theorem not_upset_texts (names : List String) : ¬ Upset (names.map .str) := by
  have htext : ∀ v ∈ names.map Value.str, v.hashable = true ∧ v.str?.isSome = true := by
    simp [Value.hashable, Value.str?]
  rintro (⟨v, hv, h⟩ | ⟨v, hv, w, hw, -, -, hno⟩)
  · exact Bool.false_ne_true (h.symm.trans (htext v hv).1)
  · exact hno (Value.comparable_of_texts (htext v hv).2 (htext w hw).2)

/-- Whether options choose what is visible and list kinds of elements that upset the selection. -/
def Stumbles (options : Entries) : Prop :=
  (∃ name ∈ visibilityChoices, (Entries.get? options "visibility").getD (.str "all") = .str name) ∧
    ∃ items, Entries.get? options "element_types" = some (.list items) ∧ Upset items

theorem decided_resolve_iff (options : Entries) :
    Decided (resolve options) ↔ ¬ Stumbles options := by
  unfold resolve Stumbles
  generalize (Entries.get? options "visibility").getD (.str "all") = visibility
  generalize Entries.get? options "element_types" = kinds
  cases visibility with
  | str s =>
    dsimp only
    by_cases hs : s ∈ visibilityChoices
    · rw [if_neg (by simpa using hs), and_iff_right ⟨s, hs, rfl⟩]
      rcases kinds with _ | v
      · exact iff_of_true (decided_ok _) (by simp)
      · cases v with
        | null => exact iff_of_true (decided_ok _) (by simp)
        | list items => simpa [members?, decided_map] using decided_kindSet_iff items
        | map entries =>
          have hkeys : ¬ Upset (entries.map fun e => .str e.1) := by
            simpa [Function.comp_def] using not_upset_texts (entries.map (·.1))
          have hdecided := (decided_kindSet_iff _).mpr hkeys
          simpa [members?, decided_map] using hdecided
        | _ => exact iff_of_true (decided_options _) (by simp)
    · rw [if_pos (by simpa using hs)]
      refine iff_of_true (decided_options _) ?_
      rintro ⟨⟨name, hname, heq⟩, -⟩
      cases heq
      exact hs hname
  | _ => exact iff_of_true (decided_options _) (by simp)

end ElementSelection

/-! ## Choices for one segment -/

namespace SingleChoice

/-- Whether options give a choice that cannot be looked up, and nothing before it is refused. -/
def Stumbles (options : Entries) : Prop :=
  (pick .null options "embedding").hashable = false ∨
    (∃ name ∈ embedChoices, pick .null options "embedding" = .str name) ∧
      (pick .null options "content_strategy").hashable = false

theorem decided_embed_iff (v : Value) : Decided (EmbedChoice.ofValue v) ↔ v.hashable = true := by
  cases v with
  | str s =>
    refine iff_of_true ?_ rfl
    dsimp only [EmbedChoice.ofValue]
    cases EmbedChoice.ofName? s with
    | none => exact decided_options _
    | some c => exact decided_ok c
  | list items => exact iff_of_false (not_decided_raised _ _) Bool.false_ne_true
  | map entries => exact iff_of_false (not_decided_raised _ _) Bool.false_ne_true
  | _ => exact iff_of_true (decided_options _) rfl

theorem decided_content_iff (v : Value) :
    Decided (ContentChoice.ofValue v) ↔ v.hashable = true := by
  cases v with
  | str s =>
    refine iff_of_true ?_ rfl
    dsimp only [ContentChoice.ofValue]
    cases ContentChoice.ofName? s with
    | none => exact decided_options _
    | some c => exact decided_ok c
  | list items => exact iff_of_false (not_decided_raised _ _) Bool.false_ne_true
  | map entries => exact iff_of_false (not_decided_raised _ _) Bool.false_ne_true
  | _ => exact iff_of_true (decided_options _) rfl

theorem exists_embed_iff (v : Value) :
    (∃ c, EmbedChoice.ofValue v = .ok c) ↔ ∃ name ∈ embedChoices, v = .str name := by
  cases v with
  | str s =>
    have hname : (∃ c, EmbedChoice.ofName? s = some c) ↔ s ∈ embedChoices := by
      unfold EmbedChoice.ofName?
      split <;> simp_all [embedChoices]
    have hvalue : (∃ c, EmbedChoice.ofValue (.str s) = .ok c) ↔ ∃ c,
        EmbedChoice.ofName? s = some c := by
      dsimp only [EmbedChoice.ofValue]
      cases EmbedChoice.ofName? s <;> simp
    rw [hvalue, hname]
    simp
  | _ => simp [EmbedChoice.ofValue]

/-- Choices that nothing fixes are made or refused unless the options stumble. -/
theorem decided_resolve_iff (options : Entries) :
    Decided (resolve .null .null options) ↔ ¬ Stumbles options := by
  unfold resolve Stumbles
  have hembed := decided_embed_iff (pick .null options "embedding")
  have hchoice := exists_embed_iff (pick .null options "embedding")
  rw [← hchoice, ← Bool.not_eq_true, ← hembed, ← Bool.not_eq_true, ← decided_content_iff]
  cases he : EmbedChoice.ofValue (pick .null options "embedding") with
  | error f => simp [decided_error_iff]
  | ok c => simp [decided_map, decided_ok]

end SingleChoice

/-! ## Sizes of windows -/

namespace WindowSizes

theorem decided_positive (options : Entries) (key : String) (default : Int) :
    Decided (positive options key default) := by
  unfold positive
  split
  · split_ifs
    · exact decided_ok _
    · exact decided_options _
  · exact decided_options _

theorem decided_resolve (options : Entries) : Decided (resolve options) := by
  unfold resolve
  rcases decided_positive options "chunk_size" defaultSize with ⟨size, h⟩ | ⟨fault, h⟩
  · rw [h]
    dsimp only
    rcases decided_positive options "chunk_overlap" defaultOverlap with ⟨overlap, h'⟩ | ⟨fault, h'⟩
    · rw [h']
      dsimp only
      split_ifs
      · exact decided_options _
      · exact decided_ok _
    · rw [h']
      exact decided_options _
  · rw [h]
    exact decided_options _

end WindowSizes

/-! ## Built-in strategies and their sources -/

/-- Whether the options of a built-in strategy are neither taken nor refused by it. -/
def Strategy.Stumbles (s : Strategy) (options : Entries) : Prop :=
  (s.name = "single-segment" ∧ SingleChoice.Stumbles options) ∨
    (s.name = "code-analysis" ∧ ElementSelection.Stumbles options)

/-- The options of a source among its further keys, under a strategy. -/
def Source.options (source : Source) (s : Strategy) : Entries :=
  source.extras.filter fun e => s.optionKeys.contains e.1

theorem Registry.builtin_cases {analyze : Analyzer} {s : Strategy}
    (hs : s ∈ (Registry.builtin analyze).strategies) :
    (Registry.builtin analyze).get s.name = .ok s ∧
      ∀ options, Decided (s.resolve options) ↔ ¬ s.Stumbles options := by
  simp only [Registry.builtin, SingleChoice.builtin, List.cons_append, List.nil_append,
    List.mem_cons, List.not_mem_nil, or_false] at hs
  rcases hs with rfl | rfl | rfl | rfl | rfl | rfl
  · refine ⟨rfl, fun options => ?_⟩
    simp [Strategy.Stumbles, SingleChoice.strategy, decided_map, SingleChoice.decided_resolve_iff]
  · exact ⟨rfl, fun options => iff_of_true (decided_ok _)
      (by simp [Strategy.Stumbles, SingleChoice.strategy])⟩
  · exact ⟨rfl, fun options => iff_of_true (decided_ok _)
      (by simp [Strategy.Stumbles, SingleChoice.strategy])⟩
  · exact ⟨rfl, fun options => iff_of_true (decided_ok _)
      (by simp [Strategy.Stumbles, SingleChoice.strategy])⟩
  · refine ⟨rfl, fun options => iff_of_true ?_ (by simp [Strategy.Stumbles, WindowSizes.strategy])⟩
    exact (decided_map _ _).mpr (WindowSizes.decided_resolve options)
  · refine ⟨rfl, fun options => ?_⟩
    simp [Strategy.Stumbles, elementStrategy, decided_map, ElementSelection.decided_resolve_iff]

/-- A source whose path is sound is compiled exactly as its options are taken. -/
theorem Source.compile_eq {analyze : Analyzer} {s : Strategy} {source : Source}
    (watchDefault : Bool) (hget : (Registry.builtin analyze).get source.ingest = .ok s)
    {tokens : List PathSpec.Token} (hpath : PathSpec.compile source.path = .ok tokens) :
    ∃ spec : Spec, source.compile (Registry.builtin analyze) watchDefault =
      (s.resolve (source.options s)).map fun _ => spec := by
  refine ⟨⟨source.path, tokens, PathSpec.baseOf tokens, source.ingest, source.options s,
    source.extras.filter (fun e => !s.optionKeys.contains e.1), source.watch.getD watchDefault⟩, ?_⟩
  simp only [Source.compile, hget, Spec.bind, Spec.loose, hpath, Except.map, Spec.check,
    Source.options]
  cases s.resolve (source.extras.filter fun e => s.optionKeys.contains e.1) <;> rfl

/-- The options of a built-in strategy are taken or refused unless they make it stumble, and a
source whose path is sound is refused for the same reason as its options are. -/
theorem Registry.decided_iff (analyze : Analyzer) {s : Strategy}
    (hs : s ∈ (Registry.builtin analyze).strategies) :
    (∀ options, Decided (s.resolve options) ↔ ¬ s.Stumbles options) ∧
      ∀ (source : Source) (watchDefault : Bool) (tokens : List PathSpec.Token),
        source.ingest = s.name →
        PathSpec.compile source.path = .ok tokens →
        (Decided (source.compile (Registry.builtin analyze) watchDefault) ↔
        ¬ s.Stumbles (source.options s)) ∧
          ∀ f, source.compile (Registry.builtin analyze) watchDefault = .error f ↔
            s.resolve (source.options s) = .error f := by
  obtain ⟨hget, hdecided⟩ := Registry.builtin_cases hs
  refine ⟨hdecided, ?_⟩
  intro source watchDefault tokens hname hpath
  obtain ⟨spec, hcompile⟩ := Source.compile_eq watchDefault (hname ▸ hget) hpath
  rw [hcompile, decided_map]
  refine ⟨hdecided _, fun f => ?_⟩
  cases s.resolve (source.options s) <;> simp [Except.map]

namespace Mixed

/-- A source with kinds of elements as its only options. -/
def source (kinds : List Value) : Source where
  path := "/src/**/*.py"
  ingest := "code-analysis"
  watch := none
  extras := [("element_types", .list kinds)]

def analyze : Analyzer := fun _ _ => .ok []

theorem mem_builtin : elementStrategy analyze ∈ (Registry.builtin analyze).strategies := by
  simp [Registry.builtin]

/-- Kinds that are numbers and truth values beside a known one are refused in one message. -/
theorem numbers_decided : elementStrategy analyze ∈ (Registry.builtin analyze).strategies ∧
    PathSpec.compile (source [.int 2, .bool true, .str "class"]).path =
      .ok [.literal "/src/", .glob true, .literal "/", .glob false, .literal ".py"] ∧
    Decided ((source [.int 2, .bool true, .str "class"]).compile (Registry.builtin analyze)
      false) := by
  have hpath : PathSpec.compile (source [.int 2, .bool true, .str "class"]).path =
      .ok [.literal "/src/", .glob true, .literal "/", .glob false, .literal ".py"] := by cbv
  refine ⟨mem_builtin, hpath, ?_⟩
  refine (((Registry.decided_iff analyze mem_builtin).2 _ false _ rfl hpath).1).mpr ?_
  rintro (⟨h, -⟩ | ⟨-, -, items, hitems, hupset⟩)
  · exact absurd h (by decide)
  · obtain rfl : [Value.int 2, .bool true, .str "class"] = items := by
      simpa [source, Source.options, elementStrategy, Entries.get?_cons] using hitems
    exact absurd hupset (by decide)

/-- A list in place of a choice, a list among the kinds, and a number beside a text among
the kinds are neither taken nor refused. -/
theorem lists_undecided :
    SingleChoice.strategy "single-segment" .null .null ∈ (Registry.builtin analyze).strategies ∧
    ¬ Decided ((SingleChoice.strategy "single-segment" .null .null).resolve
      [("embedding", .list [])]) ∧
    ¬ Decided ((elementStrategy analyze).resolve [("element_types", .list [.list []])]) ∧
    ¬ Decided ((elementStrategy analyze).resolve [("element_types", .list [.int 1, .str "x"])]) ∧
    ¬ Decided ((source [.int 1, .str "x"]).compile (Registry.builtin analyze) false) := by
  have hchoice : (SingleChoice.strategy "single-segment" .null .null).resolve
    [("embedding", .list [])] =
      .error (Failure.badType "unhashable type: 'list'") := by cbv
  have hmember : (elementStrategy analyze).resolve [("element_types", .list [.list []])] =
      .error (Failure.badType "unhashable type: 'list'") := by decide
  have horder : (elementStrategy analyze).resolve [("element_types", .list [.int 1, .str "x"])] =
      .error (Failure.badType "the values have no order") := by decide
  have hsource : (source [.int 1, .str "x"]).compile (Registry.builtin analyze) false =
      .error (Failure.badType "the values have no order") := by decide
  rw [hchoice, hmember, horder, hsource]
  exact ⟨by simp [Registry.builtin, SingleChoice.builtin], not_decided_raised _ _,
    not_decided_raised _ _,
    not_decided_raised _ _, not_decided_raised _ _⟩

end Mixed

end SegmentIndex
