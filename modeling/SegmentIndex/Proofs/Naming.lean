import SegmentIndex.Index.Ingest
import SegmentIndex.Strategy.Elements
import Mathlib.Tactic

/-!
# Names of segments

The built-in strategies name every segment after its file: its metadata hold the path of the file,
its id is that path or the path and a number, and no two segments of a file have the same id. Files
of which none is named as another one and a number never share an id.
-/
namespace SegmentIndex

/-! ## Ids -/

theorem append_cons_inj {α : Type} {c : α} {xs ys us vs : List α} (hu : c ∉ us) (hv : c ∉ vs)
    (h : xs ++ c :: us = ys ++ c :: vs) : xs = ys ∧ us = vs := by
  induction xs generalizing ys with
  | nil =>
    cases ys with
    | nil => exact ⟨rfl, (List.cons.inj h).2⟩
    | cons y ys => exact absurd ((List.cons.inj h).2 ▸ by simp) hu
  | cons x xs ih =>
    cases ys with
    | nil => exact absurd ((List.cons.inj h).2 ▸ by simp) hv
    | cons y ys =>
      obtain ⟨hx, hr⟩ := List.cons.inj h
      obtain ⟨hs, ht⟩ := ih hr
      exact ⟨by rw [hx, hs], ht⟩

theorem hash_not_mem_nat (n : Nat) : '#' ∉ (toString n).toList := by
  intro h
  rw [Nat.toString_eq_repr, Nat.toList_repr] at h
  exact absurd (Nat.isDigit_of_mem_toDigits (by omega) (by omega) h) (by decide)

theorem hash_not_mem (n : Int) : '#' ∉ (toString n).toList := by
  cases n with
  | ofNat n => exact hash_not_mem_nat n
  | negSucc n =>
    have : (toString (Int.negSucc n)).toList = '-' :: (toString (n + 1)).toList := by
      show ("-" ++ toString (n + 1)).toList = _
      simp
    rw [this, List.mem_cons, not_or]
    exact ⟨by decide, hash_not_mem_nat _⟩

theorem toString_nat_inj {m n : Nat} (h : toString (m : Int) = toString (n : Int)) : m = n := by
  have h : toString m = toString n := h
  rw [Nat.toString_eq_repr, Nat.toString_eq_repr] at h
  have := congrArg (fun s => Nat.ofDigitChars 10 s.toList 0) h
  simpa only [Nat.toList_repr, Nat.ofDigitChars_ten_toDigits] using this

theorem toList_segmentId (f : String) (n : Int) :
    (segmentId f (some n)).toList = f.toList ++ '#' :: (toString n).toList := by
  simp [segmentId]

theorem segmentId_some_inj {f g : String} {m n : Int}
    (h : segmentId f (some m) = segmentId g (some n)) :
    f = g ∧ toString m = toString n := by
  have := congrArg String.toList h
  rw [toList_segmentId, toList_segmentId] at this
  obtain ⟨hf, hn⟩ := append_cons_inj (hash_not_mem m) (hash_not_mem n) this
  exact ⟨String.toList_inj.mp hf, String.toList_inj.mp hn⟩

/-- Whether no path that is known is another one with a number. -/
def ClashFree (known : String → Prop) : Prop :=
  ∀ f g, known f → known g → ∀ n : Int, f ≠ segmentId g (some n)

theorem ClashFree.eq_of_segmentId {known : String → Prop} (hc : ClashFree known) {f g : String}
    (hf : known f) (hg : known g) {o o' : Option Int} (h : segmentId f o = segmentId g o') :
    f = g := by
  cases o with
  | none =>
    cases o' with
    | none => exact h
    | some n => exact absurd h (hc f g hf hg n)
  | some m =>
    cases o' with
    | none => exact absurd h.symm (hc g f hg hf m)
    | some n => exact (segmentId_some_inj h).1

theorem clashFree_of_no_hash {known : String → Prop} (h : ∀ f, known f → '#' ∉ f.toList) :
    ClashFree known := by
  rintro f g hf - n rfl
  exact h _ hf (by simp [toList_segmentId])

/-- Whether an id is one that a file gives to its segments: its path, or its path and a number. -/
def IdOf (file id : String) : Prop := id = file ∨ ∃ n : Nat, id = file ++ "#" ++ toString n

theorem idOf_segmentId (f : String) (o : Option Nat) : IdOf f (segmentId f (o.map Int.ofNat)) := by
  cases o with
  | none => exact .inl rfl
  | some n => exact .inr ⟨n, rfl⟩

/-- Files that give the same id are the same, or one is called as the other with a number. -/
theorem IdOf.eq_or {f g id : String} (hf : IdOf f id) (hg : IdOf g id) :
    f = g ∨ (∃ n : Nat, f = g ++ "#" ++ toString n) ∨ ∃ n : Nat, g = f ++ "#" ++ toString n := by
  rcases hf with rfl | ⟨m, rfl⟩
  · rcases hg with rfl | hg
    · exact .inl rfl
    · exact .inr (.inl hg)
  · rcases hg with hg | ⟨n, hg⟩
    · exact .inr (.inr ⟨m, hg.symm⟩)
    · exact .inl (segmentId_some_inj (m := m) (n := n) hg).1

/-! ## Segments of a file -/

/-- Segments that are named after their file. -/
structure Named (path : String) (segments : List Segment) : Prop where
  file : ∀ s ∈ segments, s.fileId = path ∧ Entries.get? s.metadata "file_id" = some (.str path) ∧
    ∃ o, s.id = segmentId path o
  distinct : (segments.map (·.id)).Nodup

theorem get?_make (path id text content : String) (metadata : Entries) :
    Entries.get? (Segment.make path id text content metadata).metadata "file_id" =
      some (.str path) := by
  simp [Segment.make, Entries.putAll, Entries.get?_put]

/-- The two ways in which a file is cut: into one segment with the
id of the file, or into numbered ones. -/
inductive CutOf (path : String) (segments : List Segment) : Prop
  | whole (text content : String) (metadata : Entries)
      (h : segments = [Segment.make path (segmentId path none) text content metadata]) :
      CutOf path segments
  | numbered (h : ∀ i (hi : i < segments.length), ∃ text content metadata,
      segments[i] = Segment.make path (segmentId path (some i)) text content metadata) :
      CutOf path segments

theorem CutOf.mapIdx {α : Type} {path : String} {f : Nat → α → Segment} (xs : List α)
    (hf : ∀ i a, ∃ text content metadata,
      f i a = Segment.make path (segmentId path (some i)) text content metadata) :
      CutOf path (xs.mapIdx f) := by
  refine .numbered fun i hi => ?_
  rw [List.getElem_mapIdx]
  exact hf i _

/-- Every segment of a cut is made for the file, with the id of the file or a numbered one. -/
theorem CutOf.exists_make {path : String} {segments : List Segment} (h : CutOf path segments)
    {s : Segment}
    (hs : s ∈ segments) : ∃ (o : Option Nat) (text content : String) (metadata : Entries),
      s = Segment.make path (segmentId path (o.map Int.ofNat)) text content metadata := by
  cases h with
  | whole text content metadata h =>
    rw [h, List.mem_singleton] at hs
    exact ⟨none, text, content, metadata, hs⟩
  | numbered h =>
    obtain ⟨i, hi, rfl⟩ := List.mem_iff_getElem.mp hs
    exact ⟨some i, h i hi⟩

theorem CutOf.named {path : String} {segments : List Segment} (h : CutOf path segments) :
    Named path segments := by
  constructor
  · intro s hs
    obtain ⟨o, text, content, metadata, rfl⟩ := h.exists_make hs
    exact ⟨rfl, get?_make .., _, rfl⟩
  · cases h with
    | whole text content metadata h => simp [h]
    | numbered h =>
      have hid : ∀ i (hi : i < segments.length), segments[i].id = segmentId path (some i) := by
        intro i hi
        obtain ⟨text, content, metadata, hmake⟩ := h i hi
        rw [hmake]
        rfl
      rw [List.Nodup, List.pairwise_iff_getElem]
      intro i j hi hj hij heq
      simp only [List.getElem_map, hid] at heq
      have := toString_nat_inj (segmentId_some_inj heq).2
      omega

/-! ## The built-in strategies -/

/-- Drafts are accepted as they are, and only if there is nothing wrong with any. -/
theorem Draft.of_validateAll {path : Option String} {ds es : List Draft}
    (h : Draft.validateAll path ds = .ok es) : es = ds ∧ ∀ d ∈ ds, d.fault? = none := by
  induction ds generalizing es with
  | nil => exact ⟨(Except.ok.inj h).symm, by simp⟩
  | cons d ds ih =>
    unfold Draft.validateAll Draft.validate at h
    cases hd : d.fault? with
    | some fault => simp [hd] at h
    | none =>
      simp only [hd] at h
      cases hr : Draft.validateAll path ds with
      | error f => simp [hr, Except.map] at h
      | ok fs =>
        obtain ⟨rfl, hfaults⟩ := ih hr
        rw [hr] at h
        exact ⟨(Except.ok.inj h).symm, List.forall_mem_cons.mpr ⟨hd, hfaults⟩⟩

theorem Draft.fault?_ready {s : Segment} (h : (Draft.ready s).fault? = none) :
    s.text ≠ "" ∧ s.content ≠ "" := by
  simp only [fault?] at h
  split_ifs at h with ht hc
  exact ⟨ht, hc⟩

theorem cutOf_single (name : String) (embed content : Value) {t : FileTree} {path text : String}
    {metadata options : Entries} {ds : List Draft}
    (h : (SingleChoice.strategy name embed content).draft t path text metadata options = .ok ds) :
    ∃ segments, ds = segments.map .ready ∧ CutOf path segments := by
  simp only [SingleChoice.strategy] at h
  cases hc : SingleChoice.resolve embed content options with
  | error f => simp [hc] at h
  | ok c =>
    simp only [hc, SingleChoice.segment] at h
    cases ht : c.embed.text t path text with
    | error f => simp [ht, Except.map] at h
    | ok more =>
      simp only [ht, Except.map, Except.ok.injEq] at h
      exact ⟨[_], by rw [← h]; rfl, .whole _ _ _ rfl⟩

theorem cutOf_windows {t : FileTree} {path content : String} {metadata options : Entries}
    {ds : List Draft} (h : WindowSizes.strategy.draft t path content metadata options = .ok ds) :
    ∃ segments, ds = segments.map .ready ∧ CutOf path segments := by
  simp only [WindowSizes.strategy] at h
  cases hw : WindowSizes.resolve options with
  | error f => simp [hw, Except.map] at h
  | ok w =>
    simp only [hw, Except.map, Except.ok.injEq] at h
    exact ⟨_, h.symm, CutOf.mapIdx _ fun i a => ⟨_, _, _, rfl⟩⟩

theorem cutOf_elements (analyze : Analyzer) {t : FileTree} {path content : String}
    {metadata options : Entries} {ds : List Draft}
    (h : (elementStrategy analyze).draft t path content metadata options = .ok ds) :
    ∃ segments, ds = segments.map .ready ∧ CutOf path segments := by
  simp only [elementStrategy] at h
  cases hs : ElementSelection.resolve options with
  | error f => simp [hs] at h
  | ok s =>
    simp only [hs] at h
    cases ha : asAnalysis path (analyze t path) with
    | error f => simp [ha, Except.map] at h
    | ok es =>
      simp only [ha, Except.map, Except.ok.injEq] at h
      refine ⟨(es.filter s.keeps).mapIdx fun i e => e.segment path metadata i, ?_,
        CutOf.mapIdx _ fun i a => ⟨_, _, _, rfl⟩⟩
      rw [← h]
      exact List.ext_getElem (by simp) fun i hi hj => by simp

/-- Whether a strategy is one of those that are always there. -/
def Strategy.IsBuiltin (s : Strategy) : Prop := ∃ analyze, s ∈ (Registry.builtin analyze).strategies

theorem Strategy.IsBuiltin.cutOf {s : Strategy} (hs : s.IsBuiltin) {t : FileTree}
    {path content : String} {metadata options : Entries} {ds : List Draft}
    (h : s.draft t path content metadata options = .ok ds) :
    ∃ segments, ds = segments.map .ready ∧ CutOf path segments := by
  obtain ⟨analyze, hs⟩ := hs
  simp only [Registry.builtin, SingleChoice.builtin, List.cons_append, List.nil_append,
    List.mem_cons, List.not_mem_nil, or_false] at hs
  rcases hs with rfl | rfl | rfl | rfl | rfl | rfl
  · exact cutOf_single _ _ _ h
  · exact cutOf_single _ _ _ h
  · exact cutOf_single _ _ _ h
  · exact cutOf_single _ _ _ h
  · exact cutOf_windows h
  · exact cutOf_elements analyze h

/-- Whether a name stands for a built-in strategy, if it stands for any. -/
def Registry.Builtin (r : Registry) (name : String) : Prop := ∀ s, r.get name = .ok s → s.IsBuiltin

theorem Registry.mem_of_get {r : Registry} {name : String} {s : Strategy} (h : r.get name = .ok s) :
    s ∈ r.strategies := by
  unfold Registry.get at h
  cases hf : r.strategies.find? fun s => decide (s.name = name) with
  | none => simp [hf] at h
  | some s' =>
    simp only [hf, Except.ok.injEq] at h
    exact h ▸ List.mem_of_find?_eq_some hf

theorem Registry.builtin_builtin (analyze : Analyzer) (name : String) :
    (Registry.builtin analyze).Builtin name := fun _ hs => ⟨analyze, Registry.mem_of_get hs⟩

/-- The segments of a file under a built-in strategy are a cut of
it, and none lacks a text or a content. -/
theorem Engine.cutOf_segmentsOf {ν : Type} {e : Engine ν} {t : FileTree} {spec : Spec}
    {m : MatchedFile} (hb : e.registry.Builtin spec.strategy) {segments : List Segment}
    (h : e.segmentsOf t spec m = .ok segments) :
    CutOf m.path segments ∧ ∀ s ∈ segments, s.text ≠ "" ∧ s.content ≠ "" := by
  unfold Engine.segmentsOf at h
  cases hr : t.readText e.encoding m.path with
  | error f => simp [hr] at h
  | ok content =>
    simp only [hr, Registry.process] at h
    cases hs : e.registry.get spec.strategy with
    | error f => simp [hs, Except.map] at h
    | ok s =>
      simp only [hs] at h
      cases hd : s.draft t m.path content m.metadata spec.options with
      | error f => simp [hd, Except.map] at h
      | ok ds =>
        simp only [hd] at h
        cases hv : Draft.validateAll (some m.path) ds with
        | error f => simp [hv, Except.map] at h
        | ok es =>
          obtain ⟨segs, rfl, hcut⟩ := (hb s hs).cutOf hd
          obtain ⟨rfl, hfaults⟩ := Draft.of_validateAll hv
          simp only [hv, Except.map, Except.ok.injEq, List.map_map] at h
          have hsegs : segs.map (Draft.segment ∘ Draft.ready) = segs := by simp [Function.comp_def]
          rw [← h, hsegs]
          exact ⟨hcut, fun s hs => Draft.fault?_ready (hfaults _ (List.mem_map_of_mem hs))⟩

theorem Engine.named_segmentsOf {ν : Type} {e : Engine ν} {t : FileTree} {spec : Spec}
    {m : MatchedFile} (hb : e.registry.Builtin spec.strategy) {segments : List Segment}
    (h : e.segmentsOf t spec m = .ok segments) : Named m.path segments :=
  (cutOf_segmentsOf hb h).1.named

end SegmentIndex
