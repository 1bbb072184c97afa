import SegmentIndex.Proofs.Frames
import Mathlib

/-!
# Totals

The totals of an index are the number of its points and the number of the files that
they belong to. They stay so whatever events are followed and whatever fails, and no
counter is ever cut off at zero on the way.
-/
namespace SegmentIndex

variable {ν : Type}

namespace PointStore

/-- The files that stored points belong to. -/
def files (s : PointStore ν) : Finset (Option Value) :=
  (s.map fun p => Entries.get? p.payload "file_id").toFinset

theorem mem_files {s : PointStore ν} {v : Option Value} :
    v ∈ files s ↔ ∃ p ∈ s, Entries.get? p.payload "file_id" = v := by simp [files]

theorem countFile_pos {f : String} {s : PointStore ν} :
    0 < countFile f s ↔ some (.str f) ∈ files s := by
  rw [countFile, List.length_pos_iff_exists_mem, mem_files]
  simp only [List.mem_filter, isOf_iff]

theorem card_files (f : String) (s : PointStore ν) :
    (files s).card = (files (removeFile f s)).card + if 0 < countFile f s then 1 else 0 := by
  have herase : files (removeFile f s) = (files s).erase (some (.str f)) := by
    ext v
    rw [Finset.mem_erase, mem_files, mem_files]
    constructor
    · rintro ⟨p, hp, rfl⟩
      obtain ⟨hp, hn⟩ := List.mem_filter.mp hp
      exact ⟨fun h => by simp [isOf_iff.mpr h] at hn, p, hp, rfl⟩
    · rintro ⟨hv, p, hp, rfl⟩
      exact ⟨p, List.mem_filter.mpr ⟨hp, by simpa [isOf] using hv⟩, rfl⟩
  rw [herase]
  split_ifs with h
  · rw [countFile_pos] at h
    exact (Finset.card_erase_add_one h).symm
  · rw [countFile_pos] at h
    rw [Finset.erase_eq_of_notMem h, Nat.add_zero]

end PointStore

/-- An event that is followed, with the engine and the files as they are at that time. -/
structure Step (ν : Type) where
  engine : Engine ν
  tree : FileTree
  kind : String
  path : String
  spec : Spec

namespace Index

open PointStore (Known countFile countFile_removeFile length_eq card_files files)

variable {e : Engine ν} {t : FileTree} {spec : Spec} {m : MatchedFile} {i j : Index ν}
  {known : String → Prop}

/-- Whether the totals are those of the store. -/
structure Balanced (i : Index ν) : Prop where
  segments : i.stats.segments = i.store.length
  documents : i.stats.documents = (files i.store).card

/-- The totals that a change of one file leads to, by what the store shows before and after. -/
structure Adjusted (file : String) (i j : Index ν) : Prop where
  others : PointStore.removeFile file j.store = PointStore.removeFile file i.store
  segments : j.stats.segments =
    shift i.stats.segments ((countFile file j.store : Int) - countFile file i.store)
  documents : j.stats.documents =
    shift i.stats.documents (presence (countFile file j.store) - presence (countFile file i.store))

theorem Adjusted.exact {file : String} (h : Adjusted file i j) (hi : i.Balanced) :
    (j.stats.segments : Int) =
        i.stats.segments + ((countFile file j.store : Int) - countFile file i.store) ∧
      (j.stats.documents : Int) =
        i.stats.documents + (presence (countFile file j.store) -
          presence (countFile file i.store)) := by
  have hl := length_eq file i.store
  have hc := card_files file i.store
  have hs := hi.segments
  have hd := hi.documents
  rw [h.segments, h.documents]
  simp only [shift, presence]
  split_ifs at hc ⊢ <;> omega

theorem Adjusted.balanced {file : String} (h : Adjusted file i j) (hi : i.Balanced) :
    j.Balanced := by
  obtain ⟨hs, hd⟩ := h.exact hi
  have hl := length_eq file i.store
  have hl' := length_eq file j.store
  have hc := card_files file i.store
  have hc' := card_files file j.store
  have := hi.segments
  have := hi.documents
  rw [h.others] at hl' hc'
  simp only [presence] at hd
  constructor
  · omega
  · split_ifs at hc hc' hd <;> omega

theorem adjusted_followRemoval (file : String) : Adjusted file i (i.followRemoval spec file) := by
  unfold followRemoval removeFile
  dsimp only
  split_ifs with h
  · refine ⟨by simp, ?_, ?_⟩ <;> simp [h, shift, presence]
  · refine ⟨by simp, ?_, ?_⟩
    · simp [(totals_adjust _ _ _ _).2]
    · have : 0 < countFile file i.store := by omega
      simp [(totals_adjust _ _ _ _).1, presence, this]

theorem adjusted_followContent (hc : ClashFree known) (hb : e.registry.Builtin spec.strategy)
    (hm : known m.path) (hi : Known known i.store) (replacing : Bool) :
    Known known (i.followContent e t replacing spec m).1.store ∧
      Adjusted m.path i (i.followContent e t replacing spec m).1 := by
  obtain ⟨i', hstore, hd, hs, heq⟩ := followContent_eq e t replacing spec m i
  have hk : Known known i'.store := by
    rw [hstore]
    cases replacing
    · exact hi
    · exact hi.filter _
  have ho : PointStore.removeFile m.path i'.store = PointStore.removeFile m.path i.store := by
    rw [hstore]
    cases replacing <;> simp
  obtain ⟨hkj, hoj⟩ := Engine.persist_frame (e := e) (t := t) hc hb hm hk
  rw [← store_ingestFor false] at hkj hoj
  obtain ⟨hdj, hsj⟩ := totals_ingestFor e t spec m i'
  rw [heq]
  generalize (i'.ingestFor e t false spec m).1 = j at hkj hoj hdj hsj
  refine ⟨hkj, hoj.trans ho, ?_, ?_⟩
  · rw [(totals_adjust _ _ _ _).2, hsj, hs]
  · rw [(totals_adjust _ _ _ _).1, hdj, hd]

/-- Following one event changes the totals as it changes the store, or changes neither. -/
theorem adjusted_reindex (hc : ClashFree known) (kind : String) {path : String}
    (hb : e.registry.Builtin spec.strategy) (hp : ∀ f, t.canonical path = .ok f → known f)
    (hi : Known known i.store) :
    Known known (i.reindex e t kind path spec).1.store ∧
      ((i.reindex e t kind path spec).1 = i ∨
        ∃ file, t.canonical path = .ok file ∧
        Adjusted file i (i.reindex e t kind path spec).1) := by
  unfold reindex
  split_ifs
  · exact ⟨hi, .inl rfl⟩
  · cases hf : t.canonical path with
    | error f => exact ⟨hi, .inl rfl⟩
    | ok file =>
      refine ⟨?_, .inr ⟨file, rfl, adjusted_followRemoval file⟩⟩
      unfold followRemoval removeFile
      dsimp only
      split_ifs
      · exact hi.filter _
      · exact hi.filter _
  · cases hm : spec.matchPath t path with
    | error f => exact ⟨hi, .inl rfl⟩
    | ok found =>
      cases found with
      | none => exact ⟨hi, .inl rfl⟩
      | some m =>
        have hf := Spec.canonical_of_matchPath hm
        have hj := adjusted_followContent (e := e) (t :=
          t) hc hb (hp _ hf) hi (decide (kind = "modify"))
        dsimp only
        rcases hx : i.followContent e t (kind = "modify") spec m with ⟨j, r⟩
        rw [hx] at hj
        exact ⟨hj.1, .inr ⟨m.path, hf, hj.2⟩⟩

def follow (i : Index ν) (s : Step ν) : Index ν :=
  (i.reindex s.engine s.tree s.kind s.path s.spec).1

/-- Follows events one after the other. -/
def followAll (i : Index ν) (steps : List (Step ν)) : Index ν := steps.foldl follow i

theorem balanced_followAll {known : String → Prop} (hc : ClashFree known) (steps : List (Step ν))
    (hb : ∀ s ∈ steps, s.engine.registry.Builtin s.spec.strategy)
    (hp : ∀ s ∈ steps, ∀ f, s.tree.canonical s.path = .ok f → known f) {i : Index ν}
    (hk : Known known i.store) (hi : i.Balanced) : (i.followAll steps).Balanced := by
  induction steps generalizing i with
  | nil => exact hi
  | cons s rest ih =>
    obtain ⟨hk', ha⟩ := adjusted_reindex hc s.kind (hb s List.mem_cons_self)
      (hp s List.mem_cons_self) hk
    have hi' : (i.follow s).Balanced := by
      rcases ha with ha | ⟨file, -, ha⟩
      · rw [follow, ha]
        exact hi
      · exact ha.balanced hi
    exact ih (fun s hs => hb s (List.mem_cons_of_mem _ hs)) (fun s hs =>
      hp s (List.mem_cons_of_mem _ hs))
      hk' hi'

/-- The totals of an index are those of its store after every one of the events that it follows, if
they were so before and no path is another one with a number. -/
theorem totals_of_followAll (i : Index ν) (steps : List (Step ν))
    (hb : ∀ s ∈ steps, s.engine.registry.Builtin s.spec.strategy)
    (hi : i.Balanced)
    (hn : ∀ p ∈ i.store, ∃ f, PointStore.isOf f p = true ∧ ∃ o, p.id = segmentId f o)
    (hc : ClashFree fun f => (∃ p ∈ i.store, PointStore.isOf f p = true) ∨
      ∃ s ∈ steps, s.tree.canonical s.path = .ok f) (n : Nat) :
    (i.followAll (steps.take n)).stats.segments = (i.followAll (steps.take n)).store.length ∧
      (i.followAll (steps.take n)).stats.documents =
        (files (i.followAll (steps.take n)).store).card := by
  have hk : Known (fun f => (∃ p ∈ i.store, PointStore.isOf f p = true) ∨
      ∃ s ∈ steps, s.tree.canonical s.path = .ok f) i.store := by
    intro p hp
    obtain ⟨f, hf, ho⟩ := hn p hp
    exact ⟨f, .inl ⟨p, hp, hf⟩, hf, ho⟩
  have := balanced_followAll hc (steps.take n) (fun s hs => hb s (List.mem_of_mem_take hs))
    (fun s hs f hf => .inr ⟨s, List.mem_of_mem_take hs, hf⟩) hk hi
  exact ⟨this.segments, this.documents⟩

/-- Two points of one file, one of another and nothing else. -/
def threePoints : Index Unit where
  store := [⟨"a.md#0", (), [("file_id", .str "a.md")]⟩, ⟨"b.md", (), [("file_id", .str "b.md")]⟩,
    ⟨"a.md#1", (), [("file_id", .str "a.md")]⟩]
  stats := { maxFailures := 20, maxSources := 100, documents := 2, segments := 3 }

/-- The removal of a file, of which a second report comes, and an event of no kind. -/
def removals : List (Step Unit) :=
  let engine : Engine Unit := ⟨Registry.builtin fun _ _ => .ok [], fun _ => .ok (),
    fun _ => none, "utf-8"⟩
  let spec : Spec := ⟨"*.md", [.glob false, .literal ".md"], "", "chunked", [], [], true⟩
  ["delete", "delete", "rename"].map fun kind => ⟨engine, ⟨[], []⟩, kind, "a.md", spec⟩

theorem canonical_removals {s : Step Unit} (hs : s ∈ removals) :
    s.tree.canonical s.path = .ok "a.md" := by
  simp only [removals, List.map_cons, List.map_nil, List.mem_cons, List.not_mem_nil, or_false] at hs
  rcases hs with rfl | rfl | rfl <;> cbv

theorem totals_of_removals : (threePoints.followAll (removals.take 2)).store.length = 1 ∧
    (threePoints.followAll (removals.take 2)).stats.segments =
        (threePoints.followAll (removals.take 2)).store.length ∧
      (threePoints.followAll (removals.take 2)).stats.documents =
        (files (threePoints.followAll (removals.take 2)).store).card := by
  have hone : (threePoints.followAll (removals.take 2)).store.length = 1 := by cbv
  have hbalanced : threePoints.Balanced := ⟨by decide, by decide⟩
  have hbuiltin : ∀ s ∈ removals, s.engine.registry.Builtin s.spec.strategy := by
    intro s hs
    simp only [removals, List.map_cons, List.map_nil, List.mem_cons, List.not_mem_nil, or_false]
      at hs
    rcases hs with rfl | rfl | rfl <;> exact Registry.builtin_builtin _ _
  have hnamed : ∀ p ∈ threePoints.store, ∃ f, PointStore.isOf f p = true ∧ '#' ∉ f.toList ∧
      ∃ o, p.id = segmentId f o := by
    intro p hp
    simp only [threePoints, List.mem_cons, List.not_mem_nil, or_false] at hp
    rcases hp with rfl | rfl | rfl
    · exact ⟨"a.md", by decide, by decide, some 0, by decide⟩
    · exact ⟨"b.md", by decide, by decide, none, by decide⟩
    · exact ⟨"a.md", by decide, by decide, some 1, by decide⟩
  have hclash : ClashFree fun f => (∃ p ∈ threePoints.store, PointStore.isOf f p = true) ∨
      ∃ s ∈ removals, s.tree.canonical s.path = .ok f := by
    refine clashFree_of_no_hash ?_
    rintro f (⟨p, hp, hf⟩ | ⟨s, hs, hf⟩)
    · obtain ⟨g, hg, hhash, -⟩ := hnamed p hp
      rwa [PointStore.isOf_unique hf hg]
    · rw [canonical_removals hs, Except.ok.injEq] at hf
      rw [← hf]
      decide
  have hids : ∀ p ∈ threePoints.store, ∃ f, PointStore.isOf f p = true ∧ ∃ o,
      p.id = segmentId f o := by
    intro p hp
    obtain ⟨f, hf, -, ho⟩ := hnamed p hp
    exact ⟨f, hf, ho⟩
  exact ⟨hone, totals_of_followAll threePoints removals hbuiltin hbalanced hids hclash 2⟩

end Index

end SegmentIndex
