import SegmentIndex.Proofs.Precedence

/-!
# Ids that two files share

A strategy either makes one segment of a file, which has the path of the file as its id, or numbers
the segments. Two files share an id exactly when one of them is a single segment and has the path of
the other, a hash and the number of one of its segments. Storing a file leaves the points of another
one alone if they share no id, and takes the place of one of them if they do.
-/
namespace SegmentIndex

variable {ν : Type}

/-! ## Ids of one file -/

def Draft.ids (ds : List Draft) : List String := ds.map (·.segment.id)

/-- The ids of a file whose segments are numbered. -/
def numberedIds (path : String) (n : Nat) : List String :=
  (List.range n).map fun i : Nat => segmentId path (some (i : Int))

theorem mem_numberedIds {path id : String} {n : Nat} :
    id ∈ numberedIds path n ↔ ∃ i < n, id = segmentId path (some (i : Int)) := by
  simp [numberedIds, eq_comm]

theorem ids_ready (segments : List Segment) :
    Draft.ids (segments.map .ready) = segments.map (·.id) := by
  rw [Draft.ids, List.map_map]
  rfl

theorem ids_mapIdx {α : Type} {path : String} {f : Nat → α → Segment} (xs : List α)
    (hf : ∀ i a, (f i a).id = segmentId path (some i)) :
    (xs.mapIdx f).map (·.id) = numberedIds path xs.length := by
  refine List.ext_getElem (by simp [numberedIds]) ?_
  intro i hi hj
  simp [numberedIds, hf]

theorem ids_single (name : String) (embed content : Value) {t : FileTree} {path text : String}
    {metadata options : Entries} {ds : List Draft}
    (h : (SingleChoice.strategy name embed content).draft t path text metadata options = .ok ds) :
    Draft.ids ds = [path] := by
  simp only [SingleChoice.strategy] at h
  cases hc : SingleChoice.resolve embed content options with
  | error f => simp [hc] at h
  | ok c =>
    simp only [hc] at h
    obtain ⟨segment, hsegment, rfl⟩ := Pattern.exists_of_map_eq_ok h
    obtain ⟨found, -, rfl⟩ := Pattern.exists_of_map_eq_ok hsegment
    rfl

theorem ids_windows {t : FileTree} {path content : String} {metadata options : Entries}
    {ds : List Draft} (h : WindowSizes.strategy.draft t path content metadata options = .ok ds) :
    Draft.ids ds = numberedIds path ds.length := by
  simp only [WindowSizes.strategy] at h
  obtain ⟨w, -, rfl⟩ := Pattern.exists_of_map_eq_ok h
  rw [ids_ready, List.length_map, WindowSizes.segments, List.length_mapIdx]
  exact ids_mapIdx _ fun i a => rfl

theorem ids_elements (analyze : Analyzer) {t : FileTree} {path content : String}
    {metadata options : Entries} {ds : List Draft}
    (h : (elementStrategy analyze).draft t path content metadata options = .ok ds) :
    Draft.ids ds = numberedIds path ds.length := by
  simp only [elementStrategy] at h
  cases hs : ElementSelection.resolve options with
  | error f => simp [hs] at h
  | ok s =>
    simp only [hs] at h
    obtain ⟨es, -, rfl⟩ := Pattern.exists_of_map_eq_ok h
    have hready : ((es.filter s.keeps).mapIdx fun i e => Draft.ready (e.segment path metadata i)) =
        ((es.filter s.keeps).mapIdx fun i e => e.segment path metadata i).map .ready :=
      (map_mapIdx _ _ _).symm
    rw [hready, ids_ready, List.length_map, List.length_mapIdx]
    exact ids_mapIdx _ fun i a => rfl

/-- Whether a built-in strategy numbers the segments of a file. -/
def Strategy.Numbers (s : Strategy) : Prop := s.name = "chunked" ∨ s.name = "code-analysis"

/-- A built-in strategy numbers the segments of a file, or gives
its one segment the path of the file. -/
theorem Strategy.IsBuiltin.ids {s : Strategy} (hs : s.IsBuiltin) {t : FileTree}
    {path content : String} {metadata options : Entries} {ds : List Draft}
    (h : s.draft t path content metadata options = .ok ds) :
    (s.Numbers ∧ Draft.ids ds = numberedIds path ds.length) ∨
    (¬ s.Numbers ∧ Draft.ids ds = [path]) := by
  obtain ⟨analyze, hs⟩ := hs
  simp only [Registry.builtin, SingleChoice.builtin, List.cons_append, List.nil_append,
    List.mem_cons, List.not_mem_nil, or_false] at hs
  rcases hs with rfl | rfl | rfl | rfl | rfl | rfl
  · exact .inr ⟨by simp [Numbers, SingleChoice.strategy], ids_single _ _ _ h⟩
  · exact .inr ⟨by simp [Numbers, SingleChoice.strategy], ids_single _ _ _ h⟩
  · exact .inr ⟨by simp [Numbers, SingleChoice.strategy], ids_single _ _ _ h⟩
  · exact .inr ⟨by simp [Numbers, SingleChoice.strategy], ids_single _ _ _ h⟩
  · exact .inl ⟨.inl rfl, ids_windows h⟩
  · exact .inl ⟨.inr rfl, ids_elements analyze h⟩

/-! ## Ids of two files -/

/-- Whether a file that is one segment has the id of a
numbered segment of another file as its path. -/
def TakesNumber (s : Strategy) (path : String) (n : Nat) (s' : Strategy) (path' : String) : Prop :=
  s.Numbers ∧ ¬ s'.Numbers ∧ path' ∈ numberedIds path n

theorem disjoint_numberedIds {path path' : String} (hne : path ≠ path') (n n' : Nat) :
    List.Disjoint (numberedIds path n) (numberedIds path' n') := by
  intro id hid hid'
  obtain ⟨i, -, rfl⟩ := mem_numberedIds.mp hid
  obtain ⟨j, -, heq⟩ := mem_numberedIds.mp hid'
  exact hne (segmentId_some_inj heq).1

theorem Strategy.IsBuiltin.disjoint_ids_iff {s s' : Strategy} (hs : s.IsBuiltin)
    (hs' : s'.IsBuiltin) {t t' : FileTree} {path path' content content' : String}
    {metadata metadata' options options' : Entries} {ds ds' : List Draft} (hne : path ≠ path')
    (h : s.draft t path content metadata options = .ok ds)
    (h' : s'.draft t' path' content' metadata' options' = .ok ds') :
    List.Disjoint (Draft.ids ds) (Draft.ids ds') ↔
      ¬ TakesNumber s path ds.length s' path' ∧ ¬ TakesNumber s' path' ds'.length s path := by
  rcases hs.ids h with ⟨hn, hids⟩ | ⟨hn, hids⟩
  · rcases hs'.ids h' with ⟨hn', hids'⟩ | ⟨hn', hids'⟩
    · rw [hids, hids']
      exact iff_of_true (disjoint_numberedIds hne _ _) ⟨fun c => c.2.1 hn', fun c => c.2.1 hn⟩
    · rw [hids, hids', List.disjoint_singleton]
      exact ⟨fun hm => ⟨fun c => hm c.2.2, fun c => hn' c.1⟩, fun hm hmem => hm.1 ⟨hn, hn', hmem⟩⟩
  · rcases hs'.ids h' with ⟨hn', hids'⟩ | ⟨hn', hids'⟩
    · rw [hids, hids', List.singleton_disjoint]
      exact ⟨fun hm => ⟨fun c => hn c.1, fun c => hm c.2.2⟩, fun hm hmem => hm.2 ⟨hn', hn, hmem⟩⟩
    · rw [hids, hids', List.disjoint_singleton, List.mem_singleton]
      exact iff_of_true (Ne.symm hne) ⟨fun c => hn c.1, fun c => hn' c.1⟩

/-! ## Stored points -/

namespace PointStore

variable {s : PointStore ν} {ps : List (Point ν)} {id : String}

theorem find?_upsertAll_of_not_mem (h : id ∉ ps.map (·.id)) :
    find? id (upsertAll ps s) = find? id s := by
  induction ps generalizing s with
  | nil => rfl
  | cons p ps ih =>
    obtain ⟨hp, hps⟩ := not_or.mp (mt List.mem_cons.mpr (List.map_cons ▸ h))
    have hstep : upsertAll (p :: ps) s = upsertAll ps (upsert p s) := rfl
    rw [hstep, ih hps, find?_upsert, if_neg hp]

theorem find?_upsertAll_of_mem (h : id ∈ ps.map (·.id)) :
    ∃ p ∈ ps, find? id (upsertAll ps s) = some p := by
  induction ps generalizing s with
  | nil => exact absurd h List.not_mem_nil
  | cons p ps ih =>
    have hstep : upsertAll (p :: ps) s = upsertAll ps (upsert p s) := rfl
    rw [hstep]
    by_cases hps : id ∈ ps.map (·.id)
    · obtain ⟨q, hq, hfind⟩ := @ih (upsert p s) hps
      exact ⟨q, List.mem_cons_of_mem p hq, hfind⟩
    · have hp : id = p.id := (List.mem_cons.mp (List.map_cons ▸ h)).resolve_right hps
      refine ⟨p, List.mem_cons_self, ?_⟩
      rw [find?_upsertAll_of_not_mem hps, find?_upsert, if_pos hp]

end PointStore

/-- The segments of drafts with their vectors. -/
def Engine.Carries (batch : List (Segment × ν)) (ds : List Draft) : Prop :=
  batch.map (·.1) = ds.map Draft.segment

theorem Engine.Carries.ids {batch : List (Segment × ν)} {ds : List Draft}
    (h : Engine.Carries batch ds) :
    (Engine.pointsOf batch).map (·.id) = Draft.ids ds := by
  have hids := congrArg (List.map fun s : Segment => s.id) h
  simp only [List.map_map] at hids
  rw [Engine.pointsOf, List.map_map]
  exact hids

/-- Files share an id exactly when one is a single segment that has the id of a numbered segment of
the other one as its path. If they share none, storing the one leaves all points of the other alone,
however it ends; if they do, the one takes the place of a point of the other. -/
theorem Strategy.IsBuiltin.ids_apart_iff {s s' : Strategy} (hs : s.IsBuiltin) (hs' : s'.IsBuiltin)
    {t t' : FileTree} {path path' content content' : String}
    {metadata metadata' options options' : Entries} {ds ds' : List Draft} (hne : path ≠ path')
    (h : s.draft t path content metadata options = .ok ds)
    (h' : s'.draft t' path' content' metadata' options' = .ok ds') :
    (List.Disjoint (Draft.ids ds) (Draft.ids ds') ↔
        ¬ TakesNumber s path ds.length s' path' ∧ ¬ TakesNumber s' path' ds'.length s path) ∧
      ∀ (e : Engine ν) (batch : List (Segment × ν)) (store : PointStore ν),
        Engine.Carries batch ds' →
        (List.Disjoint (Draft.ids ds) (Draft.ids ds') → ∀ id ∈ Draft.ids ds,
          PointStore.find? id (e.storeAll batch store).1 = PointStore.find? id store) ∧
        (¬ List.Disjoint (Draft.ids ds) (Draft.ids ds') → (e.storeAll batch store).2 = .ok () →
          ∃ id ∈ Draft.ids ds, ∃ q, PointStore.find? id (e.storeAll batch store).1 = some q ∧
            PointStore.isOf path' q = true) := by
  refine ⟨hs.disjoint_ids_iff hs' hne h h', ?_⟩
  intro e batch store hbatch
  constructor
  · intro hdisjoint id hid
    rw [e.fst_storeAll]
    apply PointStore.find?_upsertAll_of_not_mem
    intro hmem
    have hsub : (batch.takeWhile fun b => (e.refuse b.1.id).isNone) ⊆ batch :=
      (List.takeWhile_sublist _).subset
    have hmem' :=
      List.map_subset (·.id) (List.map_subset (fun b => Engine.pointOf b.1 b.2) hsub) hmem
    exact hdisjoint hid (hbatch.ids ▸ hmem')
  · intro hclash hok
    simp only [List.Disjoint, not_forall] at hclash
    obtain ⟨id, hid, hid', -⟩ := hclash
    rw [← hbatch.ids] at hid'
    obtain ⟨q, hq, hfind⟩ := PointStore.find?_upsertAll_of_mem (s := store) hid'
    refine ⟨id, hid, q, ?_, ?_⟩
    · rw [e.fst_storeAll, Engine.takeWhile_of_storeAll hok]
      exact hfind
    · obtain ⟨b, hb, rfl⟩ := List.mem_map.mp hq
      obtain ⟨segments, rfl, hcut⟩ := hs'.cutOf h'
      have hsegments : (segments.map Draft.ready).map Draft.segment = segments := by
        rw [List.map_map]
        exact List.map_id segments
      have hmem : b.1 ∈ segments := by
        rw [← hsegments, ← hbatch]
        exact List.mem_map_of_mem hb
      exact Engine.isOf_pointOf (hcut.named.file b.1 hmem).2.1

/-! ## Two files -/

namespace Paired

/-- The strategies of the two files: the first is cut into windows, the second is one segment. -/
theorem isBuiltin_windows : WindowSizes.strategy.IsBuiltin :=
  ⟨fun _ _ => .ok [], by simp [Registry.builtin]⟩

theorem isBuiltin_whole :
    (SingleChoice.strategy "whole-document" (.str "whole-document")
    (.str "whole-document")).IsBuiltin :=
  ⟨fun _ _ => .ok [], by simp [Registry.builtin, SingleChoice.builtin]⟩

/-- The drafts of the first file, which has one window. -/
def numbered : List Draft :=
  [.ready (Segment.make "/d/a.md" "/d/a.md#0" "abc" "abc"
    [("chunk_index", .int 0), ("chunk_count", .int 1), ("chunk_offset", .int 0)])]

/-- The drafts of the second file, at a path. -/
def whole (path : String) : List Draft := [.ready (Segment.make path path "xyz" "xyz" [])]

theorem draft_numbered : WindowSizes.strategy.draft ⟨[], []⟩ "/d/a.md" "abc" [] [] =
    .ok numbered := by decide

theorem draft_whole (path : String) :
    (SingleChoice.strategy "whole-document" (.str "whole-document") (.str "whole-document")).draft
      ⟨[], []⟩ path "xyz" [] [] = .ok (whole path) := rfl

/-- The path and a number beyond the last segment is no id of the first file. -/
theorem ids_apart :
    "/d/a.md" ≠ "/d/a.md#1" ∧ List.Disjoint (Draft.ids numbered)
      (Draft.ids (whole "/d/a.md#1")) := by
  have hne : "/d/a.md" ≠ "/d/a.md#1" := by decide
  refine ⟨hne,
    (@Strategy.IsBuiltin.ids_apart_iff Unit _ _ isBuiltin_windows isBuiltin_whole _ _ _ _ _ _
    _ _ _ _ _ _
    hne draft_numbered (draft_whole _)).1.mpr ⟨?_, ?_⟩⟩
  · rintro ⟨-, -, hmem⟩
    exact absurd hmem (by decide)
  · rintro ⟨-, -, hmem⟩
    exact absurd hmem (by decide)

/-- The path and the number of a segment is an id of both files. -/
theorem ids_clash : "/d/a.md" ≠ "/d/a.md#0" ∧
    WindowSizes.strategy.draft ⟨[], []⟩ "/d/a.md" "abc" [] [] = .ok numbered ∧
    (SingleChoice.strategy "whole-document" (.str "whole-document") (.str "whole-document")).draft
      ⟨[], []⟩ "/d/a.md#0" "xyz" [] [] = .ok (whole "/d/a.md#0") ∧
    ¬ List.Disjoint (Draft.ids numbered) (Draft.ids (whole "/d/a.md#0")) := by
  refine ⟨by decide, draft_numbered, draft_whole _, ?_⟩
  intro h
  have hmem : "/d/a.md#0" ∈ Draft.ids numbered := by decide
  exact h hmem (by decide)

end Paired

end SegmentIndex
