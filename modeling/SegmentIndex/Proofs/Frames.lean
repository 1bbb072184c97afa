import SegmentIndex.Index.Reindex
import SegmentIndex.Proofs.Naming

/-!
# What an event leaves alone

Following an event of a file touches the points of that file only, whatever fails on the way: the
points of other files stay, and so do the totals until they are adjusted.
-/
namespace SegmentIndex

variable {ν : Type}

namespace PointStore

variable {s : PointStore ν} {p : Point ν} {f : String} {known : String → Prop}

/-- Whether all points are of files that are known and carry ids of their files. -/
def Known (known : String → Prop) (s : PointStore ν) : Prop :=
  ∀ p ∈ s, ∃ f, known f ∧ isOf f p = true ∧ ∃ o, p.id = segmentId f o

theorem isOf_iff : isOf f p = true ↔ Entries.get? p.payload "file_id" = some (.str f) := by
  simp [isOf]

theorem isOf_unique {g : String} (hf : isOf f p = true) (hg : isOf g p = true) : f = g := by
  rw [isOf_iff] at hf hg
  simpa using hf.symm.trans hg

theorem mem_upsert {q : Point ν} (h : q ∈ upsert p s) : q = p ∨ q ∈ s := by
  induction s with
  | nil => exact .inl (by simpa [upsert] using h)
  | cons r rest ih =>
    unfold upsert at h
    split_ifs at h
    · rcases List.mem_cons.mp h with rfl | h
      · exact .inl rfl
      · exact .inr (List.mem_cons_of_mem _ h)
    · rcases List.mem_cons.mp h with rfl | h
      · exact .inr List.mem_cons_self
      · exact (ih h).imp_right (List.mem_cons_of_mem _)

/-- A point that takes the place of none that a filter keeps
is all that an upsert changes about it. -/
theorem filter_upsert_out {keep : Point ν → Bool} (hp : keep p = false)
    (h : ∀ q ∈ s, q.id = p.id → keep q = false) : (upsert p s).filter keep = s.filter keep := by
  induction s with
  | nil => simp [upsert, hp]
  | cons q rest ih =>
    have ih := ih fun r hr => h r (List.mem_cons_of_mem _ hr)
    unfold upsert
    split_ifs with hq
    · simp [hp, h q List.mem_cons_self hq]
    · simp only [List.filter_cons, ih]

theorem Known.isOf_of_id (hs : Known known s) (hc : ClashFree known) (hf : known f) {o : Option Int}
    (hp : p.id = segmentId f o) : ∀ q ∈ s, q.id = p.id → isOf f q = true := by
  intro q hq hid
  obtain ⟨g, hg, hgq, o', ho⟩ := hs q hq
  have := hc.eq_of_segmentId hg hf (ho.symm.trans (hid.trans hp))
  rwa [← this]

theorem Known.upsert (hs : Known known s) (hf : known f) (hp : isOf f p = true) {o : Option Int}
    (ho : p.id = segmentId f o) : Known known (upsert p s) := by
  intro q hq
  rcases mem_upsert hq with rfl | hq
  · exact ⟨f, hf, hp, o, ho⟩
  · exact hs q hq

theorem Known.filter (hs : Known known s) (keep : Point ν → Bool) : Known known (s.filter keep) :=
  fun p hp => hs p (List.mem_filter.mp hp).1

theorem removeFile_upsert (hs : Known known s) (hc : ClashFree known) (hf : known f)
    (hp : isOf f p = true) {o : Option Int} (ho : p.id = segmentId f o) :
    removeFile f (PointStore.upsert p s) = removeFile f s := by
  refine filter_upsert_out (by simp [hp]) fun q hq hid => ?_
  simp [hs.isOf_of_id hc hf ho q hq hid]

@[simp] theorem removeFile_removeFile (f : String) (s : PointStore ν) :
    removeFile f (removeFile f s) = removeFile f s := by simp [removeFile]

theorem length_eq (f : String) (s : PointStore ν) :
    s.length = (removeFile f s).length + countFile f s := by
  have := List.length_eq_length_filter_add (isOf f) (l := s)
  simp only [removeFile, countFile]
  omega

@[simp] theorem countFile_removeFile (f : String) (s : PointStore ν) :
    countFile f (removeFile f s) = 0 := by
  simp [countFile, removeFile]

end PointStore

namespace Engine

open PointStore

variable {e : Engine ν} {known : String → Prop}

theorem isOf_pointOf {f : String} {s : Segment} {v : ν}
    (h : Entries.get? s.metadata "file_id" = some (.str f)) : isOf f (pointOf s v) = true := by
  rw [isOf_iff, pointOf, Entries.get?_put, if_neg (by decide), h]

/-- Storing segments of a file up to a refusal leaves the points of other files alone. -/
theorem storeAll_frame (hc : ClashFree known) {f : String} (hf : known f)
    {batch : List (Segment × ν)}
    (hb : ∀ b ∈ batch, Entries.get? b.1.metadata "file_id" = some (.str f) ∧ ∃ o,
      b.1.id = segmentId f o)
    {s : PointStore ν} (hs : Known known s) :
    Known known (e.storeAll batch s).1 ∧ removeFile f (e.storeAll batch s).1 = removeFile f s := by
  induction batch generalizing s with
  | nil => exact ⟨hs, rfl⟩
  | cons b rest ih =>
    obtain ⟨segment, v⟩ := b
    obtain ⟨hfile, o, ho⟩ := hb _ List.mem_cons_self
    unfold storeAll
    cases e.refuse segment.id with
    | some failure => exact ⟨hs, rfl⟩
    | none =>
      have hp : isOf f (pointOf segment v) = true := isOf_pointOf hfile
      have ho : (pointOf segment v).id = segmentId f o := ho
      obtain ⟨hk, hr⟩ := ih (fun b hb' => hb b (List.mem_cons_of_mem _ hb')) (hs.upsert hf hp ho)
      exact ⟨hk, hr.trans (removeFile_upsert hs hc hf hp ho)⟩

theorem fst_of_embedAll {segments : List Segment} {batch : List (Segment × ν)}
    (h : e.embedAll segments = .ok batch) : batch.map (·.1) = segments := by
  induction segments generalizing batch with
  | nil => rw [← Except.ok.inj h]; rfl
  | cons s rest ih =>
    unfold embedAll at h
    cases hv : e.vectorOf s.text with
    | error f => simp [hv] at h
    | ok v =>
      cases hr : e.embedAll rest with
      | error f => simp [hv, hr, Except.map] at h
      | ok more =>
        simp only [hv, hr, Except.map, Except.ok.injEq] at h
        rw [← h, List.map_cons, ih hr]

theorem named_prepare {t : FileTree} {spec : Spec} {m : MatchedFile}
    (hb : e.registry.Builtin spec.strategy) {batch : List (Segment × ν)}
    (h : e.prepare t spec m = .ok batch) : Named m.path (batch.map (·.1)) := by
  unfold prepare at h
  cases hs : e.segmentsOf t spec m with
  | error f => simp [hs] at h
  | ok segments =>
    simp only [hs] at h
    rw [fst_of_embedAll h]
    exact named_segmentsOf hb hs

/-- Whether a point is one of a segment that a matched file has. -/
def Makes (e : Engine ν) (t : FileTree) (spec : Spec) (m : MatchedFile) (q : Point ν) : Prop :=
  ∃ segments, e.segmentsOf t spec m = .ok segments ∧ ∃ x ∈ segments, ∃ v, q = pointOf x v

theorem Makes.isOf {t : FileTree} {spec : Spec} {m : MatchedFile} {q : Point ν}
    (h : e.Makes t spec m q)
    (hb : e.registry.Builtin spec.strategy) : PointStore.isOf m.path q = true := by
  obtain ⟨segments, hs, x, hx, v, rfl⟩ := h
  exact isOf_pointOf ((named_segmentsOf hb hs).file x hx).2.1

theorem Makes.idOf {t : FileTree} {spec : Spec} {m : MatchedFile} {q : Point ν}
    (h : e.Makes t spec m q) (hb : e.registry.Builtin spec.strategy) : IdOf m.path q.id := by
  obtain ⟨segments, hs, x, hx, v, rfl⟩ := h
  obtain ⟨o, text, content, metadata, rfl⟩ := (cutOf_segmentsOf hb hs).1.exists_make hx
  exact idOf_segmentId m.path o

theorem makes_of_prepare {t : FileTree} {spec : Spec} {m : MatchedFile} {batch : List (Segment × ν)}
    (h : e.prepare t spec m = .ok batch) : ∀ b ∈ batch, e.Makes t spec m (pointOf b.1 b.2) := by
  intro b hb
  unfold prepare at h
  cases hs : e.segmentsOf t spec m with
  | error f => simp [hs] at h
  | ok segments =>
    simp only [hs] at h
    have hsegments : segments = batch.map (·.1) := (fst_of_embedAll h).symm
    exact ⟨segments, hs, b.1, hsegments ▸ List.mem_map_of_mem hb, b.2, rfl⟩

theorem mem_storeAll {batch : List (Segment × ν)} {s : PointStore ν} {q : Point ν}
    (h : q ∈ (e.storeAll batch s).1) : q ∈ s ∨ ∃ b ∈ batch, q = pointOf b.1 b.2 := by
  induction batch generalizing s with
  | nil => exact .inl h
  | cons b rest ih =>
    obtain ⟨segment, v⟩ := b
    unfold storeAll at h
    cases hr : e.refuse segment.id with
    | some f =>
      rw [hr] at h
      exact .inl h
    | none =>
      rw [hr] at h
      rcases ih h with h | ⟨b, hb, rfl⟩
      · rcases PointStore.mem_upsert h with rfl | h
        · exact .inr ⟨_, List.mem_cons_self, rfl⟩
        · exact .inl h
      · exact .inr ⟨b, List.mem_cons_of_mem _ hb, rfl⟩

/-- What is stored when a file is persisted was there before or is made of the file. -/
theorem mem_persist {t : FileTree} {spec : Spec} {m : MatchedFile} {s : PointStore ν} {q : Point ν}
    (h : q ∈ (e.persist t spec m s).1) : q ∈ s ∨ e.Makes t spec m q := by
  unfold persist at h
  cases hp : e.prepare t spec m with
  | error f =>
    rw [hp] at h
    exact .inl h
  | ok batch =>
    rw [hp] at h
    refine (mem_storeAll h).imp_right ?_
    rintro ⟨b, hb, rfl⟩
    exact makes_of_prepare hp b hb

theorem persist_frame (hc : ClashFree known) {t : FileTree} {spec : Spec} {m : MatchedFile}
    (hb : e.registry.Builtin spec.strategy) (hm : known m.path) {s : PointStore ν}
    (hs : Known known s) :
    Known known (e.persist t spec m s).1 ∧
      removeFile m.path (e.persist t spec m s).1 = removeFile m.path s := by
  unfold persist
  cases hp : e.prepare t spec m with
  | error f => exact ⟨hs, rfl⟩
  | ok batch =>
    have hn := named_prepare hb hp
    refine storeAll_frame hc hm (fun b hb' => ?_) hs
    exact (hn.file b.1 (List.mem_map_of_mem hb')).2

end Engine

theorem Spec.canonical_of_matchPath {t : FileTree} {spec : Spec} {path : String} {m : MatchedFile}
    (h : spec.matchPath t path = .ok (some m)) : t.canonical path = .ok m.path := by
  unfold matchPath at h
  rcases hp : spec.program t with f | ⟨tokens, p⟩
  · simp [hp] at h
  · simp only [hp] at h
    cases hf : t.canonical path with
    | error f => simp [hf, Except.map] at h
    | ok file =>
      simp only [hf, Except.map, matchCanonical, Except.ok.injEq, Option.map_eq_some_iff] at h
      obtain ⟨marks, -, rfl⟩ := h
      rfl

namespace Index

open PointStore (countFile)

variable {e : Engine ν} {t : FileTree} {spec : Spec} {m : MatchedFile} {i : Index ν}

@[simp] theorem store_seeCaptures : (i.seeCaptures spec m).store = i.store := by
  unfold seeCaptures
  split_ifs <;> rfl

theorem totals_seeCaptures (spec : Spec) (m : MatchedFile) (i : Index ν) :
    (i.seeCaptures spec m).stats.documents = i.stats.documents ∧
      (i.seeCaptures spec m).stats.segments = i.stats.segments := by
  unfold seeCaptures
  split_ifs <;> exact ⟨rfl, rfl⟩

theorem totals_adjust (s : Stats) (source : Option String) (documents segments : Int) :
    (s.adjust source documents segments).documents = shift s.documents documents ∧
      (s.adjust source documents segments).segments = shift s.segments segments := by
  cases source <;> exact ⟨rfl, rfl⟩

theorem store_ingestFor (counting : Bool) :
    (i.ingestFor e t counting spec m).1.store = (e.persist t spec m i.store).1 := by
  unfold ingestFor
  rcases hp : e.persist t spec m i.store with ⟨s, f | segments⟩ <;> rfl

/-- Without counting, ingesting a file leaves the totals alone, whether it fails or not. -/
theorem totals_ingestFor (e : Engine ν) (t : FileTree) (spec : Spec) (m : MatchedFile)
    (i : Index ν) :
    (i.ingestFor e t false spec m).1.stats.documents = i.stats.documents ∧
      (i.ingestFor e t false spec m).1.stats.segments = i.stats.segments := by
  unfold ingestFor
  rcases hp : e.persist t spec m i.store with ⟨s, f | segments⟩
  · exact ⟨rfl, rfl⟩
  · exact ⟨rfl, rfl⟩

theorem followContent_eq (e : Engine ν) (t : FileTree) (replacing : Bool) (spec : Spec)
    (m : MatchedFile) (i : Index ν) : ∃ i' : Index ν,
    i'.store = (if replacing then PointStore.removeFile m.path i.store else i.store) ∧
      i'.stats.documents = i.stats.documents ∧ i'.stats.segments = i.stats.segments ∧
      (i.followContent e t replacing spec m).1 =
        { (i'.ingestFor e t false spec m).1 with
          stats := (i'.ingestFor e t false spec m).1.stats.adjust (some spec.path)
            (presence (countFile m.path (i'.ingestFor e t false spec m).1.store) -
              presence (countFile m.path i.store))
            ((countFile m.path (i'.ingestFor e t false spec m).1.store : Int) -
              countFile m.path i.store) } := by
  obtain ⟨hd, hs⟩ := totals_seeCaptures spec m i
  unfold followContent
  cases replacing with
  | false =>
    refine ⟨i.seeCaptures spec m, store_seeCaptures, hd, hs, ?_⟩
    simp only [Bool.false_eq_true, if_false]
  | true =>
    refine ⟨((i.seeCaptures spec m).removeFile m.path).1, by simp [removeFile], hd, hs, ?_⟩
    simp only [if_true]

end Index

end SegmentIndex
