import SegmentIndex.Proofs.Failures
import SegmentIndex.Proofs.Totals

/-!
# How many documents are counted

Ingesting all files counts every file that does not fail, and following events counts files by the
points that they have before and after. The two rules disagree about a file that has no segments: it
is counted at first, and once more when an event brings in its first points. A file whose points
give way to those of another file, because they bear the same ids, is counted again in the same way.
-/
namespace SegmentIndex

open PointStore (isOf files countFile)

section

variable {ν : Type} {e : Engine ν} {t : FileTree} {spec : Spec} {m : MatchedFile}

namespace PointStore

variable {s s' : PointStore ν} {file : String}

/-- The files beside one that had points and have none any more. -/
def displaced (file : String) (s s' : PointStore ν) : Finset (Option Value) :=
  files (removeFile file s) \ files (removeFile file s')

@[simp] theorem displaced_self (file : String) (s : PointStore ν) : displaced file s s = ∅ := by
  simp [displaced]

/-- When no other file gets a point, the others are those that
keep some and those that were displaced. -/
theorem card_displaced (h : ∀ q ∈ s', isOf file q = false → q ∈ s) :
    (files (removeFile file s')).card + (displaced file s s').card =
      (files (removeFile file s)).card := by
  have hsub : files (removeFile file s') ⊆ files (removeFile file s) := by
    intro v hv
    obtain ⟨q, hq, rfl⟩ := mem_files.mp hv
    obtain ⟨hq, hn⟩ := List.mem_filter.mp hq
    exact mem_files.mpr ⟨q, List.mem_filter.mpr ⟨h q hq (by simpa using hn), hn⟩, rfl⟩
  rw [Nat.add_comm, displaced, Finset.card_sdiff_add_card_eq_card hsub]

end PointStore

open PointStore (Known Distinct displaced card_displaced card_files)

theorem PointStore.countFile_of_removeFile {f g : String} (hne : f ≠ g) {s s' : PointStore ν}
    (h : removeFile g s' = removeFile g s) : countFile f s' = countFile f s := by
  have hof : ∀ s : PointStore ν, countFile f (removeFile g s) = countFile f s := by
    intro s
    rw [countFile, removeFile, List.filter_filter, countFile]
    refine congrArg List.length (List.filter_congr fun q _ => ?_)
    cases hf : isOf f q with
    | false => rfl
    | true =>
      have hg : isOf g q = false := by
        by_contra hg
        exact hne (isOf_unique hf (by simpa using hg))
      simp [hg]
  rw [← hof s', h, hof s]

theorem PointStore.countFile_eq_zero {file : String} {s : PointStore ν} :
    countFile file s = 0 ↔ ∀ q ∈ s, isOf file q = false := by
  simp [countFile]

/-- Of some files that all points belong to, those with points and those without. -/
theorem PointStore.card_files_add {s : PointStore ν} {known : Finset String}
    (h : ∀ q ∈ s, ∃ f ∈ known, isOf f q = true) :
    (files s).card + (known.filter fun f => countFile f s = 0).card = known.card := by
  have himage : files s = (known.filter fun f => ¬ countFile f s = 0).image fun f =>
      some (.str f) := by
    ext v
    rw [mem_files, Finset.mem_image]
    constructor
    · rintro ⟨q, hq, rfl⟩
      obtain ⟨f, hf, hisof⟩ := h q hq
      refine ⟨f, Finset.mem_filter.mpr ⟨hf, fun hzero => ?_⟩, (isOf_iff.mp hisof).symm⟩
      simp [countFile_eq_zero.mp hzero q hq] at hisof
    · rintro ⟨f, hf, rfl⟩
      have hpos := Nat.pos_of_ne_zero (Finset.mem_filter.mp hf).2
      exact mem_files.mp (countFile_pos.mp hpos)
  have hinj : Function.Injective fun f : String => some (Value.str f) := by
    intro f g hfg
    simpa using hfg
  rw [himage, Finset.card_image_of_injective _ hinj, Nat.add_comm,
    Finset.card_filter_add_card_filter_not]

/-! ## Points that are stored -/

namespace Engine

theorem storeAll_ok (hr : ∀ id, e.refuse id = none) (batch : List (Segment × ν))
    (s : PointStore ν) :
    (e.storeAll batch s).2 = .ok () := by
  induction batch generalizing s with
  | nil => rfl
  | cons b rest ih =>
    obtain ⟨segment, v⟩ := b
    simp only [storeAll, hr]
    exact ih _

end Engine

namespace Index

variable {i j : Index ν} {file : String}

/-! ## Following one event -/

/-- What following an event of a file does to the points of
other files, and to the documents counted. -/
structure Touched (file : String) (i j : Index ν) : Prop where
  others : ∀ q ∈ j.store, isOf file q = false → q ∈ i.store
  documents : j.stats.documents =
    shift i.stats.documents (presence (countFile file j.store) - presence (countFile file i.store))

/-- The documents counted beyond the files with points grow by the files that are displaced. -/
theorem Touched.documents_eq (h : Touched file i j) {n : Nat}
    (hi : i.stats.documents = (files i.store).card + n) :
    j.stats.documents = (files j.store).card + (n + (displaced file i.store j.store).card) := by
  have hd := card_displaced h.others
  have hci := card_files file i.store
  have hcj := card_files file j.store
  rw [h.documents]
  simp only [shift, presence]
  split_ifs at hci hcj ⊢ <;> omega

theorem touched_followRemoval (file : String) : Touched file i (i.followRemoval spec file) := by
  refine ⟨fun q hq _ => ?_, (adjusted_followRemoval file).documents⟩
  rw [store_followRemoval] at hq
  exact (List.mem_filter.mp hq).1

theorem mem_followContent {replacing : Bool} {q : Point ν}
    (h : q ∈ (i.followContent e t replacing spec m).1.store) :
    q ∈ i.store ∨ e.Makes t spec m q := by
  obtain ⟨i', hi', hstore, -⟩ := followContent_spec e t replacing spec m i
  rw [hstore, store_ingestFor] at h
  refine (Engine.mem_persist h).imp_left fun h => ?_
  rw [hi'] at h
  split_ifs at h
  · exact (List.mem_filter.mp h).1
  · exact h

theorem touched_followContent (hb : e.registry.Builtin spec.strategy) (replacing : Bool) :
    Touched m.path i (i.followContent e t replacing spec m).1 := by
  constructor
  · intro q hq hn
    refine (mem_followContent hq).resolve_right fun hmake => ?_
    simp [hmake.isOf hb] at hn
  · obtain ⟨i', -, hd, -, heq⟩ := followContent_eq e t replacing spec m i
    rw [heq, (totals_adjust _ _ _ _).1, (totals_ingestFor e t spec m i').1, hd]

end Index

/-- The file that an event finds to belong to its spec. -/
def Step.matched? (s : Step ν) : Option String :=
  if s.kind = "create" ∨ s.kind = "modify" then
    match s.spec.matchPath s.tree s.path with
    | .ok (some m) => some m.path
    | _ => none
  else none

namespace Index

variable {i j : Index ν}

/-- The number of files that an event displaces. -/
def displacedBy (i : Index ν) (s : Step ν) : Nat :=
  match s.tree.canonical s.path with
  | .ok file => (displaced file i.store (i.follow s).store).card
  | .error _ => 0

/-- The number of files that events displace one after the other. -/
def displacedByAll : Index ν → List (Step ν) → Nat
  | _, [] => 0
  | i, s :: rest => i.displacedBy s + (i.follow s).displacedByAll rest

/-- An event leaves the index alone, removes a file, or follows the content of one. -/
theorem follow_cases (i : Index ν) (s : Step ν) :
    (s.matched? = none ∧ i.follow s = i) ∨
      (∃ file, s.tree.canonical s.path = .ok file ∧ s.matched? = none ∧
        i.follow s = i.followRemoval s.spec file) ∨
      ∃ m, s.tree.canonical s.path = .ok m.path ∧ s.matched? = some m.path ∧
        i.follow s = (i.followContent s.engine s.tree (s.kind = "modify") s.spec m).1 := by
  obtain ⟨engine, tree, kind, path, spec⟩ := s
  by_cases hk : kind = "create" ∨ kind = "modify"
  · rcases hm : spec.matchPath tree path with f | _ | m
    · refine .inl ⟨by simp [Step.matched?, hm], ?_⟩
      rcases hk with rfl | rfl <;> simp [follow, reindex, eventKinds, hm]
    · refine .inl ⟨by simp [Step.matched?, hm], ?_⟩
      rcases hk with rfl | rfl <;> simp [follow, reindex, eventKinds, hm]
    · refine .inr (.inr ⟨m, Spec.canonical_of_matchPath hm, by simp [Step.matched?, hk, hm], ?_⟩)
      simp only [follow, reindex_of_matchPath hk hm]
  · by_cases hd : kind = "delete"
    · subst hd
      cases hc : tree.canonical path with
      | error f => exact .inl ⟨by simp [Step.matched?], by simp [follow, reindex, eventKinds, hc]⟩
      | ok file =>
        exact .inr (.inl ⟨file, rfl, by simp [Step.matched?], by
          simp [follow, reindex, eventKinds, hc]⟩)
    · refine .inl ⟨by simp [Step.matched?, hk], ?_⟩
      have : eventKinds.contains kind = false := by
        simp [eventKinds]
        tauto
      simp only [follow, reindex, this, Bool.not_false, if_true]

theorem documents_follow (s : Step ν) (hb : s.engine.registry.Builtin s.spec.strategy) {n : Nat}
    (hi : i.stats.documents = (files i.store).card + n) :
    (i.follow s).stats.documents = (files (i.follow s).store).card + (n + i.displacedBy s) := by
  rcases follow_cases i s with ⟨-, h⟩ | ⟨file, hc, -, h⟩ | ⟨m, hc, -, h⟩
  · have : i.displacedBy s = 0 := by
      unfold displacedBy
      cases s.tree.canonical s.path <;> simp [h]
    rw [this, h]
    exact hi
  · simp only [displacedBy, hc, h]
    exact (touched_followRemoval file).documents_eq hi
  · simp only [displacedBy, hc, h]
    exact (touched_followContent hb _).documents_eq hi

/-- What is stored after an event was there before or is made of the file of the event. -/
theorem mem_follow (s : Step ν) {q : Point ν} (h : q ∈ (i.follow s).store) :
    q ∈ i.store ∨ ∃ m, s.matched? = some m.path ∧ s.engine.Makes s.tree s.spec m q := by
  rcases follow_cases i s with ⟨-, hi⟩ | ⟨file, -, -, hi⟩ | ⟨m, -, hm, hi⟩
  · rw [hi] at h
    exact .inl h
  · rw [hi, store_followRemoval] at h
    exact .inl (List.mem_filter.mp h).1
  · rw [hi] at h
    exact (mem_followContent h).imp_right fun h => ⟨m, hm, h⟩

/-! ## Ingesting all files -/

def counted (results : List FileResult) : Finset String :=
  ((results.filter (·.ok)).map (·.path)).toFinset

/-- The files that were counted although they have no points: those without segments, and those
whose points gave way to points of other files. -/
def hollow (i : Index ν) (results : List FileResult) : Finset String :=
  (counted results).filter fun f => countFile f i.store = 0

/-- An index whose documents are the results so far that are no
failures, and whose points belong to them. -/
structure Tallied (i : Index ν) (done : List FileResult) : Prop where
  documents : i.stats.documents = (done.filter (·.ok)).length
  stored : ∀ q ∈ i.store, ∃ f ∈ counted done, isOf f q = true

theorem Tallied.documents_eq {done : List FileResult} (h : Tallied i done)
    (hn : (done.map (·.path)).Nodup) :
    i.stats.documents = (files i.store).card + (hollow i done).card := by
  have hcounted : (counted done).card = (done.filter (·.ok)).length := by
    have hsub : ((done.filter (·.ok)).map (·.path)).Sublist (done.map (·.path)) :=
      List.filter_sublist.map _
    rw [counted, List.toFinset_card_of_nodup (hn.sublist hsub), List.length_map]
  rw [h.documents, ← hcounted, hollow, PointStore.card_files_add h.stored]

theorem ingestFor_failed {f : Failure} (h : e.prepare t spec m = .error f) :
    (i.ingestFor e t true spec m).2.ok = false ∧ (i.ingestFor e t true spec m).1.store = i.store ∧
      (i.ingestFor e t true spec m).1.stats.documents = i.stats.documents := by
  have hp : e.persist t spec m i.store = (i.store, .error f) := by
    unfold Engine.persist
    rw [h]
  unfold ingestFor
  rw [hp]
  exact ⟨rfl, rfl, rfl⟩

theorem ingestFor_stored (hr : ∀ id, e.refuse id = none) {batch : List (Segment × ν)}
    (h : e.prepare t spec m = .ok batch) :
    (i.ingestFor e t true spec m).2.ok = true ∧
      (i.ingestFor e t true spec m).2.segments = batch.length ∧
      (i.ingestFor e t true spec m).1.stats.documents = i.stats.documents + 1 := by
  have hp : (e.persist t spec m i.store).2 = .ok (batch.map (·.1)) := by
    unfold Engine.persist
    rw [h]
    simp only [Engine.storeAll_ok hr, Except.map]
  unfold ingestFor
  rcases hx : e.persist t spec m i.store with ⟨s, f | segments⟩
  · simp [hx] at hp
  · simp only [hx, Except.ok.injEq] at hp
    refine ⟨rfl, by simp [hp], ?_⟩
    have hseen : (i.stats.recordSuccess (some spec.path) (segments.map (·.metadata))
      true).documents =
        shift i.stats.documents 1 := by
      simp only [Stats.recordSuccess, if_true, totals_adjust]
      rfl
    simpa [shift] using hseen

theorem segments_ingestFor (hr : ∀ id, e.refuse id = none) :
    (i.ingestFor e t true spec m).2.segments = (e.pointsFor t spec m).length := by
  unfold Engine.pointsFor
  cases hp : e.prepare t spec m with
  | error f => rw [failure_ingestFor true hp]; rfl
  | ok batch => rw [(ingestFor_stored hr hp).2.1, List.length_map]

theorem tallied_ingestFor (hr : ∀ id, e.refuse id = none) (hb : e.registry.Builtin spec.strategy)
    {done : List FileResult} (h : Tallied i done) :
    Tallied (i.ingestFor e t true spec m).1 (done ++ [(i.ingestFor e t true spec m).2]) := by
  have hpath : (i.ingestFor e t true spec m).2.path = m.path := path_ingestFor true
  cases hp : e.prepare t spec m with
  | error f =>
    obtain ⟨hok, hstore, hdoc⟩ := ingestFor_failed (i := i) hp
    constructor
    · simp [hdoc, h.documents, hok]
    · intro q hq
      rw [hstore] at hq
      simpa [counted, hok] using h.stored q hq
  | ok batch =>
    obtain ⟨hok, -, hdoc⟩ := ingestFor_stored (i := i) hr hp
    constructor
    · simp [hdoc, h.documents, hok]
    · intro q hq
      rw [store_ingestFor] at hq
      rcases Engine.mem_persist hq with hq | hq
      · obtain ⟨f, hf, hisof⟩ := h.stored q hq
        refine ⟨f, ?_, hisof⟩
        simp only [counted, List.filter_append, List.map_append, List.toFinset_append,
          Finset.mem_union]
        exact .inl hf
      · exact ⟨m.path, by simp [counted, hok, hpath], hq.isOf hb⟩

theorem documents_register (paths : List String) (s : Stats) :
    (Stats.register paths s).1.documents = s.documents := by
  induction paths generalizing s with
  | nil => rfl
  | cons path rest ih =>
    have htrack : (s.track path).1.documents = s.documents := by
      unfold Stats.track
      split_ifs <;> rfl
    rw [Stats.register]
    exact (ih _).trans htrack

theorem documents_registerSources (specs : List Spec) :
    (i.registerSources specs).stats.documents = i.stats.documents := by
  have h := documents_register (specs.map (·.path)) i.stats
  unfold registerSources
  dsimp only
  split_ifs <;> exact h

theorem tallied_ingest (hr : ∀ id, e.refuse id = none) {specs : List Spec}
    (hb : ∀ spec ∈ specs, e.registry.Builtin spec.strategy) (hi : i.store = [])
    (hd : i.stats.documents = 0) {report : Report} (h : (i.ingest e t specs).2 = .ok report) :
    Tallied (i.ingest e t specs).1 report.results := by
  refine ingest_keeps (fun i done spec m h => ?_) (fun spec hs _ _ m _ i done h => ?_) ?_ h
  · exact ⟨(totals_seeCaptures spec m i).1.trans h.documents, by
      rw [store_seeCaptures]; exact h.stored⟩
  · exact tallied_ingestFor hr (hb spec hs) h
  · constructor
    · rw [documents_registerSources, hd]
      rfl
    · simp [hi]

/-- An index in which every file that has segments has points. -/
structure Filled (i : Index ν) (done : List FileResult) : Prop where
  known : Known (· ∈ done.map (·.path)) i.store
  distinct : Distinct i.store
  present : ∀ r ∈ done, r.ok = true → 0 < r.segments → 0 < countFile r.path i.store

theorem filled_ingestFor (hr : ∀ id, e.refuse id = none) (hb : e.registry.Builtin spec.strategy)
    {done : List FileResult} (h : Filled i done)
    (hc : ClashFree (· ∈ (done ++ [(i.ingestFor e t true spec m).2]).map (·.path))) :
    Filled (i.ingestFor e t true spec m).1 (done ++ [(i.ingestFor e t true spec m).2]) := by
  have hpath : (i.ingestFor e t true spec m).2.path = m.path := path_ingestFor true
  have hsub : ∀ f ∈ done.map (·.path),
      f ∈ (done ++ [(i.ingestFor e t true spec m).2]).map (·.path) := by
    intro f hf
    rw [List.map_append]
    exact List.mem_append_left _ hf
  have hk : Known (· ∈ (done ++ [(i.ingestFor e t true spec m).2]).map (·.path)) i.store := by
    intro q hq
    obtain ⟨f, hf, hq⟩ := h.known q hq
    exact ⟨f, hsub f hf, hq⟩
  obtain ⟨hk', hothers⟩ := Engine.persist_frame (e := e) (t := t) hc hb (m :=
    m) (by simp [hpath]) hk
  rw [← store_ingestFor true] at hk' hothers
  have hstore : (i.ingestFor e t true spec m).1.store =
      PointStore.upsertAll (e.pointsFor t spec m) i.store := by
    rw [store_ingestFor, Engine.persist_eq hr]
  refine ⟨hk', hstore ▸ h.distinct.upsertAll _, fun r hmem hok hseg => ?_⟩
  rw [List.mem_append, List.mem_singleton] at hmem
  by_cases hne : r.path = m.path
  · obtain ⟨hof, hnd⟩ := Engine.pointsFor_spec (e := e) (t := t) (m := m) hb
    cases hpoints : e.pointsFor t spec m with
    | nil =>
      rcases hmem with hmem | hmem
      · rw [hstore, hpoints]
        exact h.present r hmem hok hseg
      · exact absurd hseg (by simp [hmem, segments_ingestFor hr, hpoints])
    | cons p rest =>
      have hp : p ∈ (i.ingestFor e t true spec m).1.store := by
        rw [hstore, PointStore.mem_upsertAll_iff h.distinct hnd, hpoints]
        exact .inl List.mem_cons_self
      rw [hne, countFile, List.length_pos_iff_exists_mem]
      exact ⟨p, List.mem_filter.mpr ⟨hp, (hof p (by simp [hpoints])).1⟩⟩
  · rw [PointStore.countFile_of_removeFile hne hothers]
    exact h.present r (hmem.resolve_right fun hr' => hne (by rw [hr', hpath])) hok hseg

/-! ## Whole runs -/

theorem documents_followAll (steps : List (Step ν))
    (hb : ∀ s ∈ steps, s.engine.registry.Builtin s.spec.strategy) {n : Nat}
    (hi : i.stats.documents = (files i.store).card + n) :
    (i.followAll steps).stats.documents =
      (files (i.followAll steps).store).card + (n + i.displacedByAll steps) := by
  induction steps generalizing i n with
  | nil => exact hi
  | cons s rest ih =>
    have := ih (fun s hs => hb s (List.mem_cons_of_mem _ hs))
      (documents_follow s (hb s List.mem_cons_self) hi)
    rw [displacedByAll, ← Nat.add_assoc n]
    exact this

/-- The files that an ingest and events after it found to belong to their specs. -/
def matchedFiles (report : Report) (steps : List (Step ν)) : Finset String :=
  (report.results.map (·.path) ++ steps.filterMap Step.matched?).toFinset

theorem mem_followAll (steps : List (Step ν))
    (hb : ∀ s ∈ steps, s.engine.registry.Builtin s.spec.strategy) {q : Point ν}
    (hq : q ∈ (i.followAll steps).store) :
    q ∈ i.store ∨ ∃ f ∈ steps.filterMap Step.matched?, isOf f q = true := by
  induction steps generalizing i with
  | nil => exact .inl hq
  | cons s rest ih =>
    rcases ih (fun s hs => hb s (List.mem_cons_of_mem _ hs)) hq with h | ⟨f, hf, hisof⟩
    · rcases mem_follow s h with h | ⟨m, hm, hmake⟩
      · exact .inl h
      · exact .inr ⟨m.path, List.mem_filterMap.mpr ⟨s, List.mem_cons_self, hm⟩,
          hmake.isOf (hb s List.mem_cons_self)⟩
    · obtain ⟨s', hs', hf⟩ := List.mem_filterMap.mp hf
      exact .inr ⟨f, List.mem_filterMap.mpr ⟨s', List.mem_cons_of_mem _ hs', hf⟩, hisof⟩

theorem displacedBy_eq_zero {known : String → Prop} (hc : ClashFree known) (s : Step ν)
    (hb : s.engine.registry.Builtin s.spec.strategy) (hm : ∀ f, s.matched? = some f → known f)
    (hi : Known known i.store) : i.displacedBy s = 0 ∧ Known known (i.follow s).store := by
  rcases follow_cases i s with ⟨-, h⟩ | ⟨file, hcan, -, h⟩ | ⟨m, hcan, hmatch, h⟩
  · rw [displacedBy, h]
    exact ⟨by cases s.tree.canonical s.path <;> simp, hi⟩
  · simp only [displacedBy, hcan, h, store_followRemoval]
    exact ⟨by simp [displaced], hi.filter _⟩
  · obtain ⟨hk, ha⟩ := adjusted_followContent (e := s.engine) (t := s.tree) hc hb (hm _ hmatch) hi
      (decide (s.kind = "modify"))
    simp only [displacedBy, hcan, h]
    exact ⟨by simp [displaced, ha.others], hk⟩

theorem displacedByAll_eq_zero {known : String → Prop} (hc : ClashFree known)
    (steps : List (Step ν)) (hb : ∀ s ∈ steps, s.engine.registry.Builtin s.spec.strategy)
    (hm : ∀ f ∈ steps.filterMap Step.matched?, known f) (hi : Known known i.store) :
    i.displacedByAll steps = 0 := by
  induction steps generalizing i with
  | nil => rfl
  | cons s rest ih =>
    have hmem : ∀ {s' f}, s' ∈ s :: rest → s'.matched? = some f → known f := fun hs hf =>
      hm _ (List.mem_filterMap.mpr ⟨_, hs, hf⟩)
    obtain ⟨hzero, hk⟩ := displacedBy_eq_zero hc s (hb s List.mem_cons_self)
      (fun f hf => hmem List.mem_cons_self hf) hi
    rw [displacedByAll, hzero, Nat.zero_add]
    refine ih (fun s hs => hb s (List.mem_cons_of_mem _ hs)) (fun f hf => ?_) hk
    obtain ⟨s', hs', hf⟩ := List.mem_filterMap.mp hf
    exact hmem (List.mem_cons_of_mem _ hs') hf

/-- No file is counted without points if every file has segments and
no path is another one with a number. -/
theorem hollow_eq_empty {specs : List Spec} (hr : ∀ id, e.refuse id = none)
    (hb : ∀ spec ∈ specs, e.registry.Builtin spec.strategy) (hi : i.store = []) {report : Report}
    (h : (i.ingest e t specs).2 = .ok report) (hc : ClashFree (· ∈ report.results.map (·.path)))
    (hseg : ∀ r ∈ report.results, r.ok = true → 0 < r.segments) :
    Known (· ∈ report.results.map (·.path)) (i.ingest e t specs).1.store ∧
      hollow (i.ingest e t specs).1 report.results = ∅ := by
  have hfilled : ClashFree (· ∈ report.results.map (·.path)) →
      Filled (i.ingest e t specs).1 report.results := by
    refine ingest_keeps (P := fun i done => ClashFree (· ∈ done.map (·.path)) → Filled i done)
      (fun i done spec m h hc => ?_) (fun spec hs _ _ m _ i done h hc => ?_) (fun _ => ?_) h
    · have hstore : (i.seeCaptures spec m).store = i.store := store_seeCaptures
      exact ⟨hstore ▸ (h hc).known, hstore ▸ (h hc).distinct, hstore ▸ (h hc).present⟩
    · refine filled_ingestFor hr (hb spec hs) (h fun f g hf hg => hc f g ?_ ?_) hc
      · exact List.map_append ▸ List.mem_append_left _ hf
      · exact List.map_append ▸ List.mem_append_left _ hg
    · constructor <;> simp [hi, Known, Distinct]
  refine ⟨(hfilled hc).known, ?_⟩
  rw [hollow, Finset.filter_eq_empty_iff]
  intro f hf
  simp only [counted, List.mem_toFinset, List.mem_map, List.mem_filter] at hf
  obtain ⟨r, ⟨hr, hok⟩, rfl⟩ := hf
  exact Nat.ne_of_gt ((hfilled hc).present r hr hok (hseg r hr hok))

/-- The documents counted are the files with points, those that were counted without any when all
files were ingested, and those that events displaced since. So they are no more than the files that
were ever found exactly if those counted without points are no more than those found that have none;
and they are so whenever every file that was counted at first has segments, and no path is another
one with a number. -/
theorem documents_le_matched_iff {specs : List Spec} (hr : ∀ id, e.refuse id = none)
    (hb : ∀ spec ∈ specs, e.registry.Builtin spec.strategy) (hi : i.store = [])
    (hd : i.stats.documents = 0) {report : Report} (h : i.ingest e t specs = (j, .ok report))
    (hn : (report.results.map (·.path)).Nodup) (steps : List (Step ν))
    (hs : ∀ s ∈ steps, s.engine.registry.Builtin s.spec.strategy) :
    (j.followAll steps).stats.documents = (files (j.followAll steps).store).card +
        ((hollow j report.results).card + j.displacedByAll steps) ∧
      ((j.followAll steps).stats.documents ≤ (matchedFiles report steps).card ↔
        (hollow j report.results).card + j.displacedByAll steps ≤
          ((matchedFiles report steps).filter fun f => countFile f (j.followAll steps).store =
            0).card) ∧
      ((∀ r ∈ report.results, r.ok = true → 0 < r.segments) →
      ClashFree (· ∈ matchedFiles report steps) →
        (j.followAll steps).stats.documents ≤ (matchedFiles report steps).card) := by
  obtain rfl : (i.ingest e t specs).1 = j := by rw [h]
  have hres : (i.ingest e t specs).2 = .ok report := by rw [h]
  have htally := tallied_ingest hr hb hi hd hres
  have hdoc := documents_followAll steps hs (htally.documents_eq hn)
  have hbulk : ∀ f ∈ report.results.map (·.path), f ∈ matchedFiles report steps := fun f hf =>
    List.mem_toFinset.mpr (List.mem_append_left _ hf)
  have hsteps : ∀ f ∈ steps.filterMap Step.matched?, f ∈ matchedFiles report steps := fun f hf =>
    List.mem_toFinset.mpr (List.mem_append_right _ hf)
  have hof : ∀ q ∈ ((i.ingest e t specs).1.followAll steps).store,
      ∃ f ∈ matchedFiles report steps, isOf f q = true := by
    intro q hq
    rcases mem_followAll steps hs hq with hq | ⟨f, hf, hisof⟩
    · obtain ⟨f, hf, hisof⟩ := htally.stored q hq
      obtain ⟨r, hr, rfl⟩ := List.mem_map.mp (List.mem_toFinset.mp hf)
      exact ⟨r.path, hbulk _ (List.mem_map_of_mem (List.mem_filter.mp hr).1), hisof⟩
    · exact ⟨f, hsteps f hf, hisof⟩
  have hcovered := PointStore.card_files_add hof
  refine ⟨hdoc, by omega, fun hseg hc => ?_⟩
  obtain ⟨hk, hzero⟩ := hollow_eq_empty hr hb hi hres (fun f g hf hg =>
    hc f g (hbulk f hf) (hbulk g hg)) hseg
  have hk : Known (· ∈ matchedFiles report steps) (i.ingest e t specs).1.store := by
    intro q hq
    obtain ⟨f, hf, hq⟩ := hk q hq
    exact ⟨f, hbulk f hf, hq⟩
  rw [hdoc, hzero, displacedByAll_eq_zero hc steps hs hsteps hk]
  simp only [Finset.card_empty, Nat.add_zero]
  omega

end Index

end

/-! ## A file that was empty -/

namespace Sole

/-- What becomes of the file when it is ingested without a character in it. -/
def hollowReport : Report := .ofResults [⟨"/a", some "/a", 0, none⟩]

def hollowed : Index Unit := (idle.index.ingest env.engine (holding []) [spec]).1

/-- The change that gives the file its first character. -/
def written : Step Unit := ⟨env.engine, holding [100], "modify", "/a", spec⟩

theorem builtin_spec : env.engine.registry.Builtin spec.strategy :=
  (Registry.standard_builtin _).builtin

theorem ingest_hollow :
    idle.index.ingest env.engine (holding []) [spec] = (hollowed, .ok hollowReport) := by
  have hprepare : env.engine.prepare (holding []) spec found = .ok [] := by decide +kernel
  have hfile : ∀ i : Index Unit,
      (i.ingestFor env.engine (holding []) true spec found).2 = ⟨"/a", some "/a", 0, none⟩ := by
    intro i
    have hp : env.engine.persist (holding []) spec found i.store = (i.store, .ok []) := by
      unfold Engine.persist
      rw [hprepare]
      rfl
    unfold Index.ingestFor
    rw [hp]
    rfl
  refine Prod.ext rfl ?_
  simp only [Index.ingest, check_spec, Index.ingestSpecs, matchFiles_holding,
    Index.ingestMatches, hfile, Except.map, List.append_nil]
  rfl

theorem matched_written : written.matched? = some "/a" := by
  simp [Step.matched?, written, matchPath_spec (linkless_holding [100]), found]

/-- Whether the file is counted twice here depends on whether it was counted without points. -/
theorem written_counted_iff :
    (hollowed.followAll [written]).stats.documents =
      (files (hollowed.followAll [written]).store).card +
        ((Index.hollow hollowed hollowReport.results).card + hollowed.displacedByAll [written]) ∧
      ((hollowed.followAll [written]).stats.documents ≤
        (Index.matchedFiles hollowReport [written]).card ↔
        (Index.hollow hollowed hollowReport.results).card + hollowed.displacedByAll [written] ≤
          ((Index.matchedFiles hollowReport [written]).filter fun f =>
            countFile f (hollowed.followAll [written]).store = 0).card) ∧
      ((∀ r ∈ hollowReport.results, r.ok = true → 0 < r.segments) →
        ClashFree (· ∈ Index.matchedFiles hollowReport [written]) →
          (hollowed.followAll [written]).stats.documents ≤
            (Index.matchedFiles hollowReport [written]).card) :=
  Index.documents_le_matched_iff (fun _ => rfl) (fun _ hs =>
    List.mem_singleton.mp hs ▸ builtin_spec) rfl rfl
    ingest_hollow (by decide) [written] (fun _ hs => List.mem_singleton.mp hs ▸ builtin_spec)

theorem store_hollowed : hollowed.store = [] := by
  have hnone : env.engine.pointsFor (holding []) spec found = [] := by decide +kernel
  obtain ⟨-, hmem⟩ := mem_ingest_holding (i := idle.index) rfl []
  exact List.eq_nil_iff_forall_not_mem.mpr fun q hq => by simp [hollowed, hmem, hnone] at hq

theorem follow_written : hollowed.followAll [written] =
    (hollowed.followContent env.engine (holding [100]) true spec found).1 := by
  change (hollowed.reindex env.engine (holding [100]) "modify" "/a" spec).1 = _
  rw [Index.reindex_of_matchPath (.inr rfl) (matchPath_spec (linkless_holding [100]))]
  rfl

theorem countFile_written : countFile "/a" (hollowed.followAll [written]).store = 1 := by
  have hlength : (env.engine.pointsFor (holding [100]) spec found).length = 1 := by decide +kernel
  obtain ⟨p, hp⟩ := List.length_eq_one_iff.mp hlength
  have hisof : isOf "/a" p = true :=
    ((Engine.pointsFor_spec (t := holding [100]) (m := found) builtin_spec).1 p (by simp [hp])).1
  change countFile "/a" (hollowed.reindex env.engine (holding [100]) "modify" "/a" spec).1.store = 1
  rw [Index.store_reindex_content (fun _ => rfl) (.inr rfl)
    (matchPath_spec (linkless_holding [100])), store_hollowed, hp]
  change (List.filter (isOf "/a") [p]).length = 1
  rw [List.filter_singleton, hisof]
  rfl

/-- A file that was empty at first is counted once more when it gets its first segment. -/
theorem written_counted_twice :
    idle.index.ingest env.engine (holding []) [spec] = (hollowed, .ok hollowReport) ∧
      (hollowReport.results.map (·.path)).Nodup ∧
      ¬ (hollowed.followAll [written]).stats.documents ≤
        (Index.matchedFiles hollowReport [written]).card := by
  refine ⟨ingest_hollow, by decide, ?_⟩
  have htally : Index.Tallied hollowed hollowReport.results :=
    Index.tallied_ingest (fun _ => rfl) (fun _ hs =>
      List.mem_singleton.mp hs ▸ builtin_spec) rfl rfl
      (by rw [ingest_hollow])
  have hcounted : hollowed.stats.documents = 1 := htally.documents
  have htouched := Index.touched_followContent (i := hollowed) (t := holding [100]) (m :=
    found) builtin_spec true
  rw [← follow_written] at htouched
  have htwice : (hollowed.followAll [written]).stats.documents = 2 := by
    rw [htouched.documents, hcounted, show found.path = "/a" from rfl, countFile_written,
      store_hollowed]
    decide
  have hone : (Index.matchedFiles hollowReport [written]).card = 1 := by
    simp [Index.matchedFiles, hollowReport, matched_written]
  omega

end Sole

end SegmentIndex
