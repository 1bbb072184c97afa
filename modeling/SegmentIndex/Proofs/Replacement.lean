import SegmentIndex.Proofs.Effects

/-!
# Changes and removals, whatever was stored before

A change that succeeds leaves its file with one point for each draft that the file is cut into now,
and a removal leaves it with none. What the file had before plays no part in that, and to follow the
same event once more changes neither the store nor the totals. Points of other files stay as they
are, as long as none of them has an id of the changed file.
-/
namespace SegmentIndex

open PointStore (isOf)

section

variable {ν : Type} {e : Engine ν} {t : FileTree} {spec : Spec} {m : MatchedFile}

namespace Engine

/-! ## Points of drafts -/

/-- Whether a point is that of a draft: it has its id, the vector of
its text, and its metadata and content. -/
structure Depicts (e : Engine ν) (p : Point ν) (d : Draft) : Prop where
  id : p.id = d.segment.id
  vector : e.embed d.segment.text = .ok p.vector
  payload : p.payload = Entries.put "content" (.str d.segment.content) d.segment.metadata

theorem embed_of_vectorOf {text : String} {v : ν} (h : e.vectorOf text = .ok v) :
    e.embed text = .ok v := by
  unfold vectorOf at h
  cases hv : e.embed text with
  | ok w => simpa [hv] using h
  | error f =>
    simp only [hv] at h
    split at h <;> simp at h

theorem depicts_embedAll {drafts : List Draft} {batch : List (Segment × ν)}
    (h : e.embedAll (drafts.map Draft.segment) = .ok batch) :
    List.Forall₂ e.Depicts (pointsOf batch) drafts := by
  induction drafts generalizing batch with
  | nil =>
    rw [← Except.ok.inj h]
    exact .nil
  | cons d rest ih =>
    rw [List.map_cons, embedAll] at h
    cases hv : e.vectorOf d.segment.text with
    | error f => simp [hv] at h
    | ok v =>
      cases hr : e.embedAll (rest.map Draft.segment) with
      | error f => simp [hv, hr, Except.map] at h
      | ok more =>
        simp only [hv, hr, Except.map, Except.ok.injEq] at h
        rw [← h]
        exact .cons ⟨rfl, embed_of_vectorOf hv, rfl⟩ (ih hr)

/-- A file that is prepared was read and cut, and its points are those of its drafts, in order. -/
theorem depicts_prepare {batch : List (Segment × ν)} (h : e.prepare t spec m = .ok batch) :
    ∃ content drafts, t.readText e.encoding m.path = .ok content ∧
      e.registry.process t spec.strategy m.path content m.metadata spec.options = .ok drafts ∧
      List.Forall₂ e.Depicts (pointsOf batch) drafts := by
  unfold prepare segmentsOf at h
  cases hc : t.readText e.encoding m.path with
  | error f => simp [hc] at h
  | ok content =>
    cases hd : e.registry.process t spec.strategy m.path content m.metadata spec.options with
    | error f => simp [hc, hd, Except.map] at h
    | ok drafts =>
      simp only [hc, hd, Except.map] at h
      exact ⟨content, drafts, rfl, hd, depicts_embedAll h⟩

end Engine

namespace Index

variable {x : PendingEvent Spec} {i : Index ν} {file : String}

/-! ## Events that do not depend on what was stored -/

/-- Whether an event leaves the points of other files alone, leads to the same store and the
same result from whatever points its file had before, and changes neither the store nor the
totals when it is followed once more. -/
structure Historyless (e : Engine ν) (t : FileTree) (x : PendingEvent Spec) (file : String)
    (i : Index ν) : Prop where
  others : PointStore.removeFile file (i.reindex e t x.kind x.path x.spec).1.store =
    PointStore.removeFile file i.store
  before : ∀ j : Index ν, PointStore.removeFile file j.store = PointStore.removeFile file i.store →
    (j.reindex e t x.kind x.path x.spec).1.store = (i.reindex e t x.kind x.path x.spec).1.store ∧
      (j.reindex e t x.kind x.path x.spec).2 = (i.reindex e t x.kind x.path x.spec).2
  again : ((i.reindex e t x.kind x.path x.spec).1.reindex e t x.kind x.path x.spec).1.store =
      (i.reindex e t x.kind x.path x.spec).1.store ∧
    ((i.reindex e t x.kind x.path x.spec).1.reindex e t x.kind x.path x.spec).1.stats.SameTotals
      (i.reindex e t x.kind x.path x.spec).1.stats

/-- An event does not depend on what was stored if it puts the same points
of its file behind those of the others. -/
theorem historyless_of_append {new : List (Point ν)} (hc : t.canonical x.path = .ok file)
    (hok : failed (i.reindex e t x.kind x.path x.spec).2 = false)
    (hnew : ∀ p ∈ new, isOf file p = true)
    (h : ∀ j : Index ν, PointStore.removeFile file j.store = PointStore.removeFile file i.store →
      (j.reindex e t x.kind x.path x.spec).1.store = PointStore.removeFile file i.store ++ new) :
    Historyless e t x file i := by
  have hothers : PointStore.removeFile file (i.reindex e t x.kind x.path x.spec).1.store =
      PointStore.removeFile file i.store := by
    have hnone : new.filter (!isOf file ·) = [] := by simpa [List.filter_eq_nil_iff] using hnew
    rw [h i rfl, PointStore.removeFile, List.filter_append, hnone, List.append_nil]
    exact PointStore.removeFile_removeFile file i.store
  have hbefore : ∀ j : Index ν,
    PointStore.removeFile file j.store = PointStore.removeFile file i.store →
      (j.reindex e t x.kind x.path x.spec).1.store = (i.reindex e t x.kind x.path x.spec).1.store :=
        fun j hj => by
    rw [h j hj, h i rfl]
  have hagain := hbefore _ hothers
  refine ⟨hothers, fun j hj => ⟨hbefore j hj, snd_reindex x j i⟩, hagain, ?_⟩
  obtain ⟨hsegments, hdocuments⟩ :=
    recounted_reindex (i := (i.reindex e t x.kind x.path x.spec).1) (e := e) x hc
  have herrors := errors_reindex (e := e) (t := t) x (i.reindex e t x.kind x.path x.spec).1
  rw [snd_reindex x _ i, hok] at herrors
  rw [hagain, Int.sub_self] at hsegments hdocuments
  exact ⟨hdocuments.trans (by simp [shift]), hsegments.trans (by simp [shift]), herrors⟩

theorem store_modify (hb : e.registry.Builtin spec.strategy) {path : String}
    (hm : spec.matchPath t path = .ok (some m)) (hi : Clashless e t ⟨"modify", path, spec⟩ i.store)
    {batch : List (Segment × ν)} (hbatch : e.prepare t spec m = .ok batch)
    (hw : e.written t spec m = batch) :
    (i.reindex e t "modify" path spec).1.store = PointStore.removeFile m.path i.store ++
      Engine.pointsOf batch := by
  have hnew : newPoints e t ⟨"modify", path, spec⟩ = Engine.pointsOf batch := by
    unfold newPoints Engine.pointsFor
    simp only [hm, hbatch]
    rfl
  have hids := (Engine.pointsFor_spec (e := e) (t := t) (m := m) hb).2
  unfold Engine.pointsFor at hids
  simp only [hbatch] at hids
  simp only [reindex_of_matchPath (.inr rfl) hm, store_followContent_written, decide_true,
    if_true, hw]
  refine PointStore.upsertAll_fresh hids fun q hq p hp hid => ?_
  obtain ⟨hq, hother⟩ := List.mem_filter.mp hq
  simp [hi m.path (Spec.canonical_of_matchPath hm) q hq p (hnew ▸ hp) hid] at hother

/-- A change that succeeds puts the points of its file, as it is now, behind those of the others,
whatever points of the file there were. -/
theorem store_modify_ok (hb : e.registry.Builtin spec.strategy) {path : String}
    (hc : t.canonical path = .ok file)
    (hi : Clashless e t ⟨"modify", path, spec⟩ i.store) {r : FileResult}
    (hr : (i.reindex e t "modify" path spec).2 = .ok (some r)) (hok : r.ok = true) :
    ∃ m batch, spec.matchPath t path = .ok (some m) ∧ m.path = file ∧
      e.prepare t spec m = .ok batch ∧
      ∀ j : Index ν, PointStore.removeFile file j.store = PointStore.removeFile file i.store →
        (j.reindex e t "modify" path spec).1.store = PointStore.removeFile file i.store ++
          Engine.pointsOf batch := by
  obtain ⟨m, hm⟩ := (matchPath_of_reindex hr).2
  have hpath : m.path = file := Except.ok.inj ((Spec.canonical_of_matchPath hm).symm.trans hc)
  have hresult : e.resultFor t spec m = r := by
    rw [reindex_of_matchPath (.inr rfl) hm, result_followContent] at hr
    exact Option.some.inj (Except.ok.inj hr)
  obtain ⟨batch, hbatch, hwritten, -⟩ := Engine.written_of_ok (hresult ▸ hok)
  refine ⟨m, batch, hm, hpath, hbatch, fun j hj => ?_⟩
  rw [store_modify hb hm (hi.congr hc hj) hbatch hwritten, hpath, hj]

/-- After a change that succeeds its file has one point for each draft that it is cut into, in
order, and after a removal it has none. Both leave the points of other files alone, lead to the same
store from whatever points the file had before, and change neither the store nor the totals when
they are followed once more. -/
theorem reindex_historyless (hb : e.registry.Builtin spec.strategy) {path : String}
    (hc : t.canonical path = .ok file) (i : Index ν) :
    (Clashless e t ⟨"modify", path, spec⟩ i.store → ∀ r : FileResult,
        (i.reindex e t "modify" path spec).2 = .ok (some r) → r.ok = true →
          (∃ m content drafts, spec.matchPath t path = .ok (some m) ∧ m.path = file ∧
            t.readText e.encoding file = .ok content ∧
            e.registry.process t spec.strategy file content m.metadata spec.options = .ok drafts ∧
            List.Forall₂ e.Depicts ((i.reindex e t "modify" path spec).1.store.filter (isOf file))
              drafts) ∧
          Historyless e t ⟨"modify", path, spec⟩ file i) ∧
      (i.reindex e t "delete" path spec).2 = .ok none ∧
        (∀ q ∈ (i.reindex e t "delete" path spec).1.store, isOf file q = false) ∧
        Historyless e t ⟨"delete", path, spec⟩ file i := by
  constructor
  · intro hi r hr hok
    obtain ⟨m, batch, hm, hpath, hbatch, hstore⟩ := store_modify_ok hb hc hi hr hok
    have hof : ∀ p ∈ Engine.pointsOf batch, isOf file p = true := by
      intro p hp
      obtain ⟨b, hmem, rfl⟩ := List.mem_map.mp hp
      exact hpath ▸ (Engine.makes_of_prepare hbatch b hmem).isOf hb
    obtain ⟨content, drafts, hcontent, hdrafts, hdepicts⟩ := Engine.depicts_prepare hbatch
    rw [hpath] at hcontent hdrafts
    refine ⟨⟨m, content, drafts, hm, hpath, hcontent, hdrafts, ?_⟩,
      historyless_of_append hc ?_ hof hstore⟩
    · have hown : (PointStore.removeFile file i.store).filter (isOf file) = [] := by
        simp [PointStore.removeFile, List.filter_filter]
      rwa [hstore i rfl, List.filter_append, hown, List.nil_append, List.filter_eq_self.mpr hof]
    · simp [failed, hr, hok]
  · have hdelete : ∀ j : Index ν,
        j.reindex e t "delete" path spec = (j.followRemoval spec file, .ok none) := by
      intro j
      simp [reindex, eventKinds, hc]
    refine ⟨by rw [hdelete], fun q hq => ?_, ?_⟩
    · rw [hdelete, store_followRemoval] at hq
      simpa using (List.mem_filter.mp hq).2
    · have hnone : ∀ p ∈ ([] : List (Point ν)), isOf file p = true := by simp
      refine historyless_of_append hc (by rw [hdelete]; rfl) hnone fun j hj => ?_
      rw [hdelete, store_followRemoval, hj, List.append_nil]

end Index

end

/-! ## A file that is changed and removed -/

namespace Sole

/-- Two old points of the file, and a point of another one between them. -/
def shelved : Index Unit where
  store := [⟨"/a#0", (), [("file_id", .str "/a")]⟩, ⟨"/b", (), [("file_id", .str "/b")]⟩,
    ⟨"/a#7", (), [("file_id", .str "/a")]⟩]
  stats := { maxFailures := 20, maxSources := 100, documents := 2, segments := 3 }

/-- What comes of a change of the file. -/
def rewritten : FileResult := env.engine.resultFor (holding [100]) spec found

theorem ids_rewritten : (env.engine.pointsFor (holding [100]) spec found).map (·.id) =
    ["/a#0"] := by decide +kernel

theorem ok_rewritten : rewritten.ok = true := by
  have hids := ids_rewritten
  unfold Engine.pointsFor at hids
  cases hp : env.engine.prepare (holding [100]) spec found with
  | error f => simp [hp] at hids
  | ok batch =>
    rw [rewritten, ← Index.result_ingestFor (i := shelved) true]
    exact (Index.ingestFor_stored (fun _ => rfl) hp).1

theorem reindex_rewritten :
    (shelved.reindex env.engine (holding [100]) "modify" "/a" spec).2 = .ok (some rewritten) := by
  rw [Index.reindex_of_matchPath (.inr rfl) (matchPath_spec (linkless_holding [100])),
    Index.result_followContent]
  rfl

theorem clashless_shelved : Index.Clashless env.engine (holding [100]) ⟨"modify", "/a",
    spec⟩ shelved.store := by
  intro file hc q hq p hp hid
  have hcanonical : (holding [100]).canonical "/a" = .ok "/a" :=
    (grounded_holding [100]).canonical "/a" rfl
  obtain rfl : "/a" = file := Except.ok.inj (hcanonical.symm.trans hc)
  have hkind : "modify" ≠ "delete" := by decide
  simp only [newPoints, hkind, if_false, matchPath_spec (linkless_holding [100])] at hp
  have hp : p.id = "/a#0" := by
    have hmem := List.mem_map_of_mem (f := (·.id)) hp
    rwa [ids_rewritten, List.mem_singleton] at hmem
  simp only [shelved, List.mem_cons, List.not_mem_nil, or_false] at hq
  rcases hq with rfl | rfl | rfl
  · decide
  · exact absurd (hid.trans hp) (by decide)
  · decide

theorem shelved_historyless :
    (shelved.reindex env.engine (holding [100]) "modify" "/a" spec).2 = .ok (some rewritten) ∧
      ((∃ m content drafts, spec.matchPath (holding [100]) "/a" = .ok (some m) ∧ m.path = "/a" ∧
          (holding [100]).readText env.engine.encoding "/a" = .ok content ∧
          env.engine.registry.process (holding [100]) spec.strategy "/a" content m.metadata
            spec.options = .ok drafts ∧
          List.Forall₂ env.engine.Depicts
            ((shelved.reindex env.engine (holding [100]) "modify" "/a" spec).1.store.filter
              (isOf "/a")) drafts) ∧
        Index.Historyless env.engine (holding [100]) ⟨"modify", "/a", spec⟩ "/a" shelved) ∧
      (shelved.reindex env.engine (holding [100]) "delete" "/a" spec).2 = .ok none ∧
      (∀ q ∈ (shelved.reindex env.engine (holding [100]) "delete" "/a" spec).1.store,
        isOf "/a" q = false) ∧
      Index.Historyless env.engine (holding [100]) ⟨"delete", "/a", spec⟩ "/a" shelved := by
  have hbuiltin : env.engine.registry.Builtin spec.strategy := (Registry.standard_builtin _).builtin
  obtain ⟨hmodify, hdelete⟩ :=
    Index.reindex_historyless hbuiltin ((grounded_holding [100]).canonical "/a" rfl) shelved
  exact ⟨reindex_rewritten, hmodify clashless_shelved rewritten reindex_rewritten ok_rewritten,
    hdelete⟩

end Sole

end SegmentIndex
