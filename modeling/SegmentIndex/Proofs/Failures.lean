import SegmentIndex.Proofs.Convergence

/-!
# What a failed event leaves

A file is read, cut and embedded before any of its points is stored, so a failure up to there stores
nothing. But a change takes the old points of its file away before the file is looked at: when it
fails, the file is gone from the index although it still exists. The appearance of a file takes
nothing away, and leaves the index as it was.
-/
namespace SegmentIndex

section

variable {ν : Type} {e : Engine ν} {t : FileTree} {spec : Spec} {m : MatchedFile}

namespace Engine

theorem kind_of_storeAll {batch : List (Segment × ν)} {s : PointStore ν} {f : Failure}
    (h : (e.storeAll batch s).2 = .error f) : f.kind = .store := by
  induction batch generalizing s with
  | nil => simp [storeAll] at h
  | cons b rest ih =>
    obtain ⟨segment, v⟩ := b
    unfold storeAll at h
    cases hr : e.refuse segment.id with
    | some cause =>
      simp only [hr, Except.error.injEq] at h
      rw [← h]
      rfl
    | none =>
      simp only [hr] at h
      exact ih h

theorem persist_of_failed {s : PointStore ν} {f : Failure} (h : (e.persist t spec m s).2 = .error f)
    (hk : f.kind ≠ .store) : (e.persist t spec m s).1 = s := by
  unfold persist at h ⊢
  cases hp : e.prepare t spec m with
  | error f => rfl
  | ok batch =>
    simp only [hp] at h
    cases hs : (e.storeAll batch s).2 with
    | error f' =>
      simp only [hs, Except.map, Except.error.injEq] at h
      exact absurd (h ▸ kind_of_storeAll hs) hk
    | ok u => simp [hs, Except.map] at h

end Engine

namespace Index

open PointStore (isOf)

variable {i : Index ν} {r : FileResult} {k : FaultKind} {message : String}

theorem path_ingestFor (counting : Bool) : (i.ingestFor e t counting spec m).2.path = m.path := by
  unfold ingestFor
  rcases e.persist t spec m i.store with ⟨s, f | segments⟩ <;> rfl

theorem failure_ingestFor (counting : Bool) {f : Failure} (h : e.prepare t spec m = .error f) :
    (i.ingestFor e t counting spec m).2 =
      ⟨m.path, some spec.path, 0, some (f.kind, f.message)⟩ := by
  have hp : e.persist t spec m i.store = (i.store, .error f) := by
    unfold Engine.persist
    rw [h]
  unfold ingestFor
  rw [hp]
  rfl

theorem store_of_failed {counting : Bool}
    (hf : (i.ingestFor e t counting spec m).2.failure = some (k, message))
    (hk : k ≠ .store) : (i.ingestFor e t counting spec m).1.store = i.store := by
  rw [store_ingestFor]
  unfold ingestFor at hf
  rcases hp : e.persist t spec m i.store with ⟨s, f | segments⟩
  · simp only [hp, fail, Option.some.injEq, Prod.mk.injEq] at hf
    rw [← hp]
    exact Engine.persist_of_failed (by rw [hp]) (by rw [hf.1]; exact hk)
  · simp [hp] at hf

theorem followContent_spec (e : Engine ν) (t : FileTree) (replacing : Bool) (spec : Spec)
    (m : MatchedFile) (i : Index ν) : ∃ i' : Index ν,
    i'.store = (if replacing then PointStore.removeFile m.path i.store else i.store) ∧
      (i.followContent e t replacing spec m).1.store = (i'.ingestFor e t false spec m).1.store ∧
      (i.followContent e t replacing spec m).2 = (i'.ingestFor e t false spec m).2 := by
  unfold followContent
  cases replacing with
  | false =>
    refine ⟨i.seeCaptures spec m, store_seeCaptures, ?_, ?_⟩ <;>
      simp only [Bool.false_eq_true, if_false]
  | true =>
    refine ⟨((i.seeCaptures spec m).removeFile m.path).1, by simp [removeFile], ?_, ?_⟩ <;>
      simp only [if_true]

theorem reindex_of_matchPath {kind path : String} (hk : kind = "create" ∨ kind = "modify")
    (hm : spec.matchPath t path = .ok (some m)) :
    i.reindex e t kind path spec = ((i.followContent e t (kind = "modify") spec m).1,
      .ok (some (i.followContent e t (kind = "modify") spec m).2)) := by
  have hc : eventKinds.contains kind = true := by rcases hk with rfl | rfl <;> decide
  have hd : kind ≠ "delete" := by rcases hk with rfl | rfl <;> decide
  simp only [reindex, hc, hd, hm, Bool.not_true, Bool.false_eq_true, if_false]

theorem matchPath_of_reindex {kind path : String}
    (h : (i.reindex e t kind path spec).2 = .ok (some r)) :
    (kind = "create" ∨ kind = "modify") ∧ ∃ m, spec.matchPath t path = .ok (some m) := by
  unfold reindex at h
  split_ifs at h with hkind hdel
  · cases hc : t.canonical path <;> simp [hc] at h
  · refine ⟨?_, ?_⟩
    · simp [eventKinds, hdel] at hkind
      tauto
    · rcases hm : spec.matchPath t path with f | _ | m
      · simp [hm] at h
      · simp [hm] at h
      · exact ⟨m, rfl⟩

/-- When an event fails before anything is stored, the store is as it was, but for the old points
of the file if the event was a change. -/
theorem store_reindex_of_failed {kind path : String}
    (h : (i.reindex e t kind path spec).2 = .ok (some r))
    (hf : r.failure = some (k, message)) (hk : k ≠ .store) :
    (i.reindex e t kind path spec).1.store =
      if kind = "modify" then PointStore.removeFile r.path i.store else i.store := by
  obtain ⟨hkind, m, hm⟩ := matchPath_of_reindex h
  obtain ⟨i', hi', hstore, hresult⟩ := followContent_spec e t (kind = "modify") spec m i
  rw [reindex_of_matchPath hkind hm] at h ⊢
  obtain rfl := Option.some.inj (Except.ok.inj h)
  rw [hresult] at hf ⊢
  rw [hstore, store_of_failed hf hk, hi', path_ingestFor]
  simp only [decide_eq_true_eq]

/-- An event that fails before anything is stored leaves the store as it was exactly if its file
appeared or had no points: a change takes the old points of its file with it. -/
theorem failed_reindex_keeps_iff {kind path : String}
    (h : (i.reindex e t kind path spec).2 = .ok (some r))
    (hf : r.failure = some (k, message)) (hk : k ≠ .store) :
    (i.reindex e t kind path spec).1.store =
        (if kind = "modify" then PointStore.removeFile r.path i.store else i.store) ∧
      ((i.reindex e t kind path spec).1.store = i.store ↔
        kind = "create" ∨ ∀ q ∈ i.store, isOf r.path q = false) := by
  have hstore := store_reindex_of_failed h hf hk
  refine ⟨hstore, ?_⟩
  rw [hstore]
  rcases (matchPath_of_reindex h).1 with rfl | rfl
  · simp
  · simp [PointStore.removeFile]

end Index

end

/-! ## A model that is down -/

namespace Sole

/-- An engine that cannot embed. -/
def outage : Engine Unit :=
  { env.engine with embed := fun _ => .error (.file (.modelFailed "offline") none) }

/-- An index with one point of the file. -/
def kept : Index Unit where
  store := [⟨"/a#0", (), [("file_id", .str "/a")]⟩]
  stats := { maxFailures := 20, maxSources := 100, documents := 1, segments := 1 }

/-- What comes of a change of the file while it cannot be embedded. -/
def offline : FileResult := ⟨"/a", some "/a", 0, some (.embedding, "fastembed failed: offline")⟩

theorem reindex_outage :
    (kept.reindex outage (holding [100]) "modify" "/a" spec).2 = .ok (some offline) := by
  have hprepare : outage.prepare (holding [100]) spec found =
      .error (.file (.modelFailed "offline") none) := by decide +kernel
  obtain ⟨i', -, -, hresult⟩ := Index.followContent_spec outage (holding [100]) true spec found kept
  rw [Index.reindex_of_matchPath (.inr rfl) (matchPath_spec (linkless_holding [100]))]
  simp only [decide_true, hresult, Index.failure_ingestFor false hprepare]
  rfl

theorem outage_keeps_iff :
    (kept.reindex outage (holding [100]) "modify" "/a" spec).2 = .ok (some offline) ∧
      offline.failure = some (.embedding, "fastembed failed: offline") ∧
      (kept.reindex outage (holding [100]) "modify" "/a" spec).1.store =
        (if "modify" = "modify" then PointStore.removeFile "/a" kept.store else kept.store) ∧
      ((kept.reindex outage (holding [100]) "modify" "/a" spec).1.store = kept.store ↔
        "modify" = "create" ∨ ∀ q ∈ kept.store, PointStore.isOf "/a" q = false) :=
  ⟨reindex_outage, rfl, Index.failed_reindex_keeps_iff reindex_outage rfl (by decide)⟩

/-- The points of a file that changed while it could not be embedded are gone. -/
theorem outage_forgets :
    (kept.reindex outage (holding [100]) "modify" "/a" spec).2 = .ok (some offline) ∧
      offline.failure = some (.embedding, "fastembed failed: offline") ∧
      (kept.reindex outage (holding [100]) "modify" "/a" spec).1.store ≠ kept.store := by
  refine ⟨reindex_outage, rfl, ?_⟩
  rw [Index.store_reindex_of_failed reindex_outage rfl (by decide)]
  decide

end Sole

end SegmentIndex
