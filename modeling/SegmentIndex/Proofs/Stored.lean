import SegmentIndex.Proofs.Frames
import SegmentIndex.Session

/-!
# What an event stores

When the store refuses nothing, following an event of a file stores the points that the file
should have. The removal of a file and a change take its old points away; what the
appearance of a file does not replace stays.
-/
namespace SegmentIndex

variable {ν : Type}

namespace PointStore

variable {s : PointStore ν} {p q : Point ν} {ps : List (Point ν)}

def Distinct (s : PointStore ν) : Prop := (s.map (·.id)).Nodup

def upsertAll (ps : List (Point ν)) (s : PointStore ν) : PointStore ν :=
  ps.foldl (fun s p => upsert p s) s

theorem mem_upsert_iff (hd : Distinct s) : q ∈ upsert p s ↔ q = p ∨ q ∈ s ∧ q.id ≠ p.id := by
  induction s with
  | nil => simp [upsert]
  | cons r rest ih =>
    rw [Distinct, List.map_cons, List.nodup_cons] at hd
    obtain ⟨hr, hd⟩ := hd
    unfold upsert
    split_ifs with h
    · have hrest : ∀ x ∈ rest, x.id ≠ p.id := fun x hx hid => hr (h ▸ hid ▸ List.mem_map_of_mem hx)
      simp only [List.mem_cons]
      constructor
      · rintro (rfl | hq)
        · exact .inl rfl
        · exact .inr ⟨.inr hq, hrest q hq⟩
      · rintro (rfl | ⟨rfl | hq, hid⟩)
        · exact .inl rfl
        · exact absurd h hid
        · exact .inr hq
    · simp only [List.mem_cons, ih hd]
      constructor
      · rintro (rfl | rfl | ⟨hq, hid⟩)
        · exact .inr ⟨.inl rfl, h⟩
        · exact .inl rfl
        · exact .inr ⟨.inr hq, hid⟩
      · rintro (rfl | ⟨rfl | hq, hid⟩)
        · exact .inr (.inl rfl)
        · exact .inl rfl
        · exact .inr (.inr ⟨hq, hid⟩)

theorem Distinct.upsert (hd : Distinct s) : Distinct (upsert p s) := by
  induction s with
  | nil => simp [Distinct, PointStore.upsert]
  | cons r rest ih =>
    rw [Distinct, List.map_cons, List.nodup_cons] at hd
    unfold PointStore.upsert
    split_ifs with h
    · rw [Distinct, List.map_cons, List.nodup_cons, ← h]
      exact hd
    · rw [Distinct, List.map_cons, List.nodup_cons]
      refine ⟨fun hm => ?_, ih hd.2⟩
      obtain ⟨x, hx, hid⟩ := List.mem_map.mp hm
      rcases mem_upsert hx with rfl | hx
      · exact h hid.symm
      · exact hd.1 (List.mem_map.mpr ⟨x, hx, hid⟩)

theorem Distinct.upsertAll (hd : Distinct s) (ps : List (Point ν)) : Distinct (upsertAll ps s) := by
  induction ps generalizing s with
  | nil => exact hd
  | cons p ps ih => exact ih hd.upsert

theorem Distinct.filter (hd : Distinct s) (keep : Point ν → Bool) : Distinct (s.filter keep) :=
  List.Nodup.sublist (List.filter_sublist.map _) hd

theorem Distinct.nodup (hd : Distinct s) : s.Nodup := List.Nodup.of_map _ hd

theorem mem_upsertAll_iff (hd : Distinct s) (hp : (ps.map (·.id)).Nodup) :
    q ∈ upsertAll ps s ↔ q ∈ ps ∨ q ∈ s ∧ ∀ p ∈ ps, q.id ≠ p.id := by
  induction ps generalizing s with
  | nil => simp [upsertAll]
  | cons p ps ih =>
    rw [List.map_cons, List.nodup_cons] at hp
    have : q ∈ PointStore.upsertAll (p :: ps) s ↔
        q ∈ PointStore.upsertAll ps (PointStore.upsert p s) := .rfl
    rw [this, ih hd.upsert hp.2, mem_upsert_iff hd, List.forall_mem_cons, List.mem_cons]
    constructor
    · rintro (hq | ⟨rfl | ⟨hq, hid⟩, hall⟩)
      · exact .inl (.inr hq)
      · exact .inl (.inl rfl)
      · exact .inr ⟨hq, hid, hall⟩
    · rintro ((rfl | hq) | ⟨hq, hid, hall⟩)
      · exact .inr ⟨.inl rfl, fun x hx hid => hp.1 (hid ▸ List.mem_map_of_mem hx)⟩
      · exact .inl hq
      · exact .inr ⟨.inr ⟨hq, hid⟩, hall⟩

theorem mem_ids_upsert {id : String} :
    id ∈ (upsert p s).map (·.id) ↔ id = p.id ∨ id ∈ s.map (·.id) := by
  induction s with
  | nil => simp [upsert]
  | cons r rest ih =>
    unfold upsert
    split_ifs with h
    · simp [h]
    · simp only [List.map_cons, List.mem_cons, ih]
      tauto

theorem mem_ids_upsertAll {id : String} :
    id ∈ (upsertAll ps s).map (·.id) ↔ id ∈ s.map (·.id) ∨ id ∈ ps.map (·.id) := by
  induction ps generalizing s with
  | nil => simp [upsertAll]
  | cons p ps ih =>
    have : upsertAll (p :: ps) s = upsertAll ps (upsert p s) := rfl
    rw [this, ih, mem_ids_upsert, List.map_cons, List.mem_cons]
    tauto

end PointStore

open PointStore (Distinct upsertAll isOf)

namespace Engine

variable {e : Engine ν} {t : FileTree} {spec : Spec} {m : MatchedFile}

/-- The points that a matched file should have; none if it cannot be read, cut or embedded. -/
def pointsFor (e : Engine ν) (t : FileTree) (spec : Spec) (m : MatchedFile) : List (Point ν) :=
  match e.prepare t spec m with
  | .ok batch => batch.map fun b => pointOf b.1 b.2
  | .error _ => []

theorem storeAll_eq (hr : ∀ id, e.refuse id = none) (batch : List (Segment × ν))
    (s : PointStore ν) :
    (e.storeAll batch s).1 = upsertAll (batch.map fun b => pointOf b.1 b.2) s := by
  induction batch generalizing s with
  | nil => rfl
  | cons b rest ih =>
    obtain ⟨segment, v⟩ := b
    simp only [storeAll, hr]
    exact ih _

theorem persist_eq (hr : ∀ id, e.refuse id = none) (s : PointStore ν) :
    (e.persist t spec m s).1 = upsertAll (e.pointsFor t spec m) s := by
  unfold persist pointsFor
  cases e.prepare t spec m with
  | error f => rfl
  | ok batch => exact storeAll_eq hr batch s

theorem pointsFor_spec (hb : e.registry.Builtin spec.strategy) :
    (∀ q ∈ e.pointsFor t spec m, isOf m.path q = true ∧ ∃ o, q.id = segmentId m.path o) ∧
      ((e.pointsFor t spec m).map (·.id)).Nodup := by
  unfold pointsFor
  cases hp : e.prepare t spec m with
  | error f => simp
  | ok batch =>
    have hn := named_prepare hb hp
    constructor
    · intro q hq
      obtain ⟨b, hb, rfl⟩ := List.mem_map.mp hq
      obtain ⟨-, hfile, ho⟩ := hn.file b.1 (List.mem_map_of_mem hb)
      exact ⟨isOf_pointOf hfile, ho⟩
    · have := hn.distinct
      rw [List.map_map] at this ⊢
      exact this

end Engine

namespace Index

variable {e : Engine ν} {t : FileTree} {spec : Spec} {m : MatchedFile} {i : Index ν} {path : String}

theorem store_followContent (hr : ∀ id, e.refuse id = none) (t : FileTree) (replacing : Bool)
    (spec : Spec) (m : MatchedFile) (i : Index ν) :
    (i.followContent e t replacing spec m).1.store = upsertAll (e.pointsFor t spec m)
      (if replacing then PointStore.removeFile m.path i.store else i.store) := by
  obtain ⟨i', hs, -, -, heq⟩ := followContent_eq e t replacing spec m i
  rw [heq, ← hs, ← Engine.persist_eq hr, ← store_ingestFor false]

theorem store_followRemoval (file : String) :
    (i.followRemoval spec file).store = PointStore.removeFile file i.store := by
  unfold followRemoval removeFile
  dsimp only
  split_ifs <;> rfl

theorem store_reindex_delete (hp : t.canonical path = .ok path) :
    (i.reindex e t "delete" path spec).1.store = PointStore.removeFile path i.store := by
  have : eventKinds.contains "delete" = true := by decide
  simp only [reindex, this, Bool.not_true, Bool.false_eq_true, if_false, if_true, hp]
  exact store_followRemoval path

theorem store_reindex_content (hr : ∀ id, e.refuse id = none) {kind : String}
    (hk : kind = "create" ∨ kind = "modify") (hm : spec.matchPath t path = .ok (some m)) :
    (i.reindex e t kind path spec).1.store = upsertAll (e.pointsFor t spec m)
      (if kind = "modify" then PointStore.removeFile m.path i.store else i.store) := by
  have hc : eventKinds.contains kind = true := by rcases hk with rfl | rfl <;> decide
  have hd : kind ≠ "delete" := by rcases hk with rfl | rfl <;> decide
  have := store_followContent hr t (decide (kind = "modify")) spec m i
  rcases hx : i.followContent e t (kind = "modify") spec m with ⟨j, r⟩
  rw [hx] at this
  simp only [reindex, hc, hd, hm, hx, Bool.not_true, Bool.false_eq_true, if_false]
  rw [this]
  simp only [decide_eq_true_eq]

end Index

/-! ## Following an event that was held back -/

/-- The points that an event brings in. -/
def newPoints (e : Engine ν) (t : FileTree) (event : PendingEvent Spec) : List (Point ν) :=
  if event.kind = "delete" then []
  else
    match event.spec.matchPath t event.path with
    | .ok (some m) => e.pointsFor t event.spec m
    | _ => []

/-- The old points of its file that an event leaves in the store beside the new ones. -/
def leftPoints (e : Engine ν) (t : FileTree) (event : PendingEvent Spec) (s : PointStore ν) :
    List (Point ν) :=
  if event.kind = "create" then
    s.filter fun q => isOf event.path q && !(newPoints e t event).any fun p => p.id = q.id
  else []

theorem store_handler (e : Engine ν) (t : FileTree) (event : PendingEvent Spec) (i : Index ν) :
    (Session.handler e t i event).1.store =
      (i.reindex e t event.kind event.path event.spec).1.store := rfl

theorem distinct_handler {e : Engine ν} {t : FileTree} {event : PendingEvent Spec} {i : Index ν}
    {m : MatchedFile} (hr : ∀ id, e.refuse id = none) (hd : Distinct i.store)
    (hp : t.canonical event.path = .ok event.path)
    (hm : event.spec.matchPath t event.path = .ok (some m))
    (hk : event.kind ∈ Index.eventKinds) : Distinct (Session.handler e t i event).1.store := by
  obtain ⟨kind, path, spec⟩ := event
  simp only [Index.eventKinds, List.mem_cons, List.not_mem_nil, or_false] at hk
  rw [store_handler]
  rcases hk with rfl | rfl | rfl
  · rw [Index.store_reindex_content hr (.inl rfl) hm]
    exact hd.upsertAll _
  · rw [Index.store_reindex_content hr (.inr rfl) hm]
    exact (hd.filter _).upsertAll _
  · rw [Index.store_reindex_delete hp]
    exact hd.filter _

/-- The store after an event: the new points of the file, the old
ones that stay, and those of other files. -/
theorem mem_handler {e : Engine ν} {t : FileTree} {event : PendingEvent Spec} {i : Index ν}
    {m : MatchedFile} {known : String → Prop} (hr : ∀ id, e.refuse id = none)
    (hb : e.registry.Builtin event.spec.strategy) (hc : ClashFree known) (hf : known event.path)
    (hs : PointStore.Known known i.store) (hd : Distinct i.store)
    (hp : t.canonical event.path = .ok event.path)
    (hm : event.spec.matchPath t event.path = .ok (some m)) (hk : event.kind ∈ Index.eventKinds)
    (q : Point ν) :
    q ∈ (Session.handler e t i event).1.store ↔
      q ∈ newPoints e t event ∨ q ∈ leftPoints e t event i.store ∨ q ∈ i.store ∧
        isOf event.path q = false := by
  obtain ⟨kind, path, spec⟩ := event
  have hpath : m.path = path := by
    have := Spec.canonical_of_matchPath hm
    rw [hp] at this
    exact (Except.ok.inj this).symm
  obtain ⟨hof, hnd⟩ := Engine.pointsFor_spec (t := t) (m := m) hb
  have hother : ∀ q ∈ i.store, isOf path q = false → ∀ p ∈ e.pointsFor t spec m, q.id ≠ p.id := by
    intro q hq hn p hp hid
    obtain ⟨hisof, o, ho⟩ := hof p hp
    rw [hpath] at ho
    have := hs.isOf_of_id hc hf ho q hq hid
    simp [this] at hn
  simp only [Index.eventKinds, List.mem_cons, List.not_mem_nil, or_false] at hk
  simp only [Session.handler, newPoints, leftPoints, hm]
  rcases hk with rfl | rfl | rfl
  · have hne : ("create" : String) ≠ "delete" := by decide
    have hnm : ("create" : String) ≠ "modify" := by decide
    simp only [Index.store_reindex_content hr (.inl rfl) hm, hne, hnm, if_false, if_true,
      PointStore.mem_upsertAll_iff hd hnd, List.mem_filter, Bool.and_eq_true, Bool.not_eq_true',
      List.any_eq_false, decide_eq_true_eq]
    refine or_congr_right ⟨?_, ?_⟩
    · rintro ⟨hq, hn⟩
      cases hisof : isOf path q with
      | true => exact .inl ⟨hq, rfl, fun p hp => (hn p hp).symm⟩
      | false => exact .inr ⟨hq, rfl⟩
    · rintro (⟨hq, -, hn⟩ | ⟨hq, hn⟩)
      · exact ⟨hq, fun p hp hid => hn p hp hid.symm⟩
      · exact ⟨hq, hother q hq hn⟩
  · have hne : ("modify" : String) ≠ "delete" := by decide
    have hnc : ("modify" : String) ≠ "create" := by decide
    simp only [Index.store_reindex_content hr (.inr rfl) hm, hne, hnc, if_false, if_true,
      PointStore.mem_upsertAll_iff (hd.filter _) hnd, hpath, PointStore.removeFile, List.mem_filter,
      Bool.not_eq_true', List.not_mem_nil, false_or]
    exact or_congr_right ⟨fun h => h.1, fun hq => ⟨hq, hother q hq.1 hq.2⟩⟩
  · have hnc : ("delete" : String) ≠ "create" := by decide
    simp only [Index.store_reindex_delete hp, hnc, if_false, if_true, PointStore.removeFile,
      List.mem_filter, Bool.not_eq_true', List.not_mem_nil, false_or]

end SegmentIndex
