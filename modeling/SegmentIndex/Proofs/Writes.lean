import Mathlib.Data.List.TakeWhile
import SegmentIndex.Proofs.Outcomes

/-!
# What an ingest writes

An ingest stores the segments of its files one after the other: the files in the order in which they
are found, and of each file the segments up to the first that the store refuses. The store
afterwards is the one before with these points put in, whether files failed or not. The values of
their metadata are remembered for the files that did not fail.
-/
namespace SegmentIndex

variable {ν : Type}

namespace Engine

variable (e : Engine ν) (t : FileTree) (spec : Spec) (m : MatchedFile)

def pointsOf (batch : List (Segment × ν)) : List (Point ν) := batch.map fun b => pointOf b.1 b.2

/-- The segments of a matched file that are stored, with their vectors. -/
def written : List (Segment × ν) :=
  match e.prepare t spec m with
  | .error _ => []
  | .ok batch => batch.takeWhile fun b => (e.refuse b.1.id).isNone

/-- The segments that are stored for the files of specs, up to a
spec whose files cannot be looked for. -/
def writtenAll : List Spec → List (Segment × ν)
  | [] => []
  | spec :: rest =>
    match spec.matchFiles t with
    | .error _ => []
    | .ok found => found.flatMap (e.written t spec) ++ writtenAll rest

/-- The metadata that are remembered for a matched file: those
of all its segments, unless it fails. -/
def noted : List Entries :=
  match e.outcome t spec m with
  | .error _ => []
  | .ok segments => segments.map (·.metadata)

/-- The metadata that are remembered for the files of specs. -/
def notedAll : List Spec → List Entries
  | [] => []
  | spec :: rest =>
    match spec.matchFiles t with
    | .error _ => []
    | .ok found => found.flatMap (e.noted t spec) ++ notedAll rest

@[simp] theorem pointsOf_append (batch more : List (Segment × ν)) :
    pointsOf (batch ++ more) = pointsOf batch ++ pointsOf more := List.map_append

theorem fst_storeAll (batch : List (Segment × ν)) (s : PointStore ν) : (e.storeAll batch s).1 =
    PointStore.upsertAll (pointsOf (batch.takeWhile fun b => (e.refuse b.1.id).isNone)) s := by
  induction batch generalizing s with
  | nil => rfl
  | cons b rest ih =>
    obtain ⟨segment, v⟩ := b
    unfold storeAll
    cases hr : e.refuse segment.id with
    | some f => simp [hr, pointsOf, PointStore.upsertAll]
    | none =>
      simp only [hr, List.takeWhile_cons, Option.isNone_none, if_true]
      exact ih _

theorem fst_persist (s : PointStore ν) :
    (e.persist t spec m s).1 = PointStore.upsertAll (pointsOf (e.written t spec m)) s := by
  unfold persist written
  cases e.prepare t spec m with
  | error f => rfl
  | ok batch => exact e.fst_storeAll batch s

variable {e t spec m}

theorem pointsOf_written (hr : ∀ id, e.refuse id = none) :
    pointsOf (e.written t spec m) = e.pointsFor t spec m := by
  unfold written pointsFor
  cases e.prepare t spec m with
  | error f => rfl
  | ok batch =>
    have hall : (batch.takeWhile fun b => (e.refuse b.1.id).isNone) = batch := by
      rw [List.takeWhile_eq_self_iff]
      intro b _
      rw [hr, Option.isNone_none]
    simp only [hall]
    rfl

theorem of_mem_written {b : Segment × ν} (h : b ∈ e.written t spec m) :
    ∃ segments, e.segmentsOf t spec m = .ok segments ∧ b.1 ∈ segments := by
  unfold written prepare at h
  cases hs : e.segmentsOf t spec m with
  | error f => simp [hs] at h
  | ok segments =>
    simp only [hs] at h
    cases hb : e.embedAll segments with
    | error f => simp [hb] at h
    | ok batch =>
      simp only [hb] at h
      refine ⟨segments, rfl, ?_⟩
      rw [← fst_of_embedAll hb]
      exact List.mem_map_of_mem ((List.takeWhile_sublist _).subset h)

theorem mem_writtenAll {specs : List Spec} {b : Segment × ν} (h : b ∈ e.writtenAll t specs) :
    ∃ spec ∈ specs, ∃ m ∈ spec.found t, b ∈ e.written t spec m := by
  induction specs with
  | nil => simp [writtenAll] at h
  | cons spec rest ih =>
    rw [writtenAll] at h
    cases hf : spec.matchFiles t with
    | error f => simp [hf] at h
    | ok found =>
      simp only [hf, List.mem_append, List.mem_flatMap] at h
      rcases h with ⟨m, hm, hb⟩ | h
      · exact ⟨spec, List.mem_cons_self, m, by rwa [Spec.found, hf], hb⟩
      · obtain ⟨spec', hs, hrest⟩ := ih h
        exact ⟨spec', List.mem_cons_of_mem _ hs, hrest⟩

theorem takeWhile_of_storeAll {batch : List (Segment × ν)} {s : PointStore ν}
    (h : (e.storeAll batch s).2 = .ok ()) :
    (batch.takeWhile fun b => (e.refuse b.1.id).isNone) = batch := by
  induction batch generalizing s with
  | nil => rfl
  | cons b rest ih =>
    obtain ⟨segment, v⟩ := b
    unfold storeAll at h
    cases hr : e.refuse segment.id with
    | some f => simp [hr] at h
    | none =>
      simp only [hr] at h
      simp [hr, ih h]

theorem written_of_ok (h : (e.resultFor t spec m).ok = true) :
    ∃ batch, e.prepare t spec m = .ok batch ∧
    e.written t spec m = batch ∧ e.outcome t spec m = .ok (batch.map (·.1)) := by
  unfold resultFor at h
  unfold outcome persist at h ⊢
  cases hp : e.prepare t spec m with
  | error f => simp [hp, FileResult.ok] at h
  | ok batch =>
    simp only [hp] at h
    cases hs : (e.storeAll batch []).2 with
    | error f => simp [hs, Except.map, FileResult.ok] at h
    | ok u =>
      have hwritten : e.written t spec m = batch := by
        unfold written
        simp only [hp]
        exact takeWhile_of_storeAll hs
      exact ⟨batch, rfl, hwritten, by simp only [hs, Except.map]⟩

theorem noted_of_ok (h : (e.resultFor t spec m).ok = true) :
    e.noted t spec m = (e.written t spec m).map (·.1.metadata) := by
  obtain ⟨batch, -, hwritten, houtcome⟩ := written_of_ok h
  unfold noted
  rw [houtcome, hwritten]
  exact List.map_map

theorem notedAll_of_ok {specs : List Spec}
    (h : ∀ spec ∈ specs, ∀ m ∈ spec.found t, (e.resultFor t spec m).ok = true) :
    e.notedAll t specs = (e.writtenAll t specs).map (·.1.metadata) := by
  induction specs with
  | nil => rfl
  | cons spec rest ih =>
    rw [List.forall_mem_cons] at h
    rw [notedAll, writtenAll]
    cases hf : spec.matchFiles t with
    | error f => rfl
    | ok found =>
      have hfound : ∀ m ∈ found, e.noted t spec m = (e.written t spec m).map (·.1.metadata) := by
        intro m hm
        exact noted_of_ok (h.1 m (by rwa [Spec.found, hf]))
      simp only [List.map_append, List.map_flatMap, ih h.2, List.flatMap_congr hfound]

end Engine

namespace Stats

/-- Remembers the value of an entry under its key. -/
def remember (values : Table (List Value)) (entry : String × Value) : Table (List Value) :=
  Table.alter entry.1 (fun old => Value.addTo (old.getD []) (indexed entry.2)) values

theorem values_recordValues (s : Stats) (metadata : List Entries) :
    (s.recordValues metadata).values = metadata.flatten.foldl remember s.values := rfl

theorem values_onSource (s : Stats) (source : Option String) (f : SourceStats → SourceStats) :
    (s.onSource source f).values = s.values := by
  cases source <;> rfl

theorem values_recordSuccess (s : Stats) (source : Option String) (metadata : List Entries)
    (counting : Bool) :
    (s.recordSuccess source metadata counting).values =
      metadata.flatten.foldl remember s.values := by
  unfold recordSuccess adjust
  cases counting with
  | true => simp only [if_true, values_onSource, values_recordValues]
  | false => simp only [Bool.false_eq_true, if_false, values_onSource, values_recordValues]

theorem values_recordFailure (s : Stats) (r : FailureRecord) (counting : Bool) :
    (s.recordFailure r counting).values = s.values := values_onSource ..

theorem values_track (s : Stats) (path : String) : (s.track path).1.values = s.values := by
  unfold track
  split_ifs <;> rfl

theorem values_register (paths : List String) (s : Stats) :
    (register paths s).1.values = s.values := by
  induction paths generalizing s with
  | nil => rfl
  | cons path rest ih =>
    rw [register]
    exact (ih _).trans (values_track s path)

end Stats

namespace Index

variable {e : Engine ν} {t : FileTree} {i : Index ν}

theorem values_seeCaptures (spec : Spec) (m : MatchedFile) :
    (i.seeCaptures spec m).stats.values = i.stats.values := by
  unfold seeCaptures
  split_ifs <;> rfl

theorem values_ingestFor (counting : Bool) (spec : Spec) (m : MatchedFile) :
    (i.ingestFor e t counting spec m).1.stats.values =
      (e.noted t spec m).flatten.foldl Stats.remember i.stats.values := by
  have hsnd := e.snd_persist t spec m i.store
  unfold ingestFor Engine.noted
  rcases hp : e.persist t spec m i.store with ⟨s, f | segments⟩
  · rw [hp] at hsnd
    simp only [← hsnd]
    exact Stats.values_recordFailure ..
  · rw [hp] at hsnd
    simp only [← hsnd]
    exact Stats.values_recordSuccess ..

theorem written_ingestMatches (spec : Spec) (found : List MatchedFile) :
    (i.ingestMatches e t spec found).1.store =
        PointStore.upsertAll (Engine.pointsOf (found.flatMap (e.written t spec))) i.store ∧
      (i.ingestMatches e t spec found).1.stats.values =
        (found.flatMap (e.noted t spec)).flatten.foldl Stats.remember i.stats.values := by
  induction found generalizing i with
  | nil => exact ⟨rfl, rfl⟩
  | cons m rest ih =>
    obtain ⟨hstore, hvalues⟩ := ih (i := ((i.seeCaptures spec m).ingestFor e t true spec m).1)
    rw [ingestMatches_cons, hstore, hvalues, store_ingestFor, store_seeCaptures, Engine.fst_persist,
      values_ingestFor, values_seeCaptures]
    simp [PointStore.upsertAll]

/-- The store after the files of some specs, and the values that are remembered. -/
theorem written_ingestSpecs (specs : List Spec) :
    (i.ingestSpecs e t specs).1.store =
        PointStore.upsertAll (Engine.pointsOf (e.writtenAll t specs)) i.store ∧
      (i.ingestSpecs e t specs).1.stats.values =
        (e.notedAll t specs).flatten.foldl Stats.remember i.stats.values := by
  induction specs generalizing i with
  | nil => exact ⟨rfl, rfl⟩
  | cons spec rest ih =>
    rw [ingestSpecs, Engine.writtenAll, Engine.notedAll]
    cases hf : spec.matchFiles t with
    | error f => exact ⟨rfl, rfl⟩
    | ok found =>
      obtain ⟨hstore, hvalues⟩ := ih (i := (i.ingestMatches e t spec found).1)
      obtain ⟨hstore', hvalues'⟩ := written_ingestMatches (e := e) (t := t) (i := i) spec found
      simp only [hstore, hvalues, hstore', hvalues']
      simp [PointStore.upsertAll]

theorem values_registerSources (specs : List Spec) :
    (i.registerSources specs).stats.values = i.stats.values := by
  have h := Stats.values_register (specs.map (·.path)) i.stats
  unfold registerSources
  dsimp only
  split_ifs <;> exact h

theorem written_ingest {specs : List Spec} (hc : checkSpecs e.registry specs = .ok ()) :
    (i.ingest e t specs).1.store =
      PointStore.upsertAll (Engine.pointsOf (e.writtenAll t specs)) i.store ∧
      (i.ingest e t specs).1.stats.values =
        (e.notedAll t specs).flatten.foldl Stats.remember i.stats.values := by
  obtain ⟨hstore, hvalues⟩ := written_ingestSpecs (e := e) (t := t) (i :=
    i.registerSources specs) specs
  rw [store_registerSources] at hstore
  rw [values_registerSources] at hvalues
  unfold ingest
  rw [hc]
  exact ⟨hstore, hvalues⟩

end Index

end SegmentIndex
