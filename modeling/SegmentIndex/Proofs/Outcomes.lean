import SegmentIndex.Proofs.BulkIngest

/-!
# What comes of an ingest

The result of a file depends on the file and on what it is ingested with, and not on the index that
it goes into. So an ingest reports the results of the matches of its specs, spec by spec and in the
order of the matches, and everything that it stores is made of one of them.
-/
namespace SegmentIndex

variable {ν : Type}

/-- The files of a spec; none if they cannot be looked for. -/
def Spec.found (t : FileTree) (spec : Spec) : List MatchedFile :=
  match spec.matchFiles t with
  | .ok found => found
  | .error _ => []

namespace Engine

variable (e : Engine ν) (t : FileTree) (spec : Spec) (m : MatchedFile)

/-- What comes of persisting a matched file, whatever is stored already. -/
def outcome : Except Failure (List Segment) := (e.persist t spec m []).2

def resultFor : FileResult :=
  match e.outcome t spec m with
  | .ok segments => ⟨m.path, some spec.path, segments.length, none⟩
  | .error f => ⟨m.path, some spec.path, 0, some (f.kind, f.message)⟩

/-- The results of all matches of some specs, up to a spec whose files cannot be looked for. -/
def resultsFor : List Spec → Except Failure (List FileResult)
  | [] => .ok []
  | spec :: rest =>
    match spec.matchFiles t with
    | .error f => .error f
    | .ok found => (resultsFor rest).map (found.map (e.resultFor t spec) ++ ·)

/-- There are results exactly if the files of all specs can be
looked for: one for each match, in order. -/
theorem resultsFor_eq_ok_iff {specs : List Spec} {results : List FileResult} :
    e.resultsFor t specs = .ok results ↔ (∀ spec ∈ specs, ∃ found, spec.matchFiles t = .ok found) ∧
      results = specs.flatMap fun spec => (spec.found t).map (e.resultFor t spec) := by
  induction specs generalizing results with
  | nil => simp [resultsFor, eq_comm]
  | cons spec rest ih =>
    rw [resultsFor, List.forall_mem_cons, List.flatMap_cons, Spec.found]
    cases spec.matchFiles t with
    | error f => simp
    | ok found =>
      simp only [Except.ok.injEq, exists_eq', true_and]
      cases hrest : e.resultsFor t rest with
      | error f =>
        have hno : ¬ ∀ spec ∈ rest, ∃ found, spec.matchFiles t = .ok found := fun hall => by
          simp [ih.mpr ⟨hall, rfl⟩] at hrest
        simp [Except.map, hno]
      | ok more =>
        obtain ⟨hall, rfl⟩ := ih.mp hrest
        simp only [Except.map, Except.ok.injEq]
        exact ⟨fun h => ⟨hall, h.symm⟩, fun h => h.2.symm⟩

theorem snd_storeAll (batch : List (Segment × ν)) (s s' : PointStore ν) :
    (e.storeAll batch s).2 = (e.storeAll batch s').2 := by
  induction batch generalizing s s' with
  | nil => rfl
  | cons b rest ih =>
    obtain ⟨segment, v⟩ := b
    unfold storeAll
    cases e.refuse segment.id with
    | some f => rfl
    | none => exact ih _ _

theorem snd_persist (s : PointStore ν) : (e.persist t spec m s).2 = e.outcome t spec m := by
  unfold outcome persist
  cases e.prepare t spec m with
  | error f => rfl
  | ok batch =>
    show ((e.storeAll batch s).2.map fun _ => batch.map (·.1)) = _
    rw [snd_storeAll e batch s []]

@[simp] theorem path_resultFor : (e.resultFor t spec m).path = m.path := by
  unfold resultFor
  cases e.outcome t spec m <;> rfl

end Engine

namespace Index

variable {e : Engine ν} {t : FileTree} {i : Index ν} {q : Point ν}

theorem result_ingestFor (counting : Bool) (spec : Spec) (m : MatchedFile) :
    (i.ingestFor e t counting spec m).2 = e.resultFor t spec m := by
  have hsnd := e.snd_persist t spec m i.store
  unfold ingestFor Engine.resultFor
  rcases hp : e.persist t spec m i.store with ⟨s, f | segments⟩
  · simp only [← hsnd, hp]
    rfl
  · simp only [← hsnd, hp]

theorem results_ingestMatches (spec : Spec) (found : List MatchedFile) :
    (i.ingestMatches e t spec found).2 = found.map (e.resultFor t spec) := by
  induction found generalizing i with
  | nil => rfl
  | cons m rest ih => simp only [ingestMatches, List.map_cons, result_ingestFor, ih]

theorem results_ingestSpecs (specs : List Spec) :
    (i.ingestSpecs e t specs).2 = e.resultsFor t specs := by
  induction specs generalizing i with
  | nil => rfl
  | cons spec rest ih =>
    unfold ingestSpecs Engine.resultsFor
    cases spec.matchFiles t with
    | error f => rfl
    | ok found => simp only [ih, results_ingestMatches]

/-- The report of an ingest is one about the results of the matches, spec by spec. -/
theorem report_ingest (specs : List Spec) (hc : checkSpecs e.registry specs = .ok ()) :
    (i.ingest e t specs).2 = (e.resultsFor t specs).map .ofResults := by
  unfold ingest
  rw [hc]
  simp only [results_ingestSpecs]

/-! ## Points -/

theorem mem_ingestMatches {spec : Spec} {found : List MatchedFile}
    (h : q ∈ (i.ingestMatches e t spec found).1.store) : q ∈ i.store ∨ ∃ m, e.Makes t spec m q := by
  induction found generalizing i with
  | nil => exact .inl h
  | cons m rest ih =>
    rw [ingestMatches_cons] at h
    rcases ih h with h | h
    · rw [store_ingestFor, store_seeCaptures] at h
      exact (Engine.mem_persist h).imp_right fun h => ⟨m, h⟩
    · exact .inr h

theorem mem_ingestSpecs {specs : List Spec} (h : q ∈ (i.ingestSpecs e t specs).1.store) :
    q ∈ i.store ∨ ∃ spec ∈ specs, ∃ m, e.Makes t spec m q := by
  induction specs generalizing i with
  | nil => exact .inl h
  | cons spec rest ih =>
    rw [ingestSpecs] at h
    cases hf : spec.matchFiles t with
    | error f =>
      rw [hf] at h
      exact .inl h
    | ok found =>
      rw [hf] at h
      rcases ih h with h | ⟨spec', hs, m, h⟩
      · rcases mem_ingestMatches h with h | h
        · exact .inl h
        · exact .inr ⟨spec, List.mem_cons_self, h⟩
      · exact .inr ⟨spec', List.mem_cons_of_mem _ hs, m, h⟩

/-- What is stored after an ingest was there before or is made of a
file, also when the ingest is given up. -/
theorem mem_of_ingest {specs : List Spec} (h : q ∈ (i.ingest e t specs).1.store) :
    q ∈ i.store ∨ ∃ spec ∈ specs, ∃ m, e.Makes t spec m q := by
  unfold ingest at h
  cases hc : checkSpecs e.registry specs with
  | error f =>
    rw [hc] at h
    exact .inl h
  | ok _ =>
    rw [hc] at h
    simpa using mem_ingestSpecs h

end Index

end SegmentIndex
