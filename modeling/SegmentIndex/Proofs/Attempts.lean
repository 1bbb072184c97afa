import SegmentIndex.Proofs.Calls
import SegmentIndex.Proofs.Effects

/-!
# Attempts to ingest one file

A file is read, cut, validated and embedded as a whole before its first segment is stored. An
attempt that fails on the way has a result like any other, and leaves one more record and one more
error behind and nothing else. An attempt that the store ends half-way is not taken back: what it
has stored stays, and the segments are never counted.
-/
namespace SegmentIndex

variable {ν : Type}

/-- A function that makes something of one element after another
stops at the first of which it cannot. -/
theorem scan_eq_error_iff {α β γ ε : Type} {f : α → Except ε β} {g : α → β → γ}
    (F : List α → Except ε (List γ))
    (hnil : F [] = .ok []) (herror : ∀ x xs e, f x = .error e → F (x :: xs) = .error e)
    (hok : ∀ x xs y, f x = .ok y → F (x :: xs) = (F xs).map (g x y :: ·)) {xs : List α} {e : ε} :
    F xs = .error e ↔
      ∃ before x after, xs = before ++ x :: after ∧ (∀ b ∈ before, ∃ y, f b = .ok y) ∧
        f x = .error e := by
  constructor
  · intro h
    induction xs with
    | nil => simp [hnil] at h
    | cons x rest ih =>
      cases hx : f x with
      | error e' =>
        obtain rfl : e' = e := by simpa [herror x rest e' hx] using h
        exact ⟨[], x, rest, rfl, by simp, hx⟩
      | ok y =>
        rw [hok x rest y hx] at h
        cases hrest : F rest with
        | ok made => simp [hrest, Except.map] at h
        | error e' =>
          obtain rfl : e' = e := by simpa [hrest, Except.map] using h
          obtain ⟨before, x', after, rfl, hbefore, hx'⟩ := ih hrest
          exact ⟨x :: before, x', after, rfl, List.forall_mem_cons.mpr ⟨⟨y, hx⟩, hbefore⟩, hx'⟩
  · rintro ⟨before, x, after, rfl, hbefore, hx⟩
    induction before with
    | nil => exact herror x after e hx
    | cons b before ih =>
      obtain ⟨⟨y, hy⟩, hbefore⟩ := List.forall_mem_cons.mp hbefore
      rw [List.cons_append, hok b _ y hy, ih hbefore]
      rfl

namespace Draft

variable {path : Option String} {d : Draft} {f : Failure}

theorem exists_validate_iff : (∃ accepted, d.validate path = .ok accepted) ↔ d.fault? = none := by
  unfold validate
  rcases d.fault? with _ | fault <;> simp

theorem validate_eq_error_iff : d.validate path = .error f ↔ ∃ fault, d.fault? = some fault ∧
    f = .file fault path := by
  unfold validate
  rcases d.fault? with _ | fault <;> simp [eq_comm]

theorem validateAll_eq_error_iff {drafts : List Draft} : validateAll path drafts = .error f ↔
    ∃ before d after fault, drafts = before ++ d :: after ∧ (∀ b ∈ before, b.fault? = none) ∧
      d.fault? = some fault ∧ f = .file fault path := by
  have hscan : validateAll path drafts = .error f ↔
      ∃ before d after, drafts = before ++ d :: after ∧
        (∀ b ∈ before, ∃ accepted, b.validate path = .ok accepted) ∧ d.validate path = .error f := by
    refine scan_eq_error_iff (g := fun _ accepted => accepted) (validateAll path) rfl ?_ ?_
    · intro d rest f hd
      simp [validateAll, hd]
    · intro d rest accepted hd
      simp [validateAll, hd]
  simp only [hscan, exists_validate_iff, validate_eq_error_iff, exists_and_left]

end Draft

namespace Engine

variable {e : Engine ν} {t : FileTree} {spec : Spec} {m : MatchedFile} {f : Failure}

theorem embedAll_eq_error_iff {segments : List Segment} : e.embedAll segments = .error f ↔
    ∃ before s after, segments = before ++ s :: after ∧
    (∀ b ∈ before, ∃ v, e.vectorOf b.text = .ok v) ∧
      e.vectorOf s.text = .error f := by
  refine scan_eq_error_iff (g := fun s v => (s, v)) e.embedAll rfl ?_ ?_
  · intro s rest f hs
    simp [embedAll, hs]
  · intro s rest v hs
    simp [embedAll, hs]

/-- The ways in which a file fails before anything of it is stored: it cannot be
read, there is no such strategy, the strategy fails, one of the drafts is wrong, or
one of the segments cannot be embedded. -/
inductive Unprepared (e : Engine ν) (t : FileTree) (spec : Spec) (m : MatchedFile) : Failure → Prop
  | unread {f : Failure} (h : t.readText e.encoding m.path = .error f) : Unprepared e t spec m f
  | unknown {content : String} {f : Failure} (hread : t.readText e.encoding m.path = .ok content)
      (h : e.registry.get spec.strategy = .error f) : Unprepared e t spec m f
  | uncut {content : String} {s : Strategy} {f : Failure}
      (hread : t.readText e.encoding m.path = .ok content)
      (hget : e.registry.get spec.strategy = .ok s)
      (h : s.draft t m.path content m.metadata spec.options = .error f) : Unprepared e t spec m f
  | rejected {content : String} {s : Strategy} {before after : List Draft} {d : Draft}
      {fault : FileFault}
      (hread : t.readText e.encoding m.path = .ok content)
      (hget : e.registry.get spec.strategy = .ok s)
      (hdraft : s.draft t m.path content m.metadata spec.options = .ok (before ++ d :: after))
      (hbefore : ∀ b ∈ before, b.fault? = none) (h : d.fault? = some fault) :
      Unprepared e t spec m (.file fault (some m.path))
  | unembedded {before after : List Segment} {s : Segment} {f : Failure}
      (hcut : e.segmentsOf t spec m = .ok (before ++ s :: after))
      (hbefore : ∀ b ∈ before, ∃ v, e.vectorOf b.text = .ok v) (h : e.vectorOf s.text = .error f) :
      Unprepared e t spec m f

theorem unprepared_of_segmentsOf (hcut : e.segmentsOf t spec m = .error f) :
    e.Unprepared t spec m f := by
  unfold segmentsOf Registry.process at hcut
  cases hread : t.readText e.encoding m.path with
  | error g => exact .unread (by simp_all)
  | ok content =>
    simp only [hread] at hcut
    cases hget : e.registry.get spec.strategy with
    | error g => exact .unknown hread (by simp_all [Except.map])
    | ok s =>
      simp only [hget] at hcut
      cases hdraft : s.draft t m.path content m.metadata spec.options with
      | error g => exact .uncut hread hget (by simp_all [Except.map])
      | ok drafts =>
        simp only [hdraft] at hcut
        cases hvalid : Draft.validateAll (some m.path) drafts with
        | ok accepted => simp [hvalid, Except.map] at hcut
        | error g =>
          obtain ⟨before, d, after, fault, rfl, hbefore, hd, rfl⟩ :=
            Draft.validateAll_eq_error_iff.mp hvalid
          simp only [hvalid, Except.map, Except.error.injEq] at hcut
          exact hcut ▸ .rejected hread hget hdraft hbefore hd

theorem prepare_eq_error_iff : e.prepare t spec m = .error f ↔ e.Unprepared t spec m f := by
  constructor
  · intro h
    unfold prepare at h
    cases hcut : e.segmentsOf t spec m with
    | ok segments =>
      simp only [hcut] at h
      obtain ⟨before, s, after, rfl, hbefore, hs⟩ := embedAll_eq_error_iff.mp h
      exact .unembedded hcut hbefore hs
    | error g =>
      simp only [hcut, Except.error.injEq] at h
      exact h ▸ unprepared_of_segmentsOf hcut
  · intro h
    unfold prepare
    cases h with
    | unread h => simp [segmentsOf, h]
    | unknown hread h => simp [segmentsOf, Registry.process, hread, h, Except.map]
    | uncut hread hget h => simp [segmentsOf, Registry.process, hread, hget, h, Except.map]
    | @rejected content s before after d fault hread hget hdraft hbefore h =>
      have hvalid : Draft.validateAll (some m.path) (before ++ d :: after) =
          .error (.file fault (some m.path)) :=
        Draft.validateAll_eq_error_iff.mpr ⟨before, d, after, fault, rfl, hbefore, h, rfl⟩
      simp [segmentsOf, Registry.process, hread, hget, hdraft, hvalid, Except.map]
    | unembedded hcut hbefore h =>
      rw [hcut]
      exact embedAll_eq_error_iff.mpr ⟨_, _, _, rfl, hbefore, h⟩

end Engine

namespace Stats

theorem keepLatest_of_room {limit : Nat} {records : List FailureRecord} (h : records.length < limit)
    (record : FailureRecord) : keepLatest limit (records ++ [record]) = records ++ [record] := by
  have hnone : (records ++ [record]).length - limit = 0 := by
    rw [List.length_append, List.length_singleton]
    omega
  rw [keepLatest, hnone, List.drop_zero]

theorem keepLatest_of_full {limit : Nat} {records : List FailureRecord} (hlimit : 0 < limit)
    (h : records.length = limit) (record : FailureRecord) :
    keepLatest limit (records ++ [record]) = records.tail ++ [record] := by
  have hone : (records ++ [record]).length - limit = 1 := by
    rw [List.length_append, List.length_singleton]
    omega
  rw [keepLatest, hone, List.drop_append_of_le_length (by omega), List.drop_one]

end Stats

namespace Index

variable {e : Engine ν} {t : FileTree} {spec : Spec} {m : MatchedFile} {i j : Index ν} {f : Failure}

/-! ## Failures before anything is stored -/

/-- What the record of a failure changes: one more failure and one more error, and nothing that
comes of files that are ingested. The oldest failure gives way only when the history is full. -/
structure Recorded (record : FailureRecord) (i j : Index ν) : Prop where
  store : j.store = i.store
  documents : j.stats.documents = i.stats.documents
  segments : j.stats.segments = i.stats.segments
  values : j.stats.values = i.stats.values
  clock : j.stats.clock = i.stats.clock
  ingested : j.stats.ingested = i.stats.ingested
  sources : ∀ path, (j.stats.source? path).map (·.ingested) =
    (i.stats.source? path).map (·.ingested)
  errors : j.stats.errors = i.stats.errors + 1
  room : i.stats.failures.length < i.stats.maxFailures →
    j.stats.failures = i.stats.failures ++ [record]
  full : 0 < i.stats.maxFailures → i.stats.failures.length = i.stats.maxFailures →
    j.stats.failures = i.stats.failures.tail ++ [record]

theorem recorded_fail (counting : Bool) (i : Index ν) (m : MatchedFile) (source : String)
    (f : Failure) :
    Recorded ⟨m.path, f.kind.name, f.message, some source⟩ i (i.fail m source counting f).1 := by
  have htotals :=
    Stats.totals_run (.failure ⟨m.path, f.kind.name, f.message, some source⟩ counting) i.stats
  have hfailures := htotals.failures
  constructor
  · rfl
  · rfl
  · rfl
  · exact Stats.values_recordFailure ..
  · rfl
  · rfl
  · intro path
    show ((i.stats.recordFailure _ counting).source? path).map _ = _
    simp only [Stats.recordFailure, Stats.source?_onSource]
    by_cases hpath : source = path <;> simp [hpath, Stats.source?, Function.comp_def]
  · exact htotals.errors
  · intro hroom
    exact hfailures.trans (Stats.keepLatest_of_room hroom _)
  · intro hlimit hfull
    exact hfailures.trans (Stats.keepLatest_of_full hlimit hfull _)

theorem ingestFor_of_unprepared (counting : Bool) (h : e.Unprepared t spec m f) (i : Index ν) :
    i.ingestFor e t counting spec m = i.fail m spec.path counting f := by
  have hpersist : e.persist t spec m i.store = (i.store, .error f) := by
    unfold Engine.persist
    rw [Engine.prepare_eq_error_iff.mpr h]
  unfold ingestFor
  rw [hpersist]

/-- A file that fails before it is stored has a result that says so, and
leaves no more than the record of it. -/
theorem ingestFile_of_unprepared (counting : Bool) (hspec : m.spec = some spec)
    (h : e.Unprepared t spec m f) (i : Index ν) : ∃ j r, i.ingestFile e t counting m = (j, .ok r) ∧
      r = ⟨m.path, some spec.path, 0, some (f.kind, f.message)⟩ ∧ r.status = "failed" ∧
      Recorded ⟨m.path, f.kind.name, f.message, some spec.path⟩ i j := by
  have hfail := ingestFor_of_unprepared counting h i
  refine ⟨(i.fail m spec.path counting f).1, (i.fail m spec.path counting f).2, ?_, ?_, ?_, ?_⟩
  · unfold ingestFile
    rw [hspec]
    simp only [hfail]
  · rfl
  · rfl
  · exact recorded_fail counting i m spec.path f

end Index

namespace Sole

/-- An engine that cannot embed the second window of the file. -/
def faltering : Engine Unit :=
  { env.engine with
    embed := fun text => if text = "bc" then .error (.file (.modelFailed "offline") none)
    else .ok () }

/-- An index that keeps one failure and has one. -/
def strained : Index Unit where
  store := [⟨"/b", (), [("file_id", .str "/b")]⟩]
  stats :=
    { maxFailures := 1, maxSources := 100, failures := [⟨"/b", "read-error", "lost", none⟩],
      documents := 1, segments := 1, errors := 1 }

theorem unprepared_faltering :
    faltering.Unprepared (holding [97, 98, 99]) spec found (.file (.modelFailed "offline") none) :=
  Engine.prepare_eq_error_iff.mp (by decide +kernel)

theorem faltering_recorded : found.spec = some spec ∧
    faltering.Unprepared (holding [97, 98, 99]) spec found (.file (.modelFailed "offline") none) ∧
    ∃ j r, strained.ingestFile faltering (holding [97, 98, 99]) true found = (j, .ok r) ∧
      r = ⟨"/a", some "/a", 0, some (.embedding, "fastembed failed: offline")⟩ ∧
        r.status = "failed" ∧
      Index.Recorded ⟨"/a", "embedding-error", "fastembed failed: offline", some "/a"⟩ strained j :=
  ⟨rfl, unprepared_faltering, Index.ingestFile_of_unprepared true rfl unprepared_faltering strained⟩

end Sole

/-! ## Failures of the store -/

namespace Engine

variable {e : Engine ν} {t : FileTree} {spec : Spec} {m : MatchedFile}

/-- Whether a file is stored in part only: the store takes its
first segments and refuses a later one. -/
def Torn (e : Engine ν) (t : FileTree) (spec : Spec) (m : MatchedFile) : Prop :=
  ∃ before b after, e.prepare t spec m = .ok (before ++ b :: after) ∧ before ≠ [] ∧
    (∀ a ∈ before, e.refuse a.1.id = none) ∧ e.refuse b.1.id ≠ none

theorem refuses_none_or_first (batch : List (Segment × ν)) : (∀ b ∈ batch, e.refuse b.1.id = none) ∨
    ∃ before b after, batch = before ++ b :: after ∧ (∀ a ∈ before, e.refuse a.1.id = none) ∧
      e.refuse b.1.id ≠ none := by
  induction batch with
  | nil => exact .inl (by simp)
  | cons b rest ih =>
    by_cases hb : e.refuse b.1.id = none
    · rcases ih with hall | ⟨before, b', after, rfl, hbefore, hb'⟩
      · exact .inl (List.forall_mem_cons.mpr ⟨hb, hall⟩)
      · exact .inr ⟨b :: before, b', after, rfl, List.forall_mem_cons.mpr ⟨hb, hbefore⟩, hb'⟩
    · exact .inr ⟨[], b, rest, rfl, by simp, hb⟩

theorem storeAll_of_accepted {batch : List (Segment × ν)} (h : ∀ b ∈ batch, e.refuse b.1.id = none)
    (s : PointStore ν) : (e.storeAll batch s).2 = .ok () := by
  induction batch generalizing s with
  | nil => rfl
  | cons b rest ih =>
    rw [List.forall_mem_cons] at h
    simp only [storeAll, h.1]
    exact ih h.2 _

theorem storeAll_of_refused {before : List (Segment × ν)} {b : Segment × ν}
    (hbefore : ∀ a ∈ before, e.refuse a.1.id = none) (hb : e.refuse b.1.id ≠ none)
    (after : List (Segment × ν)) (s : PointStore ν) :
    ∃ f, (e.storeAll (before ++ b :: after) s).2 = .error f := by
  induction before generalizing s with
  | nil =>
    obtain ⟨f, hf⟩ := Option.ne_none_iff_exists'.mp hb
    exact ⟨_, by simp only [List.nil_append, storeAll, hf]; rfl⟩
  | cons a before ih =>
    rw [List.forall_mem_cons] at hbefore
    simp only [List.cons_append, storeAll, hbefore.1]
    exact ih hbefore.2 _

theorem outcome_of_prepare {batch : List (Segment × ν)} (h : e.prepare t spec m = .ok batch) :
    e.outcome t spec m = (e.storeAll batch []).2.map fun _ => batch.map (·.1) := by
  unfold outcome persist
  rw [h]

theorem outcome_of_unprepared {f : Failure} (h : e.prepare t spec m = .error f) :
    e.outcome t spec m = .error f := by
  unfold outcome persist
  rw [h]

/-! Nothing of a file is stored or counted that is not prepared. -/

section Unprepared

variable {f : Failure} (hp : e.prepare t spec m = .error f)

include hp

theorem written_of_unprepared : e.written t spec m = [] := by
  unfold written
  rw [hp]

theorem noted_of_unprepared : e.noted t spec m = [] := by
  unfold noted
  rw [outcome_of_unprepared hp]

theorem not_torn_of_unprepared : ¬ e.Torn t spec m := by
  rintro ⟨before, b, after, heq, -⟩
  simp [hp] at heq

end Unprepared

/-! A file is stored and counted as a whole whose segments the store takes. -/

section Accepted

variable {batch : List (Segment × ν)} (hp : e.prepare t spec m = .ok batch)
  (hall : ∀ b ∈ batch, e.refuse b.1.id = none)

include hp hall

theorem written_of_accepted : e.written t spec m = batch := by
  unfold written
  rw [hp]
  exact takeWhile_of_storeAll (storeAll_of_accepted hall [])

theorem noted_of_accepted : e.noted t spec m = batch.map (·.1.metadata) := by
  unfold noted
  rw [outcome_of_prepare hp, storeAll_of_accepted hall]
  exact List.map_map

theorem not_torn_of_accepted : ¬ e.Torn t spec m := by
  rintro ⟨before, b, after, heq, -, -, hb⟩
  rw [hp, Except.ok.injEq] at heq
  exact hb (hall b (heq ▸ List.mem_append_right before List.mem_cons_self))

end Accepted

/-! Nothing is counted of a file of which the store refuses a segment, and
the segments before that one are stored. -/

section Refused

variable {before after : List (Segment × ν)} {b : Segment × ν} (hp : e.prepare t spec m =
  .ok (before ++ b :: after))
  (hbefore : ∀ a ∈ before, e.refuse a.1.id = none) (hb : e.refuse b.1.id ≠ none)

include hp hbefore hb

theorem written_of_refused : e.written t spec m = before := by
  have hstop : (e.refuse b.1.id).isNone = false := by simpa [Option.isSome_iff_ne_none] using hb
  unfold written
  simp only [hp]
  rw [List.takeWhile_append_of_pos (by simpa using hbefore), List.takeWhile_cons, hstop]
  simp

theorem noted_of_refused : e.noted t spec m = [] := by
  obtain ⟨f, hf⟩ := storeAll_of_refused hbefore hb after []
  unfold noted
  rw [outcome_of_prepare hp, hf]
  rfl

theorem torn_iff_of_refused : e.Torn t spec m ↔ before ≠ [] := by
  constructor
  · rintro ⟨before', b', after', hp', hne, hbefore', hb'⟩
    have hsame := (written_of_refused hp hbefore hb).symm.trans
      (written_of_refused hp' hbefore' hb')
    rwa [hsame]
  · intro hne
    exact ⟨before, b, after, hp, hne, hbefore, hb⟩

end Refused

/-- As many segments are stored as are counted, unless the file is stored in part. -/
theorem length_written_eq_iff : (e.written t spec m).length = (e.noted t spec m).length ↔
    ¬ e.Torn t spec m := by
  cases hp : e.prepare t spec m with
  | error f =>
    have htorn := not_torn_of_unprepared hp
    rw [written_of_unprepared hp, noted_of_unprepared hp]
    simpa using htorn
  | ok batch =>
    rcases refuses_none_or_first (e := e) batch with hall | ⟨before, b, after, rfl, hbefore, hb⟩
    · have htorn := not_torn_of_accepted hp hall
      rw [written_of_accepted hp hall, noted_of_accepted hp hall]
      simpa using htorn
    · rw [written_of_refused hp hbefore hb, noted_of_refused hp hbefore hb,
        torn_iff_of_refused hp hbefore hb]
      simp

end Engine

namespace Index

variable {e : Engine ν} {t : FileTree} {spec : Spec} {m : MatchedFile} {i : Index ν}

/-- Whether none of the segments of a matched file is stored. -/
def Unstored (e : Engine ν) (t : FileTree) (spec : Spec) (m : MatchedFile) (i : Index ν) : Prop :=
  ∀ segments, e.segmentsOf t spec m = .ok segments → ∀ s ∈ segments, ∀ q ∈ i.store, q.id ≠ s.id

theorem length_ingestFor (hb : e.registry.Builtin spec.strategy) (counting : Bool)
    (h : Unstored e t spec m i) :
    (i.ingestFor e t counting spec m).1.store.length =
      i.store.length + (e.written t spec m).length := by
  have hnodup : ((Engine.pointsOf (e.written t spec m)).map (·.id)).Nodup := by
    unfold Engine.written
    cases hp : e.prepare t spec m with
    | error f => exact List.nodup_nil
    | ok batch =>
      have hdistinct := (Engine.named_prepare hb hp).distinct
      rw [List.map_map] at hdistinct
      rw [Engine.pointsOf, List.map_map]
      exact hdistinct.sublist ((List.takeWhile_sublist _).map _)
  have hfresh : ∀ q ∈ i.store, ∀ p ∈ Engine.pointsOf (e.written t spec m), q.id ≠ p.id := by
    intro q hq p hp
    obtain ⟨b, hb, rfl⟩ := List.mem_map.mp hp
    obtain ⟨segments, hsegments, hmem⟩ := Engine.of_mem_written hb
    exact h segments hsegments b.1 hmem q hq
  rw [store_ingestFor, e.fst_persist, PointStore.upsertAll_fresh hnodup hfresh, List.length_append,
    Engine.pointsOf, List.length_map]

/-- The segments that an attempt counts are those whose metadata it remembers. -/
theorem counted_ingestFor (spec : Spec) (m : MatchedFile) (i : Index ν) :
    (i.ingestFor e t true spec m).1.stats.segments =
      i.stats.segments + (e.noted t spec m).length := by
  have hsnd := e.snd_persist t spec m i.store
  unfold ingestFor Engine.noted
  rcases hp : e.persist t spec m i.store with ⟨s, f | segments⟩
  · rw [hp] at hsnd
    simp only [← hsnd]
    rfl
  · rw [hp] at hsnd
    have hsuccess :=
      Stats.totals_run (.success (some spec.path) (segments.map (·.metadata)) true) i.stats
    simp only [← hsnd]
    exact hsuccess.segments.trans (shift_nat ..)

/-- An attempt changes the count of segments as it changes the number of
points, unless the file is stored in part. -/
theorem segments_counted_iff (hspec : m.spec = some spec) (hb : e.registry.Builtin spec.strategy)
    (h : Unstored e t spec m i) : ((i.ingestFile e t true m).1.stats.segments : Int) -
      i.stats.segments =
        ((i.ingestFile e t true m).1.store.length : Int) - i.store.length ↔ ¬ e.Torn t spec m := by
  have hfile : (i.ingestFile e t true m).1 = (i.ingestFor e t true spec m).1 := by
    unfold ingestFile
    rw [hspec]
  rw [hfile, counted_ingestFor, length_ingestFor hb true h, ← Engine.length_written_eq_iff]
  omega

end Index

namespace Sole

/-- An engine whose store refuses the second segment of the file. -/
def choosy : Engine Unit :=
  { env.engine with
    refuse := fun id => if id = "/a#1" then some (.raised .runtime "refused") else none }

theorem unstored_idle : Index.Unstored choosy (holding [97, 98, 99]) spec found idle.index := by
  intro segments _ s _ q hq
  exact absurd hq List.not_mem_nil

theorem choosy_counted_iff : found.spec = some spec ∧ choosy.registry.Builtin spec.strategy ∧
    Index.Unstored choosy (holding [97, 98, 99]) spec found idle.index ∧
    (((idle.index.ingestFile choosy (holding [97, 98, 99]) true found).1.stats.segments : Int) -
          idle.index.stats.segments =
        ((idle.index.ingestFile choosy (holding [97, 98, 99]) true found).1.store.length : Int) -
          idle.index.store.length ↔ ¬ choosy.Torn (holding [97, 98, 99]) spec found) :=
  ⟨rfl, builtin_spec, unstored_idle, Index.segments_counted_iff rfl builtin_spec unstored_idle⟩

/-- The first segment of the file is stored and not counted. -/
theorem choosy_uncounted : found.spec = some spec ∧ choosy.registry.Builtin spec.strategy ∧
    Index.Unstored choosy (holding [97, 98, 99]) spec found idle.index ∧
    (idle.index.ingestFile choosy (holding [97, 98, 99]) true found).1.stats.segments =
      idle.index.stats.segments ∧
    (idle.index.ingestFile choosy (holding [97, 98, 99]) true found).1.store.length =
      idle.index.store.length + 1 := by
  have hids : ((choosy.prepare (holding [97, 98, 99]) spec found).map fun batch =>
    batch.map (·.1.id)) =
      .ok ["/a#0", "/a#1", "/a#2"] := by decide +kernel
  obtain ⟨batch, hp, hbatch⟩ : ∃ batch, choosy.prepare (holding [97, 98, 99]) spec found =
    .ok batch ∧
      batch.map (·.1.id) = ["/a#0", "/a#1", "/a#2"] := by
    cases hp : choosy.prepare (holding [97, 98, 99]) spec found with
    | error f => simp [hp, Except.map] at hids
    | ok batch => exact ⟨batch, rfl, by simpa [hp, Except.map] using hids⟩
  obtain ⟨a, rest, rfl, ha, hrest⟩ := List.map_eq_cons_iff.mp hbatch
  obtain ⟨b, after, rfl, hb, -⟩ := List.map_eq_cons_iff.mp hrest
  have hbefore : ∀ x ∈ [a], choosy.refuse x.1.id = none := by simp [choosy, ha]
  have hrefused : choosy.refuse b.1.id ≠ none := by simp [choosy, hb]
  refine ⟨rfl, builtin_spec, unstored_idle, ?_, ?_⟩
  · show (idle.index.ingestFor choosy (holding [97, 98, 99]) true spec found).1.stats.segments = _
    rw [Index.counted_ingestFor, Engine.noted_of_refused hp hbefore hrefused]
    rfl
  · show (idle.index.ingestFor choosy (holding [97, 98, 99]) true spec found).1.store.length = _
    rw [Index.length_ingestFor (e := choosy) builtin_spec true unstored_idle,
      Engine.written_of_refused hp hbefore hrefused]
    rfl

end Sole

end SegmentIndex
