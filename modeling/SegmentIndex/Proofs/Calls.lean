import SegmentIndex.Proofs.Accounts

/-!
# Calls of the writers of statistics

Statistics are changed by calls of eight kinds. A call is described by what it registers, the
failure it records, the source it is about and by how much it changes each counter; whatever its
kind, it has the effect on statistics that this description gives. Calls of one source leave the
counters of all others alone.
-/
namespace SegmentIndex

theorem shift_zero (n : Nat) : shift n 0 = n := shift_nat n 0

namespace Stats

/-! ## Calls -/

/-- A call of one of the writers of statistics. -/
inductive Call where
  | register (paths : List String)
  | captures (source : String) (seen : List (String × String))
  | success (source : Option String) (metadata : List Entries) (counting : Bool)
  | adjust (source : Option String) (documents segments : Int)
  | failure (record : FailureRecord) (counting : Bool)
  | watching (enabled : Bool) (sources : List String)
  | event (kind : String)
  | debounce (queued processed : Int)

namespace Call

def run (s : Stats) : Call → Stats
  | register paths => (Stats.register paths s).1
  | captures source seen => s.recordCaptures source seen
  | success source metadata counting => s.recordSuccess source metadata counting
  | adjust source documents segments => s.adjust source documents segments
  | failure record counting => s.recordFailure record counting
  | watching enabled sources => s.setWatching enabled sources
  | event kind => s.recordEvent kind
  | debounce queued processed => s.recordDebounce queued processed

def paths : Call → List String
  | register paths => paths
  | _ => []

def record? : Call → Option FailureRecord
  | failure record _ => some record
  | _ => none

/-- The source whose counters a call changes, if it is tracked. -/
def source? : Call → Option String
  | success source _ _ => source
  | adjust source _ _ => source
  | failure record _ => record.source
  | _ => none

def documents : Call → Int
  | success _ _ counting => if counting then 1 else 0
  | adjust _ documents _ => documents
  | _ => 0

def segments : Call → Int
  | success _ metadata counting => if counting then metadata.length else 0
  | adjust _ _ segments => segments
  | _ => 0

/-- The change of the number of files that a source matches: a
file that fails is one, if it is counted. -/
def matched : Call → Int
  | failure _ counting => if counting then 1 else 0
  | call => call.documents

def on (path : String) (change : Call → Int) (call : Call) : Int :=
  if call.source? = some path then change call else 0

def fails (path : String) (call : Call) : Bool :=
  call.record?.any fun record => record.source = some path

theorem documents_le_matched (call : Call) : call.documents ≤ call.matched := by
  cases call with
  | failure record counting => cases counting <;> simp [documents, matched]
  | _ => exact Int.le_refl _

theorem on_mono {f g : Call → Int} (h : ∀ call, f call ≤ g call) (path : String) (call : Call) :
    on path f call ≤ on path g call := by
  unfold on
  split_ifs
  · exact h call
  · exact Int.le_refl 0

end Call

/-! ## What one call does -/

def tracked (s : Stats) : List String := s.sources.map (·.1)

def sourceErrors (s : Stats) : Nat := (s.sources.map (·.2.errors)).sum

/-- Paths to which one more is added, if it is new and there is room. -/
def enrol (limit : Nat) (known : List String) (path : String) : List String :=
  if path ∈ known ∨ limit ≤ known.length then known else known ++ [path]

/-- What a call does to the totals and the failures. -/
structure Totals (call : Call) (s s' : Stats) : Prop where
  maxFailures : s'.maxFailures = s.maxFailures
  maxSources : s'.maxSources = s.maxSources
  documents : s'.documents = shift s.documents call.documents
  segments : s'.segments = shift s.segments call.segments
  failures : s'.failures =
    call.record?.elim s.failures fun record => keepLatest s.maxFailures (s.failures ++ [record])
  errors : s'.errors = s.errors + call.record?.toList.length

/-- What a call does to the counters of one source. -/
structure ChangedBy (call : Call) (path : String) (c c' : SourceStats) : Prop where
  matched : c'.matched = shift c.matched (call.on path Call.matched)
  processed : c'.processed = shift c.processed (call.on path Call.documents)
  segments : c'.segments = shift c.segments (call.on path Call.segments)
  errors : c'.errors = c.errors + (call.fails path).toNat

/-- What a call does to the tracked sources. -/
structure Sources (call : Call) (s s' : Stats) : Prop where
  tracked : s'.tracked = call.paths.foldl (enrol s.maxSources) s.tracked
  kept : ∀ path c, s.source? path = some c → ∃ c', s'.source? path = some c' ∧
    ChangedBy call path c c'
  fresh : ∀ path c, s.source? path = none → s'.source? path = some c → c = {}
  errors : s.tracked.Nodup → s'.sourceErrors ≤ s.sourceErrors + call.record?.toList.length

variable {s s' : Stats} {call : Call}

theorem source?_eq_none {path : String} : s.source? path = none ↔ path ∉ s.tracked := by
  simp only [source?, Table.get?, tracked, List.lookup_eq_none_iff, List.mem_map,
    not_exists, not_and]
  constructor
  · rintro h e he rfl
    simpa using h e he
  · rintro h e he
    simpa using Ne.symm (h e he)

theorem isSome_source? {path : String} : (s.source? path).isSome ↔ path ∈ s.tracked := by
  rw [← not_iff_not, ← source?_eq_none]
  simp

/-! ## Calls that register -/

theorem tracked_track (path : String) (s : Stats) :
    (s.track path).1.tracked = enrol s.maxSources s.tracked path := by
  have hlength : s.tracked.length = s.sources.length := List.length_map ..
  unfold track
  split_ifs with hknown hfull
  · simp [enrol, isSome_source?.mp hknown]
  · simp [enrol, hlength, hfull]
  · have hnew : path ∉ s.tracked := mt isSome_source?.mpr hknown
    rw [enrol, if_neg (not_or.mpr ⟨hnew, by rwa [hlength]⟩)]
    simp [tracked]

theorem sourceErrors_track (path : String) (s : Stats) :
    (s.track path).1.sourceErrors = s.sourceErrors := by
  unfold track
  split_ifs
  · rfl
  · rfl
  · simp [sourceErrors]

theorem register_cons (path : String) (rest : List String) (s : Stats) :
    (register (path :: rest) s).1 = (register rest (s.track path).1).1 := rfl

theorem tracked_register (paths : List String) (s : Stats) :
    (register paths s).1.tracked = paths.foldl (enrol s.maxSources) s.tracked := by
  induction paths generalizing s with
  | nil => rfl
  | cons path rest ih =>
    rw [register_cons, ih, tracked_track, (registered_track path s).maxSources, List.foldl_cons]

theorem sourceErrors_register (paths : List String) (s : Stats) :
    (register paths s).1.sourceErrors = s.sourceErrors := by
  induction paths generalizing s with
  | nil => rfl
  | cons path rest ih => rw [register_cons, ih, sourceErrors_track]

theorem failures_register (paths : List String) (s : Stats) :
    (register paths s).1.failures = s.failures ∧
      (register paths s).1.maxFailures = s.maxFailures := by
  induction paths generalizing s with
  | nil => exact ⟨rfl, rfl⟩
  | cons path rest ih =>
    have htrack : (s.track path).1.failures = s.failures ∧
        (s.track path).1.maxFailures = s.maxFailures := by
      unfold track
      split_ifs <;> exact ⟨rfl, rfl⟩
    rw [register_cons, (ih _).1, (ih _).2]
    exact htrack

/-! ## Calls about one source -/

theorem tracked_onSource (source : Option String) (f : SourceStats → SourceStats) (s : Stats) :
    (s.onSource source f).tracked = s.tracked := by
  cases source with
  | none => rfl
  | some path =>
    simp only [onSource, tracked, Table.adjust, List.map_map]
    refine List.map_congr_left fun e _ => ?_
    by_cases h : e.1 = path <;> simp [h]

theorem source?_onSource (source : Option String) (f : SourceStats → SourceStats) (path : String)
    (s : Stats) :
    (s.onSource source f).source? path =
      if source = some path then (s.source? path).map f else s.source? path := by
  cases source with
  | none => rfl
  | some other =>
    simp only [onSource, source?, Table.get?_adjust, Option.some.injEq]
    by_cases h : path = other
    · simp [h]
    · simp [h, Ne.symm h]

theorem sum_errors_adjust_le {path : String} {f : SourceStats → SourceStats} {n : Nat}
    (hf : ∀ c, (f c).errors ≤ c.errors + n) {t : Table SourceStats} (hnodup : (t.map (·.1)).Nodup) :
    ((Table.adjust path f t).map (·.2.errors)).sum ≤ (t.map (·.2.errors)).sum + n := by
  induction t with
  | nil => exact Nat.zero_le _
  | cons e rest ih =>
    obtain ⟨key, c⟩ := e
    obtain ⟨hnew, hrest⟩ := List.nodup_cons.mp hnodup
    have hcons : Table.adjust path f ((key, c) :: rest) =
        (key, if key = path then f c else c) :: Table.adjust path f rest := by
      by_cases hkey : key = path <;> simp [Table.adjust, hkey]
    rw [hcons, List.map_cons, List.sum_cons, List.map_cons, List.sum_cons]
    by_cases hkey : key = path
    · have hsame : Table.adjust path f rest = rest := by
        nth_rewrite 2 [← List.map_id rest]
        refine List.map_congr_left fun e he => ?_
        have hne : e.1 ≠ path := by
          rintro rfl
          exact hnew (List.mem_map.mpr ⟨e, he, hkey.symm⟩)
        simp [hne]
      have hc := hf c
      simp only [hkey, if_true, hsame]
      omega
    · have hsum := ih hrest
      simp only [hkey, if_false]
      omega

theorem Call.source?_of_fails {path : String} (h : call.fails path = true) :
    call.source? = some path := by
  cases call with
  | failure record counting => simpa [Call.fails, Call.record?, Call.source?] using h
  | _ => simp [Call.fails, Call.record?] at h

theorem ChangedBy.of_ne {path : String} (h : call.source? ≠ some path) (c : SourceStats) :
    ChangedBy call path c c := by
  have hfails : call.fails path = false := by simpa using mt Call.source?_of_fails h
  constructor <;> simp [Call.on, h, hfails, shift_zero]

theorem sources_of_onSource {f : SourceStats → SourceStats} (hpaths : call.paths = [])
    (hsources : s'.sources = (s.onSource call.source? f).sources)
    (hchanged : ∀ path c, call.source? = some path → ChangedBy call path c (f c))
    (herrors : ∀ c, (f c).errors ≤ c.errors + call.record?.toList.length) : Sources call s s' := by
  have hsource : ∀ path, s'.source? path = (s.onSource call.source? f).source? path :=
    fun path => by
    rw [source?, hsources, source?]
  refine ⟨?_, fun path c hc => ?_, fun path c hnone hc => ?_, fun hnodup => ?_⟩
  · rw [hpaths, List.foldl_nil, ← tracked_onSource call.source? f s, tracked, hsources, tracked]
  · rw [hsource, source?_onSource, hc]
    by_cases hpath : call.source? = some path
    · exact ⟨f c, by simp [hpath], hchanged path c hpath⟩
    · exact ⟨c, by simp [hpath], .of_ne hpath c⟩
  · rw [hsource, source?_onSource, hnone] at hc
    simp at hc
  · rw [sourceErrors, hsources]
    cases call.source? with
    | none => exact Nat.le_add_right ..
    | some path => exact sum_errors_adjust_le herrors hnodup

/-! ## Every call -/

@[simp] theorem documents_onSource (source : Option String) (f : SourceStats → SourceStats) :
    (s.onSource source f).documents = s.documents := by cases source <;> rfl

@[simp] theorem segments_onSource (source : Option String) (f : SourceStats → SourceStats) :
    (s.onSource source f).segments = s.segments := by cases source <;> rfl

@[simp] theorem errors_onSource (source : Option String) (f : SourceStats → SourceStats) :
    (s.onSource source f).errors = s.errors := by cases source <;> rfl

@[simp] theorem failures_onSource (source : Option String) (f : SourceStats → SourceStats) :
    (s.onSource source f).failures = s.failures := by cases source <;> rfl

@[simp] theorem maxFailures_onSource (source : Option String) (f : SourceStats → SourceStats) :
    (s.onSource source f).maxFailures = s.maxFailures := by cases source <;> rfl

@[simp] theorem maxSources_onSource (source : Option String) (f : SourceStats → SourceStats) :
    (s.onSource source f).maxSources = s.maxSources := by cases source <;> rfl

theorem totals_run (call : Call) (s : Stats) : Totals call s (call.run s) := by
  cases call with
  | register paths =>
    have h := registered_register paths s
    obtain ⟨hfailures, hmax⟩ := failures_register paths s
    exact ⟨hmax, h.maxSources, h.documents.trans (shift_zero _).symm,
      h.segments.trans (shift_zero _).symm,
      hfailures, h.errors⟩
  | success source metadata counting =>
    cases counting <;> constructor <;>
      simp [Call.run, Call.documents, Call.segments, Call.record?, recordSuccess, Stats.adjust,
      recordValues, shift_zero]
  | adjust source documents segments =>
    constructor <;> simp [Call.run, Call.documents, Call.segments, Call.record?, Stats.adjust]
  | failure record counting =>
    constructor <;> simp [Call.run, Call.documents, Call.segments, Call.record?, recordFailure,
      shift_zero]
  | _ => exact ⟨rfl, rfl, (shift_zero _).symm, (shift_zero _).symm, rfl, rfl⟩

theorem sources_run (call : Call) (s : Stats) : Sources call s (call.run s) := by
  cases call with
  | register paths =>
    have h := registered_register paths s
    refine ⟨tracked_register paths s, fun path c hc => ?_, fun path c hnone hc => ?_, fun _ => ?_⟩
    · exact ⟨c, h.kept path c hc, .of_ne (by simp [Call.source?]) c⟩
    · simpa [hnone] using h.fresh path c hc
    · exact (sourceErrors_register paths s).le
  | success source metadata counting =>
    refine sources_of_onSource (f := fun c => { c with
      ingested := some s.clock
      matched := shift c.matched (if counting then 1 else 0)
      processed := shift c.processed (if counting then 1 else 0)
      segments := shift c.segments (if counting then metadata.length else 0) }) rfl ?_
        (fun path c hpath => ?_)
      fun _ => Nat.le_add_right ..
    · cases source <;> cases counting <;>
        simp [Call.run, Call.source?, recordSuccess, recordValues, Stats.adjust, onSource,
        Table.adjust_adjust, shift_zero]
    · constructor <;> simp [Call.on, hpath, Call.matched, Call.documents, Call.segments, Call.fails,
        Call.record?]
  | adjust source documents segments =>
    refine sources_of_onSource (f := fun c => { c with
      matched := shift c.matched documents
      processed := shift c.processed documents
      segments := shift c.segments segments }) rfl ?_ (fun path c hpath => ?_) fun _ =>
        Nat.le_add_right ..
    · cases source <;> simp [Call.run, Call.source?, Stats.adjust, onSource]
    · constructor <;> simp [Call.on, hpath, Call.matched, Call.documents, Call.segments, Call.fails,
        Call.record?]
  | failure record counting =>
    refine sources_of_onSource (f := fun c => { c with
      matched := if counting then c.matched + 1 else c.matched
      errors := c.errors + 1 }) rfl ?_ (fun path c hpath => ?_) fun _ => Nat.le_refl _
    · cases h : record.source <;> simp [Call.run, Call.source?, recordFailure, onSource, h]
    · have hfails : (Call.failure record counting).fails path = true := by
        simpa [Call.fails, Call.record?, Call.source?] using hpath
      cases counting <;> constructor <;>
        simp [Call.on, hpath, hfails, Call.matched, Call.documents, Call.segments, shift_zero,
        shift_one]
  | _ => exact sources_of_onSource (f := id) rfl rfl (by simp [Call.source?]) fun _ => Nat.le_refl _

end Stats

end SegmentIndex
