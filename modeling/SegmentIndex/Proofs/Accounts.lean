import SegmentIndex.Proofs.Convergence
import SegmentIndex.Proofs.Listing
import SegmentIndex.Proofs.Outcomes

/-!
# What an ingest counts

An ingest is counted in three places: in its report, in the totals of the index, and for each source
that is tracked. All three agree about every result, whether sources repeat, share files, or are too
many to be tracked. An ingest of sound specs has a report exactly if the files of all specs can be
looked for.
-/
namespace SegmentIndex

variable {ν : Type}

/-! ## Results -/

namespace FileResult

/-- The segments of the results that are no failures. -/
def segmentsIn : List FileResult → Nat
  | [] => 0
  | r :: rest => (if r.ok then r.segments else 0) + segmentsIn rest

def ofSource (path : String) (results : List FileResult) : List FileResult :=
  results.filter fun r => r.source = some path

@[simp] theorem segmentsIn_append (xs ys : List FileResult) :
    segmentsIn (xs ++ ys) = segmentsIn xs + segmentsIn ys := by
  induction xs with
  | nil => simp [segmentsIn]
  | cons x xs ih => simp [segmentsIn, ih, Nat.add_assoc]

@[simp] theorem ofSource_append (path : String) (xs ys : List FileResult) :
    ofSource path (xs ++ ys) = ofSource path xs ++ ofSource path ys := List.filter_append ..

end FileResult

open FileResult (segmentsIn ofSource segmentsIn_append ofSource_append)

/-- Whether the counters of a report are those of its results. -/
structure Report.Sound (r : Report) : Prop where
  ingested : r.ingested = r.results.countP (·.ok)
  failed : r.failed = r.results.countP (!·.ok)
  segments : r.segments = segmentsIn r.results

theorem Report.Sound.add {r : Report} (h : r.Sound) (x : FileResult) : (r.add x).Sound := by
  obtain ⟨hingested, hfailed, hsegments⟩ := h
  unfold Report.add
  cases hx : x.ok with
  | true => constructor <;> simp [hx, hingested, hfailed, hsegments, segmentsIn]
  | false => constructor <;> simp [hx, hingested, hfailed, hsegments, segmentsIn]

theorem Report.sound_ofResults (results : List FileResult) : (ofResults results).Sound := by
  induction results using List.reverseRecOn with
  | nil => exact ⟨rfl, rfl, rfl⟩
  | append_singleton xs x ih =>
    rw [ofResults_concat]
    exact ih.add x

/-! ## Counters -/

theorem shift_nat (n k : Nat) : shift n k = n + k := by
  unfold shift
  omega

theorem shift_one (n : Nat) : shift n 1 = n + 1 := shift_nat n 1

theorem Table.adjust_adjust {α : Type} (key : String) (f g : α → α) (t : Table α) :
    adjust key g (adjust key f t) = adjust key (fun a => g (f a)) t := by
  simp only [adjust, List.map_map]
  refine List.map_congr_left fun e _ => ?_
  by_cases h : e.1 = key <;> simp [h]

/-- Whether the counters of a source have grown by some results. -/
structure SourceStats.GrownBy (c c' : SourceStats) (results : List FileResult) : Prop where
  matched : c'.matched = c.matched + results.length
  processed : c'.processed = c.processed + results.countP (·.ok)
  segments : c'.segments = c.segments + segmentsIn results
  errors : c'.errors = c.errors + results.countP (!·.ok)

theorem SourceStats.GrownBy.refl (c : SourceStats) : c.GrownBy c [] := ⟨rfl, rfl, rfl, rfl⟩

theorem SourceStats.GrownBy.trans {c c' c'' : SourceStats} {xs ys : List FileResult}
    (h : c.GrownBy c' xs) (h' : c'.GrownBy c'' ys) : c.GrownBy c'' (xs ++ ys) where
  matched := by rw [h'.matched, h.matched, List.length_append, Nat.add_assoc]
  processed := by rw [h'.processed, h.processed, List.countP_append, Nat.add_assoc]
  segments := by rw [h'.segments, h.segments, segmentsIn_append, Nat.add_assoc]
  errors := by rw [h'.errors, h.errors, List.countP_append, Nat.add_assoc]

namespace Stats

variable {s s' s'' : Stats}

/-- Whether statistics have grown by some results while the tracked sources stayed the same. -/
structure GrownBy (s s' : Stats) (results : List FileResult) : Prop where
  documents : s'.documents = s.documents + results.countP (·.ok)
  segments : s'.segments = s.segments + segmentsIn results
  errors : s'.errors = s.errors + results.countP (!·.ok)
  maxSources : s'.maxSources = s.maxSources
  tracked : s'.sources.length = s.sources.length
  sources : ∀ path, (s.source? path = none ∧ s'.source? path = none) ∨
    ∃ c c', s.source? path = some c ∧ s'.source? path = some c' ∧
    c.GrownBy c' (ofSource path results)

theorem GrownBy.refl (s : Stats) : s.GrownBy s [] := by
  refine ⟨rfl, rfl, rfl, rfl, rfl, fun path => ?_⟩
  cases hc : s.source? path with
  | none => exact .inl ⟨rfl, rfl⟩
  | some c => exact .inr ⟨c, c, rfl, rfl, .refl c⟩

theorem GrownBy.trans {xs ys : List FileResult} (h : s.GrownBy s' xs) (h' : s'.GrownBy s'' ys) :
    s.GrownBy s'' (xs ++ ys) where
  documents := by rw [h'.documents, h.documents, List.countP_append, Nat.add_assoc]
  segments := by rw [h'.segments, h.segments, segmentsIn_append, Nat.add_assoc]
  errors := by rw [h'.errors, h.errors, List.countP_append, Nat.add_assoc]
  maxSources := h'.maxSources.trans h.maxSources
  tracked := h'.tracked.trans h.tracked
  sources := by
    intro path
    rcases h.sources path with ⟨hs, hs'⟩ | ⟨c, c', hs, hs', hc⟩ <;>
      rcases h'.sources path with ⟨ht, ht'⟩ | ⟨d, d', ht, ht', hd⟩
    · exact .inl ⟨hs, ht'⟩
    · simp [hs'] at ht
    · simp [hs'] at ht
    · obtain rfl : c' = d := Option.some.inj (hs'.symm.trans ht)
      exact .inr ⟨c, d', hs, ht', ofSource_append path xs ys ▸ hc.trans hd⟩

/-- Statistics in which one result has changed the totals and the counters of its source. -/
theorem GrownBy.of_result {r : FileResult} (path : String) (f : SourceStats → SourceStats)
    (hr : r.source = some path) (hf : ∀ c : SourceStats, c.GrownBy (f c) [r])
    (hd : s'.documents = s.documents + [r].countP (·.ok))
    (hs : s'.segments = s.segments + segmentsIn [r])
    (he : s'.errors = s.errors + [r].countP (!·.ok)) (hm : s'.maxSources = s.maxSources)
    (hsources : s'.sources = Table.adjust path f s.sources) : s.GrownBy s' [r] := by
  refine ⟨hd, hs, he, hm, by simp [hsources, Table.adjust], fun other => ?_⟩
  have hother : s'.source? other = if other = path then (s.source? path).map f
      else s.source? other := by
    rw [source?, hsources, Table.get?_adjust]
    rfl
  rw [hother]
  by_cases hp : other = path
  · subst hp
    cases hc : s.source? other with
    | none => exact .inl ⟨rfl, by simp⟩
    | some c => exact .inr ⟨c, f c, rfl, by simp, by simpa [ofSource, hr] using hf c⟩
  · have hnone : ofSource other [r] = [] := by simp [ofSource, hr, Ne.symm hp]
    rw [if_neg hp, hnone]
    exact (GrownBy.refl s).sources other

theorem grownBy_recordFailure (s : Stats) {record : FailureRecord} {r : FileResult} {path : String}
    (hrecord : record.source = some path) (hr : r.source = some path) (hok : r.ok = false) :
    s.GrownBy (s.recordFailure record true) [r] := by
  refine .of_result path (fun c => { c with matched := c.matched + 1, errors := c.errors + 1 }) hr
    (fun c => ?_)
    ?_ ?_ ?_ ?_ ?_
  · constructor <;> simp [hok, segmentsIn]
  all_goals simp [recordFailure, onSource, hrecord, hok, segmentsIn]

theorem grownBy_recordSuccess (s : Stats) {metadata : List Entries} {r : FileResult} {path : String}
    (hr : r.source = some path) (hok : r.ok = true) (hsegments : r.segments = metadata.length) :
    s.GrownBy (s.recordSuccess (some path) metadata true) [r] := by
  refine .of_result path
    (fun c => { c with
      ingested := some s.clock
      matched := c.matched + 1
      processed := c.processed + 1
      segments := c.segments + metadata.length }) hr (fun c => ?_) ?_ ?_ ?_ rfl ?_
  · constructor <;> simp [hok, hsegments, segmentsIn]
  · simp [recordSuccess, adjust, onSource, recordValues, shift_one, hok]
  · simp [recordSuccess, adjust, onSource, recordValues, shift_nat, hok, hsegments, segmentsIn]
  · simp [recordSuccess, adjust, onSource, recordValues, hok]
  · simp [recordSuccess, adjust, onSource, recordValues, Table.adjust_adjust, shift_nat, shift_one]

/-! ## Sources that are tracked -/

/-- Whether statistics differ in that more sources are tracked: those
of some paths, as far as there is room. -/
structure Registered (s s' : Stats) (paths : List String) : Prop where
  documents : s'.documents = s.documents
  segments : s'.segments = s.segments
  errors : s'.errors = s.errors
  maxSources : s'.maxSources = s.maxSources
  length : s.sources.length ≤ s'.sources.length
  kept : ∀ path c, s.source? path = some c → s'.source? path = some c
  fresh : ∀ path c, s'.source? path = some c → c = (s.source? path).getD {}
  room : ∀ path ∈ paths, s'.source? path = none → s'.maxSources ≤ s'.sources.length

theorem Registered.refl (s : Stats) : s.Registered s [] :=
  ⟨rfl, rfl, rfl, rfl, Nat.le_refl _, fun _ _ h => h, fun _ _ h => by simp [h], by simp⟩

theorem Registered.trans {xs ys : List String} (h : s.Registered s' xs)
    (h' : s'.Registered s'' ys) :
    s.Registered s'' (xs ++ ys) where
  documents := h'.documents.trans h.documents
  segments := h'.segments.trans h.segments
  errors := h'.errors.trans h.errors
  maxSources := h'.maxSources.trans h.maxSources
  length := h.length.trans h'.length
  kept := fun path c hc => h'.kept path c (h.kept path c hc)
  fresh := by
    intro path c hc
    have hfresh := h'.fresh path c hc
    cases hs' : s'.source? path with
    | some c' => rw [hfresh, hs', Option.getD_some, h.fresh path c' hs']
    | none =>
      cases hs : s.source? path with
      | some d => simp [h.kept path d hs] at hs'
      | none => simpa [hs'] using hfresh
  room := by
    intro path hmem hnone
    rw [List.mem_append] at hmem
    rcases hmem with hmem | hmem
    · have hs' : s'.source? path = none := by
        cases hs' : s'.source? path with
        | none => rfl
        | some c => simp [h'.kept path c hs'] at hnone
      rw [h'.maxSources]
      exact (h.room path hmem hs').trans h'.length
    · exact h'.room path hmem hnone

theorem registered_track (path : String) (s : Stats) : s.Registered (s.track path).1 [path] := by
  unfold track
  split_ifs with hknown hfull
  · refine ⟨rfl, rfl, rfl, rfl, Nat.le_refl _, fun _ _ h => h, fun _ _ h => by simp [h], ?_⟩
    intro other hmem hnone
    obtain rfl := List.mem_singleton.mp hmem
    simp [hnone] at hknown
  · exact ⟨rfl, rfl, rfl, rfl, Nat.le_refl _, fun _ _ h => h, fun _ _ h => by
      simp [h], fun _ _ _ => hfull⟩
  · have hadded : ∀ other, Table.get? other (s.sources ++ [(path, ({} : SourceStats))]) =
        (s.source? other).or (if other = path then some {} else none) := by
      intro other
      rw [Table.get?, List.lookup_append, ← Table.get?, ← Table.get?, Table.get?_cons]
      rfl
    refine ⟨rfl, rfl, rfl, rfl, by simp, fun other c hc => ?_, fun other c hc => ?_,
      fun other hmem hnone => ?_⟩
    · rw [source?, hadded, hc]
      rfl
    · rw [source?, hadded] at hc
      cases hs : s.source? other with
      | some d => simpa [hs] using hc.symm
      | none =>
        rw [hs, Option.none_or] at hc
        split_ifs at hc
        simpa using hc.symm
    · obtain rfl := List.mem_singleton.mp hmem
      rw [source?, hadded] at hnone
      simp at hnone

theorem registered_register (paths : List String) (s : Stats) :
    s.Registered (register paths s).1 paths := by
  induction paths generalizing s with
  | nil => exact .refl s
  | cons path rest ih =>
    rw [register]
    exact (registered_track path s).trans (ih _)

end Stats

/-! ## Files -/

namespace Index

variable {e : Engine ν} {t : FileTree} {i : Index ν} {specs : List Spec}

theorem grownBy_seeCaptures (spec : Spec) (m : MatchedFile) :
    i.stats.GrownBy (i.seeCaptures spec m).stats [] := by
  unfold seeCaptures
  split_ifs
  · exact .refl _
  · exact ⟨rfl, rfl, rfl, rfl, rfl, (Stats.GrownBy.refl i.stats).sources⟩

theorem grownBy_ingestFor (spec : Spec) (m : MatchedFile) :
    i.stats.GrownBy (i.ingestFor e t true spec m).1.stats [(i.ingestFor e t true spec m).2] := by
  unfold ingestFor
  rcases e.persist t spec m i.store with ⟨store, f | segments⟩
  · simp only [fail, warn]
    exact i.stats.grownBy_recordFailure rfl rfl rfl
  · exact i.stats.grownBy_recordSuccess rfl rfl (List.length_map _).symm

theorem registered_registerSources (i : Index ν) (specs : List Spec) :
    i.stats.Registered (i.registerSources specs).stats (specs.map (·.path)) := by
  have h := Stats.registered_register (specs.map (·.path)) i.stats
  unfold registerSources
  dsimp only
  split_ifs <;> exact h

theorem grownBy_ingest {report : Report} (h : (i.ingest e t specs).2 = .ok report) :
    (i.registerSources specs).stats.GrownBy (i.ingest e t specs).1.stats report.results := by
  refine ingest_keeps (P := fun j done => (i.registerSources specs).stats.GrownBy j.stats done)
    (fun j done spec m hj => ?_) (fun spec _ _ _ m _ j done hj =>
    hj.trans (grownBy_ingestFor spec m)) (.refl _) h
  simpa using hj.trans (grownBy_seeCaptures spec m)

end Index

/-- What the counters of a report and of statistics before and after
an ingest have to do with each other. -/
structure Accounted (before after : Stats) (specs : List Spec) (report : Report) : Prop where
  counted : report.ingested + report.failed = report.results.length
  stored : report.segments = segmentsIn report.results
  documents : after.documents = before.documents + report.ingested
  segments : after.segments = before.segments + report.segments
  errors : after.errors = before.errors + report.failed
  sources : ∀ path c, after.source? path = some c →
    ((before.source? path).getD {}).GrownBy c (ofSource path report.results)
  tracked : ∀ path, before.source? path ≠ none → after.source? path ≠ none
  room : ∀ spec ∈ specs, after.source? spec.path = none → after.maxSources ≤ after.sources.length

namespace Index

variable {e : Engine ν} {t : FileTree} {specs : List Spec}

theorem accounted_of_report (i : Index ν) {report : Report}
    (h : (i.ingest e t specs).2 = .ok report)
    (hsound : report.Sound) : Accounted i.stats (i.ingest e t specs).1.stats specs report := by
  have hreg := registered_registerSources i specs
  have hgrown := grownBy_ingest h
  constructor
  · rw [hsound.ingested, hsound.failed]
    simpa using (List.length_eq_countP_add_countP (·.ok) (l := report.results)).symm
  · exact hsound.segments
  · rw [hgrown.documents, hreg.documents, hsound.ingested]
  · rw [hgrown.segments, hreg.segments, hsound.segments]
  · rw [hgrown.errors, hreg.errors, hsound.failed]
  · intro path c hc
    rcases hgrown.sources path with ⟨-, hnone⟩ | ⟨d, d', hd, hd', hsource⟩
    · simp [hnone] at hc
    · obtain rfl : d' = c := Option.some.inj (hd'.symm.trans hc)
      exact hreg.fresh path d hd ▸ hsource
  · intro path hbefore
    obtain ⟨c, hc⟩ := Option.ne_none_iff_exists'.mp hbefore
    rcases hgrown.sources path with ⟨hnone, -⟩ | ⟨d, d', -, hd', -⟩
    · simp [hreg.kept path c hc] at hnone
    · simp [hd']
  · intro spec hspec hnone
    rcases hgrown.sources spec.path with ⟨hnone', -⟩ | ⟨d, d', -, hd', -⟩
    · rw [hgrown.maxSources, hgrown.tracked]
      exact hreg.room spec.path (List.mem_map_of_mem hspec) hnone'
    · simp [hd'] at hnone

theorem report_ok_iff (h : t.Plain) (hcheck : checkSpecs e.registry specs = .ok ())
    (hc : ∀ spec ∈ specs, PathSpec.Compiles spec.segments) {i : Index ν} :
    (∃ report, (i.ingest e t specs).2 = .ok report) ↔ ∀ spec ∈ specs, spec.Searchable t := by
  have hsearch : (∀ spec ∈ specs, spec.Searchable t) ↔ ∀ spec ∈ specs, ∃ found,
      spec.matchFiles t = .ok found :=
    forall₂_congr fun spec hspec => (Spec.matchFiles_ok_iff h (hc spec hspec)).symm
  rw [report_ingest specs hcheck, hsearch]
  constructor
  · rintro ⟨report, hr⟩
    cases hresults : e.resultsFor t specs with
    | error f => simp [hresults, Except.map] at hr
    | ok results => exact ((e.resultsFor_eq_ok_iff t).mp hresults).1
  · intro hall
    rw [(e.resultsFor_eq_ok_iff t).mpr ⟨hall, rfl⟩]
    exact ⟨_, rfl⟩

/-- A report is one about the matches of all specs, and its counters are those of its results. -/
theorem report_spec (hcheck : checkSpecs e.registry specs = .ok ()) {i : Index ν} {report : Report}
    (h : (i.ingest e t specs).2 = .ok report) :
    (report.results = specs.flatMap fun spec => (spec.found t).map (e.resultFor t spec)) ∧
    report.Sound := by
  rw [report_ingest specs hcheck] at h
  cases hresults : e.resultsFor t specs with
  | error f => simp [hresults, Except.map] at h
  | ok results =>
    simp only [hresults, Except.map, Except.ok.injEq] at h
    rw [← h, Report.results_ofResults]
    exact ⟨((e.resultsFor_eq_ok_iff t).mp hresults).2, Report.sound_ofResults results⟩

/-- An ingest of sound specs has a report exactly if the files of all specs can be looked for; then
it has one result for each match, and all that is counted agrees with the results. -/
theorem accounted_ingest (h : t.Plain) (hcheck : checkSpecs e.registry specs = .ok ())
    (hc : ∀ spec ∈ specs, PathSpec.Compiles spec.segments) (i : Index ν) :
    ((∃ report, (i.ingest e t specs).2 = .ok report) ↔ ∀ spec ∈ specs, spec.Searchable t) ∧
      ∀ report, (i.ingest e t specs).2 = .ok report →
        (report.results = specs.flatMap fun spec => (spec.found t).map (e.resultFor t spec)) ∧
        Accounted i.stats (i.ingest e t specs).1.stats specs report := by
  refine ⟨report_ok_iff h hcheck hc, fun report hreport => ?_⟩
  obtain ⟨hresults, hsound⟩ := report_spec hcheck hreport
  exact ⟨hresults, accounted_of_report i hreport hsound⟩

end Index

namespace Sole

theorem plain_bare : bare.Plain := ⟨by simp [bare], by simp [bare]⟩

theorem plain_holding (bytes : List UInt8) : (holding bytes).Plain := by
  constructor
  · simp only [holding, List.mem_singleton, forall_eq]
    decide
  · simp [holding]

theorem compiles_spec : PathSpec.Compiles spec.segments :=
  ⟨⟨.seq (.text ['/', 'a']) .empty, []⟩, by cbv⟩

/-- A source that is given twice is counted twice everywhere. -/
theorem repeated_accounted : ∃ report,
    ((Index.empty idle.index.stats).ingest env.engine (holding [97, 98, 99]) [spec, spec]).2 =
      .ok report ∧
      report.results.length = 2 ∧ Accounted idle.index.stats
        ((Index.empty idle.index.stats).ingest env.engine (holding [97, 98, 99]) [spec,
          spec]).1.stats
        [spec, spec] report := by
  have hcheck : Index.checkSpecs env.engine.registry [spec, spec] = .ok () := by cbv
  have hc : ∀ s ∈ [spec, spec], PathSpec.Compiles s.segments := by simp [compiles_spec]
  obtain ⟨hiff, hall⟩ := Index.accounted_ingest (plain_holding [97, 98, 99]) hcheck hc
    (.empty idle.index.stats)
  obtain ⟨report, hreport⟩ := hiff.mpr fun s hs => by
    obtain rfl : s = spec := by simpa using hs
    exact (Spec.matchFiles_ok_iff (plain_holding _) compiles_spec).mp ⟨_, matchFiles_holding _⟩
  obtain ⟨hresults, haccounted⟩ := hall report hreport
  exact ⟨report, hreport, by simp [hresults, Spec.found, matchFiles_holding], haccounted⟩

/-- A name with one byte more than a file system allows. -/
def longName : String := String.ofList (List.replicate 256 'a')

/-- A spec of the files whose names begin with that name, of which there can be none. -/
def overlong : Spec :=
  ⟨longName ++ "*", [.literal longName, .glob false], longName, "chunked", windows, [], true⟩

theorem not_searchable_overlong : ¬ overlong.Searchable bare := by
  have hlength : longName.utf8ByteSize = 256 := by decide +kernel
  have hslash : '/' ∉ longName.toList := fun h =>
    absurd (List.eq_of_mem_replicate (String.toList_ofList ▸ h)) (by decide)
  have hne : ∀ s : String, s.utf8ByteSize ≤ 255 → longName ≠ s := by
    rintro s hs rfl
    omega
  have hclean : Path.clean longName = longName :=
    Path.clean_of_no_slash hslash (hne "" (by decide)) (hne "." (by decide))
  have hbase : PathSpec.baseOf overlong.segments = longName := by simp [overlong]
  have hlong : bare.isTooLong (Path.clean longName) = true := by
    rw [hclean]
    exact FileTree.isTooLong_of_name rfl hslash (by rw [hlength]; decide) (by rw [hlength]; decide)
  rintro ⟨base, hb, hfits⟩
  rw [hbase, FileTree.canonical, Path.isAbsolute_of_no_slash hslash] at hb
  obtain rfl : longName = base := by simpa using hb
  simp [hlong] at hfits

/-- A spec with sound options and a sound pattern, for which no report is given. -/
theorem overlong_unreported : bare.Plain ∧ Index.checkSpecs env.engine.registry
    [overlong] = .ok () ∧
    PathSpec.Compiles overlong.segments ∧
    ¬ ∃ report, ((Index.empty idle.index.stats).ingest env.engine bare [overlong]).2 =
      .ok report := by
  have hcheck : Index.checkSpecs env.engine.registry [overlong] = .ok () := by
    have hstrategy : overlong.strategy = spec.strategy := by rw [overlong, spec]
    have hoptions : overlong.options = spec.options := by rw [overlong, spec]
    have hspec := check_spec
    simp only [Index.checkSpecs, Spec.check, ← hstrategy, ← hoptions] at hspec ⊢
    exact hspec
  have hc : PathSpec.Compiles overlong.segments := by
    rw [overlong, PathSpec.compiles_literal]
    exact ⟨_, rfl⟩
  refine ⟨plain_bare, hcheck, hc, fun hreport => ?_⟩
  rw [Index.report_ok_iff plain_bare hcheck (by simpa using hc)] at hreport
  exact not_searchable_overlong (hreport overlong (by simp))

end Sole

end SegmentIndex
