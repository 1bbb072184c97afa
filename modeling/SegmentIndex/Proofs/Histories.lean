import SegmentIndex.Proofs.Calls
import SegmentIndex.Proofs.Ledger

/-!
# Histories of statistics

What statistics hold follows from the calls of their writers so far: the failures that came last,
the sources that were registered first, and for each of them counters that run from the call that
began to track it. Every counter stops at zero by itself, so what relates two counters has to hold
of their changes.
-/
namespace SegmentIndex

/-! ## Counters that stop at zero -/

/-- The value of a counter that begins with zero, changes step by step, and stops at zero. -/
def balance (changes : List Int) : Int := changes.foldl (fun n change => max 0 (n + change)) 0

theorem balance_concat (changes : List Int) (change : Int) :
    balance (changes ++ [change]) = max 0 (balance changes + change) := by
  simp [balance]

theorem balance_mono {α : Type} {f g : α → Int} (h : ∀ a, f a ≤ g a) (xs : List α) :
    balance (xs.map f) ≤ balance (xs.map g) := by
  induction xs using List.reverseRecOn with
  | nil => exact Int.le_refl 0
  | append_singleton xs x ih =>
    have hx := h x
    simp only [List.map_append, List.map_cons, List.map_nil, balance_concat]
    omega

theorem cast_shift (n : Nat) (change : Int) : (shift n change : Int) = max 0 (n + change) := by
  unfold shift
  omega

theorem balance_step {α : Type} {f : α → Int} {xs : List α} {x : α} {n n' : Nat}
    (h : (n : Int) = balance (xs.map f))
    (hstep : n' = shift n (f x)) : (n' : Int) = balance ((xs ++ [x]).map f) := by
  rw [hstep, cast_shift, h, List.map_append, List.map_singleton, balance_concat]

namespace Stats

variable {s : Stats} {call : Call}

/-! ## Runs of calls -/

/-- Statistics after calls. -/
def runAll (s : Stats) (calls : List Call) : Stats := calls.foldl Call.run s

theorem runAll_concat (s : Stats) (calls : List Call) (call : Call) :
    s.runAll (calls ++ [call]) = call.run (s.runAll calls) := by
  simp [runAll]

theorem runAll_append (s : Stats) (before after : List Call) :
    s.runAll (before ++ after) = (s.runAll before).runAll after := List.foldl_append

/-- Statistics in which nothing is recorded yet. -/
def empty (maxFailures maxSources : Nat) : Stats :=
  { maxFailures := maxFailures, maxSources := maxSources }

theorem eq_empty_of_new {maxFailures maxSources : Int}
    (h : Stats.new maxFailures maxSources = .ok s) :
    s = empty maxFailures.toNat maxSources.toNat := by
  unfold Stats.new at h
  split_ifs at h
  exact (Except.ok.inj h).symm

section Limits

variable (s : Stats) (calls : List Call)

theorem maxFailures_runAll : (s.runAll calls).maxFailures = s.maxFailures := by
  induction calls using List.reverseRecOn with
  | nil => rfl
  | append_singleton calls call ih => rw [runAll_concat, (totals_run call _).maxFailures, ih]

theorem maxSources_runAll : (s.runAll calls).maxSources = s.maxSources := by
  induction calls using List.reverseRecOn with
  | nil => rfl
  | append_singleton calls call ih => rw [runAll_concat, (totals_run call _).maxSources, ih]

end Limits

variable {maxFailures maxSources : Nat}

/-! ## Totals -/

/-- Whoever keeps the latest of all records needs no others to
keep the latest once one more is there. -/
theorem keepLatest_concat (limit : Nat) (records : List FailureRecord) (record : FailureRecord) :
    keepLatest limit (keepLatest limit records ++ [record]) =
      keepLatest limit (records ++ [record]) := by
  unfold keepLatest
  rw [← List.drop_append_of_le_length (Nat.sub_le ..), List.drop_drop]
  refine congrArg (fun n => (records ++ [record]).drop n) ?_
  simp only [List.length_drop, List.length_append, List.length_cons, List.length_nil]
  omega

theorem failures_runAll (calls : List Call) :
    ((empty maxFailures maxSources).runAll calls).failures =
      (calls.filterMap Call.record?).rtake maxFailures := by
  induction calls using List.reverseRecOn with
  | nil => simp [runAll, empty, List.rtake]
  | append_singleton calls call ih =>
    rw [runAll_concat, (totals_run call _).failures, maxFailures_runAll, ih, List.filterMap_append]
    cases h : call.record? with
    | none => simp [h]
    | some record =>
      simp only [h, Option.elim_some, List.filterMap_cons, List.filterMap_nil]
      exact keepLatest_concat maxFailures (calls.filterMap Call.record?) record

theorem errors_runAll (calls : List Call) :
    ((empty maxFailures maxSources).runAll calls).errors =
      (calls.filterMap Call.record?).length := by
  induction calls using List.reverseRecOn with
  | nil => rfl
  | append_singleton calls call ih =>
    rw [runAll_concat, (totals_run call _).errors, ih, List.filterMap_append, List.length_append]
    cases h : call.record? <;> simp [h]

theorem documents_runAll (calls : List Call) :
    (((empty maxFailures maxSources).runAll calls).documents : Int) =
      balance (calls.map Call.documents) := by
  induction calls using List.reverseRecOn with
  | nil => rfl
  | append_singleton calls call ih =>
    rw [runAll_concat]
    exact balance_step ih (totals_run call _).documents

theorem segments_runAll (calls : List Call) :
    (((empty maxFailures maxSources).runAll calls).segments : Int) =
      balance (calls.map Call.segments) := by
  induction calls using List.reverseRecOn with
  | nil => rfl
  | append_singleton calls call ih =>
    rw [runAll_concat]
    exact balance_step ih (totals_run call _).segments

/-! ## Tracked sources -/

section Enrol

variable (limit : Nat) (paths known : List String)

theorem enrol_of_full {known : List String} (h : limit ≤ known.length) (path : String) :
    enrol limit known path = known := if_pos (.inr h)

theorem foldl_enrol_of_full {known : List String} (h : limit ≤ known.length) :
    paths.foldl (enrol limit) known = known := by
  induction paths with
  | nil => rfl
  | cons path rest ih => rw [List.foldl_cons, enrol_of_full limit h, ih]

theorem prefix_foldl_enrol : known <+: paths.foldl (enrol limit) known := by
  induction paths generalizing known with
  | nil => exact List.prefix_rfl
  | cons path rest ih =>
    refine List.IsPrefix.trans ?_ (ih _)
    unfold enrol
    split_ifs
    · exact List.prefix_rfl
    · exact List.prefix_append known [path]

theorem mem_of_mem_foldl_enrol {path : String} (h : path ∈ paths.foldl (enrol limit) known) :
    path ∈ known ∨ path ∈ paths := by
  induction paths generalizing known with
  | nil => exact .inl h
  | cons first rest ih =>
    rcases ih _ h with hmem | hmem
    · unfold enrol at hmem
      split_ifs at hmem
      · exact .inl hmem
      · rcases List.mem_append.mp hmem with hknown | hfirst
        · exact .inl hknown
        · exact .inr (List.mem_cons.mpr (.inl (List.mem_singleton.mp hfirst)))
    · exact .inr (List.mem_cons_of_mem _ hmem)

theorem foldl_enrol_nil : paths.foldl (enrol limit) [] = paths.eraseDups.take limit := by
  induction paths using List.reverseRecOn with
  | nil => simp
  | append_singleton xs x ih =>
    rw [List.foldl_append, ih, List.foldl_cons, List.foldl_nil, eraseDups_snoc]
    by_cases hroom : limit ≤ xs.eraseDups.length
    · rw [List.take_append_of_le_length hroom]
      apply enrol_of_full
      simpa using hroom
    · rw [not_le] at hroom
      rw [List.take_of_length_le hroom.le]
      by_cases hx : x ∈ xs
      · rw [if_pos hx, List.append_nil, List.take_of_length_le hroom.le]
        exact if_pos (.inl (List.mem_eraseDups.mpr hx))
      · have hone : (xs.eraseDups ++ [x]).length ≤ limit := by
          rw [List.length_append, List.length_singleton]
          omega
        rw [if_neg hx, List.take_of_length_le hone]
        apply if_neg
        rintro (hmem | hfull)
        · exact hx (List.mem_eraseDups.mp hmem)
        · omega

end Enrol

theorem tracked_runAll (s : Stats) (calls : List Call) :
    (s.runAll calls).tracked = (calls.flatMap Call.paths).foldl (enrol s.maxSources) s.tracked := by
  induction calls using List.reverseRecOn with
  | nil => rfl
  | append_singleton calls call ih =>
    rw [runAll_concat, (sources_run call _).tracked, maxSources_runAll, ih, List.flatMap_append,
      List.foldl_append, List.flatMap_singleton]

theorem tracked_prefix_runAll (s : Stats) (calls : List Call) :
    s.tracked <+: (s.runAll calls).tracked := by
  rw [tracked_runAll]
  exact prefix_foldl_enrol ..

theorem tracked_eq (calls : List Call) :
    ((empty maxFailures maxSources).runAll calls).tracked =
      (calls.flatMap Call.paths).eraseDups.take maxSources := by
  rw [tracked_runAll]
  exact foldl_enrol_nil ..

theorem nodup_tracked (calls : List Call) :
    ((empty maxFailures maxSources).runAll calls).tracked.Nodup := by
  rw [tracked_eq]
  exact (eraseDups_spec _).1.sublist (List.take_sublist ..)

theorem sourceErrors_le_errors (calls : List Call) :
    ((empty maxFailures maxSources).runAll calls).sourceErrors ≤
      ((empty maxFailures maxSources).runAll calls).errors := by
  induction calls using List.reverseRecOn with
  | nil => exact Nat.le_refl 0
  | append_singleton calls call ih =>
    have hle := (sources_run call ((empty maxFailures maxSources).runAll calls)).errors
      (nodup_tracked calls)
    rw [runAll_concat, (totals_run call _).errors]
    omega

/-! ## Paths that are dropped -/

theorem track_full {path : String} (h : (s.track path).2 = true) :
    (s.track path).1 = s ∧ path ∉ s.tracked ∧ s.maxSources ≤ s.tracked.length := by
  have hlength : s.tracked.length = s.sources.length := List.length_map ..
  unfold track at h ⊢
  split_ifs at h ⊢ with hknown hfull
  exact ⟨rfl, mt isSome_source?.mpr hknown, hlength ▸ hfull⟩

theorem mem_track {path : String} (h : (s.track path).2 = false) :
    path ∈ (s.track path).1.tracked := by
  unfold track at h ⊢
  split_ifs at h ⊢ with hknown hfull
  · exact isSome_source?.mp hknown
  · simp [tracked]

theorem register_snd_cons (path : String) (rest : List String) (s : Stats) :
    (register (path :: rest) s).2 =
      if (s.track path).2 then path :: (register rest (s.track path).1).2
      else (register rest (s.track path).1).2 := rfl

theorem dropped_register (paths : List String) (s : Stats) :
    (register paths s).2 = paths.filter fun path => path ∉ (register paths s).1.tracked := by
  induction paths generalizing s with
  | nil => rfl
  | cons path rest ih =>
    rw [register_snd_cons, register_cons, List.filter_cons, ih]
    cases h : (s.track path).2 with
    | true =>
      obtain ⟨hsame, hnew, hfull⟩ := track_full h
      have hout : path ∉ (register rest (s.track path).1).1.tracked := by
        rwa [hsame, tracked_register, foldl_enrol_of_full _ _ hfull]
      simp [hout]
    | false =>
      have hin : path ∈ (register rest (s.track path).1).1.tracked := by
        rw [tracked_register]
        exact (prefix_foldl_enrol ..).subset (mem_track h)
      simp [hin]

/-- A path that a registration leaves out is never tracked later, as there is no room any more. -/
theorem mem_tracked_later {paths : List String} {path : String} (h : path ∈ paths) (s : Stats)
    (later : List Call) :
    path ∈ ((register paths s).1.runAll later).tracked ↔ path ∈ (register paths s).1.tracked := by
  refine ⟨fun hlater => ?_, fun hnow => (tracked_prefix_runAll _ later).subset hnow⟩
  by_contra hout
  have hfull := (registered_register paths s).room path h (source?_eq_none.mpr hout)
  rw [tracked_runAll, foldl_enrol_of_full] at hlater
  · exact hout hlater
  · simpa [tracked] using hfull

/-! ## Counters of tracked sources -/

/-- Whether the counters of a source are those of some calls. -/
structure CountedBy (path : String) (calls : List Call) (c : SourceStats) : Prop where
  matched : (c.matched : Int) = balance (calls.map (Call.on path Call.matched))
  processed : (c.processed : Int) = balance (calls.map (Call.on path Call.documents))
  segments : (c.segments : Int) = balance (calls.map (Call.on path Call.segments))
  errors : c.errors = calls.countP (Call.fails path)

variable {path : String} {c c' : SourceStats} {calls : List Call}

theorem CountedBy.nil (path : String) : CountedBy path [] {} := ⟨rfl, rfl, rfl, rfl⟩

theorem CountedBy.concat (h : CountedBy path calls c) (hc : ChangedBy call path c c') :
    CountedBy path (calls ++ [call]) c' where
  matched := balance_step h.matched hc.matched
  processed := balance_step h.processed hc.processed
  segments := balance_step h.segments hc.segments
  errors := by
    rw [hc.errors, h.errors, List.countP_append]
    cases hfails : call.fails path <;> simp [hfails]

/-- Every file that is processed is matched, by the same calls and with the same stops at zero. -/
theorem CountedBy.processed_le_matched (h : CountedBy path calls c) : c.processed ≤ c.matched := by
  have hle := balance_mono (Call.on_mono Call.documents_le_matched path) calls
  rw [← h.matched, ← h.processed] at hle
  exact Int.ofNat_le.mp hle

theorem exists_register (h : path ∉ s.tracked) (hmem : path ∈ (call.run s).tracked) :
    ∃ paths, call = .register paths ∧ path ∈ paths := by
  rw [(sources_run call s).tracked] at hmem
  have hpath := (mem_of_mem_foldl_enrol _ _ _ hmem).resolve_left h
  cases call with
  | register paths => exact ⟨paths, rfl, hpath⟩
  | _ => exact absurd hpath List.not_mem_nil

/-- The counters of a source run from the registration by which it began to be tracked. -/
theorem exists_countedBy (h : ((empty maxFailures maxSources).runAll calls).source? path = some c) :
    ∃ before paths later, calls = before ++ .register paths :: later ∧ path ∈ paths ∧
      path ∉ ((empty maxFailures maxSources).runAll before).tracked ∧
      ((empty maxFailures maxSources).runAll (before ++ [.register paths])).source? path = some {} ∧
      CountedBy path later c := by
  induction calls using List.reverseRecOn generalizing c with
  | nil => simp [runAll, empty, source?] at h
  | append_singleton calls call ih =>
    have hlast := h
    rw [runAll_concat] at hlast
    have hstep := sources_run call ((empty maxFailures maxSources).runAll calls)
    cases hbefore : ((empty maxFailures maxSources).runAll calls).source? path with
    | some c₀ =>
      obtain ⟨before, paths, later, rfl, hmem, hnew, hbegun, hcounted⟩ := ih hbefore
      obtain ⟨c', hc', hchanged⟩ := hstep.kept path c₀ hbefore
      obtain rfl : c = c' := Option.some.inj (hlast.symm.trans hc')
      exact ⟨before, paths, later ++ [call], by simp, hmem, hnew, hbegun, hcounted.concat hchanged⟩
    | none =>
      obtain rfl : c = {} := hstep.fresh path c hbefore hlast
      have hnew := source?_eq_none.mp hbefore
      have hmem : path ∈ (call.run ((empty maxFailures maxSources).runAll calls)).tracked :=
        isSome_source?.mp (by rw [hlast]; rfl)
      obtain ⟨paths, rfl, hpath⟩ := exists_register hnew hmem
      exact ⟨calls, paths, [], rfl, hpath, hnew, h, .nil path⟩

/-! ## The history -/

/-- What becomes of the paths that are registered in the course of a history. -/
structure Registration (s : Stats) (paths : List String) (last : Stats) : Prop where
  returned : (register paths s).2 = paths.filter fun path => path ∉ (register paths s).1.tracked
  excluded : (register paths s).2 = paths.filter fun path => path ∉ last.tracked
  warned : ∀ {ν : Type} (i : Index ν) (specs : List Spec), i.stats = s →
    specs.map (·.path) = paths →
    (i.registerSources specs).stats = (register paths s).1 ∧
      (i.registerSources specs).warnings = i.warnings ++
        if (register paths s).2 = [] then []
        else [.untracked s.maxSources (register paths s).2.length]

theorem registration_of_later (s : Stats) (paths : List String) (later : List Call) :
    Registration s paths ((register paths s).1.runAll later) where
  returned := dropped_register paths s
  excluded := by
    rw [dropped_register]
    refine List.filter_congr fun path hpath => ?_
    simp only [mem_tracked_later hpath]
  warned := by
    rintro ν i specs rfl rfl
    have hmax := (registered_register (specs.map (·.path)) i.stats).maxSources
    unfold Index.registerSources
    dsimp only
    rw [hmax]
    by_cases hnone : (register (specs.map (·.path)) i.stats).2 = []
    · simp [hnone]
    · simp [hnone, Index.warn]

/-- What statistics are after a history of calls. -/
structure History (maxFailures maxSources : Nat) (start : Stats) (calls : List Call) : Prop where
  failures : (start.runAll calls).failures = (calls.filterMap Call.record?).rtake maxFailures
  errors : (start.runAll calls).errors = (calls.filterMap Call.record?).length
  documents : ((start.runAll calls).documents : Int) = balance (calls.map Call.documents)
  segments : ((start.runAll calls).segments : Int) = balance (calls.map Call.segments)
  tracked : (start.runAll calls).tracked = (calls.flatMap Call.paths).eraseDups.take maxSources
  kept : ∀ before later, calls = before ++ later →
    (start.runAll before).tracked <+: (start.runAll calls).tracked
  registered : ∀ before paths later, calls = before ++ .register paths :: later →
    Registration (start.runAll before) paths (start.runAll calls)
  counted : ∀ path c, (start.runAll calls).source? path = some c →
    ∃ before paths later, calls = before ++ .register paths :: later ∧ path ∈ paths ∧
      path ∉ (start.runAll before).tracked ∧
      (start.runAll (before ++ [.register paths])).source? path = some {} ∧ CountedBy path later c
  processed : ∀ path c, (start.runAll calls).source? path = some c → c.processed ≤ c.matched
  sourceErrors : (start.runAll calls).sourceErrors ≤ (start.runAll calls).errors

/-- After any calls the failures are the latest, the tracked sources the
first, and the counters those of the calls. -/
theorem history_of_new {maxFailures maxSources : Int} {start : Stats}
    (h : Stats.new maxFailures maxSources = .ok start) (calls : List Call) :
    History maxFailures.toNat maxSources.toNat start calls := by
  obtain rfl := eq_empty_of_new h
  constructor
  · exact failures_runAll calls
  · exact errors_runAll calls
  · exact documents_runAll calls
  · exact segments_runAll calls
  · exact tracked_eq calls
  · rintro before later rfl
    rw [runAll_append]
    exact tracked_prefix_runAll _ later
  · rintro before paths later rfl
    rw [runAll_append]
    exact registration_of_later _ paths later
  · exact fun path c hc => exists_countedBy hc
  · intro path c hc
    obtain ⟨_, _, _, -, -, -, -, hcounted⟩ := exists_countedBy hc
    exact hcounted.processed_le_matched
  · exact sourceErrors_le_errors calls

/-- Calls that register one path twice, count down an empty source, and fail for two sources. -/
def Call.mixed : List Call :=
  [.register ["a", "b", "a"], .failure ⟨"a/1", "read-error", "gone", some "a"⟩ true,
    .adjust (some "a") (-3) (-3), .success (some "a") [[], []] true,
    .failure ⟨"b/1", "read-error", "gone", some "b"⟩ true,
    .failure ⟨"a/2", "read-error", "gone", some "a"⟩ false, .register ["b", "b"]]

/-- Of these failures the first is forgotten, and only the first source is tracked. -/
theorem history_of_mixed : Stats.new 2 1 = .ok (empty 2 1) ∧ History 2 1 (empty 2 1) Call.mixed ∧
    ((empty 2 1).runAll Call.mixed).failures.map (·.path) = ["b/1", "a/2"] ∧
    ((empty 2 1).runAll Call.mixed).sources = [("a", ⟨1, 1, 2, 2, some 0⟩)] :=
  ⟨rfl, @history_of_new 2 1 _ rfl _, by decide, by decide⟩

end Stats

end SegmentIndex
