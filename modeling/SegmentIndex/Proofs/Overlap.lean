import SegmentIndex.Proofs.Counting

/-!
# Files that belong to several specs

Ingesting stores what each spec gives to a file; of points with one id, the spec that comes last
wins. A change of the file is different. One entry is held back for each path, whichever specs were
told of it, and following it takes all points of the file away: only those of the spec that was told
last come back.
-/
namespace SegmentIndex

open PointStore (Known Distinct isOf)

section

variable {ν : Type} {known : String → Prop} {e : Engine ν} {t : FileTree} {path : String}
  {s : Session ν} {spec last : Spec} {arrivals : List (Nat × Spec)}

namespace Session

/-- A change of a file is told for specs one after the other, each time after a while. -/
def tellAll (e : Engine ν) (t : FileTree) (path : String) :
    List (Nat × Spec) → Session ν → Session ν
  | [], s => s
  | (ms, spec) :: rest, s =>
    tellAll e t path rest ((s.advance e t ms).1.receive t spec ⟨"modify", path⟩).1

/-- A session that holds back nothing but a change of one file. -/
structure Attentive (t : FileTree) (path : String) (s : Session ν) : Prop where
  flushing : s.debouncer.flushing = false
  stopped : s.debouncer.stopped = false
  distinct : Distinct s.index.store
  pending : s.debouncer.pending = [] ∨
    ∃ spec, spec.takes t path = true ∧ s.debouncer.pending = [⟨"modify", path, spec⟩]

theorem attentive_advance (hr : ∀ id, e.refuse id = none) (hp : t.canonical path = .ok path)
    (ms : Nat) (h : s.Attentive t path) : (s.advance e t ms).1.Attentive t path := by
  obtain ⟨d, any, hd, hquiet⟩ := Debouncer.advance_quiet ms h.flushing
  have heq : (s.advance e t ms).1 = s.withDebounced (d, if any then
      (handler e t).worldAfter s.index s.debouncer.pending else s.index) := by
    simp only [advance, hquiet _ (quiet_handler e t)]
  rw [heq]
  refine ⟨hd.flushing, hd.stopped.trans h.stopped, ?_, ?_⟩
  · cases any with
    | false => exact h.distinct
    | true =>
      rcases h.pending with hnone | ⟨spec, ht, hone⟩
      · simp only [withDebounced, hnone]
        exact h.distinct
      · obtain ⟨m, hm⟩ := Spec.takes_iff.mp ht
        simp only [withDebounced, hone]
        have hkind : "modify" ∈ Index.eventKinds := by decide
        change Distinct (handler e t s.index ⟨"modify", path, spec⟩).1.store
        exact distinct_handler hr h.distinct hp hm hkind
  · cases any with
    | false =>
      have : d.pending = s.debouncer.pending := hd.pending
      simp only [withDebounced, this]
      exact h.pending
    | true => exact .inl hd.pending

theorem attentive_receive (h : s.Attentive t path) (ht : spec.takes t path = true) :
    (s.receive t spec ⟨"modify", path⟩).1.Attentive t path ∧
      (s.receive t spec ⟨"modify", path⟩).1.debouncer.pending = [⟨"modify", path, spec⟩] := by
  obtain ⟨m, hm⟩ := Spec.takes_iff.mp ht
  rw [receive_of_matchPath s ⟨"modify", path⟩ hm]
  have hp : (s.debouncer.submit ⟨"modify", path, spec⟩).pending = [⟨"modify", path, spec⟩] := by
    rw [Debouncer.pending_submit _ h.stopped]
    rcases h.pending with hnone | ⟨_, -, hone⟩
    · rw [hnone]
      rfl
    · rw [hone]
      simp [Debouncer.hold]
  refine ⟨⟨?_, ?_, h.distinct, .inr ⟨spec, ht, hp⟩⟩, hp⟩
  · exact (Debouncer.flushing_submit _ _).trans h.flushing
  · exact (Debouncer.stopped_submit _ _).trans h.stopped

theorem attentive_tellAll (hr : ∀ id, e.refuse id = none) (hp : t.canonical path = .ok path)
    (ha : ∀ a ∈ arrivals, a.2.takes t path = true) {ms : Nat}
    (hlast : arrivals.getLast? = some (ms, last))
    (h : s.Attentive t path) : (s.tellAll e t path arrivals).Attentive t path ∧
      (s.tellAll e t path arrivals).debouncer.pending = [⟨"modify", path, last⟩] := by
  induction arrivals generalizing s with
  | nil => simp at hlast
  | cons a rest ih =>
    have hnext := attentive_receive (attentive_advance hr hp a.1 h) (ha a List.mem_cons_self)
    cases rest with
    | nil =>
      obtain rfl : a = (ms, last) := by simpa using hlast
      exact hnext
    | cons b rest =>
      exact ih (fun x hx => ha x (List.mem_cons_of_mem _ hx)) (by simpa using hlast) hnext.1

/-- Following the change stores the points that the spec told last
gives to the file, and no others of it. -/
theorem mem_flush_attentive (hr : ∀ id, e.refuse id = none) (hb : e.registry.Builtin last.strategy)
    (hp : t.canonical path = .ok path) (ht : last.takes t path = true) (h : s.Attentive t path)
    (hone : s.debouncer.pending = [⟨"modify", path, last⟩]) (q : Point ν) :
    q ∈ (s.flush e t).1.index.store ∧ isOf path q = true ↔ Expected e t [last] path q := by
  obtain ⟨m, hm⟩ := Spec.takes_iff.mp ht
  have hpath : m.path = path := Except.ok.inj ((Spec.canonical_of_matchPath hm).symm.trans hp)
  obtain ⟨hof, hnd⟩ := Engine.pointsFor_spec (t := t) (m := m) hb
  have hexp : Expected e t [last] path q ↔ q ∈ e.pointsFor t last m := by
    simp [Expected, hm]
  simp only [flush, Debouncer.flush_quiet (quiet_handler e t) h.flushing, hone, withDebounced,
    Handler.worldAfter, List.foldl_cons, List.foldl_nil, store_handler]
  rw [hexp, Index.store_reindex_content hr (.inr rfl) hm, if_pos rfl, hpath, PointStore.removeFile,
    PointStore.mem_upsertAll_iff (h.distinct.filter _) hnd]
  constructor
  · rintro ⟨hq | ⟨hq, -⟩, hisof⟩
    · exact hq
    · simp [hisof] at hq
  · exact fun hq => ⟨.inl hq, hpath ▸ (hof q hq).1⟩

/-- After a session has started and a change was told, the file
has what the spec told last gives to it. -/
theorem mem_flush_tellAll {config : Config} {env : Surroundings ν} {t t' : FileTree}
    {s₀ s₁ : Session ν} {report : Report} (hnew : Session.new config = .ok s₀)
    (hstart : s₀.start env t = (s₁, .ok report)) (hr : ∀ id, env.engine.refuse id = none)
    (hb : env.engine.registry.Builtin last.strategy) (hp : t'.canonical path = .ok path)
    (ha : ∀ a ∈ arrivals, a.2.takes t' path = true) {ms : Nat}
    (hlast : arrivals.getLast? = some (ms, last)) (q : Point ν) :
    q ∈ ((s₁.tellAll env.engine t' path arrivals).flush env.engine t').1.index.store ∧
    isOf path q = true ↔
      Expected env.engine t' [last] path q := by
  obtain ⟨-, ⟨i, hi, hstore, hres⟩, -, hpending, hflushing, hstopped⟩ := start_spec hnew hstart
  have hidle : s₁.Attentive t' path :=
    ⟨hflushing, hstopped, hstore ▸ Index.distinct_ingest hr hi hres, .inl hpending⟩
  obtain ⟨htold, hone⟩ := attentive_tellAll hr hp ha hlast hidle
  exact mem_flush_attentive hr hb hp (ha (ms, last) (List.mem_of_getLast? hlast)) htold hone q

end Session

section Agreement

variable {specs : List Spec} {fresh after : PointStore ν} (hg : Grounded known t)
  (hb : ∀ spec ∈ specs, e.registry.Builtin spec.strategy) (hs : Index.Sound known e t specs fresh)
  (hk : known path) (hall : ∀ q, Expected e t specs path q → ∃ p ∈ fresh, p.id = q.id)
  (hafter : ∀ q, q ∈ after ∧ isOf path q = true ↔ Expected e t [last] path q)

include hg hb hs hk hall hafter

/-- When the points that one spec gives to a file are those that all specs leave to it. -/
theorem agrees_iff : (∀ q, isOf path q = true → (q ∈ after ↔ q ∈ fresh)) ↔
    (∀ q, Expected e t specs path q → ∃ p, Expected e t [last] path p ∧ p.id = q.id) ∧
      ∀ q, Expected e t [last] path q → q ∈ fresh := by
  constructor
  · intro h
    refine ⟨fun q hq => ?_, fun q hq => ?_⟩
    · obtain ⟨p, hp, hid⟩ := hall q hq
      have hisof := (Index.expected_spec hg hb hk (hs.expected_of_id hg hb hk hp hq hid)).1
      exact ⟨p, (hafter p).mp ⟨(h p hisof).mpr hp, hisof⟩, hid⟩
    · obtain ⟨hin, hisof⟩ := (hafter q).mpr hq
      exact (h q hisof).mp hin
  · rintro ⟨hcover, hstand⟩ q hisof
    refine ⟨fun hq => hstand q ((hafter q).mp ⟨hq, hisof⟩), fun hq => ?_⟩
    obtain ⟨p, hp, hid⟩ := hcover q (hs.expected_of_isOf hg hb hq hisof)
    obtain rfl : p = q := List.inj_on_of_nodup_map hs.distinct (hstand p hp) hq hid
    exact ((hafter p).mpr hp).1

theorem agrees_of_single (hl : last ∈ specs)
    (h : ∀ spec ∈ specs, spec.takes t path = true → spec = last) :
    ∀ q, isOf path q = true → (q ∈ after ↔ q ∈ fresh) := by
  have hone : ∀ q, Expected e t specs path q → Expected e t [last] path q := by
    rintro q ⟨spec, hspec, m, hm, hq⟩
    obtain rfl := h spec hspec (Spec.takes_iff.mpr ⟨m, hm⟩)
    exact ⟨spec, List.mem_singleton_self _, m, hm, hq⟩
  refine (agrees_iff hg hb hs hk hall hafter).mpr ⟨fun q hq => ⟨q, hone q hq, rfl⟩, fun q hq => ?_⟩
  obtain ⟨spec, hspec, m, hm, hq⟩ := hq
  obtain rfl := List.mem_singleton.mp hspec
  have hexp : Expected e t specs path q := ⟨spec, hl, m, hm, hq⟩
  obtain ⟨p, hp, hid⟩ := hall q hexp
  obtain ⟨spec', hspec', m', hm', hp'⟩ := hone p (hs.expected_of_id hg hb hk hp hexp hid)
  obtain rfl := List.mem_singleton.mp hspec'
  obtain rfl : m' = m := Option.some.inj (Except.ok.inj (hm'.symm.trans hm))
  rwa [← List.inj_on_of_nodup_map (Engine.pointsFor_spec (hb spec' hl)).2 hp' hq hid]

end Agreement

/-- After a change of a file was told for specs in any order, the file has the points that the spec
told last gives to it. Those are the ones that ingesting all specs would store exactly if no spec
gives to the file a segment that the last one does not, and ingesting lets all points of the last
one stand. They are so whenever the file belongs to one spec only. -/
theorem shared_file_complete_iff {config : Config} {env : Surroundings ν} {t t' : FileTree}
    {s₀ s₁ : Session ν} {report : Report} (hnew : Session.new config = .ok s₀)
    (hstart : s₀.start env t = (s₁, .ok report)) (hr : ∀ id, env.engine.refuse id = none)
    (hb : ∀ spec ∈ s₁.specs, env.engine.registry.Builtin spec.strategy) (hg : Grounded known t')
    (hsurvey : Surveyed known t' s₁.specs) (hk : known path)
    (ha : ∀ a ∈ arrivals, a.2 ∈ s₁.specs ∧ a.2.takes t' path = true) {ms : Nat}
    (hlast : arrivals.getLast? = some (ms, last)) (stats : Stats) :
    ∃ fresh result, (Index.empty stats).ingest env.engine t' s₁.specs = (fresh, .ok result) ∧
      (∀ q, q ∈ ((s₁.tellAll env.engine t' path arrivals).flush env.engine t').1.index.store ∧
        isOf path q = true ↔ Expected env.engine t' [last] path q) ∧
      ((∀ q, isOf path q = true →
          (q ∈ ((s₁.tellAll env.engine t' path arrivals).flush env.engine t').1.index.store ↔
            q ∈ fresh.store)) ↔
        (∀ q, Expected env.engine t' s₁.specs path q →
            ∃ p, Expected env.engine t' [last] path p ∧ p.id = q.id) ∧
          ∀ q, Expected env.engine t' [last] path q → q ∈ fresh.store) ∧
      ((∀ spec ∈ s₁.specs, spec.takes t' path = true → spec = last) → ∀ q, isOf path q = true →
        (q ∈ ((s₁.tellAll env.engine t' path arrivals).flush env.engine t').1.index.store ↔
          q ∈ fresh.store)) := by
  have hlmem := (ha (ms, last) (List.mem_of_getLast? hlast)).1
  have hafter := Session.mem_flush_tellAll hnew hstart hr (hb last hlmem) (hg.canonical path hk)
    (fun a h => (ha a h).2) hlast
  obtain ⟨⟨result, hok⟩, hsound, hall⟩ :=
    Index.sound_ingest hr hg hb hsurvey (start_spec hnew hstart).1 (i := Index.empty stats) rfl
  exact ⟨_, result, Prod.ext rfl hok, hafter, agrees_iff hg hb hsound hk (hall path hk) hafter,
    agrees_of_single hg hb hsound hk (hall path hk) hafter hlmem⟩

end

/-! ## A file that belongs to two specs -/

namespace Sole

/-- A second spec, which takes the file as a whole. -/
def whole : Spec := ⟨"/a", [.literal "/a"], "/a", "whole-document", [], [], true⟩

/-- The session over both specs. -/
def idlePair : Session Unit where
  config :=
    { config with
      sources := [⟨"/a", "chunked", none, windows⟩, ⟨"/a", "whole-document", none, []⟩] }
  index := .empty { maxFailures := 20, maxSources := 100 }
  debouncer := { interval := 500 }

/-- The session that has started with a file of three characters. -/
def pair : Session Unit := (idlePair.start env (holding [97, 98, 99])).1

theorem direct_pair : ∀ s ∈ [spec, whole], Direct s ∧ s.watch = true := by
  intro s hs
  simp only [List.mem_cons, List.not_mem_nil, or_false] at hs
  rcases hs with rfl | rfl <;> exact ⟨⟨rfl, rfl⟩, rfl⟩

theorem new_pair : Session.new idlePair.config = .ok idlePair := rfl

theorem start_pair : ∃ report, idlePair.start env (holding [97, 98, 99]) = (pair, .ok report) ∧
    pair.specs = [spec, whole] ∧ pair.subscriptions.map (·.spec) = [spec, whole] := by
  have hspecs : idlePair.config.compileSources env.engine.registry = .ok [spec, whole] := by
    change Source.compileAll env.engine.registry true
      [⟨"/a", "chunked", none, windows⟩, ⟨"/a", "whole-document", none, []⟩] = .ok [spec, whole]
    decide +kernel
  have hcheck : Index.checkSpecs env.engine.registry [spec, whole] = .ok () := by decide +kernel
  exact start_of_direct rfl rfl rfl hspecs hcheck direct_pair [97, 98, 99]

/-- The file is rewritten, and told of to both specs. -/
def retold : Session Unit := pair.tellAll env.engine (holding [100]) "/a" [(0, spec), (0, whole)]

theorem takes_pair (bytes : List UInt8) : ∀ a ∈ [((0 : Nat), spec), (0, whole)],
    a.2 ∈ [spec, whole] ∧ a.2.takes (holding bytes) "/a" = true := by
  intro a ha
  have hmem : a.2 ∈ [spec, whole] := List.mem_map_of_mem (f := (·.2)) ha
  exact ⟨hmem, Spec.takes_iff.mpr ⟨_, (direct_pair _ hmem).1.matchPath (linkless_holding bytes)⟩⟩

theorem surveyed_pair (bytes : List UInt8) : Surveyed (· = "/a") (holding bytes) pair.specs := by
  obtain ⟨_, -, hspecs, -⟩ := start_pair
  rw [hspecs]
  exact surveyed_of_direct (fun s hs => (direct_pair s hs).1) bytes

/-- Whether the file is complete here depends on what the second spec gives to it. -/
theorem retold_complete_iff : ∃ fresh result,
    (Index.empty idle.index.stats).ingest env.engine (holding [100]) pair.specs =
      (fresh, .ok result) ∧
      (∀ q, q ∈ (retold.flush env.engine (holding [100])).1.index.store ∧ isOf "/a" q = true ↔
        Expected env.engine (holding [100]) [whole] "/a" q) ∧
      ((∀ q, isOf "/a" q = true →
          (q ∈ (retold.flush env.engine (holding [100])).1.index.store ↔ q ∈ fresh.store)) ↔
        (∀ q, Expected env.engine (holding [100]) pair.specs "/a" q →
            ∃ p, Expected env.engine (holding [100]) [whole] "/a" p ∧ p.id = q.id) ∧
          ∀ q, Expected env.engine (holding [100]) [whole] "/a" q → q ∈ fresh.store) ∧
      ((∀ spec ∈ pair.specs, spec.takes (holding [100]) "/a" = true → spec = whole) →
        ∀ q, isOf "/a" q = true →
          (q ∈ (retold.flush env.engine (holding [100])).1.index.store ↔ q ∈ fresh.store)) := by
  obtain ⟨report, hstart, hspecs, -⟩ := start_pair
  exact shared_file_complete_iff new_pair hstart (fun _ => rfl)
    (fun s _ => (Registry.standard_builtin s.strategy).builtin) (grounded_holding [100])
    (surveyed_pair [100]) rfl
    (by rw [hspecs]; exact takes_pair [100]) rfl _

theorem failures_pair {report : Report}
    (h : idlePair.start env (holding [97, 98, 99]) = (pair, .ok report)) :
    report.failures = [] := by
  obtain ⟨_, -, hspecs, -⟩ := start_pair
  obtain ⟨-, ⟨i, -, -, hres⟩, -⟩ := start_spec new_pair h
  rw [hspecs] at hres
  have hok : ∀ s ∈ [spec, whole], ∃ batch,
      env.engine.prepare (holding [97, 98, 99]) s ⟨"/a", [], [], some s⟩ = .ok batch := by
    intro s hs
    have hprepared : ∀ s ∈ [spec, whole],
        (env.engine.prepare (holding [97, 98, 99]) s ⟨"/a", [], [], some s⟩).isOk = true := by
      decide +kernel
    specialize hprepared s hs
    revert hprepared
    cases env.engine.prepare (holding [97, 98, 99]) s ⟨"/a", [], [], some s⟩ with
    | ok batch => exact fun _ => ⟨batch, rfl⟩
    | error f => exact fun hfalse => absurd hfalse Bool.false_ne_true
  have hall : ∀ r ∈ report.results, r.ok = true := by
    refine Index.ingest_keeps (P := fun _ done => ∀ r ∈ done, r.ok = true) (fun _ _ _ _ h => h)
      (fun s hs found hfound m hm i done h r hr => ?_) (by simp) hres
    rw [(direct_pair s hs).1.matchFiles, Except.ok.injEq] at hfound
    obtain rfl := List.mem_singleton.mp (hfound ▸ hm)
    rcases List.mem_append.mp hr with hr | hr
    · exact h r hr
    · obtain ⟨batch, hbatch⟩ := hok s hs
      rw [List.mem_singleton.mp hr]
      exact (Index.ingestFor_stored (fun _ => rfl) hbatch).1
  exact List.filter_eq_nil_iff.mpr fun r hr => by simp [hall r hr]

/-- The segments of the first spec are lost. -/
theorem retold_incomplete : ∃ report fresh result,
    idlePair.start env (holding [97, 98, 99]) = (pair, .ok report) ∧ report.failures = [] ∧
      pair.subscriptions.map (·.spec) = [spec, whole] ∧
      (∀ s ∈ pair.specs, s.takes (holding [100]) "/a" = true) ∧
      (Index.empty idle.index.stats).ingest env.engine (holding [100]) pair.specs =
        (fresh, .ok result) ∧
      ¬ ∀ q, isOf "/a" q = true →
        (q ∈ (retold.flush env.engine (holding [100])).1.index.store ↔ q ∈ fresh.store) := by
  obtain ⟨report, hstart, hspecs, hsubs⟩ := start_pair
  have hbuiltin : ∀ s ∈ pair.specs, env.engine.registry.Builtin s.strategy := fun s _ =>
    (Registry.standard_builtin s.strategy).builtin
  obtain ⟨⟨result, hok⟩, hsound, hall⟩ :=
    Index.sound_ingest (fun _ => rfl) (grounded_holding [100]) hbuiltin
    (surveyed_pair [100]) (start_spec new_pair hstart).1 (i := Index.empty idle.index.stats) rfl
  have htakes : ∀ s ∈ [spec, whole], s.takes (holding [100]) "/a" = true := fun s hs =>
    Spec.takes_iff.mpr ⟨_, (direct_pair s hs).1.matchPath (linkless_holding [100])⟩
  refine ⟨report, _, result, hstart, failures_pair hstart, hsubs, hspecs ▸ htakes, Prod.ext rfl hok,
    fun hagree => ?_⟩
  have hafter := Session.mem_flush_tellAll new_pair hstart (fun _ => rfl)
    (Registry.standard_builtin whole.strategy).builtin ((grounded_holding [100]).canonical "/a" rfl)
    (fun a h => (takes_pair [100] a h).2) (show _ = some (0, whole) from rfl)
  have hplain : (env.engine.pointsFor (holding [100]) whole ⟨"/a", [], [], some whole⟩).map (·.id) =
      ["/a"] := by
    decide +kernel
  -- The segment of the first spec is expected, and the ids of the second one are others.
  obtain ⟨q, hq, hid⟩ : ∃ q ∈ env.engine.pointsFor (holding [100]) spec found, q.id = "/a#0" := by
    rw [← List.mem_map, ids_replaced]
    decide
  have hexp : Expected env.engine (holding [100]) pair.specs "/a" q :=
    ⟨spec, by simp [hspecs], found, matchPath_spec (linkless_holding [100]), hq⟩
  obtain ⟨p, hp, hpid⟩ := hall "/a" rfl q hexp
  have hisof := (Index.expected_spec (grounded_holding [100]) hbuiltin rfl
    (hsound.expected_of_id (grounded_holding [100]) hbuiltin rfl hp hexp hpid)).1
  obtain ⟨s, hs, m, hm, hpm⟩ := (hafter p).mp ⟨(hagree p hisof).mpr hp, hisof⟩
  obtain rfl := List.mem_singleton.mp hs
  rw [(direct_pair whole (by simp)).1.matchPath (linkless_holding [100])] at hm
  obtain rfl := Option.some.inj (Except.ok.inj hm)
  have := List.mem_map_of_mem (f := (·.id)) hpm
  rw [hplain, hpid, hid] at this
  simp at this

end Sole

end SegmentIndex
