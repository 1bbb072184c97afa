import SegmentIndex.Proofs.Worlds
import Mathlib

/-!
# Convergence

A session that is told of every change of its files comes to store what ingesting the final files
would store, but for old points that the appearance of a file left in place. That happens only when
a file appears again while its removal is still held back: the later event takes the place of the
earlier one, and it removes nothing.
-/
namespace SegmentIndex

open PointStore (Known Distinct isOf)

variable {ν : Type} {known : String → Prop} {e : Engine ν} {specs : List Spec} {w : World ν}

/-! ## The start of a session -/

theorem watch_spec {env : Surroundings ν} {t : FileTree} {spec : Spec} {s s' : Session ν}
    (h : s.watch env t spec = (s', .ok ())) :
    s'.index.store = s.index.store ∧ s'.debouncer = s.debouncer ∧ s'.specs = s.specs ∧
      s'.config = s.config ∧
      (s'.subscriptions.map (·.spec) = s.subscriptions.map (·.spec) ∨
        s'.subscriptions.map (·.spec) = s.subscriptions.map (·.spec) ++ [spec]) := by
  unfold Session.watch at h
  split_ifs at h
  · obtain rfl := (Prod.mk.inj h).1
    exact ⟨rfl, rfl, rfl, rfl, .inl rfl⟩
  · rcases htarget : spec.watchTarget t with f | ⟨root, recursive⟩
    · simp [htarget] at h
    · simp only [htarget] at h
      cases hroot : env.refuseRoot root with
      | some cause =>
        simp only [hroot] at h
        obtain rfl := (Prod.mk.inj h).1
        exact ⟨rfl, rfl, rfl, rfl, .inl rfl⟩
      | none =>
        simp only [hroot] at h
        obtain rfl := (Prod.mk.inj h).1
        exact ⟨rfl, rfl, rfl, rfl, .inr (by simp)⟩

theorem watchAll_spec {env : Surroundings ν} {t : FileTree} {specs : List Spec} {s s' : Session ν}
    (h : s.watchAll env t specs = (s', .ok ())) :
    s'.index.store = s.index.store ∧ s'.debouncer = s.debouncer ∧ s'.specs = s.specs ∧
      ∃ more, more.Sublist specs ∧
        s'.subscriptions.map (·.spec) = s.subscriptions.map (·.spec) ++ more := by
  induction specs generalizing s with
  | nil =>
    obtain rfl : s = s' := (Prod.mk.inj h).1
    exact ⟨rfl, rfl, rfl, [], .slnil, by simp⟩
  | cons spec rest ih =>
    rw [Session.watchAll] at h
    rcases hw : s.watch env t spec with ⟨s₁, f | u⟩
    · simp [hw] at h
    · simp only [hw] at h
      obtain ⟨h₁, h₂, h₃, more, hmore, h₄⟩ := ih h
      obtain ⟨g₁, g₂, g₃, -, g₄⟩ := watch_spec hw
      refine ⟨h₁.trans g₁, h₂.trans g₂, h₃.trans g₃, ?_⟩
      rcases g₄ with g₄ | g₄
      · exact ⟨more, hmore.cons spec, by rw [h₄, g₄]⟩
      · exact ⟨spec :: more, hmore.cons_cons spec, by rw [h₄, g₄]; simp⟩

theorem new_eq {config : Config} {s : Session ν} (h : Session.new config = .ok s) :
    ∃ stats interval,
    s = { config := config, index := .empty stats, debouncer := { interval := interval } } := by
  unfold Session.new at h
  cases hstats : Stats.new config.ingestion.maxFailures config.ingestion.maxSources with
  | error f => simp [hstats] at h
  | ok stats =>
    simp only [hstats, Debouncer.new] at h
    split_ifs at h
    · simp [Except.map] at h
    · simp only [Except.map, Except.ok.injEq] at h
      exact ⟨_, _, h.symm⟩

theorem start_spec {config : Config} {env : Surroundings ν} {t : FileTree} {s₀ s₁ : Session ν}
    {report : Report}
    (hnew : Session.new config = .ok s₀) (hstart : s₀.start env t = (s₁, .ok report)) :
    Index.checkSpecs env.engine.registry s₁.specs = .ok () ∧
      (∃ i : Index ν, i.store = [] ∧ s₁.index.store = (i.ingest env.engine t s₁.specs).1.store ∧
        (i.ingest env.engine t s₁.specs).2 = .ok report) ∧
      (s₁.subscriptions.map (·.spec)).Sublist s₁.specs ∧
      s₁.debouncer.pending = [] ∧ s₁.debouncer.flushing = false ∧ s₁.debouncer.stopped = false := by
  obtain ⟨stats, interval, rfl⟩ := new_eq hnew
  unfold Session.start at hstart
  simp only [Bool.false_eq_true, if_false] at hstart
  cases hspecs : config.compileSources env.engine.registry with
  | error f => simp [hspecs] at hstart
  | ok specs =>
    simp only [hspecs] at hstart
    cases hcheck : Index.checkSpecs env.engine.registry specs with
    | error f => simp [Index.ingest, hcheck] at hstart
    | ok u =>
      rcases hing : (Index.empty stats : Index ν).ingest env.engine t specs with ⟨i, f | r⟩
      · simp [hing] at hstart
      · simp only [hing] at hstart
        split at hstart
        · simp at hstart
        · rename_i s₂ u hwatch
          simp only [Prod.mk.injEq, Except.ok.injEq] at hstart
          obtain ⟨rfl, rfl⟩ := hstart
          obtain ⟨h₁, h₂, h₃, more, hmore, h₄⟩ := watchAll_spec hwatch
          simp only [Session.noteWatching, h₁, h₂, h₃, h₄]
          refine ⟨hcheck, ⟨Index.empty stats, rfl, by rw [hing], by rw [hing]⟩, by
            simpa using hmore, ?_⟩
          exact ⟨trivial, trivial, trivial⟩

theorem tended_start {config : Config} {env : Surroundings ν} {t : FileTree} {s₀ s₁ : Session ν}
    {report : Report} (hnew : Session.new config = .ok s₀)
    (hstart : s₀.start env t = (s₁, .ok report)) (he : env.engine = e) (hspecs : s₁.specs = specs)
    (hr : ∀ id, e.refuse id = none) (hb : ∀ spec ∈ specs, e.registry.Builtin spec.strategy)
    (hg : Grounded known t) (ha : Apart known t specs)
    (hsurvey : Surveyed known t specs) : Tended known e specs (.initial s₁ t) := by
  subst he hspecs
  obtain ⟨hcheck, ⟨i, hi, hstore, -⟩, hsub, hp, hf, hs⟩ := start_spec hnew hstart
  obtain ⟨-, hd, hmem⟩ := Index.mem_ingest hr hg hb ha hsurvey hcheck hi
  rw [← hstore] at hd
  simp only [← hstore] at hmem
  refine ⟨?_, rfl, hsub, hf, hs⟩
  have hu : ∀ path, (World.initial s₁ t).standing.untold path = [] := by
    intro path
    simp [Standing.untold, World.standing, World.initial, hp]
  constructor
  · exact hg
  · exact ha
  · intro q hq
    obtain ⟨path, hk, hexp⟩ := (hmem q).mp hq
    exact ⟨path, hk, Index.expected_spec hg hb hk hexp⟩
  · exact hd
  · intro x hx
    simp [World.standing, World.initial, hp] at hx
  · simp [World.standing, World.initial, hp]
  · intro x hx
    simp [World.standing, World.initial] at hx
  · intro path _ kind hlast
    simp [hu] at hlast
  · intro path hk _
    refine ⟨fun q => ?_, fun q hq => by simp [World.standing, World.initial] at hq⟩
    simp only [World.standing, World.initial, List.not_mem_nil, or_false]
    rw [hmem]
    constructor
    · rintro ⟨⟨path', hk', hexp⟩, hisof⟩
      obtain rfl := PointStore.isOf_unique hisof (Index.expected_spec hg hb hk' hexp).1
      exact hexp
    · exact fun hexp => ⟨⟨path, hk, hexp⟩, (Index.expected_spec hg hb hk hexp).1⟩
  · exact fun path _ _ => .refl _ _
  · exact fun _ _ => rfl
  · refine fun _ => ⟨fun _ => rfl, fun path hk => ⟨?_, fun tail htail => ?_⟩⟩
    · rw [hu]
      exact .nil
    · simp [hu] at htail

/-! ## The end of a run -/

theorem pending_flush (ht : Tended known e specs w) :
    (w.flush e).session.debouncer.pending = [] := by
  have : (w.flush e).session.debouncer = w.session.debouncer.beginFlush.endFlush
      w.session.debouncer.pending.length := by
    simp only [World.flush, Session.flush, Session.withDebounced]
    rw [Debouncer.flush_quiet (quiet_handler e w.tree) ht.flushing]
  rw [this, Debouncer.pending_endFlush]
  rfl

/-- Whether the packages around each file are those around it when it was last looked at. -/
def World.SamePackages (known : String → Prop) (w : World ν) : Prop :=
  ∀ path, known path → (w.account.seen path).nameAt path = w.tree.nameAt path

/-- An index with no events to follow stores what its files
should have, and what was left in place. -/
theorem settled_of_still (hb : ∀ spec ∈ specs, e.registry.Standard spec.strategy)
    (ht : Tended known e specs w) (hf : w.flight = []) (hp : w.session.debouncer.pending = [])
    (hn : w.SamePackages known) {path : String} (hk : known path) :
    (∀ q, q ∈ w.session.index.store ∧ isOf path q = true ↔
        Expected e w.tree specs path q ∨ q ∈ w.account.left path) ∧
      ∀ q ∈ w.account.left path, ¬ Expected e w.tree specs path q := by
  have hg := ht.good
  have hu : w.standing.untold path = [] := by simp [Standing.untold, World.standing, hf, hp]
  have hexp : ∀ q, Expected e (w.account.seen path) specs path q ↔ Expected e w.tree specs path q :=
    (hg.unchanged path hk hu).expected hg.grounded hb hk (hn path hk)
  obtain ⟨h₁, h₂⟩ := hg.settled path hk hu
  exact ⟨fun q => (h₁ q).trans (or_congr_left (hexp q)), fun q hq h => h₂ q hq ((hexp q).mpr h)⟩

theorem left_eq_nil_iff (hb : ∀ spec ∈ specs, e.registry.Standard spec.strategy)
    (ht : Tended known e specs w) (hf : w.flight = []) (hp : w.session.debouncer.pending = [])
    (hn : w.SamePackages known) :
    (∀ q, q ∈ w.session.index.store ↔ ∃ path, known path ∧ Expected e w.tree specs path q) ↔
      ∀ path, w.account.left path = [] := by
  have hg := ht.good
  have hbuiltin : ∀ spec ∈ specs, e.registry.Builtin spec.strategy := fun spec hs =>
    (hb spec hs).builtin
  have hof : ∀ {path q}, known path → Expected e w.tree specs path q → isOf path q = true :=
    fun hk h => (Index.expected_spec hg.grounded hbuiltin hk h).1
  constructor
  · intro h path
    by_cases hk : known path
    · refine List.eq_nil_iff_forall_not_mem.mpr fun q hq => ?_
      obtain ⟨hs, hnot⟩ := settled_of_still hb ht hf hp hn hk
      obtain ⟨hstore, hisof⟩ := (hs q).mpr (.inr hq)
      obtain ⟨path', hk', hexp⟩ := (h q).mp hstore
      obtain rfl := PointStore.isOf_unique hisof (hof hk' hexp)
      exact hnot q hq hexp
    · exact hg.elsewhere path hk
  · intro h q
    constructor
    · intro hq
      obtain ⟨path, hk, hisof, -⟩ := hg.stored q hq
      have := ((settled_of_still hb ht hf hp hn hk).1 q).mp ⟨hq, hisof⟩
      simp only [h, List.not_mem_nil, or_false] at this
      exact ⟨path, hk, this⟩
    · rintro ⟨path, hk, hexp⟩
      exact (((settled_of_still hb ht hf hp hn hk).1 q).mpr (.inl hexp)).1

/-- A session whose subscriptions are told of every change of their files, in whatever rhythm,
stores after a flush exactly what ingesting the final files would store if and only if no file has
old points that its last event left in place; and none has, unless a file appeared while the removal
of its stored points was held back. The packages around a file must not have changed since it was
last looked at, for no event tells of that. -/
theorem index_converges {config : Config} {env : Surroundings ν} {t : FileTree} {s₀ s₁ : Session ν}
    {report : Report} {w : World ν} (hnew : Session.new config = .ok s₀)
    (hstart : s₀.start env t = (s₁, .ok report)) (hr : ∀ id, env.engine.refuse id = none)
    (hb : ∀ spec ∈ s₁.specs, env.engine.registry.Standard spec.strategy) (hg : Grounded known t)
    (ha : Apart known t s₁.specs) (hsurvey : Surveyed known t s₁.specs)
    (hrun : Relation.ReflTransGen (World.Next known env.engine) (.initial s₁ t) w)
    (hf : w.flight = []) (hend : Surveyed known w.tree s₁.specs)
    (hn : (w.flush env.engine).SamePackages known) (stats : Stats) :
    ∃ fresh result, (Index.empty stats).ingest env.engine w.tree s₁.specs = (fresh, .ok result) ∧
      ((w.session.flush env.engine w.tree).1.index.store.Perm fresh.store ↔
        ∀ path, (w.flush env.engine).account.left path = []) ∧
      (w.overtaken = false → (w.session.flush env.engine w.tree).1.index.store.Perm
        fresh.store) := by
  have hbuiltin : ∀ spec ∈ s₁.specs, env.engine.registry.Builtin spec.strategy :=
    fun spec hspec => (hb spec hspec).builtin
  have ht := tended_run hr hb (tended_start hnew hstart rfl rfl hr hbuiltin hg ha hsurvey) hrun
  have ht' := tended_next hr hb ht .flush
  have hgrounded : Grounded known w.tree := ht.good.grounded
  have hapart : Apart known w.tree s₁.specs := ht.good.apart
  have hdistinct : (w.session.flush env.engine w.tree).1.index.store.Distinct := ht'.good.distinct
  have hleft := left_eq_nil_iff hb ht' hf (pending_flush ht) hn
  obtain ⟨⟨result, hres⟩, hd, hmem⟩ := Index.mem_ingest hr hgrounded hbuiltin hapart hend
    (start_spec hnew hstart).1 (i := Index.empty stats) rfl
  have hperm : (w.session.flush env.engine w.tree).1.index.store.Perm
      ((Index.empty stats).ingest env.engine w.tree s₁.specs).1.store ↔
        ∀ path, (w.flush env.engine).account.left path = [] := by
    rw [List.perm_ext_iff_of_nodup hdistinct.nodup hd.nodup, ← hleft]
    simp only [hmem]
    rfl
  exact ⟨_, result, Prod.ext rfl hres, hperm, fun ho => hperm.mpr (ht'.good.orderly ho).1⟩

/-! ## A file that appears again -/

namespace Sole

def holding (bytes : List UInt8) : FileTree := ⟨[(["a"], .file ⟨bytes.toArray⟩)], []⟩

def bare : FileTree := ⟨[], []⟩

/-- Windows of two characters that overlap by one. -/
def windows : Entries := [("chunk_size", .int 2), ("chunk_overlap", .int 1)]

def spec : Spec := ⟨"/a", [.literal "/a"], "/a", "chunked", windows, [], true⟩

def config : Config where
  watch := { enabled := true }
  ingestion := { encoding := "latin-1" }
  sources := [⟨"/a", "chunked", none, windows⟩]

def env : Surroundings Unit where
  engine := ⟨Registry.builtin CodeElement.analyzeModule, fun _ => .ok (), fun _ => none, "latin-1"⟩
  refuseRoot := fun _ => none

def idle : Session Unit where
  config := config
  index := .empty { maxFailures := 20, maxSources := 100 }
  debouncer := { interval := 500 }

/-- The session that starts with a file of three characters. -/
def started : Session Unit := (idle.start env (holding [97, 98, 99])).1

/-- The file as it belongs to the spec. -/
def found : MatchedFile := ⟨"/a", [], [], some spec⟩

/-- A change of the file whose event has arrived. -/
def told (t : FileTree) (kind : String) (w : World Unit) : World Unit :=
  { w with tree := t, flight := [(spec, ⟨kind, "/a"⟩)] }.deliver spec ⟨kind, "/a"⟩ []

/-- The file is removed and appears again with one character. -/
def replaced : World Unit :=
  told (holding [100]) "create" (told bare "delete" (.initial started (holding [97, 98, 99])))

theorem linkless_bare : bare.Linkless := by
  intro place target h
  unfold FileTree.entry? at h
  split_ifs at h
  · simp at h
  · simp [bare] at h

theorem linkless_holding (bytes : List UInt8) : (holding bytes).Linkless := by
  intro place target h
  unfold FileTree.entry? at h
  split_ifs at h
  · simp at h
  · simp only [holding, List.lookup] at h
    split at h <;> simp at h

theorem grounded_bare : Grounded (· = "/a") bare :=
  ⟨by rintro _ rfl; decide +kernel, clashFree_of_no_hash (by rintro _ rfl; decide)⟩

/-- A spec that takes the one file and no others. -/
structure Direct (s : Spec) : Prop where
  segments : s.segments = [.literal "/a"]
  metadata : s.metadata = []

theorem direct_spec : Direct spec := ⟨rfl, rfl⟩

section Direct

variable {s : Spec} (hs : Direct s)

include hs

theorem Direct.program {t : FileTree} (h : t.Linkless) :
    s.program t = .ok ([.literal "/a"], ⟨.seq (.text ['/', 'a']) .empty, []⟩) := by
  have hsteady : Steady (· = "/a") [s] bare t := .of_linkless grounded_bare linkless_bare h
  have hbare : spec.program bare = .ok ([.literal "/a"], ⟨.seq (.text ['/', 'a']) .empty, []⟩) := by
    cbv
  rw [hsteady.program s (by simp), ← hbare, Spec.program, Spec.program, hs.segments]
  rfl

theorem Direct.matchCanonical :
    s.matchCanonical ⟨.seq (.text ['/', 'a']) .empty, []⟩ "/a" = some ⟨"/a", [], [], some s⟩ := by
  have hmatch : (⟨.seq (.text ['/', 'a']) .empty, []⟩ : Pattern.Program).fullMatch "/a".toList =
      some [] := by decide +kernel
  rw [Spec.matchCanonical, hs.metadata, hmatch]
  rfl

theorem Direct.matchPath {t : FileTree} (h : t.Linkless) :
    s.matchPath t "/a" = .ok (some ⟨"/a", [], [], some s⟩) := by
  have hcanonical : t.canonical "/a" = .ok "/a" :=
    (h.canonical_eq linkless_bare "/a").trans (grounded_bare.canonical "/a" rfl)
  rw [Spec.matchPath, hs.program h, hcanonical]
  simp only [Except.map, hs.matchCanonical]

theorem Direct.matchFiles (bytes : List UInt8) :
    s.matchFiles (holding bytes) = .ok [⟨"/a", [], [], some s⟩] := by
  have hclean : Path.clean "/a" = "/a" := by decide +kernel
  have hat : (holding bytes).at? "/a" = .ok (["a"], .file ⟨bytes.toArray⟩) := by cbv
  have hcanonical : (holding bytes).canonical "/a" = .ok "/a" :=
    ((linkless_holding bytes).canonical_eq linkless_bare "/a").trans
      (grounded_bare.canonical "/a" rfl)
  simp [Spec.matchFiles, hs.program (linkless_holding bytes), PathSpec.baseOf, hclean,
    FileTree.isTooLong, hat, Spec.candidates, FileTree.isFile, Spec.matchAll, hcanonical,
    hs.matchCanonical, Except.map]

theorem Direct.watchTarget (bytes : List UInt8) :
    s.watchTarget (holding bytes) = .ok ("/", false) := by
  have h : spec.watchTarget (holding bytes) = .ok ("/", false) := by cbv
  rwa [Spec.watchTarget, ← hs.segments.trans direct_spec.segments.symm] at h

end Direct

theorem surveyed_of_direct {specs : List Spec} (hs : ∀ s ∈ specs, Direct s) (bytes : List UInt8) :
    Surveyed (· = "/a") (holding bytes) specs := by
  intro s hmem
  refine ⟨_, (hs s hmem).matchFiles bytes, by simp, ?_⟩
  rintro path m rfl - hm
  rw [(hs s hmem).matchPath (linkless_holding bytes)] at hm
  simp_all

theorem grounded_holding (bytes : List UInt8) : Grounded (· = "/a") (holding bytes) := by
  have hsteady : Steady (· = "/a") [spec] bare (holding bytes) :=
    .of_linkless grounded_bare linkless_bare (linkless_holding bytes)
  exact ⟨hsteady.canonical, grounded_bare.clashFree⟩

theorem watchAll_of_direct {specs : List Spec} (hd : ∀ s ∈ specs, Direct s ∧ s.watch = true)
    (bytes : List UInt8) (session : Session Unit) : ∃ session',
      session.watchAll env (holding bytes) specs = (session', .ok ()) ∧
      session'.specs = session.specs ∧
      session'.subscriptions.map (·.spec) = session.subscriptions.map (·.spec) ++ specs := by
  induction specs generalizing session with
  | nil => exact ⟨session, rfl, rfl, by simp⟩
  | cons s rest ih =>
    obtain ⟨hs, hwatch⟩ := hd s List.mem_cons_self
    have hrefuse : env.refuseRoot "/" = none := rfl
    obtain ⟨session', hrest, hspecs, hsubs⟩ := ih (fun s hs => hd s (List.mem_cons_of_mem _ hs))
      (session.watch env (holding bytes) s).1
    refine ⟨session', ?_, ?_, ?_⟩
    · rw [← hrest]
      simp [Session.watchAll, Session.watch, hwatch, hs.watchTarget, hrefuse]
    · rw [hspecs]
      simp [Session.watch, hwatch, hs.watchTarget, hrefuse]
    · rw [hsubs]
      simp [Session.watch, hwatch, hs.watchTarget, hrefuse]

theorem start_of_direct {session : Session Unit} {specs : List Spec}
    (hstarted : session.started = false)
    (hstore : session.index.store = []) (hsubs : session.subscriptions = [])
    (hspecs : session.config.compileSources env.engine.registry = .ok specs)
    (hcheck : Index.checkSpecs env.engine.registry specs = .ok ())
    (hd : ∀ s ∈ specs, Direct s ∧ s.watch = true) (bytes : List UInt8) :
    ∃ report, session.start env (holding bytes) =
      ((session.start env (holding bytes)).1, .ok report) ∧
      (session.start env (holding bytes)).1.specs = specs ∧
      (session.start env (holding bytes)).1.subscriptions.map (·.spec) = specs := by
  obtain ⟨⟨report, hreport⟩, -, -⟩ := Index.sound_ingest (fun _ => rfl) (grounded_holding bytes)
    (fun s _ => (Registry.standard_builtin s.strategy).builtin)
    (surveyed_of_direct (fun s hs => (hd s hs).1) bytes) hcheck hstore
  obtain ⟨session', hwatch, hsame, hall⟩ := watchAll_of_direct hd bytes
    { session with
    specs := specs, index := (session.index.ingest env.engine (holding bytes) specs).1 }
  have hstart : session.start env (holding bytes) =
      ({ session'.noteWatching (!session'.watched.isEmpty) session'.watched with started := true },
        .ok report) := by
    unfold Session.start
    rw [if_neg (by simp [hstarted])]
    simp only [hspecs, hreport, hwatch]
  rw [hstart]
  exact ⟨report, rfl, hsame, by simp [Session.noteWatching, hall, hsubs]⟩

theorem matchPath_spec {t : FileTree} (h : t.Linkless) : spec.matchPath t "/a" = .ok (some found) :=
  direct_spec.matchPath h

theorem takes_spec {t : FileTree} (h : t.Linkless) : spec.takes t "/a" = true :=
  Spec.takes_iff.mpr ⟨found, matchPath_spec h⟩

theorem matchFiles_holding (bytes : List UInt8) : spec.matchFiles (holding bytes) = .ok [found] :=
  direct_spec.matchFiles bytes

theorem surveyed_holding (bytes : List UInt8) : Surveyed (· = "/a") (holding bytes) [spec] :=
  surveyed_of_direct (fun _ hs => List.mem_singleton.mp hs ▸ direct_spec) bytes

theorem apart_spec (t : FileTree) : Apart (· = "/a") t [spec] := List.pairwise_singleton _ _

theorem new_config : Session.new config = .ok idle := rfl

theorem compile_config : config.compileSources env.engine.registry = .ok [spec] := by
  change Source.compileAll env.engine.registry true [⟨"/a", "chunked", none, windows⟩] = .ok [spec]
  decide +kernel

theorem check_spec : Index.checkSpecs env.engine.registry [spec] = .ok () := by decide +kernel

theorem start_idle : ∃ report, idle.start env (holding [97, 98, 99]) = (started, .ok report) ∧
    started.specs = [spec] ∧ started.subscriptions.map (·.spec) = [spec] :=
  start_of_direct rfl rfl rfl compile_config check_spec
    (fun _ hs => List.mem_singleton.mp hs ▸ ⟨direct_spec, rfl⟩) [97, 98, 99]

/-- What stays as it is while changes of the file are told. -/
structure Ready (w : World Unit) : Prop where
  linkless : w.tree.Linkless
  flight : w.flight = []
  specs : w.session.specs = [spec]
  subscribed : w.subscribed = [spec]
  stopped : w.session.debouncer.stopped = false
  flushing : w.session.debouncer.flushing = false
  store : w.session.index.store = started.index.store

theorem ready_started : Ready (.initial started (holding [97, 98, 99])) := by
  obtain ⟨report, hstart, hspecs, hsub⟩ := start_idle
  obtain ⟨-, -, -, hp, hf, hs⟩ := start_spec new_config hstart
  exact ⟨linkless_holding _, rfl, hspecs, hsub, hs, hf, rfl⟩

theorem told_spec {w : World Unit} (h : Ready w) {t : FileTree} (ht : t.Linkless) (kind : String) :
    Ready (told t kind w) ∧ (told t kind w).session.debouncer.pending =
      Debouncer.hold ⟨kind, "/a", spec⟩ w.session.debouncer.pending := by
  have hreceive := Session.receive_of_matchPath w.session ⟨kind, "/a"⟩ (matchPath_spec ht)
  constructor
  · refine ⟨ht, rfl, ?_, ?_, ?_, ?_, ?_⟩
    · simp only [told, World.deliver, hreceive, h.specs]
    · simp only [told, World.deliver, World.subscribed, hreceive]
      exact h.subscribed
    · simp only [told, World.deliver, hreceive, Debouncer.stopped_submit, h.stopped]
    · simp only [told, World.deliver, hreceive, Debouncer.flushing_submit, h.flushing]
    · simp only [told, World.deliver, hreceive, h.store]
  · simp only [told, World.deliver, hreceive, Debouncer.pending_submit _ h.stopped]

theorem next_told {w : World Unit} (h : Ready w) (hg : Grounded (· = "/a") w.tree) {t : FileTree}
    (ht : t.Linkless) {kind : String} {r : FileReport} (hr : r.events false = [⟨kind, "/a"⟩])
    (hc : Change (· = "/a") w.tree t r) : Relation.ReflTransGen (World.Next (· = "/a") env.engine) w
      (told t kind w) := by
  have hsent : deliveries w.subscribed t (r.events false) = [(spec, ⟨kind, "/a"⟩)] := by
    simp [deliveries, hr, h.subscribed, takes_spec ht]
  have hchange := World.Next.change (e := env.engine) (.of_linkless hg h.linkless ht) hc
    (fun event _ s hs _ => by rwa [h.subscribed, ← h.specs])
  rw [hsent, h.flight, List.nil_append] at hchange
  exact .tail (.single hchange) (.deliver rfl)

theorem content_bare : bare.content "/a" = none := by decide +kernel

theorem content_holding (bytes : List UInt8) : (holding bytes).content "/a" ≠ none := by
  have : (holding bytes).content "/a" = some ⟨bytes.toArray⟩ := by cbv
  simp [this]

theorem reach_replaced : Ready replaced ∧
    replaced.session.debouncer.pending = [⟨"create", "/a", spec⟩] ∧
    Relation.ReflTransGen (World.Next (· = "/a") env.engine)
      (.initial started (holding [97, 98, 99]))
      replaced := by
  obtain ⟨report, hstart, -, -⟩ := start_idle
  obtain ⟨-, -, -, hp, -, -⟩ := start_spec new_config hstart
  obtain ⟨hgone, hpgone⟩ := told_spec ready_started linkless_bare "delete"
  obtain ⟨hback, hpback⟩ := told_spec hgone (linkless_holding [100]) "create"
  have hremove : Change (· = "/a") (holding [97, 98, 99]) bare (.deleted "/a") :=
    .remove rfl (content_holding _) content_bare fun _ h hne => absurd h hne
  have hcreate : Change (· = "/a") bare (holding [100]) (.created "/a") :=
    .create rfl content_bare (content_holding _) fun _ h hne => absurd h hne
  refine ⟨hback, ?_, .trans (next_told ready_started (grounded_holding _) linkless_bare rfl hremove)
    (next_told hgone grounded_bare (linkless_holding [100]) rfl hcreate)⟩
  have hpstart : (World.initial started (holding [97, 98, 99])).session.debouncer.pending = [] := hp
  rw [replaced, hpback, hpgone, hpstart]
  rfl

theorem samePackages_replaced : (replaced.flush env.engine).SamePackages (· = "/a") := by
  obtain ⟨hready, hpend, -⟩ := reach_replaced
  have hseen : (replaced.flush env.engine).account.seen "/a" = replaced.tree := by
    simp only [World.flush, Debouncer.flush_quiet (quiet_tracking _ _) hready.flushing, hpend]
    rfl
  rintro path rfl
  rw [hseen]
  rfl

/-- Whether the index converges here depends on what is left in place. -/
theorem replaced_converges_iff : ∃ fresh result,
    (Index.empty idle.index.stats).ingest env.engine replaced.tree started.specs =
      (fresh, .ok result) ∧
      ((replaced.session.flush env.engine replaced.tree).1.index.store.Perm fresh.store ↔
        ∀ path, (replaced.flush env.engine).account.left path = []) ∧
      (replaced.overtaken = false →
        (replaced.session.flush env.engine replaced.tree).1.index.store.Perm fresh.store) := by
  obtain ⟨report, hstart, hspecs, -⟩ := start_idle
  obtain ⟨hready, -, hrun⟩ := reach_replaced
  refine index_converges new_config hstart (fun _ => rfl) (fun _ _ => Registry.standard_builtin _)
    (grounded_holding _) ?_ ?_ hrun hready.flight ?_ samePackages_replaced _
  · rw [hspecs]
    exact apart_spec _
  · rw [hspecs]
    exact surveyed_holding _
  · rw [hspecs]
    exact surveyed_holding _

theorem mem_ingest_holding {i : Index Unit} (hi : i.store = []) (bytes : List UInt8) :
    Distinct (i.ingest env.engine (holding bytes) [spec]).1.store ∧
      ∀ q, q ∈ (i.ingest env.engine (holding bytes) [spec]).1.store ↔
        q ∈ env.engine.pointsFor (holding bytes) spec found := by
  obtain ⟨-, hd, hmem⟩ := Index.mem_ingest (fun _ => rfl) (grounded_holding bytes)
    (fun _ _ => (Registry.standard_builtin _).builtin) (apart_spec _) (surveyed_holding bytes)
    check_spec hi
  refine ⟨hd, fun q => ?_⟩
  simp [hmem, Expected, matchPath_spec (linkless_holding bytes)]

theorem store_replaced : (replaced.session.flush env.engine replaced.tree).1.index.store =
    PointStore.upsertAll (env.engine.pointsFor (holding [100]) spec found) started.index.store := by
  obtain ⟨hready, hpend, -⟩ := reach_replaced
  simp only [Session.flush, Debouncer.flush_quiet (quiet_handler _ _) hready.flushing, hpend,
    Session.withDebounced, Handler.worldAfter, List.foldl_cons, List.foldl_nil, store_handler,
    ← hready.store]
  rw [Index.store_reindex_content (fun _ => rfl) (.inl rfl) (matchPath_spec hready.linkless)]
  rfl

theorem ids_removed : (env.engine.pointsFor (holding [97, 98, 99]) spec found).map (·.id) =
    ["/a#0", "/a#1", "/a#2"] := by
  decide +kernel

theorem ids_replaced :
    (env.engine.pointsFor (holding [100]) spec found).map (·.id) = ["/a#0"] := by
  decide +kernel

/-- A point of the removed file stays. -/
theorem replaced_diverges :
    Relation.ReflTransGen (World.Next (· = "/a") env.engine)
      (.initial started (holding [97, 98, 99])) replaced ∧
      replaced.flight = [] ∧ ¬ (replaced.session.flush env.engine replaced.tree).1.index.store.Perm
        ((Index.empty idle.index.stats).ingest env.engine replaced.tree started.specs).1.store := by
  obtain ⟨report, hstart, hspecs, -⟩ := start_idle
  obtain ⟨hready, -, hrun⟩ := reach_replaced
  refine ⟨hrun, hready.flight, fun h => ?_⟩
  obtain ⟨q, hq, hid⟩ :
      ∃ q ∈ env.engine.pointsFor (holding [97, 98, 99]) spec found, q.id = "/a#2" := by
    rw [← List.mem_map, ids_removed]
    decide
  have hnew : ∀ p ∈ env.engine.pointsFor (holding [100]) spec found, p.id ≠ "/a#2" := by
    intro p hp
    have := List.mem_map_of_mem (f := (·.id)) hp
    rw [ids_replaced, List.mem_singleton] at this
    rw [this]
    decide
  obtain ⟨-, ⟨i, hi, hstore, -⟩, -⟩ := start_spec new_config hstart
  rw [hspecs] at hstore
  obtain ⟨hd, hmem⟩ := mem_ingest_holding hi [97, 98, 99]
  rw [← hstore] at hd
  simp only [← hstore] at hmem
  have hkept : q ∈ (replaced.session.flush env.engine replaced.tree).1.index.store := by
    rw [store_replaced, PointStore.mem_upsertAll_iff hd
      (Engine.pointsFor_spec (Registry.standard_builtin _).builtin).2]
    exact .inr ⟨(hmem q).mpr hq, fun p hp h => hnew p hp (h.symm.trans hid)⟩
  have hfresh := h.mem_iff.mp hkept
  rw [hspecs] at hfresh
  exact hnew q (((mem_ingest_holding rfl [100]).2 q).mp hfresh) hid

end Sole

end SegmentIndex
