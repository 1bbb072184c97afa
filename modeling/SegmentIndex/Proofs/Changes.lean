import SegmentIndex.Proofs.Standing

/-!
# Changes of files

When files change, the events about it set out to the specs that the files belong to. Events that
say truly how the files changed leave the index as far behind its files as the events to come.
-/
namespace SegmentIndex

open PointStore (isOf)

variable {ν : Type} {known : String → Prop} {e : Engine ν} {specs : List Spec} {s : Standing ν}

/-- Whether links and the reach of specs stay as they are while files change. -/
structure Steady (known : String → Prop) (specs : List Spec) (t t' : FileTree) : Prop where
  canonical : ∀ path, known path → t'.canonical path = .ok path
  program : ∀ spec ∈ specs, spec.program t' = spec.program t

/-- Whether events say truly how files have changed, at most one event for each file. -/
structure Faithful (known : String → Prop) (t t' : FileTree) (events : List FileEvent) : Prop where
  once : (events.map (·.path)).Nodup
  kinds : ∀ x ∈ events, known x.path ∧ x.kind ∈ Index.eventKinds
  gone : ∀ x ∈ events, x.kind = "delete" ↔ t'.content x.path = none
  fresh : ∀ x ∈ events, x.kind = "create" → t.content x.path = none
  others : ∀ path, known path → path ∉ events.map (·.path) → t'.content path = t.content path

/-- The deliveries of events to the specs that their files belong to. -/
def deliveries (subscribed : List Spec) (t : FileTree) (events : List FileEvent) :
    List (Spec × FileEvent) :=
  events.flatMap fun x => (subscribed.filter fun spec => spec.takes t x.path).map fun spec =>
    (spec, x)

theorem Steady.matchPath {t t' : FileTree} (h : Steady known specs t t') (hg : Grounded known t)
    {spec : Spec} (hs : spec ∈ specs) {path : String} (hk : known path) :
    spec.matchPath t' path = spec.matchPath t path := by
  simp only [Spec.matchPath, h.program spec hs, h.canonical path hk, hg.canonical path hk]

theorem Steady.takes {t t' : FileTree} (h : Steady known specs t t') (hg : Grounded known t)
    {spec : Spec} (hs : spec ∈ specs) {path : String} (hk : known path) :
    spec.takes t' path = spec.takes t path := by
  simp only [Spec.takes, h.matchPath hg hs hk]

namespace FileTree

/-- Whether there are no links among the files. -/
def Linkless (t : FileTree) : Prop := ∀ place target, t.entry? place ≠ some (.link target)

theorem Linkless.canonicalFrom_eq {t t' : FileTree} (h : t.Linkless) (h' : t'.Linkless)
    {names : List String} {fuel fuel' : Nat} (hf : names.length < fuel) (hf' : names.length < fuel')
    (seen : List (Location × Option Location)) (place : Location) :
    t.canonicalFrom fuel seen place names = t'.canonicalFrom fuel' seen place names := by
  induction names generalizing fuel fuel' place with
  | nil =>
    obtain ⟨n, rfl⟩ := Nat.exists_eq_succ_of_ne_zero (Nat.ne_of_gt hf)
    obtain ⟨n', rfl⟩ := Nat.exists_eq_succ_of_ne_zero (Nat.ne_of_gt hf')
    rfl
  | cons name rest ih =>
    obtain ⟨n, rfl⟩ := Nat.exists_eq_succ_of_ne_zero (Nat.ne_zero_of_lt hf)
    obtain ⟨n', rfl⟩ := Nat.exists_eq_succ_of_ne_zero (Nat.ne_zero_of_lt hf')
    have hn : rest.length < n := Nat.lt_of_succ_lt_succ hf
    have hn' : rest.length < n' := Nat.lt_of_succ_lt_succ hf'
    simp only [canonicalFrom]
    split_ifs
    · exact ih hn hn' place
    · exact ih hn hn' place.dropLast
    · rfl
    · split
      · exact absurd ‹_› (h _ _)
      · split
        · exact absurd ‹_› (h' _ _)
        · exact ih hn hn' _

theorem Linkless.canonical_eq {t t' : FileTree} (h : t.Linkless) (h' : t'.Linkless)
    (path : String) :
    t.canonical path = t'.canonical path := by
  have hfrom : t.canonicalLocation path = t'.canonicalLocation path := by
    refine congrArg (Except.map (·.location)) (h.canonicalFrom_eq h' ?_ ?_ _ _) <;> omega
  simp only [canonical, hfrom]

end FileTree

theorem Steady.of_linkless {t t' : FileTree} (hg : Grounded known t) (h : t.Linkless)
    (h' : t'.Linkless) :
    Steady known specs t t' where
  canonical := fun path hk => (h'.canonical_eq h path).trans (hg.canonical path hk)
  program := fun spec _ => by simp only [Spec.program, PathSpec.canonicalTokens, h'.canonical_eq h]

theorem Apart.filter {t : FileTree} (ha : Apart known t specs) {path : String} (hk : known path) :
    specs.filter (fun spec => spec.takes t path) = [] ∨
      ∃ spec, specs.filter (fun spec => spec.takes t path) = [spec] := by
  induction specs with
  | nil => exact .inl rfl
  | cons a rest ih =>
    rw [Apart, List.pairwise_cons] at ha
    cases ht : a.takes t path with
    | false =>
      rw [List.filter_cons_of_neg (by simp [ht])]
      exact ih ha.2
    | true =>
      refine .inr ⟨a, ?_⟩
      rw [List.filter_cons_of_pos ht, List.filter_eq_nil_iff.mpr fun b hb htb =>
        ha.1 b hb path hk ⟨ht, htb⟩]

theorem filter_deliveries (subscribed : List Spec) (t : FileTree) (events : List FileEvent)
    (path : String) :
    (deliveries subscribed t events).filter (·.2.path = path) =
      deliveries subscribed t (events.filter (·.path = path)) := by
  induction events with
  | nil => rfl
  | cons x rest ih =>
    have hx : deliveries subscribed t (x :: rest) =
        (subscribed.filter fun spec => spec.takes t x.path).map (fun spec => (spec, x)) ++
          deliveries subscribed t rest := rfl
    rw [hx, List.filter_append, ih, List.filter_map]
    by_cases h : x.path = path
    · simp [h, deliveries, Function.comp_def]
    · simp [h, Function.comp_def]

theorem filter_path {events : List FileEvent} (hn : (events.map (·.path)).Nodup) {x : FileEvent}
    (hx : x ∈ events) : events.filter (·.path = x.path) = [x] := by
  induction events with
  | nil => simp at hx
  | cons y rest ih =>
    rw [List.map_cons, List.nodup_cons] at hn
    rcases List.mem_cons.mp hx with rfl | hx
    · rw [List.filter_cons_of_pos (by simp), List.filter_eq_nil_iff.mpr fun z hz hp =>
        hn.1 (List.mem_map.mpr ⟨z, hz, by simpa using hp⟩)]
    · have hne : ¬ y.path = x.path := fun h => hn.1 (h ▸ List.mem_map_of_mem hx)
      rw [List.filter_cons_of_neg (by simpa using hne), ih hn.2 hx]

/-- What sets out about a file: its event if it has one and belongs to a spec, else nothing. -/
theorem kinds_deliveries {t t' : FileTree} {events : List FileEvent}
    (hf : Faithful known t t' events) {subscribed : List Spec} (ha : Apart known t' subscribed)
    (hwatch : ∀ x ∈ events, ∀ spec ∈ specs, spec.takes t' x.path = true → spec ∈ subscribed)
    {path : String} (hk : known path) :
    (((deliveries subscribed t' events).filter (·.2.path = path)).map (·.2.kind) = [] ∧
        (path ∉ events.map (·.path) ∨ ∀ spec ∈ specs, spec.takes t' path = false)) ∨
      ∃ x ∈ events, x.path = path ∧
        ((deliveries subscribed t' events).filter (·.2.path = path)).map (·.2.kind) = [x.kind] := by
  rw [filter_deliveries]
  by_cases hx : path ∈ events.map (·.path)
  · obtain ⟨x, hmem, rfl⟩ := List.mem_map.mp hx
    rw [filter_path hf.once hmem]
    rcases ha.filter hk with h | ⟨spec, h⟩
    · refine .inl ⟨by simp [deliveries, h], .inr fun spec hs => ?_⟩
      by_contra ht
      have ht : spec.takes t' x.path = true := by simpa using ht
      have := List.filter_eq_nil_iff.mp h spec (hwatch x hmem spec hs ht)
      exact this ht
    · exact .inr ⟨x, hmem, rfl, by simp [deliveries, h]⟩
  · refine .inl ⟨?_, .inl hx⟩
    have : events.filter (fun y => y.path = path) = [] := by
      rw [List.filter_eq_nil_iff]
      intro y hy hp
      exact hx (List.mem_map.mpr ⟨y, hy, by simpa using hp⟩)
    rw [this]
    rfl

theorem untold_change (s : Standing ν) (t : FileTree) (sent : List (Spec × FileEvent))
    (path : String) :
    (s.change t sent).untold path =
      s.untold path ++ (sent.filter (·.2.path = path)).map (·.2.kind) := by
  simp [Standing.untold, Standing.change]

theorem untold_eq_nil (hg : Good known e specs s) {path : String}
    (h : ∀ spec ∈ specs, spec.takes s.tree path = false) : s.untold path = [] := by
  simp only [Standing.untold, List.append_eq_nil_iff, List.map_eq_nil_iff, List.filter_eq_nil_iff,
    decide_eq_true_eq]
  constructor
  · rintro x hx rfl
    obtain ⟨-, -, hs, ht⟩ := hg.held x hx
    simp [h _ hs] at ht
  · rintro x hx rfl
    obtain ⟨-, -, hs, ht⟩ := hg.sent x hx
    simp [h _ hs] at ht

section Change

variable {t' : FileTree} {events : List FileEvent} {subscribed : List Spec}

theorem Apart.steady {t : FileTree} (ha : Apart known t specs) (hg : Grounded known t)
    (h : Steady known specs t t') : Apart known t' specs := by
  refine List.Pairwise.imp_of_mem (fun {a b} hma hmb hab path hk => ?_) ha
  rw [h.takes hg hma hk, h.takes hg hmb hk]
  exact hab path hk

theorem orderly_change (hg : Good known e specs s) (hover : s.overtaken = false)
    (hf : Faithful known s.tree t' events) {path : String} (hk : known path)
    (hsent : ((deliveries subscribed t' events).filter (·.2.path = path)).map (·.2.kind) = [] ∨
      ∃ x ∈ events, x.path = path ∧
        ((deliveries subscribed t' events).filter (·.2.path = path)).map (·.2.kind) = [x.kind]) :
    Orderly (s.change t' (deliveries subscribed t' events)) path := by
  obtain ⟨hleft, hord⟩ := hg.orderly hover
  obtain ⟨hchain, hhead⟩ := hord path hk
  have huntold := untold_change s t' (deliveries subscribed t' events) path
  rcases hsent with h | ⟨x, hx, rfl, h⟩
  · rw [h, List.append_nil] at huntold
    exact ⟨by rw [huntold]; exact hchain, by rw [huntold]; exact hhead⟩
  · rw [h] at huntold
    constructor
    · rw [huntold, List.isChain_append]
      refine ⟨hchain, List.isChain_singleton _, fun kind hkind b hb hc => ?_⟩
      obtain rfl : x.kind = b := by simpa using hb
      exact (hg.last _ hk kind hkind).mpr (hf.fresh x hx hc)
    · intro tail htail q hq
      rw [huntold] at htail
      cases hu : s.untold x.path with
      | nil =>
        rw [hu, List.nil_append] at htail
        have hc : x.kind = "create" := (List.cons.inj htail).1
        obtain ⟨hs, -⟩ := hg.settled _ hk hu
        by_contra hisof
        rcases (hs q).mp ⟨hq, by simpa using hisof⟩ with hexp | hl
        · exact (hg.unchanged _ hk hu).not_expected hg.grounded hk (hf.fresh x hx hc) q hexp
        · simp [hleft] at hl
      | cons kind rest =>
        rw [hu, List.cons_append] at htail
        obtain ⟨rfl, -⟩ := List.cons.inj htail
        exact hhead rest hu q hq

theorem good_change (hg : Good known e specs s) (hsteady : Steady known specs s.tree t')
    (hf : Faithful known s.tree t' events) (hsub : subscribed.Sublist specs)
    (hwatch : ∀ x ∈ events, ∀ spec ∈ specs, spec.takes t' x.path = true → spec ∈ subscribed) :
    Good known e specs (s.change t' (deliveries subscribed t' events)) := by
  have htakes : ∀ {spec path}, spec ∈ specs → known path →
      spec.takes t' path = spec.takes s.tree path :=
    fun hs hk => hsteady.takes hg.grounded hs hk
  have hapart := hg.apart.steady hg.grounded hsteady
  have hkinds : ∀ {path}, known path → _ := fun hk =>
    kinds_deliveries hf (List.Pairwise.sublist hsub hapart) hwatch hk
  constructor
  · exact ⟨hsteady.canonical, hg.grounded.clashFree⟩
  · exact hapart
  · exact hg.stored
  · exact hg.distinct
  · intro x hx
    obtain ⟨hk, hkind, hs, ht⟩ := hg.held x hx
    exact ⟨hk, hkind, hs, (htakes hs hk).trans ht⟩
  · exact hg.once
  · intro x hx
    rcases List.mem_append.mp hx with hx | hx
    · obtain ⟨hk, hkind, hs, ht⟩ := hg.sent x hx
      exact ⟨hk, hkind, hs, (htakes hs hk).trans ht⟩
    · obtain ⟨ev, hev, hx⟩ := List.mem_flatMap.mp hx
      obtain ⟨spec, hspec, rfl⟩ := List.mem_map.mp hx
      rw [List.mem_filter] at hspec
      obtain ⟨hk, hkind⟩ := hf.kinds ev hev
      exact ⟨hk, hkind, hsub.subset hspec.1, hspec.2⟩
  · intro path hk kind hlast
    rw [untold_change] at hlast
    rcases hkinds hk with ⟨h, hc⟩ | ⟨x, hx, rfl, h⟩
    · rw [h, List.append_nil] at hlast
      rcases hc with hc | hc
      · rw [hg.last path hk kind hlast]
        simp only [Standing.change, hf.others path hk hc]
      · rw [untold_eq_nil hg fun spec hs => (htakes hs hk).symm.trans (hc spec hs)] at hlast
        simp at hlast
    · rw [h] at hlast
      obtain rfl : x.kind = kind := by simpa using hlast
      exact hf.gone x hx
  · intro path hk hu
    rw [untold_change, List.append_eq_nil_iff] at hu
    exact hg.settled path hk hu.1
  · intro path hk hu
    rw [untold_change, List.append_eq_nil_iff] at hu
    obtain ⟨hmatched, hcontent⟩ := hg.unchanged path hk hu.1
    constructor
    · exact fun spec hs => (hmatched spec hs).trans (hsteady.matchPath hg.grounded hs hk).symm
    · intro spec hs (ht : spec.takes t' path = true)
      refine (hcontent spec hs ((htakes hs hk).symm.trans ht)).trans ?_
      rcases hkinds hk with ⟨-, hc | hc⟩ | ⟨x, -, -, h⟩
      · exact (hf.others path hk hc).symm
      · exact absurd ht (by simp [hc spec hs])
      · exact absurd hu.2 (by simp [h])
  · exact hg.elsewhere
  · intro hover
    refine ⟨(hg.orderly hover).1, fun path hk => orderly_change hg hover hf hk ?_⟩
    exact (hkinds hk).imp_left And.left

end Change

end SegmentIndex
