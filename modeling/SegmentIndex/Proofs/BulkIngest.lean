import SegmentIndex.Proofs.Locality

/-!
# Ingesting all files at once

Ingesting stores points that files should have, and nothing else: one of each id that a spec gives
to a file, in whatever order the files are found and however often one is found. If the specs share
no files, it stores all points that their files should have.
-/
namespace SegmentIndex

variable {ν : Type}

def Spec.takes (t : FileTree) (path : String) (spec : Spec) : Bool :=
  match spec.matchPath t path with
  | .ok (some _) => true
  | _ => false

theorem Spec.takes_iff {t : FileTree} {path : String} {spec : Spec} :
    spec.takes t path = true ↔ ∃ m, spec.matchPath t path = .ok (some m) := by
  unfold takes
  rcases spec.matchPath t path with f | _ | m <;> simp

/-- Whether a file should have a point under some specs. -/
def Expected (e : Engine ν) (t : FileTree) (specs : List Spec) (path : String) (q : Point ν) :
    Prop :=
  ∃ spec ∈ specs, ∃ m, spec.matchPath t path = .ok (some m) ∧ q ∈ e.pointsFor t spec m

/-- Whether no known file belongs to two of some specs. -/
def Apart (known : String → Prop) (t : FileTree) (specs : List Spec) : Prop :=
  specs.Pairwise fun a b => ∀ path, known path → ¬ (a.takes t path = true ∧ b.takes t path = true)

/-- Whether looking for the files of specs finds known files only, and all
that belong to the specs and can be read. -/
def Surveyed (known : String → Prop) (t : FileTree) (specs : List Spec) : Prop :=
  ∀ spec ∈ specs, ∃ found, spec.matchFiles t = .ok found ∧ (∀ m ∈ found, known m.path) ∧
    ∀ path m, known path → t.content path ≠ none → spec.matchPath t path = .ok (some m) → m ∈ found

/-- What is taken for granted of a tree: known paths are in canonical form,
and none is another one with a number. -/
structure Grounded (known : String → Prop) (t : FileTree) : Prop where
  canonical : ∀ path, known path → t.canonical path = .ok path
  clashFree : ClashFree known

theorem Grounded.path_eq {known : String → Prop} {t : FileTree} (h : Grounded known t)
    {path : String}
    (hk : known path) {spec : Spec} {m : MatchedFile} (hm : spec.matchPath t path = .ok (some m)) :
    m.path = path :=
  Except.ok.inj ((Spec.canonical_of_matchPath hm).symm.trans (h.canonical path hk))

theorem Apart.eq {known : String → Prop} {t : FileTree} {specs : List Spec}
    (h : Apart known t specs) {path : String} (hk : known path) {a b : Spec} (ha : a ∈ specs)
    (hb : b ∈ specs) (hta : a.takes t path = true) (htb : b.takes t path = true) : a = b := by
  by_contra hne
  have hsymm : Std.Symm fun a b : Spec =>
      ∀ path, known path → ¬ (a.takes t path = true ∧ b.takes t path = true) :=
    ⟨fun a b h path hk ht => h path hk ht.symm⟩
  exact h.forall ha hb hne path hk ⟨hta, htb⟩

theorem Spec.mem_matchAll {t : FileTree} {spec : Spec} {p : Pattern.Program} {paths : List String}
    {found : List MatchedFile} (h : spec.matchAll t p paths = .ok found) {m : MatchedFile}
    (hm : m ∈ found) :
    spec.matchCanonical p m.path = some m := by
  induction paths generalizing found with
  | nil =>
    rw [← Except.ok.inj h] at hm
    simp at hm
  | cons path rest ih =>
    unfold matchAll at h
    cases hc : t.canonical path with
    | error f => simp [hc] at h
    | ok file =>
      cases hr : spec.matchAll t p rest with
      | error f => simp [hc, hr, Except.map] at h
      | ok more =>
        simp only [hc, hr, Except.map, Except.ok.injEq] at h
        rw [← h, List.mem_append] at hm
        rcases hm with hm | hm
        · rw [Option.mem_toList] at hm
          have hpath : m.path = file := by
            unfold matchCanonical at hm
            obtain ⟨marks, -, rfl⟩ := Option.map_eq_some_iff.mp hm
            rfl
          rwa [hpath]
        · exact ih hr hm

theorem Spec.matchPath_of_matchFiles {t : FileTree} {spec : Spec} {found : List MatchedFile}
    (h : spec.matchFiles t = .ok found) {m : MatchedFile} (hm : m ∈ found)
    (hc : t.canonical m.path = .ok m.path) : spec.matchPath t m.path = .ok (some m) := by
  unfold matchFiles at h
  rcases hp : spec.program t with f | ⟨tokens, p⟩
  · simp [hp] at h
  · simp only [hp] at h
    split_ifs at h
    rw [matchPath, hp]
    simp only [hc, Except.map]
    rw [mem_matchAll h hm]

namespace Index

open PointStore (Known Distinct upsertAll isOf)

variable {known : String → Prop} {e : Engine ν} {t : FileTree} {specs : List Spec} {i : Index ν}

theorem expected_spec (hg : Grounded known t)
    (hb : ∀ spec ∈ specs, e.registry.Builtin spec.strategy)
    {path : String} (hk : known path) {q : Point ν} (h : Expected e t specs path q) :
    isOf path q = true ∧ ∃ o, q.id = segmentId path o := by
  obtain ⟨spec, hs, m, hm, hq⟩ := h
  have hpath : m.path = path := hg.path_eq hk hm
  rw [← hpath]
  exact (Engine.pointsFor_spec (hb spec hs)).1 q hq

theorem expected_inj (hg : Grounded known t) (ha : Apart known t specs)
    (hb : ∀ spec ∈ specs, e.registry.Builtin spec.strategy) {path path' : String} (hk : known path)
    (hk' : known path') {q q' : Point ν} (h : Expected e t specs path q)
    (h' : Expected e t specs path' q') (hid : q.id = q'.id) : q = q' := by
  obtain ⟨-, o, ho⟩ := expected_spec hg hb hk h
  obtain ⟨-, o', ho'⟩ := expected_spec hg hb hk' h'
  obtain rfl : path = path' := hg.clashFree.eq_of_segmentId hk hk' (ho.symm.trans (hid.trans ho'))
  obtain ⟨spec, hs, m, hm, hq⟩ := h
  obtain ⟨spec', hs', m', hm', hq'⟩ := h'
  obtain rfl : spec = spec' :=
    ha.eq hk hs hs' (Spec.takes_iff.mpr ⟨m, hm⟩) (Spec.takes_iff.mpr ⟨m', hm'⟩)
  obtain rfl : m = m' := Option.some.inj (Except.ok.inj (hm.symm.trans hm'))
  exact List.inj_on_of_nodup_map (Engine.pointsFor_spec (hb spec hs)).2 hq hq' hid

/-- What is stored while files are being ingested. -/
structure Sound (known : String → Prop) (e : Engine ν) (t : FileTree) (specs : List Spec)
    (s : PointStore ν) :
    Prop where
  distinct : Distinct s
  expected : ∀ q ∈ s, ∃ path, known path ∧ Expected e t specs path q

theorem Sound.expected_of_isOf {s : PointStore ν} (hs : Sound known e t specs s)
    (hg : Grounded known t) (hb : ∀ spec ∈ specs, e.registry.Builtin spec.strategy) {path : String}
    {q : Point ν} (hq : q ∈ s) (hisof : isOf path q = true) : Expected e t specs path q := by
  obtain ⟨path', hk', hexp⟩ := hs.expected q hq
  rwa [PointStore.isOf_unique hisof (expected_spec hg hb hk' hexp).1]

/-- What is stored with the id of a point that a file should have is a point of that file. -/
theorem Sound.expected_of_id {s : PointStore ν} (hs : Sound known e t specs s)
    (hg : Grounded known t) (hb : ∀ spec ∈ specs, e.registry.Builtin spec.strategy) {path : String}
    (hk : known path) {p q : Point ν} (hp : p ∈ s) (hq : Expected e t specs path q)
    (hid : p.id = q.id) :
    Expected e t specs path p := by
  obtain ⟨path', hk', hexp⟩ := hs.expected p hp
  obtain ⟨-, o, ho⟩ := expected_spec hg hb hk hq
  obtain ⟨-, o', ho'⟩ := expected_spec hg hb hk' hexp
  rwa [hg.clashFree.eq_of_segmentId hk hk' (ho.symm.trans (hid.symm.trans ho'))]

section Soundness

variable (hr : ∀ id, e.refuse id = none) (hg : Grounded known t)
  (hb : ∀ spec ∈ specs, e.registry.Builtin spec.strategy)

include hr hb

theorem sound_ingestFor {spec : Spec} (hs : spec ∈ specs) {m : MatchedFile} (hk : known m.path)
    (hm : spec.matchPath t m.path = .ok (some m)) (counting : Bool)
    (hi : Sound known e t specs i.store) :
    Sound known e t specs (i.ingestFor e t counting spec m).1.store ∧
      ∀ id, id ∈ (i.ingestFor e t counting spec m).1.store.map (·.id) ↔
        id ∈ i.store.map (·.id) ∨ id ∈ (e.pointsFor t spec m).map (·.id) := by
  rw [store_ingestFor, Engine.persist_eq hr]
  refine ⟨⟨hi.distinct.upsertAll _, fun q hq => ?_⟩, fun id => PointStore.mem_ids_upsertAll⟩
  rw [PointStore.mem_upsertAll_iff hi.distinct (Engine.pointsFor_spec (hb spec hs)).2] at hq
  rcases hq with hq | ⟨hq, -⟩
  · exact ⟨m.path, hk, spec, hs, m, hm, hq⟩
  · exact hi.expected q hq

omit hr hb in
theorem ingestMatches_cons (spec : Spec) (m : MatchedFile) (rest : List MatchedFile) :
    (i.ingestMatches e t spec (m :: rest)).1 =
      (((i.seeCaptures spec m).ingestFor e t true spec m).1.ingestMatches e t spec rest).1 := by
  rw [ingestMatches]

theorem sound_ingestMatches {spec : Spec} (hs : spec ∈ specs) {found : List MatchedFile}
    (hf : ∀ m ∈ found, known m.path ∧ spec.matchPath t m.path = .ok (some m))
    (hi : Sound known e t specs i.store) :
    Sound known e t specs (i.ingestMatches e t spec found).1.store ∧
      ∀ id, id ∈ (i.ingestMatches e t spec found).1.store.map (·.id) ↔
        id ∈ i.store.map (·.id) ∨ ∃ m ∈ found, id ∈ (e.pointsFor t spec m).map (·.id) := by
  induction found generalizing i with
  | nil => exact ⟨hi, fun id => by simp [ingestMatches]⟩
  | cons m rest ih =>
    obtain ⟨hk, hm⟩ := hf m List.mem_cons_self
    have hi' : Sound known e t specs (i.seeCaptures spec m).store := by
      rw [store_seeCaptures]
      exact hi
    obtain ⟨hj, hids⟩ := sound_ingestFor hr hb hs hk hm true hi'
    obtain ⟨hl, hids'⟩ := ih (i := ((i.seeCaptures spec m).ingestFor e t true spec m).1)
      (fun m hm => hf m (List.mem_cons_of_mem _ hm)) hj
    rw [ingestMatches_cons]
    refine ⟨hl, fun id => (hids' id).trans ?_⟩
    rw [hids, store_seeCaptures, or_assoc, List.exists_mem_cons_iff]

include hg

theorem sound_ingestSpecs (hsurvey : Surveyed known t specs) {rest : List Spec}
    (hrest : ∀ s ∈ rest, s ∈ specs) (hi : Sound known e t specs i.store) :
    (∃ results, (i.ingestSpecs e t rest).2 = .ok results) ∧
      Sound known e t specs (i.ingestSpecs e t rest).1.store ∧
      ∀ id, id ∈ (i.ingestSpecs e t rest).1.store.map (·.id) ↔
        id ∈ i.store.map (·.id) ∨ ∃ path, known path ∧ ∃ q, Expected e t rest path q ∧
        q.id = id := by
  induction rest generalizing i with
  | nil => exact ⟨⟨[], rfl⟩, hi, fun id => by simp [ingestSpecs, Expected]⟩
  | cons spec rest ih =>
    obtain ⟨found, hfound, hk, hall⟩ := hsurvey spec (hrest spec List.mem_cons_self)
    have hf : ∀ m ∈ found, known m.path ∧ spec.matchPath t m.path = .ok (some m) := fun m hm =>
      ⟨hk m hm, Spec.matchPath_of_matchFiles hfound hm (hg.canonical _ (hk m hm))⟩
    obtain ⟨hj, hids⟩ := sound_ingestMatches hr hb (hrest spec List.mem_cons_self) hf hi
    obtain ⟨⟨results, hres⟩, hl, hids'⟩ := ih (i := (i.ingestMatches e t spec found).1)
      (fun s hs => hrest s (List.mem_cons_of_mem _ hs)) hj
    rw [ingestSpecs]
    simp only [hfound]
    refine ⟨⟨_, by rw [hres]; rfl⟩, hl, fun id => (hids' id).trans ?_⟩
    rw [hids, or_assoc]
    refine or_congr_right ?_
    constructor
    · rintro (⟨m, hm, hid⟩ | ⟨path, hp, q, ⟨s, hs, hq⟩, hid⟩)
      · obtain ⟨q, hq, hid⟩ := List.mem_map.mp hid
        exact ⟨m.path, hk m hm, q, ⟨spec, List.mem_cons_self, m, (hf m hm).2, hq⟩, hid⟩
      · exact ⟨path, hp, q, ⟨s, List.mem_cons_of_mem _ hs, hq⟩, hid⟩
    · rintro ⟨path, hp, q, ⟨s, hs, m, hm, hq⟩, rfl⟩
      rcases List.mem_cons.mp hs with rfl | hs
      · refine .inl ⟨m, hall path m hp (fun hc => ?_) hm, List.mem_map_of_mem hq⟩
        have hpath : m.path = path := hg.path_eq hp hm
        rw [Engine.pointsFor_of_content_none (by rw [hpath, hc])] at hq
        simp at hq
      · exact .inr ⟨path, hp, q, ⟨s, hs, m, hm, hq⟩, rfl⟩

omit hr hg hb in
@[simp] theorem store_registerSources (specs : List Spec) :
    (i.registerSources specs).store = i.store := by
  unfold registerSources
  dsimp only
  split_ifs <;> rfl

/-- An empty index ends up with points that the files should have,
one of each id that such a point has. -/
theorem sound_ingest (hsurvey : Surveyed known t specs)
    (hcheck : checkSpecs e.registry specs = .ok ()) (hi : i.store = []) :
    (∃ report, (i.ingest e t specs).2 = .ok report) ∧
    Sound known e t specs (i.ingest e t specs).1.store ∧
      ∀ path, known path → ∀ q, Expected e t specs path q → ∃ p ∈ (i.ingest e t specs).1.store,
        p.id = q.id := by
  have hs : Sound known e t specs (i.registerSources specs).store := by
    rw [store_registerSources, hi]
    exact ⟨List.nodup_nil, fun q hq => by simp at hq⟩
  obtain ⟨⟨results, hres⟩, hj, hids⟩ := sound_ingestSpecs hr hg hb hsurvey (fun s hs => hs) hs
  rw [ingest]
  simp only [hcheck]
  refine ⟨⟨_, by rw [hres]; rfl⟩, hj, fun path hk q hq => ?_⟩
  exact List.mem_map.mp ((hids q.id).mpr (.inr ⟨path, hk, q, hq, rfl⟩))

theorem mem_ingest (ha : Apart known t specs) (hsurvey : Surveyed known t specs)
    (hcheck : checkSpecs e.registry specs = .ok ()) (hi : i.store = []) :
    (∃ report, (i.ingest e t specs).2 = .ok report) ∧ Distinct (i.ingest e t specs).1.store ∧
      ∀ q, q ∈ (i.ingest e t specs).1.store ↔ ∃ path, known path ∧ Expected e t specs path q := by
  obtain ⟨hreport, hsound, hall⟩ := sound_ingest hr hg hb hsurvey hcheck hi
  refine ⟨hreport, hsound.distinct, fun q => ⟨hsound.expected q, ?_⟩⟩
  rintro ⟨path, hk, hq⟩
  obtain ⟨p, hp, hid⟩ := hall path hk q hq
  obtain ⟨path', hk', hexp⟩ := hsound.expected p hp
  rwa [← expected_inj hg ha hb hk' hk hexp hq hid]

end Soundness

section Induction

variable {P : Index ν → List FileResult → Prop} (hsee : ∀ i done spec m, P i done →
  P (i.seeCaptures spec m) done)

include hsee

theorem ingestMatches_keeps {spec : Spec} {found : List MatchedFile}
    (hfile : ∀ m ∈ found, ∀ i done, P i done →
      P (i.ingestFor e t true spec m).1 (done ++ [(i.ingestFor e t true spec m).2]))
    {done : List FileResult} (h : P i done) :
    P (i.ingestMatches e t spec found).1 (done ++ (i.ingestMatches e t spec found).2) := by
  induction found generalizing i done with
  | nil =>
    simp only [ingestMatches, List.append_nil]
    exact h
  | cons m rest ih =>
    have := ih (fun m hm => hfile m (List.mem_cons_of_mem _ hm))
      (hfile m List.mem_cons_self _ _ (hsee i done spec m h))
    rw [List.append_assoc] at this
    rw [ingestMatches]
    exact this

/-- What is kept when captures are seen and when one file is
ingested is kept when all files are ingested. -/
theorem ingestSpecs_keeps {specs : List Spec}
    (hfile : ∀ spec ∈ specs, ∀ found, spec.matchFiles t = .ok found → ∀ m ∈ found, ∀ i done,
      P i done →
      P (i.ingestFor e t true spec m).1 (done ++ [(i.ingestFor e t true spec m).2]))
    {done results : List FileResult} (h : P i done)
    (hres : (i.ingestSpecs e t specs).2 = .ok results) :
    P (i.ingestSpecs e t specs).1 (done ++ results) := by
  induction specs generalizing i done results with
  | nil =>
    simp only [ingestSpecs, Except.ok.injEq] at hres ⊢
    rw [← hres, List.append_nil]
    exact h
  | cons spec rest ih =>
    rw [ingestSpecs] at hres ⊢
    cases hf : spec.matchFiles t with
    | error f => simp [hf] at hres
    | ok found =>
      simp only [hf] at hres ⊢
      have hj := ingestMatches_keeps hsee (hfile spec List.mem_cons_self found hf) h
      cases hmore : ((i.ingestMatches e t spec found).1.ingestSpecs e t rest).2 with
      | error f => simp [hmore, Except.map] at hres
      | ok more =>
        simp only [hmore, Except.map, Except.ok.injEq] at hres
        rw [← hres, ← List.append_assoc]
        exact ih (fun s hs => hfile s (List.mem_cons_of_mem _ hs)) hj hmore

theorem ingest_keeps {specs : List Spec}
    (hfile : ∀ spec ∈ specs, ∀ found, spec.matchFiles t = .ok found → ∀ m ∈ found, ∀ i done,
      P i done →
      P (i.ingestFor e t true spec m).1 (done ++ [(i.ingestFor e t true spec m).2]))
    (h : P (i.registerSources specs) []) {report : Report}
    (hres : (i.ingest e t specs).2 = .ok report) :
    P (i.ingest e t specs).1 report.results := by
  unfold ingest at hres ⊢
  cases hc : checkSpecs e.registry specs with
  | error f => simp [hc] at hres
  | ok u =>
    simp only [hc] at hres ⊢
    cases hr : ((i.registerSources specs).ingestSpecs e t specs).2 with
    | error f => simp [hr, Except.map] at hres
    | ok results =>
      simp only [hr, Except.map, Except.ok.injEq] at hres
      rw [← hres, Report.results_ofResults]
      exact ingestSpecs_keeps hsee hfile h hr

end Induction

theorem distinct_ingest (hr : ∀ id, e.refuse id = none) (hi : i.store = []) {report : Report}
    (hres : (i.ingest e t specs).2 = .ok report) : Distinct (i.ingest e t specs).1.store := by
  refine ingest_keeps (P := fun i _ => Distinct i.store) (fun i _ spec m hd => ?_)
    (fun spec _ _ _ m _ i _ hd => ?_)
    ?_ hres
  · rw [store_seeCaptures]
    exact hd
  · rw [store_ingestFor, Engine.persist_eq hr]
    exact hd.upsertAll _
  · rw [store_registerSources, hi]
    exact List.nodup_nil

end Index

end SegmentIndex
