import SegmentIndex.Proofs.Convergence
import SegmentIndex.Proofs.Likeness
import SegmentIndex.Proofs.Outcomes

/-!
# One file among others

An ingest passes over a file that fails. What is in a file, and whether it can be
read, cut, embedded and stored, makes no difference to any other file: the others
have the same results and the same points.
-/
namespace SegmentIndex

open PointStore (isOf)

section

variable {ν : Type} {e : Engine ν} {t t' : FileTree} {place : Location} {spec : Spec}
  {specs : List Spec} {m : MatchedFile}

/-- Whether a path is one at which a file of some specs is found. -/
def Matched (t : FileTree) (specs : List Spec) (path : String) : Prop :=
  ∃ spec ∈ specs, ∃ found, spec.matchFiles t = .ok found ∧ path ∈ found.map (·.path)

/-- The results of paths that do not lead to a place. -/
def FileTree.elsewhere (t : FileTree) (place : Location) (results : List FileResult) :
    List FileResult :=
  results.filter fun r => !t.leadsTo place r.path

/-! ## Results -/

namespace Engine

theorem resultFor_eq (h : t.SameBut place t') (hr : e.registry.Standard spec.strategy)
    (hm : t.leadsTo place m.path = false) : e.resultFor t spec m = e.resultFor t' spec m := by
  unfold resultFor outcome persist
  rw [prepare_eq h hr hm]

theorem elsewhere_resultFor (h : t.SameBut place t') (hr : e.registry.Standard spec.strategy)
    (found : List MatchedFile) : t.elsewhere place (found.map (e.resultFor t spec)) =
      t.elsewhere place (found.map (e.resultFor t' spec)) := by
  simp only [FileTree.elsewhere, List.filter_map, Function.comp_def, path_resultFor]
  refine List.map_congr_left fun m hm => resultFor_eq h hr ?_
  simpa using (List.mem_filter.mp hm).2

/-- The results elsewhere are the same in both trees, and if one
ingest is given up then so is the other. -/
theorem elsewhere_resultsFor (h : t.SameBut place t')
    (hr : ∀ spec ∈ specs, e.registry.Standard spec.strategy) :
    (e.resultsFor t specs).map (t.elsewhere place) =
      (e.resultsFor t' specs).map (t.elsewhere place) := by
  induction specs with
  | nil => rfl
  | cons spec rest ih =>
    have ih := ih fun s hs => hr s (List.mem_cons_of_mem _ hs)
    have hhead := elsewhere_resultFor h (hr spec List.mem_cons_self)
    simp only [resultsFor, ← h.sameShape.matchFiles_eq]
    cases spec.matchFiles t with
    | error f => rfl
    | ok found =>
      rcases hx : e.resultsFor t rest with f | xs <;> rcases hy : e.resultsFor t' rest
        with f' | ys <;>
        simp_all [Except.map, FileTree.elsewhere]

end Engine

/-! ## Points -/

def PointStore.keeping (keep : String → Bool) (s : PointStore ν) : PointStore ν :=
  s.filter fun p => keep p.id

theorem PointStore.keeping_upsert (keep : String → Bool) (p : Point ν) (s : PointStore ν) :
    keeping keep (upsert p s) = if keep p.id then upsert p (keeping keep s)
      else keeping keep s := by
  induction s with
  | nil => simp [upsert, keeping, List.filter_singleton]
  | cons q rest ih =>
    unfold keeping at ih ⊢
    by_cases hq : q.id = p.id
    · cases hk : keep p.id <;> simp [upsert, hq, hk]
    · cases hk : keep p.id <;> cases hkq : keep q.id <;> simp_all [upsert]

open PointStore (keeping keeping_upsert)

variable {keep : String → Bool}

namespace Engine

theorem keeping_storeAll {s s' : PointStore ν} (hs : keeping keep s = keeping keep s')
    (batch : List (Segment × ν)) :
    keeping keep (e.storeAll batch s).1 = keeping keep (e.storeAll batch s').1 := by
  induction batch generalizing s s' with
  | nil => exact hs
  | cons b rest ih =>
    obtain ⟨segment, v⟩ := b
    unfold storeAll
    cases e.refuse segment.id with
    | some f => exact hs
    | none => exact ih (by rw [keeping_upsert, keeping_upsert, hs])

theorem keeping_storeAll_out {batch : List (Segment × ν)} (hb : ∀ b ∈ batch, keep b.1.id = false)
    (s : PointStore ν) : keeping keep (e.storeAll batch s).1 = keeping keep s := by
  induction batch generalizing s with
  | nil => rfl
  | cons b rest ih =>
    obtain ⟨segment, v⟩ := b
    have hout : keep (pointOf segment v).id = false := hb _ List.mem_cons_self
    unfold storeAll
    cases e.refuse segment.id with
    | some f => rfl
    | none =>
      rw [ih (fun b hb' => hb b (List.mem_cons_of_mem _ hb')), keeping_upsert, hout]
      rfl

/-- A file none of whose ids is kept makes no difference to what is kept, however far it gets. -/
theorem keeping_persist_out (hb : e.registry.Builtin spec.strategy)
    (hk : ∀ id, IdOf m.path id → keep id = false)
    (s : PointStore ν) : keeping keep (e.persist t spec m s).1 = keeping keep s := by
  unfold persist
  cases hp : e.prepare t spec m with
  | error f => rfl
  | ok batch =>
    exact keeping_storeAll_out (fun b hb' => hk _ ((makes_of_prepare hp b hb').idOf hb)) s

/-- What is kept stays the same in both trees when a file is persisted, whichever file it is. -/
theorem keeping_persist (h : t.SameBut place t') (hr : e.registry.Standard spec.strategy)
    (hk : t.leadsTo place m.path = true → ∀ id, IdOf m.path id → keep id = false)
    {s s' : PointStore ν} (hs : keeping keep s = keeping keep s') :
    keeping keep (e.persist t spec m s).1 = keeping keep (e.persist t' spec m s').1 := by
  cases hm : t.leadsTo place m.path with
  | true => rw [keeping_persist_out hr.builtin (hk hm), keeping_persist_out hr.builtin (hk hm), hs]
  | false =>
    unfold persist
    rw [← prepare_eq h hr hm]
    cases e.prepare t spec m with
    | error f => exact hs
    | ok batch => exact keeping_storeAll hs batch

end Engine

namespace Index

variable {i j : Index ν}

theorem keeping_ingestMatches (h : t.SameBut place t') (hr : e.registry.Standard spec.strategy)
    {found : List MatchedFile}
    (hk : ∀ m ∈ found, t.leadsTo place m.path = true → ∀ id, IdOf m.path id → keep id = false)
    (hs : keeping keep i.store = keeping keep j.store) :
    keeping keep (i.ingestMatches e t spec found).1.store =
      keeping keep (j.ingestMatches e t' spec found).1.store := by
  induction found generalizing i j with
  | nil => exact hs
  | cons m rest ih =>
    rw [ingestMatches_cons, ingestMatches_cons]
    refine ih (fun m hm => hk m (List.mem_cons_of_mem _ hm)) ?_
    rw [store_ingestFor, store_ingestFor, store_seeCaptures, store_seeCaptures]
    exact Engine.keeping_persist h hr (hk m List.mem_cons_self) hs

theorem keeping_ingestSpecs (h : t.SameBut place t')
    (hr : ∀ spec ∈ specs, e.registry.Standard spec.strategy)
    (hk : ∀ g, Matched t specs g → t.leadsTo place g = true → ∀ id, IdOf g id → keep id = false)
    (hs : keeping keep i.store = keeping keep j.store) :
    keeping keep (i.ingestSpecs e t specs).1.store =
      keeping keep (j.ingestSpecs e t' specs).1.store := by
  induction specs generalizing i j with
  | nil => exact hs
  | cons spec rest ih =>
    rw [ingestSpecs, ingestSpecs, ← h.sameShape.matchFiles_eq]
    cases hf : spec.matchFiles t with
    | error f => exact hs
    | ok found =>
      refine ih (fun s hs => hr s (List.mem_cons_of_mem _ hs)) (fun g hg => hk g ?_)
        (keeping_ingestMatches h (hr spec List.mem_cons_self) (fun m hm => hk m.path ?_) hs)
      · obtain ⟨s, hs, hfound⟩ := hg
        exact ⟨s, List.mem_cons_of_mem _ hs, hfound⟩
      · exact ⟨spec, List.mem_cons_self, found, hf, List.mem_map_of_mem hm⟩

/-- What is kept is the same after an ingest of either tree, if no id of the one file is kept. -/
theorem keeping_ingest (keep : String → Bool) (h : t.SameBut place t')
    (hr : ∀ spec ∈ specs, e.registry.Standard spec.strategy)
    (hk : ∀ g, Matched t specs g → t.leadsTo place g = true → ∀ id, IdOf g id → keep id = false)
    (i : Index ν) :
    keeping keep (i.ingest e t specs).1.store = keeping keep (i.ingest e t' specs).1.store := by
  unfold ingest
  cases checkSpecs e.registry specs with
  | error f => rfl
  | ok _ => exact keeping_ingestSpecs h hr hk rfl

/-- Whatever is in one file, an ingest has the same results and
stores the same points for all others. -/
theorem isolated_ingest (h : t.SameBut place t')
    (hr : ∀ spec ∈ specs, e.registry.Standard spec.strategy)
    (hn : ∀ f g, Matched t specs f → Matched t specs g → t.leadsTo place f = false →
    t.leadsTo place g = true →
      ∀ n : Nat, f ≠ g ++ "#" ++ toString n ∧ g ≠ f ++ "#" ++ toString n) (i : Index ν) :
    ((i.ingest e t specs).2.map fun r => t.elsewhere place r.results) =
        ((i.ingest e t' specs).2.map fun r => t.elsewhere place r.results) ∧
      ∀ f, Matched t specs f → t.leadsTo place f = false →
        (∀ id, IdOf f id → (i.ingest e t specs).1.store.filter (·.id = id) =
          (i.ingest e t' specs).1.store.filter (·.id = id)) ∧
        ((∀ q ∈ i.store, isOf f q = true → IdOf f q.id) →
          (i.ingest e t specs).1.store.filter (isOf f) =
            (i.ingest e t' specs).1.store.filter (isOf f)) := by
  constructor
  · have hresults : ∀ x : Except Failure (List FileResult),
        ((x.map Report.ofResults).map fun r => t.elsewhere place r.results) =
        x.map (t.elsewhere place) := by
      rintro (f | results)
      · rfl
      · simp [Except.map]
    unfold ingest
    cases checkSpecs e.registry specs with
    | error f => rfl
    | ok _ =>
      simp only [results_ingestSpecs, hresults]
      exact Engine.elsewhere_resultsFor h hr
  · intro f hf hfp
    -- An id of the file is no id of the one in which the trees differ.
    have hapart : ∀ g, Matched t specs g → t.leadsTo place g = true → ∀ id, IdOf g id →
        ¬ IdOf f id := by
      intro g hg hgp id hid hid'
      rcases hid'.eq_or hid with rfl | ⟨n, hn'⟩ | ⟨n, hn'⟩
      · simp [hfp] at hgp
      · exact (hn f g hf hg hfp hgp n).1 hn'
      · exact (hn f g hf hg hfp hgp n).2 hn'
    refine ⟨fun id hid => ?_, fun hi => ?_⟩
    · refine keeping_ingest (fun x => x = id) h hr (fun g hg hgp x hx => ?_) i
      exact decide_eq_false fun hxid => hapart g hg hgp x hx (hxid ▸ hid)
    · classical
      have hkept := keeping_ingest (fun x => IdOf f x) h hr
        (fun g hg hgp x hx => decide_eq_false (hapart g hg hgp x hx)) i
      have hown : ∀ tree : FileTree, (i.ingest e tree specs).1.store.filter (isOf f) =
          (keeping (fun x => IdOf f x) (i.ingest e tree specs).1.store).filter (isOf f) := by
        intro tree
        rw [keeping, List.filter_filter]
        refine List.filter_congr fun q hq => ?_
        cases hof : isOf f q with
        | false => rfl
        | true =>
          have hid : IdOf f q.id := by
            rcases mem_of_ingest hq with hq | ⟨spec, hs, m, hmake⟩
            · exact hi q hq hof
            · rw [PointStore.isOf_unique hof (hmake.isOf (hr spec hs).builtin)]
              exact hmake.idOf (hr spec hs).builtin
          simp [hid]
      rw [hown t, hown t', hkept]

end Index

end

namespace Pair

/-- Two files, of which the first holds some bytes. -/
def holding (bytes : List UInt8) : FileTree :=
  ⟨[(["a"], .file ⟨bytes.toArray⟩), (["b"], .file ⟨#[98]⟩)], []⟩

/-- A spec that takes one file as a whole. -/
def whole (path : String) : Spec := ⟨path, [.literal path], path, "whole-document", [], [], false⟩

/-- The file as it belongs to its spec. -/
def found (path : String) : MatchedFile := ⟨path, [], [], some (whole path)⟩

theorem sameBut_holding (bytes bytes' : List UInt8) :
    (holding bytes).SameBut ["a"] (holding bytes') where
  workDir := rfl
  entries := .refl _
  file := ⟨_, _, rfl, rfl⟩
  others := by
    intro other hne
    have hbeq : (other == ["a"]) = false := by simpa using hne
    simp [FileTree.entry?, holding, List.lookup, hbeq]

theorem matchFiles_whole {path : String} (h : path = "/a" ∨ path = "/b") :
    (whole path).matchFiles (holding [97]) = .ok [found path] := by
  have hprogram : (whole path).program (holding [97]) =
      .ok ([.literal path], ⟨.seq (.text path.toList) .empty, []⟩) := by
        rcases h with rfl | rfl <;> cbv
  have hclean : Path.clean path = path := by rcases h with rfl | rfl <;> decide +kernel
  have hfile : (holding [97]).isFile path = true := by rcases h with rfl | rfl <;> decide +kernel
  have hlong : (holding [97]).isTooLong path = false := by rcases h with rfl | rfl <;> decide +kernel
  have hcanonical : (holding [97]).canonical path = .ok path := by
    rcases h with rfl | rfl <;> decide +kernel
  have hmatch : (⟨.seq (.text path.toList) .empty, []⟩ : Pattern.Program).fullMatch path.toList =
      some [] := by
    rcases h with rfl | rfl <;> decide +kernel
  have htaken : (whole path).matchCanonical ⟨.seq (.text path.toList) .empty, []⟩ path =
      some (found path) := by
    rw [Spec.matchCanonical, hmatch]
    rfl
  have hempty : path ≠ "" := by rcases h with rfl | rfl <;> decide
  simp [Spec.matchFiles, hprogram, PathSpec.baseOf, hclean, hlong, Spec.candidates, hempty, hfile,
    Spec.matchAll, hcanonical, htaken, Except.map]

theorem matched_whole {path : String} :
    Matched (holding [97]) [whole "/a", whole "/b"] path ↔ path = "/a" ∨ path = "/b" := by
  simp [Matched, matchFiles_whole, found, @eq_comm _ path]

/-- When the first file is emptied it fails, and the second one
has its result and its point as before. -/
theorem emptied_isolated :
    (Sole.env.engine.prepare (holding [97]) (whole "/a") (found "/a")).isOk = true ∧
      (Sole.env.engine.prepare (holding []) (whole "/a") (found "/a")).isOk = false ∧
      (((Index.empty Sole.idle.index.stats).ingest Sole.env.engine (holding [97]) [whole "/a",
        whole "/b"]).2.map
          fun r => (holding [97]).elsewhere ["a"] r.results) =
        (((Index.empty Sole.idle.index.stats).ingest Sole.env.engine (holding []) [whole "/a",
          whole "/b"]).2.map
          fun r => (holding [97]).elsewhere ["a"] r.results) ∧
      ((Index.empty Sole.idle.index.stats).ingest Sole.env.engine (holding [97])
          [whole "/a", whole "/b"]).1.store.filter (isOf "/b") =
        ((Index.empty Sole.idle.index.stats).ingest Sole.env.engine (holding [])
          [whole "/a", whole "/b"]).1.store.filter (isOf "/b") := by
  have hclash : ClashFree (Matched (holding [97]) [whole "/a", whole "/b"]) := by
    refine clashFree_of_no_hash fun f hf => ?_
    rcases matched_whole.mp hf with rfl | rfl <;> decide
  obtain ⟨hresults, hpoints⟩ := Index.isolated_ingest (e :=
    Sole.env.engine) (sameBut_holding [97] [])
    (fun _ _ => Registry.standard_builtin _)
    (fun f g hf hg _ _ n => ⟨hclash f g hf hg n, hclash g f hg hf n⟩) (.empty Sole.idle.index.stats)
  refine ⟨by decide +kernel, by decide +kernel, hresults,
    (hpoints "/b" (matched_whole.mpr (.inr rfl)) (by decide +kernel)).2 ?_⟩
  exact fun q hq => absurd hq List.not_mem_nil

end Pair

end SegmentIndex
