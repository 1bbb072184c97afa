import SegmentIndex.Proofs.Assembly
import SegmentIndex.Proofs.Convergence
import SegmentIndex.Proofs.Outcomes

/-!
# Compiled specs whose pattern is refused

Each capture of a spec is checked alone when the spec is compiled, and is a part of a larger pattern
when the spec is matched. Where the captures refer to no group by number and set no modes for the
whole pattern, the larger pattern is refused in one case only, which is that two of its groups have
one name. Nothing else that is done with such a spec fails because of its pattern.
-/
namespace SegmentIndex

/-- Whether something failed because of a pattern. -/
def Refused {α : Type} (o : Except Failure α) : Prop := ∃ fault, o = .error (.pattern fault)

theorem not_refused_ok {α : Type} (x : α) : ¬ Refused (.ok x : Except Failure α) := by
  rintro ⟨fault, h⟩
  cases h

theorem refused_map {α β : Type} (g : α → β) (o : Except Failure α) :
    Refused (o.map g) ↔ Refused o := by
  cases o <;> simp [Refused, Except.map]

namespace FileTree

variable {t : FileTree}

theorem not_refused_canonicalFrom (fuel : Nat) (seen : List (Location × Option Location))
    (at_ : Location) (ns : List String) : ¬ Refused (t.canonicalFrom fuel seen at_ ns) := by
  induction fuel generalizing seen at_ ns with
  | zero => exact not_refused_ok _
  | succ fuel ih =>
    cases ns with
    | nil => exact not_refused_ok _
    | cons name rest =>
      simp only [canonicalFrom]
      split_ifs
      · exact ih _ _ _
      · exact ih _ _ _
      · rintro ⟨fault, h⟩
        cases h
      · split
        · rename_i target _
          split
          · exact ih _ _ _
          · exact not_refused_ok _
          · have hinner := ih ((at_ ++ [name], none) :: seen) (if Path.isAbsolute target then
              [] else at_)
              (Path.names target)
            revert hinner
            rcases t.canonicalFrom fuel _ _ (Path.names target) with e | inner <;> intro hinner
            · simpa [Refused] using hinner
            · dsimp only
              split_ifs
              · exact ih _ _ _
              · exact not_refused_ok _
        · exact ih _ _ _

theorem not_refused_canonical (path : String) : ¬ Refused (t.canonical path) := by
  unfold canonical canonicalLocation
  split_ifs
  · exact not_refused_ok _
  · rw [refused_map, refused_map]
    exact not_refused_canonicalFrom _ _ _ _

end FileTree

namespace PathSpec

theorem not_refused_canonicalTokens (t : FileTree) (tokens : List Token) :
    ¬ Refused (canonicalTokens t tokens) := by
  unfold canonicalTokens
  rw [refused_map]
  exact FileTree.not_refused_canonical _

end PathSpec

namespace Spec

variable {spec : Spec} {t : FileTree}

theorem refused_program_iff : Refused (spec.program t) ↔
    ∃ tokens, PathSpec.canonicalTokens t spec.segments = .ok tokens ∧
    ¬ PathSpec.Compiles tokens := by
  have hno := PathSpec.not_refused_canonicalTokens t spec.segments
  unfold program
  rcases ht : PathSpec.canonicalTokens t spec.segments with e | tokens
  · rw [ht] at hno
    exact iff_of_false (by simpa [Refused] using hno) (by simp)
  · unfold PathSpec.Compiles
    rcases hp : PathSpec.program tokens with e | p <;> simp [Refused, hp]

/-- Matching a path fails because of a pattern exactly if that of the spec is refused. -/
theorem refused_matchPath_iff (path : String) :
    Refused (spec.matchPath t path) ↔ Refused (spec.program t) := by
  unfold matchPath
  rcases spec.program t with e | ⟨tokens, p⟩
  · simp [Refused]
  · refine iff_of_false ?_ (not_refused_ok _)
    rw [refused_map]
    exact FileTree.not_refused_canonical path

theorem not_refused_matchAll (p : Pattern.Program) (paths : List String) :
    ¬ Refused (spec.matchAll t p paths) := by
  induction paths with
  | nil => exact not_refused_ok _
  | cons path rest ih =>
    have hno := t.not_refused_canonical path
    unfold matchAll
    rcases hc : t.canonical path with e | c
    · rw [hc] at hno
      simpa [Refused] using hno
    · rw [refused_map]
      exact ih

/-- Looking for files fails because of a pattern exactly if that of the spec is refused. -/
theorem refused_matchFiles_iff : Refused (spec.matchFiles t) ↔ Refused (spec.program t) := by
  unfold matchFiles
  rcases spec.program t with e | ⟨tokens, p⟩
  · simp [Refused]
  · refine iff_of_false ?_ (not_refused_ok _)
    dsimp only
    split_ifs
    · rintro ⟨fault, h⟩
      cases h
    · exact not_refused_matchAll _ _

theorem Selfcontained.not_refused_program (h : spec.Selfcontained)
    (hnodup : (PathSpec.groupNames spec.segments).Nodup) : ¬ Refused (spec.program t) := by
  rw [refused_program_iff]
  rintro ⟨tokens, ht, hno⟩
  exact hno ((h.compiles_canonical_iff ht).mpr hnodup)

end Spec

namespace Index

variable {ν : Type} {e : Engine ν} {t : FileTree}

theorem exists_refused_of_resultsFor {specs : List Spec} (h : Refused (e.resultsFor t specs)) :
    ∃ spec ∈ specs, Refused (spec.matchFiles t) := by
  induction specs with
  | nil => exact absurd h (not_refused_ok _)
  | cons spec rest ih =>
    unfold Engine.resultsFor at h
    rcases hf : spec.matchFiles t with f | found
    · rw [hf] at h
      refine ⟨spec, List.mem_cons_self, ?_⟩
      rw [hf]
      simpa [Refused] using h
    · rw [hf] at h
      obtain ⟨spec', hmem, href⟩ := ih ((refused_map _ _).mp h)
      exact ⟨spec', List.mem_cons_of_mem _ hmem, href⟩

theorem exists_refused_of_ingest {i : Index ν} {specs : List Spec}
    (hcheck : checkSpecs e.registry specs = .ok ())
    (h : Refused (i.ingest e t specs).2) : ∃ spec ∈ specs, Refused (spec.matchFiles t) := by
  rw [report_ingest specs hcheck, refused_map] at h
  exact exists_refused_of_resultsFor h

end Index

/-- The pattern of a compiled spec whose captures refer to no group by number and set no modes for
the whole pattern, also with its base in canonical form, is sound exactly if no two groups in it
have one name. Then no path and no tree makes a match or a search fail because of it, and neither
does an ingest of specs whose options are sound. -/
theorem matchable_iff_distinct {ν : Type} {specs : List Spec}
    (h : ∀ spec ∈ specs, spec.Selfcontained) :
    (∀ spec ∈ specs,
      (PathSpec.Compiles spec.segments ↔ (PathSpec.groupNames spec.segments).Nodup) ∧
      (∀ t tokens, PathSpec.canonicalTokens t spec.segments = .ok tokens →
        (PathSpec.Compiles tokens ↔ (PathSpec.groupNames spec.segments).Nodup)) ∧
      ((PathSpec.groupNames spec.segments).Nodup →
        ∀ t, (∀ path, ¬ Refused (spec.matchPath t path)) ∧ ¬ Refused (spec.matchFiles t))) ∧
    ((∀ spec ∈ specs, (PathSpec.groupNames spec.segments).Nodup) →
      ∀ (e : Engine ν) (t : FileTree) (i : Index ν), Index.checkSpecs e.registry specs = .ok () →
        ¬ Refused (i.ingest e t specs).2) := by
  constructor
  · intro spec hspec
    have hself := h spec hspec
    refine ⟨hself.compiles_iff, fun t tokens ht => hself.compiles_canonical_iff ht,
      fun hnodup t => ?_⟩
    have hprogram := hself.not_refused_program (t := t) hnodup
    exact ⟨fun path hpath => hprogram ((Spec.refused_matchPath_iff path).mp hpath),
      fun hfiles => hprogram (Spec.refused_matchFiles_iff.mp hfiles)⟩
  · intro hnodup e t i hcheck hrefused
    obtain ⟨spec, hspec, hfiles⟩ := Index.exists_refused_of_ingest hcheck hrefused
    exact (h spec hspec).not_refused_program (hnodup spec hspec)
      (Spec.refused_matchFiles_iff.mp hfiles)

namespace Sole

theorem check_windows {s : Spec} (hstrategy : s.strategy = spec.strategy)
    (hoptions : s.options = spec.options) :
    Index.checkSpecs env.engine.registry [s] = .ok () := by
  have hspec := check_spec
  simp only [Index.checkSpecs, Spec.check, ← hstrategy, ← hoptions] at hspec ⊢
  exact hspec

/-- A spec with a capture that holds a named group. -/
def numbered : Spec :=
  ⟨"/d/(?<v>(?P<n>[0-9])+)", [.literal "/d/", .capture "v" "(?P<n>[0-9])+"], "/d/", "chunked",
    windows, [], false⟩

theorem selfcontained_numbered : numbered.Selfcontained where
  compiled := by cbv
  captures := by
    intro name pattern hmem
    simp only [numbered, List.mem_cons, List.not_mem_nil, or_false, PathSpec.Token.capture.injEq,
      reduceCtorEq, false_or] at hmem
    obtain ⟨-, rfl⟩ := hmem
    exact Pattern.selfcontained_of_isRegular (by cbv) (by cbv) (by cbv)

theorem numbered_matchable : (∀ spec ∈ [numbered], spec.Selfcontained) ∧
    PathSpec.Compiles numbered.segments ∧
    ¬ Refused (numbered.matchFiles bare) ∧
    ¬ Refused (idle.index.ingest env.engine bare [numbered]).2 := by
  have hself : ∀ spec ∈ [numbered], spec.Selfcontained := by
    simpa using selfcontained_numbered
  have hnodup : (PathSpec.groupNames numbered.segments).Nodup := by
    rw [show PathSpec.groupNames numbered.segments = ["v", "n"] by cbv]
    decide
  have hcheck : Index.checkSpecs env.engine.registry [numbered] = .ok () := check_windows rfl rfl
  obtain ⟨hspecs, hingest⟩ := matchable_iff_distinct (ν := Unit) hself
  obtain ⟨hcompiles, -, hmatch⟩ := hspecs numbered (by simp)
  exact ⟨hself, hcompiles.mpr hnodup, (hmatch hnodup bare).2,
    hingest (by simpa using hnodup) env.engine bare idle.index hcheck⟩

/-- A spec with a capture that switches a mode on for the whole pattern. -/
def caseless : Spec :=
  ⟨"/d/(?<v>(?i)a)", [.literal "/d/", .capture "v" "(?i)a"], "/d/", "chunked", windows, [], false⟩

/-- A spec compiles, its options are sound, and its pattern is refused. -/
theorem caseless_refused : PathSpec.compile caseless.path = .ok caseless.segments ∧
    Index.checkSpecs env.engine.registry [caseless] = .ok () ∧
    Refused (caseless.matchPath bare "/d/a") ∧
    Refused (caseless.matchFiles bare) ∧
    Refused (idle.index.ingest env.engine bare [caseless]).2 := by
  have hrefused : caseless.program bare =
      .error (.pattern (.malformed "global flags not at the start of the expression")) := by cbv
  have hprogram : Refused (caseless.program bare) := ⟨_, hrefused⟩
  have hfiles := Spec.refused_matchFiles_iff.mpr hprogram
  have hcheck : Index.checkSpecs env.engine.registry [caseless] = .ok () := check_windows rfl rfl
  refine ⟨by cbv, hcheck, (Spec.refused_matchPath_iff _).mpr hprogram, hfiles, ?_⟩
  obtain ⟨fault, hfault⟩ := hfiles
  refine ⟨fault, ?_⟩
  rw [Index.report_ingest _ hcheck, Engine.resultsFor, hfault]
  rfl

end Sole

end SegmentIndex
