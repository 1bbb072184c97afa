import SegmentIndex.CodeElement.Analysis
import SegmentIndex.Proofs.Stored

/-!
# What the points of a file depend on

The points of a file under a built-in strategy depend on its bytes and on the packages that it lies
in, and on nothing else in the file tree. A file that cannot be read has none.
-/
namespace SegmentIndex

variable {ν : Type} {t t' : FileTree} {path : String}

/-- The bytes of the file that a path names, if it can be read. -/
def FileTree.content (t : FileTree) (path : String) : Option ByteArray :=
  (t.bytesAt (Path.clean path)).toOption

/-- The dotted name of the module that a path names. -/
def FileTree.nameAt (t : FileTree) (path : String) : Option String := t.moduleName (Path.clean path)

theorem FileTree.content_eq_some {bytes : ByteArray} :
    t.content path = some bytes ↔ t.bytesAt (Path.clean path) = .ok bytes := by
  unfold FileTree.content
  cases t.bytesAt (Path.clean path) <;> simp [Except.toOption]

theorem FileTree.content_eq_none :
    t.content path = none ↔ ∃ f, t.bytesAt (Path.clean path) = .error f := by
  unfold FileTree.content
  cases t.bytesAt (Path.clean path) <;> simp [Except.toOption]

theorem header_congr (hn : t.nameAt path = t'.nameAt path) (content : String) :
    Header.ofFile t (Path.clean path) content = Header.ofFile t' (Path.clean path) content := by
  have hn : t.moduleName (Path.clean path) = t'.moduleName (Path.clean path) := hn
  unfold Header.ofFile Header.ofModule
  rw [hn]

theorem single_congr (hn : t.nameAt path = t'.nameAt path) (name : String) (embed fixed : Value)
    (content : String) (metadata options : Entries) :
    (SingleChoice.strategy name embed fixed).draft t path content metadata options =
      (SingleChoice.strategy name embed fixed).draft t' path content metadata options := by
  have ht : ∀ c : EmbedChoice, c.text t path content = c.text t' path content := by
    intro c
    cases c with
    | wholeDocument => rfl
    | header => simp only [EmbedChoice.text, header_congr hn]
  simp only [SingleChoice.strategy, SingleChoice.segment, ht]

theorem analyzeModule_congr (hb : t.bytesAt (Path.clean path) = t'.bytesAt (Path.clean path))
    (hn : t.nameAt path = t'.nameAt path) :
    CodeElement.analyzeModule t path = CodeElement.analyzeModule t' path := by
  have hn : t.moduleName (Path.clean path) = t'.moduleName (Path.clean path) := hn
  unfold CodeElement.analyzeModule CodeElement.moduleText FileTree.strictText
  simp only [hb, hn]

/-- Whether a name stands for a built-in strategy that analyzes modules, if it stands for any. -/
def Registry.Standard (r : Registry) (name : String) : Prop :=
  ∀ s, r.get name = .ok s → s ∈ (Registry.builtin CodeElement.analyzeModule).strategies

theorem Registry.Standard.builtin {r : Registry} {name : String} (h : r.Standard name) :
    r.Builtin name :=
  fun s hs => ⟨_, h s hs⟩

theorem Registry.standard_builtin (name : String) :
    (Registry.builtin CodeElement.analyzeModule).Standard name := fun _ => Registry.mem_of_get

theorem draft_congr {s : Strategy}
    (hs : s ∈ (Registry.builtin CodeElement.analyzeModule).strategies)
    (hb : t.bytesAt (Path.clean path) = t'.bytesAt (Path.clean path))
    (hn : t.nameAt path = t'.nameAt path) (content : String) (metadata options : Entries) :
    s.draft t path content metadata options = s.draft t' path content metadata options := by
  simp only [Registry.builtin, SingleChoice.builtin, List.cons_append, List.nil_append,
    List.mem_cons, List.not_mem_nil, or_false] at hs
  rcases hs with rfl | rfl | rfl | rfl | rfl | rfl
  · exact single_congr hn ..
  · exact single_congr hn ..
  · exact single_congr hn ..
  · exact single_congr hn ..
  · rfl
  · simp only [elementStrategy, analyzeModule_congr hb hn]

namespace Engine

variable {e : Engine ν} {spec : Spec} {m : MatchedFile}

theorem segmentsOf_congr (hr : e.registry.Standard spec.strategy)
    (hb : t.bytesAt (Path.clean m.path) = t'.bytesAt (Path.clean m.path))
    (hn : t.nameAt m.path = t'.nameAt m.path) : e.segmentsOf t spec m = e.segmentsOf t' spec m := by
  have ht : t.readText e.encoding m.path = t'.readText e.encoding m.path := by
    unfold FileTree.readText
    simp only [hb]
  unfold segmentsOf
  rw [ht]
  cases t'.readText e.encoding m.path with
  | error f => rfl
  | ok content =>
    simp only [Registry.process]
    cases hs : e.registry.get spec.strategy with
    | error f => rfl
    | ok s => simp only [draft_congr (hr s hs) hb hn]

theorem pointsFor_of_content_none (h : t.content m.path = none) : e.pointsFor t spec m = [] := by
  obtain ⟨f, hf⟩ := FileTree.content_eq_none.mp h
  have ht : ∃ f, t.readText e.encoding m.path = .error f := by
    unfold FileTree.readText
    simp only [hf]
    split
    · exact ⟨_, rfl⟩
    · exact ⟨_, rfl⟩
    · simp_all
  obtain ⟨f, hf⟩ := ht
  have hs : e.segmentsOf t spec m = .error f := by
    unfold segmentsOf
    rw [hf]
  unfold pointsFor prepare
  rw [hs]

/-- The points of a file are the same in two trees that agree about its bytes and its packages. -/
theorem pointsFor_congr (hr : e.registry.Standard spec.strategy)
    (hc : t.content m.path = t'.content m.path)
    (hn : t.nameAt m.path = t'.nameAt m.path) : e.pointsFor t spec m = e.pointsFor t' spec m := by
  cases h : t.content m.path with
  | none => rw [pointsFor_of_content_none h, pointsFor_of_content_none (hc ▸ h)]
  | some bytes =>
    have hb : t.bytesAt (Path.clean m.path) = t'.bytesAt (Path.clean m.path) := by
      rw [FileTree.content_eq_some.mp h, FileTree.content_eq_some.mp (hc ▸ h)]
    unfold pointsFor prepare
    rw [segmentsOf_congr hr hb hn]

end Engine

end SegmentIndex
