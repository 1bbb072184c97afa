import SegmentIndex.Proofs.Counting
import SegmentIndex.Proofs.Outcomes

/-!
# Payloads of stored points

Sources may give any metadata and captures any names, also those that points are looked up by. A
point that is stored for a segment of a built-in strategy carries all the same its own id, its file
under both names, and its content: these are put into the metadata and the payload last. So does
every point of an index that has been worked on with built-in strategies only, whatever failed in
between.
-/
namespace SegmentIndex

variable {ν : Type}

/-- Whether the payload of a point says which segment of which file it is, and with what content. -/
structure Point.WellFormed (p : Point ν) : Prop where
  segment : Entries.get? p.payload "segment_id" = some (.str p.id)
  file : ∃ f, Entries.get? p.payload "file_id" = some (.str f) ∧
    Entries.get? p.payload "doc_id" = some (.str f) ∧
    IdOf f p.id
  content : ∃ text, Entries.get? p.payload "content" = some (.str text) ∧ text ≠ ""

namespace Engine

/-- Whatever the metadata, a segment that is made for a file gives a point that says so. -/
theorem wellFormed_pointOf {path text content : String} (o : Option Nat) (metadata : Entries)
    (v : ν) (hc : content ≠ "") :
    (pointOf (Segment.make path (segmentId path (o.map Int.ofNat)) text content metadata)
      v).WellFormed where
  segment := by simp [pointOf, Segment.make, Entries.putAll, Entries.get?_put]
  file := by
    refine ⟨path, ?_, ?_, idOf_segmentId path o⟩
    · simp [pointOf, Segment.make, Entries.putAll, Entries.get?_put]
    · simp [pointOf, Segment.make, Entries.putAll, Entries.get?_put]
  content := ⟨content, by simp [pointOf, Segment.make, Entries.get?_put], hc⟩

theorem Makes.wellFormed {e : Engine ν} {t : FileTree} {spec : Spec} {m : MatchedFile} {q : Point ν}
    (h : e.Makes t spec m q) (hb : e.registry.Builtin spec.strategy) : q.WellFormed := by
  obtain ⟨segments, hsegments, x, hx, v, rfl⟩ := h
  obtain ⟨hcut, hfilled⟩ := cutOf_segmentsOf hb hsegments
  obtain ⟨o, text, content, metadata, rfl⟩ := hcut.exists_make hx
  exact wellFormed_pointOf o metadata v (hfilled _ hx).2

end Engine

/-- What can be done with an index, and with which engine and files. -/
inductive Operation (ν : Type) where
  | ingest (e : Engine ν) (t : FileTree) (specs : List Spec)
  | ingestFile (e : Engine ν) (t : FileTree) (counting : Bool) (m : MatchedFile)
  | follow (s : Step ν)
  | removeFile (file : String)

namespace Operation

/-- The index after an operation, whether it succeeded or failed. -/
def run (i : Index ν) : Operation ν → Index ν
  | .ingest e t specs => (i.ingest e t specs).1
  | .ingestFile e t counting m => (i.ingestFile e t counting m).1
  | .follow s => i.follow s
  | .removeFile file => (i.removeFile file).1

/-- Whether an operation cuts files by built-in strategies only. -/
def Builtin : Operation ν → Prop
  | .ingest e _ specs => ∀ spec ∈ specs, e.registry.Builtin spec.strategy
  | .ingestFile e _ _ m => ∀ spec ∈ m.spec, e.registry.Builtin spec.strategy
  | .follow s => s.engine.registry.Builtin s.spec.strategy
  | .removeFile _ => True

end Operation

namespace Index

variable {e : Engine ν} {t : FileTree} {i : Index ν} {q : Point ν}

theorem wellFormed_run {op : Operation ν} (hop : op.Builtin) (h : ∀ p ∈ i.store, p.WellFormed) :
    ∀ p ∈ (op.run i).store, p.WellFormed := by
  intro p hp
  cases op with
  | ingest e t specs =>
    rcases mem_of_ingest hp with hp | ⟨spec, hs, m, hmake⟩
    · exact h p hp
    · exact hmake.wellFormed (hop spec hs)
  | ingestFile e t counting m =>
    simp only [Operation.run, ingestFile] at hp
    cases hm : m.spec with
    | none =>
      rw [hm] at hp
      exact h p hp
    | some spec =>
      simp only [hm, store_ingestFor] at hp
      rcases Engine.mem_persist hp with hp | hmake
      · exact h p hp
      · exact hmake.wellFormed (hop spec hm)
  | follow s =>
    rcases mem_follow s hp with hp | ⟨m, -, hmake⟩
    · exact h p hp
    · exact hmake.wellFormed hop
  | removeFile file => exact h p (List.mem_filter.mp hp).1

/-- Whatever is done with an index, its points carry their own
ids, their files and their contents. -/
theorem wellFormed_of_operations (stats : Stats) {ops : List (Operation ν)}
    (hops : ∀ op ∈ ops, op.Builtin) :
    ∀ p ∈ (ops.foldl Operation.run (.empty stats)).store, p.WellFormed := by
  have hrun : ∀ i : Index ν, (∀ p ∈ i.store, p.WellFormed) →
    ∀ p ∈ (ops.foldl Operation.run i).store,
      p.WellFormed := by
    induction ops with
    | nil => exact fun i hi => hi
    | cons op rest ih =>
      exact fun i hi => ih (fun op h => hops op (List.mem_cons_of_mem _ h)) _
        (wellFormed_run (hops op List.mem_cons_self) hi)
  exact hrun _ (by simp [empty])

end Index

namespace Sole

/-- A spec whose metadata and capture go by the names that belong to segments. -/
def posing : Spec where
  path := "/(?<content>a)"
  segments := [.literal "/", .capture "content" "a"]
  basePath := "/"
  strategy := "chunked"
  options := windows
  metadata := [("file_id", .str "b"), ("segment_id", .str "b#9"), ("doc_id", .null)]
  watch := false

/-- The file as it belongs to the posing spec. -/
def poser : MatchedFile where
  path := "/a"
  captures := [("content", "a")]
  metadata := Spec.withCaptures posing.metadata [("content", "a")]
  spec := some posing

/-- The file is ingested as it poses, and then the points of
the file that it posed as are removed. -/
def posed : List (Operation Unit) :=
  [.ingestFile env.engine (holding [97, 98, 99]) true poser, .removeFile "b"]

theorem store_posed : (posed.foldl Operation.run (.empty idle.index.stats)).store =
    PointStore.removeFile "b" (PointStore.upsertAll
      (env.engine.pointsFor (holding [97, 98, 99]) posing poser) []) := by
  simp only [posed, List.foldl_cons, List.foldl_nil, Operation.run, Index.removeFile,
    Index.ingestFile, poser, Index.store_ingestFor]
  rw [Engine.persist_eq fun _ => rfl]
  rfl

/-- No name that a source chooses takes the place of what is put into a payload. -/
theorem posed_wellFormed :
    (posed.foldl Operation.run (.empty idle.index.stats)).store.map (·.id) =
      ["/a#0", "/a#1", "/a#2"] ∧
      ∀ p ∈ (posed.foldl Operation.run (.empty idle.index.stats)).store, p.WellFormed := by
  refine ⟨?_, Index.wellFormed_of_operations idle.index.stats fun op hop => ?_⟩
  · rw [store_posed]
    decide +kernel
  · simp only [posed, List.mem_cons, List.not_mem_nil, or_false] at hop
    rcases hop with rfl | rfl
    · exact fun spec _ => (Registry.standard_builtin spec.strategy).builtin
    · exact trivial

end Sole

end SegmentIndex
