import SegmentIndex.Proofs.Payloads
import SegmentIndex.Proofs.Splitting
import SegmentIndex.Proofs.Writes

/-!
# Where the metadata of a point come from

The value under a key of a stored payload may come from the source, from a capture, from the
strategy or from the segment itself, and each of these overrides those before. A strategy cuts a
file in a way that does not depend on the metadata it is handed: it only puts values of its own over
them. So keys that a source gives for its strategy reach no payload, and captures that are named
like them change nothing about how a file is cut.
-/
namespace SegmentIndex

variable {ν : Type}

/-! ## Captures -/

namespace PathSpec

open Pattern

theorem keys_nodup_of_tokenNode {token : Token} {s s' : Scope} {node : Node} (hs : s.keys.Nodup)
    (h : tokenNode s token = .ok (node, s')) : s'.keys.Nodup := by
  cases token with
  | literal text =>
    cases h
    exact hs
  | glob recursive => cases recursive <;> (cases h; exact hs)
  | capture name pattern =>
    change readBody name s pattern.toList = _ at h
    unfold readBody at h
    split at h
    · cases h
    · rename_i i s₁ hopen
      split at h
      · cases h
      · rename_i body s₂ hread
        cases h
        have hbranches : Stage.branches.read (fuelFor pattern.toList) {} 1 false s₁ pattern.toList =
            .ok (body, s₂, []) := hread
        obtain ⟨ns, hreads⟩ := reads_of_read hbranches
        exact hreads.names_nodup (openGroup_nodup hopen hs)
      · cases h

theorem keys_nodup_of_tokenNodes {tokens : List Token} {s s' : Scope} {nodes : List Node}
    (hs : s.keys.Nodup) (h : tokenNodes s tokens = .ok (nodes, s')) : s'.keys.Nodup := by
  induction tokens generalizing s nodes with
  | nil =>
    cases h
    exact hs
  | cons token rest ih =>
    obtain ⟨node, s₁, nodes', hnode, hrest, -⟩ := exists_of_tokenNodes h
    exact ih (keys_nodup_of_tokenNode hs hnode) hrest

/-- The captures of a match have distinct names, whatever the patterns of the captures are. -/
theorem nodup_captures {tokens : List Token} {program : Program}
    (hp : PathSpec.program tokens = .ok program)
    (marks : List (Nat × List Char)) : ((program.captures marks).map (·.1)).Nodup := by
  obtain ⟨nodes, s, hnodes, rfl⟩ := exists_of_program hp
  have hkeys := keys_nodup_of_tokenNodes (s := {}) List.nodup_nil hnodes
  refine List.Nodup.sublist ?_ hkeys
  unfold Program.captures Scope.keys
  dsimp only
  generalize s.names = names
  induction names with
  | nil => exact List.Sublist.refl []
  | cons x rest ih =>
    cases hx : marks.lookup x.2 with
    | none => simpa [hx] using ih.cons x.1
    | some cs => simpa [hx] using ih.cons_cons x.1

end PathSpec

theorem Spec.of_mem_found {t : FileTree} {spec : Spec} {m : MatchedFile} (hm : m ∈ spec.found t) :
    (m.captures.map (·.1)).Nodup ∧ m.metadata = withCaptures spec.metadata m.captures := by
  unfold found matchFiles program at hm
  cases ht : PathSpec.canonicalTokens t spec.segments with
  | error f => simp [ht] at hm
  | ok tokens =>
    cases hp : PathSpec.program tokens with
    | error f => simp [ht, hp] at hm
    | ok p =>
      simp only [ht, hp] at hm
      split_ifs at hm
      · simp at hm
      · split at hm
        · rename_i files hall
          obtain ⟨marks, -, heq⟩ := Option.map_eq_some_iff.mp (mem_matchAll hall hm)
          rw [← heq]
          exact ⟨PathSpec.nodup_captures hp marks, rfl⟩
        · simp at hm

/-! ## Sources -/

namespace Source

variable {r : Registry} {watchDefault : Bool}

/-- The keys of a source that its strategy claims become options
of its spec, and the others metadata. -/
theorem compile_eq_ok {source : Source} {spec : Spec}
    (h : source.compile r watchDefault = .ok spec) :
    ∃ strategy, r.get source.ingest = .ok strategy ∧ spec.strategy = source.ingest ∧
      spec.options = source.extras.filter (fun x => strategy.optionKeys.contains x.1) ∧
      spec.metadata = source.extras.filter (fun x => !strategy.optionKeys.contains x.1) ∧
      spec.check r = .ok () := by
  unfold compile at h
  cases hs : r.get source.ingest with
  | error f => simp [hs] at h
  | ok strategy =>
    simp only [hs, Spec.bind, Spec.loose] at h
    cases hc : PathSpec.compile source.path with
    | error f => simp [hc, Except.map] at h
    | ok tokens =>
      simp only [hc, Except.map] at h
      split at h
      · cases h
      · rename_i u hcheck
        cases h
        exact ⟨strategy, rfl, rfl, rfl, rfl, hcheck⟩

theorem of_compileAll {sources : List Source} {specs : List Spec}
    (h : compileAll r watchDefault sources = .ok specs) :
    Index.checkSpecs r specs = .ok () ∧
      ∀ spec ∈ specs, ∃ source ∈ sources, source.compile r watchDefault = .ok spec := by
  induction sources generalizing specs with
  | nil =>
    cases h
    exact ⟨rfl, by simp⟩
  | cons source rest ih =>
    rw [compileAll] at h
    cases hs : source.compile r watchDefault with
    | error f => simp [hs] at h
    | ok spec =>
      simp only [hs] at h
      obtain ⟨more, hmore, rfl⟩ := Pattern.exists_of_map_eq_ok h
      obtain ⟨hcheck, hall⟩ := ih hmore
      obtain ⟨-, -, -, -, -, hspec⟩ := compile_eq_ok hs
      refine ⟨by rw [Index.checkSpecs, hspec, hcheck], ?_⟩
      rw [List.forall_mem_cons]
      refine ⟨⟨source, List.mem_cons_self, hs⟩, fun spec' hspec' => ?_⟩
      obtain ⟨source', hsource', hcompile⟩ := hall spec' hspec'
      exact ⟨source', List.mem_cons_of_mem _ hsource', hcompile⟩

end Source

namespace Entries

theorem get?_filter (keep : String → Bool) (entries : Entries) (key : String) :
    get? (entries.filter fun x => keep x.1) key = if keep key then get? entries key else none := by
  induction entries with
  | nil => simp
  | cons x rest ih =>
    obtain ⟨k, v⟩ := x
    rw [List.filter_cons]
    by_cases hk : key = k
    · subst hk
      cases hkeep : keep key with
      | true => simp [get?_cons]
      | false => simpa [hkeep] using ih
    · cases hkeep : keep k with
      | true => simp [get?_cons, hk, ih]
      | false => simp [get?_cons, hk, ih]

end Entries

/-! ## Cuts -/

/-- What a strategy says of a segment by itself. -/
inductive Own where
  | document
  | header (name : String)
  | window (index count offset : Nat)
  | element (e : CodeElement)

namespace Own

/-- What is said of the namespace of an element, if it has one. -/
def namespaceOf : Option String → Entries
  | some ns => if ns = "" then [] else [("namespace", .str ns)]
  | none => []

/-- The values that a strategy sets for a segment. -/
def entries : Own → Entries
  | .document => []
  | .header name => [("namespace", .str name)]
  | .window index count offset =>
    [("chunk_index", .int index), ("chunk_count", .int count), ("chunk_offset", .int offset)]
  | .element e =>
    [("element_type", .str e.kind), ("element_name", .str e.qualifiedName),
      ("language", .str e.language),
      ("visibility", .str e.visibility)] ++ namespaceOf e.ns

theorem nodup_entries (own : Own) : (own.entries.map (·.1)).Nodup := by
  have helement : ["element_type", "element_name", "language", "visibility",
      "namespace"].Nodup := by decide
  cases own with
  | document => exact List.nodup_nil
  | header name => exact List.nodup_singleton _
  | window index count offset =>
    change ["chunk_index", "chunk_count", "chunk_offset"].Nodup
    decide
  | element e =>
    refine List.Nodup.sublist ?_ helement
    rw [entries, List.map_append]
    refine List.Sublist.append (List.Sublist.refl _) ?_
    cases e.ns with
    | none => exact List.nil_sublist _
    | some ns =>
      unfold namespaceOf
      dsimp only
      split_ifs
      · exact List.nil_sublist _
      · exact List.Sublist.refl _

def keys : List String :=
  ["namespace", "chunk_index", "chunk_count", "chunk_offset", "element_type", "element_name",
   "language", "visibility"]

theorem keys_entries (own : Own) : own.entries.map (·.1) ⊆ keys := by
  cases own with
  | document => exact List.nil_subset _
  | header name =>
    change ["namespace"] ⊆ keys
    decide
  | window index count offset =>
    change ["chunk_index", "chunk_count", "chunk_offset"] ⊆ keys
    decide
  | element e =>
    rw [entries, List.map_append]
    refine List.append_subset.mpr ⟨?_, ?_⟩
    · change ["element_type", "element_name", "language", "visibility"] ⊆ keys
      decide
    · cases e.ns with
      | none => exact List.nil_subset _
      | some ns =>
        unfold namespaceOf
        dsimp only
        split_ifs
        · exact List.nil_subset _
        · change ["namespace"] ⊆ keys
          decide

theorem get?_entries {key : String} (h : key ∉ keys) (own : Own) :
    Entries.get? own.entries key = none :=
  Pattern.lookup_eq_none.mpr fun hmem => h (own.keys_entries hmem)

end Own

/-- A segment but for its file and the metadata that come with it. -/
structure Cut where
  index : Option Nat
  text : String
  content : String
  own : Own

namespace Cut

def id (c : Cut) (path : String) : String := segmentId path (c.index.map Int.ofNat)

/-- The segment of a cut of a file, over the metadata that come with the file. -/
def segment (c : Cut) (path : String) (metadata : Entries) : Segment :=
  Segment.make path (c.id path) c.text c.content (Entries.putAll metadata c.own.entries)

/-- The value under a key of the payload of a cut: what is fixed for all segments comes first, then
what the strategy sets, then the captures, and last the keys of the source that are no options. -/
def valueAt (c : Cut) (path : String) (captures : List (String × String)) (extras : Entries)
    (optionKeys : List String) (key : String) : Option Value :=
  if key = "content" then some (.str c.content)
  else if key = "file_id" ∨ key = "doc_id" then some (.str path)
  else if key = "segment_id" then some (.str (c.id path))
  else
    (Entries.get? c.own.entries key).or <| ((captures.lookup key).map .str).or <|
      if optionKeys.contains key then none else Entries.get? extras key

/-- Under a key that the strategy claims, nothing of what the source gives is found. -/
theorem valueAt_of_option {optionKeys : List String} {key : String} (h : key ∈ optionKeys) (c : Cut)
    (path : String) (captures : List (String × String)) (extras extras' : Entries) :
    c.valueAt path captures extras optionKeys key =
      c.valueAt path captures extras' optionKeys key := by
  have hclaimed : optionKeys.contains key = true := List.contains_iff_mem.mpr h
  simp only [valueAt, hclaimed, if_true]

theorem get?_pointOf (c : Cut) (path : String) (metadata : Entries) (v : ν) (key : String) :
    Entries.get? (Engine.pointOf (c.segment path metadata) v).payload key =
      if key = "content" then some (.str c.content)
      else if key = "file_id" ∨ key = "doc_id" then some (.str path)
      else if key = "segment_id" then some (.str (c.id path))
      else (Entries.get? c.own.entries key).or (Entries.get? metadata key) := by
  have hfixed : ([("file_id", Value.str path), ("segment_id", .str (c.id path)),
    ("doc_id", .str path)].map
      (·.1)).Nodup := by
    change ["file_id", "segment_id", "doc_id"].Nodup
    decide
  simp only [Engine.pointOf, segment, Segment.make, Entries.get?_put, Entries.get?_putAll hfixed,
    Entries.get?_putAll c.own.nodup_entries, Entries.get?_cons, Entries.get?_nil]
  by_cases hfile : key = "file_id"
  · simp [hfile]
  · by_cases hdoc : key = "doc_id"
    · simp [hdoc]
    · by_cases hsegment : key = "segment_id"
      · simp [hsegment]
      · simp [hfile, hdoc, hsegment]

end Cut

/-! ## The cuts of a file -/

/-- Whether the drafts of a file are cuts of it that do not
depend on the metadata that come with it. -/
def CutsOf (path : String) (draft : Entries → Except Failure (List Draft)) : Prop :=
  ∃ cuts : List Cut, ∀ metadata,
    draft metadata = .ok (cuts.map fun c => .ready (c.segment path metadata))

theorem map_mapIdx {α β γ : Type} (f : Nat → α → β) (g : β → γ) (xs : List α) :
    (xs.mapIdx f).map g = xs.mapIdx fun i a => g (f i a) :=
  List.ext_getElem (by simp) fun i hi hj => by simp

theorem EmbedChoice.exists_own {choice : EmbedChoice} {t : FileTree} {path content text : String}
    {more : Entries}
    (h : choice.text t path content = .ok (text, more)) : ∃ own : Own, more = own.entries := by
  cases choice with
  | wholeDocument =>
    cases h
    exact ⟨.document, rfl⟩
  | header =>
    unfold EmbedChoice.text at h
    obtain ⟨header, -, heq⟩ := Pattern.exists_of_map_eq_ok h
    cases heq
    exact ⟨.header header.name, rfl⟩

theorem cuts_single (name : String) (embed content : Value) {t : FileTree} {path text : String}
    {metadata options : Entries} {ds : List Draft}
    (h : (SingleChoice.strategy name embed content).draft t path text metadata options = .ok ds) :
    CutsOf path fun metadata => (SingleChoice.strategy name embed content).draft t path text
      metadata options := by
  simp only [SingleChoice.strategy, SingleChoice.segment] at h ⊢
  cases hc : SingleChoice.resolve embed content options with
  | error f => simp [hc] at h
  | ok c =>
    simp only [hc] at h ⊢
    cases ht : c.embed.text t path text with
    | error f => simp [ht, Except.map] at h
    | ok found =>
      obtain ⟨embedded, more⟩ := found
      obtain ⟨own, rfl⟩ := EmbedChoice.exists_own ht
      refine ⟨[⟨none, embedded, c.content.text path text, own⟩], fun metadata => ?_⟩
      simp only [Except.map]
      rfl

theorem cuts_windows {t : FileTree} {path content : String} {metadata options : Entries}
    {ds : List Draft} (h : WindowSizes.strategy.draft t path content metadata options = .ok ds) :
    CutsOf path fun metadata => WindowSizes.strategy.draft t path content metadata options := by
  simp only [WindowSizes.strategy] at h ⊢
  cases hw : WindowSizes.resolve options with
  | error f => simp [hw, Except.map] at h
  | ok w =>
    refine ⟨(Chunk.chunks w.size w.overlap content).mapIdx fun i window =>
      ⟨some i, window.2, window.2, .window i (Chunk.chunks w.size w.overlap content).length
        window.1⟩, fun metadata => ?_⟩
    simp only [Except.map, WindowSizes.segments, map_mapIdx]
    rfl

theorem CodeElement.metadata_eq (e : CodeElement) (source : Entries) :
    e.metadata source = Entries.putAll source (Own.element e).entries := by
  cases hns : e.ns with
  | none => simp [metadata, hns, Own.entries, Own.namespaceOf]
  | some ns =>
    by_cases hempty : ns = ""
    · simp [metadata, hns, hempty, Own.entries, Own.namespaceOf]
    · simp [metadata, hns, hempty, Own.entries, Own.namespaceOf, Entries.putAll]

theorem cuts_elements (analyze : Analyzer) {t : FileTree} {path content : String}
    {metadata options : Entries} {ds : List Draft}
    (h : (elementStrategy analyze).draft t path content metadata options = .ok ds) :
    CutsOf path fun metadata => (elementStrategy analyze).draft t path content metadata
      options := by
  simp only [elementStrategy] at h ⊢
  cases hs : ElementSelection.resolve options with
  | error f => simp [hs] at h
  | ok s =>
    simp only [hs] at h ⊢
    cases ha : asAnalysis path (analyze t path) with
    | error f => simp [ha, Except.map] at h
    | ok es =>
      refine ⟨(es.filter s.keeps).mapIdx fun i e =>
        ⟨some i, e.embedText, Json.encodeAscii e.toValue, .element e⟩,
        fun metadata => ?_⟩
      simp only [Except.map, map_mapIdx, CodeElement.segment, CodeElement.metadata_eq]
      rfl

/-- A built-in strategy that cuts a file at all cuts it in the
same way whatever metadata come with it. -/
theorem Strategy.IsBuiltin.cuts {s : Strategy} (hs : s.IsBuiltin) {t : FileTree}
    {path content : String} {metadata options : Entries} {ds : List Draft}
    (h : s.draft t path content metadata options = .ok ds) :
    CutsOf path fun metadata => s.draft t path content metadata options := by
  obtain ⟨analyze, hs⟩ := hs
  simp only [Registry.builtin, SingleChoice.builtin, List.cons_append, List.nil_append,
    List.mem_cons, List.not_mem_nil, or_false] at hs
  rcases hs with rfl | rfl | rfl | rfl | rfl | rfl
  · exact cuts_single _ _ _ h
  · exact cuts_single _ _ _ h
  · exact cuts_single _ _ _ h
  · exact cuts_single _ _ _ h
  · exact cuts_windows h
  · exact cuts_elements analyze h

theorem Draft.validateAll_of_faultless {path : Option String} {ds : List Draft}
    (h : ∀ d ∈ ds, d.fault? = none) :
    Draft.validateAll path ds = .ok ds := by
  induction ds with
  | nil => rfl
  | cons d ds ih =>
    obtain ⟨hd, hrest⟩ := List.forall_mem_cons.mp h
    simp only [validateAll, validate, hd, ih hrest, Except.map]

namespace Engine

variable {e : Engine ν} {t : FileTree} {spec : Spec} {m : MatchedFile}

/-- The segments of a file are cuts of it over its metadata, and would be
the same cuts over any other metadata. -/
theorem cuts_segmentsOf (hb : e.registry.Builtin spec.strategy) {segments : List Segment}
    (h : e.segmentsOf t spec m = .ok segments) : ∃ cuts : List Cut, ∀ captures metadata,
      e.segmentsOf t spec { m with captures := captures, metadata := metadata } =
        .ok (cuts.map (·.segment m.path metadata)) := by
  unfold segmentsOf at h ⊢
  cases hr : t.readText e.encoding m.path with
  | error f => simp [hr] at h
  | ok content =>
    simp only [hr, Registry.process] at h ⊢
    cases hs : e.registry.get spec.strategy with
    | error f => simp [hs, Except.map] at h
    | ok s =>
      simp only [hs] at h ⊢
      cases hd : s.draft t m.path content m.metadata spec.options with
      | error f => simp [hd, Except.map] at h
      | ok ds =>
        simp only [hd] at h
        cases hv : Draft.validateAll (some m.path) ds with
        | error f => simp [hv, Except.map] at h
        | ok accepted =>
          obtain ⟨cuts, hcuts⟩ := (hb s hs).cuts hd
          obtain rfl := Except.ok.inj (hd.symm.trans (hcuts m.metadata))
          obtain ⟨-, hfaults⟩ := Draft.of_validateAll hv
          refine ⟨cuts, fun captures metadata => ?_⟩
          have hsound : ∀ d ∈ cuts.map (fun c => Draft.ready (c.segment m.path metadata)),
              d.fault? = none := by
            intro d hd
            obtain ⟨c, hc, rfl⟩ := List.mem_map.mp hd
            have hfault : (Draft.ready (c.segment m.path m.metadata)).fault? = none :=
              hfaults _ (List.mem_map.mpr ⟨c, hc, rfl⟩)
            exact hfault
          simp only [hcuts metadata, Draft.validateAll_of_faultless hsound, Except.map,
            List.map_map]
          rfl

end Engine

/-- What an ingest stores for the sources of a configuration. Every point that it puts into the
store is that of a segment of a file which the spec of a source matches, and if the strategy of the
source is a built-in one, the segment is a cut of the file that does not depend on captures and
metadata, with values from the segment, the strategy, the captures and the source, in this order;
what the source gives under a key that the strategy claims is not among them. -/
theorem Index.payloads_of_ingest {e : Engine ν} {watchDefault : Bool} {sources : List Source}
    {specs : List Spec} (hspecs : Source.compileAll e.registry watchDefault sources = .ok specs)
    (t : FileTree) (i : Index ν) :
    (i.ingest e t specs).1.store =
      PointStore.upsertAll (Engine.pointsOf (e.writtenAll t specs)) i.store ∧
    ∀ q ∈ Engine.pointsOf (e.writtenAll t specs), ∃ source ∈ sources, ∃ strategy spec,
      e.registry.get source.ingest = .ok strategy ∧
        source.compile e.registry watchDefault = .ok spec ∧
      spec.options = source.extras.filter (fun x => strategy.optionKeys.contains x.1) ∧
      ∃ m ∈ spec.found t,
        e.Makes t spec m q ∧ (strategy.IsBuiltin → ∃ cuts : List Cut,
          (∀ captures metadata, e.segmentsOf t spec { m with
            captures := captures, metadata := metadata } =
            .ok (cuts.map (·.segment m.path metadata))) ∧
          ∃ c ∈ cuts, q.id = c.id m.path ∧
            (∀ key,
              Entries.get? q.payload key = c.valueAt m.path m.captures source.extras
                strategy.optionKeys key) ∧
            ∀ key ∈ strategy.optionKeys, ∀ extras,
              Entries.get? q.payload key = c.valueAt m.path m.captures extras strategy.optionKeys
                key) := by
  obtain ⟨hcheck, hsources⟩ := Source.of_compileAll hspecs
  refine ⟨(written_ingest hcheck).1, fun q hq => ?_⟩
  obtain ⟨⟨segment, v⟩, hb, rfl⟩ := List.mem_map.mp hq
  obtain ⟨spec, hspec, m, hm, hwritten⟩ := Engine.mem_writtenAll hb
  obtain ⟨source, hsource, hcompile⟩ := hsources spec hspec
  obtain ⟨strategy, hget, hname, hoptions, hmetadata, -⟩ := Source.compile_eq_ok hcompile
  obtain ⟨segments, hsegments, hmem⟩ := Engine.of_mem_written hwritten
  refine ⟨source, hsource, strategy, spec, hget, hcompile, hoptions, m, hm,
    ⟨segments, hsegments, segment, hmem, v, rfl⟩,
    fun hbuiltin => ?_⟩
  have hb : e.registry.Builtin spec.strategy := by
    intro s hs
    rw [hname, hget] at hs
    cases hs
    exact hbuiltin
  obtain ⟨cuts, hcuts⟩ := Engine.cuts_segmentsOf hb hsegments
  obtain rfl := Except.ok.inj (hsegments.symm.trans (hcuts m.captures m.metadata))
  obtain ⟨c, hc, rfl⟩ := List.mem_map.mp hmem
  obtain ⟨hnodup, hfound⟩ := Spec.of_mem_found hm
  have hsourced : ∀ key, Entries.get? m.metadata key = ((m.captures.lookup key).map .str).or
      (if strategy.optionKeys.contains key then none else Entries.get? source.extras key) := by
    intro key
    rw [hfound, Spec.get?_withCaptures hnodup, hmetadata,
      Entries.get?_filter (fun k => !strategy.optionKeys.contains k)]
    cases strategy.optionKeys.contains key <;> rfl
  have hvalue : ∀ key, Entries.get? (Engine.pointOf (c.segment m.path m.metadata) v).payload key =
      c.valueAt m.path m.captures source.extras strategy.optionKeys key := by
    intro key
    rw [Cut.get?_pointOf, hsourced]
    rfl
  refine ⟨cuts, hcuts, c, hc, rfl, hvalue, fun key hkey extras => ?_⟩
  rw [hvalue]
  exact c.valueAt_of_option hkey ..

namespace Sole

/-- A source with options, a key that its strategy sets and one of its own; its capture goes by the
name of an option and takes nothing of the file's path. -/
def claiming : Source where
  path := "/a(?<chunk_size>b?)"
  ingest := "chunked"
  watch := none
  extras := windows ++ [("chunk_index", .str "first"), ("team", .str "t")]

def claimed : Spec where
  path := "/a(?<chunk_size>b?)"
  segments := [.literal "/a", .capture "chunk_size" "b?"]
  basePath := "/a"
  strategy := "chunked"
  options := windows
  metadata := [("chunk_index", .str "first"), ("team", .str "t")]
  watch := true

def claimedFile : MatchedFile where
  path := "/a"
  captures := [("chunk_size", "")]
  metadata := Spec.withCaptures claimed.metadata [("chunk_size", "")]
  spec := some claimed

theorem matchFiles_claimed : claimed.matchFiles (holding [97, 98, 99]) = .ok [claimedFile] := by
  have htokens : PathSpec.canonicalTokens (holding [97, 98, 99]) claimed.segments =
      .ok claimed.segments := by decide +kernel
  have hlong : (holding [97, 98, 99]).isTooLong (Path.clean "/a") = false := by decide +kernel
  have hcandidates : Spec.candidates (holding [97, 98, 99]) "/a" = ["/a"] := by decide +kernel
  obtain ⟨p, hp, hall⟩ : ∃ p, PathSpec.program claimed.segments = .ok p ∧
      Spec.matchAll (holding [97, 98, 99]) claimed p ["/a"] = .ok [claimedFile] :=
        ⟨_, by cbv, by cbv⟩
  have hbase : PathSpec.baseOf claimed.segments = "/a" := by decide +kernel
  simp only [Spec.matchFiles, Spec.program, htokens, hp, hbase, hlong, hcandidates, hall]
  rfl

/-- Windows of two characters are made, as the option says; the
payloads have the capture under its name. -/
theorem payloads_claimed : Source.compileAll env.engine.registry true [claiming] = .ok [claimed] ∧
    (Engine.pointsOf (env.engine.writtenAll (holding [97, 98, 99]) [claimed])).map (·.id) =
      ["/a#0", "/a#1", "/a#2"] ∧
    ∀ q ∈ Engine.pointsOf (env.engine.writtenAll (holding [97, 98, 99]) [claimed]),
      Entries.get? q.payload "chunk_size" = some (.str "") ∧
        Entries.get? q.payload "team" = some (.str "t") ∧
        Entries.get? q.payload "chunk_overlap" = none := by
  have hcompile : Source.compileAll env.engine.registry true [claiming] = .ok [claimed] := by
    decide +kernel
  have hids : (env.engine.pointsFor (holding [97, 98, 99]) claimed claimedFile).map (·.id) =
      ["/a#0", "/a#1", "/a#2"] := by decide +kernel
  refine ⟨hcompile, ?_, fun q hq => ?_⟩
  · simp only [Engine.writtenAll, matchFiles_claimed, List.flatMap_singleton, List.append_nil]
    rw [Engine.pointsOf_written fun _ => rfl, hids]
  · obtain ⟨-, hall⟩ := Index.payloads_of_ingest hcompile (holding [97, 98, 99])
      (.empty idle.index.stats)
    obtain ⟨source, hsource, strategy, spec, hget, hspec, -, m, hm, -, hcuts⟩ := hall q hq
    obtain rfl := List.mem_singleton.mp hsource
    have hstrategy : env.engine.registry.get claiming.ingest = .ok WindowSizes.strategy := by rfl
    obtain rfl := Except.ok.inj (hstrategy.symm.trans hget)
    have hclaimed : claiming.compile env.engine.registry true = .ok claimed := by decide +kernel
    obtain rfl := Except.ok.inj (hclaimed.symm.trans hspec)
    rw [Spec.found, matchFiles_claimed] at hm
    obtain rfl := List.mem_singleton.mp hm
    obtain ⟨cuts, -, c, -, -, hvalue, -⟩ := hcuts (Registry.builtin_builtin _ _ _ hstrategy)
    refine ⟨?_, ?_, ?_⟩
    · rw [hvalue, Cut.valueAt, Own.get?_entries (by decide)]
      rfl
    · rw [hvalue, Cut.valueAt, Own.get?_entries (by decide)]
      rfl
    · rw [hvalue, Cut.valueAt, Own.get?_entries (by decide)]
      rfl

end Sole

end SegmentIndex
