import SegmentIndex.Proofs.Precedence
import SegmentIndex.Search

/-!
# Filters that find something

The choices that the schema offers for a field are the plain forms of the values that the field has
had, and a filter asks for a point that has the text itself. So a choice that was made of a number,
a truth value or a list finds nothing, although it is offered. After an ingest into an empty index,
a choice finds something exactly if a point has the text under the field and was not written over by
a later one of the same id.
-/
namespace SegmentIndex

variable {ν : Type}

/-! ## What is offered -/

namespace Table

variable {α : Type}

theorem of_mem_alter {key k : String} {f : Option α → α} {t : Table α} {a : α}
    (h : (k, a) ∈ alter key f t) :
    (k, a) ∈ t ∨ k = key ∧ (a = f none ∨ ∃ old, (key, old) ∈ t ∧ a = f (some old)) := by
  induction t with
  | nil =>
    obtain ⟨rfl, rfl⟩ := Prod.mk.inj (List.mem_singleton.mp h)
    exact .inr ⟨rfl, .inl rfl⟩
  | cons x rest ih =>
    obtain ⟨k', old⟩ := x
    unfold alter at h
    split_ifs at h with hk
    · rcases List.mem_cons.mp h with heq | hmem
      · obtain ⟨rfl, rfl⟩ := Prod.mk.inj heq
        exact .inr ⟨hk, .inr ⟨old, by rw [← hk]; exact List.mem_cons_self, rfl⟩⟩
      · exact .inl (List.mem_cons_of_mem _ hmem)
    · rcases List.mem_cons.mp h with heq | hmem
      · rw [heq]
        exact .inl List.mem_cons_self
      · rcases ih hmem with hrest | ⟨rfl, hnone | ⟨old', hold, ha⟩⟩
        · exact .inl (List.mem_cons_of_mem _ hrest)
        · exact .inr ⟨rfl, .inl hnone⟩
        · exact .inr ⟨rfl, .inr ⟨old', List.mem_cons_of_mem _ hold, ha⟩⟩

end Table

namespace Value

theorem of_mem_addTo {set : List Value} {v w : Value} (h : w ∈ addTo set v) : w ∈ set ∨ w = v := by
  unfold addTo at h
  split_ifs at h
  · exact .inl h
  · simpa using h

theorem plain_indexed (v : Value) : (Stats.indexed v).plain = v.plain := by
  unfold Stats.indexed
  split_ifs
  · rfl
  · rw [plain]

theorem same_str {v : Value} {text : String} : same v (.str text) = true ↔ v = .str text := by
  cases v <;> simp [same, numberParts]

end Value

theorem Stats.of_mem_remembered {entries : Entries} {values : Table (List Value)} {field : String}
    {vs : List Value} {v : Value} (h : (field, vs) ∈ entries.foldl remember values) (hv : v ∈ vs) :
    (∃ vs', (field, vs') ∈ values ∧ v ∈ vs') ∨ ∃ x, (field, x) ∈ entries ∧ v = indexed x := by
  induction entries generalizing values with
  | nil => exact .inl ⟨vs, h, hv⟩
  | cons entry rest ih =>
    rcases ih h with ⟨vs', hmem, hv'⟩ | ⟨x, hx, rfl⟩
    · rcases Table.of_mem_alter hmem with hmem | ⟨rfl, hnew⟩
      · exact .inl ⟨vs', hmem, hv'⟩
      · rcases hnew with rfl | ⟨old, hold, rfl⟩
        · rcases Value.of_mem_addTo hv' with hv' | rfl
          · simp at hv'
          · exact .inr ⟨entry.2, List.mem_cons_self, rfl⟩
        · rcases Value.of_mem_addTo hv' with hv' | rfl
          · exact .inl ⟨old, hold, hv'⟩
          · exact .inr ⟨entry.2, List.mem_cons_self, rfl⟩
    · exact .inr ⟨x, List.mem_cons_of_mem _ hx, rfl⟩

namespace Schema

theorem mem_dedup {texts : List String} {text : String} : text ∈ dedup texts ↔ text ∈ texts := by
  induction texts with
  | nil => rfl
  | cons a rest ih =>
    cases rest with
    | nil => rfl
    | cons b rest =>
      rw [dedup]
      split_ifs with hab
      · rw [ih, hab]
        simp
      · rw [List.mem_cons, ih, List.mem_cons (l := b :: rest)]

/-- Whether the schema of the filters offers a choice for a field. -/
def Offers (s : Stats) (field choice : String) : Prop :=
  ∃ choices, (field, choices) ∈ fields s.metadataValues ∧ choice ∈ choices

theorem offers_iff {s : Stats} {field choice : String} :
    Offers s field choice ↔ ∃ vs, (field, vs) ∈ s.values ∧ ∃ v ∈ vs, v.plain = choice := by
  have hchoice : ∀ vs : List Value, choice ∈ choices vs ↔ ∃ v ∈ vs, v.plain = choice := by
    intro vs
    rw [choices, mem_dedup, Value.sortTexts, List.mem_mergeSort, List.mem_map]
  simp only [Offers, fields, Stats.metadataValues, Stats.byKey, List.mem_map, List.mem_mergeSort,
    Prod.exists, Prod.mk.injEq]
  constructor
  · rintro ⟨_, ⟨_, _, ⟨k, vs, hvs, rfl, rfl⟩, rfl, rfl⟩, hmem⟩
    rw [hchoice] at hmem
    exact ⟨vs, hvs, by simpa [List.mem_mergeSort] using hmem⟩
  · rintro ⟨vs, hvs, hmem⟩
    refine ⟨_, ⟨_, _, ⟨field, vs, hvs, rfl, rfl⟩, rfl, rfl⟩, ?_⟩
    rw [hchoice]
    simpa [List.mem_mergeSort] using hmem

end Schema

/-! ## What is found -/

namespace PointStore

variable {p : Point ν} {ps s : List (Point ν)}

theorem mem_upsertAll_nil : p ∈ upsertAll ps [] ↔
    ∃ before after, ps = before ++ p :: after ∧ ∀ later ∈ after, later.id ≠ p.id := by
  induction ps using List.reverseRecOn with
  | nil => simp [upsertAll]
  | append_singleton ps q ih =>
    have hempty : Distinct ([] : PointStore ν) := List.nodup_nil
    have hd := hempty.upsertAll ps
    have hlast : upsertAll (ps ++ [q]) [] = upsert q (upsertAll ps []) := by simp [upsertAll]
    rw [hlast, mem_upsert_iff hd, ih]
    constructor
    · rintro (rfl | ⟨⟨before, after, rfl, hafter⟩, hid⟩)
      · exact ⟨ps, [], rfl, by simp⟩
      · refine ⟨before, after ++ [q], by simp, fun later hlater => ?_⟩
        rcases List.mem_append.mp hlater with hlater | hlater
        · exact hafter later hlater
        · rw [List.mem_singleton.mp hlater]
          exact hid.symm
    · rintro ⟨before, after, heq, hafter⟩
      rcases List.eq_nil_or_concat after with rfl | ⟨after, x, rfl⟩
      · exact .inl (by simpa using (List.append_inj' heq rfl).2.symm)
      · rw [List.concat_eq_append] at heq hafter
        have hsplit : ps ++ [q] = (before ++ p :: after) ++ [x] := by simpa using heq
        obtain ⟨rfl, hx⟩ := List.append_inj' hsplit rfl
        obtain rfl := List.singleton_inj.mp hx
        refine .inr ⟨⟨before, after, rfl,
          fun later hlater => hafter later (List.mem_append_left _ hlater)⟩, ?_⟩
        exact (hafter q (by simp)).symm

theorem search_one_ne_nil {score : Point ν → Int} {filters : Entries} :
    search score 1 filters s ≠ [] ↔ ∃ p ∈ s, matchesAll filters p = true := by
  have hone : ∀ found : List (Point ν × Int), found.take 1 ≠ [] ↔ ∃ x, x ∈ found := by
    intro found
    cases found with
    | nil => simp
    | cons x rest => exact iff_of_true (by simp) ⟨x, List.mem_cons_self⟩
  simp only [search, byId, hone, List.mem_mergeSort, List.mem_map, List.mem_filter]
  constructor
  · rintro ⟨_, p, hp, rfl⟩
    exact ⟨p, hp⟩
  · rintro ⟨p, hp⟩
    exact ⟨_, p, hp, rfl⟩

theorem matchesAll_str {field text : String} :
    matchesAll [(field, .str text)] p = true ↔ Entries.get? p.payload field = some (.str text) := by
  simp only [matchesAll, List.all_cons, List.all_nil, Bool.and_true, Value.same_str]
  cases Entries.get? p.payload field with
  | none => simp
  | some v => simp

end PointStore

/-- A search with one filter has a hit exactly if a point has the value,
if it has a query that can be embedded. -/
theorem Search.exists_run_iff {e : Engine ν} {query : String} {v : ν}
    (hquery : Text.allBlank query = false) (hv : e.embed query = .ok v) (score : ν → ν → Int)
    (store : PointStore ν) (field text : String) :
    ∃ hits, run e score store query 1 (.map [(field, .str text)]) = .ok hits ∧
      (hits ≠ [] ↔ ∃ p ∈ store, Entries.get? p.payload field = some (.str text)) := by
  have hcheck : check query 1 (.map [(field, .str text)]) = .ok (1, [(field, .str text)]) := by
    simp [check, hquery, maxLimit]
  rw [run, hcheck]
  simp only [hv, Except.map]
  refine ⟨_, rfl, ?_⟩
  rw [ne_eq, List.map_eq_nil_iff, ← ne_eq, PointStore.search_one_ne_nil]
  simp only [PointStore.matchesAll_str]

/-! ## Keys -/

namespace Entries

theorem of_mem_keys_put {key k : String} {v : Value} {entries : Entries}
    (h : k ∈ (put key v entries).map (·.1)) :
    k = key ∨ k ∈ entries.map (·.1) := by
  induction entries with
  | nil => exact .inl (by simpa [put] using h)
  | cons x rest ih =>
    unfold put at h
    split_ifs at h with hx
    · exact .inr (by simpa using h)
    · rcases List.mem_cons.mp h with rfl | hrest
      · exact .inr List.mem_cons_self
      · exact (ih hrest).imp_right (List.mem_cons_of_mem _)

theorem nodup_put {entries : Entries} (h : (entries.map (·.1)).Nodup) (key : String) (v : Value) :
    ((put key v entries).map (·.1)).Nodup := by
  induction entries with
  | nil => exact List.nodup_singleton _
  | cons x rest ih =>
    obtain ⟨k, w⟩ := x
    rw [List.map_cons, List.nodup_cons] at h
    unfold put
    split_ifs with hk
    · rw [List.map_cons, List.nodup_cons]
      exact h
    · rw [List.map_cons, List.nodup_cons]
      refine ⟨fun hmem => ?_, ih h.2⟩
      rcases of_mem_keys_put hmem with heq | hmem
      · exact hk heq
      · exact h.1 hmem

theorem nodup_putAll {entries : Entries} (h : (entries.map (·.1)).Nodup) (more : Entries) :
    ((putAll entries more).map (·.1)).Nodup := by
  induction more generalizing entries with
  | nil => exact h
  | cons x rest ih => exact ih (nodup_put h x.1 x.2)

theorem get?_of_mem {entries : Entries} (h : (entries.map (·.1)).Nodup) {key : String} {v : Value}
    (hmem : (key, v) ∈ entries) : get? entries key = some v := by
  induction entries with
  | nil => simp at hmem
  | cons x rest ih =>
    obtain ⟨k, w⟩ := x
    rw [List.map_cons, List.nodup_cons] at h
    rw [get?_cons]
    rcases List.mem_cons.mp hmem with heq | hmem
    · obtain ⟨rfl, rfl⟩ := Prod.mk.inj heq
      exact if_pos rfl
    · have hne : key ≠ k := fun heq => h.1 (heq ▸ List.mem_map.mpr ⟨_, hmem, rfl⟩)
      rw [if_neg hne, ih h.2 hmem]

end Entries

/-- What is written into an empty store stays unless a later segment has the same id. -/
theorem Engine.mem_upsertAll_pointsOf {batch : List (Segment × ν)} {p : Point ν} :
    p ∈ PointStore.upsertAll (pointsOf batch) [] ↔ ∃ before b after, batch = before ++ b :: after ∧
      (∀ later ∈ after, later.1.id ≠ b.1.id) ∧ pointOf b.1 b.2 = p := by
  rw [PointStore.mem_upsertAll_nil]
  constructor
  · rintro ⟨before, after, heq, hlast⟩
    obtain ⟨batch₁, batch₂, rfl, rfl, hrest⟩ := List.map_eq_append_iff.mp heq
    obtain ⟨b, rest, rfl, rfl, rfl⟩ := List.map_eq_cons_iff.mp hrest
    refine ⟨batch₁, b, rest, rfl, fun later hlater => ?_, rfl⟩
    exact hlast _ (List.mem_map.mpr ⟨later, hlater, rfl⟩)
  · rintro ⟨before, b, after, rfl, hlast, rfl⟩
    refine ⟨pointsOf before, pointsOf after, by simp [pointsOf], fun later hlater => ?_⟩
    obtain ⟨x, hx, rfl⟩ := List.mem_map.mp hlater
    exact hlast x hx

/-- The metadata of what is stored have distinct keys if those of the specs have. -/
theorem Engine.nodup_written {e : Engine ν} {t : FileTree} {specs : List Spec}
    (hb : ∀ spec ∈ specs, e.registry.Builtin spec.strategy)
    (hkeys : ∀ spec ∈ specs, (spec.metadata.map (·.1)).Nodup) {b : Segment × ν}
    (hmem : b ∈ e.writtenAll t specs) :
    (b.1.metadata.map (·.1)).Nodup := by
  obtain ⟨spec, hspec, m, hm, hwritten⟩ := mem_writtenAll hmem
  obtain ⟨segments, hsegments, hsegment⟩ := of_mem_written hwritten
  obtain ⟨cuts, hcuts⟩ := cuts_segmentsOf (hb spec hspec) hsegments
  obtain rfl := Except.ok.inj (hsegments.symm.trans (hcuts m.captures m.metadata))
  obtain ⟨c, -, hc⟩ := List.mem_map.mp hsegment
  rw [← hc, Cut.segment, Segment.make, (Spec.of_mem_found hm).2]
  exact Entries.nodup_putAll (Entries.nodup_putAll (Entries.nodup_putAll (hkeys spec hspec) _) _) _

/-! ## Ingests without failures -/

namespace Index

variable {e : Engine ν} {t : FileTree} {i : Index ν}

/-- What was offered after an ingest without failures is the
plain form of a value of a stored segment. -/
theorem exists_of_offers {specs : List Spec} (hcheck : checkSpecs e.registry specs = .ok ())
    (hvalues : i.stats.values = []) {report : Report}
    (hreport : (i.ingest e t specs).2 = .ok report) (hfailures : report.failures = [])
    {field choice : String} (h : Schema.Offers (i.ingest e t specs).1.stats field choice) :
    ∃ b ∈ e.writtenAll t specs, ∃ x, (field, x) ∈ b.1.metadata ∧ x.plain = choice := by
  have hall : ∀ spec ∈ specs, ∀ m ∈ spec.found t, (e.resultFor t spec m).ok = true := by
    rw [report_ingest specs hcheck] at hreport
    obtain ⟨results, hresults, rfl⟩ := Pattern.exists_of_map_eq_ok hreport
    rw [Report.failures, Report.results_ofResults, List.filter_eq_nil_iff] at hfailures
    intro spec hspec m hm
    have hmem : e.resultFor t spec m ∈ results := by
      rw [((e.resultsFor_eq_ok_iff t).mp hresults).2, List.mem_flatMap]
      exact ⟨spec, hspec, List.mem_map_of_mem hm⟩
    simpa using hfailures _ hmem
  obtain ⟨vs, hvs, v, hv, hplain⟩ := Schema.offers_iff.mp h
  rw [(written_ingest hcheck).2, hvalues, Engine.notedAll_of_ok hall] at hvs
  rcases Stats.of_mem_remembered hvs hv with ⟨vs', hnone, -⟩ | ⟨x, hx, rfl⟩
  · simp at hnone
  · obtain ⟨metadata, hmetadata, hx⟩ := List.mem_flatten.mp hx
    obtain ⟨b, hb, rfl⟩ := List.mem_map.mp hmetadata
    exact ⟨b, hb, x, hx, (Value.plain_indexed x).symm.trans hplain⟩

/-- After an ingest into an empty index without failures, a choice that the schema offers for a
field is the plain form of a value of a segment. A search with this filter finds a point exactly if
a segment that no later one of the same id displaces has the text itself under the field in its
payload. So it does if the field is not the content, has had texts only, and the ids of all segments
are distinct. -/
theorem offered_finds_iff {watchDefault : Bool} {sources : List Source} {specs : List Spec}
    (hspecs : Source.compileAll e.registry watchDefault sources = .ok specs)
    (hb : ∀ source ∈ sources, e.registry.Builtin source.ingest)
    (hextras : ∀ source ∈ sources, (source.extras.map (·.1)).Nodup) (hstore : i.store = [])
    (hvalues : i.stats.values = []) {report : Report}
    (hreport : (i.ingest e t specs).2 = .ok report)
    (hfailures : report.failures = []) {field choice : String}
    (hoffers : Schema.Offers (i.ingest e t specs).1.stats field choice) {query : String} {v : ν}
    (hquery : Text.allBlank query = false) (hv : e.embed query = .ok v) (score : ν → ν → Int) :
    (∃ b ∈ e.writtenAll t specs, ∃ x, Entries.get? b.1.metadata field = some x ∧ x.plain = choice) ∧
    ∃ hits, Search.run e score (i.ingest e t specs).1.store query 1 (.map [(field, .str choice)]) =
      .ok hits ∧
      (hits ≠ [] ↔ ∃ before b after, e.writtenAll t specs = before ++ b :: after ∧
        (∀ later ∈ after, later.1.id ≠ b.1.id) ∧
        Entries.get? (Engine.pointOf b.1 b.2).payload field = some (.str choice)) ∧
      ((∀ b ∈ e.writtenAll t specs, ∀ x, Entries.get? b.1.metadata field = some x → ∃ text,
        x = .str text) →
        field ≠ "content" → ((e.writtenAll t specs).map (·.1.id)).Nodup → hits ≠ []) := by
  obtain ⟨hcheck, hsources⟩ := Source.of_compileAll hspecs
  have hspec : ∀ spec ∈ specs, e.registry.Builtin spec.strategy ∧
      (spec.metadata.map (·.1)).Nodup := by
    intro spec hmem
    obtain ⟨source, hsource, hcompile⟩ := hsources spec hmem
    obtain ⟨strategy, -, hname, -, hmetadata, -⟩ := Source.compile_eq_ok hcompile
    rw [hname, hmetadata]
    exact ⟨hb source hsource, List.Nodup.sublist (List.filter_sublist.map _)
      (hextras source hsource)⟩
  obtain ⟨b, hwritten, x, hx, hplain⟩ := exists_of_offers hcheck hvalues hreport hfailures hoffers
  have hnodup := Engine.nodup_written (fun s hs => (hspec s hs).1) (fun s hs =>
    (hspec s hs).2) hwritten
  have hseen := Entries.get?_of_mem hnodup hx
  obtain ⟨hits, hrun, hhits⟩ :=
    Search.exists_run_iff hquery hv score (i.ingest e t specs).1.store field choice
  have hiff : hits ≠ [] ↔ ∃ before b after, e.writtenAll t specs = before ++ b :: after ∧
      (∀ later ∈ after, later.1.id ≠ b.1.id) ∧
      Entries.get? (Engine.pointOf b.1 b.2).payload field = some (.str choice) := by
    rw [hhits, (written_ingest hcheck).1, hstore]
    simp only [Engine.mem_upsertAll_pointsOf]
    constructor
    · rintro ⟨_, ⟨before, b, after, hsplit, hlast, rfl⟩, hvalue⟩
      exact ⟨before, b, after, hsplit, hlast, hvalue⟩
    · rintro ⟨before, b, after, hsplit, hlast, hvalue⟩
      exact ⟨_, ⟨before, b, after, hsplit, hlast, rfl⟩, hvalue⟩
  refine ⟨⟨b, hwritten, x, hseen, hplain⟩, hits, hrun, hiff, fun htexts hcontent hids =>
    hiff.mpr ?_⟩
  obtain ⟨text, rfl⟩ := htexts b hwritten x hseen
  obtain rfl : text = choice := by rwa [Value.plain] at hplain
  obtain ⟨before, after, hsplit⟩ := List.append_of_mem hwritten
  refine ⟨before, b, after, hsplit, fun later hlater heq => ?_, ?_⟩
  · rw [hsplit, List.map_append, List.map_cons, List.nodup_append, List.nodup_cons] at hids
    exact hids.2.1.1 (List.mem_map.mpr ⟨later, hlater, heq⟩)
  · rw [Engine.pointOf, Entries.get?_put, if_neg hcontent, hseen]

end Index

namespace Sole

/-- The only segment of a file of one character. -/
def lone : Segment :=
  Segment.make "/a" "/a#0" "d" "d" [("chunk_index", .int 0), ("chunk_count", .int 1),
    ("chunk_offset", .int 0)]

/-- The index after an ingest of the file. -/
def lettered : Index Unit := (idle.index.ingest env.engine (holding [100]) [spec]).1

theorem prepare_lone : env.engine.prepare (holding [100]) spec found = .ok [(lone, ())] := by
  decide +kernel

theorem written_lone : env.engine.writtenAll (holding [100]) [spec] = [(lone, ())] := by
  have hfile : env.engine.written (holding [100]) spec found = [(lone, ())] := by
    unfold Engine.written
    rw [prepare_lone]
    rfl
  simp only [Engine.writtenAll, matchFiles_holding, List.flatMap_singleton, List.append_nil, hfile]

theorem resultFor_lone : env.engine.resultFor (holding [100]) spec found =
    ⟨"/a", some "/a", 1, none⟩ := by
  have houtcome : env.engine.outcome (holding [100]) spec found = .ok [lone] := by
    unfold Engine.outcome Engine.persist
    rw [prepare_lone]
    rfl
  unfold Engine.resultFor
  rw [houtcome]
  rfl

theorem report_lone : ∃ report, (idle.index.ingest env.engine (holding [100]) [spec]).2 =
    .ok report ∧
    report.failures = [] := by
  refine ⟨.ofResults [⟨"/a", some "/a", 1, none⟩], ?_, by decide⟩
  rw [Index.report_ingest _ check_spec]
  simp only [Engine.resultsFor, matchFiles_holding, List.map_singleton, resultFor_lone]
  rfl

theorem values_lettered : lettered.stats.values = lone.metadata.foldl Stats.remember [] := by
  have hok : ∀ s ∈ [spec], ∀ m ∈ s.found (holding [100]),
      (env.engine.resultFor (holding [100]) s m).ok = true := by
    intro s hs m hm
    obtain rfl := List.mem_singleton.mp hs
    rw [Spec.found, matchFiles_holding] at hm
    obtain rfl := List.mem_singleton.mp hm
    rw [resultFor_lone]
    rfl
  have hnoted := Engine.notedAll_of_ok hok
  rw [written_lone] at hnoted
  refine (Index.written_ingest check_spec).2.trans ?_
  rw [hnoted]
  rfl

theorem store_lettered : lettered.store = [Engine.pointOf lone ()] := by
  refine (Index.written_ingest check_spec).1.trans ?_
  rw [written_lone]
  rfl

theorem offers_lettered : Schema.Offers lettered.stats "file_id" "/a" ∧
    Schema.Offers lettered.stats "chunk_index" "0" := by
  have hvalues : lettered.stats.values = [("chunk_index", [.int 0]), ("chunk_count", [.int 1]),
      ("chunk_offset", [.int 0]), ("file_id", [.str "/a"]), ("segment_id", [.str "/a#0"]),
      ("doc_id", [.str "/a"])] := by
    rw [values_lettered]
    decide +kernel
  simp only [Schema.offers_iff, hvalues]
  exact ⟨⟨[.str "/a"], by simp, .str "/a", by simp, by decide +kernel⟩,
    ⟨[.int 0], by simp, .int 0, by simp, by decide +kernel⟩⟩

/-- The path that is offered for the files finds the segment of the file. -/
theorem file_id_finds : Source.compileAll env.engine.registry true config.sources = .ok [spec] ∧
    (∀ source ∈ config.sources, env.engine.registry.Builtin source.ingest) ∧
    (∀ source ∈ config.sources, (source.extras.map (·.1)).Nodup) ∧ idle.index.store = [] ∧
    idle.index.stats.values = [] ∧ (∃ report,
      (idle.index.ingest env.engine (holding [100]) [spec]).2 = .ok report ∧ report.failures = []) ∧
    Schema.Offers lettered.stats "file_id" "/a" ∧ Text.allBlank "d" = false ∧
    env.engine.embed "d" = .ok () ∧
    ∃ hits, Search.run env.engine (fun _ _ => 0) lettered.store "d" 1
      (.map [("file_id", .str "/a")]) = .ok hits ∧
      hits ≠ [] := by
  have hbuiltin : ∀ source ∈ config.sources, env.engine.registry.Builtin source.ingest :=
    fun source _ => Registry.builtin_builtin _ source.ingest
  have hextras : ∀ source ∈ config.sources, (source.extras.map (·.1)).Nodup := by decide
  have hquery : Text.allBlank "d" = false := by decide
  obtain ⟨report, hreport, hfailures⟩ := report_lone
  obtain ⟨-, hits, hrun, -, hfinds⟩ :=
    Index.offered_finds_iff compile_config hbuiltin hextras rfl rfl hreport hfailures
    offers_lettered.1 hquery rfl fun _ _ => 0
  refine ⟨compile_config, hbuiltin, hextras, rfl, rfl, report_lone, offers_lettered.1, hquery, rfl,
    hits, hrun, ?_⟩
  refine hfinds ?_ (by decide) ?_
  · rw [written_lone]
    intro b hb x hx
    rw [List.mem_singleton.mp hb] at hx
    exact ⟨"/a", Option.some.inj (hx.symm.trans (get?_make ..))⟩
  · rw [written_lone]
    exact List.nodup_singleton _

/-- The index that is offered for the windows finds nothing. -/
theorem chunk_index_finds_nothing :
    Source.compileAll env.engine.registry true config.sources = .ok [spec] ∧
    (∀ source ∈ config.sources, env.engine.registry.Builtin source.ingest) ∧ idle.index.store = [] ∧
    idle.index.stats.values = [] ∧ (∃ report,
      (idle.index.ingest env.engine (holding [100]) [spec]).2 = .ok report ∧ report.failures = []) ∧
    Schema.Offers lettered.stats "chunk_index" "0" ∧ Text.allBlank "d" = false ∧
    env.engine.embed "d" = .ok () ∧
    Search.run env.engine (fun _ _ => 0) lettered.store "d" 1 (.map [("chunk_index", .str "0")]) =
      .ok [] := by
  have hquery : Text.allBlank "d" = false := by decide
  refine ⟨compile_config, fun source _ => Registry.builtin_builtin _ source.ingest, rfl, rfl,
    report_lone,
    offers_lettered.2, hquery, rfl, ?_⟩
  obtain ⟨hits, hrun, hhits⟩ :=
    Search.exists_run_iff (e := env.engine) hquery rfl (fun _ _ => 0) lettered.store
      "chunk_index" "0"
  have hnone : ¬ ∃ p ∈ lettered.store, Entries.get? p.payload "chunk_index" = some (.str "0") := by
    rintro ⟨p, hp, hvalue⟩
    rw [store_lettered, List.mem_singleton] at hp
    have hnumber : Entries.get? p.payload "chunk_index" = some (.int 0) := by
      rw [hp]
      rfl
    rw [hnumber] at hvalue
    cases hvalue
  rw [hrun, not_not.mp (mt hhits.mp hnone)]

end Sole

end SegmentIndex
