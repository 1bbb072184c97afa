import SegmentIndex.Proofs.Likeness
import SegmentIndex.Proofs.Stored
import SegmentIndex.Vector.Memory

/-!
# Laws of collections in memory

The client that keeps its collections itself does what a client is expected to do.
Well-formed filters have keys that write paths and values that can be asked for, and a
payload meets them if it has every value at its path.
-/
namespace SegmentIndex.Vector

open PointStore (Distinct byId)

/-- Whether a payload has all the values that are asked for. -/
def meets (filters : Entries) (payload : Entries) : Bool :=
  filters.all fun e => ((FieldPath.ofText? e.1).elim [] (FieldPath.valuesAt · (.map payload))).any
    (Value.same e.2)

/-- Whether every key of the filters writes a path and every value can be asked for. -/
def Legible (filters : Entries) : Prop :=
  ∀ e ∈ filters, (FieldPath.ofText? e.1).isSome = true ∧ isFilterValue e.2 = true

/-! ## Points that are asked for -/

theorem hasAll_eq {filters : Entries} (h : Legible filters) (payload : Entries) :
    hasAll payload filters = .ok (meets filters payload) := by
  induction filters with
  | nil => rfl
  | cons e rest ih =>
    obtain ⟨key, v⟩ := e
    have hrest := ih fun e he => h e (List.mem_cons_of_mem _ he)
    obtain ⟨steps, hsteps⟩ := Option.isSome_iff_exists.mp (h (key, v) List.mem_cons_self).1
    have hv : hasValue payload key v =
        .ok ((FieldPath.valuesAt steps (.map payload)).any (Value.same v)) := by
      rw [hasValue, hsteps]
    simp only [hasAll, hv, hrest, meets, List.all_cons, hsteps, Option.elim]
    cases (FieldPath.valuesAt steps (.map payload)).any (Value.same v) <;> rfl

theorem ofText?_file : FieldPath.ofText? "file_id" = some [.key "file_id"] := by decide +kernel

theorem legible_file (file : String) : Legible (fileFilters file) := by
  intro e he
  obtain rfl := List.mem_singleton.mp he
  simp [ofText?_file, isFilterValue]

theorem same_str_left {text : String} {v : Value} :
    Value.same (.str text) v = decide (v = .str text) := by
  cases v <;> simp [Value.same, Value.numberParts, eq_comm]

theorem any_same_str {text : String} {vs : List Value} :
    vs.any (Value.same (.str text)) = vs.contains (.str text) := by
  rw [Bool.eq_iff_iff, List.any_eq_true, List.contains_iff_mem]
  simp [same_str_left]

theorem meets_file (file : String) (payload : Entries) :
    meets (fileFilters file) payload = belongsTo file payload := by
  simp only [meets, fileFilters, List.all_cons, List.all_nil, Bool.and_true, ofText?_file,
    Option.elim, belongsTo, FieldPath.valuesAt]
  cases Entries.get? payload "file_id" with
  | none => simp
  | some v =>
    cases v with
    | list files => exact any_same_str
    | _ => simp [same_str_left]

namespace Collection

variable {c : Collection} {filters : Entries}

theorem selected_eq (h : Legible filters) :
    c.selected filters = .ok (c.points.filter fun p => meets filters p.payload) := by
  have hpairs : (fun p : Point Coordinates => (hasAll p.payload filters).map fun b => (p, b)) =
      fun p => pure (p, meets filters p.payload) := by
    funext p
    rw [hasAll_eq h]
    rfl
  rw [selected, hpairs, List.mapM_pure]
  simp [pure, Except.pure, Except.map, List.filter_map, Function.comp_def]

/-- The points that are asked for from an id on, in the order of their ids. -/
def remaining (c : Collection) (filters : Entries) (start : Option String) :
    List (Point Coordinates) :=
  (byId (c.points.filter fun p => meets filters p.payload)).filter fun p => start.all fun s =>
    Value.textLe s p.id

/-- A page has the first points of those that remain, and names the one after them. -/
theorem scroll_eq (h : Legible filters) (limit : Nat) (start : Option String) :
    c.scroll filters limit start =
      .ok ((c.remaining filters start).take limit,
        ((c.remaining filters start)[limit]?).map (·.id)) := by
  rw [scroll, selected_eq h]
  rfl

theorem pairwise_byId (ps : PointStore Coordinates) :
    (byId ps).Pairwise fun p q => p.id ≤ q.id := by
  have hsorted : (byId ps).Pairwise fun p q => Value.textLe p.id q.id = true := by
    apply List.pairwise_mergeSort
    · intro p q r
      exact Value.textLe_trans p.id q.id r.id
    · intro p q
      exact Value.textLe_total p.id q.id
  exact hsorted.imp Value.textLe_iff.mp

theorem pairwise_remaining (start : Option String) : (c.remaining filters start).Pairwise fun p q =>
    p.id ≤ q.id :=
  (pairwise_byId _).filter _

theorem remaining_perm (start : Option String) : (c.remaining filters start).Perm
    (c.points.filter fun p => meets filters p.payload && start.all (· ≤ p.id)) := by
  have hstart : (fun p : Point Coordinates => start.all fun s => Value.textLe s p.id) =
      fun p => start.all (· ≤ p.id) := by
    funext p
    cases start with
    | none => rfl
    | some s => exact Bool.eq_iff_iff.mpr (Value.textLe_iff.trans decide_eq_true_iff.symm)
  have hsplit : (fun p : Point Coordinates => meets filters p.payload && start.all (· ≤ p.id)) =
      fun p => start.all (· ≤ p.id) && meets filters p.payload := funext fun p => Bool.and_comm ..
  rw [remaining, hstart, hsplit, ← List.filter_filter]
  exact (List.mergeSort_perm ..).filter _

end Collection

/-! ## What a connection shows -/

namespace Memory

variable {m : Memory} {name : String} {c : Collection}

def kept (name : String) (m : Memory) : Option Kept :=
  (Table.get? name m).map fun c => ⟨c.dimensions, c.points.map record⟩

theorem exists_of_kept {k : Kept} (h : kept name m = some k) :
    ∃ c, Table.get? name m = some c ∧ k = ⟨c.dimensions, c.points.map record⟩ := by
  obtain ⟨c, hc, rfl⟩ := Option.map_eq_some_iff.mp h
  exact ⟨c, hc, rfl⟩

theorem find_eq (h : Table.get? name m = some c) : find name m = .ok c := by
  rw [find, h]
  rfl

theorem kept_put (c : Collection) :
    kept name (put name m c) = some ⟨c.dimensions, c.points.map record⟩ := by
  rw [kept, put, Table.get?_alter, if_pos rfl]
  rfl

theorem map_filter_record {ps : PointStore Coordinates} {keep : Point Coordinates → Bool}
    {wanted : Record → Bool} (h : ∀ p, keep p = wanted (record p)) :
    (ps.filter keep).map record = (ps.map record).filter wanted := by
  rw [List.filter_map, List.filter_congr fun p _ => h p]
  rfl

theorem upsert_perm {ps : PointStore Coordinates} (hd : Distinct ps) (p : Point Coordinates) :
    (PointStore.upsert p ps).Perm (p :: ps.filter (·.id ≠ p.id)) := by
  have hnew : (p :: ps.filter (·.id ≠ p.id)).Nodup := by
    rw [List.nodup_cons]
    exact ⟨fun h => of_decide_eq_true (List.mem_filter.mp h).2 rfl, hd.nodup.filter _⟩
  rw [List.perm_ext_iff_of_nodup hd.upsert.nodup hnew]
  intro q
  rw [PointStore.mem_upsert_iff hd, List.mem_cons, List.mem_filter, decide_eq_true_eq]

theorem lawful : client.Lawful kept Legible meets where
  listed name m := by
    rw [kept, Option.isSome_map]
    exact (Table.isSome_get? name m).symm
  create {name m} dimensions h := by
    have hnone : Table.get? name m = none := Option.map_eq_none_iff.mp h
    refine ⟨put name m { dimensions := dimensions }, ?_, kept_put _⟩
    simp [client, hnone]
  upsert {name m k p} h hd hp := by
    obtain ⟨c, hc, rfl⟩ := exists_of_kept h
    have hdistinct : Distinct c.points := by
      simpa [Distinct, List.map_map, Function.comp_def, record] using hd
    let points := PointStore.upsert { p with vector := unit p.vector } c.points
    refine ⟨put name m { c with points := points }, points.map record, ?_, kept_put _, ?_⟩
    · simp only [client, find_eq hc, Except.bind, Collection.upsert, if_neg (not_not_intro hp),
        Except.map]
      rfl
    · rw [← map_filter_record fun _ => rfl]
      exact (upsert_perm hdistinct { p with vector := unit p.vector }).map record
  delete {name m k} ids h := by
    obtain ⟨c, hc, rfl⟩ := exists_of_kept h
    refine ⟨put name m (c.delete ids), (c.delete ids).points.map record, ?_, kept_put _, ?_⟩
    · simp only [client, find_eq hc, Except.map]
    · rw [← map_filter_record fun _ => rfl]
      exact .refl _
  scroll {name m k filters} limit start h hf := by
    obtain ⟨c, hc, rfl⟩ := exists_of_kept h
    have hchecked : checked filters = .ok () := by
      rw [checked, if_pos (List.all_eq_true.mpr fun e he => (hf e he).2)]
    refine ⟨(c.remaining filters start).map record, ?_, ?_, ?_⟩
    · simp only [client, hchecked, find_eq hc, Except.bind, Collection.scroll_eq hf, Except.map,
        List.map_take, List.getElem?_map, Option.map_map]
      rfl
    · rw [← map_filter_record fun _ => rfl]
      exact (Collection.remaining_perm start).map record
    · exact List.pairwise_map.mpr (Collection.pairwise_remaining start)
  takes_file := legible_file
  meets_file := meets_file

end Memory

end SegmentIndex.Vector
