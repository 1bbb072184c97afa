import SegmentIndex.Proofs.Collections
import SegmentIndex.Proofs.Pages

/-!
# Removing the segments of a file

Every point of a store has the id that its segment id leads to, and carries that segment id in its
payload. So the ids of a file, read off payloads page by page, lead back to the points that they
were read from, and to no others: removing a file takes away the points that name it and leaves the
rest. All of this needs no more of the client than its documented properties.
-/
namespace SegmentIndex.Vector

/-- A change of a store. -/
inductive Update where
  | upsert (id : String) (vector : Coordinates) (payload : Entries)
  | removeAll (ids : List String)
  | removeFile (file : String)

namespace Update

/-- Whether a change only stores vectors of a length. -/
def Fits (dimensions : Nat) : Update → Prop
  | .upsert _ vector _ => vector.length = dimensions
  | _ => True

/-- The points after a change. -/
def effect (rs : List Record) : Update → List Record
  | .upsert id _ payload =>
    ⟨pointId id, Entries.put "segment_id" (.str id) payload⟩ :: rs.filter (·.id ≠ pointId id)
  | .removeAll ids => rs.filter (·.id ∉ ids.map pointId)
  | .removeFile file => rs.filter fun r => !belongsTo file r.payload

/-- The points after changes of none. -/
def stored (updates : List Update) : List Record := updates.foldl effect []

variable {κ : Type} (client : Client κ)

/-- The store after a change. -/
def apply (s : Store κ) : Update → Except Failure (Store κ)
  | .upsert id vector payload => (s.upsert client id vector payload).map (·.1)
  | .removeAll ids => (s.removeAll client (ids.map .str)).map (·.1)
  | .removeFile file => (s.removeFile client file).map (·.1)

/-- The store after changes, up to one that fails. -/
def run (s : Store κ) : List Update → Except Failure (Store κ)
  | [] => .ok s
  | u :: updates => (u.apply client s).bind fun s => run s updates

end Update

section

variable {κ : Type} {client : Client κ} {kept : String → κ → Option Kept} {taken : Entries → Prop}
  {meets : Entries → Entries → Bool}

/-- Whether the collection of a store has the given points. -/
def Store.Keeps (client : Client κ) (kept : String → κ → Option Kept) (dimensions : Nat)
    (s : Store κ) (rs : List Record) : Prop :=
  ∃ c, kept s.name (s.connected client) = some c ∧ c.dimensions = dimensions ∧ c.records.Perm rs

/-- Points with ids of their own, each made from the segment id that the point carries. -/
structure Keyed (rs : List Record) : Prop where
  distinct : Record.Distinct rs
  keyed : ∀ r ∈ rs, ∃ id, r.id = pointId id ∧ r.segment = some (.str id)

/-- Segment ids that a search finds: that of each point that is wanted, once. -/
structure Lists (client : Client κ) (s : Store κ) (filters : Entries) (wanted : List Record)
    (ids : List String) :
    Prop where
  found : s.findIds client filters = .ok (ids.map .str)
  once : ids.Nodup
  segments : (ids.map fun id => some (Value.str id)).Perm (wanted.map Record.segment)
  points : (ids.map pointId).Perm (wanted.map (·.id))

/-! ## What changes keep -/

theorem keyed_nil : Keyed [] where
  distinct := List.nodup_nil
  keyed := by simp

theorem Keyed.filter {rs : List Record} (h : Keyed rs) (keep : Record → Bool) :
    Keyed (rs.filter keep) where
  distinct := h.distinct.filter keep
  keyed r hr := h.keyed r (List.mem_of_mem_filter hr)

theorem Keyed.effect {rs : List Record} (h : Keyed rs) (u : Update) : Keyed (u.effect rs) := by
  cases u with
  | removeAll ids => exact h.filter _
  | removeFile file => exact h.filter _
  | upsert id vector payload =>
    refine ⟨?_, ?_⟩
    · rw [Update.effect, Record.Distinct, List.map_cons, List.nodup_cons]
      refine ⟨?_, h.distinct.filter _⟩
      rw [List.mem_map]
      rintro ⟨r, hr, hid⟩
      exact of_decide_eq_true (List.mem_filter.mp hr).2 hid
    · intro r hr
      rcases List.mem_cons.mp hr with rfl | hr
      · exact ⟨id, rfl, by simp [Record.segment, Entries.get?_put]⟩
      · exact h.keyed r (List.mem_of_mem_filter hr)

theorem Keyed.foldl {rs : List Record} (h : Keyed rs) (updates : List Update) :
    Keyed (updates.foldl Update.effect rs) := by
  induction updates generalizing rs with
  | nil => exact h
  | cons u updates ih => exact ih (h.effect u)

theorem keyed_stored (updates : List Update) : Keyed (Update.stored updates) :=
  keyed_nil.foldl updates

/-! ## Searching -/

theorem exists_segments {rs : List Record}
    (h : ∀ r ∈ rs, ∃ id, r.id = pointId id ∧ r.segment = some (.str id)) :
    ∃ ids : List String, rs.map Record.segment = ids.map (fun id => some (.str id)) ∧
      rs.map (·.id) = ids.map pointId := by
  induction rs with
  | nil => exact ⟨[], rfl, rfl⟩
  | cons r rs ih =>
    obtain ⟨id, hid, hsegment⟩ := h r List.mem_cons_self
    obtain ⟨ids, hsegments, hids⟩ := ih fun q hq => h q (List.mem_cons_of_mem _ hq)
    refine ⟨id :: ids, ?_, ?_⟩
    · rw [List.map_cons, hsegment, hsegments, List.map_cons]
    · rw [List.map_cons, hid, hids, List.map_cons]

variable {s : Store κ} {dimensions : Nat} {rs : List Record} {filters : Entries}

/-- A search of a store with keyed points ends and lists what it is asked for. -/
theorem Store.Keeps.exists_lists (hclient : client.Lawful kept taken meets)
    (h : s.Keeps client kept dimensions rs) (hk : Keyed rs) (hf : taken filters) :
    ∃ ids, Lists client s filters (rs.filter fun r => meets filters r.payload) ids := by
  obtain ⟨c, hc, -, hrecords⟩ := h
  obtain ⟨qs, hqs, hfound⟩ := s.exists_findIds hclient hc (hk.distinct.perm hrecords.symm) hf
  have hperm : qs.Perm (rs.filter fun r => meets filters r.payload) := hqs.trans (hrecords.filter _)
  obtain ⟨ids, hsegments, hids⟩ := exists_segments fun r hr =>
    (hk.filter _).keyed r (hperm.subset hr)
  have htexts : qs.filterMap Record.segment = ids.map .str := by
    have := congrArg (List.filterMap id) hsegments
    simpa [List.filterMap_map, Function.comp_def] using this
  have hdistinct : (ids.map pointId).Nodup := hids ▸ (hk.distinct.filter _).perm hperm.symm
  exact ⟨ids, {
    found := htexts ▸ hfound
    once := hdistinct.of_map
    segments := hsegments ▸ hperm.map _
    points := hids ▸ hperm.map _ }⟩

theorem Store.Keeps.exists_lists_file (hclient : client.Lawful kept taken meets)
    (h : s.Keeps client kept dimensions rs) (hk : Keyed rs) (file : String) :
    ∃ ids, Lists client s (fileFilters file) (rs.filter fun r => belongsTo file r.payload) ids := by
  have hwanted : meets (fileFilters file) = belongsTo file := funext (hclient.meets_file file)
  rw [← hwanted]
  exact h.exists_lists hclient hk (hclient.takes_file file)

/-! ## Changing -/

theorem pointIds_str (ids : List String) : pointIds (ids.map .str) = .ok (ids.map pointId) := by
  induction ids with
  | nil => rfl
  | cons id ids ih => rw [List.map_cons, pointIds, ih, List.map_cons, Except.map]

theorem Store.Keeps.removeAll (hclient : client.Lawful kept taken meets)
    (h : s.Keeps client kept dimensions rs) (ids : List String) :
    ∃ s', s.removeAll client (ids.map .str) = .ok (s', ids.length) ∧
      s'.Keeps client kept dimensions (rs.filter (·.id ∉ ids.map pointId)) := by
  obtain ⟨c, hc, hsize, hrecords⟩ := h
  cases ids with
  | nil =>
    refine ⟨s, rfl, c, hc, hsize, ?_⟩
    simpa using hrecords
  | cons id ids =>
    obtain ⟨k, qs, hdelete, hk, hqs⟩ := hclient.delete ((id :: ids).map pointId) hc
    refine ⟨{ s with connection := some k }, ?_, _, hk, hsize, hqs.trans (hrecords.filter _)⟩
    rw [Store.removeAll, pointIds_str]
    simp only [hdelete, Except.map, List.length_map]
    rfl

/-- Removing points by their ids removes no others, as each has an id of its own. -/
theorem Keyed.filter_ids (hk : Keyed rs) {gone : Record → Bool} {ids : List String}
    (hids : ids.Perm ((rs.filter gone).map (·.id))) :
    rs.filter (fun r => decide (r.id ∉ ids)) = rs.filter fun r => !gone r := by
  refine List.filter_congr fun r hr => ?_
  have hgone : r.id ∈ ids ↔ gone r = true := by
    rw [hids.mem_iff, List.mem_map]
    constructor
    · rintro ⟨q, hq, hid⟩
      obtain ⟨hq, hgone⟩ := List.mem_filter.mp hq
      rwa [← List.inj_on_of_nodup_map hk.distinct hq hr hid]
    · intro hgone
      exact ⟨r, List.mem_filter.mpr ⟨hr, hgone⟩, rfl⟩
  cases hg : gone r <;> simp [hgone, hg]

theorem Store.Keeps.removeFile (hclient : client.Lawful kept taken meets)
    (h : s.Keeps client kept dimensions rs) (hk : Keyed rs) (file : String) :
    ∃ s', s.removeFile client file =
      .ok (s', (rs.filter fun r => belongsTo file r.payload).length) ∧
      s'.Keeps client kept dimensions (rs.filter fun r => !belongsTo file r.payload) := by
  obtain ⟨ids, hlists⟩ := h.exists_lists_file hclient hk file
  obtain ⟨s', hremoved, hs'⟩ := h.removeAll hclient ids
  have hcount : ids.length = (rs.filter fun r => belongsTo file r.payload).length := by
    simpa using hlists.points.length_eq
  refine ⟨s', ?_, hk.filter_ids hlists.points ▸ hs'⟩
  rw [Store.removeFile, Store.idsForFile, hlists.found, ← hcount]
  exact hremoved

theorem Store.Keeps.apply (hclient : client.Lawful kept taken meets)
    (h : s.Keeps client kept dimensions rs) (hk : Keyed rs) {u : Update} (hu : u.Fits dimensions) :
    ∃ s', u.apply client s = .ok s' ∧ s'.Keeps client kept dimensions (u.effect rs) := by
  cases u with
  | upsert id vector payload =>
    obtain ⟨c, hc, hsize, hrecords⟩ := h
    let p : Point Coordinates := ⟨pointId id, vector, Entries.put "segment_id" (.str id) payload⟩
    obtain ⟨k, qs, hupsert, hkept, hqs⟩ :=
      hclient.upsert (p := p) hc (hk.distinct.perm hrecords.symm) (hu.trans hsize.symm)
    refine ⟨{ s with connection := some k }, ?_, _, hkept, hsize,
      hqs.trans ((hrecords.filter _).cons _)⟩
    simp only [Update.apply, Store.upsert, p] at hupsert ⊢
    rw [hupsert]
    rfl
  | removeAll ids =>
    obtain ⟨s', hremoved, hs'⟩ := h.removeAll hclient ids
    refine ⟨s', ?_, hs'⟩
    rw [Update.apply, hremoved]
    rfl
  | removeFile file =>
    obtain ⟨s', hremoved, hs'⟩ := h.removeFile hclient hk file
    refine ⟨s', ?_, hs'⟩
    rw [Update.apply, hremoved]
    rfl

theorem Store.Keeps.run (hclient : client.Lawful kept taken meets)
    (h : s.Keeps client kept dimensions rs)
    (hk : Keyed rs) {updates : List Update} (hu : ∀ u ∈ updates, u.Fits dimensions) :
    ∃ s', Update.run client s updates = .ok s' ∧
      s'.Keeps client kept dimensions (updates.foldl Update.effect rs) := by
  induction updates generalizing s rs with
  | nil => exact ⟨s, rfl, h⟩
  | cons u updates ih =>
    obtain ⟨s₁, hfirst, hs₁⟩ := h.apply hclient hk (hu u List.mem_cons_self)
    obtain ⟨s₂, hrest, hs₂⟩ := ih hs₁ (hk.effect u) fun u hu' => hu u (List.mem_cons_of_mem _ hu')
    refine ⟨s₂, ?_, hs₂⟩
    rw [Update.run, hfirst]
    exact hrest

theorem Store.exists_new (hclient : client.Lawful kept taken meets) {name : String}
    (hnew : name ∉ client.collections client.connect) (dimensions : Nat) :
    ∃ s, Store.new client name dimensions = .ok s ∧ s.Keeps client kept dimensions [] := by
  have hnone : kept name client.connect = none := by
    rw [hclient.listed] at hnew
    simpa using hnew
  obtain ⟨k, hcreate, hk⟩ := hclient.create dimensions hnone
  refine ⟨⟨name, some k⟩, ?_, _, hk, rfl, .refl _⟩
  rw [Store.new, if_neg hnew, hcreate]
  rfl

/-- Changes that store vectors of the right length do not fail, and leave
the points that they are said to leave. -/
theorem Store.exists_stored (hclient : client.Lawful kept taken meets) {name : String}
    (hnew : name ∉ client.collections client.connect) {updates : List Update}
    (hu : ∀ u ∈ updates, u.Fits dimensions) :
    ∃ s₀ s, Store.new client name dimensions = .ok s₀ ∧ Update.run client s₀ updates = .ok s ∧
      s.Keeps client kept dimensions (Update.stored updates) := by
  obtain ⟨s₀, hs₀, hempty⟩ := Store.exists_new hclient hnew dimensions
  obtain ⟨s, hrun, hs⟩ := hempty.run hclient keyed_nil hu
  exact ⟨s₀, s, hs₀, hrun, hs⟩

end

/-! ## Removing a file -/

/-- Segments of two files, one of which names both. -/
def sharedUpdates : List Update :=
  [.upsert "/a.md#0" [1.0, 0.0] [("file_id", .str "/a.md")],
    .upsert "/a.md#1" [0.6, 0.8] [("file_id", .str "/a.md"), ("segment_id", .str "other")],
    .upsert "/b.md" [0.0, 1.0] [("file_id", .list [.str "/a.md", .str "/b.md"])],
    .removeAll ["/a.md#1"], .removeFile "/c.md"]

/-- A segment that names a file only in a list. -/
def listedUpdates : List Update := [.upsert "s" [1.0, 0.0] [("file_id", .list [.str "/a.md"])]]

end SegmentIndex.Vector
