import SegmentIndex.Proofs.Replacement

/-!
# The order of a batch

A flush follows the events of its batch one after the other. When they are of different files, and
no id is shared between two of them or with a point of another file, each event finds the points of
its file as they were before the batch and no other event touches them after it. So the order of the
batch decides only in which order points are stored: the points, the totals and the results are the
same, also when files fail.
-/
namespace SegmentIndex

open PointStore (isOf files)

section

variable {ν : Type} {e : Engine ν} {t : FileTree}

/-- Stores are alike if for each file they have the same points in the same order. -/
theorem PointStore.perm_of_files {s s' : PointStore ν}
    (h : ∀ v, s.filter (fun p => Entries.get? p.payload "file_id" = v) =
      s'.filter fun p => Entries.get? p.payload "file_id" = v) : s.Perm s' := by
  classical
  rw [List.perm_iff_count]
  intro p
  have hp := congrArg (List.count p) (h (Entries.get? p.payload "file_id"))
  rwa [List.count_filter (by simp), List.count_filter (by simp)] at hp

namespace Index

variable {i j : Index ν} {x : PendingEvent Spec} {events events' : List (PendingEvent Spec)}

/-- Follows events one after the other, each with its result. -/
def followBatch (e : Engine ν) (t : FileTree) : List (PendingEvent Spec) → Index ν →
    Index ν × List (PendingEvent Spec × Except Failure (Option FileResult))
  | [], i => (i, [])
  | x :: rest, i =>
    let (i, r) := i.reindex e t x.kind x.path x.spec
    let (i, results) := followBatch e t rest i
    (i, (x, r) :: results)

theorem fst_followBatch_cons (x : PendingEvent Spec) (rest : List (PendingEvent Spec))
    (i : Index ν) :
    (i.followBatch e t (x :: rest)).1 =
      ((i.reindex e t x.kind x.path x.spec).1.followBatch e t rest).1 := rfl

theorem worldAfter_handler (events : List (PendingEvent Spec)) (i : Index ν) :
    (Session.handler e t).worldAfter i events = (i.followBatch e t events).1 := by
  induction events generalizing i with
  | nil => rfl
  | cons x rest ih => exact ih _

theorem snd_followBatch (events : List (PendingEvent Spec)) (i : Index ν) :
    (i.followBatch e t events).2 =
    events.map fun x => (x, (i.reindex e t x.kind x.path x.spec).2) := by
  induction events generalizing i with
  | nil => rfl
  | cons x rest ih =>
    have hrest := ih (i.reindex e t x.kind x.path x.spec).1
    rw [List.map_cons, ← List.map_congr_left fun y _ => congrArg (Prod.mk y) (snd_reindex y _ i),
      ← hrest]
    rfl

theorem errors_followBatch (events : List (PendingEvent Spec)) (i : Index ν) :
    (i.followBatch e t events).1.stats.errors =
      i.stats.errors + (i.followBatch e t events).2.countP fun y => failed y.2 := by
  induction events generalizing i with
  | nil => rfl
  | cons x rest ih =>
    have hcount : ((i.followBatch e t (x :: rest)).2.countP fun y => failed y.2) =
        (((i.reindex e t x.kind x.path x.spec).1.followBatch e t rest).2.countP fun y =>
        failed y.2) +
          (failed (i.reindex e t x.kind x.path x.spec).2).toNat := by
      simp only [followBatch, List.countP_cons]
      cases failed (i.reindex e t x.kind x.path x.spec).2 <;> rfl
    rw [fst_followBatch_cons, ih, errors_reindex, hcount]
    omega

/-! ## Events of different files -/

/-- Whether the events of a batch are of different files and share no id with each other,
nor with a stored point of another file. -/
structure Separate (e : Engine ν) (t : FileTree) (events : List (PendingEvent Spec))
    (s : PointStore ν) : Prop where
  builtin : ∀ x ∈ events, e.registry.Builtin x.spec.strategy
  files : events.Pairwise fun x y => ∀ file, t.canonical x.path = .ok file →
    t.canonical y.path ≠ .ok file
  ids : events.Pairwise fun x y => ∀ p ∈ newPoints e t x, ∀ q ∈ newPoints e t y, p.id ≠ q.id
  stored : ∀ x ∈ events, Clashless e t x s

theorem Separate.perm {s : PointStore ν} (h : Separate e t events s) (hp : events.Perm events') :
    Separate e t events' s := by
  refine ⟨fun x hx => h.builtin x (hp.mem_iff.mpr hx), ?_, ?_,
    fun x hx => h.stored x (hp.mem_iff.mpr hx)⟩
  · exact hp.pairwise h.files fun hxy file hy hx => hxy file hx hy
  · exact hp.pairwise h.ids fun hxy p hpy q hqx hid => hxy q hqx p hpy hid.symm

theorem Separate.tail {rest : List (PendingEvent Spec)} (h : Separate e t (x :: rest) i.store) :
    Separate e t rest (i.reindex e t x.kind x.path x.spec).1.store := by
  refine ⟨fun y hy => h.builtin y (List.mem_cons_of_mem _ hy), h.files.of_cons, h.ids.of_cons, ?_⟩
  intro y hy file hc q hq p hp hid
  rcases mem_reindex hq with hq | hq
  · exact h.stored y (List.mem_cons_of_mem _ hy) file hc q hq p hp hid
  · exact absurd hid ((List.pairwise_cons.mp h.ids).1 y hy q hq p hp)

theorem balanced_followBatch (h : Separate e t events i.store) (hi : i.Balanced) :
    (i.followBatch e t events).1.Balanced := by
  induction events generalizing i with
  | nil => exact hi
  | cons x rest ih =>
    have hx := balanced_reindex (h.builtin x List.mem_cons_self) (h.stored x List.mem_cons_self) hi
    exact ih h.tail hx

theorem filter_followBatch_other (h : Separate e t events i.store) {keep : Point ν → Bool}
    (hkeep : ∀ x ∈ events, ∀ file, t.canonical x.path = .ok file → ∀ q, isOf file q = true →
    keep q = false) :
    (i.followBatch e t events).1.store.filter keep = i.store.filter keep := by
  induction events generalizing i with
  | nil => rfl
  | cons x rest ih =>
    rw [List.forall_mem_cons] at hkeep
    have hx := filter_reindex_other (h.builtin x List.mem_cons_self)
      (h.stored x List.mem_cons_self) hkeep.1
    exact (ih h.tail hkeep.2).trans hx

/-- The points of the file of an event are in the end what the event makes of those before the
batch: the events before it are of other files, and so are those after it. -/
theorem filter_followBatch (h : Separate e t events i.store) (hx : x ∈ events) {file : String}
    (hc : t.canonical x.path = .ok file) (hj : j.store = i.store.filter (isOf file)) :
    (i.followBatch e t events).1.store.filter (isOf file) =
      (j.reindex e t x.kind x.path x.spec).1.store := by
  induction events generalizing i with
  | nil => exact absurd hx List.not_mem_nil
  | cons y rest ih =>
    have hb := h.builtin y List.mem_cons_self
    have hy := h.stored y List.mem_cons_self
    have hfiles := (List.pairwise_cons.mp h.files).1
    have hother : ∀ z : PendingEvent Spec, t.canonical z.path ≠ .ok file →
      ∀ file', t.canonical z.path = .ok file' →
        ∀ q : Point ν, isOf file' q = true → isOf file q = false := by
      intro z hz file' hc' q hq
      by_contra hof
      obtain rfl : file = file' := PointStore.isOf_unique (p := q) (by simpa using hof) hq
      exact hz hc'
    rw [fst_followBatch_cons]
    rcases List.mem_cons.mp hx with rfl | hx
    · rw [filter_followBatch_other h.tail fun z hz => hother z (hfiles z hz file hc)]
      exact filter_reindex hb hy hc hj
    · have hkept := filter_reindex_other hb hy (hother y fun hcy => hfiles x hx file hcy hc)
      exact ih h.tail hx (hj.trans hkept.symm)

theorem perm_followBatch (h : Separate e t events i.store) (hp : events.Perm events') :
    (i.followBatch e t events).1.store.Perm (i.followBatch e t events').1.store := by
  have h' := h.perm hp
  refine PointStore.perm_of_files fun v => ?_
  by_cases hv : ∃ x ∈ events, ∃ file, t.canonical x.path = .ok file ∧ v = some (.str file)
  · obtain ⟨x, hx, file, hc, rfl⟩ := hv
    have hj : ({ i with store := i.store.filter (isOf file) } : Index ν).store =
      i.store.filter (isOf file) := rfl
    exact (filter_followBatch h hx hc hj).trans
      (filter_followBatch h' (hp.mem_iff.mp hx) hc hj).symm
  · have hkeep : ∀ x ∈ events, ∀ file, t.canonical x.path = .ok file →
      ∀ q : Point ν, isOf file q = true →
        decide (Entries.get? q.payload "file_id" = v) = false := by
      intro x hx file hc q hq
      rw [decide_eq_false_iff_not, PointStore.isOf_iff.mp hq]
      exact fun heq => hv ⟨x, hx, file, hc, heq.symm⟩
    rw [filter_followBatch_other h hkeep,
      filter_followBatch_other h' fun x hx => hkeep x (hp.mem_iff.mpr hx)]

/-- Events of different files lead to the same points, the same totals and the same result for
each of them in whatever order they are followed, whether files fail or not; and a flush follows
those that are pending in their order. -/
theorem followBatch_perm (h : Separate e t events i.store) (hi : i.Balanced)
    (hp : events.Perm events') :
    (i.followBatch e t events).1.store.Perm (i.followBatch e t events').1.store ∧
      (i.followBatch e t events).1.stats.SameTotals (i.followBatch e t events').1.stats ∧
      (i.followBatch e t events).2.Perm (i.followBatch e t events').2 ∧
      ∀ d : Debouncer Spec, d.flushing = false →
        (d.flush (Session.handler e t) i).1.2 = (i.followBatch e t d.pending).1 := by
  have hstore := perm_followBatch h hp
  have hresults : (i.followBatch e t events).2.Perm (i.followBatch e t events').2 := by
    rw [snd_followBatch, snd_followBatch]
    exact hp.map _
  obtain ⟨hsegments, hdocuments⟩ := balanced_followBatch h hi
  obtain ⟨hsegments', hdocuments'⟩ := balanced_followBatch (h.perm hp) hi
  have hfiles : files (i.followBatch e t events).1.store =
      files (i.followBatch e t events').1.store :=
    List.toFinset_eq_of_perm _ _ (hstore.map _)
  refine ⟨hstore, ⟨?_, ?_, ?_⟩, hresults, fun d hd => ?_⟩
  · rw [hdocuments, hdocuments', hfiles]
  · rw [hsegments, hsegments', hstore.length_eq]
  · rw [errors_followBatch, errors_followBatch, hresults.countP_eq]
  · rw [Debouncer.flush_quiet (quiet_handler e t) hd, worldAfter_handler]

end Index

end

/-! ## A change and a removal -/

namespace Sole

/-- The file changes, and another one is removed. -/
def changed : List (PendingEvent Spec) := [⟨"modify", "/a", spec⟩, ⟨"delete", "/b", spec⟩]

theorem separate_changed : Index.Separate env.engine (holding [100]) changed shelved.store := by
  have hfile : (holding [100]).canonical "/a" = .ok "/a" :=
    (grounded_holding [100]).canonical "/a" rfl
  have hother : (holding [100]).canonical "/b" = .ok "/b" := by cbv
  refine ⟨fun _ _ => (Registry.standard_builtin _).builtin, ?_, ?_, ?_⟩
  · simp [changed, hfile, hother]
  · simp [changed, newPoints]
  · simp only [changed, List.mem_cons, List.not_mem_nil, or_false, forall_eq_or_imp, forall_eq]
    exact ⟨clashless_shelved, by simp [Index.Clashless, newPoints]⟩

theorem changed_perm : changed.Perm changed.reverse ∧
    (shelved.followBatch env.engine (holding [100]) changed).1.store.Perm
        (shelved.followBatch env.engine (holding [100]) changed.reverse).1.store ∧
      (shelved.followBatch env.engine (holding [100]) changed).1.stats.SameTotals
        (shelved.followBatch env.engine (holding [100]) changed.reverse).1.stats ∧
      (shelved.followBatch env.engine (holding [100]) changed).2.Perm
        (shelved.followBatch env.engine (holding [100]) changed.reverse).2 ∧
      ∀ d : Debouncer Spec, d.flushing = false →
        (d.flush (Session.handler env.engine (holding [100])) shelved).1.2 =
          (shelved.followBatch env.engine (holding [100]) d.pending).1 := by
  have hbalanced : shelved.Balanced := ⟨by decide, by decide⟩
  exact ⟨changed.reverse_perm.symm,
    Index.followBatch_perm separate_changed hbalanced changed.reverse_perm.symm⟩

end Sole

end SegmentIndex
