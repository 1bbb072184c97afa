import SegmentIndex.Proofs.Counting
import SegmentIndex.Proofs.Writes

/-!
# What one event does

What an event asks for is settled by the files alone: it is void, or removes a file, or follows the
content of one. Its result does not depend on the index. When no point of another file has an id
that the event brings in, it changes the points of its file only, and how it changes them depends on
these points alone.
-/
namespace SegmentIndex

open PointStore (isOf countFile)

variable {ν : Type}

namespace PointStore

variable {s : PointStore ν} {p : Point ν} {ps : List (Point ν)} {keep : Point ν → Bool}

theorem upsert_fresh (h : ∀ q ∈ s, q.id ≠ p.id) : upsert p s = s ++ [p] := by
  induction s with
  | nil => rfl
  | cons q rest ih =>
    rw [upsert, if_neg (h q List.mem_cons_self), ih fun r hr => h r (List.mem_cons_of_mem _ hr)]
    rfl

theorem upsertAll_fresh (hn : (ps.map (·.id)).Nodup) (h : ∀ q ∈ s, ∀ p ∈ ps, q.id ≠ p.id) :
    upsertAll ps s = s ++ ps := by
  induction ps generalizing s with
  | nil => simp [upsertAll]
  | cons p ps ih =>
    rw [List.map_cons, List.nodup_cons] at hn
    have hcons : upsertAll (p :: ps) s = upsertAll ps (upsert p s) := rfl
    rw [hcons, upsert_fresh fun q hq => h q hq p List.mem_cons_self, ih hn.2, List.append_assoc]
    · rfl
    · intro q hq r hr
      rcases List.mem_append.mp hq with hq | hq
      · exact h q hq r (List.mem_cons_of_mem _ hr)
      · rw [List.mem_singleton.mp hq]
        exact fun hid => hn.1 (hid ▸ List.mem_map_of_mem hr)

theorem mem_upsertAll {q : Point ν} (h : q ∈ upsertAll ps s) : q ∈ ps ∨ q ∈ s := by
  induction ps generalizing s with
  | nil => exact .inr h
  | cons p ps ih =>
    rcases ih h with h | h
    · exact .inl (List.mem_cons_of_mem _ h)
    · rcases mem_upsert h with rfl | h
      · exact .inl List.mem_cons_self
      · exact .inr h

/-- A point that a filter keeps, as it does the one whose place it
takes, is stored alike after the filter. -/
theorem filter_upsert_in (hp : keep p = true) (h : ∀ q ∈ s, q.id = p.id → keep q = true) :
    (upsert p s).filter keep = upsert p (s.filter keep) := by
  induction s with
  | nil => simp [upsert, hp]
  | cons q rest ih =>
    have ih := ih fun r hr => h r (List.mem_cons_of_mem _ hr)
    by_cases hq : q.id = p.id
    · simp [upsert, hq, hp, h q List.mem_cons_self hq]
    · cases hk : keep q <;> simp [upsert, hq, hk, ih]

theorem filter_upsertAll_in (hps : ∀ p ∈ ps, keep p = true)
    (h : ∀ q ∈ s, ∀ p ∈ ps, q.id = p.id → keep q = true) :
    (upsertAll ps s).filter keep = upsertAll ps (s.filter keep) := by
  induction ps generalizing s with
  | nil => rfl
  | cons p ps ih =>
    rw [List.forall_mem_cons] at hps
    have hp := filter_upsert_in hps.1 fun q hq => h q hq p List.mem_cons_self
    refine (ih hps.2 fun q hq r hr hid => ?_).trans (congrArg (upsertAll ps) hp)
    rcases mem_upsert hq with rfl | hq
    · exact hps.1
    · exact h q hq r (List.mem_cons_of_mem _ hr) hid

theorem filter_upsertAll_out (hps : ∀ p ∈ ps, keep p = false)
    (h : ∀ q ∈ s, ∀ p ∈ ps, q.id = p.id → keep q = false) :
    (upsertAll ps s).filter keep = s.filter keep := by
  induction ps generalizing s with
  | nil => rfl
  | cons p ps ih =>
    rw [List.forall_mem_cons] at hps
    have hp := filter_upsert_out hps.1 fun q hq => h q hq p List.mem_cons_self
    refine (ih hps.2 fun q hq r hr hid => ?_).trans hp
    rcases mem_upsert hq with rfl | hq
    · exact hps.1
    · exact h q hq r (List.mem_cons_of_mem _ hr) hid

/-- To remove a file changes nothing about what a filter keeps that keeps no point of the file. -/
theorem filter_removeFile {file : String} (h : ∀ q, isOf file q = true → keep q = false) :
    (removeFile file s).filter keep = s.filter keep := by
  rw [removeFile, List.filter_filter]
  refine List.filter_congr fun q _ => ?_
  cases hq : isOf file q with
  | true => simp [h q hq]
  | false => simp

theorem mem_of_mem_cleared {file : String} {replacing : Prop} [Decidable replacing] {q : Point ν}
    (h : q ∈ if replacing then removeFile file s else s) : q ∈ s := by
  split_ifs at h
  · exact List.mem_of_mem_filter h
  · exact h

theorem filter_isOf_removeFile (file : String) (s : PointStore ν) :
    (removeFile file s).filter (isOf file) = removeFile file (s.filter (isOf file)) := by
  simp only [removeFile, List.filter_filter, Bool.and_comm]

end PointStore

open PointStore (upsertAll)

theorem Engine.pointsOf_written_subset (e : Engine ν) (t : FileTree) (spec : Spec)
    (m : MatchedFile) :
    pointsOf (e.written t spec m) ⊆ e.pointsFor t spec m := by
  unfold written pointsFor
  cases e.prepare t spec m with
  | error f => exact List.Subset.refl _
  | ok batch => exact List.map_subset _ (List.takeWhile_subset _)

/-- Whether two statistics have the same totals. -/
structure Stats.SameTotals (s s' : Stats) : Prop where
  documents : s.documents = s'.documents
  segments : s.segments = s'.segments
  errors : s.errors = s'.errors

/-- Whether the result of an event is that its file failed. -/
def failed : Except Failure (Option FileResult) → Bool
  | .ok (some r) => !r.ok
  | _ => false

namespace Index

variable {e : Engine ν} {t : FileTree} {i j : Index ν} {file : String}

/-- What an event does to any index: nothing, the removal of a
file, or following the content of one. -/
inductive Effect (e : Engine ν) (t : FileTree) (x : PendingEvent Spec) : Prop
  | void (r : Except Failure (Option FileResult)) (hr : failed r = false)
      (h : ∀ i : Index ν, i.reindex e t x.kind x.path x.spec = (i, r)) : Effect e t x
  | removal (file : String) (hc : t.canonical x.path = .ok file)
      (h : ∀ i : Index ν, i.reindex e t x.kind x.path x.spec =
      (i.followRemoval x.spec file, .ok none)) : Effect e t x
  | content (m : MatchedFile) (hc : t.canonical x.path = .ok m.path)
      (hnew : newPoints e t x = e.pointsFor t x.spec m)
      (h : ∀ i : Index ν, i.reindex e t x.kind x.path x.spec =
        ((i.followContent e t (x.kind = "modify") x.spec m).1,
        .ok (some (e.resultFor t x.spec m)))) : Effect e t x

theorem result_followContent (replacing : Bool) (spec : Spec) (m : MatchedFile) :
    (i.followContent e t replacing spec m).2 = e.resultFor t spec m := by
  obtain ⟨i', -, -, hresult⟩ := followContent_spec e t replacing spec m i
  rw [hresult, result_ingestFor]

theorem effect (e : Engine ν) (t : FileTree) (x : PendingEvent Spec) : Effect e t x := by
  obtain ⟨kind, path, spec⟩ := x
  by_cases hk : kind = "create" ∨ kind = "modify"
  · have hd : kind ≠ "delete" := by rcases hk with rfl | rfl <;> decide
    have hc : eventKinds.contains kind = true := by rcases hk with rfl | rfl <;> decide
    rcases hm : spec.matchPath t path with f | _ | m
    · exact .void (.error f) rfl fun i => by simp only [reindex, hc, hd, hm]; rfl
    · exact .void (.ok none) rfl fun i => by simp only [reindex, hc, hd, hm]; rfl
    · refine .content m (Spec.canonical_of_matchPath hm) (by simp [newPoints, hd, hm]) fun i => ?_
      rw [reindex_of_matchPath hk hm, result_followContent]
  · by_cases hd : kind = "delete"
    · subst hd
      cases hc : t.canonical path with
      | error f => exact .void (.error f) rfl fun i => by simp [reindex, eventKinds, hc]
      | ok file => exact .removal file hc fun i => by simp [reindex, eventKinds, hc]
    · have hnot : eventKinds.contains kind = false := by
        simp [eventKinds]
        tauto
      exact .void (.error (Failure.badValue ("Unsupported event kind: " ++ Text.quoted kind))) rfl
        fun i => by simp only [reindex, hnot, Bool.not_false, if_true]

theorem snd_reindex (x : PendingEvent Spec) (i j : Index ν) :
    (i.reindex e t x.kind x.path x.spec).2 = (j.reindex e t x.kind x.path x.spec).2 := by
  cases effect e t x with
  | void r _ h => rw [h, h]
  | removal _ _ h => rw [h, h]
  | content _ _ _ h => rw [h, h]

/-! ## Points -/

theorem store_followContent_written (replacing : Bool) (spec : Spec) (m : MatchedFile)
    (i : Index ν) :
    (i.followContent e t replacing spec m).1.store =
      upsertAll (Engine.pointsOf (e.written t spec m))
      (if replacing then PointStore.removeFile m.path i.store else i.store) := by
  obtain ⟨i', hi', hstore, -⟩ := followContent_spec e t replacing spec m i
  rw [hstore, store_ingestFor, e.fst_persist, hi']

theorem mem_reindex {x : PendingEvent Spec} {q : Point ν}
    (h : q ∈ (i.reindex e t x.kind x.path x.spec).1.store) : q ∈ i.store ∨ q ∈ newPoints e t x := by
  cases effect e t x with
  | void r _ heq => exact .inl (by rwa [heq] at h)
  | removal file _ heq =>
    rw [heq, store_followRemoval] at h
    exact .inl (List.mem_of_mem_filter h)
  | content m _ hnew heq =>
    simp only [heq, store_followContent_written] at h
    rcases PointStore.mem_upsertAll h with h | h
    · exact .inr (hnew ▸ e.pointsOf_written_subset t x.spec m h)
    · exact .inl (PointStore.mem_of_mem_cleared h)

/-- Whether all stored points with an id that an event brings in belong to the file of the event. -/
def Clashless (e : Engine ν) (t : FileTree) (x : PendingEvent Spec) (s : PointStore ν) : Prop :=
  ∀ file, t.canonical x.path = .ok file → ∀ q ∈ s, ∀ p ∈ newPoints e t x, q.id = p.id →
    isOf file q = true

theorem Clashless.congr {x : PendingEvent Spec} {s s' : PointStore ν} (hx : Clashless e t x s)
    (hc : t.canonical x.path = .ok file)
    (h : PointStore.removeFile file s' = PointStore.removeFile file s) :
    Clashless e t x s' := by
  intro file' hc' q hq p hp hid
  obtain rfl : file = file' := Except.ok.inj (hc.symm.trans hc')
  by_contra hother
  have hmem : q ∈ PointStore.removeFile file s' := List.mem_filter.mpr ⟨hq, by simpa using hother⟩
  rw [h] at hmem
  exact hother (hx file hc q (List.mem_of_mem_filter hmem) p hp hid)

section Clashless

variable {x : PendingEvent Spec} (hb : e.registry.Builtin x.spec.strategy)

include hb

theorem isOf_newPoints (hc : t.canonical x.path = .ok file) :
    ∀ p ∈ newPoints e t x, isOf file p = true := by
  intro p hp
  unfold newPoints at hp
  split_ifs at hp
  · exact absurd hp List.not_mem_nil
  · split at hp
    · rename_i m hm
      have hpath := Spec.canonical_of_matchPath hm
      rw [hc, Except.ok.injEq] at hpath
      rw [hpath]
      exact ((Engine.pointsFor_spec hb).1 p hp).1
    · exact absurd hp List.not_mem_nil

/-- Points that a filter keeps and that are not of the file of an event are not changed by it. -/
theorem filter_reindex_other (hx : Clashless e t x i.store) {keep : Point ν → Bool}
    (hkeep : ∀ file, t.canonical x.path = .ok file → ∀ q, isOf file q = true → keep q = false) :
    (i.reindex e t x.kind x.path x.spec).1.store.filter keep = i.store.filter keep := by
  cases effect e t x with
  | void r _ h => rw [h]
  | removal file hc h =>
    rw [h, store_followRemoval]
    exact PointStore.filter_removeFile (hkeep file hc)
  | content m hc hnew h =>
    have hsub := e.pointsOf_written_subset t x.spec m
    rw [← hnew] at hsub
    simp only [h, store_followContent_written, decide_eq_true_eq]
    rw [PointStore.filter_upsertAll_out]
    · split_ifs
      · exact PointStore.filter_removeFile (hkeep m.path hc)
      · rfl
    · exact fun p hp => hkeep m.path hc p (isOf_newPoints hb hc p (hsub hp))
    · exact fun q hq p hp hid =>
        hkeep m.path hc q (hx m.path hc q (PointStore.mem_of_mem_cleared hq) p (hsub hp) hid)

theorem removeFile_reindex (hx : Clashless e t x i.store) (hc : t.canonical x.path = .ok file) :
    PointStore.removeFile file (i.reindex e t x.kind x.path x.spec).1.store =
      PointStore.removeFile file i.store := by
  refine filter_reindex_other hb hx fun file' hc' q hq => ?_
  rw [hc, Except.ok.injEq] at hc'
  simp [hc', hq]

/-- The points of its file after an event are what it makes of the ones before. -/
theorem filter_reindex (hx : Clashless e t x i.store) (hc : t.canonical x.path = .ok file)
    (hj : j.store = i.store.filter (isOf file)) :
    (i.reindex e t x.kind x.path x.spec).1.store.filter (isOf file) =
      (j.reindex e t x.kind x.path x.spec).1.store := by
  cases effect e t x with
  | void r _ h => rw [h, h, hj]
  | removal file' hc' h =>
    rw [hc, Except.ok.injEq] at hc'
    rw [h, h, store_followRemoval, store_followRemoval, hj, ← hc',
      PointStore.filter_isOf_removeFile]
  | content m hc' hnew h =>
    rw [hc, Except.ok.injEq] at hc'
    have hsub := e.pointsOf_written_subset t x.spec m
    rw [← hnew] at hsub
    simp only [h, store_followContent_written, decide_eq_true_eq, ← hc']
    rw [PointStore.filter_upsertAll_in]
    · split_ifs
      · rw [hj, PointStore.filter_isOf_removeFile]
      · rw [hj]
    · exact fun p hp => isOf_newPoints hb hc p (hsub hp)
    · exact fun q hq p hp hid => hx file hc q (PointStore.mem_of_mem_cleared hq) p (hsub hp) hid

end Clashless

/-! ## Totals -/

/-- How an event of a file changes the totals, by the points that the file has before and after. -/
structure Recounted (file : String) (i j : Index ν) : Prop where
  segments : j.stats.segments =
    shift i.stats.segments ((countFile file j.store : Int) - countFile file i.store)
  documents : j.stats.documents =
    shift i.stats.documents (presence (countFile file j.store) - presence (countFile file i.store))

theorem errors_adjust (s : Stats) (source : Option String) (documents segments : Int) :
    (s.adjust source documents segments).errors = s.errors := by cases source <;> rfl

theorem errors_seeCaptures (spec : Spec) (m : MatchedFile) :
    (i.seeCaptures spec m).stats.errors = i.stats.errors := by
  unfold seeCaptures
  split_ifs <;> rfl

theorem errors_ingestFor (counting : Bool) (spec : Spec) (m : MatchedFile) :
    (i.ingestFor e t counting spec m).1.stats.errors =
      i.stats.errors + (!(i.ingestFor e t counting spec m).2.ok).toNat := by
  unfold ingestFor
  rcases e.persist t spec m i.store with ⟨s, f | segments⟩
  · rfl
  · cases counting <;> rfl

theorem errors_followContent (replacing : Bool) (spec : Spec) (m : MatchedFile) :
    (i.followContent e t replacing spec m).1.stats.errors =
      i.stats.errors + (!(e.resultFor t spec m).ok).toNat := by
  unfold followContent
  dsimp only
  rw [errors_adjust, errors_ingestFor, result_ingestFor, ← errors_seeCaptures (i := i) spec m]
  cases replacing <;> rfl

theorem errors_followRemoval (spec : Spec) (file : String) :
    (i.followRemoval spec file).stats.errors = i.stats.errors := by
  unfold followRemoval removeFile
  dsimp only
  split_ifs
  · rfl
  · exact errors_adjust ..

theorem errors_reindex (x : PendingEvent Spec) (i : Index ν) :
    (i.reindex e t x.kind x.path x.spec).1.stats.errors =
      i.stats.errors + (failed (i.reindex e t x.kind x.path x.spec).2).toNat := by
  cases effect e t x with
  | void r hr h =>
    rw [h, hr]
    rfl
  | removal file hc h =>
    rw [h]
    exact errors_followRemoval x.spec file
  | content m hc _ h =>
    have herrors := errors_followContent (e := e) (t := t) (i :=
      i) (decide (x.kind = "modify")) x.spec m
    simp only [h]
    exact herrors

theorem recounted_reindex (x : PendingEvent Spec) (hc : t.canonical x.path = .ok file) :
    Recounted file i (i.reindex e t x.kind x.path x.spec).1 := by
  cases effect e t x with
  | void r hr h =>
    rw [h]
    exact ⟨by simp [shift], by simp [shift]⟩
  | removal file' hc' h =>
    rw [hc, Except.ok.injEq] at hc'
    have ha : Adjusted file i (i.followRemoval x.spec file) := adjusted_followRemoval file
    rw [h, ← hc']
    exact ⟨ha.segments, ha.documents⟩
  | content m hc' _ h =>
    rw [hc, Except.ok.injEq] at hc'
    obtain ⟨i', -, hd, hs, heq⟩ := followContent_eq e t (x.kind = "modify") x.spec m i
    obtain ⟨hdj, hsj⟩ := totals_ingestFor e t x.spec m i'
    rw [h, hc']
    constructor
    · rw [heq, (totals_adjust _ _ _ _).2, hsj, hs]
    · rw [heq, (totals_adjust _ _ _ _).1, hdj, hd]

theorem balanced_reindex {x : PendingEvent Spec} (hb : e.registry.Builtin x.spec.strategy)
    (hx : Clashless e t x i.store) (hi : i.Balanced) :
    (i.reindex e t x.kind x.path x.spec).1.Balanced := by
  cases hc : t.canonical x.path with
  | error f =>
    cases effect e t x with
    | void r _ h => rwa [h]
    | removal file hc' => simp [hc] at hc'
    | content m hc' => simp [hc] at hc'
  | ok file =>
    obtain ⟨hs, hd⟩ := recounted_reindex (e := e) (i := i) x hc
    exact Adjusted.balanced ⟨removeFile_reindex hb hx hc, hs, hd⟩ hi

end Index

end SegmentIndex
