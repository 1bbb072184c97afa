import SegmentIndex.Proofs.Likeness
import SegmentIndex.Vector.Store

/-!
# Turning pages

A search that turns the pages of a collection starts each page at the first point that the page
before left out. As the points of a page come in the order of their ids, and no two have one id, the
pages together are all points that are asked for, each once, and the search comes to a last page.
-/
namespace SegmentIndex.Vector

namespace Record

/-- Whether each point has an id of its own. -/
def Distinct (rs : List Record) : Prop := (rs.map (·.id)).Nodup

variable {rs qs : List Record}

theorem Distinct.filter (h : Distinct rs) (keep : Record → Bool) : Distinct (rs.filter keep) :=
  List.Nodup.sublist (List.filter_sublist.map _) h

theorem Distinct.perm (h : Distinct rs) (hp : rs.Perm qs) : Distinct qs := (hp.map _).nodup_iff.mp h

theorem Distinct.ordered (h : Distinct rs) (hle : rs.Pairwise (·.id ≤ ·.id)) :
    rs.Pairwise (·.id < ·.id) :=
  hle.imp₂ (fun _ _ hle hne => lt_of_le_of_ne hle hne) (List.pairwise_map.mp h)

theorem eq_of_ordered (hr : rs.Pairwise (·.id < ·.id)) (hq : qs.Pairwise (·.id < ·.id))
    (hp : rs.Perm qs) :
    rs = qs :=
  hp.eq_of_pairwise (fun _ _ _ _ hlt hgt => absurd hgt (lt_asymm hlt)) hr hq

/-- In the order of ids, a point and those behind it are the ones with ids from its own on. -/
theorem filter_eq_drop (hr : rs.Pairwise (·.id < ·.id)) {n : Nat} {r : Record}
    (hn : rs[n]? = some r) :
    rs.filter (fun q => decide (r.id ≤ q.id)) = rs.drop n := by
  obtain ⟨hlt, hget⟩ := List.getElem?_eq_some_iff.mp hn
  have hhead : rs.drop n = r :: rs.drop (n + 1) := hget ▸ List.drop_eq_getElem_cons hlt
  rw [← List.take_append_drop n rs, List.pairwise_append] at hr
  obtain ⟨-, hbehind, hacross⟩ := hr
  have hbefore : (rs.take n).filter (fun q => decide (r.id ≤ q.id)) = [] := by
    rw [List.filter_eq_nil_iff]
    intro q hq hle
    exact absurd (of_decide_eq_true hle) (not_le.mpr (hacross q hq r (hhead ▸ List.mem_cons_self)))
  have hafter : (rs.drop n).filter (fun q => decide (r.id ≤ q.id)) = rs.drop n := by
    rw [List.filter_eq_self]
    intro q hq
    rw [hhead] at hq hbehind
    rcases List.mem_cons.mp hq with rfl | hq
    · exact decide_eq_true le_rfl
    · exact decide_eq_true (List.rel_of_pairwise_cons hbehind hq).le
  calc rs.filter (fun q => decide (r.id ≤ q.id))
      = (rs.take n ++ rs.drop n).filter fun q => decide (r.id ≤ q.id) := by
        rw [List.take_append_drop]
    _ = rs.drop n := by rw [List.filter_append, hbefore, hafter, List.nil_append]

end Record

/-- The points of a collection that meet filters, from a start on. -/
def Kept.remaining (c : Kept) (meets : Entries → Entries → Bool) (filters : Entries)
    (start : Option String) :
    List Record :=
  c.records.filter fun r => meets filters r.payload && start.all (· ≤ r.id)

namespace Kept

variable {c : Kept} {meets : Entries → Entries → Bool} {filters : Entries}

theorem remaining_none : c.remaining meets filters none = c.records.filter fun r =>
    meets filters r.payload := by
  simp [remaining]

theorem remaining_some {start : Option String} {r : Record}
    (hr : r ∈ c.remaining meets filters start) :
    c.remaining meets filters (some r.id) =
      (c.remaining meets filters start).filter fun q => decide (r.id ≤ q.id) := by
  have hstart : start.all (· ≤ r.id) = true := (Bool.and_eq_true_iff.mp (List.mem_filter.mp hr).2).2
  rw [remaining, remaining, List.filter_filter]
  refine List.filter_congr fun q _ => ?_
  cases start with
  | none => simp [Bool.and_comm]
  | some id =>
    have hle : id ≤ r.id := by simpa using hstart
    have hboth : decide (r.id ≤ q.id) = (decide (r.id ≤ q.id) && decide (id ≤ q.id)) := by
      by_cases hq : r.id ≤ q.id
      · simp [hq, hle.trans hq]
      · simp [hq]
    rw [Option.all_some, Option.all_some, Bool.and_left_comm, ← hboth]

end Kept

section

variable {κ : Type} {client : Client κ} {kept : String → κ → Option Kept} {taken : Entries → Prop}
  {meets : Entries → Entries → Bool} {s : Store κ} {c : Kept} {filters : Entries}

theorem Store.turn_eq {p : Progress} {page : List Record} {next : Option String}
    (h : client.scroll s.name filters pageSize p.start (s.connected client) = .ok (page, next)) :
    s.turn client filters p = .ok (if next.isSome then
      .inl ⟨next, p.found ++ page.filterMap Record.segment⟩
      else .inr (p.found ++ page.filterMap Record.segment)) := by
  rw [turn, h]
  rfl

/-- A search on its way comes to a last page and has then found the points that remained. -/
theorem Store.repeatM_turn (hclient : client.Lawful kept taken meets)
    (hc : kept s.name (s.connected client) = some c)
    (hd : Record.Distinct c.records) (hf : taken filters) (p : Progress) {rs : List Record}
    (hrs : rs.Perm (c.remaining meets filters p.start)) (hordered : rs.Pairwise (·.id < ·.id)) :
    repeatM (s.turn client filters) p = .ok (p.found ++ rs.filterMap Record.segment) := by
  induction hn : rs.length using Nat.strong_induction_on generalizing p rs with
  | _ n ih =>
    obtain ⟨page, hscroll, hperm, hle⟩ := hclient.scroll pageSize p.start hc hf
    have hpage : page = rs :=
      Record.eq_of_ordered (((hd.filter _).perm hperm.symm).ordered hle) hordered
        (hperm.trans hrs.symm)
    have hturn := s.turn_eq hscroll
    rw [repeatM_eq_of_monadTail, repeatM.body, hturn, hpage]
    cases hnext : rs[pageSize]? with
    | none =>
      rw [List.take_of_length_le (List.getElem?_eq_none_iff.mp hnext)]
      rfl
    | some r =>
      have hrest : (rs.drop pageSize).Perm (c.remaining meets filters (some r.id)) := by
        rw [Kept.remaining_some (hrs.subset (List.mem_of_getElem? hnext)),
          ← Record.filter_eq_drop hordered hnext]
        exact hrs.filter _
      have hshort : (rs.drop pageSize).length < n := by
        have hlong : pageSize < rs.length := (List.getElem?_eq_some_iff.mp hnext).1
        rw [List.length_drop, pageSize] at *
        omega
      have hlater := ih _ hshort ⟨some r.id,
        p.found ++ (rs.take pageSize).filterMap Record.segment⟩ hrest
        (hordered.sublist (List.drop_sublist ..)) rfl
      rw [List.append_assoc, ← List.filterMap_append, List.take_append_drop] at hlater
      exact hlater

theorem Store.exists_findIds (hclient : client.Lawful kept taken meets)
    (hc : kept s.name (s.connected client) = some c) (hd : Record.Distinct c.records)
    (hf : taken filters) :
    ∃ rs : List Record, rs.Perm (c.records.filter fun r => meets filters r.payload) ∧
      s.findIds client filters = .ok (rs.filterMap Record.segment) := by
  obtain ⟨rs, -, hperm, hle⟩ := hclient.scroll pageSize none hc hf
  have hordered := ((hd.filter _).perm hperm.symm).ordered hle
  exact ⟨rs, Kept.remaining_none ▸ hperm, s.repeatM_turn hclient hc hd hf ⟨none, []⟩ hperm hordered⟩

end

end SegmentIndex.Vector
