import SegmentIndex.Proofs.Resolution

/-!
# The paths of a walk

A walk goes into directories by name, so what it lists are routes: names that lead from one
directory into the next, and the name of a file or a link. No route is listed twice, and the path
that the directory is called by is only put before them. So two paths of a walk lead to different
places, unless one of them ends with the name of a link.
-/
namespace SegmentIndex

namespace Path

/-- The names of a path, without the empty one after a slash at its end. -/
def leadingNames (path : String) : List String :=
  if path.endsWith "/" then (names path).dropLast else names path

theorem splitSlashes_append_slash (cs ds : List Char) :
    splitSlashes (cs ++ '/' :: ds) = splitSlashes cs ++ splitSlashes ds := by
  induction cs with
  | nil => exact splitSlashes_slash ds
  | cons c cs ih =>
    by_cases hc : c = '/'
    · rw [hc, List.cons_append, splitSlashes_slash, splitSlashes_slash, ih, List.cons_append]
    · obtain ⟨n, ns, hcs, hcons⟩ := splitSlashes_cons hc cs
      obtain ⟨n', ns', hboth, hcons'⟩ := splitSlashes_cons hc (cs ++ '/' :: ds)
      rw [ih, hcs, List.cons_append, List.cons.injEq] at hboth
      rw [List.cons_append, hcons', hcons, List.cons_append, hboth.1, hboth.2]

theorem names_of_slash {path : String} {cs ds : List Char} (h : path.toList = cs ++ '/' :: ds)
    (hds : '/' ∉ ds) :
    names path = (splitSlashes cs).map .ofList ++ [.ofList ds] := by
  rw [names, h, splitSlashes_append_slash, splitSlashes_of_no_slash hds, List.map_append]
  rfl

variable {top n : String}

theorem names_eq_leadingNames (path : String) :
    names path = leadingNames path ∨ names path = leadingNames path ++ [""] := by
  unfold leadingNames
  split_ifs with hslash
  · obtain ⟨cs, hcs⟩ := endsWith_slash_iff.mp hslash
    have hnames := names_of_slash hcs.symm List.not_mem_nil
    rw [hnames, List.dropLast_concat]
    exact .inr rfl
  · exact .inl rfl

theorem exists_join (htop : top ≠ "") (hn : '/' ∉ n.toList) :
    ∃ cs, (join top n).toList = cs ++ '/' :: n.toList ∧
    leadingNames top = (splitSlashes cs).map .ofList ∧ top.toList <+: cs ++ ['/'] := by
  have hrel : isAbsolute n = false := isAbsolute_of_no_slash hn
  unfold join leadingNames
  by_cases hslash : top.endsWith "/" = true
  · obtain ⟨cs, hcs⟩ := endsWith_slash_iff.mp hslash
    refine ⟨cs, ?_, ?_, ?_⟩
    · simp only [hrel, hslash, Bool.or_true, if_true, Bool.false_eq_true, if_false]
      rw [String.toList_append, ← hcs, List.append_assoc]
      rfl
    · rw [if_pos hslash, names_of_slash hcs.symm List.not_mem_nil, List.dropLast_concat]
    · rw [hcs]
  · refine ⟨top.toList, ?_, ?_, List.prefix_append _ _⟩
    · simp only [hrel, htop, hslash, decide_false, Bool.or_self, Bool.false_eq_true, if_false]
      rw [String.toList_append, String.toList_append, List.append_assoc]
      rfl
    · rw [if_neg hslash, names]

theorem join_ne_empty (htop : top ≠ "") (hn : '/' ∉ n.toList) : join top n ≠ "" := by
  obtain ⟨cs, htext, -, -⟩ := exists_join htop hn
  intro heq
  simp [heq] at htext

theorem names_join (htop : top ≠ "") (hn : '/' ∉ n.toList) :
    names (join top n) = leadingNames top ++ [n] := by
  obtain ⟨cs, htext, hlead, -⟩ := exists_join htop hn
  rw [names_of_slash htext hn, hlead, String.ofList_toList]

theorem leadingNames_join (htop : top ≠ "") (hempty : n ≠ "") (hn : '/' ∉ n.toList) :
    leadingNames (join top n) = leadingNames top ++ [n] := by
  have hnames := names_join htop hn
  rcases names_eq_leadingNames (join top n) with hlead | hlead
  · rw [← hlead, hnames]
  · have hlast := List.append_inj_right' (hnames.symm.trans hlead) rfl
    exact absurd (List.singleton_inj.mp hlast) hempty

theorem isAbsolute_join (htop : top ≠ "") (hn : '/' ∉ n.toList) :
    isAbsolute (join top n) = isAbsolute top := by
  obtain ⟨cs, htext, -, hstart⟩ := exists_join htop hn
  have hway : top.toList <+: (join top n).toList := by
    rw [htext, List.append_cons]
    exact hstart.trans (List.prefix_append _ _)
  have hlength : "/".toList.length ≤ top.toList.length := by
    rw [String.length_toList, String.length_toList]
    exact Nat.one_le_iff_ne_zero.mpr (by simpa using htop)
  rw [Bool.eq_iff_iff, isAbsolute, isAbsolute, String.startsWith_string_iff,
    String.startsWith_string_iff]
  exact ⟨fun h => List.prefix_of_prefix_length_le h hway hlength, fun h => h.trans hway⟩

theorem names_foldl_join {route : List String} (htop : top ≠ "") (hne : route ≠ [])
    (hroute : ∀ n ∈ route, n ≠ "" ∧ '/' ∉ n.toList) :
    names (route.foldl join top) = leadingNames top ++ route := by
  induction route generalizing top with
  | nil => exact absurd rfl hne
  | cons n route ih =>
    obtain ⟨⟨hempty, hn⟩, hroute⟩ := List.forall_mem_cons.mp hroute
    rw [List.foldl_cons]
    by_cases hlast : route = []
    · rw [hlast]
      exact names_join htop hn
    · rw [ih (join_ne_empty htop hn) hlast hroute, leadingNames_join htop hempty hn,
        List.append_assoc]
      rfl

theorem isAbsolute_foldl_join {route : List String} (htop : top ≠ "")
    (hroute : ∀ n ∈ route, '/' ∉ n.toList) :
    isAbsolute (route.foldl join top) = isAbsolute top := by
  induction route generalizing top with
  | nil => rfl
  | cons n route ih =>
    obtain ⟨hn, hroute⟩ := List.forall_mem_cons.mp hroute
    rw [List.foldl_cons, ih (join_ne_empty htop hn) hroute, isAbsolute_join htop hn]

end Path

namespace FileTree

variable {t : FileTree}

/-! ## Routes -/

def routes (t : FileTree) : Nat → Location → List (List String)
  | 0, _ => []
  | fuel + 1, at_ =>
    ((t.childNames at_).filter fun n => !t.leadsToDir at_ n).map ([·]) ++
      ((t.childNames at_).filter fun n => t.isRealDir at_ n).flatMap fun n =>
      (t.routes fuel (at_ ++ [n])).map (n :: ·)

theorem walk_eq_map_routes (fuel : Nat) (top : String) (at_ : Location) :
    t.walk fuel top at_ = (t.routes fuel at_).map fun route => route.foldl Path.join top := by
  induction fuel generalizing top at_ with
  | zero => rfl
  | succ fuel ih =>
    simp only [walk, routes, ih, List.map_append, List.map_map, List.map_flatMap]
    rfl

/-- The name of a place in a directory, if it is in it. -/
def childName? (at_ place : Location) : Option String :=
  if place.length = at_.length + 1 && at_.isPrefixOf place then place.getLast? else none

theorem childName?_eq_some {at_ place : Location} {n : String} :
    childName? at_ place = some n ↔ place = at_ ++ [n] := by
  unfold childName?
  constructor
  · intro hlast
    split_ifs at hlast with hchild
    rw [Bool.and_eq_true, decide_eq_true_eq, List.isPrefixOf_iff_prefix] at hchild
    obtain ⟨hlength, more, rfl⟩ := hchild
    obtain ⟨m, rfl⟩ : ∃ m, more = [m] := List.length_eq_one_iff.mp (by simpa using hlength)
    obtain rfl : m = n := by simpa using hlast
    rfl
  · rintro rfl
    simp

theorem nodup_childNames (hd : (t.entries.map (·.1)).Nodup) (at_ : Location) :
    (t.childNames at_).Nodup := by
  have hnames : t.childNames at_ =
      sortNames ((t.entries.map (·.1)).filterMap (childName? at_)) := by
    rw [List.filterMap_map]
    rfl
  rw [hnames, sortNames, Value.sortTexts, (List.mergeSort_perm _ _).nodup_iff]
  apply hd.filterMap
  intro place place' n hplace hplace'
  rw [childName?_eq_some.mp hplace, childName?_eq_some.mp hplace']

theorem ne_nil_of_mem_routes {fuel : Nat} {at_ : Location} {route : List String}
    (h : route ∈ t.routes fuel at_) :
    route ≠ [] := by
  cases fuel with
  | zero => simp [routes] at h
  | succ fuel =>
    simp only [routes, List.mem_append, List.mem_map, List.mem_flatMap] at h
    rcases h with ⟨n, -, rfl⟩ | ⟨n, -, rest, -, rfl⟩
    · exact List.cons_ne_nil n []
    · exact List.cons_ne_nil n rest

theorem nodup_routes (hd : (t.entries.map (·.1)).Nodup) (fuel : Nat) (at_ : Location) :
    (t.routes fuel at_).Nodup := by
  induction fuel generalizing at_ with
  | zero => exact List.nodup_nil
  | succ fuel ih =>
    have hchildren := nodup_childNames hd at_
    have hfiles : (((t.childNames at_).filter fun n => !t.leadsToDir at_ n).map ([·])).Nodup :=
      (hchildren.filter _).map fun n m h => List.singleton_inj.mp h
    have hdirs : (((t.childNames at_).filter fun n => t.isRealDir at_ n).flatMap fun n =>
        (t.routes fuel (at_ ++ [n])).map (n :: ·)).Nodup := by
      rw [List.nodup_flatMap]
      constructor
      · intro n _
        exact (ih (at_ ++ [n])).map List.cons_injective
      · apply (hchildren.filter _).imp
        intro n m hne route hn hm
        obtain ⟨_, _, rfl⟩ := List.mem_map.mp hn
        obtain ⟨_, _, heq⟩ := List.mem_map.mp hm
        exact hne (List.cons.inj heq).1.symm
    refine List.nodup_append.mpr ⟨hfiles, hdirs, ?_⟩
    -- a file of the directory is one name, and what is below a subdirectory at least two
    rintro file hfile route hroute rfl
    obtain ⟨n, -, rfl⟩ := List.mem_map.mp hfile
    obtain ⟨m, -, hroute⟩ := List.mem_flatMap.mp hroute
    obtain ⟨rest, hrest, heq⟩ := List.mem_map.mp hroute
    exact ne_nil_of_mem_routes hrest (List.cons.inj heq).2

/-- A route goes through directories to a name that stands in the last of them. -/
theorem Lawful.leads_of_mem_routes (h : t.Lawful) {fuel : Nat} {at_ : Location}
    {route : List String} (hroute : route ∈ t.routes fuel at_) :
    ∃ dirs n, route = dirs ++ [n] ∧ t.Leads at_ dirs (at_ ++ dirs) ∧
      n ∈ t.childNames (at_ ++ dirs) := by
  induction fuel generalizing at_ route with
  | zero => simp [routes] at hroute
  | succ fuel ih =>
    simp only [routes, List.mem_append, List.mem_map, List.mem_flatMap, List.mem_filter] at hroute
    rcases hroute with ⟨n, ⟨hn, -⟩, rfl⟩ | ⟨n, ⟨hn, hdir⟩, rest, hrest, rfl⟩
    · exact ⟨[], n, rfl, by simpa using .done at_, by simpa using hn⟩
    · obtain ⟨dirs, m, rfl, hleads, hm⟩ := ih hrest
      have hentry : t.entry? (at_ ++ [n]) = some .dir := by
        unfold isRealDir at hdir
        split at hdir
        · assumption
        · cases hdir
      have hproper : Proper n := h.proper_of_entry? hentry n (by simp)
      have hnull : NullFree n := h.nullFree _ (mem_entries (by simp) hentry) n (by simp)
      have hlink : t.linkAt? at_ n = none := by
        unfold linkAt?
        simp [hentry]
      rw [List.append_assoc] at hleads hm
      refine ⟨n :: dirs, m, rfl, .plain hnull hlink ?_, hm⟩
      rwa [descend_of_proper hproper]

/-! ## Where the paths of a walk lead -/

variable {at_ place : Location} {ns : List String} {top path p q c : String}

/-- One name of a path that can be looked up is followed: a link
by its target, another one by itself. -/
theorem Lawful.of_resolve_cons (h : t.Lawful) {fuel links : Nat} {n : String}
    (hplace : t.resolve (fuel + 1) links true at_ (n :: ns) = .ok place) :
    (NullFree n ∧ t.linkAt? at_ n = none ∧ t.resolve fuel links true (descend at_ n) ns =
      .ok place) ∨
      ∃ target, t.linkAt? at_ n = some target ∧
        t.resolve fuel (links + 1) true (startOf at_ target) (Path.names target ++ ns) =
          .ok place := by
  simp only [resolve, Bool.not_true, Bool.and_false, Bool.false_eq_true, if_false] at hplace
  split at hplace
  · unfold descend
    by_cases hempty : (decide (n = "") || decide (n = ".")) = true
    · rw [if_pos hempty] at hplace ⊢
      simp only [Bool.or_eq_true, decide_eq_true_eq] at hempty
      rcases hempty with rfl | rfl
      · exact .inl ⟨by decide, rfl, hplace⟩
      · exact .inl ⟨by decide, rfl, hplace⟩
    rw [if_neg hempty] at hplace ⊢
    simp only [Bool.or_eq_true, decide_eq_true_eq, not_or] at hempty
    by_cases hdots : n = ".."
    · rw [if_pos hdots] at hplace ⊢
      subst hdots
      exact .inl ⟨by decide, rfl, hplace⟩
    rw [if_neg hdots] at hplace ⊢
    split at hplace
    · cases hplace
    rcases hentry : t.entry? (at_ ++ [n]) with _ | e
    · simp [hentry] at hplace
    cases hlink : t.linkAt? at_ n with
    | some target =>
      obtain ⟨-, -, -, hlinked⟩ := linkAt?_eq_some.mp hlink
      rw [hlinked] at hplace
      dsimp only at hplace
      split at hplace
      · cases hplace
      · exact .inr ⟨target, rfl, hplace⟩
    | none =>
      refine .inl ⟨h.nullFree _ (mem_entries (by simp) hentry) n (by simp), rfl, ?_⟩
      cases e with
      | link target =>
        have hsome := linkAt?_eq_some.mpr ⟨hempty.1, hempty.2, hdots, hentry⟩
        simp [hlink] at hsome
      | dir => simpa only [hentry] using hplace
      | file bytes => simpa only [hentry] using hplace
  · cases hplace

theorem Lawful.leads_of_resolve (h : t.Lawful) {fuel links : Nat}
    (hplace : t.resolve fuel links true at_ ns = .ok place) : t.Leads at_ ns place := by
  induction fuel generalizing links at_ ns with
  | zero => cases hplace
  | succ fuel ih =>
    cases ns with
    | nil =>
      obtain rfl := Except.ok.inj hplace
      exact .done at_
    | cons n ns =>
      rcases h.of_resolve_cons hplace with ⟨hnull, hlink, hplace⟩ | ⟨target, hlink, hplace⟩
      · exact .plain hnull hlink (ih hplace)
      · obtain ⟨mid, hway, hrest⟩ := leads_append.mp (ih hplace)
        exact .link hlink hway hrest

theorem Lawful.leads_of_at? (h : t.Lawful) (habs : Path.isAbsolute path = true) {e : Entry}
    (hat : t.at? path = .ok (place, e)) : t.Leads [] (Path.names path) place := by
  unfold at? at hat
  cases hfind : t.find true path with
  | error f => simp [hfind, bind, Except.bind] at hat
  | ok location =>
    have hlocation : location = place := by
      simp only [hfind, bind, Except.bind] at hat
      split at hat
      · exact (Prod.mk.inj (Except.ok.inj hat)).1
      · cases hat
    subst hlocation
    unfold find at hfind
    split_ifs at hfind
    exact h.leads_of_resolve hfind

theorem Lawful.proper_of_mem_routes (h : t.Lawful) {fuel : Nat} {route : List String}
    (hroute : route ∈ t.routes fuel at_) : ∀ n ∈ at_ ++ route, Proper n := by
  obtain ⟨dirs, n, rfl, -, hn⟩ := h.leads_of_mem_routes hroute
  rw [← List.append_assoc]
  exact h.proper_of_childNames hn

theorem Lawful.names_of_route (h : t.Lawful) (htop : top ≠ "") {fuel : Nat} {route : List String}
    (hroute : route ∈ t.routes fuel at_) :
    Path.names (route.foldl Path.join top) = Path.leadingNames top ++ route := by
  apply Path.names_foldl_join htop (ne_nil_of_mem_routes hroute)
  intro n hn
  have hproper := h.proper_of_mem_routes hroute n (List.mem_append_right _ hn)
  exact ⟨hproper.ne_empty, hproper.no_slash⟩

theorem ne_empty_of_at? {found : Location × Entry} (hat : t.at? top = .ok found) : top ≠ "" := by
  rintro rfl
  simp [at?, find, bind, Except.bind] at hat

/-- Whether the last name of a path is that of a link. -/
def EndsAtLink (t : FileTree) (path : String) : Prop :=
  ∃ ns n at_ target, Path.names path = ns ++ [n] ∧ t.Leads [] ns at_ ∧ t.linkAt? at_ n = some target

/-- A path of a walk leads to the place of its route, unless it ends with the name of a link. -/
theorem Lawful.leads_of_route (h : t.Lawful) (habs : Path.isAbsolute top = true) {e : Entry}
    (hat : t.at? top = .ok (at_, e)) {fuel : Nat} {route : List String}
    (hroute : route ∈ t.routes fuel at_) (hlink : ¬ t.EndsAtLink (route.foldl Path.join top)) :
    t.Leads [] (Path.names (route.foldl Path.join top)) (at_ ++ route) := by
  have hstart : t.Leads [] (Path.leadingNames top) at_ := by
    have hleads := h.leads_of_at? habs hat
    rcases Path.names_eq_leadingNames top with hnames | hnames
    · rwa [hnames] at hleads
    · rw [hnames] at hleads
      obtain ⟨mid, hmid, hrest⟩ := leads_append.mp hleads
      obtain ⟨-, hrest⟩ := hrest.of_plain rfl
      rw [descend_empty] at hrest
      rwa [hrest.unique (.done mid)]
  have hproper := h.proper_of_mem_routes hroute
  have hnames := h.names_of_route (ne_empty_of_at? hat) hroute
  obtain ⟨dirs, n, rfl, hdirs, hn⟩ := h.leads_of_mem_routes hroute
  have hway : t.Leads [] (Path.leadingNames top ++ dirs) (at_ ++ dirs) :=
    leads_append.mpr ⟨at_, hstart, hdirs⟩
  have hplain : t.linkAt? (at_ ++ dirs) n = none := by
    rw [Option.eq_none_iff_forall_ne_some]
    intro target htarget
    apply hlink
    exact ⟨_, n, _, target, by rw [hnames, List.append_assoc], hway, htarget⟩
  obtain ⟨e, hentry⟩ := mem_childNames.mp hn
  have hlast : t.Leads (at_ ++ dirs) [n] (at_ ++ dirs ++ [n]) := by
    refine .plain (h.nullFree _ hentry n (by simp)) hplain ?_
    rw [descend_of_proper (hproper n (by simp))]
    exact .done _
  rw [hnames, ← List.append_assoc, ← List.append_assoc]
  exact leads_append.mpr ⟨_, hway, hlast⟩

theorem textFor_inj {location location' : Location} (hne : location ≠ [])
    (hproper : ∀ n ∈ location, Proper n) (hne' : location' ≠ [])
    (hproper' : ∀ n ∈ location', Proper n) (h : textFor p location = textFor q location') :
    location = location' := by
  have hslash : ∀ n ∈ location ++ [""], '/' ∉ n.toList := no_slash_append hproper (by decide)
  have hslash' : ∀ n ∈ location' ++ [""], '/' ∉ n.toList := no_slash_append hproper' (by decide)
  have hplain : ∀ n ∈ location, '/' ∉ n.toList := fun n hn => (hproper n hn).no_slash
  have hplain' : ∀ n ∈ location', '/' ∉ n.toList := fun n hn => (hproper' n hn).no_slash
  rcases textFor_eq p location with hp | hp <;> rcases textFor_eq q location' with hq | hq <;>
    rw [hp, hq] at h
  · exact (pathOf_inj hne hne' hplain hplain').mp h
  · rw [pathOf_inj hne (by simp) hplain hslash'] at h
    have hempty : Proper "" := hproper "" (by simp [h])
    exact absurd rfl hempty.ne_empty
  · rw [pathOf_inj (by simp) hne' hslash hplain'] at h
    have hempty : Proper "" := hproper' "" (by simp [← h])
    exact absurd rfl hempty.ne_empty
  · rw [pathOf_inj (by simp) (by simp) hslash hslash'] at h
    exact (List.append_inj' h rfl).1

theorem filesBelow_eq_map_routes (hat : t.at? top = .ok (at_, .dir)) :
    t.filesBelow top = (t.routes (t.depth + 1) at_).map fun route => route.foldl Path.join top := by
  simp only [filesBelow, hat, walk_eq_map_routes]

theorem exists_dir_of_filesBelow (hp : p ∈ t.filesBelow top) :
    ∃ at_, t.at? top = .ok (at_, .dir) := by
  unfold filesBelow at hp
  split at hp
  · exact ⟨_, ‹_›⟩
  · cases hp

/-- Two paths of a walk have the same canonical form only if one
of them ends with the name of a link. -/
theorem Lawful.eq_of_canonical_eq (h : t.Lawful) (hp : p ∈ t.filesBelow top)
    (hq : q ∈ t.filesBelow top) (hpc : t.canonical p = .ok c) (hqc : t.canonical q = .ok c)
    (hpl : ¬ t.EndsAtLink p) (hql : ¬ t.EndsAtLink q) :
    p = q := by
  obtain ⟨at_, hat⟩ := exists_dir_of_filesBelow hp
  rw [filesBelow_eq_map_routes hat, List.mem_map] at hp hq
  obtain ⟨route, hroute, rfl⟩ := hp
  obtain ⟨route', hroute', rfl⟩ := hq
  have hproper := h.proper_of_mem_routes hroute
  have hproper' := h.proper_of_mem_routes hroute'
  have habs : Path.isAbsolute (route.foldl Path.join top) = Path.isAbsolute top :=
    Path.isAbsolute_foldl_join (ne_empty_of_at? hat) fun n hn =>
      (hproper n (List.mem_append_right _ hn)).no_slash
  have habs' : Path.isAbsolute (route'.foldl Path.join top) = Path.isAbsolute top :=
    Path.isAbsolute_foldl_join (ne_empty_of_at? hat) fun n hn =>
      (hproper' n (List.mem_append_right _ hn)).no_slash
  cases hroot : Path.isAbsolute top with
  | false =>
    rw [hroot] at habs habs'
    rw [canonical_of_not_absolute habs] at hpc
    rw [canonical_of_not_absolute habs'] at hqc
    exact Except.ok.inj (hpc.trans hqc.symm)
  | true =>
    rw [hroot] at habs habs'
    obtain ⟨location, hlocation, rfl⟩ := (canonical_eq_ok_iff habs).mp hpc
    obtain ⟨location', hlocation', htext⟩ := (canonical_eq_ok_iff habs').mp hqc
    obtain rfl := (h.leads_of_route hroot hat hroute hpl).canonicalLocation_unique hlocation
    obtain rfl := (h.leads_of_route hroot hat hroute' hql).canonicalLocation_unique hlocation'
    have hne : at_ ++ route ≠ [] := by simp [ne_nil_of_mem_routes hroute]
    have hne' : at_ ++ route' ≠ [] := by simp [ne_nil_of_mem_routes hroute']
    rw [List.append_cancel_left (textFor_inj hne hproper hne' hproper' htext)]

theorem Lawful.nodup_filesBelow (h : t.Lawful) (hd : (t.entries.map (·.1)).Nodup) (top : String) :
    (t.filesBelow top).Nodup := by
  by_cases hdir : ∃ at_, t.at? top = .ok (at_, .dir)
  · obtain ⟨at_, hat⟩ := hdir
    rw [filesBelow_eq_map_routes hat]
    apply List.Nodup.map_on _ (nodup_routes hd _ _)
    intro route hroute route' hroute' heq
    have hnames := congrArg Path.names heq
    rw [h.names_of_route (ne_empty_of_at? hat) hroute,
      h.names_of_route (ne_empty_of_at? hat) hroute'] at hnames
    exact List.append_cancel_left hnames
  · have hnone : t.filesBelow top = [] := by
      rw [List.eq_nil_iff_forall_not_mem]
      intro p hp
      exact hdir (exists_dir_of_filesBelow hp)
    rw [hnone]
    exact List.nodup_nil

end FileTree

end SegmentIndex
