import SegmentIndex.Proofs.BulkIngest
import SegmentIndex.Proofs.Likeness
import SegmentIndex.Proofs.Subscriptions
import SegmentIndex.Proofs.Walks

/-!
# Where links lead

The names of a path lead from place to place: a link leads to where its target leads, and any other
name to the place of that name, whether anything stands there or not. When no link is met on its own
way, every path leads somewhere, and its canonical form is the path of that place. No link is left
on the way there, so the canonical form of a canonical form is the same once more, and a file that
is found is found again under the path that it was found with.
-/
namespace SegmentIndex

namespace FileTree

variable {t : FileTree} {at_ mid place place' l : Location} {n target : String}
  {ns ms : List String}

/-- The target of the link that a name stands for in a location, if it stands for a link. -/
def linkAt? (t : FileTree) (at_ : Location) (n : String) : Option String :=
  if n = "" || n = "." || n = ".." then none
  else
    match t.entry? (at_ ++ [n]) with
    | some (.link target) => some target
    | _ => none

/-- Where the names of a target start, for a link that stands in a location. -/
def startOf (at_ : Location) (target : String) : Location :=
  if Path.isAbsolute target then [] else at_

/-- Whether names lead from one location to another. -/
inductive Leads (t : FileTree) : Location → List String → Location → Prop
  | done (at_ : Location) : Leads t at_ [] at_
  | plain {at_ place : Location} {n : String} {ns : List String} (hnull : NullFree n)
      (hlink : t.linkAt? at_ n = none)
      (hrest : Leads t (descend at_ n) ns place) : Leads t at_ (n :: ns) place
  | link {at_ mid place : Location} {n target : String} {ns : List String}
      (hlink : t.linkAt? at_ n = some target)
      (hway : Leads t (startOf at_ target) (Path.names target) mid) (hrest : Leads t mid ns place) :
      Leads t at_ (n :: ns) place

/-- Whether a link is met on the way that names lead from a
location, or on the way of a link that is met. -/
inductive Meets (t : FileTree) : Location → List String → Location → Prop
  | here {at_ : Location} {n target : String} {ns : List String}
      (hlink : t.linkAt? at_ n = some target) :
      Meets t at_ (n :: ns) (at_ ++ [n])
  | inside {at_ l : Location} {n target : String} {ns : List String}
      (hlink : t.linkAt? at_ n = some target)
      (hway : Meets t (startOf at_ target) (Path.names target) l) : Meets t at_ (n :: ns) l
  | beyond {at_ mid l : Location} {n target : String} {ns : List String}
      (hlink : t.linkAt? at_ n = some target)
      (hway : Leads t (startOf at_ target) (Path.names target) mid) (hrest : Meets t mid ns l) :
      Meets t at_ (n :: ns) l
  | plain {at_ l : Location} {n : String} {ns : List String} (hlink : t.linkAt? at_ n = none)
      (hrest : Meets t (descend at_ n) ns l) : Meets t at_ (n :: ns) l

/-- Whether one link is met on the way of another. -/
def Passes (t : FileTree) (place l : Location) : Prop :=
  ∃ target, t.entry? place = some (.link target) ∧
    t.Meets (startOf place.dropLast target) (Path.names target) l

/-- Whether links form no circle: none is met on its own way. -/
def Acyclic (t : FileTree) : Prop := ∀ l, ¬ t.Passes l l

theorem linkAt?_eq_some : t.linkAt? at_ n = some target ↔
    n ≠ "" ∧ n ≠ "." ∧ n ≠ ".." ∧ t.entry? (at_ ++ [n]) = some (.link target) := by
  unfold linkAt?
  split_ifs with hdots
  · simp only [Bool.or_eq_true, decide_eq_true_eq] at hdots
    simp
    tauto
  · simp only [Bool.or_eq_true, decide_eq_true_eq, not_or] at hdots
    rcases t.entry? (at_ ++ [n]) with _ | _ | _ | target' <;> simp [hdots]

theorem passes_of_linkAt? (hlink : t.linkAt? at_ n = some target) :
    t.Passes (at_ ++ [n]) l ↔ t.Meets (startOf at_ target) (Path.names target) l := by
  obtain ⟨-, -, -, hentry⟩ := linkAt?_eq_some.mp hlink
  simp [Passes, hentry]

/-! ## One name further -/

theorem not_meets_nil : ¬ t.Meets at_ [] l := by
  intro h
  cases h

theorem meets_of_plain (hlink : t.linkAt? at_ n = none) :
    t.Meets at_ (n :: ns) l ↔ t.Meets (descend at_ n) ns l := by
  constructor
  · intro h
    cases h with
    | here h => simp [hlink] at h
    | inside h => simp [hlink] at h
    | beyond h => simp [hlink] at h
    | plain _ hrest => exact hrest
  · exact .plain hlink

theorem Leads.of_plain (hlink : t.linkAt? at_ n = none) (h : t.Leads at_ (n :: ns) place) :
    NullFree n ∧ t.Leads (descend at_ n) ns place := by
  cases h with
  | plain hnull _ hrest => exact ⟨hnull, hrest⟩
  | link h => simp [hlink] at h

theorem Leads.of_link (hlink : t.linkAt? at_ n = some target) (h : t.Leads at_ (n :: ns) place) :
    ∃ mid, t.Leads (startOf at_ target) (Path.names target) mid ∧ t.Leads mid ns place := by
  cases h with
  | plain _ h => simp [hlink] at h
  | link h hway hrest =>
    obtain rfl := Option.some.inj (hlink.symm.trans h)
    exact ⟨_, hway, hrest⟩

theorem Leads.unique (h : t.Leads at_ ns place) (h' : t.Leads at_ ns place') : place = place' := by
  induction h generalizing place' with
  | done =>
    cases h'
    rfl
  | plain _ hlink _ ih => exact ih (h'.of_plain hlink).2
  | link hlink _ _ ihway ihrest =>
    obtain ⟨mid', hway', hrest'⟩ := h'.of_link hlink
    obtain rfl := ihway hway'
    exact ihrest hrest'

theorem meets_of_link (hlink : t.linkAt? at_ n = some target)
    (hway : t.Leads (startOf at_ target) (Path.names target) mid) :
    t.Meets at_ (n :: ns) l ↔ l = at_ ++ [n] ∨ t.Passes (at_ ++ [n]) l ∨ t.Meets mid ns l := by
  rw [passes_of_linkAt? hlink]
  constructor
  · intro h
    cases h with
    | here => exact .inl rfl
    | inside hlink' hin =>
      obtain rfl := Option.some.inj (hlink.symm.trans hlink')
      exact .inr (.inl hin)
    | beyond hlink' hway' hrest =>
      obtain rfl := Option.some.inj (hlink.symm.trans hlink')
      obtain rfl := hway.unique hway'
      exact .inr (.inr hrest)
    | plain hnone => simp [hlink] at hnone
  · rintro (rfl | hin | hrest)
    · exact .here hlink
    · exact .inside hlink hin
    · exact .beyond hlink hway hrest

theorem Leads.not_passes (h : t.Leads at_ ns place) (hmeets : t.Meets at_ ns l) :
    ¬ t.Passes l l := by
  induction h with
  | done => exact absurd hmeets not_meets_nil
  | plain _ hlink _ ih => exact ih ((meets_of_plain hlink).mp hmeets)
  | link hlink hway _ ihway ihrest =>
    rcases (meets_of_link hlink hway).mp hmeets with rfl | hin | hrest
    · intro hself
      exact ihway ((passes_of_linkAt? hlink).mp hself) hself
    · exact ihway ((passes_of_linkAt? hlink).mp hin)
    · exact ihrest hrest

theorem leads_append : t.Leads at_ (ns ++ ms) place ↔ ∃ mid, t.Leads at_ ns mid ∧
    t.Leads mid ms place := by
  constructor
  · intro h
    induction ns generalizing at_ with
    | nil => exact ⟨at_, .done at_, h⟩
    | cons n ns ih =>
      rw [List.cons_append] at h
      cases h with
      | plain hnull hlink hrest =>
        obtain ⟨mid, hns, hms⟩ := ih hrest
        exact ⟨mid, .plain hnull hlink hns, hms⟩
      | link hlink hway hrest =>
        obtain ⟨mid, hns, hms⟩ := ih hrest
        exact ⟨mid, .link hlink hway hns, hms⟩
  · rintro ⟨mid, hns, hms⟩
    induction hns with
    | done => exact hms
    | plain hnull hlink _ ih => exact .plain hnull hlink (ih hms)
    | link hlink hway _ _ ih => exact .link hlink hway (ih hms)

/-! ## Places without links on the way -/

/-- Whether no link stands on the way to a location, nor at
it, and its names are those of entries. -/
structure Unlinked (t : FileTree) (place : Location) : Prop where
  proper : ∀ n ∈ place, Proper n
  nullFree : ∀ n ∈ place, NullFree n
  noLink : ∀ before n, before ++ [n] <+: place → t.linkAt? before n = none

theorem Unlinked.nil : t.Unlinked [] := by
  refine ⟨by simp, by simp, fun before n h => ?_⟩
  simp at h

theorem Unlinked.of_prefix (h : t.Unlinked place) (hstart : at_ <+: place) : t.Unlinked at_ where
  proper := by
    intro n hn
    exact h.proper n (hstart.subset hn)
  nullFree := by
    intro n hn
    exact h.nullFree n (hstart.subset hn)
  noLink := by
    intro before n hbefore
    exact h.noLink before n (hbefore.trans hstart)

theorem Unlinked.concat (h : t.Unlinked at_) (hn : Proper n) (hnull : NullFree n)
    (hlink : t.linkAt? at_ n = none) :
    t.Unlinked (at_ ++ [n]) := by
  constructor
  · rw [List.forall_mem_append]
    exact ⟨h.proper, List.forall_mem_singleton.mpr hn⟩
  · rw [List.forall_mem_append]
    exact ⟨h.nullFree, List.forall_mem_singleton.mpr hnull⟩
  · intro before m hbefore
    rw [List.prefix_concat_iff] at hbefore
    rcases hbefore with heq | hbefore
    · obtain ⟨rfl, hm⟩ := List.append_inj' heq rfl
      obtain rfl : m = n := by simpa using hm
      exact hlink
    · exact h.noLink before m hbefore

theorem unlinked_descend (h : t.Unlinked at_) (hslash : '/' ∉ n.toList) (hnull : NullFree n)
    (hlink : t.linkAt? at_ n = none) : t.Unlinked (descend at_ n) := by
  unfold descend
  split_ifs with hempty hdots
  · exact h
  · exact h.of_prefix (List.dropLast_prefix at_)
  · simp only [Bool.or_eq_true, decide_eq_true_eq, not_or] at hempty
    exact h.concat ⟨hempty.1, hempty.2, hdots, hslash⟩ hnull hlink

theorem unlinked_startOf (h : t.Unlinked at_) (target : String) :
    t.Unlinked (startOf at_ target) := by
  unfold startOf
  split_ifs
  · exact .nil
  · exact h

theorem Leads.unlinked (h : t.Leads at_ ns place) (hat : t.Unlinked at_)
    (hns : ∀ n ∈ ns, '/' ∉ n.toList) :
    t.Unlinked place := by
  induction h with
  | done => exact hat
  | plain hnull hlink _ ih =>
    rw [List.forall_mem_cons] at hns
    exact ih (unlinked_descend hat hns.1 hnull hlink) hns.2
  | link _ _ _ ihway ihrest =>
    rw [List.forall_mem_cons] at hns
    have hmid := ihway (unlinked_startOf hat _) fun n hn => Path.no_slash_of_mem_names hn
    exact ihrest hmid hns.2

/-! ## The resolution of names -/

/-- The links met so far, each with what it leads to; none as long as it is being resolved. -/
abbrev Seen := List (Location × Option Location)

variable {fuel : Nat} {seen seen' : Seen} {c : Canonical}

theorem lookup_seen_of_ne (h : l ≠ place) (known : Option Location) :
    List.lookup l ((place, known) :: seen) = seen.lookup l := by
  have hbeq : (l == place) = false := by simpa using h
  rw [List.lookup_cons, hbeq]

/-- When a link has been resolved, the same links are being resolved as before it was met. -/
theorem resolving_done (hnew : seen.lookup place ≠ some none)
    (hsame : ∀ l, seen'.lookup l = some none ↔ List.lookup l ((place, none) :: seen) = some none)
    (known : Location) (l : Location) : List.lookup l ((place, some known) :: seen') = some none ↔
    seen.lookup l = some none := by
  by_cases hl : l = place
  · simp [hl, hnew]
  · rw [lookup_seen_of_ne hl, hsame, lookup_seen_of_ne hl]

theorem canonicalFrom_plain (hnull : NullFree n) (hlink : t.linkAt? at_ n = none) :
    t.canonicalFrom (fuel + 1) seen at_ (n :: ns) =
      t.canonicalFrom fuel seen (descend at_ n) ns := by
  have hclean : n.toList.contains '\x00' = false := by simpa [NullFree] using hnull
  simp only [canonicalFrom, descend, hclean, Bool.false_eq_true, if_false]
  split_ifs with hempty hdots
  · rfl
  · rfl
  · split
    · rename_i target hentry
      simp only [Bool.or_eq_true, decide_eq_true_eq, not_or] at hempty
      have hsome := linkAt?_eq_some.mpr ⟨hempty.1, hempty.2, hdots, hentry⟩
      simp [hlink] at hsome
    · rfl

theorem nullFree_of_canonicalFrom (hc : t.canonicalFrom (fuel + 1) seen at_ (n :: ns) = .ok c) :
    NullFree n := by
  simp only [canonicalFrom] at hc
  split_ifs at hc with hempty hdots hnull
  · simp only [Bool.or_eq_true, decide_eq_true_eq] at hempty
    rcases hempty with rfl | rfl <;> decide
  · exact hdots ▸ by decide
  · simpa [NullFree] using hnull

theorem canonicalFrom_of_link (hlink : t.linkAt? at_ n = some target)
    (hc : t.canonicalFrom (fuel + 1) seen at_ (n :: ns) = .ok c) :
    (∃ known, seen.lookup (at_ ++ [n]) = some (some known) ∧
    t.canonicalFrom fuel seen known ns = .ok c) ∨
      seen.lookup (at_ ++ [n]) = some none ∨
      (seen.lookup (at_ ++ [n]) = none ∧ ∃ inner,
        t.canonicalFrom fuel ((at_ ++ [n], none) :: seen) (startOf at_ target) (Path.names target) =
          .ok inner ∧
        (inner.complete = true →
          t.canonicalFrom fuel ((at_ ++ [n], some inner.location) :: inner.seen) inner.location ns =
            .ok c)) := by
  obtain ⟨hempty, hdot, hdots, hentry⟩ := linkAt?_eq_some.mp hlink
  simp only [canonicalFrom, hempty, hdot, hdots, hentry, decide_false, Bool.or_self,
    Bool.false_eq_true, if_false] at hc
  split at hc
  · cases hc
  · split at hc
    · rename_i known hlookup
      exact .inl ⟨known, hlookup, hc⟩
    · rename_i hlookup
      exact .inr (.inl hlookup)
    · rename_i hlookup
      split at hc
      · cases hc
      · rename_i inner hinner
        refine .inr (.inr ⟨hlookup, inner, hinner, fun hcomplete => ?_⟩)
        rwa [if_pos hcomplete] at hc

/-- The number of names in the targets of the links that are not being resolved. -/
def unfollowed (t : FileTree) (seen : Seen) : Nat :=
  (t.entries.map fun e => if seen.lookup e.1 = some none then 0 else e.2.targetLength).sum

theorem unfollowed_nil : t.unfollowed [] = t.linkNames := rfl

theorem unfollowed_congr (h : ∀ l, seen'.lookup l = some none ↔ seen.lookup l = some none) :
    t.unfollowed seen' = t.unfollowed seen := by
  unfold unfollowed
  simp only [h]

/-- Following a link takes the names of its target from those that may still be followed. -/
theorem unfollowed_follow (hentry : t.entry? place = some (.link target)) (hne : place ≠ [])
    (hnew : seen.lookup place ≠ some none) :
    (Path.names target).length + t.unfollowed ((place, none) :: seen) ≤ t.unfollowed seen := by
  have hle : ∀ e : Location × Entry, (if ((place, none) :: seen).lookup e.1 = some none then
    0 else e.2.targetLength) ≤
      if seen.lookup e.1 = some none then 0 else e.2.targetLength := by
    intro e
    by_cases he : e.1 = place
    · simp [he]
    · rw [lookup_seen_of_ne he]
  have hgone : (if seen.lookup place = some none then 0 else (Entry.link target).targetLength) =
      (Path.names target).length := if_neg hnew
  obtain ⟨before, after, hentries⟩ := List.append_of_mem (mem_entries hne hentry)
  have hbefore := List.sum_le_sum fun e (_ : e ∈ before) => hle e
  have hafter := List.sum_le_sum fun e (_ : e ∈ after) => hle e
  simp only [unfollowed, hentries, List.map_append, List.map_cons, List.sum_append,
    List.sum_cons, hgone, List.lookup_cons_self, if_true]
  omega

/-- Whether what is known of links is where they lead. -/
def Known (t : FileTree) (seen : Seen) : Prop :=
  ∀ place known target, seen.lookup place = some (some known) →
    t.entry? place = some (.link target) →
    t.Leads (startOf place.dropLast target) (Path.names target) known

/-- Whether nothing stops the resolution of names: no link that they meet is met on its own way, and
what they meet is on the way of each link that is being resolved. -/
structure Clear (t : FileTree) (seen : Seen) (at_ : Location) (ns : List String) : Prop where
  met : ∀ l, t.Meets at_ ns l → ¬ t.Passes l l
  resolving : ∀ place, seen.lookup place = some none → ∀ l, t.Meets at_ ns l → t.Passes place l

/-- What a resolution comes to that nothing stops. -/
structure Resolved (t : FileTree) (seen : Seen) (at_ : Location) (ns : List String)
    (c : Canonical) : Prop where
  complete : c.complete = true
  leads : t.Leads at_ ns c.location
  resolving : ∀ place, c.seen.lookup place = some none ↔ seen.lookup place = some none
  known : t.Known c.seen

theorem Known.nil : t.Known [] := by
  intro place known target h
  cases h

theorem Known.cons (h : t.Known seen) {known : Option Location}
    (hknown : ∀ location ∈ known, ∀ target, t.entry? place = some (.link target) →
      t.Leads (startOf place.dropLast target) (Path.names target) location) :
      t.Known ((place, known) :: seen) := by
  intro l location target hlookup hentry
  by_cases hl : l = place
  · subst hl
    rw [List.lookup_cons_self, Option.some.injEq] at hlookup
    exact hknown location hlookup target hentry
  · rw [lookup_seen_of_ne hl] at hlookup
    exact h l location target hlookup hentry

theorem Clear.mono (h : t.Clear seen at_ ns)
    (hseen : ∀ l, seen'.lookup l = some none ↔ seen.lookup l = some none)
    (hmeets : ∀ l, t.Meets mid ms l → t.Meets at_ ns l) : t.Clear seen' mid ms := by
  constructor
  · intro l hl
    exact h.met l (hmeets l hl)
  · intro place hopen l hl
    rw [hseen] at hopen
    exact h.resolving place hopen l (hmeets l hl)

theorem Clear.inside (h : t.Clear seen at_ (n :: ns)) (hlink : t.linkAt? at_ n = some target) :
    t.Clear ((at_ ++ [n], none) :: seen) (startOf at_ target) (Path.names target) := by
  constructor
  · intro l hl
    exact h.met l (.inside hlink hl)
  · intro place hopen l hl
    by_cases hplace : place = at_ ++ [n]
    · rw [hplace]
      exact (passes_of_linkAt? hlink).mpr hl
    · rw [lookup_seen_of_ne hplace] at hopen
      exact h.resolving place hopen l (.inside hlink hl)

theorem resolved (hc : t.canonicalFrom fuel seen at_ ns = .ok c)
    (hfuel : ns.length + t.unfollowed seen < fuel)
    (hknown : t.Known seen) (hclear : t.Clear seen at_ ns) : t.Resolved seen at_ ns c := by
  induction fuel generalizing seen at_ ns c with
  | zero => exact absurd hfuel (Nat.not_lt_zero _)
  | succ fuel ih =>
    cases ns with
    | nil =>
      obtain rfl := Except.ok.inj hc
      exact ⟨rfl, .done at_, fun _ => Iff.rfl, hknown⟩
    | cons n ns =>
      rw [List.length_cons] at hfuel
      cases hlink : t.linkAt? at_ n with
      | none =>
        have hnull := nullFree_of_canonicalFrom hc
        rw [canonicalFrom_plain hnull hlink] at hc
        have hrest := ih hc (by omega) hknown (hclear.mono (fun _ => Iff.rfl) fun l hl =>
          .plain hlink hl)
        exact ⟨hrest.complete, .plain hnull hlink hrest.leads, hrest.resolving, hrest.known⟩
      | some target =>
        obtain ⟨-, -, -, hentry⟩ := linkAt?_eq_some.mp hlink
        rcases canonicalFrom_of_link hlink hc with ⟨known, hlookup, hc⟩ | hlookup
          | ⟨hlookup, inner, hinner, hafter⟩
        · have hway := hknown _ _ _ hlookup hentry
          rw [List.dropLast_concat] at hway
          have hrest := ih hc (by omega) hknown (hclear.mono (fun _ => Iff.rfl) fun l hl =>
            .beyond hlink hway hl)
          exact ⟨hrest.complete, .link hlink hway hrest.leads, hrest.resolving, hrest.known⟩
        · -- a link that is still being resolved is met again, so it is met on its own way
          exact absurd (hclear.resolving _ hlookup _ (.here hlink)) (hclear.met _ (.here hlink))
        · have hnew : seen.lookup (at_ ++ [n]) ≠ some none := by simp [hlookup]
          have hfewer := unfollowed_follow hentry (by simp) hnew
          have hway := ih hinner (by omega) (hknown.cons (by simp)) (hclear.inside hlink)
          have hsame := resolving_done hnew hway.resolving inner.location
          have hfollowed : t.Known ((at_ ++ [n], some inner.location) :: inner.seen) := by
            refine hway.known.cons fun location hlocation target' hentry' => ?_
            obtain rfl := Option.some.inj hlocation
            obtain ⟨rfl⟩ := Entry.link.inj (Option.some.inj (hentry.symm.trans hentry'))
            rw [List.dropLast_concat]
            exact hway.leads
          have hrest := ih (hafter hway.complete) (by rw [unfollowed_congr hsame]; omega) hfollowed
            (hclear.mono hsame fun l hl => .beyond hlink hway.leads hl)
          exact ⟨hrest.complete, .link hlink hway.leads hrest.leads,
            fun l => (hrest.resolving l).trans (hsame l), hrest.known⟩

/-! ## Canonical forms -/

variable {path c : String} {location : Location} {t' : FileTree}

/-- Where a path leads is its canonical location, if it has one and no
link that it meets is met on its own way. -/
theorem leads_of_canonicalLocation (hc : t.canonicalLocation path = .ok location)
    (hmet : ∀ l, t.Meets [] (Path.names path) l → ¬ t.Passes l l) :
    t.Leads [] (Path.names path) location := by
  obtain ⟨r, hr, rfl⟩ := Pattern.exists_of_map_eq_ok hc
  have hfuel : (Path.names path).length + t.unfollowed [] <
      (Path.names path).length + t.linkNames + t.entries.length + 1 := by
    rw [unfollowed_nil]
    omega
  have hclear : t.Clear [] [] (Path.names path) := by
    constructor
    · exact hmet
    · intro place hopen
      cases hopen
  exact (resolved hr hfuel .nil hclear).leads

theorem Leads.canonicalLocation_unique (h : t.Leads [] (Path.names path) place)
    (hc : t.canonicalLocation path = .ok location) : location = place :=
  (leads_of_canonicalLocation hc fun _ hmeets => h.not_passes hmeets).unique h

/-- The text of a location that a path leads to: a slash at the end of the path is kept. -/
def textFor (path : String) (location : Location) : String :=
  if path.endsWith "/" && !(pathOf location).endsWith "/" then pathOf location ++ "/"
  else pathOf location

theorem canonical_eq_ok_iff (habs : Path.isAbsolute path = true) :
    t.canonical path = .ok c ↔ ∃ location, t.canonicalLocation path = .ok location ∧
    c = textFor path location := by
  simp only [canonical, habs, Bool.not_true, Bool.false_eq_true, if_false]
  cases t.canonicalLocation path with
  | error f => simp [Except.map]
  | ok location =>
    constructor
    · intro hc
      exact ⟨location, rfl, (Except.ok.inj hc).symm⟩
    · rintro ⟨location', heq, rfl⟩
      obtain rfl := Except.ok.inj heq
      rfl

theorem textFor_eq (path : String) (location : Location) :
    textFor path location = pathOf location ∨ textFor path location =
      pathOf (location ++ [""]) := by
  unfold textFor
  split_ifs with hslash
  · refine .inr (pathOf_concat_empty ?_)
    rintro rfl
    simp [endsWith_slash_root] at hslash
  · exact .inl rfl

theorem canonicalFrom_of_not_meets (hnull : ∀ n ∈ ns, NullFree n) (hmet : ∀ l, ¬ t.Meets at_ ns l)
    (hfuel : ns.length < fuel) : t.canonicalFrom fuel seen at_ ns =
      .ok ⟨ns.foldl descend at_, true, seen⟩ := by
  induction ns generalizing fuel at_ with
  | nil =>
    obtain ⟨fuel, rfl⟩ := Nat.exists_eq_succ_of_ne_zero (Nat.ne_of_gt hfuel)
    rfl
  | cons n ns ih =>
    obtain ⟨fuel, rfl⟩ := Nat.exists_eq_succ_of_ne_zero (Nat.ne_zero_of_lt hfuel)
    rw [List.forall_mem_cons] at hnull
    have hlink : t.linkAt? at_ n = none :=
      Option.eq_none_iff_forall_ne_some.mpr fun target htarget => hmet _ (.here htarget)
    rw [canonicalFrom_plain hnull.1 hlink, List.foldl_cons]
    exact ih hnull.2 (fun l hl => hmet l (.plain hlink hl)) (Nat.lt_of_succ_lt_succ hfuel)

theorem Unlinked.not_meets (h : t.Unlinked (at_ ++ ns)) (hms : ∀ m ∈ ms, m = "") :
    ¬ t.Meets at_ (ns ++ ms) l := by
  induction ns generalizing at_ with
  | nil =>
    induction ms with
    | nil => exact not_meets_nil
    | cons m ms ih =>
      rw [List.forall_mem_cons] at hms
      obtain ⟨rfl, hms⟩ := hms
      rw [List.nil_append, meets_of_plain rfl, descend_empty]
      exact ih hms
  | cons n ns ih =>
    rw [List.append_cons] at h
    have hlink := h.noLink at_ n (List.prefix_append _ _)
    rw [List.cons_append, meets_of_plain hlink, descend_of_proper (h.proper n (by simp))]
    exact ih h

theorem Unlinked.canonicalLocation_eq (h : t.Unlinked place) (hms : ∀ m ∈ ms, m = "")
    (hnames : Path.names path = "" :: (place ++ ms)) : t.canonicalLocation path = .ok place := by
  have hnull : ∀ n ∈ "" :: (place ++ ms), NullFree n := by
    simp only [List.mem_cons, List.mem_append]
    rintro n (rfl | hn | hn)
    · decide
    · exact h.nullFree n hn
    · exact hms n hn ▸ by decide
  have hmet : ∀ l, ¬ t.Meets [] ("" :: (place ++ ms)) l := by
    intro l
    rw [meets_of_plain rfl, descend_empty]
    have hroot : t.Unlinked ([] ++ place) := h
    exact hroot.not_meets hms
  have hstay : ms.foldl descend place = place := by
    refine List.foldlRecOn ms descend (motive := (· = place)) rfl fun at_ hat m hm => ?_
    rw [hat, hms m hm, descend_empty]
  simp only [canonicalLocation, hnames]
  rw [canonicalFrom_of_not_meets hnull hmet (by omega), List.foldl_cons, descend_empty,
    List.foldl_append, foldl_descend h.proper, List.nil_append, hstay]
  rfl

/-- The path of a location without links on the way is its own canonical
form, with a slash at its end or without. -/
theorem Unlinked.canonical_eq (h : t.Unlinked place)
    (hc : c = pathOf place ∨ c = pathOf (place ++ [""])) :
    t.canonical c = .ok c := by
  have hslash : ∀ n ∈ place, '/' ∉ n.toList := fun n hn => (h.proper n hn).no_slash
  by_cases hplain : c = pathOf place ∧ place ≠ []
  · obtain ⟨rfl, hne⟩ := hplain
    have hnames : Path.names (pathOf place) = "" :: (place ++ []) := by
      rw [names_pathOf hne hslash, List.append_nil]
    refine (canonical_eq_ok_iff (isAbsolute_pathOf _)).mpr ⟨place,
      h.canonicalLocation_eq (by simp) hnames, ?_⟩
    simp [textFor, endsWith_slash_pathOf hne h.proper]
  · have hc : c = pathOf (place ++ [""]) := by
      rcases hc with rfl | rfl
      · rw [not_and_not_right] at hplain
        rw [hplain rfl]
        rfl
      · rfl
    subst hc
    have hnames := names_pathOf_concat (x := "") h.proper (by decide)
    refine (canonical_eq_ok_iff (isAbsolute_pathOf _)).mpr ⟨place,
      h.canonicalLocation_eq (by simp) hnames, ?_⟩
    by_cases hroot : place = []
    · subst hroot
      simp only [textFor, endsWith_slash_root, Bool.not_true, Bool.and_false,
        Bool.false_eq_true, if_false]
      rfl
    · simp [textFor, endsWith_slash_concat_empty, endsWith_slash_pathOf hroot h.proper,
        pathOf_concat_empty hroot]

/-- Whether a tree has links only where another one has them. -/
def LinksWithin (t t' : FileTree) : Prop :=
  ∀ place target, t.entry? place = some (.link target) → ∃ target',
    t'.entry? place = some (.link target')

theorem LinksWithin.refl (t : FileTree) : t.LinksWithin t := fun _ target h => ⟨target, h⟩

theorem SameShape.linksWithin (h : t.SameShape t') : t'.LinksWithin t := by
  intro place target hentry
  rcases h.cases_entry place with ⟨_, h'⟩ | ⟨_, h'⟩ | ⟨target', h, _⟩ | ⟨_, _, _, h'⟩
  · simp [hentry] at h'
  · simp [hentry] at h'
  · exact ⟨target', h⟩
  · simp [hentry] at h'

theorem LinksWithin.unlinked (h : t'.LinksWithin t) (hplace : t.Unlinked place) :
    t'.Unlinked place := by
  refine ⟨hplace.proper, hplace.nullFree, ?_⟩
  intro before n hbefore
  rw [Option.eq_none_iff_forall_ne_some]
  intro target htarget
  obtain ⟨hempty, hdot, hdots, hentry⟩ := linkAt?_eq_some.mp htarget
  obtain ⟨target', hentry'⟩ := h _ _ hentry
  have hlink := linkAt?_eq_some.mpr ⟨hempty, hdot, hdots, hentry'⟩
  simp [hplace.noLink before n hbefore] at hlink

/-- A canonical form stays as it is when it is made canonical
again, also after links were taken away. -/
theorem Acyclic.canonical_canonical (h : t.Acyclic) (hc : t.canonical path = .ok c)
    (hlinks : t'.LinksWithin t) :
    t'.canonical c = .ok c := by
  by_cases habs : Path.isAbsolute path = true
  · obtain ⟨location, hlocation, rfl⟩ := (canonical_eq_ok_iff habs).mp hc
    have hleads := leads_of_canonicalLocation hlocation fun l _ => h l
    have hplace := hleads.unlinked .nil fun n hn => Path.no_slash_of_mem_names hn
    exact (hlinks.unlinked hplace).canonical_eq (textFor_eq path location)
  · rw [Bool.not_eq_true] at habs
    obtain rfl := Except.ok.inj ((canonical_of_not_absolute habs).symm.trans hc)
    exact canonical_of_not_absolute habs

end FileTree

end SegmentIndex
