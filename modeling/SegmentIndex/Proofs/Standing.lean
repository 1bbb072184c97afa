import SegmentIndex.Proofs.BulkIngest
import SegmentIndex.Proofs.Ledger

/-!
# How an index stands with its files

An index is behind its files by the events that are held back or still on their way. A file without
such events has the points that it should have, beside those that its last event left in place.
Changes of files, the arrival of events and following them keep it so.
-/
namespace SegmentIndex

open PointStore (Known Distinct isOf)

variable {ν : Type}

/-- What is kept account of for each file: the old points that its last event left in place, and the
files as they were when it was last looked at. -/
structure Account (ν : Type) where
  left : String → List (Point ν) := fun _ => []
  seen : String → FileTree

/-- The account after an event was followed. -/
def Account.note (e : Engine ν) (t : FileTree) (event : PendingEvent Spec) (store : PointStore ν)
    (a : Account ν) : Account ν where
  left := Function.update a.left event.path (leftPoints e t event store)
  seen := Function.update a.seen event.path t

/-- The files and the stored points, the events that are held back, and those on their way.
Beside them stand the account, and whether the appearance of a file was ever taken in while the
removal of its stored points was held back. -/
structure Standing (ν : Type) where
  tree : FileTree
  store : PointStore ν
  pending : List (PendingEvent Spec) := []
  flight : List (Spec × FileEvent) := []
  account : Account ν
  overtaken : Bool := false

namespace Standing

/-- The kinds of the events of a file that are still to be followed, in order. -/
def untold (s : Standing ν) (path : String) : List String :=
  (s.pending.filter (·.path = path)).map (·.kind) ++
    (s.flight.filter (·.2.path = path)).map (·.2.kind)

/-- Whether the appearance of a file would take the place of the removal of its stored points. -/
def overtakes (s : Standing ν) (event : FileEvent) : Bool :=
  event.kind = "create" && s.pending.any (fun x => x.path = event.path && x.kind = "delete") &&
    s.store.any (isOf event.path)

/-- The files change, and events about it set out. -/
def change (s : Standing ν) (t : FileTree) (sent : List (Spec × FileEvent)) : Standing ν :=
  { s with tree := t, flight := s.flight ++ sent }

/-- An event arrives and is held back. -/
def take (s : Standing ν) (spec : Spec) (event : FileEvent) (rest : List (Spec × FileEvent)) :
    Standing ν :=
  { s with
    pending := Debouncer.hold ⟨event.kind, event.path, spec⟩ s.pending
    flight := rest
    overtaken := s.overtaken || s.overtakes event }

/-- An event that was held back is followed. -/
def follow (e : Engine ν) (s : Standing ν) (event : PendingEvent Spec)
    (rest : List (PendingEvent Spec)) (store : PointStore ν) : Standing ν :=
  { s with
    store := store
    pending := rest
    account := s.account.note e s.tree event s.store }

end Standing

/-- Whether the events of a file can come in their order: a file appears only after it was removed,
and the first one to appear has no points yet. -/
structure Orderly (s : Standing ν) (path : String) : Prop where
  chain : (s.untold path).IsChain fun a b => b = "create" → a = "delete"
  head : ∀ rest, s.untold path = "create" :: rest → ∀ q ∈ s.store, isOf path q = false

/-- Whether a file is as it was in other files: the same specs take it,
and it has the same bytes if one does. -/
structure Unchanged (specs : List Spec) (t t' : FileTree) (path : String) : Prop where
  matched : ∀ spec ∈ specs, spec.matchPath t path = spec.matchPath t' path
  content : ∀ spec ∈ specs, spec.takes t' path = true → t.content path = t'.content path

/-- How an index stands with its files at any time. -/
structure Good (known : String → Prop) (e : Engine ν) (specs : List Spec) (s : Standing ν) :
    Prop where
  grounded : Grounded known s.tree
  apart : Apart known s.tree specs
  stored : Known known s.store
  distinct : Distinct s.store
  held : ∀ x ∈ s.pending, known x.path ∧ x.kind ∈ Index.eventKinds ∧ x.spec ∈ specs ∧
    x.spec.takes s.tree x.path = true
  once : (s.pending.map (·.path)).Nodup
  sent : ∀ x ∈ s.flight, known x.2.path ∧ x.2.kind ∈ Index.eventKinds ∧ x.1 ∈ specs ∧
    x.1.takes s.tree x.2.path = true
  last : ∀ path, known path → ∀ kind, (s.untold path).getLast? = some kind →
    (kind = "delete" ↔ s.tree.content path = none)
  settled : ∀ path, known path → s.untold path = [] →
    (∀ q, q ∈ s.store ∧ isOf path q = true ↔
        Expected e (s.account.seen path) specs path q ∨ q ∈ s.account.left path) ∧
      ∀ q ∈ s.account.left path, ¬ Expected e (s.account.seen path) specs path q
  unchanged : ∀ path, known path → s.untold path = [] →
    Unchanged specs (s.account.seen path) s.tree path
  elsewhere : ∀ path, ¬ known path → s.account.left path = []
  orderly : s.overtaken = false → (∀ path, s.account.left path = []) ∧ ∀ path, known path →
    Orderly s path

variable {known : String → Prop} {e : Engine ν} {specs : List Spec} {s : Standing ν}

theorem Grounded.matchPath {t : FileTree} (hg : Grounded known t) {path : String} (hk : known path)
    {spec : Spec} (ht : spec.takes t path = true) :
    ∃ m, m.path = path ∧ spec.matchPath t path = .ok (some m) := by
  obtain ⟨m, hm⟩ := Spec.takes_iff.mp ht
  exact ⟨m, hg.path_eq hk hm, hm⟩

theorem Unchanged.expected {t t' : FileTree} {path : String} (h : Unchanged specs t t' path)
    (hg : Grounded known t') (hb : ∀ spec ∈ specs, e.registry.Standard spec.strategy)
    (hk : known path) (hn : t.nameAt path = t'.nameAt path) (q : Point ν) :
    Expected e t specs path q ↔ Expected e t' specs path q := by
  refine exists_congr fun spec => and_congr_right fun hs => exists_congr fun m => ?_
  rw [h.matched spec hs]
  refine and_congr_right fun hm => ?_
  have hc : t.content path = t'.content path := h.content spec hs (Spec.takes_iff.mpr ⟨m, hm⟩)
  have hpath : m.path = path := hg.path_eq hk hm
  have hp : e.pointsFor t spec m = e.pointsFor t' spec m :=
    Engine.pointsFor_congr (hb spec hs) (by rw [hpath, hc]) (by rw [hpath, hn])
  rw [hp]

theorem Unchanged.refl (t : FileTree) (path : String) : Unchanged specs t t path :=
  ⟨fun _ _ => rfl, fun _ _ _ => rfl⟩

theorem Unchanged.not_expected {t t' : FileTree} {path : String} (h : Unchanged specs t t' path)
    (hg : Grounded known t') (hk : known path) (hc : t'.content path = none) (q : Point ν) :
    ¬ Expected e t specs path q := by
  rintro ⟨spec, hs, m, hm, hq⟩
  rw [h.matched spec hs] at hm
  have hpath : m.path = path := hg.path_eq hk hm
  have hc : t.content path = none := (h.content spec hs (Spec.takes_iff.mpr ⟨m, hm⟩)).trans hc
  rw [Engine.pointsFor_of_content_none (by rw [hpath, hc])] at hq
  simp at hq

/-! ## Following an event -/

theorem untold_follow (s : Standing ν) {event : PendingEvent Spec} {rest : List (PendingEvent Spec)}
    (hp : s.pending = event :: rest) (store : PointStore ν) (path : String) :
    s.untold path =
      (if event.path = path then [event.kind] else []) ++
        (s.follow e event rest store).untold path := by
  simp only [Standing.untold, Standing.follow, hp, List.filter_cons]
  split_ifs with h h' h' <;> simp_all

theorem mem_leftPoints {t : FileTree} {event : PendingEvent Spec} {store : PointStore ν}
    {q : Point ν} :
    q ∈ leftPoints e t event store ↔ event.kind = "create" ∧ q ∈ store ∧ isOf event.path q = true ∧
      ∀ p ∈ newPoints e t event, p.id ≠ q.id := by
  unfold leftPoints
  split_ifs with h <;> simp [h]

/-- An event of a known file that belongs to its spec. -/
structure Due (known : String → Prop) (specs : List Spec) (t : FileTree)
    (event : PendingEvent Spec) : Prop where
  path : known event.path
  kind : event.kind ∈ Index.eventKinds
  spec : event.spec ∈ specs
  takes : event.spec.takes t event.path = true

theorem Good.due (hg : Good known e specs s) {event : PendingEvent Spec} (he : event ∈ s.pending) :
    Due known specs s.tree event :=
  have ⟨hk, hkind, hspec, ht⟩ := hg.held event he
  ⟨hk, hkind, hspec, ht⟩

namespace Due

variable {t : FileTree} {event : PendingEvent Spec} {i : Index ν} (hd : Due known specs t event)
  (hg : Grounded known t) (hr : ∀ id, e.refuse id = none)
  (hb : ∀ spec ∈ specs, e.registry.Builtin spec.strategy)

include hd hg

/-- What an event that was truly the last one brings in is what its file should have. -/
theorem expected_iff (ha : Apart known t specs)
    (hgone : event.kind = "delete" → t.content event.path = none)
    (q : Point ν) : Expected e t specs event.path q ↔ q ∈ newPoints e t event := by
  obtain ⟨m, -, hm⟩ := hg.matchPath hd.path hd.takes
  unfold newPoints
  split_ifs with hdel
  · simpa using (Unchanged.refl t event.path).not_expected hg hd.path (hgone hdel) q
  · simp only [hm]
    constructor
    · rintro ⟨spec, hspec, m', hm', hq⟩
      obtain rfl := ha.eq hd.path hspec hd.spec (Spec.takes_iff.mpr ⟨m', hm'⟩) hd.takes
      obtain rfl : m' = m := Option.some.inj (Except.ok.inj (hm'.symm.trans hm))
      exact hq
    · exact fun hq => ⟨event.spec, hd.spec, m, hm, hq⟩

include hb

theorem isOf_new {q : Point ν} (hq : q ∈ newPoints e t event) :
    isOf event.path q = true ∧ ∃ o, q.id = segmentId event.path o := by
  obtain ⟨m, hpath, hm⟩ := hg.matchPath hd.path hd.takes
  unfold newPoints at hq
  split_ifs at hq
  · simp at hq
  · simp only [hm] at hq
    rw [← hpath]
    exact (Engine.pointsFor_spec (hb _ hd.spec)).1 q hq

variable (hs : Known known i.store) (hn : Distinct i.store)

include hr hs hn

theorem mem_store (q : Point ν) : q ∈ (Session.handler e t i event).1.store ↔
    q ∈ newPoints e t event ∨ q ∈ leftPoints e t event i.store ∨ q ∈ i.store ∧
      isOf event.path q = false := by
  obtain ⟨m, -, hm⟩ := hg.matchPath hd.path hd.takes
  exact mem_handler hr (hb _ hd.spec) hg.clashFree hd.path hs hn (hg.canonical _ hd.path)
    hm hd.kind q

theorem mem_store_other {path : String} (hne : path ≠ event.path) {q : Point ν}
    (hq : isOf path q = true) :
    q ∈ (Session.handler e t i event).1.store ↔ q ∈ i.store := by
  have hno : isOf event.path q = false := by
    by_contra h
    exact hne (PointStore.isOf_unique hq (by simpa using h))
  rw [hd.mem_store hg hr hb hs hn, mem_leftPoints]
  constructor
  · rintro (h | ⟨-, -, h, -⟩ | ⟨h, -⟩)
    · exact absurd (PointStore.isOf_unique hq (hd.isOf_new hg hb h).1) hne
    · simp [hno] at h
    · exact h
  · exact fun h => .inr (.inr ⟨h, hno⟩)

theorem stored : Known known (Session.handler e t i event).1.store := by
  intro q hq
  rcases (hd.mem_store hg hr hb hs hn q).mp hq with h | h | h
  · obtain ⟨h₁, h₂⟩ := hd.isOf_new hg hb h
    exact ⟨event.path, hd.path, h₁, h₂⟩
  · exact hs q (mem_leftPoints.mp h).2.1
  · exact hs q h.1

omit hb hs in
theorem distinct : Distinct (Session.handler e t i event).1.store := by
  obtain ⟨m, -, hm⟩ := hg.matchPath hd.path hd.takes
  exact distinct_handler hr hn (hg.canonical _ hd.path) hm hd.kind

/-- A file whose last event was followed has what it should have,
beside what that event left in place. -/
theorem settled (ha : Apart known t specs)
    (hgone : event.kind = "delete" → t.content event.path = none) :
    (∀ q, q ∈ (Session.handler e t i event).1.store ∧ isOf event.path q = true ↔
        Expected e t specs event.path q ∨ q ∈ leftPoints e t event i.store) ∧
      ∀ q ∈ leftPoints e t event i.store, ¬ Expected e t specs event.path q := by
  simp only [hd.expected_iff hg ha hgone]
  refine ⟨fun q => ?_, fun q hq hn => (mem_leftPoints.mp hq).2.2.2 q hn rfl⟩
  rw [hd.mem_store hg hr hb hs hn]
  constructor
  · rintro ⟨h | h | h, hisof⟩
    · exact .inl h
    · exact .inr h
    · simp [h.2] at hisof
  · rintro (h | h)
    · exact ⟨.inl h, (hd.isOf_new hg hb h).1⟩
    · exact ⟨.inr (.inl h), (mem_leftPoints.mp h).2.2.1⟩

end Due

variable (hr : ∀ id, e.refuse id = none) (hb : ∀ spec ∈ specs, e.registry.Standard spec.strategy)

include hr hb

theorem mem_follow (hg : Good known e specs s) {event : PendingEvent Spec} (he : event ∈ s.pending)
    {i : Index ν} (hi : i.store = s.store) (q : Point ν) :
    q ∈ (Session.handler e s.tree i event).1.store ↔
      q ∈ newPoints e s.tree event ∨ q ∈ leftPoints e s.tree event s.store ∨
        q ∈ s.store ∧ isOf event.path q = false := by
  rw [← hi]
  exact (hg.due he).mem_store hg.grounded hr (fun spec hs => (hb spec hs).builtin) (hi ▸ hg.stored)
    (hi ▸ hg.distinct) q

theorem mem_follow_other (hg : Good known e specs s) {event : PendingEvent Spec}
    (he : event ∈ s.pending)
    {i : Index ν} (hi : i.store = s.store) {path : String} (hne : path ≠ event.path) {q : Point ν}
    (hq : isOf path q = true) : q ∈ (Session.handler e s.tree i event).1.store ↔ q ∈ s.store := by
  rw [← hi]
  exact (hg.due he).mem_store_other hg.grounded hr (fun spec hs => (hb spec hs).builtin)
    (hi ▸ hg.stored)
    (hi ▸ hg.distinct) hne hq

/-- A file whose last event was followed has what it should have,
beside what that event left in place. -/
theorem settled_follow (hg : Good known e specs s) {event : PendingEvent Spec}
    {rest : List (PendingEvent Spec)} (hp : s.pending = event :: rest) {i : Index ν}
    (hi : i.store = s.store) (hu : s.untold event.path = [event.kind]) :
    (∀ q, q ∈ (Session.handler e s.tree i event).1.store ∧ isOf event.path q = true ↔
        Expected e s.tree specs event.path q ∨ q ∈ leftPoints e s.tree event s.store) ∧
      ∀ q ∈ leftPoints e s.tree event s.store, ¬ Expected e s.tree specs event.path q := by
  have hd : Due known specs s.tree event := hg.due (by simp [hp])
  have hgone : event.kind = "delete" ↔ s.tree.content event.path = none := by
    refine hg.last _ hd.path _ ?_
    rw [hu]
    rfl
  rw [← hi]
  exact hd.settled hg.grounded hr (fun spec hs => (hb spec hs).builtin) (hi ▸ hg.stored)
    (hi ▸ hg.distinct)
    hg.apart hgone.mp

omit hr hb in
theorem leftPoints_eq_nil {event : PendingEvent Spec} {kinds : List String}
    (ho : Orderly s event.path)
    (hu : s.untold event.path = event.kind :: kinds) : leftPoints e s.tree event s.store = [] := by
  refine List.eq_nil_iff_forall_not_mem.mpr fun q hq => ?_
  obtain ⟨hc, hq, hisof, -⟩ := mem_leftPoints.mp hq
  have := ho.head kinds (by rw [hu, hc]) q hq
  simp [this] at hisof

/-- Events that come in their order still do after one was
followed: what is removed has no points. -/
theorem orderly_follow (hg : Good known e specs s) {event : PendingEvent Spec}
    {rest : List (PendingEvent Spec)} (hp : s.pending = event :: rest) {i : Index ν}
    (hi : i.store = s.store) {path : String} (hord : Orderly s path) :
    Orderly (s.follow e event rest (Session.handler e s.tree i event).1.store) path := by
  have he : event ∈ s.pending := by simp [hp]
  have huntold := untold_follow (e := e) s hp (Session.handler e s.tree i event).1.store
  obtain ⟨hchain, hhead⟩ := hord
  rw [huntold] at hchain hhead
  refine ⟨hchain.right_of_append, fun tail htail q hq => ?_⟩
  by_cases hne : path = event.path
  · subst hne
    rw [if_pos rfl, htail, List.singleton_append, List.isChain_cons_cons] at hchain
    have hdel : event.kind = "delete" := hchain.1 rfl
    by_contra hisof
    rcases (mem_follow hr hb hg he hi q).mp hq with h | h | h
    · simp [newPoints, hdel] at h
    · simp [leftPoints, hdel] at h
    · simp [h.2] at hisof
  · rw [if_neg (Ne.symm hne), List.nil_append] at hhead
    by_contra hisof
    have hisof : isOf path q = true := by simpa using hisof
    have := hhead tail htail q ((mem_follow_other hr hb hg he hi hne hisof).mp hq)
    simp [this] at hisof

theorem good_follow (hg : Good known e specs s) {event : PendingEvent Spec}
    {rest : List (PendingEvent Spec)} (hp : s.pending = event :: rest) {i : Index ν}
    (hi : i.store = s.store) :
    Good known e specs (s.follow e event rest (Session.handler e s.tree i event).1.store) := by
  have he : event ∈ s.pending := by simp [hp]
  have hd := hg.due he
  have huntold := untold_follow (e := e) s hp (Session.handler e s.tree i event).1.store
  constructor
  · exact hg.grounded
  · exact hg.apart
  · exact hd.stored hg.grounded hr (fun spec hs => (hb spec hs).builtin) (hi ▸ hg.stored)
      (hi ▸ hg.distinct)
  · exact hd.distinct hg.grounded hr (hi ▸ hg.distinct)
  · exact fun x hx => hg.held x (hp ▸ List.mem_cons_of_mem _ hx)
  · have := hg.once
    rw [hp, List.map_cons, List.nodup_cons] at this
    exact this.2
  · exact hg.sent
  · intro path hkp kind hlast
    refine hg.last path hkp kind ?_
    rw [huntold, List.getLast?_append, hlast]
    rfl
  · intro path hkp hu
    by_cases hne : path = event.path
    · subst hne
      simp only [Standing.follow, Account.note, Function.update_self]
      exact settled_follow hr hb hg hp hi (by rw [huntold, hu, if_pos rfl]; rfl)
    · obtain ⟨h₁, h₂⟩ := hg.settled path hkp (by rw [huntold, if_neg (Ne.symm hne), hu]; rfl)
      simp only [Standing.follow, Account.note, Function.update_of_ne hne]
      refine ⟨fun q => ?_, h₂⟩
      rw [← h₁]
      exact and_congr_left fun hq => mem_follow_other hr hb hg he hi hne hq
  · intro path hkp hu
    by_cases hne : path = event.path
    · simp only [Standing.follow, Account.note, hne, Function.update_self]
      exact .refl _ _
    · simp only [Standing.follow, Account.note, Function.update_of_ne hne]
      exact hg.unchanged path hkp (by rw [huntold, if_neg (Ne.symm hne), hu]; rfl)
  · intro path hkp
    have hne : path ≠ event.path := fun h => hkp (h ▸ hd.path)
    simp only [Standing.follow, Account.note, Function.update_of_ne hne]
    exact hg.elsewhere path hkp
  · intro hover
    obtain ⟨hleft, hord⟩ := hg.orderly hover
    have hnone := leftPoints_eq_nil (e :=
      e) (hord event.path hd.path) (by rw [huntold, if_pos rfl]; rfl)
    refine ⟨fun path => ?_, fun path hkp => orderly_follow hr hb hg hp hi (hord path hkp)⟩
    simp only [Standing.follow, Account.note]
    by_cases hne : path = event.path
    · rw [hne, Function.update_self, hnone]
    · rw [Function.update_of_ne hne, hleft]

omit hr hb

/-! ## The arrival of an event -/

theorem filter_hold {α : Type} (x : PendingEvent α) {ws : List (PendingEvent α)}
    (h : (ws.map (·.path)).Nodup) (path : String) : (Debouncer.hold x ws).filter (·.path = path) =
      if x.path = path then [x] else ws.filter (·.path = path) := by
  induction ws with
  | nil => simp [Debouncer.hold, List.filter_cons]
  | cons w ws ih =>
    rw [List.map_cons, List.nodup_cons] at h
    unfold Debouncer.hold
    by_cases hw : w.path = x.path
    · by_cases hx : x.path = path
      · have hn : ws.filter (fun y => y.path = path) = [] := by
          rw [List.filter_eq_nil_iff]
          intro y hy hp
          exact h.1 (List.mem_map.mpr ⟨y, hy, by simpa [hw, hx] using hp⟩)
        simp [hw, hx, hn]
      · simp [hw, hx]
    · by_cases hx : x.path = path
      · have hw : ¬ w.path = path := fun hc => hw (hc.trans hx.symm)
        simp [hw, ih h.2, hx]
      · simp only [hw, if_false, List.filter_cons, ih h.2, hx]

theorem untold_take (hn : (s.pending.map (·.path)).Nodup) {spec : Spec} {event : FileEvent}
    {rest : List (Spec × FileEvent)} (hf : s.flight = (spec, event) :: rest) (path : String) :
    s.untold path = (if event.path = path then (s.pending.filter (·.path = path)).map (·.kind)
      else []) ++
        (s.take spec event rest).untold path ∧
      (event.path = path → ∃ kinds,
        (s.take spec event rest).untold path = event.kind :: kinds) := by
  simp only [Standing.untold, Standing.take, hf, filter_hold _ hn, List.filter_cons]
  by_cases h : event.path = path
  · simp [h]
  · simp [h]

theorem orderly_take (hg : Good known e specs s) {spec : Spec} {event : FileEvent}
    {rest : List (Spec × FileEvent)} (hf : s.flight = (spec, event) :: rest)
    (ho : s.overtakes event = false)
    {path : String} (hord : Orderly s path) : Orderly (s.take spec event rest) path := by
  obtain ⟨huntold, hself⟩ := untold_take hg.once hf path
  obtain ⟨hchain, hhead⟩ := hord
  rw [huntold] at hchain hhead
  refine ⟨hchain.right_of_append, fun tail htail => ?_⟩
  by_cases h : event.path = path
  · rw [if_pos h] at hchain hhead
    obtain ⟨kinds, hkinds⟩ := hself h
    have hcreate : event.kind = "create" := (List.cons.inj (hkinds.symm.trans htail)).1
    rcases hl : ((s.pending.filter (·.path = path)).map (·.kind)).getLast? with _ | kind
    · rw [List.getLast?_eq_none_iff.mp hl, List.nil_append] at hhead
      exact hhead tail htail
    · -- What is held back in front of an appearance is a removal, and no points are left to it.
      have hdel : kind = "delete" := by
        rw [htail, List.isChain_append] at hchain
        exact hchain.2.2 kind hl "create" rfl rfl
      obtain ⟨x, hx, rfl⟩ := List.mem_map.mp (List.mem_of_getLast? hl)
      rw [List.mem_filter, decide_eq_true_eq] at hx
      have hany : s.pending.any (fun x => x.path = event.path && x.kind = "delete") = true :=
        List.any_eq_true.mpr ⟨x, hx.1, by simp [hx.2, h, hdel]⟩
      simp only [Standing.overtakes, hcreate, hany, decide_true, Bool.true_and, List.any_eq_false]
        at ho
      intro q hq
      rw [← h]
      simpa using ho q hq
  · rw [if_neg h, List.nil_append] at hhead
    exact hhead tail htail

theorem good_take (hg : Good known e specs s) {spec : Spec} {event : FileEvent}
    {rest : List (Spec × FileEvent)} (hf : s.flight = (spec, event) :: rest) :
    Good known e specs (s.take spec event rest) := by
  obtain ⟨hk, hkind, hspec, ht⟩ := hg.sent (spec, event) (by simp [hf])
  have huntold : ∀ {path}, (s.take spec event rest).untold path = [] → s.untold path = [] := by
    intro path hu
    obtain ⟨htold, hself⟩ := untold_take hg.once hf path
    have hne : ¬ event.path = path := fun h => by
      obtain ⟨kinds, hkinds⟩ := hself h
      simp [hkinds] at hu
    rw [htold, if_neg hne, hu]
    rfl
  constructor
  · exact hg.grounded
  · exact hg.apart
  · exact hg.stored
  · exact hg.distinct
  · intro x hx
    rcases Debouncer.mem_hold hx with rfl | hx
    · exact ⟨hk, hkind, hspec, ht⟩
    · exact hg.held x hx
  · exact Debouncer.nodup_hold _ hg.once
  · exact fun x hx => hg.sent x (hf ▸ List.mem_cons_of_mem _ hx)
  · intro path hkp kind hlast
    refine hg.last path hkp kind ?_
    rw [(untold_take hg.once hf path).1, List.getLast?_append, hlast]
    rfl
  · exact fun path hkp hu => hg.settled path hkp (huntold hu)
  · exact fun path hkp hu => hg.unchanged path hkp (huntold hu)
  · exact hg.elsewhere
  · intro hover
    have hover : s.overtaken = false ∧ s.overtakes event = false := by
      simpa [Standing.take] using hover
    obtain ⟨hleft, hord⟩ := hg.orderly hover.1
    exact ⟨hleft, fun path hkp => orderly_take hg hf hover.2 (hord path hkp)⟩

end SegmentIndex
