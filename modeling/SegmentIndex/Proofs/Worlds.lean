import SegmentIndex.Proofs.Books
import SegmentIndex.Proofs.Changes
import SegmentIndex.Proofs.Drains

/-!
# Sessions among files that change

Files change, events about it set out, arrive and are held back, and time passes or a flush is asked
for. The session stands with its files as its events say, whatever happens in whatever order.
-/
namespace SegmentIndex

open PointStore (Known Distinct isOf)

variable {ν : Type} {known : String → Prop} {e : Engine ν} {specs : List Spec}

/-- How one report of the file system changes the files: one file appears, is written again or is
removed, or it takes the place of another one. -/
inductive Change (known : String → Prop) (t t' : FileTree) : FileReport → Prop where
  | create {path : String} (hk : known path)
      (before : t.content path = none) (now : t'.content path ≠ none)
      (others : ∀ other, known other → other ≠ path → t'.content other = t.content other) :
      Change known t t' (.created path)
  | rewrite {path : String} (hk : known path) (before : t.content path ≠ none)
      (now : t'.content path ≠ none)
      (others : ∀ other, known other → other ≠ path → t'.content other = t.content other) :
      Change known t t' (.modified path)
  | remove {path : String} (hk : known path) (before : t.content path ≠ none)
      (now : t'.content path = none)
      (others : ∀ other, known other → other ≠ path → t'.content other = t.content other) :
      Change known t t' (.deleted path)
  | move {source target : String} (hs : known source) (ht : known target) (hne : source ≠ target)
      (before : t.content source ≠ none)
      (now : t'.content source = none) (moved : t'.content target ≠ none)
      (others : ∀ other, known other → other ≠ source → other ≠ target →
        t'.content other = t.content other) :
      Change known t t' (.moved source target)

theorem Change.faithful {t t' : FileTree} {r : FileReport} (h : Change known t t' r) :
    Faithful known t t' (r.events false) := by
  cases h with
  | create hk before now others =>
    constructor <;> simp_all [FileReport.events, Index.eventKinds]
  | rewrite hk before now others =>
    constructor <;> simp_all [FileReport.events, Index.eventKinds]
  | remove hk before now others =>
    constructor <;> simp_all [FileReport.events, Index.eventKinds]
  | move hs ht hne before now moved others =>
    constructor <;> simp_all [FileReport.events, Index.eventKinds]

/-- A session among files that change: the deliveries of events on their way, the account of each
file, and whether an appearance ever took the place of the removal of stored points. -/
structure World (ν : Type) where
  session : Session ν
  tree : FileTree
  flight : List (Spec × FileEvent) := []
  account : Account ν
  overtaken : Bool := false

/-- A session that has just started among some files. -/
def World.initial (session : Session ν) (t : FileTree) : World ν where
  session := session
  tree := t
  account := { seen := fun _ => t }

/-- The handler of a session, which also keeps the account. -/
def tracking (e : Engine ν) (t : FileTree) : Handler Spec (Index ν × Account ν) := fun w event =>
  (((Session.handler e t w.1 event).1, w.2.note e t event w.1.store),
    (Session.handler e t w.1 event).2)

namespace World

/-- How the index stands with its files. -/
def standing (w : World ν) : Standing ν :=
  ⟨w.tree, w.session.index.store, w.session.debouncer.pending, w.flight, w.account, w.overtaken⟩

def subscribed (w : World ν) : List Spec := w.session.subscriptions.map (·.spec)

/-- The next event arrives. -/
def deliver (w : World ν) (spec : Spec) (event : FileEvent) (rest : List (Spec × FileEvent)) :
    World ν :=
  { w with
    session := (w.session.receive w.tree spec event).1
    flight := rest
    overtaken := w.overtaken || w.standing.overtakes event }

def wait (e : Engine ν) (ms : Nat) (w : World ν) : World ν :=
  { w with
    session := (w.session.advance e w.tree ms).1
    account :=
      (w.session.debouncer.advance (tracking e w.tree) ms (w.session.index, w.account)).1.2.2 }

/-- All events that are held back are followed. -/
def flush (e : Engine ν) (w : World ν) : World ν :=
  { w with
    session := (w.session.flush e w.tree).1
    account := (w.session.debouncer.flush (tracking e w.tree) (w.session.index, w.account)).1.2.2 }

/-- What can happen: files change and the events about it set out, the next event
arrives, time passes, or the events that are held back are followed at once. Files that
no subscription covers do not change. -/
inductive Next (known : String → Prop) (e : Engine ν) : World ν → World ν → Prop where
  | change {w : World ν} {t : FileTree} {r : FileReport}
      (hs : Steady known w.session.specs w.tree t)
      (hc : Change known w.tree t r)
      (hw : ∀ event ∈ r.events false, ∀ spec ∈ w.session.specs, spec.takes t event.path = true →
        spec ∈ w.subscribed) :
      Next known e w { w with
        tree := t, flight := w.flight ++ deliveries w.subscribed t (r.events false) }
  | deliver {w : World ν} {spec : Spec} {event : FileEvent} {rest : List (Spec × FileEvent)}
      (hf : w.flight = (spec, event) :: rest) : Next known e w (w.deliver spec event rest)
  | wait {w : World ν} (ms : Nat) : Next known e w (w.wait e ms)
  | flush {w : World ν} : Next known e w (w.flush e)

end World

/-! ## Following all that is held back -/

theorem quiet_handler (e : Engine ν) (t : FileTree) : Handler.Quiet (Session.handler e t) :=
  fun _ _ => rfl

theorem quiet_tracking (e : Engine ν) (t : FileTree) : Handler.Quiet (tracking e t) :=
  fun _ _ => rfl

namespace World

/-- The debouncer has handed over all that was held back, or nothing. -/
def drain (e : Engine ν) (d : Debouncer Spec) (any : Bool) (w : World ν) : World ν :=
  { w with
    session := w.session.withDebounced (d, if any then
      (Session.handler e w.tree).worldAfter w.session.index w.session.debouncer.pending
        else w.session.index)
    account :=
      (if any then (tracking e w.tree).worldAfter (w.session.index,
        w.account) w.session.debouncer.pending
      else (w.session.index, w.account)).2 }

variable {w : World ν}

theorem wait_eq (ms : Nat) (hf : w.session.debouncer.flushing = false) :
    ∃ d any, Debouncer.Drained w.session.debouncer d any ∧ w.wait e ms = w.drain e d any := by
  obtain ⟨d, any, hd, hquiet⟩ := Debouncer.advance_quiet ms hf
  refine ⟨d, any, hd, ?_⟩
  simp only [wait, drain, Session.advance, hquiet _ (quiet_handler e w.tree),
    hquiet _ (quiet_tracking e w.tree)]

theorem flush_eq (hf : w.session.debouncer.flushing = false) :
    ∃ d, Debouncer.Drained w.session.debouncer d true ∧ w.flush e = w.drain e d true := by
  refine ⟨_, Debouncer.pending_endFlush_beginFlush w.session.debouncer
    w.session.debouncer.pending.length, ?_⟩
  simp only [flush, drain, Session.flush, Debouncer.flush_quiet (quiet_handler e w.tree) hf,
    Debouncer.flush_quiet (quiet_tracking e w.tree) hf, if_true]

end World

/-- What is known of a session at any time. -/
structure Tended (known : String → Prop) (e : Engine ν) (specs : List Spec) (w : World ν) :
    Prop where
  good : Good known e specs w.standing
  configured : w.session.specs = specs
  subscribed : w.subscribed.Sublist specs
  flushing : w.session.debouncer.flushing = false
  stopped : w.session.debouncer.stopped = false

variable {w w' : World ν}

theorem Session.receive_of_matchPath (session : Session ν) {t : FileTree} {spec : Spec}
    (event : FileEvent) {m : MatchedFile} (h : spec.matchPath t event.path = .ok (some m)) :
    (session.receive t spec event).1 = { session with
      index := { session.index with stats := session.index.stats.recordEvent event.kind }
      debouncer := session.debouncer.submit ⟨event.kind, event.path, spec⟩ } := by
  simp only [Session.receive, h]

theorem tended_deliver (ht : Tended known e specs w) {spec : Spec} {event : FileEvent}
    {rest : List (Spec × FileEvent)} (hf : w.flight = (spec, event) :: rest) :
    Tended known e specs (w.deliver spec event rest) := by
  obtain ⟨-, -, -, htakes⟩ := ht.good.sent (spec, event) (by simp [World.standing, hf])
  obtain ⟨m, hm⟩ := Spec.takes_iff.mp htakes
  have hm : spec.matchPath w.tree event.path = .ok (some m) := hm
  have hrec := Session.receive_of_matchPath w.session event hm
  have hpend := Debouncer.pending_submit (⟨event.kind, event.path, spec⟩ : PendingEvent Spec)
    ht.stopped
  have hstand : (w.deliver spec event rest).standing = w.standing.take spec event rest := by
    simp only [World.standing, World.deliver, hrec, Standing.take, hpend]
  constructor
  · rw [hstand]
    exact good_take ht.good hf
  · simp only [World.deliver, hrec, ht.configured]
  · simp only [World.deliver, World.subscribed, hrec]
    exact ht.subscribed
  · simp only [World.deliver, hrec, Debouncer.flushing_submit, ht.flushing]
  · simp only [World.deliver, hrec, Debouncer.stopped_submit, ht.stopped]

variable (hr : ∀ id, e.refuse id = none) (hb : ∀ spec ∈ specs, e.registry.Standard spec.strategy)

include hr hb

theorem good_followAll {es : List (PendingEvent Spec)} {s : Standing ν} (hg : Good known e specs s)
    (hp : s.pending = es) {i : Index ν} (hi : i.store = s.store) :
    Good known e specs { s with
      store := ((Session.handler e s.tree).worldAfter i es).store
      pending := []
      account := ((tracking e s.tree).worldAfter (i, s.account) es).2 } := by
  induction es generalizing s i with
  | nil =>
    have : s = { s with store := i.store, pending := [] } := by rw [hi, ← hp]
    rw [this] at hg
    exact hg
  | cons event rest ih =>
    have := ih (good_follow hr hb hg hp hi) rfl (i := (Session.handler e s.tree i event).1) rfl
    simp only [Standing.follow, ← hi] at this
    exact this

/-- A session after its debouncer handed over all that was held back, or nothing. -/
theorem tended_drain (ht : Tended known e specs w) {d : Debouncer Spec} {any : Bool}
    (hd : Debouncer.Drained w.session.debouncer d any) :
    Tended known e specs (w.drain e d any) := by
  refine ⟨?_, ht.configured, ht.subscribed, hd.flushing, hd.stopped.trans ht.stopped⟩
  cases any with
  | false =>
    have hp : d.pending = w.session.debouncer.pending := hd.pending
    simp only [World.standing, World.drain, Session.withDebounced, hp]
    exact ht.good
  | true =>
    have hp : d.pending = [] := hd.pending
    simp only [World.standing, World.drain, Session.withDebounced, hp]
    exact good_followAll hr hb ht.good rfl rfl

theorem tended_next (ht : Tended known e specs w) (h : World.Next known e w w') :
    Tended known e specs w' := by
  cases h with
  | change hs hc hw =>
    obtain rfl := ht.configured
    exact ⟨good_change ht.good hs hc.faithful ht.subscribed hw, rfl, ht.subscribed, ht.flushing,
      ht.stopped⟩
  | deliver hf => exact tended_deliver ht hf
  | wait ms =>
    obtain ⟨d, any, hd, hw⟩ := World.wait_eq ms ht.flushing
    rw [hw]
    exact tended_drain hr hb ht hd
  | flush =>
    obtain ⟨d, hd, hw⟩ := World.flush_eq ht.flushing
    rw [hw]
    exact tended_drain hr hb ht hd

theorem tended_run (ht : Tended known e specs w)
    (h : Relation.ReflTransGen (World.Next known e) w w') :
    Tended known e specs w' := by
  induction h with
  | refl => exact ht
  | tail _ hstep ih => exact tended_next hr hb ih hstep

end SegmentIndex
