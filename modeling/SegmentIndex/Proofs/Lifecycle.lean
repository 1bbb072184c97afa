import SegmentIndex.Proofs.Convergence

/-!
# Sessions that are started and stopped

Whether a session is started, which subscriptions hold, what the statistics say about watching and
whether the debouncer takes events in are four things that different commands change. After any
commands, what is subscribed to in a started session is watched, and the statistics say so. But a
stop closes the debouncer for good, also the stop of a session that was not started, and no start
opens it again. So an event that a subscription delivers is held back exactly if the session was
never stopped before.
-/
namespace SegmentIndex

variable {ν : Type}

/-! ## What is said about watching -/

namespace Stats

variable (s : Stats)

theorem watch_adjust (source : Option String) (documents segments : Int) :
    (s.adjust source documents segments).watch = s.watch := by cases source <;> rfl

theorem watch_recordSuccess (source : Option String) (metadata : List Entries) (counting : Bool) :
    (s.recordSuccess source metadata counting).watch = s.watch := by
  cases counting <;> cases source <;> rfl

theorem watch_recordFailure (r : FailureRecord) (counting : Bool) :
    (s.recordFailure r counting).watch = s.watch := by
  unfold recordFailure
  cases r.source <;> rfl

theorem watch_recordEvent (kind : String) : (s.recordEvent kind).watch.enabled = s.watch.enabled ∧
    (s.recordEvent kind).watch.sources = s.watch.sources := by
  unfold recordEvent
  dsimp only
  split <;> exact ⟨rfl, rfl⟩

end Stats

namespace Index

variable (e : Engine ν) (t : FileTree) (spec : Spec) (i : Index ν)

theorem watch_ingestFor (counting : Bool) (m : MatchedFile) :
    (i.ingestFor e t counting spec m).1.stats.watch = i.stats.watch := by
  unfold ingestFor
  rcases e.persist t spec m i.store with ⟨s, f | segments⟩
  · exact i.stats.watch_recordFailure _ _
  · exact i.stats.watch_recordSuccess _ _ _

theorem watch_seeCaptures (m : MatchedFile) :
    (i.seeCaptures spec m).stats.watch = i.stats.watch := by
  unfold seeCaptures
  split_ifs <;> rfl

theorem watch_followRemoval (file : String) :
    (i.followRemoval spec file).stats.watch = i.stats.watch := by
  unfold followRemoval removeFile
  dsimp only
  split_ifs
  · rfl
  · exact i.stats.watch_adjust _ _ _

theorem watch_followContent (replacing : Bool) (m : MatchedFile) :
    (i.followContent e t replacing spec m).1.stats.watch = i.stats.watch := by
  unfold followContent
  dsimp only
  rw [Stats.watch_adjust, watch_ingestFor, ← watch_seeCaptures spec i m]
  cases replacing <;> rfl

theorem watch_reindex (kind path : String) :
    (i.reindex e t kind path spec).1.stats.watch = i.stats.watch := by
  unfold reindex
  split_ifs
  · rfl
  · cases t.canonical path with
    | error f => rfl
    | ok file => exact watch_followRemoval spec i file
  · rcases spec.matchPath t path with f | _ | m
    · rfl
    · rfl
    · dsimp only
      exact watch_followContent e t spec i (decide (kind = "modify")) m

end Index

theorem Session.watch_worldAfter (e : Engine ν) (t : FileTree) (events : List (PendingEvent Spec))
    (i : Index ν) :
    ((handler e t).worldAfter i events).stats.watch = i.stats.watch := by
  induction events generalizing i with
  | nil => rfl
  | cons event rest ih =>
    have hevent : (handler e t i event).1.stats.watch = i.stats.watch :=
      i.watch_reindex e t event.spec event.kind event.path
    rw [Handler.worldAfter, List.foldl_cons, ← hevent]
    exact ih _

/-! ## A debouncer between two commands -/

namespace Debouncer

variable {σ ω : Type} {d d' : Debouncer σ} {halted : Bool}

/-- No flush runs, each path has one entry at most, and there
are none once the debouncer was stopped. -/
structure Rested (d : Debouncer σ) (halted : Bool) : Prop where
  flushing : d.flushing = false
  stopped : d.stopped = halted
  paths : (d.pending.map (·.path)).Nodup
  idle : halted = true → d.pending = []

theorem Rested.submit (hd : Rested d halted) (e : PendingEvent σ) : Rested (d.submit e) halted := by
  cases hs : d.stopped with
  | true => rwa [submit_of_stopped e hs]
  | false =>
    have hhalted : halted = false := hd.stopped.symm.trans hs
    refine ⟨(flushing_submit e d).trans hd.flushing, (stopped_submit e d).trans hd.stopped,
      ?_, by simp [hhalted]⟩
    rw [pending_submit e hs]
    exact nodup_hold e hd.paths

theorem Rested.drained (hd : Rested d halted) {any : Bool} (h : Drained d d' any) :
    Rested d' halted := by
  refine ⟨h.flushing, h.stopped.trans hd.stopped, ?_, fun hh => ?_⟩
  · rw [h.pending]
    split_ifs
    · exact List.nodup_nil
    · exact hd.paths
  · rw [h.pending, hd.idle hh, ite_self]

theorem Rested.stop (hd : Rested d halted) {h : Handler σ ω} (hq : h.Quiet) (drain : Bool) (w : ω) :
    Rested (d.stop h drain w).1 true := by
  cases drain with
  | false => exact ⟨hd.flushing, rfl, List.nodup_nil, fun _ => rfl⟩
  | true =>
    have hdrained := pending_endFlush_beginFlush d.halt d.halt.pending.length
    have hflush := flush_quiet hq (d := d.halt) hd.flushing w
    have hstop : (d.stop h true w).1 = d.halt.beginFlush.endFlush d.halt.pending.length := by
      rw [Debouncer.stop, if_pos rfl, hflush]
    rw [hstop]
    exact ⟨hdrained.flushing, hdrained.stopped, by simp [hdrained.pending],
      fun _ => hdrained.pending⟩

end Debouncer

/-! ## Commands -/

namespace Session

/-- What is asked of a session. A block that works with it enters and leaves it. -/
inductive Command where
  | start
  | stop (drain : Bool)
  | enter
  | leave
  | flush
  | advance (ms : Nat)
  | deliver (spec : Spec) (event : FileEvent)
  deriving DecidableEq, Repr

def Command.stops : Command → Bool
  | .stop _ | .leave => true
  | _ => false

/-- A command, with the surroundings and the files as they are at that time. -/
structure Turn (ν : Type) where
  surroundings : Surroundings ν
  tree : FileTree
  command : Command

/-- Does what is asked, whether it succeeds or not. -/
def obey (s : Session ν) (turn : Turn ν) : Session ν :=
  match turn.command with
  | .start | .enter => (s.start turn.surroundings turn.tree).1
  | .stop drain => s.stop turn.surroundings.engine turn.tree drain
  | .leave => s.stop turn.surroundings.engine turn.tree false
  | .flush => (s.flush turn.surroundings.engine turn.tree).1
  | .advance ms => (s.advance turn.surroundings.engine turn.tree ms).1
  | .deliver spec event => (s.receive turn.tree spec event).1

/-- Does one after the other what is asked. -/
def obeyAll (s : Session ν) (turns : List (Turn ν)) : Session ν := turns.foldl obey s

variable {s : Session ν} {halted : Bool} {env : Surroundings ν} {t : FileTree}

/-- What holds of a session after any commands, with or without a stop among them. -/
structure Coherent (s : Session ν) (halted : Bool) : Prop where
  rested : s.debouncer.Rested halted
  live : ∀ n ∈ s.handles, ∃ sub, s.subscriptions[n]? = some sub ∧ sub.spec.watch = true ∧
    sub.spec.path ∈ s.watched
  reported : s.started = true → s.index.stats.watch.enabled = !s.watched.isEmpty ∧
    s.index.stats.watch.sources = s.watched

theorem coherent_new {config : Config} (h : Session.new config = .ok s) : Coherent s false := by
  obtain ⟨stats, interval, rfl⟩ := new_eq h
  exact ⟨⟨rfl, rfl, List.nodup_nil, fun _ => rfl⟩, by simp, by simp⟩

theorem coherent_watch (env : Surroundings ν) (t : FileTree) (hs : Coherent s halted)
    (hstarted : s.started = false) (spec : Spec) :
    Coherent (s.watch env t spec).1 halted ∧ (s.watch env t spec).1.started = false := by
  unfold Session.watch
  split_ifs with hwatch
  · exact ⟨hs, hstarted⟩
  · rcases spec.watchTarget t with f | ⟨root, recursive⟩
    · exact ⟨hs, hstarted⟩
    · cases hroot : env.refuseRoot root with
      | some cause =>
        simp only [hroot]
        exact ⟨⟨hs.rested, hs.live, fun h => by simp [hstarted] at h⟩, hstarted⟩
      | none =>
        simp only [hroot]
        refine ⟨⟨hs.rested, fun n hn => ?_, fun h => by simp [hstarted] at h⟩, hstarted⟩
        rcases List.mem_append.mp hn with hn | hn
        · obtain ⟨sub, hsub, hw, hpath⟩ := hs.live n hn
          exact ⟨sub, Debouncer.getElem?_snoc hsub, hw, List.mem_append_left _ hpath⟩
        · obtain rfl := List.mem_singleton.mp hn
          exact ⟨⟨root, recursive, spec⟩, by simp, by simpa using hwatch, by simp⟩

theorem coherent_watchAll (env : Surroundings ν) (t : FileTree) (hs : Coherent s halted)
    (hstarted : s.started = false) (specs : List Spec) :
    Coherent (s.watchAll env t specs).1 halted ∧ (s.watchAll env t specs).1.started = false := by
  induction specs generalizing s with
  | nil => exact ⟨hs, hstarted⟩
  | cons spec rest ih =>
    obtain ⟨hw, hn⟩ := coherent_watch env t hs hstarted spec
    rw [watchAll]
    rcases hx : s.watch env t spec with ⟨s', f | u⟩
    · rw [hx] at hw hn
      exact ⟨hw, hn⟩
    · rw [hx] at hw hn
      exact ih hw hn

/-- A start that fails leaves the session not started, with the subscriptions made so far. -/
theorem coherent_start (hs : Coherent s halted) : Coherent (s.start env t).1 halted := by
  unfold start
  split_ifs with hstarted
  · exact hs
  · have hstarted : s.started = false := by simpa using hstarted
    cases hspecs : s.config.compileSources env.engine.registry with
    | error f => exact hs
    | ok specs =>
      have hcoherent : ∀ i : Index ν, Coherent { s with specs := specs, index := i } halted :=
        fun i =>
        ⟨hs.rested, hs.live, fun h => by simp [hstarted] at h⟩
      rcases hing : s.index.ingest env.engine t specs with ⟨i, f | report⟩
      · simp only [hing]
        exact hcoherent i
      · obtain ⟨hw, -⟩ := coherent_watchAll env t (hcoherent i) hstarted specs
        rcases hwatch : watchAll env t specs { s with specs := specs, index := i } with ⟨s', f | u⟩
        · simp only [hing, hwatch]
          rwa [hwatch] at hw
        · simp only [hing, hwatch]
          rw [hwatch] at hw
          exact ⟨hw.rested, hw.live, fun _ => ⟨rfl, rfl⟩⟩

theorem coherent_stop (hs : Coherent s halted) (e : Engine ν) (drain : Bool) :
    Coherent (s.stop e t drain) true := by
  have hunwatched : Coherent (if s.started then s.unwatch else s) halted := by
    split_ifs
    · exact ⟨hs.rested, by simp [unwatch], fun _ => ⟨rfl, rfl⟩⟩
    · exact hs
  exact ⟨hunwatched.rested.stop (quiet_handler e t) drain _,
    hunwatched.live, by simp [Session.stop]⟩

theorem coherent_drained (hs : Coherent s halted) (e : Engine ν) {d : Debouncer Spec} {any : Bool}
    (h : Debouncer.Drained s.debouncer d any) : Coherent (s.withDebounced (d, if any then
      (handler e t).worldAfter s.index s.debouncer.pending else s.index)) halted := by
  refine ⟨hs.rested.drained h, hs.live, fun hstarted => ?_⟩
  cases any with
  | false => exact hs.reported hstarted
  | true =>
    simp only [withDebounced, if_true, watch_worldAfter]
    exact hs.reported hstarted

theorem coherent_receive (hs : Coherent s halted) (spec : Spec) (event : FileEvent) :
    Coherent (s.receive t spec event).1 halted := by
  unfold receive
  rcases spec.matchPath t event.path with f | _ | m
  · exact hs
  · exact hs
  · refine ⟨hs.rested.submit _, hs.live, fun hstarted => ?_⟩
    obtain ⟨henabled, hsources⟩ := s.index.stats.watch_recordEvent event.kind
    exact ⟨henabled.trans (hs.reported hstarted).1, hsources.trans (hs.reported hstarted).2⟩

theorem coherent_obey (hs : Coherent s halted) (turn : Turn ν) :
    Coherent (s.obey turn) (halted || turn.command.stops) := by
  obtain ⟨env, t, command⟩ := turn
  cases command with
  | start | enter =>
    simp only [Command.stops, Bool.or_false]
    exact coherent_start hs
  | stop drain =>
    simp only [Command.stops, Bool.or_true]
    exact coherent_stop hs env.engine drain
  | leave =>
    simp only [Command.stops, Bool.or_true]
    exact coherent_stop hs env.engine false
  | flush =>
    have hdrained := Debouncer.pending_endFlush_beginFlush s.debouncer s.debouncer.pending.length
    simp only [Command.stops, Bool.or_false, obey, flush,
      Debouncer.flush_quiet (quiet_handler env.engine t) hs.rested.flushing]
    exact coherent_drained hs env.engine hdrained
  | advance ms =>
    obtain ⟨d, any, hdrained, hquiet⟩ := Debouncer.advance_quiet ms hs.rested.flushing
    simp only [Command.stops, Bool.or_false, obey, advance, hquiet _ (quiet_handler env.engine t)]
    exact coherent_drained hs env.engine hdrained
  | deliver spec event =>
    simp only [Command.stops, Bool.or_false]
    exact coherent_receive hs spec event

theorem coherent_obeyAll (hs : Coherent s halted) (turns : List (Turn ν)) :
    Coherent (s.obeyAll turns) (halted || turns.any (·.command.stops)) := by
  induction turns generalizing s halted with
  | nil => rwa [List.any_nil, Bool.or_false]
  | cons turn rest ih =>
    rw [List.any_cons, ← Bool.or_assoc]
    exact ih (coherent_obey hs turn)

/-- After any commands, a subscription that holds in a started session is that of a watched spec,
which the statistics list. An event that it delivers for a file of the spec is taken without
failure, and it is then the one entry that is held back for its path if and only if none of the
commands was a stop. -/
theorem delivery_held_iff {config : Config} {new : Session ν} (hnew : Session.new config = .ok new)
    (turns : List (Turn ν)) (hstarted : (new.obeyAll turns).started = true) {n : Nat}
    (hlive : n ∈ (new.obeyAll turns).handles) :
    ∃ sub, (new.obeyAll turns).subscriptions[n]? = some sub ∧ sub.spec.watch = true ∧
      (new.obeyAll turns).watchStats.enabled = true ∧
      sub.spec.path ∈ (new.obeyAll turns).watchStats.sources ∧
      ∀ (t : FileTree) (event : FileEvent) (m : MatchedFile),
        sub.spec.matchPath t event.path = .ok (some m) →
        ∃ next, (new.obeyAll turns).receive t sub.spec event = (next, .ok ()) ∧
          (next.debouncer.pending.filter (·.path = event.path) =
            [⟨event.kind, event.path, sub.spec⟩] ↔
            ∀ turn ∈ turns, turn.command.stops = false) := by
  have hs := coherent_obeyAll (coherent_new hnew) turns
  rw [Bool.false_or] at hs
  generalize new.obeyAll turns = s at hs hstarted hlive ⊢
  obtain ⟨sub, hsub, hwatch, hpath⟩ := hs.live n hlive
  obtain ⟨henabled, hsources⟩ := hs.reported hstarted
  refine ⟨sub, hsub, hwatch, ?_, hsources ▸ hpath,
    fun t event m hm => ⟨(s.receive t sub.spec event).1, ?_, ?_⟩⟩
  · exact henabled.trans (by simpa using List.ne_nil_of_mem hpath)
  · simp only [receive, hm]
  · rw [receive_of_matchPath s event hm]
    cases hstop : turns.any (·.command.stops) with
    | true =>
      rw [hstop] at hs
      obtain ⟨turn, hturn, hstops⟩ := List.any_eq_true.mp hstop
      have hpending : (s.debouncer.submit ⟨event.kind, event.path, sub.spec⟩).pending = [] := by
        rw [Debouncer.submit_of_stopped _ hs.rested.stopped, hs.rested.idle rfl]
      simp only [hpending, List.filter_nil, List.nil_eq, reduceCtorEq, false_iff]
      exact fun h => by simp [h turn hturn] at hstops
    | false =>
      rw [hstop] at hs
      simp only [Debouncer.pending_submit _ hs.rested.stopped, filter_hold _ hs.rested.paths,
        if_true, true_iff]
      simpa using hstop

end Session

/-! ## A session that is started again -/

namespace Sole

open Session (Turn)

/-- The file as it stays all the time. -/
def text : FileTree := holding [97, 98, 99]

def once : List (Turn Unit) := [⟨env, text, .start⟩]

/-- A session is started, stopped and started again. -/
def twice : List (Turn Unit) := once ++ [⟨env, text, .stop false⟩, ⟨env, text, .start⟩]

theorem start_config {s : Session Unit} (hc : s.config = config) (hs : s.started = false) :
    (s.start env text).1.config = config ∧ (s.start env text).1.started = true ∧
      (s.start env text).1.subscriptions = s.subscriptions ++ [⟨"/", false, spec⟩] ∧
      (s.start env text).1.handles = s.handles ++ [s.subscriptions.length] ∧
      (s.start env text).1.debouncer = s.debouncer := by
  have hingest : ∃ i report, s.index.ingest env.engine text [spec] = (i, .ok report) := by
    simp [Index.ingest, check_spec, Index.ingestSpecs, text, matchFiles_holding, Except.map]
  obtain ⟨i, report, hingest⟩ := hingest
  have hwatch : spec.watch = true := rfl
  have htarget : spec.watchTarget text = .ok ("/", false) := direct_spec.watchTarget _
  have hrefuse : env.refuseRoot "/" = none := rfl
  simp [Session.start, hs, hc, compile_config, hingest, Session.watchAll, Session.watch, hwatch,
    htarget, hrefuse, Session.noteWatching]

theorem obeyAll_once : (idle.obeyAll once).config = config ∧ (idle.obeyAll once).started = true ∧
    (idle.obeyAll once).subscriptions = [⟨"/", false, spec⟩] ∧
    (idle.obeyAll once).handles = [0] := by
  obtain ⟨hconfig, hstarted, hsubs, hhandles, -⟩ := start_config (s := idle) rfl rfl
  exact ⟨hconfig, hstarted, hsubs, hhandles⟩

/-- The subscription of the first start ends, and that of the second one holds. -/
theorem obeyAll_twice : (idle.obeyAll twice).started = true ∧
    (idle.obeyAll twice).subscriptions = [⟨"/", false, spec⟩, ⟨"/", false, spec⟩] ∧
    (idle.obeyAll twice).handles = [1] := by
  obtain ⟨hconfig, hstarted, hsubs, -⟩ := obeyAll_once
  have hstop : (idle.obeyAll once).stop env.engine text false =
      { (idle.obeyAll once).unwatch.withDebounced ((idle.obeyAll once).debouncer.halt.discard,
        (idle.obeyAll once).unwatch.index) with started := false, closed := true } := by
    simp [Session.stop, hstarted, Debouncer.stop, Session.unwatch, Session.noteWatching]
  obtain ⟨-, hagain, hsubs', hhandles, -⟩ :=
    start_config (s := (idle.obeyAll once).stop env.engine text false)
      (by rw [hstop]; exact hconfig) (by rw [hstop])
  have htwice : idle.obeyAll twice =
      (((idle.obeyAll once).stop env.engine text false).start env text).1 := rfl
  have hkept : ((idle.obeyAll once).stop env.engine text false).subscriptions =
      [⟨"/", false, spec⟩] := by
    rw [hstop]
    exact hsubs
  have hended : ((idle.obeyAll once).stop env.engine text false).handles = [] := by
    rw [hstop]
    rfl
  rw [htwice]
  exact ⟨hagain, by rw [hsubs', hkept]; rfl, by rw [hhandles, hended, hkept]; rfl⟩

/-- After the first start an event is held back. -/
theorem once_held : ∃ next, (idle.obeyAll once).receive text spec ⟨"modify", "/a"⟩ =
    (next, .ok ()) ∧
    next.debouncer.pending.filter (·.path = "/a") = [⟨"modify", "/a", spec⟩] := by
  obtain ⟨-, hstarted, hsubs, hhandles⟩ := obeyAll_once
  obtain ⟨sub, hsub, -, -, -, hheld⟩ :=
    Session.delivery_held_iff new_config once hstarted (n := 0) (by simp [hhandles])
  obtain rfl : ⟨"/", false, spec⟩ = sub := by simpa [hsubs] using hsub
  obtain ⟨next, hreceive, hiff⟩ :=
    hheld text ⟨"modify", "/a"⟩ found (matchPath_spec (linkless_holding _))
  exact ⟨next, hreceive, hiff.mpr (by decide)⟩

/-- After the second start the same event is counted and dropped, although the session is
started, watches the spec and says so. -/
theorem twice_drops : Session.new config = .ok idle ∧ (idle.obeyAll twice).started = true ∧
    1 ∈ (idle.obeyAll twice).handles ∧
      (idle.obeyAll twice).subscriptions[1]? = some ⟨"/", false, spec⟩ ∧
    spec.watch = true ∧ spec.matchPath text "/a" = .ok (some found) ∧
    ∃ next, (idle.obeyAll twice).receive text spec ⟨"modify", "/a"⟩ = (next, .ok ()) ∧
      next.watchStats.modified = (idle.obeyAll twice).watchStats.modified + 1 ∧
      next.debouncer.pending = [] := by
  obtain ⟨hstarted, hsubs, hhandles⟩ := obeyAll_twice
  have hmatch : spec.matchPath text "/a" = .ok (some found) := matchPath_spec (linkless_holding _)
  obtain ⟨hstopped, hidle⟩ : (idle.obeyAll twice).debouncer.stopped = true ∧
      (idle.obeyAll twice).debouncer.pending = [] := by
    have hrested := (Session.coherent_obeyAll (Session.coherent_new new_config) twice).rested
    exact ⟨hrested.stopped, hrested.idle rfl⟩
  refine ⟨new_config, hstarted, by simp [hhandles], by simp [hsubs], rfl, hmatch,
    ((idle.obeyAll twice).receive text spec ⟨"modify", "/a"⟩).1, by
    simp only [Session.receive, hmatch], ?_, ?_⟩
  · rw [Session.receive_of_matchPath _ ⟨"modify", "/a"⟩ hmatch]
    rfl
  · rw [Session.receive_of_matchPath _ ⟨"modify", "/a"⟩ hmatch]
    simp only [Debouncer.submit_of_stopped _ hstopped, hidle]

end Sole

end SegmentIndex
