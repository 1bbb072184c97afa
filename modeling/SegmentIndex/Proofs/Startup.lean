import SegmentIndex.Proofs.Launch

/-!
# Changes while a session starts

Whenever a file is ingested or an event of it is followed, it is looked at, and has from then on
what it should have had at that time. When a session has started and all that is held back was
followed, the files that were told of since were looked at last of all. A file that changed after it
was looked at and before its spec was subscribed to stays as it was.
-/
namespace SegmentIndex

open PointStore (Known Distinct isOf)

section

variable {ν : Type} {known : String → Prop} {e : Engine ν} {env : Surroundings ν}
  {specs : List Spec}
  {t : FileTree} {a : Account ν} {i : Index ν} {event : PendingEvent Spec} {w : World ν}
    {l l' : Launch ν}

/-! ## Looking at files -/

/-- A store whose files have what they should have had when they were last looked
at, beside what was left in place then. -/
structure Inspected (known : String → Prop) (e : Engine ν) (specs : List Spec)
    (store : PointStore ν) (a : Account ν) : Prop where
  stored : Known known store
  distinct : Distinct store
  settled : ∀ path, known path →
    (∀ q, q ∈ store ∧ isOf path q = true ↔ Expected e (a.seen path) specs path q ∨
    q ∈ a.left path) ∧
      ∀ q ∈ a.left path, ¬ Expected e (a.seen path) specs path q

section Following

variable (hg : Grounded known t) (ha : Apart known t specs) (hr : ∀ id, e.refuse id = none)
  (hb : ∀ spec ∈ specs, e.registry.Builtin spec.strategy)

include hg ha hr hb

theorem Inspected.handler (hk : Inspected known e specs i.store a) (hd : Due known specs t event)
    (hgone : event.kind = "delete" → t.content event.path = none) :
    Inspected known e specs (Session.handler e t i event).1.store (a.note e t event i.store) := by
  refine ⟨hd.stored hg hr hb hk.stored hk.distinct, hd.distinct hg hr hk.distinct,
    fun path hkp => ?_⟩
  by_cases hne : path = event.path
  · subst hne
    simp only [Account.note, Function.update_self]
    exact hd.settled hg hr hb hk.stored hk.distinct ha hgone
  · obtain ⟨hmem, hleft⟩ := hk.settled path hkp
    simp only [Account.note, Function.update_of_ne hne]
    refine ⟨fun q => ?_, hleft⟩
    rw [← hmem]
    exact and_congr_left fun hq => hd.mem_store_other hg hr hb hk.stored hk.distinct hne hq

theorem Inspected.ingestFor (hk : Inspected known e specs i.store a) {spec : Spec} {m : MatchedFile}
    (hs : spec ∈ specs)
    (hm : known m.path) (hmatch : spec.matchPath t m.path = .ok (some m)) (counting : Bool) :
    Inspected known e specs (i.ingestFor e t counting spec m).1.store
      (a.note e t ⟨"create", m.path, spec⟩ i.store) := by
  have hd : Due known specs t ⟨"create", m.path, spec⟩ :=
    ⟨hm, List.mem_cons_self, hs, Spec.takes_iff.mpr ⟨m, hmatch⟩⟩
  have hstore : (i.ingestFor e t counting spec m).1.store =
      (Session.handler e t i ⟨"create", m.path, spec⟩).1.store := by
    rw [store_handler, Index.store_reindex_content hr (.inl rfl) hmatch, Index.store_ingestFor,
      Engine.persist_eq hr]
    rfl
  have hkind : ("create" : String) ≠ "delete" := by decide
  rw [hstore]
  exact hk.handler hg ha hr hb hd fun h => absurd h hkind

theorem Inspected.worldAfter {es : List (PendingEvent Spec)}
    (hes : ∀ x ∈ es, Due known specs t x ∧ (x.kind = "delete" → t.content x.path = none))
    (hk : Inspected known e specs i.store a) :
    Inspected known e specs ((Session.handler e t).worldAfter i es).store
      ((tracking e t).worldAfter (i, a) es).2 := by
  induction es generalizing i a with
  | nil => exact hk
  | cons x rest ih =>
    obtain ⟨hd, hgone⟩ := hes x List.mem_cons_self
    exact ih (fun y hy => hes y (List.mem_cons_of_mem _ hy)) (hk.handler hg ha hr hb hd hgone)

end Following

theorem seen_worldAfter (e : Engine ν) (t : FileTree) (es : List (PendingEvent Spec)) (i : Index ν)
    (a : Account ν) (path : String) : ((tracking e t).worldAfter (i, a) es).2.seen path =
      if path ∈ es.map (·.path) then t else a.seen path := by
  induction es generalizing i a with
  | nil => rfl
  | cons x rest ih =>
    refine (ih _ _).trans ?_
    simp only [Account.note, List.map_cons, List.mem_cons]
    by_cases hx : path = x.path
    · simp [hx]
    · simp [hx]

theorem left_worldAfter (e : Engine ν) (t : FileTree) {es : List (PendingEvent Spec)} (i : Index ν)
    (a : Account ν) {path : String} (hc : ∀ x ∈ es, x.path = path → x.kind ≠ "create")
    (h : path ∈ es.map (·.path) ∨ a.left path = []) :
    ((tracking e t).worldAfter (i, a) es).2.left path = [] := by
  induction es generalizing i a with
  | nil => exact h.resolve_left (by simp)
  | cons x rest ih =>
    refine ih _ _ (fun y hy => hc y (List.mem_cons_of_mem _ hy)) ?_
    simp only [Account.note]
    by_cases hx : path = x.path
    · refine .inr ?_
      rw [hx, Function.update_self, leftPoints, if_neg (hc x List.mem_cons_self hx.symm)]
    · rw [Function.update_of_ne hx]
      exact h.imp_left fun h => by simpa [hx] using h

/-! ## While a session starts -/

/-- What holds of a task that is left to do. -/
def Task.Sound (known : String → Prop) (specs : List Spec) (t : FileTree) : Task → Prop
  | .compile | .finish => True
  | .look spec | .subscribe spec => spec ∈ specs
  | .ingest spec m => spec ∈ specs ∧ known m.path ∧ spec.matchPath t m.path = .ok (some m)

theorem Task.Sound.steady {task : Task} {t' : FileTree} (h : task.Sound known specs t)
    (hg : Grounded known t) (hs : Steady known specs t t') : task.Sound known specs t' := by
  cases task with
  | ingest spec m =>
    obtain ⟨hspec, hk, hm⟩ := h
    exact ⟨hspec, hk, (hs.matchPath hg hspec hk).trans hm⟩
  | compile => trivial
  | finish => trivial
  | look spec => exact h
  | subscribe spec => exact h

/-- An event that is held back came to a subscription, and says truly whether its file is gone. -/
structure Heeded (known : String → Prop) (specs : List Spec) (w : World ν) (x : PendingEvent Spec) :
    Prop where
  due : Due known specs w.tree x
  subscribed : x.spec ∈ w.subscribed
  gone : x.kind = "delete" ↔ w.tree.content x.path = none

/-- What is known of a session while it starts. -/
structure Afoot (known : String → Prop) (env : Surroundings ν) (specs : List Spec) (l : Launch ν) :
    Prop where
  grounded : Grounded known l.world.tree
  apart : Apart known l.world.tree specs
  surveyed : Surveyed known l.world.tree specs
  inspected : Inspected known env.engine specs l.world.session.index.store l.world.account
  config : l.world.session.config.compileSources env.engine.registry = .ok specs
  tasks : ∀ task ∈ l.tasks, task.Sound known specs l.world.tree
  subscribed : ∀ spec ∈ l.world.subscribed, spec ∈ specs
  held : ∀ x ∈ l.world.session.debouncer.pending, Heeded known specs l.world x
  once : (l.world.session.debouncer.pending.map (·.path)).Nodup
  flushing : l.world.session.debouncer.flushing = false
  stopped : l.world.session.debouncer.stopped = false

section Work

variable (hr : ∀ id, env.engine.refuse id = none)
  (hb : ∀ spec ∈ specs, env.engine.registry.Builtin spec.strategy)

include hr hb

theorem Task.run_spec {task : Task} {s s' : Session ν} {more : List Task}
    {results : List FileResult}
    (h : task.run env t s = some (s', more, results)) (htask : task.Sound known specs t)
    (hconfig : s.config.compileSources env.engine.registry = .ok specs) (hg : Grounded known t)
    (ha : Apart known t specs) (hsurvey : Surveyed known t specs)
    (hi : Inspected known env.engine specs s.index.store a) :
    s'.config = s.config ∧ s'.debouncer = s.debouncer ∧
      (s'.subscriptions.map (·.spec) = s.subscriptions.map (·.spec) ∨
        ∃ spec ∈ specs, s'.subscriptions.map (·.spec) = s.subscriptions.map (·.spec) ++ [spec]) ∧
      (∀ task ∈ more, task.Sound known specs t) ∧
      Inspected known env.engine specs s'.index.store (task.note env.engine t s.index.store a) := by
  cases task with
  | compile =>
    unfold run at h
    split_ifs at h
    rw [hconfig] at h
    cases hcheck : Index.checkSpecs env.engine.registry specs with
    | error f => simp [hcheck] at h
    | ok u =>
      simp only [hcheck, Option.some.injEq, Prod.mk.injEq] at h
      obtain ⟨rfl, rfl, -⟩ := h
      refine ⟨rfl, rfl, .inl rfl, fun task htask => ?_, ?_⟩
      · simp only [List.mem_append, List.mem_map, List.mem_singleton] at htask
        rcases htask with (⟨spec, hs, rfl⟩ | ⟨spec, hs, rfl⟩) | rfl
        · exact hs
        · exact hs
        · trivial
      · simp only [Index.store_registerSources]
        exact hi
  | look spec =>
    obtain ⟨found, hfound, hk, -⟩ := hsurvey spec htask
    simp only [run, hfound, Option.some.injEq, Prod.mk.injEq] at h
    obtain ⟨rfl, rfl, -⟩ := h
    refine ⟨rfl, rfl, .inl rfl, fun task hmem => ?_, hi⟩
    obtain ⟨m, hm, rfl⟩ := List.mem_map.mp hmem
    exact ⟨htask, hk m hm, Spec.matchPath_of_matchFiles hfound hm (hg.canonical _ (hk m hm))⟩
  | ingest spec m =>
    obtain ⟨hs, hk, hm⟩ := htask
    have hstore : (s.index.seeCaptures spec m).store = s.index.store := Index.store_seeCaptures
    have hdone := Inspected.ingestFor hg ha hr hb (hstore.symm ▸ hi) hs hk hm true
    rw [hstore] at hdone
    rw [run_ingest] at h
    generalize (s.index.seeCaptures spec m).ingestFor env.engine t true spec m = done at h hdone
    simp only [Option.some.injEq, Prod.mk.injEq] at h
    obtain ⟨rfl, rfl, -⟩ := h
    exact ⟨rfl, rfl, .inl rfl, by simp, hdone⟩
  | subscribe spec =>
    unfold run at h
    rcases hw : s.watch env t spec with ⟨s₁, f | u⟩
    · simp [hw] at h
    · simp only [hw, Option.some.injEq, Prod.mk.injEq] at h
      obtain ⟨rfl, rfl, -⟩ := h
      obtain ⟨hstore, hdebouncer, -, hconf, hsubs⟩ := watch_spec hw
      refine ⟨hconf, hdebouncer, hsubs.imp_right fun h => ⟨spec, htask, h⟩, by simp, ?_⟩
      rw [hstore]
      exact hi
  | finish =>
    simp only [run, Option.some.injEq, Prod.mk.injEq] at h
    obtain ⟨rfl, rfl, -⟩ := h
    exact ⟨rfl, rfl, .inl rfl, by simp, hi⟩

theorem afoot_perform (hl : Afoot known env specs l) (h : l.perform env = some l') :
    Afoot known env specs l' := by
  unfold Launch.perform at h
  cases htasks : l.tasks with
  | nil => simp [htasks] at h
  | cons task rest =>
    simp only [htasks] at h
    obtain ⟨⟨s, more, results⟩, hrun, rfl⟩ := Option.map_eq_some_iff.mp h
    obtain ⟨hconfig, hdebouncer, hsubs, hmore, hinspected⟩ := Task.run_spec hr hb hrun
      (hl.tasks task (by simp [htasks])) hl.config hl.grounded hl.apart hl.surveyed hl.inspected
    have hin : ∀ spec ∈ l.world.subscribed, spec ∈ s.subscriptions.map (·.spec) := by
      intro spec hspec
      rcases hsubs with h | ⟨_, -, h⟩ <;> rw [h]
      · exact hspec
      · exact List.mem_append_left _ hspec
    refine ⟨hl.grounded, hl.apart, hl.surveyed, hinspected, ?_, ?_, ?_, ?_, ?_, ?_, ?_⟩
    · simp only [hconfig, hl.config]
    · intro x hx
      rcases List.mem_append.mp hx with hx | hx
      · exact hmore x hx
      · exact hl.tasks x (by simp [htasks, hx])
    · intro spec (hspec : spec ∈ s.subscriptions.map (·.spec))
      rcases hsubs with h | ⟨added, hadded, h⟩ <;> rw [h] at hspec
      · exact hl.subscribed spec hspec
      · rcases List.mem_append.mp hspec with hspec | hspec
        · exact hl.subscribed spec hspec
        · exact List.mem_singleton.mp hspec ▸ hadded
    · intro x hx
      simp only [hdebouncer] at hx
      obtain ⟨hdue, hsub, hgone⟩ := hl.held x hx
      exact ⟨hdue, hin _ hsub, hgone⟩
    · simp only [hdebouncer, hl.once]
    · simp only [hdebouncer, hl.flushing]
    · simp only [hdebouncer, hl.stopped]

end Work

/-- What becomes of what is held back when events arrive, and what stays as it is. -/
structure Told (sent : List (Spec × FileEvent)) (w w' : World ν) : Prop where
  tree : w'.tree = w.tree
  account : w'.account = w.account
  store : w'.session.index.store = w.session.index.store
  config : w'.session.config = w.session.config
  subscribed : w'.subscribed = w.subscribed
  flushing : w'.session.debouncer.flushing = false
  stopped : w'.session.debouncer.stopped = false
  once : (w'.session.debouncer.pending.map (·.path)).Nodup
  pending : ∀ x ∈ w'.session.debouncer.pending,
    (x ∈ w.session.debouncer.pending ∧ x.path ∉ sent.map (·.2.path)) ∨
      ∃ y ∈ sent, x = ⟨y.2.kind, y.2.path, y.1⟩

theorem told_tell {sent : List (Spec × FileEvent)}
    (htakes : ∀ y ∈ sent, y.1.takes w.tree y.2.path = true)
    (hf : w.session.debouncer.flushing = false) (hs : w.session.debouncer.stopped = false)
    (hn : (w.session.debouncer.pending.map (·.path)).Nodup) : Told sent w (w.tell sent) := by
  induction sent generalizing w with
  | nil => exact ⟨rfl, rfl, rfl, rfl, rfl, hf, hs, hn, fun x hx => .inl ⟨hx, by simp⟩⟩
  | cons y rest ih =>
    obtain ⟨spec, event⟩ := y
    obtain ⟨m, hm⟩ := Spec.takes_iff.mp (htakes (spec, event) List.mem_cons_self)
    have hreceive := Session.receive_of_matchPath w.session event hm
    have hpending : (w.deliver spec event []).session.debouncer.pending =
        Debouncer.hold ⟨event.kind, event.path, spec⟩ w.session.debouncer.pending := by
      simp only [World.deliver, hreceive, Debouncer.pending_submit _ hs]
    have hrest := ih (w := w.deliver spec event []) (fun y hy =>
      htakes y (List.mem_cons_of_mem _ hy))
      (by simp only [World.deliver, hreceive, Debouncer.flushing_submit, hf])
      (by simp only [World.deliver, hreceive, Debouncer.stopped_submit, hs])
      (by rw [hpending]; exact Debouncer.nodup_hold _ hn)
    refine ⟨hrest.tree, hrest.account, ?_, ?_, ?_, hrest.flushing, hrest.stopped, hrest.once,
      fun x hx => ?_⟩
    · refine hrest.store.trans ?_
      simp only [World.deliver, hreceive]
    · refine hrest.config.trans ?_
      simp only [World.deliver, hreceive]
    · refine hrest.subscribed.trans ?_
      simp only [World.deliver, World.subscribed, hreceive]
    · rcases hrest.pending x hx with ⟨hin, hnot⟩ | ⟨y, hy, rfl⟩
      · rw [hpending] at hin
        by_cases hpath : event.path = x.path
        · -- The event has taken the place of what was held back for its file.
          have hfilter : x ∈ (Debouncer.hold ⟨event.kind, event.path,
            spec⟩ w.session.debouncer.pending).filter
              (·.path = x.path) := List.mem_filter.mpr ⟨hin, by simp⟩
          rw [filter_hold _ hn, if_pos hpath, List.mem_singleton] at hfilter
          exact .inr ⟨(spec, event), List.mem_cons_self, hfilter⟩
        · rcases Debouncer.mem_hold hin with rfl | hin
          · exact absurd rfl hpath
          · refine .inl ⟨hin, ?_⟩
            rw [List.map_cons, List.mem_cons, not_or]
            exact ⟨Ne.symm hpath, hnot⟩
      · exact .inr ⟨y, List.mem_cons_of_mem _ hy, rfl⟩

theorem afoot_shift (hl : Afoot known env specs l) {r : FileReport}
    (hs : Steady known specs l.world.tree t)
    (hc : Change known l.world.tree t r) (hsurvey : Surveyed known t specs) :
    Afoot known env specs { l with world := l.world.shift t r } := by
  have hsent : ∀ y ∈ deliveries l.world.subscribed t (r.events false),
      y.2 ∈ r.events false ∧ y.1 ∈ l.world.subscribed ∧ y.1.takes t y.2.path = true := by
    intro y hy
    obtain ⟨event, hevent, hy⟩ := List.mem_flatMap.mp hy
    obtain ⟨spec, hspec, rfl⟩ := List.mem_map.mp hy
    rw [List.mem_filter] at hspec
    exact ⟨hevent, hspec⟩
  have htold := told_tell (w := { l.world with tree := t }) (fun y hy => (hsent y hy).2.2)
    hl.flushing hl.stopped
    hl.once
  have hf := hc.faithful
  have hgrounded : Grounded known t := ⟨hs.canonical, hl.grounded.clashFree⟩
  have htree : (l.world.shift t r).tree = t := htold.tree
  have hsubscribed : (l.world.shift t r).subscribed = l.world.subscribed := htold.subscribed
  refine ⟨?_, ?_, ?_, ?_, ?_, ?_, ?_, ?_, htold.once, htold.flushing, htold.stopped⟩
  · simp only [htree, hgrounded]
  · simp only [htree, hl.apart.steady hl.grounded hs]
  · simp only [htree, hsurvey]
  · simp only [World.shift, htold.store, htold.account]
    exact hl.inspected
  · simp only [World.shift, htold.config]
    exact hl.config
  · intro task htask
    rw [htree]
    exact (hl.tasks task htask).steady hl.grounded hs
  · simp only [hsubscribed]
    exact hl.subscribed
  · intro x hx
    rcases htold.pending x hx with ⟨hold, hnot⟩ | ⟨y, hy, rfl⟩
    · obtain ⟨hdue, hsub, hgone⟩ := hl.held x hold
      have htakes : x.spec.takes t x.path = true :=
        (hs.takes hl.grounded hdue.spec hdue.path).trans hdue.takes
      have hquiet : x.path ∉ (r.events false).map (·.path) := by
        intro hmem
        obtain ⟨event, hevent, hpath⟩ := List.mem_map.mp hmem
        refine hnot (List.mem_map.mpr ⟨(x.spec, event), ?_, hpath⟩)
        refine List.mem_flatMap.mpr ⟨event, hevent,
          List.mem_map_of_mem (List.mem_filter.mpr ⟨hsub, ?_⟩)⟩
        rw [hpath]
        exact htakes
      refine ⟨⟨hdue.path, hdue.kind, hdue.spec, ?_⟩, hsubscribed ▸ hsub, ?_⟩
      · rw [htree]
        exact htakes
      · rw [htree, hf.others x.path hdue.path hquiet]
        exact hgone
    · obtain ⟨hevent, hsub, htakes⟩ := hsent y hy
      obtain ⟨hk, hkind⟩ := hf.kinds y.2 hevent
      refine ⟨⟨hk, hkind, hl.subscribed _ hsub, ?_⟩, hsubscribed ▸ hsub, ?_⟩
      · rw [htree]
        exact htakes
      · rw [htree]
        exact hf.gone y.2 hevent

theorem afoot_drain (hr : ∀ id, env.engine.refuse id = none)
    (hb : ∀ spec ∈ specs, env.engine.registry.Builtin spec.strategy) (hl : Afoot known env specs l)
    {d : Debouncer Spec} {any : Bool} (hd : Debouncer.Drained l.world.session.debouncer d any) :
    Afoot known env specs { l with world := l.world.drain env.engine d any } := by
  refine ⟨hl.grounded, hl.apart, hl.surveyed, ?_, hl.config, hl.tasks, hl.subscribed, ?_, ?_,
    hd.flushing,
    hd.stopped.trans hl.stopped⟩
  · cases any with
    | false => exact hl.inspected
    | true =>
      exact hl.inspected.worldAfter hl.grounded hl.apart hr hb fun x hx =>
        ⟨(hl.held x hx).due, (hl.held x hx).gone.mp⟩
  · intro x (hx : x ∈ d.pending)
    rw [hd.pending] at hx
    split_ifs at hx
    · simp at hx
    · obtain ⟨hdue, hsub, hgone⟩ := hl.held x hx
      exact ⟨hdue, hsub, hgone⟩
  · change (d.pending.map (·.path)).Nodup
    rw [hd.pending]
    split_ifs
    · exact List.nodup_nil
    · exact hl.once

theorem afoot_run (hr : ∀ id, env.engine.refuse id = none)
    (hb : ∀ spec ∈ specs, env.engine.registry.Builtin spec.strategy) (hl : Afoot known env specs l)
    (hrun : Relation.ReflTransGen (Launch.Next known env specs) l l') :
    Afoot known env specs l' := by
  induction hrun with
  | refl => exact hl
  | tail _ hstep ih =>
    cases hstep with
    | work h => exact afoot_perform hr hb ih h
    | change hs hc hsurvey => exact afoot_shift ih hs hc hsurvey
    | wait ms =>
      obtain ⟨d, any, hd, hw⟩ := World.wait_eq (e := env.engine) ms ih.flushing
      rw [hw]
      exact afoot_drain hr hb ih hd

theorem FileTree.content_empty (path : String) : (⟨[], []⟩ : FileTree).content path = none := by
  have hentry : ∀ place, FileTree.entry? ⟨[], []⟩ place = none ∨ FileTree.entry? ⟨[], []⟩ place =
      some .dir := by
    intro place
    unfold entry?
    split_ifs
    · exact .inr rfl
    · exact .inl rfl
  have hread : ∃ f, (⟨[], []⟩ : FileTree).read (Path.clean path) = .error f := by
    unfold read at?
    cases (⟨[], []⟩ : FileTree).find true (Path.clean path) with
    | error f => exact ⟨f, rfl⟩
    | ok place =>
      rcases hentry place with h | h
      · exact ⟨.notFound, by simp [bind, Except.bind, h]⟩
      · exact ⟨.isDirectory, by simp [bind, Except.bind, h]⟩
  obtain ⟨f, hf⟩ := hread
  rw [content_eq_none, bytesAt, hf]
  split_ifs
  · exact ⟨_, rfl⟩
  · exact ⟨_, rfl⟩

theorem afoot_initial {config : Config} {s : Session ν} (hnew : Session.new config = .ok s)
    (hspecs : config.compileSources env.engine.registry = .ok specs) (hg : Grounded known t)
    (ha : Apart known t specs) (hsurvey : Surveyed known t specs) :
    Afoot known env specs (.initial s t) := by
  obtain ⟨stats, interval, rfl⟩ := new_eq hnew
  refine ⟨hg, ha, hsurvey, ⟨?_, List.nodup_nil, fun path _ => ⟨fun q => ?_, ?_⟩⟩, hspecs, ?_, ?_,
    ?_, List.nodup_nil,
    rfl, rfl⟩
  · intro q hq
    simp [Launch.initial, Index.empty] at hq
  · -- Before it is looked at, no file has any bytes.
    have hnone : ¬ Expected env.engine ⟨[], []⟩ specs path q := by
      rintro ⟨spec, -, m, -, hq⟩
      rw [Engine.pointsFor_of_content_none (FileTree.content_empty _)] at hq
      simp at hq
    simp [Launch.initial, Index.empty, hnone]
  · simp [Launch.initial]
  · simp [Launch.initial, Task.Sound]
  · simp [Launch.initial, World.subscribed]
  · simp [Launch.initial]

/-- At any time of a start-up and after it, once what is held back was followed: a file has what its
bytes now give it exactly if it had the same when it was last looked at, together with what was left
in place then. It has so if its last event was held back and was not its appearance, and it has so
if it is as it was when it was last looked at and nothing was left in place. -/
theorem started_current_iff {config : Config} {s : Session ν} (hnew : Session.new config = .ok s)
    (hspecs : config.compileSources env.engine.registry = .ok specs)
    (hr : ∀ id, env.engine.refuse id = none)
    (hb : ∀ spec ∈ specs, env.engine.registry.Standard spec.strategy) (hg : Grounded known t)
    (ha : Apart known t specs) (hsurvey : Surveyed known t specs)
    (hrun : Relation.ReflTransGen (Launch.Next known env specs) (.initial s t) l) {path : String}
    (hk : known path) :
    ((∀ q, q ∈ (l.world.session.flush env.engine l.world.tree).1.index.store ∧ isOf path q = true ↔
        Expected env.engine l.world.tree specs path q) ↔
      ∀ q, Expected env.engine l.world.tree specs path q ↔
        Expected env.engine ((l.world.flush env.engine).account.seen path) specs path q ∨
          q ∈ (l.world.flush env.engine).account.left path) ∧
    ((∃ x ∈ l.world.session.debouncer.pending, x.path = path ∧ x.kind ≠ "create") →
      ∀ q, q ∈ (l.world.session.flush env.engine l.world.tree).1.index.store ∧ isOf path q = true ↔
        Expected env.engine l.world.tree specs path q) ∧
    (Unchanged specs ((l.world.flush env.engine).account.seen path) l.world.tree path →
      ((l.world.flush env.engine).account.seen path).nameAt path = l.world.tree.nameAt path →
      (l.world.flush env.engine).account.left path = [] →
        ∀ q, q ∈ (l.world.session.flush env.engine l.world.tree).1.index.store ∧
        isOf path q = true ↔
          Expected env.engine l.world.tree specs path q) := by
  have hbuiltin : ∀ spec ∈ specs, env.engine.registry.Builtin spec.strategy :=
    fun s hs => (hb s hs).builtin
  have hl := afoot_run hr hbuiltin (afoot_initial hnew hspecs hg ha hsurvey) hrun
  obtain ⟨d, hd, hflush⟩ := World.flush_eq (e := env.engine) hl.flushing
  have hend := afoot_drain hr hbuiltin hl hd
  rw [← hflush] at hend
  have hmem := (hend.inspected.settled path hk).1
  have hiff : ((∀ q, q ∈ (l.world.session.flush env.engine l.world.tree).1.index.store ∧
    isOf path q = true ↔
        Expected env.engine l.world.tree specs path q) ↔
      ∀ q, Expected env.engine l.world.tree specs path q ↔
        Expected env.engine ((l.world.flush env.engine).account.seen path) specs path q ∨
          q ∈ (l.world.flush env.engine).account.left path) :=
    forall_congr' fun q => ⟨fun h => h.symm.trans (hmem q), fun h => (hmem q).trans h.symm⟩
  refine ⟨hiff, ?_, fun hsame hname hleft => hiff.mpr fun q => ?_⟩
  · rintro ⟨x, hx, rfl, hcreate⟩
    have haccount : (l.world.flush env.engine).account =
      ((tracking env.engine l.world.tree).worldAfter
        (l.world.session.index, l.world.account) l.world.session.debouncer.pending).2 := by
      rw [hflush]
      rfl
    have honce : ∀ y ∈ l.world.session.debouncer.pending, y.path = x.path → y.kind ≠ "create" := by
      intro y hy hpath
      obtain rfl := List.inj_on_of_nodup_map hl.once hy hx hpath
      exact hcreate
    have hpath : x.path ∈ l.world.session.debouncer.pending.map (·.path) := List.mem_map_of_mem hx
    refine hiff.mpr fun q => ?_
    rw [haccount, seen_worldAfter, if_pos hpath, left_worldAfter _ _ _ _ honce (.inl hpath)]
    simp
  · rw [hleft, hsame.expected hl.grounded hb hk hname q]
    simp

end

/-! ## A file that goes before it is subscribed to -/

namespace Sole

/-- What can happen while the session over the one file starts. -/
abbrev Starting : Launch Unit → Launch Unit → Prop :=
  Relation.ReflTransGen (Launch.Next (· = "/a") env [spec])

theorem starting_of_steps {l l' : Launch Unit} (h : l.Steps env l') : Starting l l' :=
  Relation.ReflTransGen.mono (fun _ _ h => .work h) _ _ h

theorem walk_bare (fuel : Nat) (top : String) (place : Location) :
    bare.walk fuel top place = [] := by
  cases fuel with
  | zero => rfl
  | succ fuel =>
    simp [FileTree.walk, FileTree.childNames, FileTree.sortNames, Value.sortTexts, bare]

theorem matchFiles_bare : spec.matchFiles bare = .ok [] := by
  have hclean : Path.clean "/a" = "/a" := by decide +kernel
  have hat : bare.at? "/a" = .error .notFound := by cbv
  have hbelow : bare.filesBelow (Path.parent "/a") = [] := by
    unfold FileTree.filesBelow
    split <;> simp [walk_bare]
  simp [Spec.matchFiles, direct_spec.program linkless_bare, PathSpec.baseOf, hclean,
    FileTree.isTooLong, hat, Spec.candidates, FileTree.isFile, FileTree.isDir, hbelow,
    Spec.matchAll]

theorem surveyed_bare : Surveyed (· = "/a") bare [spec] := by
  intro s hs
  obtain rfl := List.mem_singleton.mp hs
  refine ⟨[], matchFiles_bare, by simp, ?_⟩
  rintro path m rfl hcontent -
  exact absurd content_bare hcontent

theorem reach_ingested : ∃ l, Starting (.initial idle (holding [97, 98, 99])) l ∧
    l.tasks = [.subscribe spec, .finish] ∧ l.world.tree = holding [97, 98, 99] ∧
    l.world.session = { idle with
      specs := [spec], index :=
        (idle.index.ingest env.engine (holding [97, 98, 99]) [spec]).1 } := by
  have hcompile : Task.compile.run env (holding [97, 98, 99]) idle =
      some ({ idle with specs := [spec], index := idle.index.registerSources [spec] },
        [.look spec, .subscribe spec, .finish], []) := by
    have hconfig : idle.config = config := rfl
    have hidle : idle.started = false := rfl
    simp [Task.run, hidle, hconfig, compile_config, check_spec]
  obtain ⟨⟨report, hreport⟩, -, -⟩ := Index.sound_ingest (i := idle.index) (fun _ => rfl)
    (grounded_holding [97, 98, 99]) (fun _ _ => (Registry.standard_builtin _).builtin)
    (surveyed_holding [97, 98, 99]) check_spec rfl
  simp only [Index.ingest, check_spec] at hreport ⊢
  cases hresults : ((idle.index.registerSources [spec]).ingestSpecs env.engine
    (holding [97, 98, 99]) [spec]).2 with
  | error f => simp [hresults, Except.map] at hreport
  | ok results =>
    obtain ⟨l₁, hrun₁, htree₁, hsession₁, htasks₁, -⟩ :=
      Launch.steps_of_run env (l := .initial idle (holding [97, 98, 99])) rfl hcompile
    have htree₁ : l₁.world.tree = holding [97, 98, 99] := htree₁
    obtain ⟨l₂, hrun₂, htree₂, hsession₂, htasks₂, -⟩ := Launch.steps_look env
      (show l₁.tasks = [spec].map .look ++ [.subscribe spec, .finish] from htasks₁)
      (by rw [hsession₁, htree₁]; exact hresults)
    refine ⟨l₂, starting_of_steps (hrun₁.trans hrun₂), htasks₂, htree₂.trans htree₁, ?_⟩
    rw [hsession₂, hsession₁, htree₁]

theorem reach_missed : ∃ l, Starting (.initial idle (holding [97, 98, 99])) l ∧ l.tasks = [] ∧
    l.world.tree = bare ∧ l.world.subscribed = [spec] ∧ l.world.session.debouncer = idle.debouncer ∧
    l.world.session.index.store =
      (idle.index.ingest env.engine (holding [97, 98, 99]) [spec]).1.store := by
  obtain ⟨l, hrun, htasks, htree, hsession⟩ := reach_ingested
  have hnone : l.world.subscribed = [] := by
    rw [World.subscribed, hsession]
    rfl
  have hshift : l.world.shift bare (.deleted "/a") = { l.world with tree := bare } := by
    simp [World.shift, World.tell, deliveries, FileReport.events, hnone]
  have hchange : Starting l { l with world := { l.world with tree := bare } } := by
    rw [← hshift]
    refine .single (.change ?_ ?_ surveyed_bare)
    · rw [htree]
      exact .of_linkless (grounded_holding _) (linkless_holding _) linkless_bare
    · rw [htree]
      exact .remove rfl (content_holding _) content_bare fun _ h hne => absurd h hne
  have htarget : spec.watchTarget bare = .ok ("/", false) := by decide +kernel
  have hwatch : spec.watch = true := rfl
  have hrefuse : env.refuseRoot "/" = none := rfl
  have hsubscribe : (Task.subscribe spec).run env bare l.world.session =
    some ({ l.world.session with
      subscriptions := l.world.session.subscriptions ++ [⟨"/", false, spec⟩]
      handles := l.world.session.handles ++ [l.world.session.subscriptions.length]
      watched := l.world.session.watched ++ [spec.path] }, [], []) := by
    simp [Task.run, Session.watch, hwatch, htarget, hrefuse]
  obtain ⟨l₁, hrun₁, htree₁, hsession₁, htasks₁, -⟩ :=
    Launch.steps_of_run env (l := { l with world := { l.world with tree := bare } }) htasks
      hsubscribe
  obtain ⟨l₂, hrun₂, htree₂, hsession₂, htasks₂, -⟩ :=
    Launch.steps_of_run env htasks₁ (by rw [Task.run])
  refine ⟨l₂, (hrun.trans hchange).trans (starting_of_steps (hrun₁.trans hrun₂)), htasks₂,
    htree₂.trans htree₁, ?_, ?_, ?_⟩
  · rw [World.subscribed, hsession₂, hsession₁, hsession]
    rfl
  · rw [hsession₂, hsession₁, hsession]
    rfl
  · rw [hsession₂, hsession₁, hsession]
    rfl

/-- Whether the file is current here depends on when it was last looked at. -/
theorem missed_current_iff : ∃ l, Starting (.initial idle (holding [97, 98, 99])) l ∧ l.tasks = [] ∧
    ((∀ q, q ∈ (l.world.session.flush env.engine l.world.tree).1.index.store ∧ isOf "/a" q = true ↔
        Expected env.engine l.world.tree [spec] "/a" q) ↔
      ∀ q, Expected env.engine l.world.tree [spec] "/a" q ↔
        Expected env.engine ((l.world.flush env.engine).account.seen "/a") [spec] "/a" q ∨
          q ∈ (l.world.flush env.engine).account.left "/a") ∧
    ((∃ x ∈ l.world.session.debouncer.pending, x.path = "/a" ∧ x.kind ≠ "create") →
      ∀ q, q ∈ (l.world.session.flush env.engine l.world.tree).1.index.store ∧ isOf "/a" q = true ↔
        Expected env.engine l.world.tree [spec] "/a" q) ∧
    (Unchanged [spec] ((l.world.flush env.engine).account.seen "/a") l.world.tree "/a" →
      ((l.world.flush env.engine).account.seen "/a").nameAt "/a" = l.world.tree.nameAt "/a" →
      (l.world.flush env.engine).account.left "/a" = [] →
        ∀ q, q ∈ (l.world.session.flush env.engine l.world.tree).1.index.store ∧
        isOf "/a" q = true ↔
          Expected env.engine l.world.tree [spec] "/a" q) := by
  obtain ⟨l, hrun, htasks, -⟩ := reach_missed
  exact ⟨l, hrun, htasks, started_current_iff new_config compile_config (fun _ => rfl)
    (fun _ _ => Registry.standard_builtin _) (grounded_holding _) (apart_spec _)
    (surveyed_holding _) hrun rfl⟩

/-- The points of the removed file stay, although its spec is subscribed to. -/
theorem missed_stale : ∃ l, Starting (.initial idle (holding [97, 98, 99])) l ∧ l.tasks = [] ∧
    l.world.subscribed = [spec] ∧ l.world.tree.content "/a" = none ∧
    ¬ ∀ q, q ∈ (l.world.session.flush env.engine l.world.tree).1.index.store ∧ isOf "/a" q = true ↔
      Expected env.engine l.world.tree [spec] "/a" q := by
  obtain ⟨l, hrun, htasks, htree, hsubscribed, hdebouncer, hstore⟩ := reach_missed
  refine ⟨l, hrun, htasks, hsubscribed, by rw [htree]; exact content_bare, fun hall => ?_⟩
  have hlength : (env.engine.pointsFor (holding [97, 98, 99]) spec found).length = 3 := by decide +kernel
  obtain ⟨q, hq⟩ : ∃ q, q ∈ env.engine.pointsFor (holding [97, 98, 99]) spec found :=
    List.length_pos_iff_exists_mem.mp (by rw [hlength]; decide)
  have hisof : isOf "/a" q = true :=
    ((Engine.pointsFor_spec (Registry.standard_builtin _).builtin).1 q hq).1
  have hkept : q ∈ (l.world.session.flush env.engine l.world.tree).1.index.store := by
    have hflushing : l.world.session.debouncer.flushing = false := by rw [hdebouncer]; rfl
    have hpending : l.world.session.debouncer.pending = [] := by rw [hdebouncer]; rfl
    simp only [Session.flush, Debouncer.flush_quiet (quiet_handler _ _) hflushing, hpending,
      Session.withDebounced, Handler.worldAfter, List.foldl_nil, hstore]
    exact ((mem_ingest_holding rfl [97, 98, 99]).2 q).mpr hq
  obtain ⟨s, hs, m, hm, hin⟩ := (hall q).mp ⟨hkept, hisof⟩
  obtain rfl := List.mem_singleton.mp hs
  rw [htree, matchPath_spec linkless_bare] at hm
  obtain rfl := Option.some.inj (Except.ok.inj hm)
  rw [htree, Engine.pointsFor_of_content_none (m := found) content_bare] at hin
  simp at hin

end Sole

end SegmentIndex
