import SegmentIndex.Proofs.Convergence

/-!
# Starting up step by step

A session starts in steps: it compiles its sources, looks for the files of one spec after the other
and ingests each of them, and then subscribes for one spec after the other. Between any two steps
files may change, of which only the subscriptions that are there by then are told, and time may
pass. When nothing happens in between, the steps come to what starting at once comes to.
-/
namespace SegmentIndex

variable {ν : Type}

/-- A step of a start-up. -/
inductive Task where
  | compile
  | look (spec : Spec)
  | ingest (spec : Spec) (m : MatchedFile)
  | subscribe (spec : Spec)
  | finish
  deriving DecidableEq, Repr

namespace Task

/-- Does a task: the session, the tasks that follow from it, and what became of a
file. Nothing comes of a task that fails. -/
def run (env : Surroundings ν) (t : FileTree) (s : Session ν) :
    Task → Option (Session ν × List Task × List FileResult)
  | .compile =>
    if s.started then none
    else
      match s.config.compileSources env.engine.registry with
      | .error _ => none
      | .ok specs =>
        match Index.checkSpecs env.engine.registry specs with
        | .error _ => none
        | .ok _ =>
          some ({ s with specs := specs, index := s.index.registerSources specs },
            specs.map .look ++ specs.map .subscribe ++ [.finish], [])
  | .look spec =>
    match spec.matchFiles t with
    | .error _ => none
    | .ok found => some (s, found.map (.ingest spec), [])
  | .ingest spec m =>
    let done := (s.index.seeCaptures spec m).ingestFor env.engine t true spec m
    some ({ s with index := done.1 }, [], [done.2])
  | .subscribe spec =>
    match s.watch env t spec with
    | (_, .error _) => none
    | (s, .ok _) => some (s, [], [])
  | .finish => some ({ s.noteWatching (!s.watched.isEmpty) s.watched with started := true }, [], [])

/-- The account after a task: ingesting a file is to look at it, and
leaves in place what it does not replace. -/
def note (e : Engine ν) (t : FileTree) (store : PointStore ν) : Task → Account ν → Account ν
  | .ingest spec m, a => a.note e t ⟨"create", m.path, spec⟩ store
  | _, a => a

end Task

/-- A session that starts among some files: what is still to be
done, and what became of the files so far. -/
structure Launch (ν : Type) where
  world : World ν
  tasks : List Task := [.compile]
  results : List FileResult := []

namespace Launch

/-- A session that is about to start; no file was looked at yet. -/
def initial (s : Session ν) (t : FileTree) : Launch ν where
  world := { session := s, tree := t, account := { seen := fun _ => ⟨[], []⟩ } }

/-- Does the first task. -/
def perform (env : Surroundings ν) (l : Launch ν) : Option (Launch ν) :=
  match l.tasks with
  | [] => none
  | task :: rest =>
    (task.run env l.world.tree l.world.session).map fun (session, more, results) =>
      { world := { l.world with
          session := session
          account := task.note env.engine l.world.tree l.world.session.index.store l.world.account }
        tasks := more ++ rest
        results := l.results ++ results }

end Launch

namespace World

/-- Events arrive one after the other. -/
def tell (sent : List (Spec × FileEvent)) (w : World ν) : World ν :=
  sent.foldl (fun w x => w.deliver x.1 x.2 []) w

/-- The files change, and the subscriptions that are there are told at once. -/
def shift (t : FileTree) (r : FileReport) (w : World ν) : World ν :=
  { w with tree := t }.tell (deliveries w.subscribed t (r.events false))

end World

/-- What can happen while a session starts: the next task is done, files change, or time passes. -/
inductive Launch.Next (known : String → Prop) (env : Surroundings ν) (specs : List Spec) :
    Launch ν → Launch ν → Prop where
  | work {l l' : Launch ν} (h : l.perform env = some l') : Next known env specs l l'
  | change {l : Launch ν} {t : FileTree} {r : FileReport} (hs : Steady known specs l.world.tree t)
      (hc : Change known l.world.tree t r) (hsurvey : Surveyed known t specs) :
      Next known env specs l { l with world := l.world.shift t r }
  | wait {l : Launch ν} (ms : Nat) : Next known env specs l { l with
    world := l.world.wait env.engine ms }

/-! ## Starting at once -/

section Steps

variable (env : Surroundings ν) {t : FileTree}

/-- Tasks done one after the other. -/
abbrev Launch.Steps : Launch ν → Launch ν → Prop :=
  Relation.ReflTransGen fun l l' => l.perform env = some l'

theorem Launch.steps_of_run {l : Launch ν} {task : Task} {rest more : List Task} {s : Session ν}
    {results : List FileResult} (hl : l.tasks = task :: rest)
    (h : task.run env l.world.tree l.world.session = some (s, more, results)) :
    ∃ l', l.Steps env l' ∧ l'.world.tree = l.world.tree ∧ l'.world.session = s ∧
      l'.tasks = more ++ rest ∧
      l'.results = l.results ++ results := by
  have hp : l.perform env = some
      { world := { l.world with
          session := s
          account := task.note env.engine l.world.tree l.world.session.index.store l.world.account }
        tasks := more ++ rest
        results := l.results ++ results } := by
    simp only [perform, hl, h, Option.map_some]
  exact ⟨_, .single hp, rfl, rfl, rfl, rfl⟩

theorem Task.run_ingest (s : Session ν) (spec : Spec) (m : MatchedFile) :
    (Task.ingest spec m).run env t s = some
      ({ s with index := ((s.index.seeCaptures spec m).ingestFor env.engine t true spec m).1 }, [],
        [((s.index.seeCaptures spec m).ingestFor env.engine t true spec m).2]) := by
  simp only [Task.run]

theorem Launch.steps_ingest {spec : Spec} {found : List MatchedFile} {l : Launch ν}
    {rest : List Task} (hl : l.tasks = found.map (.ingest spec) ++ rest) :
    ∃ l', l.Steps env l' ∧ l'.world.tree = l.world.tree ∧
      l'.world.session = { l.world.session with
        index := (l.world.session.index.ingestMatches env.engine l.world.tree spec found).1 } ∧
      l'.tasks = rest ∧
      l'.results = l.results ++
        (l.world.session.index.ingestMatches env.engine l.world.tree spec found).2 := by
  induction found generalizing l with
  | nil => exact ⟨l, .refl, rfl, rfl, hl, by simp [Index.ingestMatches]⟩
  | cons m more ih =>
    obtain ⟨l₁, hrun, htree, hsession, htasks, hresults⟩ :=
      steps_of_run env hl (Task.run_ingest env _ spec m)
    obtain ⟨l₂, hrun', htree', hsession', htasks', hresults'⟩ := ih htasks
    refine ⟨l₂, hrun.trans hrun', htree'.trans htree, ?_, htasks', ?_⟩
    · rw [hsession', hsession, htree, Index.ingestMatches]
    · rw [hresults', hresults, hsession, htree, Index.ingestMatches, List.append_assoc,
        List.singleton_append]

theorem Launch.steps_look {specs : List Spec} {l : Launch ν} {rest : List Task}
    (hl : l.tasks = specs.map .look ++ rest) {results : List FileResult}
    (h : (l.world.session.index.ingestSpecs env.engine l.world.tree specs).2 = .ok results) :
    ∃ l', l.Steps env l' ∧ l'.world.tree = l.world.tree ∧
      l'.world.session = { l.world.session with
        index := (l.world.session.index.ingestSpecs env.engine l.world.tree specs).1 } ∧
      l'.tasks = rest ∧ l'.results = l.results ++ results := by
  induction specs generalizing l results with
  | nil =>
    rw [Index.ingestSpecs, Except.ok.injEq] at h
    exact ⟨l, .refl, rfl, rfl, hl, by rw [← h, List.append_nil]⟩
  | cons spec more ih =>
    rw [Index.ingestSpecs] at h ⊢
    cases hf : spec.matchFiles l.world.tree with
    | error f => simp [hf] at h
    | ok found =>
      simp only [hf] at h ⊢
      have hlook : (Task.look spec).run env l.world.tree l.world.session =
          some (l.world.session, found.map (.ingest spec), []) := by
        simp only [Task.run, hf]
      obtain ⟨l₁, hrun₁, htree₁, hsession₁, htasks₁, hresults₁⟩ := steps_of_run env hl hlook
      obtain ⟨l₂, hrun₂, htree₂, hsession₂, htasks₂, hresults₂⟩ := steps_ingest env htasks₁
      rw [hsession₁, htree₁] at hsession₂ hresults₂
      cases hm :
        ((l.world.session.index.ingestMatches env.engine l.world.tree spec found).1.ingestSpecs
          env.engine l.world.tree more).2 with
      | error f => simp [hm, Except.map] at h
      | ok others =>
        simp only [hm, Except.map, Except.ok.injEq] at h
        have hothers : (l₂.world.session.index.ingestSpecs env.engine l₂.world.tree more).2 =
            .ok others := by
          rw [hsession₂, htree₂, htree₁]
          exact hm
        obtain ⟨l₃, hrun₃, htree₃, hsession₃, htasks₃, hresults₃⟩ :=
          ih htasks₂ hothers
        rw [hsession₂, htree₂, htree₁] at hsession₃
        refine ⟨l₃, (hrun₁.trans hrun₂).trans hrun₃, htree₃.trans (htree₂.trans htree₁), hsession₃,
          htasks₃, ?_⟩
        rw [hresults₃, hresults₂, hresults₁, ← h, List.append_nil, List.append_assoc]

theorem Launch.steps_subscribe {specs : List Spec} {l : Launch ν} {rest : List Task}
    (hl : l.tasks = specs.map .subscribe ++ rest) {s : Session ν}
    (h : l.world.session.watchAll env l.world.tree specs = (s, .ok ())) :
    ∃ l', l.Steps env l' ∧ l'.world.tree = l.world.tree ∧ l'.world.session = s ∧ l'.tasks = rest ∧
      l'.results = l.results := by
  induction specs generalizing l with
  | nil => exact ⟨l, .refl, rfl, (Prod.mk.inj h).1, hl, rfl⟩
  | cons spec more ih =>
    rw [Session.watchAll] at h
    rcases hw : l.world.session.watch env l.world.tree spec with ⟨s₁, f | u⟩
    · simp [hw] at h
    · simp only [hw] at h
      have hrun : (Task.subscribe spec).run env l.world.tree l.world.session =
          some (s₁, [], []) := by
        simp only [Task.run, hw]
      obtain ⟨l₁, hrun₁, htree₁, hsession₁, htasks₁, hresults₁⟩ := steps_of_run env hl hrun
      obtain ⟨l₂, hrun₂, htree₂, hsession₂, htasks₂, hresults₂⟩ :=
        ih htasks₁ (by rw [hsession₁, htree₁]; exact h)
      exact ⟨l₂, hrun₁.trans hrun₂, htree₂.trans htree₁, hsession₂, htasks₂,
        by rw [hresults₂, hresults₁, List.append_nil]⟩

/-- When nothing happens in between, the steps come to what starting at once comes to. -/
theorem Launch.steps_of_start {s s' : Session ν} {report : Report}
    (h : s.start env t = (s', .ok report)) :
    ∃ l, (initial s t).Steps env l ∧ l.world.tree = t ∧ l.world.session = s' ∧ l.tasks = [] ∧
      l.results = report.results := by
  unfold Session.start at h
  by_cases hstarted : s.started = true
  · simp [hstarted] at h
  rw [if_neg hstarted] at h
  cases hspecs : s.config.compileSources env.engine.registry with
  | error f => simp [hspecs] at h
  | ok specs =>
    simp only [hspecs, Index.ingest] at h
    cases hcheck : Index.checkSpecs env.engine.registry specs with
    | error f => simp [hcheck] at h
    | ok u =>
      simp only [hcheck] at h
      cases hres : ((s.index.registerSources specs).ingestSpecs env.engine t specs).2 with
      | error f => simp [hres, Except.map] at h
      | ok results =>
        simp only [hres, Except.map] at h
        split at h
        · simp at h
        · rename_i s₃ u hwatch
          obtain ⟨rfl, hreport⟩ := Prod.mk.inj h
          have hcompile : Task.compile.run env t s =
              some ({ s with specs := specs, index := s.index.registerSources specs },
                specs.map .look ++ specs.map .subscribe ++ [.finish], []) := by
            simp only [Task.run, if_neg hstarted, hspecs, hcheck]
          obtain ⟨l₁, hrun₁, htree₁, hsession₁, htasks₁, hresults₁⟩ :=
            steps_of_run env (l := initial s t) rfl hcompile
          obtain ⟨l₂, hrun₂, htree₂, hsession₂, htasks₂, hresults₂⟩ :=
            steps_look env (l := l₁) (by rw [htasks₁, List.append_assoc, List.append_assoc])
              (by rw [hsession₁, htree₁]; exact hres)
          obtain ⟨l₃, hrun₃, htree₃, hsession₃, htasks₃, hresults₃⟩ :=
            steps_subscribe env htasks₂
              (by rw [hsession₂, hsession₁, htree₂, htree₁]; exact hwatch)
          obtain ⟨l₄, hrun₄, htree₄, hsession₄, htasks₄, hresults₄⟩ :=
            steps_of_run env htasks₃ (by rw [hsession₃, Task.run])
          refine ⟨l₄, ((hrun₁.trans hrun₂).trans hrun₃).trans hrun₄, ?_, hsession₄, htasks₄, ?_⟩
          · rw [htree₄, htree₃, htree₂, htree₁]
            rfl
          · rw [hresults₄, hresults₃, hresults₂, hresults₁, ← Except.ok.inj hreport]
            simp [initial]

end Steps

end SegmentIndex
