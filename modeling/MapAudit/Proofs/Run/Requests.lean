import MapAudit.Proofs.Build.Writing
import MapAudit.Proofs.Run.Turns
import MapAudit.Run.Basic

/-! # What a run asks of the world

    A run can be told by the requests that take effect in it. All that it does to the world
    is done by them: performing them once more, one after another, leads to the same world.

    * The parts of a task ask only for what neither shows a diagnostic nor launches a program,
      but for the turn of the verification and for the tool, whatever the answers are.
    * In a turn the requests of a task take effect up to the one that it waits for, or that
      one does, or what a failure leaves to be done. In a schedule they do turn by turn.
    * If all tasks are confined to some requests, these and the removal of directories are
      all that takes effect.
-/

namespace MapAudit

open Activity

/-! ### Parts of a task -/

section Parts

variable {root tool p : Path} {scratch : Scratch} {flags : BuildFlags} {fixture : Fixture}

namespace Scratch

/-- A scratch directory that is made has the place of some number. -/
theorem asks_create (root : Path) :
    Asks Request.IsQuiet (create root) fun scratch =>
      ∃ number, scratch.path = pathOf root number := by
  unfold create
  apply Asks.bind (Asks.request trivial)
  intro number _
  apply Asks.bind (Asks.request trivial)
  intro occupied _
  have hmake : Asks Request.IsQuiet (do
      orFail (.io (pathOf root number)) (createAll (pathOf root number))
      (hold (pathOf root number) : ExceptT BuildError Activity Unit)
      return { path := pathOf root number, keep := false } :
        ExceptT BuildError Activity Scratch)
      fun scratch => ∃ number, scratch.path = pathOf root number :=
    Asks.bind (Asks.orFail (confined_request trivial)) fun _ _ =>
      Asks.bind (Asks.request trivial) fun _ _ => Asks.pure ⟨number, rfl⟩
  -- a leftover is removed first
  cases occupied with
  | true => exact Asks.bind (Asks.orFail (confined_request trivial)) fun _ _ => hmake
  | false => exact hmake

theorem confined_setKeep (scratch : Scratch) (keep : Bool) :
    Confined Request.IsQuiet (scratch.setKeep keep) fun scratch' =>
      scratch'.path = scratch.path := by
  cases keep with
  | true => exact (confined_request trivial).bind fun _ _ => .done rfl
  | false => exact (confined_request trivial).bind fun _ _ => .done rfl

theorem asks_remove (scratch : Scratch) :
    Asks Request.IsQuiet scratch.remove fun _ => True := by
  obtain ⟨path, keep⟩ := scratch
  cases keep with
  | true => exact Asks.pure trivial
  | false =>
    apply Asks.bind (Asks.request trivial)
    intro answer _
    cases answer with
    | ok u => exact Asks.request trivial
    | error fault =>
      have hdrop : Confined Request.IsQuiet (drop ⟨path, false⟩) fun _ => True :=
        (confined_request trivial).bind fun _ _ => confined_request trivial
      exact Asks.bind (Asks.lift hdrop) fun _ _ => Asks.throw

end Scratch

namespace Artifacts

theorem asks_readText (p : Path) : Asks Request.IsQuiet (readText p) fun _ => True := by
  apply Asks.bind (Asks.request trivial)
  intro answer _
  cases answer with
  | error fault => cases fault <;> exact Asks.throw
  | ok bytes =>
    dsimp only
    cases Text.decodeUtf8? bytes with
    | none => exact Asks.throw
    | some text => exact Asks.pure trivial

/-- Running the tool launches it on the entry file, and that is all. -/
theorem asks_runTool (tool : Path) (flags : BuildFlags) (directory : Path) (entry : FixtureFile) :
    Asks (· = .launch tool (flags.arguments entry.path) directory)
      (runTool tool flags directory entry) fun _ => True :=
  Asks.launchOrFail

/-- Building launches the tool in the scratch directory, and is quiet besides. -/
theorem asks_build (tool : Path) (fixture : Fixture) (flags : BuildFlags) (scratch : Scratch) :
    Asks (fun r => r.IsQuiet ∨ ∃ entry, fixture.entry? = some entry ∧
      r = .launch tool (flags.arguments entry.path) scratch.path)
      (build tool fixture flags scratch) fun _ => True := by
  unfold build
  apply Asks.bind ((asks_writeFiles _ _).mono (fun _ h => Or.inl h) fun _ h => h)
  intro _ _
  cases hentry : fixture.entry? with
  | none => exact Asks.throw
  | some entry =>
    have hread : ∀ p, Asks (fun r => r.IsQuiet ∨ ∃ entry', some entry = some entry' ∧
        r = .launch tool (flags.arguments entry'.path) scratch.path)
        (readText p) fun _ => True := fun p =>
      (asks_readText p).mono (fun _ h => Or.inl h) fun _ h => h
    refine Asks.bind ((asks_runTool _ _ _ _).mono (fun _ h => Or.inr ⟨entry, rfl, h⟩)
      fun _ h => h) ?_
    intro _ _
    exact Asks.bind (hread _) fun _ _ => Asks.bind (hread _) fun _ _ => Asks.pure trivial

end Artifacts

namespace Tool

theorem confined_searchAlong (directories : List Path) :
    Confined Request.IsQuiet (searchAlong directories) fun _ => True := by
  induction directories with
  | nil => exact .done trivial
  | cons directory rest ih =>
    refine (confined_request trivial).bind ?_
    intro found _
    cases found with
    | true => exact .done trivial
    | false => exact ih

theorem asks_find (given : Option Path) (root : Path) (searchPath : List Path) :
    Asks Request.IsQuiet (find given root searchPath) fun _ => True := by
  unfold find
  cases given with
  | some p =>
    apply Asks.bind (Asks.request trivial)
    intro found _
    cases found with
    | true => exact Asks.pure trivial
    | false => exact Asks.throw
  | none =>
    apply Asks.bind (Asks.request trivial)
    intro found _
    cases found with
    | true => exact Asks.pure trivial
    | false =>
      apply Asks.bind (Asks.lift (confined_searchAlong searchPath))
      intro answer _
      cases answer with
      | none => exact Asks.throw
      | some p => exact Asks.pure trivial

/-- Making the tool launches its maker in the directory of the tool, and that is all. -/
theorem asks_prepare (root : Path) :
    Asks (· = .launch maker [] root) (prepare root) fun _ => True :=
  Asks.launchOrFail

end Tool

end Parts

/-! ### Tasks -/

/-- What the tasks of a configuration **may ask** with a tool. -/
inductive Run.MayAsk (config : Config) (tool : Path) : Request → Prop where
  /-- They handle files, and numbers and places for them. -/
  | quiet {r : Request} (h : r.IsQuiet) : MayAsk config tool r
  /-- They show diagnostics. -/
  | report (d : Diagnostic) : MayAsk config tool (.report d)
  /-- They launch the tool, each on its own entry file and in a scratch directory. -/
  | launch {task : Task} {entry : FixtureFile} {number : Nat}
      (mem : task ∈ Task.ofConfig config)
      (first : Fixture.entry? (.ofVariant task.variant) = some entry) :
      MayAsk config tool (.launch tool (task.flags.arguments entry.path)
        (Scratch.pathOf config.scratchRoot number))

namespace Task

variable {config : Config} {tool : Path} {task : Task} {scratch : Scratch}

theorem asks_reports (reported : List Diagnostic) :
    Asks (Run.MayAsk config tool)
      (reported.forM fun d => (Activity.report d : ExceptT RunError Activity Unit))
      fun _ => True := by
  induction reported with
  | nil => exact Asks.pure trivial
  | cons d rest ih => exact Asks.bind (Asks.request (Run.MayAsk.report d)) fun _ _ => ih

theorem asks_verifyIn (hmem : task ∈ ofConfig config)
    (hscratch : ∃ number, scratch.path = Scratch.pathOf config.scratchRoot number) :
    Asks (Run.MayAsk config tool)
      (task.verifyIn (Fixture.ofVariant task.variant) tool scratch) fun _ => True := by
  obtain ⟨number, hpath⟩ := hscratch
  have hbuild : Asks (Run.MayAsk config tool)
      (Artifacts.build tool (Fixture.ofVariant task.variant) task.flags scratch)
      fun _ => True := by
    refine (Artifacts.asks_build _ _ _ _).mono ?_ fun _ h => h
    intro r hr
    rcases hr with hquiet | ⟨entry, hentry, rfl⟩
    · exact .quiet hquiet
    · rw [hpath]
      exact .launch hmem hentry
  unfold verifyIn
  apply Asks.bind (Asks.adapt hbuild)
  intro artifacts _
  apply Asks.bind (asks_reports _)
  intro _ _
  split
  · exact Asks.pure trivial
  · exact Asks.throw

/-- **Tasks** ask only what they may, whatever the answers are. -/
theorem asks_perform (hmem : task ∈ ofConfig config) :
    Asks (Run.MayAsk config tool) (task.perform config tool) fun _ => True := by
  have hquiet : ∀ {α ε : Type} {Q : α → Prop} {x : ExceptT ε Activity α},
      Asks Request.IsQuiet x Q → Asks (Run.MayAsk config tool) x Q := fun h =>
    h.mono (fun _ hr => .quiet hr) fun _ ha => ha
  unfold perform
  dsimp only
  split
  · exact Asks.throw
  · apply Asks.bind (Asks.adapt (hquiet (Scratch.asks_create _)))
    intro created hcreated
    refine Asks.bind (Asks.lift ((Scratch.confined_setKeep created config.keepScratch).mono
      (fun _ hr => .quiet hr) fun _ ha => ha)) ?_
    intro scratch hsame
    -- The directory is the one that was made, also when it is to be kept.
    have hverify : Asks (Run.MayAsk config tool)
        (task.verifyIn (Fixture.ofVariant task.variant) tool scratch) fun _ => True :=
      asks_verifyIn hmem (hsame ▸ hcreated)
    apply Asks.bind (Asks.lift (hverify.mono (fun _ h => h) fun _ _ => trivial))
    intro result _
    refine Asks.bind (Asks.lift (Confined.mono (hquiet (Scratch.asks_remove scratch))
      (fun _ h => h) fun _ _ => trivial)) ?_
    intro cleanup _
    split
    · exact Asks.throw
    · exact Asks.throw
    · exact Asks.pure trivial

end Task

/-! ### Performing requests once more -/

variable {host : Host}

namespace World

/-- **Replay**: the world after some requests, one after another. -/
def replay (host : Host) (w : World) (requests : List Request) : World :=
  requests.foldl (fun w r => (w.perform host r).2) w

theorem replay_append (w : World) (before after : List Request) :
    w.replay host (before ++ after) = (w.replay host before).replay host after :=
  List.foldl_append

end World

/-- An activity that has the world for itself changes it by what it asks. -/
theorem Activity.run_eq_replay {α : Type} (host : Host) (a : Activity α) (w : World) :
    (a.run host w).2 = w.replay host ((a.asked host w).map Prod.snd) := by
  induction a generalizing w with
  | done result => rfl
  | ask r next ih => exact ih (w.perform host r).1 (w.perform host r).2

/-! ### What takes effect in a turn -/

namespace Launched

variable {P : Request → Prop} {a : Activity (Except RunError Report)} {held : List Path} {w : World}

/-- What takes effect while a task is **at work**: its requests up to one that it waits for. -/
def effects (host : Host) : Activity (Except RunError Report) → World → List Request
  | .done _, _ => []
  | .ask r next, w =>
    if r.suspends then []
    else r :: effects host (next (w.perform host r).1) (w.perform host r).2

theorem work_eq_replay (a : Activity (Except RunError Report)) (held : List Path) (w : World) :
    (work host a held w).2 = w.replay host (effects host a w) := by
  induction a generalizing held w with
  | done result => rfl
  | ask r next ih =>
    unfold work effects
    by_cases hr : r.suspends = true
    · rw [if_pos hr, if_pos hr]
      rfl
    · rw [if_neg hr, if_neg hr]
      exact ih (w.perform host r).1 (r.holding held) (w.perform host r).2

/-- What takes effect when a task is **dropped**: the directories that it holds are removed. -/
def discards (launched : Launched) : List Request :=
  launched.held.map .discard

theorem drop_eq_replay (launched : Launched) (w : World) :
    (launched.drop host w).2 = w.replay host launched.discards := by
  unfold drop discards World.replay
  rw [List.foldl_map]

/-- Whether a launched task is **confined** to some requests. -/
def Confined (P : Request → Prop) (launched : Launched) : Prop :=
  match launched.progress with
  | .ready a => Activity.Confined P a fun _ => True
  | .waiting r next => P r ∧ ∀ answer, Activity.Confined P (next answer) fun _ => True
  | .ended _ | .gone => True

/-- **Work** of a confined task: what takes effect is as said, and the task goes on so. -/
theorem confined_work (h : Activity.Confined P a fun _ => True) (held : List Path) (w : World) :
    (work host a held w).1.Confined P ∧ ∀ r ∈ effects host a w, P r := by
  induction a generalizing held w with
  | done result => exact ⟨trivial, fun r hr => absurd hr List.not_mem_nil⟩
  | ask r next ih =>
    cases h with
    | ask request h =>
      unfold work effects
      by_cases hr : r.suspends = true
      · rw [if_pos hr, if_pos hr]
        exact ⟨⟨request, h⟩, fun r hr => absurd hr List.not_mem_nil⟩
      · rw [if_neg hr, if_neg hr]
        obtain ⟨hgoes, heffects⟩ :=
          ih (w.perform host r).1 (h _) (r.holding held) (w.perform host r).2
        exact ⟨hgoes, List.forall_mem_cons.2 ⟨request, heffects⟩⟩

end Launched

namespace Interleaving

variable {P : Request → Prop} {s s' : Interleaving} {turn : Turn} {turns : List Turn} {w : World}

theorem dropAll_eq_replay (tasks : List Launched) (w : World) :
    (dropAll host tasks w).2 = w.replay host (tasks.flatMap Launched.discards) := by
  induction tasks generalizing w with
  | nil => rfl
  | cons launched rest ih =>
    rw [List.flatMap_cons, World.replay_append, ← Launched.drop_eq_replay]
    exact ih (launched.drop host w).2

theorem of_mem_dropAll {tasks : List Launched} {r : Request}
    (h : r ∈ (dropAll host tasks w).1) :
    (∃ launched ∈ tasks, ∃ next, launched.progress = .waiting r next) ∧ r.outlivesTask = true := by
  induction tasks generalizing w with
  | nil => exact absurd h List.not_mem_nil
  | cons launched rest ih =>
    rcases List.mem_append.1 h with h | h
    · have hdrop : r ∈ (launched.drop host w).1 := h
      obtain ⟨hwaiting, houtlives⟩ := Launched.of_mem_drop hdrop
      exact ⟨⟨launched, List.mem_cons_self, hwaiting⟩, houtlives⟩
    · obtain ⟨⟨launched', hmem, hwaiting⟩, houtlives⟩ := ih h
      exact ⟨⟨launched', List.mem_cons_of_mem _ hmem, hwaiting⟩, houtlives⟩

/-- **Effects** of a turn: the requests that take effect in it, in their order. -/
def effects (host : Host) (s : Interleaving) : Turn → List Request
  | .work slot =>
    match s.tasks[slot]? with
    | some { progress := .ready a, held := _ } => Launched.effects host a s.world
    | _ => []
  | .answer slot =>
    match s.tasks[slot]? with
    | some { progress := .waiting r _, held := _ } => [r]
    | _ => []
  | .take slot =>
    match s.tasks[slot]? with
    | some { progress := .ended (.error _), held := _ } =>
      (s.tasks.set slot .taken).flatMap Launched.discards
    | _ => []
  | .settle index => s.orphans[index]?.toList

/-- **Step**: a turn changes the world by what takes effect in it. -/
theorem Steps.world_eq_replay (h : Steps host s turn s') :
    s'.world = s.world.replay host (s.effects host turn) := by
  cases h with
  | work ready =>
    simp only [effects, ready]
    exact Launched.work_eq_replay _ _ _
  | answer waiting =>
    simp only [effects, waiting]
    rfl
  | report ended =>
    simp only [effects, ended]
    rfl
  | failure ended =>
    simp only [effects, ended]
    exact dropAll_eq_replay _ _
  | settle left =>
    simp only [effects, left]
    rfl

/-! ### What takes effect in a schedule -/

/-- **Record** of a schedule: the requests that take effect in its turns, one after another. -/
def record (host : Host) (s : Interleaving) : List Turn → List Request
  | [] => []
  | turn :: rest =>
    s.effects host turn ++
      match s.step? host turn with
      | some s' => s'.record host rest
      | none => []

/-- A schedule begins with a turn and goes on from where it leads. -/
theorem after?_cons_eq_some_iff {rest : List Turn} :
    s.after? host (turn :: rest) = some s' ↔
      ∃ t, Steps host s turn t ∧ t.after? host rest = some s' := by
  simp only [after?, Option.bind_eq_some_iff, step?_eq_some_iff]

theorem record_cons {rest : List Turn} (h : Steps host s turn s') :
    s.record host (turn :: rest) = s.effects host turn ++ s'.record host rest := by
  simp only [record, step?_eq_some_iff.2 h]

/-- **Run**: a schedule changes the world by what takes effect in its turns. -/
theorem world_eq_replay (h : s.after? host turns = some s') :
    s'.world = s.world.replay host (s.record host turns) := by
  induction turns generalizing s with
  | nil =>
    obtain rfl := Option.some.inj h
    rfl
  | cons turn rest ih =>
    obtain ⟨t, hstep, hrest⟩ := after?_cons_eq_some_iff.1 h
    rw [record_cons hstep, World.replay_append, ← hstep.world_eq_replay]
    exact ih hrest

/-- A run is **confined** if its tasks are, and what is left of those that were dropped. -/
structure Confined (P : Request → Prop) (s : Interleaving) : Prop where
  tasks : ∀ launched ∈ s.tasks, launched.Confined P
  orphans : ∀ r ∈ s.orphans, P r

/-- Confined tasks stay so when one of them is changed to a confined one. -/
theorem Confined.tasks_set (hs : s.Confined P) {slot : Nat} {launched : Launched}
    (h : launched.Confined P) : ∀ other ∈ s.tasks.set slot launched, other.Confined P := by
  intro other hmem
  rcases List.mem_or_eq_of_mem_set hmem with hold | rfl
  · exact hs.tasks other hold
  · exact h

/-- **Step**: what takes effect in a turn of a confined run is as said, or removes a
    directory, and the run goes on so. -/
theorem Confined.step (hs : s.Confined P) (hdiscard : ∀ p, P (.discard p))
    (h : Steps host s turn s') : s'.Confined P ∧ ∀ r ∈ s.effects host turn, P r := by
  cases h with
  | work ready =>
    have htask : Activity.Confined P _ fun _ => True := hs.tasks _ (List.mem_of_getElem? ready)
    obtain ⟨hgoes, heffects⟩ := Launched.confined_work htask _ s.world
    simp only [effects, ready]
    exact ⟨⟨hs.tasks_set hgoes, hs.orphans⟩, heffects⟩
  | answer waiting =>
    obtain ⟨hrequest, hnext⟩ := hs.tasks _ (List.mem_of_getElem? waiting)
    simp only [effects, waiting]
    exact ⟨⟨hs.tasks_set (hnext _), hs.orphans⟩, List.forall_mem_singleton.2 hrequest⟩
  | report ended =>
    simp only [effects, ended]
    exact ⟨⟨hs.tasks_set trivial, hs.orphans⟩, nofun⟩
  | @failure slot e held ended =>
    simp only [effects, ended]
    have hdropped : ∀ launched ∈ s.tasks.set slot .taken, launched.Confined P :=
      hs.tasks_set trivial
    refine ⟨⟨?_, ?_⟩, ?_⟩
    · intro launched hmem
      obtain ⟨-, -, rfl⟩ := List.mem_map.1 hmem
      trivial
    · -- What is left is what was left before, or what a task waits for.
      intro r hr
      rcases List.mem_append.1 hr with hold | hleft
      · exact hs.orphans r hold
      · obtain ⟨⟨launched, hmem, next, hwaiting⟩, -⟩ := of_mem_dropAll hleft
        have hlaunched := hdropped launched hmem
        unfold Launched.Confined at hlaunched
        rw [hwaiting] at hlaunched
        exact hlaunched.1
    · intro r hr
      obtain ⟨launched, -, hr⟩ := List.mem_flatMap.1 hr
      obtain ⟨p, -, rfl⟩ := List.mem_map.1 hr
      exact hdiscard p
  | settle left =>
    simp only [effects, left]
    refine ⟨⟨hs.tasks, fun r hr => hs.orphans r (List.mem_of_mem_eraseIdx hr)⟩, ?_⟩
    exact List.forall_mem_singleton.2 (hs.orphans _ (List.mem_of_getElem? left))

/-- **Run**: all that takes effect in a schedule of a confined run is as said. -/
theorem Confined.forall_record (hs : s.Confined P) (hdiscard : ∀ p, P (.discard p))
    (h : s.after? host turns = some s') : ∀ r ∈ s.record host turns, P r := by
  induction turns generalizing s with
  | nil => exact nofun
  | cons turn rest ih =>
    obtain ⟨t, hstep, hrest⟩ := after?_cons_eq_some_iff.1 h
    obtain ⟨ht, heffects⟩ := hs.step hdiscard hstep
    rw [record_cons hstep]
    intro r hr
    rcases List.mem_append.1 hr with hr | hr
    · exact heffects r hr
    · exact ih ht hrest r hr

/-- The tasks of a configuration begin confined to what they may ask. -/
theorem confined_start (config : Config) (tool : Path) (w : World) :
    (start config tool w).Confined (Run.MayAsk config tool) where
  tasks launched hmem := by
    obtain ⟨task, htask, rfl⟩ := List.mem_map.1 hmem
    exact Activity.Confined.mono (Task.asks_perform htask) (fun _ h => h) fun _ _ => trivial
  orphans := nofun

/-- **All that takes effect** in a schedule is what the tasks may ask. -/
theorem mayAsk_of_mem_record {config : Config} {tool : Path} {r : Request}
    (h : (start config tool w).after? host turns = some s)
    (hmem : r ∈ (start config tool w).record host turns) : Run.MayAsk config tool r :=
  (confined_start config tool w).forall_record (fun _ => .quiet trivial) h r hmem

end Interleaving

end MapAudit
