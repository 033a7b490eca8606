import MapAudit.Proofs.Run.Turns
import MapAudit.Proofs.World.Activity

/-! # One task after another

    A run that performs its tasks one after another is one of the possible runs: there is a
    schedule that lets every task work alone, takes its result, and goes on to the next
    one. When a task fails, the tasks behind it have not begun, so nothing is left of them.

    What holds of every possible end of a run therefore holds of this one.
-/

namespace MapAudit

namespace Interleaving

variable {host : Host}

/-! ### One task alone -/

/-- **Alone**: a task that can go on has a schedule of its own, by which it comes to the
    result and leaves the world that it does when it runs by itself. -/
theorem exists_schedule_alone (host : Host) (a : Activity (Except RunError Report))
    (held : List Path) (s : Interleaving) {slot : Nat}
    (hslot : s.tasks[slot]? = some { progress := .ready a, held }) :
    ∃ turns held', s.after? host (.work slot :: turns) =
      some { s with
        world := (a.run host s.world).2
        tasks :=
          s.tasks.set slot { progress := .ended (a.run host s.world).1, held := held' } } := by
  obtain ⟨hlt, -⟩ := List.getElem?_eq_some_iff.1 hslot
  induction a generalizing held s with
  | done result =>
    refine ⟨[], held, ?_⟩
    simp only [after?, step?, hslot, Option.bind_some]
    rfl
  | ask r next ih =>
    by_cases hr : r.suspends = true
    · -- the task waits for its answer and works on with it
      let waiting : Launched := { progress := .waiting r next, held }
      let going : Interleaving :=
        { s with
          world := (s.world.perform host r).2
          tasks := (s.tasks.set slot waiting).set slot
            { progress := .ready (next (s.world.perform host r).1), held } }
      have hgoing : going.tasks[slot]? =
          some { progress := .ready (next (s.world.perform host r).1), held } := by
        simp [going, hlt]
      obtain ⟨turns, held', hturns⟩ := ih _ held going hgoing (by simpa [going] using hlt)
      refine ⟨.answer slot :: .work slot :: turns, held', ?_⟩
      have hwork : Launched.work host (.ask r next) held s.world = (waiting, s.world) := by
        simp only [Launched.work, hr, if_true, waiting]
      have hset : (s.tasks.set slot waiting)[slot]? = some waiting := by simp [hlt]
      have hfirst : s.after? host (.work slot :: .answer slot :: .work slot :: turns) =
          going.after? host (.work slot :: turns) := by
        simp only [after?, step?, hslot, hwork, Option.bind_some, hset, waiting, going]
      rw [hfirst, hturns]
      simp only [going, List.set_set]
      rfl
    · -- the request is answered at once, as part of the same turn
      let going : Interleaving :=
        { s with
          world := (s.world.perform host r).2
          tasks := s.tasks.set slot
            { progress := .ready (next (s.world.perform host r).1), held := r.holding held } }
      have hgoing : going.tasks[slot]? = some
          { progress := .ready (next (s.world.perform host r).1), held := r.holding held } := by
        simp [going, hlt]
      obtain ⟨turns, held', hturns⟩ :=
        ih _ (r.holding held) going hgoing (by simpa [going] using hlt)
      refine ⟨turns, held', ?_⟩
      have hwork : Launched.work host (.ask r next) held s.world =
          Launched.work host (next (s.world.perform host r).1) (r.holding held)
            (s.world.perform host r).2 := by
        simp only [Launched.work, hr]
        rfl
      have hfirst : s.after? host (.work slot :: turns) =
          going.after? host (.work slot :: turns) := by
        simp only [after?, step?, hslot, hgoing, hwork, Option.bind_some]
        simp only [going, List.set_set]
      rw [hfirst, hturns]
      simp only [going, List.set_set]
      rfl

/-! ### Tasks that leave nothing behind -/

/-- **Idle**: a task that waits for nothing and holds no directory. -/
def Idle (launched : Launched) : Prop :=
  launched.held = [] ∧ ∀ r next, launched.progress ≠ .waiting r next

theorem drop_idle {launched : Launched} (h : Idle launched) (w : World) :
    launched.drop host w = ([], w) := by
  obtain ⟨hheld, hwaits⟩ := h
  unfold Launched.drop
  rw [hheld]
  split
  · next r next hwaiting => exact absurd hwaiting (hwaits r next)
  · rfl

/-- Idle tasks are dropped without a trace. -/
theorem dropAll_idle {tasks : List Launched} (h : ∀ launched ∈ tasks, Idle launched) (w : World) :
    dropAll host tasks w = ([], w) := by
  induction tasks with
  | nil => rfl
  | cons launched rest ih =>
    have hrest := ih fun l hl => h l (List.mem_cons_of_mem _ hl)
    simp only [dropAll, drop_idle (h launched List.mem_cons_self), hrest, List.append_nil]

/-! ### Tasks in line -/

/-- **Tasks in line**: the first ones are gone, and the others have not begun. -/
def lineUp (config : Config) (tool : Path) (gone : Nat) (tasks : List Task) : List Launched :=
  List.replicate gone .taken ++ tasks.map fun task =>
    { progress := .ready (task.perform config tool).run, held := [] }

variable {config : Config} {tool : Path} {gone : Nat} {task : Task} {tasks : List Task}
  {s : Interleaving}

theorem getElem?_lineUp : (lineUp config tool gone (task :: tasks))[gone]? =
    some { progress := .ready (task.perform config tool).run, held := [] } := by
  rw [lineUp, List.getElem?_append_right (by simp)]
  simp

theorem getElem?_set_lineUp (launched : Launched) :
    ((lineUp config tool gone (task :: tasks)).set gone launched)[gone]? = some launched := by
  rw [List.getElem?_set_self', getElem?_lineUp]
  rfl

/-- The next task leaves the line. -/
theorem set_taken_lineUp (launched : Launched) :
    ((lineUp config tool gone (task :: tasks)).set gone launched).set gone .taken =
      lineUp config tool (gone + 1) tasks := by
  rw [List.set_set, lineUp, lineUp, List.set_append_right _ _ (by simp), List.replicate_succ']
  simp

theorem idle_lineUp : ∀ launched ∈ lineUp config tool gone tasks, Idle launched := by
  intro launched hmem
  rcases List.mem_append.1 hmem with hmem | hmem
  · rw [List.eq_of_mem_replicate hmem]
    exact ⟨rfl, nofun⟩
  · obtain ⟨task', -, rfl⟩ := List.mem_map.1 hmem
    exact ⟨rfl, nofun⟩

/-- A failure with tasks in line changes nothing in the world. -/
theorem fail_lineUp (htasks : s.tasks = lineUp config tool gone tasks) (horphans : s.orphans = [])
    (e : RunError) : (s.fail host e).orphans = [] ∧ (s.fail host e).world = s.world := by
  have hdrop : dropAll host s.tasks s.world = ([], s.world) :=
    dropAll_idle (htasks ▸ idle_lineUp) s.world
  simp only [fail, hdrop, horphans, List.append_nil, and_self]

/-- **The next task** in line has a schedule by which it ends, and its result is taken. -/
theorem exists_schedule_next (host : Host)
    (htasks : s.tasks = lineUp config tool gone (task :: tasks)) :
    ∃ turns, s.after? host turns =
      match (task.perform config tool).run.run host s.world with
      | (.error e, w) =>
        some ({ s with world := w, tasks := lineUp config tool (gone + 1) tasks }.fail host e)
      | (.ok report, w) =>
        some { s with
          world := w
          tasks := lineUp config tool (gone + 1) tasks
          reports := s.reports ++ [(gone, report)] } := by
  have hslot : s.tasks[gone]? =
      some { progress := .ready (task.perform config tool).run, held := [] } := by
    rw [htasks]
    exact getElem?_lineUp
  obtain ⟨turns, held, hturns⟩ := exists_schedule_alone host _ _ s hslot
  refine ⟨.work gone :: turns ++ [.take gone], ?_⟩
  rw [after?_append, hturns, htasks]
  cases hresult : (task.perform config tool).run.run host s.world with
  | mk result w =>
    cases result with
    | error e =>
      simp only [Option.bind_some, after?, step?, getElem?_set_lineUp, set_taken_lineUp]
    | ok report =>
      simp only [Option.bind_some, after?, step?, getElem?_set_lineUp, set_taken_lineUp]

/-! ### All tasks -/

/-- Performing tasks is performing the first one and then the others. -/
theorem run_performAll_cons (host : Host) (w : World) :
    (Run.performAll config tool gone (task :: tasks)).run.run host w =
      match (task.perform config tool).run.run host w with
      | (.error e, w') => (.error e, w')
      | (.ok report, w') =>
        match (Run.performAll config tool (gone + 1) tasks).run.run host w' with
        | (.error e, w'') => (.error e, w'')
        | (.ok reports, w'') => (.ok ((gone, report) :: reports), w'') := by
  cases hfirst : (task.perform config tool).run.run host w with
  | mk result w' =>
    cases result with
    | error e => exact Activity.run_bind_of_error hfirst
    | ok report =>
      have hperform : (Run.performAll config tool gone (task :: tasks)).run.run host w = _ :=
        Activity.run_bind_of_ok hfirst
      rw [hperform]
      dsimp only
      cases hothers : (Run.performAll config tool (gone + 1) tasks).run.run host w' with
      | mk others w'' =>
        cases others with
        | error e => exact Activity.run_bind_of_error hothers
        | ok reports => exact Activity.run_bind_of_ok hothers

/-- **Comes to**: a run is where performing tasks from a slot on leads to. -/
def ComesTo (reports : List (Nat × Report)) (count : Nat) (s : Interleaving) :
    Except RunError (List (Nat × Report)) × World → Prop
  | (.error e, w) => s.world = w ∧ s.orphans = [] ∧ s.error = some e
  | (.ok reports', w) => s.world = w ∧ s.orphans = [] ∧ s.error = none ∧
      s.reports = reports ++ reports' ∧ s.tasks = List.replicate count .taken

/-- **One after another**: with tasks in line, a schedule leads to what performing them comes
    to. -/
theorem exists_schedule_performAll (host : Host) (tasks : List Task)
    (htasks : s.tasks = lineUp config tool gone tasks)
    (herror : s.error = none) (horphans : s.orphans = []) :
    ∃ turns s', s.after? host turns = some s' ∧ s'.ComesTo s.reports (gone + tasks.length)
      ((Run.performAll config tool gone tasks).run.run host s.world) := by
  induction tasks generalizing gone s with
  | nil =>
    refine ⟨[], s, rfl, rfl, horphans, herror, (List.append_nil _).symm, ?_⟩
    rw [htasks, lineUp]
    simp
  | cons task rest ih =>
    obtain ⟨turns, hturns⟩ := exists_schedule_next host htasks
    rw [run_performAll_cons]
    cases hfirst : (task.perform config tool).run.run host s.world with
    | mk result w =>
      rw [hfirst] at hturns
      cases result with
      | error e =>
        -- the first failure ends the run, and the tasks behind it hold nothing yet
        obtain ⟨hleft, hworld⟩ := fail_lineUp
          (s := { s with world := w, tasks := lineUp config tool (gone + 1) rest })
          rfl horphans e
        exact ⟨turns, _, hturns, hworld, hleft, rfl⟩
      | ok report =>
        obtain ⟨turns', s', hturns', hcomes⟩ := ih
          (s := { s with
            world := w
            tasks := lineUp config tool (gone + 1) rest
            reports := s.reports ++ [(gone, report)] }) rfl herror horphans
        refine ⟨turns ++ turns', s', ?_, ?_⟩
        · rw [after?_append, hturns]
          exact hturns'
        · dsimp only at hcomes ⊢
          cases hothers : (Run.performAll config tool (gone + 1) rest).run.run host w with
          | mk others w' =>
            rw [hothers] at hcomes
            cases others with
            | error e => exact hcomes
            | ok reports =>
              obtain ⟨hworld, hleft, herror', hreports, htasks'⟩ := hcomes
              refine ⟨hworld, hleft, herror', hreports.trans (List.append_assoc _ _ _), ?_⟩
              rw [htasks', List.length_cons, Nat.add_assoc, Nat.add_comm 1]

/-- Where performing all tasks leads to, the run is over. -/
theorem ComesTo.ended {count : Nat} {result : Except RunError (List (Nat × Report))} {w : World}
    (h : s.ComesTo [] count (result, w)) :
    s.result? = some (result.map (Summary.collect count)) ∧ s.orphans = [] ∧ s.world = w := by
  cases result with
  | error e =>
    obtain ⟨hworld, horphans, herror⟩ := h
    refine ⟨?_, horphans, hworld⟩
    rw [result?, herror]
    rfl
  | ok reports =>
    obtain ⟨hworld, horphans, herror, hreports, htasks⟩ := h
    refine ⟨?_, horphans, hworld⟩
    have hgone : s.tasks.all isGone = true := by
      rw [htasks]
      simp [isGone, Launched.taken]
    have hlength : s.tasks.length = count := by
      rw [htasks]
      simp
    have htaken : s.reports = reports := by
      rw [hreports]
      exact List.nil_append _
    simp only [result?, herror, hgone, if_true, hlength, htaken]
    rfl

end Interleaving

namespace Run

variable {host : Host} {config : Config} {tool : Path} {w w' ready : World}

/-- With a tool, a run is all its tasks, and the summary of what they report. -/
theorem run_perform_of_ok {result : Except RunError (List (Nat × Report))}
    (hready : (readyTool config).run.run host w = (.ok tool, ready))
    (hall : (performAll config tool 0 (Task.ofConfig config)).run.run host ready = (result, w')) :
    (perform config).run.run host w =
      (result.map (Summary.collect (Task.ofConfig config).length), w') := by
  have hbuilding : (Task.building (readyTool config)).run.run host w = (.ok tool, ready) :=
    Activity.run_adapt hready _
  refine (Activity.run_bind_of_ok hbuilding).trans ?_
  cases result with
  | error e => exact Activity.run_bind_of_error hall
  | ok reports => exact Activity.run_bind_of_ok hall

/-- **Possible run**: performing the tasks one after another is a possible end of a run, with
    the same result and the same world. -/
theorem ends_perform (config : Config) (w : World) :
    Ends host config w ((perform config).run.run host w).1 ((perform config).run.run host w).2 := by
  cases hready : (readyTool config).run.run host w with
  | mk found ready =>
    cases found with
    | error e =>
      have hbuilding : (Task.building (readyTool config)).run.run host w =
          (.error (.build e), ready) := Activity.run_adapt hready _
      have hperform : (perform config).run.run host w = (.error (.build e), ready) :=
        Activity.run_bind_of_error hbuilding
      rw [hperform]
      exact .unready hready
    | ok tool =>
      -- all tasks are in line at the start, and one after another has a schedule
      have hline : (Interleaving.start config tool ready).tasks =
          Interleaving.lineUp config tool 0 (Task.ofConfig config) := rfl
      obtain ⟨turns, s, hturns, hcomes⟩ :=
        Interleaving.exists_schedule_performAll host (Task.ofConfig config) hline rfl rfl
      rw [Nat.zero_add] at hcomes
      have hstart : (Interleaving.start config tool ready).world = ready := rfl
      rw [hstart] at hcomes
      obtain ⟨hresult, horphans, hworld⟩ := hcomes.ended
      rw [run_perform_of_ok hready rfl]
      dsimp only
      rw [← hworld]
      exact .scheduled hready hturns hresult horphans

end Run

end MapAudit
