import MapAudit.Proofs.Run.Judging
import MapAudit.Proofs.Run.Order

/-! # Diagnostics of a run

    Tasks take turns, but the diagnostics of a run are not mixed: each task that verifies shows
    all of its diagnostics in one turn, so that they stand together. The diagnostics of a run
    are therefore blocks in a row, one for each task that has verified, in the order of these
    turns.

    The invariant says for every task whether it has its block already. If not, it is silent
    until it comes to verify. If it has, it is silent for good, and it can only end as its
    verification says.
-/

namespace MapAudit

/-- **Block** of diagnostics: a task, its slot, and what it verified. -/
structure Block where
  /-- The slot of the task. -/
  slot : Nat
  /-- The task. -/
  task : Task
  /-- What the tool left behind. -/
  artifacts : Artifacts

namespace Block

/-- The verification that a block is from. -/
def verification (b : Block) : Verification :=
  b.task.verification b.artifacts

/-- The diagnostics of a block. -/
def diagnostics (b : Block) : List Diagnostic :=
  b.verification.reported

/-- They are those of the checks that the verification made. -/
theorem exists_checksMade (b : Block) :
    ∃ checks, Verification.ChecksMade (Fixture.ofVariant b.task.variant) b.artifacts.output
        b.artifacts.map b.verification.result checks ∧
      b.diagnostics = Check.diagnostics b.task.kind checks :=
  Verification.exists_checksMade _ _ _ _

end Block

namespace Interleaving

variable {host : Host} {config : Config} {tool : Path} {ready : World} {turns : List Turn}
  {turn : Turn} {s s' : Interleaving} {blocks : List Block} {b : Block}

/-- **Verification in a schedule**: a task that has read what the tool left behind goes on in
    some turn. -/
def Verifies (host : Host) (config : Config) (tool : Path) (ready : World) (turns : List Turn)
    (b : Block) : Prop :=
  ∃ before turn after s, turns = before ++ turn :: after ∧
    (start config tool ready).after? host before = some s ∧
    turn = .work b.slot ∧ (Task.ofConfig config)[b.slot]? = some b.task ∧
    ∃ scratch held, s.tasks[b.slot]? =
      some { progress := .ready (b.task.judging scratch b.artifacts), held }

/-- One more turn verifies exactly if the task that goes on in it has read its artifacts. -/
theorem verifies_append_singleton_iff (h : Reached host (start config tool ready) turns s) :
    Verifies host config tool ready (turns ++ [turn]) b ↔
      Verifies host config tool ready turns b ∨
        turn = .work b.slot ∧ (Task.ofConfig config)[b.slot]? = some b.task ∧
          ∃ scratch held, s.tasks[b.slot]? =
            some { progress := .ready (b.task.judging scratch b.artifacts), held } :=
  exists_turn_append_singleton_iff h

/-! ### Stages -/

/-- **Stage of a task**, given the blocks so far: it has none, and is silent until it verifies;
    or it has one, and is silent from then on. -/
inductive Stage (blocks : List Block) (slot : Nat) (task : Task) (launched : Launched) : Prop where
  /-- The task has not verified. -/
  | before (fresh : slot ∉ blocks.map Block.slot)
      (goes : launched.Goes task.IsJudging Task.Unverified)
  /-- The task has verified. -/
  | after {b : Block} (mem : b ∈ blocks) (slot_eq : b.slot = slot)
      (goes : launched.Goes (fun _ => False) (Task.Verified b.verification))

variable {slot : Nat} {task : Task} {launched launched' : Launched}

/-- A block of another task does not change the stage. -/
theorem Stage.append (h : Stage blocks slot task launched) (hne : b.slot ≠ slot) :
    Stage (blocks ++ [b]) slot task launched := by
  cases h with
  | before fresh goes =>
    refine .before ?_ goes
    rw [List.map_append, List.mem_append, not_or]
    exact ⟨fresh, by simpa using hne.symm⟩
  | after mem slot_eq goes => exact .after (List.mem_append_left _ mem) slot_eq goes

/-- A task keeps its stage in a turn in which it goes on silently. -/
theorem Stage.mono (h : Stage blocks slot task launched)
    (hgoes : ∀ exits ends, launched.Goes exits ends → launched'.Goes exits ends) :
    Stage blocks slot task launched' := by
  cases h with
  | before fresh goes => exact .before fresh (hgoes _ _ goes)
  | after mem slot_eq goes => exact .after mem slot_eq (hgoes _ _ goes)

/-- A task that has ended has a block from which its result follows, or an error of the
    build. -/
theorem Stage.result {result : Except RunError Report} {held : List Path}
    (h : Stage blocks slot task { progress := .ended result, held }) :
    (slot ∉ blocks.map Block.slot ∧ Task.Unverified result) ∨
      ∃ b ∈ blocks, b.slot = slot ∧ Task.Verified b.verification result := by
  cases h with
  | before fresh goes => exact .inl ⟨fresh, goes⟩
  | after mem slot_eq goes => exact .inr ⟨_, mem, slot_eq, goes⟩

/-- **Told in blocks**: what all diagnostics of a run so far are, and where its tasks are. -/
structure Told (host : Host) (config : Config) (tool : Path) (ready : World) (turns : List Turn)
    (s : Interleaving) (blocks : List Block) : Prop where
  /-- No task has two blocks. -/
  nodup : (blocks.map Block.slot).Nodup
  /-- Each block is from a verification. -/
  sound : ∀ b ∈ blocks, Verifies host config tool ready turns b
  /-- Each task that has verified has a block. -/
  complete : ∀ b, Verifies host config tool ready turns b → ∃ b' ∈ blocks, b'.slot = b.slot
  /-- Nothing else has been shown. -/
  reported : s.world.reported = ready.reported ++ blocks.flatMap Block.diagnostics
  /-- What dropped tasks waited for is not the showing of diagnostics. -/
  silent : ∀ r ∈ s.orphans, r.isReport = false
  /-- Every task is at its stage. -/
  stages : ∀ slot task launched, (Task.ofConfig config)[slot]? = some task →
    s.tasks[slot]? = some launched → Stage blocks slot task launched
  /-- The results that have been taken follow from the blocks. -/
  taken : ∀ slot result, Takes host (start config tool ready) turns slot result →
    Task.Unverified result ∨ ∃ b ∈ blocks, b.slot = slot ∧ Task.Verified b.verification result

theorem told_start : Told host config tool ready [] (start config tool ready) [] where
  nodup := List.nodup_nil
  sound := by simp
  complete := by
    rintro b ⟨before, turn, after, s, hturns, -⟩
    exact absurd hturns (by simp)
  reported := (List.append_nil _).symm
  silent := by simp [start]
  stages := by
    intro slot task launched htask hlaunched
    simp only [start, List.getElem?_map, htask, Option.map_some, Option.some.injEq] at hlaunched
    obtain rfl := hlaunched
    exact .before (by simp) (Task.until_perform config tool task).mono
  taken := fun slot result htakes => absurd htakes not_takes_nil

/-! ### Turns -/

/-- Every launched task is one of the configuration. -/
theorem exists_task (h : Reached host (start config tool ready) turns s)
    (hslot : s.tasks[slot]? = some launched) :
    ∃ task, (Task.ofConfig config)[slot]? = some task := by
  obtain ⟨hlt, -⟩ := List.getElem?_eq_some_iff.1 hslot
  rw [length_tasks h] at hlt
  exact ⟨_, List.getElem?_eq_getElem hlt⟩

/-- What has been taken after one more turn follows from the blocks, if the stages do. -/
theorem Told.taken_append (h : Told host config tool ready turns s blocks)
    (hreached : Reached host (start config tool ready) turns s)
    {result : Except RunError Report}
    (htakes : Takes host (start config tool ready) (turns ++ [turn]) slot result) :
    Task.Unverified result ∨ ∃ b ∈ blocks, b.slot = slot ∧ Task.Verified b.verification result := by
  rcases (takes_append_singleton_iff hreached).1 htakes with hearlier | ⟨-, held, hended⟩
  · exact h.taken slot result hearlier
  · obtain ⟨task, htask⟩ := exists_task hreached hended
    rcases (h.stages slot task _ htask hended).result with ⟨-, hresult⟩ | hblock
    · exact .inl hresult
    · exact .inr hblock

/-- **Silent turns** add no block. -/
theorem Told.silent_turn (h : Told host config tool ready turns s blocks)
    (hreached : Reached host (start config tool ready) turns s)
    (hreported : s'.world.reported = s.world.reported)
    (horphans : ∀ r ∈ s'.orphans, r.isReport = false)
    (hstages : ∀ slot task launched, (Task.ofConfig config)[slot]? = some task →
      s'.tasks[slot]? = some launched → Stage blocks slot task launched)
    (hcomplete : ∀ b : Block, turn = .work b.slot → (∃ scratch held, s.tasks[b.slot]? =
      some { progress := .ready (b.task.judging scratch b.artifacts), held }) →
        (Task.ofConfig config)[b.slot]? = some b.task → ∃ b' ∈ blocks, b'.slot = b.slot) :
    Told host config tool ready (turns ++ [turn]) s' blocks where
  nodup := h.nodup
  sound := fun b hb => (verifies_append_singleton_iff hreached).2 (.inl (h.sound b hb))
  complete := by
    intro b hb
    rcases (verifies_append_singleton_iff hreached).1 hb with hearlier | ⟨hturn, htask, hready⟩
    · exact h.complete b hearlier
    · exact hcomplete b hturn hready htask
  reported := hreported.trans h.reported
  silent := horphans
  stages := hstages
  taken := fun slot result htakes => h.taken_append hreached htakes

/-- The stages after one task has changed are those of the other tasks and its own. -/
theorem Told.stages_set (h : Told host config tool ready turns s blocks)
    (hnew : ∀ task, (Task.ofConfig config)[slot]? = some task → Stage blocks slot task launched') :
    ∀ slot' task launched, (Task.ofConfig config)[slot']? = some task →
      (s.tasks.set slot launched')[slot']? = some launched → Stage blocks slot' task launched := by
  intro slot' task launched htask hlaunched
  rcases getElem?_set_cases hlaunched with ⟨rfl, rfl⟩ | ⟨-, hold⟩
  · exact hnew task htask
  · exact h.stages slot' task launched htask hold

/-! ### Dropping -/

/-- Dropping tasks shows nothing, and leaves nothing that would. -/
theorem dropAll_silent (host : Host) (tasks : List Launched) (w : World) :
    (dropAll host tasks w).2.reported = w.reported ∧
      ∀ r ∈ (dropAll host tasks w).1, r.isReport = false := by
  refine ⟨?_, ?_⟩
  · rw [dropAll_eq_replay]
    apply World.reported_replay
    intro r hr
    obtain ⟨launched, -, hr⟩ := List.mem_flatMap.1 hr
    obtain ⟨p, -, rfl⟩ := List.mem_map.1 hr
    rfl
  · -- a request that is left is one that a task waits for
    intro r hr
    obtain ⟨-, houtlives⟩ := of_mem_dropAll hr
    cases r with
    | report d => exact absurd houtlives (by simp [Request.outlivesTask, Request.suspends])
    | _ => rfl

/-! ### The invariant -/

/-- **The turn of a verification** adds the block of the task. -/
theorem Told.verified (h : Told host config tool ready turns s blocks)
    (hreached : Reached host (start config tool ready) turns s) {held : List Path}
    {scratch : Scratch} (htask : (Task.ofConfig config)[b.slot]? = some b.task)
    (hready : s.tasks[b.slot]? =
      some { progress := .ready (b.task.judging scratch b.artifacts), held })
    (hfresh : b.slot ∉ blocks.map Block.slot) :
    Told host config tool ready (turns ++ [.work b.slot])
      { s with
        world := (Launched.work host (b.task.judging scratch b.artifacts) held s.world).2
        tasks := s.tasks.set b.slot
          (Launched.work host (b.task.judging scratch b.artifacts) held s.world).1 }
      (blocks ++ [b]) := by
  obtain ⟨hreported, hgoes⟩ :=
    Launched.work_judging host b.task scratch b.artifacts held s.world
  have hlast : b ∈ blocks ++ [b] := List.mem_append_right _ (List.mem_singleton_self b)
  refine ⟨?_, ?_, ?_, ?_, h.silent, ?_, ?_⟩
  · rw [List.map_append, List.map_singleton, List.nodup_append]
    refine ⟨h.nodup, List.nodup_singleton _, ?_⟩
    rintro slot hslot slot' hslot' rfl
    rw [List.mem_singleton.1 hslot'] at hslot
    exact hfresh hslot
  · intro b' hb'
    rw [verifies_append_singleton_iff hreached]
    rcases List.mem_append.1 hb' with hb' | hb'
    · exact .inl (h.sound b' hb')
    · obtain rfl := List.mem_singleton.1 hb'
      exact .inr ⟨rfl, htask, scratch, held, hready⟩
  · intro b' hb'
    -- what has verified did so earlier, or in this turn, in which the block was added
    rcases (verifies_append_singleton_iff hreached).1 hb' with hearlier | ⟨hturn, -, -⟩
    · obtain ⟨b'', hmem, heq⟩ := h.complete b' hearlier
      exact ⟨b'', List.mem_append_left _ hmem, heq⟩
    · exact ⟨b, hlast, Turn.work.inj hturn⟩
  · rw [List.flatMap_append, List.flatMap_singleton, ← List.append_assoc, ← h.reported]
    exact hreported
  · intro slot' task launched htask' hlaunched
    -- the task itself is behind its verification now, the others are where they were
    rcases getElem?_set_cases hlaunched with ⟨rfl, rfl⟩ | ⟨hne, hold⟩
    · exact .after hlast rfl hgoes
    · exact (h.stages slot' task launched htask' hold).append hne.symm
  · intro slot result htakes
    rcases h.taken_append hreached htakes with hunverified | ⟨b', hmem, hverified⟩
    · exact .inl hunverified
    · exact .inr ⟨b', List.mem_append_left _ hmem, hverified⟩

/-- A task at work goes on silently, or verifies and adds its block. -/
theorem Told.work (h : Told host config tool ready turns s blocks)
    (hreached : Reached host (start config tool ready) turns s)
    {a : Activity (Except RunError Report)} {held : List Path}
    (hready : s.tasks[slot]? = some { progress := .ready a, held }) :
    ∃ blocks', Told host config tool ready (turns ++ [.work slot])
      { s with
        world := (Launched.work host a held s.world).2
        tasks := s.tasks.set slot (Launched.work host a held s.world).1 } blocks' := by
  obtain ⟨task, htask⟩ := exists_task hreached hready
  cases h.stages slot task _ htask hready with
  | @after b mem slot_eq goes =>
    have hsilent : Activity.SilentUntil (fun _ => False) (Task.Verified b.verification) false a :=
      Activity.SilentUntil.of_not_exits goes not_false
    obtain ⟨hreported, hgoes⟩ := Launched.work_until host hsilent held s.world
    refine ⟨blocks, h.silent_turn hreached hreported h.silent ?_ ?_⟩
    · exact h.stages_set fun _ _ => .after mem slot_eq hgoes
    · intro b' hturn _ _
      exact ⟨b, mem, slot_eq.trans (Turn.work.inj hturn)⟩
  | before fresh goes =>
    by_cases hjudging : task.IsJudging a
    · -- the task has read its artifacts and verifies them now
      obtain ⟨scratch, artifacts, rfl⟩ := hjudging
      exact ⟨_, h.verified (b := ⟨slot, task, artifacts⟩) hreached htask hready fresh⟩
    · have hsilent := Activity.SilentUntil.of_not_exits goes hjudging
      obtain ⟨hreported, hgoes⟩ := Launched.work_until host hsilent held s.world
      refine ⟨blocks, h.silent_turn hreached hreported h.silent ?_ ?_⟩
      · apply h.stages_set
        intro task' htask'
        obtain rfl := Option.some.inj (htask.symm.trans htask')
        exact .before fresh hgoes
      · rintro b hturn ⟨scratch, held', hready'⟩ htask'
        obtain rfl := Turn.work.inj hturn
        obtain rfl := Option.some.inj (htask.symm.trans htask')
        rw [hready, Option.some.injEq, Launched.mk.injEq, Progress.ready.injEq] at hready'
        exact absurd ⟨scratch, b.artifacts, hready'.1⟩ hjudging

/-- **Step**: after one more turn, the diagnostics are still told in blocks. -/
theorem Told.step (h : Told host config tool ready turns s blocks)
    (hreached : Reached host (start config tool ready) turns s) (hstep : Steps host s turn s') :
    ∃ blocks', Told host config tool ready (turns ++ [turn]) s' blocks' := by
  cases hstep with
  | work hready => exact h.work hreached hready
  | @answer slot r next held hwaiting =>
    obtain ⟨task, htask⟩ := exists_task hreached hwaiting
    have hstage := h.stages slot task _ htask hwaiting
    have hquiet : r.isReport = false := by
      cases hstage with
      | before _ goes => exact goes.1
      | after _ _ goes => exact goes.1
    refine ⟨blocks, h.silent_turn hreached (World.reported_perform hquiet) h.silent ?_ nofun⟩
    apply h.stages_set
    intro task' htask'
    obtain rfl := Option.some.inj (htask.symm.trans htask')
    exact hstage.mono fun exits ends goes => goes.2 _
  | @report slot report held hended =>
    obtain ⟨task, htask⟩ := exists_task hreached hended
    have hstage := h.stages slot task _ htask hended
    refine ⟨blocks, h.silent_turn hreached rfl h.silent ?_ nofun⟩
    apply h.stages_set
    intro task' htask'
    obtain rfl := Option.some.inj (htask.symm.trans htask')
    exact hstage.mono fun exits ends _ => trivial
  | @failure slot e held hended =>
    obtain ⟨hreported, hleft⟩ := dropAll_silent host (s.tasks.set slot .taken) s.world
    refine ⟨blocks, h.silent_turn hreached hreported ?_ ?_ nofun⟩
    · intro r hr
      rcases List.mem_append.1 hr with hr | hr
      · exact h.silent r hr
      · exact hleft r hr
    · -- all tasks are gone, each at the stage that it was at
      intro slot' task launched htask hlaunched
      obtain rfl := getElem?_fail hlaunched
      have hlt : slot' < s.tasks.length := by
        rw [length_tasks hreached]
        exact (List.getElem?_eq_some_iff.1 htask).1
      have hstage := h.stages slot' task _ htask (List.getElem?_eq_getElem hlt)
      exact hstage.mono fun exits ends _ => trivial
  | @settle index r hleft =>
    have hquiet := h.silent r (List.mem_of_getElem? hleft)
    refine ⟨blocks, h.silent_turn hreached (World.reported_perform hquiet) ?_ h.stages nofun⟩
    exact fun r' hr' => h.silent r' (List.mem_of_mem_eraseIdx hr')

/-- **Run**: the diagnostics of every state of a run are told in blocks. -/
theorem exists_told (h : Reached host (start config tool ready) turns s) :
    ∃ blocks, Told host config tool ready turns s blocks := by
  induction h with
  | here => exact ⟨[], told_start⟩
  | turn before last ih =>
    obtain ⟨blocks, hblocks⟩ := ih
    exact hblocks.step before last

/-- A report that has been taken is that of a block. -/
theorem Told.exists_block_of_takes (h : Told host config tool ready turns s blocks)
    {report : Report} (htakes : Takes host (start config tool ready) turns slot (.ok report)) :
    ∃ b ∈ blocks, b.slot = slot ∧ b.verification.result = .ok report := by
  rcases h.taken slot _ htakes with ⟨e, he⟩ | ⟨b, hmem, hslot, hverified⟩
  · exact absurd he nofun
  · exact ⟨b, hmem, hslot, hverified.of_report⟩

/-! ### What a block is -/

/-- **In blocks**: what has been shown in a state of a run, after what had been shown before
    the run. -/
structure InBlocks (host : Host) (config : Config) (tool : Path) (ready : World)
    (turns : List Turn) (s : Interleaving) (shown : List Diagnostic) (blocks : List Block) :
    Prop where
  /-- The diagnostics are those of the blocks, one block after another. -/
  reported : s.world.reported = shown ++ blocks.flatMap Block.diagnostics
  /-- No task has two blocks. -/
  nodup : (blocks.map Block.slot).Nodup
  /-- Only tasks that have come to verify have a block, from what they verified. -/
  sound : ∀ b ∈ blocks, Verifies host config tool ready turns b
  /-- All of them have one. -/
  complete : ∀ b, Verifies host config tool ready turns b → ∃ b' ∈ blocks, b'.slot = b.slot
  /-- If the verification came to a report, the block is told by the checks of the report that
      did not hold, in order, under the label of the task. -/
  finished : ∀ b ∈ blocks, ∀ report, b.verification.result = .ok report →
    b.diagnostics = Check.diagnostics b.task.kind report.checks
  /-- If it came to a fault, by those of the checks before the fault. -/
  faulted : ∀ b ∈ blocks, ∀ fault, b.verification.result = .error fault →
    ∃ checks, Verification.ChecksMade (Fixture.ofVariant b.task.variant) b.artifacts.output
        b.artifacts.map (.error fault) checks ∧
      b.diagnostics = Check.diagnostics b.task.kind checks
  /-- The reports that the run takes are those of the blocks. -/
  takes_report : ∀ slot report, Takes host (start config tool ready) turns slot (.ok report) →
    ∃ b ∈ blocks, b.slot = slot ∧ b.verification.result = .ok report
  /-- So are the faults. -/
  takes_fault : ∀ slot fault,
    Takes host (start config tool ready) turns slot (.error (.verification fault)) →
      ∃ b ∈ blocks, b.slot = slot ∧ b.verification.result = .error fault

theorem Told.inBlocks (h : Told host config tool ready turns s blocks) :
    InBlocks host config tool ready turns s ready.reported blocks where
  reported := h.reported
  nodup := h.nodup
  sound := h.sound
  complete := h.complete
  finished := by
    intro b _ report hreport
    obtain ⟨checks, hmade, hdiagnostics⟩ := b.exists_checksMade
    rw [hreport] at hmade
    cases hmade with
    | finished _ _ _ => exact hdiagnostics
  faulted := by
    intro b _ fault hfault
    obtain ⟨checks, hmade, hdiagnostics⟩ := b.exists_checksMade
    exact ⟨checks, hfault ▸ hmade, hdiagnostics⟩
  takes_report := fun slot report htakes => h.exists_block_of_takes htakes
  takes_fault := by
    intro slot fault htakes
    rcases h.taken slot _ htakes with ⟨e, he⟩ | ⟨b, hmem, hslot, hverified⟩
    · exact absurd (Except.error.inj he) nofun
    · exact ⟨b, hmem, hslot, hverified.of_fault⟩

/-- **Diagnostics in blocks**: whatever turns a run takes, also when it ends in an error, what
    it shows are blocks in a row, at most one for each task. Before the tasks are launched it
    shows nothing. -/
theorem diagnostics_in_blocks (host : Host) (config : Config) (w : World) :
    (∀ e w', (Run.readyTool config).run.run host w = (.error e, w') →
      w'.reported = w.reported) ∧
    ∀ tool ready turns s, (Run.readyTool config).run.run host w = (.ok tool, ready) →
      (start config tool ready).after? host turns = some s →
        ∃ blocks, InBlocks host config tool ready turns s w.reported blocks := by
  have hready := (Run.silent_readyTool config).reported_run host w
  constructor
  · intro e w' hfailed
    rwa [hfailed] at hready
  · intro tool ready turns s hfound hplayed
    rw [hfound] at hready
    obtain ⟨blocks, htold⟩ := exists_told (after?_eq_some_iff.1 hplayed)
    exact ⟨blocks, hready ▸ htold.inBlocks⟩

/-- A configuration with two tasks whose tool is there. -/
def bothModesReady : Config :=
  { bothModes with tool := some ⟨["", ""]⟩ }

/-- Two tasks that go on in turns, the second of which verifies first. -/
theorem diagnostics_in_blocks_secondFirst :
    ∃ s, (start bothModesReady ⟨["", ""]⟩ ⟨.empty, 0, []⟩).after?
        (.writing "\"a0\"a1\"a2\"" "\x7b\x7d") secondFirst = some s ∧
      s.world.reported.map Diagnostic.kind =
        List.replicate 4 "ts-min" ++ List.replicate 4 "ts" ∧
      ∃ blocks, InBlocks (.writing "\"a0\"a1\"a2\"" "\x7b\x7d") bothModesReady
        ⟨["", ""]⟩ ⟨.empty, 0, []⟩ secondFirst s [] blocks := by
  have hkinds : ((start bothModesReady ⟨["", ""]⟩ ⟨.empty, 0, []⟩).after?
      (.writing "\"a0\"a1\"a2\"" "\x7b\x7d") secondFirst).map
        (fun s => s.world.reported.map Diagnostic.kind) =
          some (List.replicate 4 "ts-min" ++ List.replicate 4 "ts") := by
    decide +kernel
  obtain ⟨s, hs, hlabels⟩ := Option.map_eq_some_iff.1 hkinds
  exact ⟨s, hs, hlabels, (diagnostics_in_blocks _ bothModesReady ⟨.empty, 0, []⟩).2 _ _ _ _ rfl hs⟩

end Interleaving

end MapAudit
