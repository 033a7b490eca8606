import MapAudit.CommandLine.Basic
import MapAudit.Proofs.Run.Blocks
import MapAudit.Proofs.Run.Sequential
import Mathlib.Data.List.Perm.Basic
import Mathlib.Data.List.Range

/-! # Exit status, summary and diagnostics

    The number of checks that did not hold is kept in four places: in the recorder of a
    verification, in the report of a task, in the summary of a run, and in what the program has
    shown on the way. They agree, in whatever order the tasks end, and the exit status of the
    program tells whether the number is zero. An error has an exit status of its own, whatever
    has been shown before it, and nothing is written as output.
-/

namespace MapAudit

/-! ### Numbers of a report -/

/-- The numbers of a report **count its checks**. -/
structure Report.Counts (r : Report) : Prop where
  passed_eq : r.passed = r.checks.countP (·.success)
  failed_eq : r.failed = r.checks.countP (!·.success)

theorem Report.counts_of_verify_ok {kind output map : String} {fixture : Fixture}
    {report : Report} (h : (verify kind fixture output map).result = .ok report) :
    report.Counts := by
  obtain ⟨m, hcounted⟩ := exists_reportedByCounting h
  exact ⟨hcounted.passed_eq, hcounted.failed_eq⟩

/-- There is one diagnostic for each check that did not hold. -/
theorem Check.length_diagnostics (kind : String) (checks : List Check) :
    (diagnostics kind checks).length = checks.countP (!·.success) := by
  rw [diagnostics, List.length_map, List.countP_eq_length_filter]

/-- The diagnostics of a report. -/
def Report.diagnostics (r : Report) : List Diagnostic :=
  Check.diagnostics r.kind r.checks

namespace Summary

/-! ### Numbers of a summary -/

/-- All checks of a summary. -/
def checks (summary : Summary) : List Check :=
  summary.tasks.flatMap Report.checks

/-- **Agreement** of a summary with the diagnostics that have been shown: they are those of its
    reports, in some order of the tasks, and all numbers count the same checks. -/
structure Agrees (summary : Summary) (shown : List Diagnostic) : Prop where
  /-- The diagnostics of the reports have been shown, each one once, and no others. -/
  shown_perm : shown.Perm (summary.tasks.flatMap Report.diagnostics)
  /-- Failures are counted by what has been shown. -/
  failed_eq_length : summary.failed = shown.length
  /-- They are counted by the checks. -/
  failed_eq_countP : summary.failed = summary.checks.countP (!·.success)
  /-- So are the checks that held. -/
  passed_eq_countP : summary.passed = summary.checks.countP (·.success)
  /-- Both numbers together are the number of checks. -/
  total : summary.passed + summary.failed = summary.checks.length

/-- The numbers of reports that count their checks add up to numbers that do. -/
theorem counts_of_reports (summary : Summary) (h : ∀ r ∈ summary.tasks, r.Counts) :
    summary.passed = summary.checks.countP (·.success) ∧
      summary.failed = summary.checks.countP (!·.success) ∧
      summary.failed = (summary.tasks.flatMap Report.diagnostics).length := by
  obtain ⟨reports⟩ := summary
  unfold passed failed checks
  induction reports with
  | nil => exact ⟨rfl, rfl, rfl⟩
  | cons r rest ih =>
    obtain ⟨hpassed, hfailed, hshown⟩ := ih fun r' hr' => h r' (List.mem_cons_of_mem _ hr')
    have hr := h r List.mem_cons_self
    have hlength : r.diagnostics.length = r.failed :=
      (Check.length_diagnostics _ _).trans hr.failed_eq.symm
    refine ⟨?_, ?_, ?_⟩
    · rw [List.foldr_cons, List.flatMap_cons, List.countP_append, ← hpassed, hr.passed_eq]
    · rw [List.foldr_cons, List.flatMap_cons, List.countP_append, ← hfailed, hr.failed_eq]
    · rw [List.foldr_cons, List.flatMap_cons, List.length_append, ← hshown, hlength]

/-- **Agreement by diagnostics**: the rest follows from what has been shown. -/
theorem agrees_of_perm {summary : Summary} {shown : List Diagnostic}
    (h : ∀ r ∈ summary.tasks, r.Counts)
    (hperm : shown.Perm (summary.tasks.flatMap Report.diagnostics)) : summary.Agrees shown := by
  obtain ⟨hpassed, hfailed, hshown⟩ := counts_of_reports summary h
  have hsum := List.length_eq_countP_add_countP (l := summary.checks) Check.success
  have hnot : summary.checks.countP (fun c => decide (¬ c.success = true)) =
      summary.checks.countP (!·.success) :=
    List.countP_congr fun c _ => by simp
  refine ⟨hperm, hshown.trans hperm.length_eq.symm, hfailed, hpassed, ?_⟩
  rw [hpassed, hfailed, hsum, hnot]

end Summary

namespace Interleaving

variable {host : Host} {config : Config} {tool : Path} {ready : World} {turns : List Turn}
  {s : Interleaving} {blocks : List Block}

/-! ### Blocks and reports -/

/-- Things in a list by their places, in any order. -/
theorem flatMap_range {α β : Type} (l : List α) (f : α → List β) :
    (List.range l.length).flatMap (fun i => (l[i]?).elim [] f) = l.flatMap f := by
  have hrange : List.range l.length = l.zipIdx.map Prod.snd := by
    rw [List.zipIdx_map_snd, List.range_eq_range']
  have hplaces : l.zipIdx.flatMap (fun p => (l[p.2]?).elim [] f) =
      l.zipIdx.flatMap fun p => f p.1 := by
    apply List.flatMap_congr
    intro p hp
    rw [List.mem_zipIdx_iff_getElem?.1 hp]
    rfl
  calc (List.range l.length).flatMap (fun i => (l[i]?).elim [] f)
      = l.zipIdx.flatMap (fun p => (l[p.2]?).elim [] f) := by rw [hrange, List.flatMap_map]
    _ = l.zipIdx.flatMap (fun p => f p.1) := hplaces
    _ = (l.zipIdx.map Prod.fst).flatMap f := by rw [List.flatMap_map]
    _ = l.flatMap f := by rw [List.zipIdx_map_fst]

/-- The block in the slot of a report is told by that report. -/
theorem diagnostics_of_slot (h : Told host config tool ready turns s blocks) {b : Block}
    (hmem : b ∈ blocks) {report : Report}
    (htakes : Takes host (start config tool ready) turns b.slot (.ok report)) :
    b.diagnostics = report.diagnostics := by
  obtain ⟨b', hmem', hslot, hresult⟩ := h.exists_block_of_takes htakes
  obtain rfl : b' = b := List.inj_on_of_nodup_map h.nodup hmem' hmem hslot
  obtain ⟨checks, hmade, hdiagnostics⟩ := b'.exists_checksMade
  rw [hresult] at hmade
  have hkind : report.kind = b'.task.kind := kind_of_verify_ok hresult
  cases hmade with
  | finished _ _ _ =>
    rw [hdiagnostics, Report.diagnostics, hkind]

/-- **Totals of a run**: when it is over with a summary, what it has shown agrees with it. -/
theorem exists_agrees (h : Reached host (start config tool ready) turns s) {summary : Summary}
    (hsummary : s.result? = some (.ok summary)) :
    ∃ shown, s.world.reported = ready.reported ++ shown ∧ summary.Agrees shown := by
  obtain ⟨blocks, htold⟩ := exists_told h
  obtain ⟨hlength, htakes⟩ := (result?_eq_ok_iff h).1 hsummary
  -- there is one block for every slot
  have hslots : (blocks.map Block.slot).Perm (List.range summary.tasks.length) := by
    refine (List.perm_ext_iff_of_nodup htold.nodup List.nodup_range).2 ?_
    intro slot
    rw [List.mem_range]
    constructor
    · intro hslot
      obtain ⟨b, hmem, rfl⟩ := List.mem_map.1 hslot
      obtain ⟨-, -, -, -, -, -, -, htask, -⟩ := htold.sound b hmem
      rw [hlength]
      exact (List.getElem?_eq_some_iff.1 htask).1
    · intro hlt
      obtain ⟨b, hmem, hslot, -⟩ :=
        htold.exists_block_of_takes (htakes slot _ (List.getElem?_eq_getElem hlt))
      exact List.mem_map.2 ⟨b, hmem, hslot⟩
  have hblocks : blocks.flatMap Block.diagnostics = (blocks.map Block.slot).flatMap fun slot =>
      (summary.tasks[slot]?).elim [] Report.diagnostics := by
    rw [List.flatMap_map]
    apply List.flatMap_congr
    intro b hmem
    have hlt : b.slot < summary.tasks.length :=
      List.mem_range.1 (hslots.subset (List.mem_map_of_mem hmem))
    have hreport := List.getElem?_eq_getElem hlt
    rw [hreport]
    exact diagnostics_of_slot htold hmem (htakes b.slot _ hreport)
  refine ⟨_, htold.reported, Summary.agrees_of_perm ?_ ?_⟩
  · intro r hr
    obtain ⟨slot, hreport⟩ := List.getElem?_of_mem hr
    obtain ⟨b, -, -, hresult⟩ := htold.exists_block_of_takes (htakes slot r hreport)
    exact Report.counts_of_verify_ok hresult
  · rw [hblocks, ← flatMap_range summary.tasks]
    exact hslots.flatMap_right _

end Interleaving

/-- What a run has shown when it ends with a summary agrees with the summary. -/
theorem Run.Ends.exists_agrees {host : Host} {config : Config} {w w' : World} {summary : Summary}
    (h : Run.Ends host config w (.ok summary) w') :
    ∃ shown, w'.reported = w.reported ++ shown ∧ summary.Agrees shown := by
  cases h with
  | scheduled found played ended settled =>
    have hready := (silent_readyTool config).reported_run host w
    rw [found] at hready
    obtain ⟨shown, hshown, hagrees⟩ :=
      Interleaving.exists_agrees (Interleaving.after?_eq_some_iff.1 played) ended
    exact ⟨shown, hready ▸ hshown, hagrees⟩

namespace CommandLine

/-! ### The program -/

/-- **Possible end** of the program in a world: the arguments are not carried out, a variant is
    not known, or a run ends, whatever turns it takes. -/
inductive Ends (host : Host) (env : Environment) (arguments : List String) (w : World) :
    Except Failure (Config × Summary) → World → Prop where
  /-- The arguments are not carried out. -/
  | refused {e : UsageError} (refused : Arguments.parse arguments = .error e) :
      Ends host env arguments w (.error (.usage e)) w
  /-- A variant is not known. -/
  | unknown {a : Arguments} {e : UnknownVariant} (parsed : Arguments.parse arguments = .ok a)
      (unknown : Config.ofArguments env a = .error e) :
      Ends host env arguments w (.error (.variant e)) w
  /-- The run is aborted. -/
  | aborted {a : Arguments} {config : Config} {e : RunError} {w' : World}
      (parsed : Arguments.parse arguments = .ok a)
      (configured : Config.ofArguments env a = .ok config)
      (ended : Run.Ends host config w (.error e) w') :
      Ends host env arguments w (.error (.run e)) w'
  /-- The run comes to a summary. -/
  | summarized {a : Arguments} {config : Config} {summary : Summary} {w' : World}
      (parsed : Arguments.parse arguments = .ok a)
      (configured : Config.ofArguments env a = .ok config)
      (ended : Run.Ends host config w (.ok summary) w') :
      Ends host env arguments w (.ok (config, summary)) w'

variable {host : Host} {env : Environment} {arguments : List String} {w w' : World}
  {result : Except Failure (Config × Summary)}

/-- The program that performs its tasks one after another ends in one of these ways. -/
theorem ends_perform (host : Host) (env : Environment) (arguments : List String) (w : World) :
    Ends host env arguments w ((perform env arguments).run.run host w).1
      ((perform env arguments).run.run host w).2 := by
  unfold perform
  cases hparse : Arguments.parse arguments with
  | error e => exact .refused hparse
  | ok a =>
    dsimp only
    cases hconfig : Config.ofArguments env a with
    | error e => exact .unknown hparse hconfig
    | ok config =>
      dsimp only
      have hended : Run.Ends host config w _ _ := Run.ends_perform config w
      cases hrun : (Run.perform config).run.run host w with
      | mk result w' =>
        rw [hrun] at hended
        have hadapted : ((Run.perform config).adapt Failure.run).run.run host w =
            (result.mapError Failure.run, w') := Activity.run_adapt hrun _
        cases result with
        | error e =>
          rw [Activity.run_bind_of_error hadapted]
          exact .aborted hparse hconfig hended
        | ok summary =>
          rw [Activity.run_bind_of_ok hadapted]
          exact .summarized hparse hconfig hended

/-! ### The exit status -/

/-- **Accounted**: what the outcome of the program says of what has been shown in its run. -/
structure Accounted (w w' : World) (result : Except Failure (Config × Summary)) : Prop where
  /-- With a summary, it agrees with what has been shown, and the exit status is one if a check
      did not hold and zero otherwise. -/
  summarized : ∀ config summary, result = .ok (config, summary) →
    ∃ shown, w'.reported = w.reported ++ shown ∧ summary.Agrees shown ∧
      (summary.failed ≠ 0 → (outcome result w'.reported).status = 1) ∧
      (summary.failed = 0 → (outcome result w'.reported).status = 0)
  /-- After an error (and not when only help or the version is asked for) the exit status says
      so, and nothing is written as output, whatever has been shown. -/
  broken : ∀ failure, result = .error failure → failure ≠ .usage .displayHelp →
    failure ≠ .usage .displayVersion →
      ∀ reported, (outcome result reported).status = 2 ∧ (outcome result reported).output = ""

/-- **Outcomes account for the run**: in whatever order the tasks of the program end, its exit
    status, its summary and what it has shown agree. -/
theorem outcome_accounts_for_run (h : Ends host env arguments w result w') :
    Accounted w w' result := by
  constructor
  · rintro config summary rfl
    cases h with
    | summarized parsed configured ended =>
      obtain ⟨shown, hshown, hagrees⟩ := ended.exists_agrees
      exact ⟨shown, hshown, hagrees, fun hne => if_neg hne, fun hzero => if_pos hzero⟩
  · rintro failure rfl hhelp hversion reported
    cases failure with
    | usage e =>
      cases e with
      | displayHelp => exact absurd rfl hhelp
      | displayVersion => exact absurd rfl hversion
      | _ => exact ⟨rfl, rfl⟩
    | variant e => exact ⟨rfl, rfl⟩
    | run e => exact ⟨rfl, rfl⟩

theorem eq_ok_of_toOption {ε α : Type} {x : Except ε α} {a : α} (h : x.toOption = some a) :
    x = .ok a := by
  cases x with
  | error e => exact absurd h nofun
  | ok a' => exact congrArg _ (Option.some.inj h)

/-- A command line for two tasks, in the top directory. -/
def twoTasks : List String :=
  ["--skip-build", "--tool", "/", "--scratch-root", "/", "--variant", "ts"]

/-- An environment in which nothing is set. -/
def bareEnvironment : Environment where
  workingDirectory := ⟨["", ""]⟩
  searchPath := []
  values := []

/-- The second of two tasks ends first; each has four checks, and none of them holds. -/
theorem outcome_accounts_for_run_secondFirst :
    ∃ config summary w', Ends (.writing "\"a0\"a1\"a2\"" "\x7b\x7d") bareEnvironment twoTasks
        ⟨.empty, 0, []⟩ (.ok (config, summary)) w' ∧
      (w'.reported.length = 8 ∧ summary.failed = 8) ∧
      (outcome (.ok (config, summary)) w'.reported).status = 1 ∧
      Accounted ⟨.empty, 0, []⟩ w' (.ok (config, summary)) := by
  let config : Config := { Interleaving.bothModesReady with toolRoot := ⟨["", "."]⟩ }
  have hconfig : ∃ a, Arguments.parse twoTasks = .ok a ∧
      Config.ofArguments bareEnvironment a = .ok config := by
    have hparse : (Arguments.parse twoTasks).toOption.bind (fun a =>
        (Config.ofArguments bareEnvironment a).toOption) = some config := by
      decide +kernel
    obtain ⟨a, ha, hc⟩ := Option.bind_eq_some_iff.1 hparse
    exact ⟨a, eq_ok_of_toOption ha, eq_ok_of_toOption hc⟩
  obtain ⟨a, hparsed, hconfigured⟩ := hconfig
  -- the schedule is played to its end, and the numbers are read off the last state
  have hcounts : ((Interleaving.start config ⟨["", ""]⟩ ⟨.empty, 0, []⟩).after?
      (.writing "\"a0\"a1\"a2\"" "\x7b\x7d") Interleaving.secondFirst).bind (fun s =>
        s.result?.map fun r => (r.toOption.map Summary.failed, s.world.reported.length,
          s.orphans.length)) = some (some 8, 8, 0) := by
    decide +kernel
  -- what was read off tells that there is an end, and which
  obtain ⟨s, hplayed, hresult⟩ := Option.bind_eq_some_iff.1 hcounts
  obtain ⟨result, hended, hnumbers⟩ := Option.map_eq_some_iff.1 hresult
  obtain ⟨hmapped, hlast⟩ := Prod.mk.inj hnumbers
  obtain ⟨hshown, horphans⟩ := Prod.mk.inj hlast
  obtain ⟨summary, hok, hfailed⟩ := Option.map_eq_some_iff.1 hmapped
  obtain rfl := eq_ok_of_toOption hok
  have hends : Ends (.writing "\"a0\"a1\"a2\"" "\x7b\x7d") bareEnvironment twoTasks
      ⟨.empty, 0, []⟩ (.ok (config, summary)) s.world :=
    .summarized hparsed hconfigured
      (.scheduled rfl hplayed hended (List.length_eq_zero_iff.1 horphans))
  refine ⟨config, summary, s.world, hends, ⟨hshown, hfailed⟩, ?_, outcome_accounts_for_run hends⟩
  exact if_neg (by rw [hfailed]; decide)

end CommandLine

end MapAudit
