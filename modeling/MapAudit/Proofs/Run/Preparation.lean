import MapAudit.Proofs.Build.Tool
import MapAudit.Proofs.Run.Requests

/-! # What comes before the tasks

    A run first has the tool made, unless that is skipped, and then looks for it. `Made` says
    what becomes of the files meanwhile, and with what error it may end:

    * If the tool cannot be made, that is the end of the run, and nothing has happened but
      the making. Nobody has looked for the tool.
    * Otherwise the tool is looked for among the files that the making has left. If it is not
      found, that is the end of the run, and nothing has happened but the making and the
      looking.
    * Otherwise the tasks are launched, with these files and this tool, and no other program
      is launched any more.
-/

namespace MapAudit

open Activity

variable {host : Host} {config : Config} {root p tool : Path} {given : Option Path}
  {searchPath : List Path} {requests : List Request} {e : BuildError} {left : FileTree}
  {w w' : World} {result : Except RunError Summary}

namespace Tool

/-! ### Making -/

theorem asked_prepare (root : Path) (w : World) :
    (prepare root).run.asked host w = [(w, .launch maker [] root)] :=
  asked_launchOrFail w

theorem run_prepare_of_none (h : host.launch maker [] root w.tree = none) :
    (prepare root).run.run host w = (.error (.spawnFailed maker), w) :=
  run_launchOrFail_of_none h

theorem run_prepare_of_some {exit : Exit}
    (h : host.launch maker [] root w.tree = some (exit, left)) :
    (prepare root).run.run host w =
      (if exit.status = some 0 then .ok ()
        else .error (.prepareFailed root exit.code (Text.decodeLossy exit.errors)),
        w.withTree left) :=
  run_launchOrFail_of_some h

/-! ### Looking -/

/-- Where a tool is **looked for**: where it is said to be, or else in its own directory and
    then along the search path. -/
def looks (given : Option Path) (root : Path) (searchPath : List Path) : List Request :=
  match given with
  | some p => [.hasNode p]
  | none =>
    .hasFile (root.join name) :: searchPath.map fun directory => .hasProgram (directory.join name)

/-- Along the search path, the places are looked at in order, and all of them if there is no
    tool. -/
theorem asked_searchAlong (directories : List Path) (w : World) :
    ((searchAlong directories).asked host w).map Prod.snd <+:
        directories.map (fun directory => .hasProgram (directory.join name)) ∧
      (((searchAlong directories).run host w).1 = none →
        ((searchAlong directories).asked host w).map Prod.snd =
          directories.map fun directory => .hasProgram (directory.join name)) := by
  induction directories with
  | nil => exact ⟨List.prefix_refl _, fun _ => rfl⟩
  | cons directory rest ih =>
    have hasked : (hasProgram (directory.join name)).asked host w =
        [(w, .hasProgram (directory.join name))] := rfl
    unfold searchAlong
    rw [asked_bind, run_bind, run_hasProgram, hasked, List.map_append, List.map_cons]
    -- The search goes on behind a directory only if there is no program in it.
    cases w.tree.hasProgram host.base (directory.join name) with
    | true =>
      refine ⟨List.cons_prefix_cons.2 ⟨rfl, List.nil_prefix⟩, ?_⟩
      intro hnone
      exact absurd hnone (Option.some_ne_none _)
    | false =>
      exact ⟨List.cons_prefix_cons.2 ⟨rfl, ih.1⟩, fun hnone => congrArg _ (ih.2 hnone)⟩

/-- With a file in its own directory, the tool is not looked for anywhere else. -/
theorem asked_find_of_file {f : File} (h : w.tree.find host.base (root.join name) = .ok (.file f)) :
    (find none root searchPath).run.asked host w = [(w, .hasFile (root.join name))] := by
  unfold find
  refine (asked_bind_of_ok (run_lift (hasFile (root.join name)) w)).trans ?_
  rw [asked_lift, run_hasFile, hasFile_eq_true_iff.2 ⟨f, h⟩]
  rfl

/-- Without one, it is looked for along the search path. -/
theorem asked_find_of_no_file
    (h : ∀ f, w.tree.find host.base (root.join name) ≠ .ok (.file f)) :
    (find none root searchPath).run.asked host w =
      (w, .hasFile (root.join name)) :: (searchAlong searchPath).asked host w := by
  unfold find
  refine (asked_bind_of_ok (run_lift (hasFile (root.join name)) w)).trans ?_
  rw [asked_lift, run_hasFile, hasFile_eq_false_iff.2 h]
  refine congrArg ((w, Request.hasFile (root.join name)) :: ·) ?_
  refine (asked_bind_of_ok (run_lift (searchAlong searchPath) w)).trans ?_
  rw [asked_lift]
  cases ((searchAlong searchPath).run host w).1 <;> exact List.append_nil _

/-- The places are looked at in order, and all of them if the tool is not found. -/
theorem asked_find {found : Except BuildError Path}
    (h : Finds host.base w.tree root searchPath given found) :
    ((find given root searchPath).run.asked host w).map Prod.snd <+:
        looks given root searchPath ∧
      ∀ e, found = .error e →
        ((find given root searchPath).run.asked host w).map Prod.snd =
          looks given root searchPath := by
  cases h with
  | said there =>
    rw [asked_find_some]
    exact ⟨List.prefix_refl _, nofun⟩
  | missing nothing =>
    rw [asked_find_some]
    exact ⟨List.prefix_refl _, fun _ _ => rfl⟩
  | atHome file =>
    rw [asked_find_of_file file]
    exact ⟨List.cons_prefix_cons.2 ⟨rfl, List.nil_prefix⟩, nofun⟩
  | along noFile path program first =>
    rw [asked_find_of_no_file noFile, List.map_cons]
    exact ⟨List.cons_prefix_cons.2 ⟨rfl, (asked_searchAlong searchPath w).1⟩, nofun⟩
  | nowhere noFile noProgram =>
    -- nowhere on the search path: all of it has been looked at
    have hnone : ((searchAlong searchPath).run host w).1 = none := by
      rw [run_searchAlong]
      exact find?_eq_none noProgram
    have hall := (asked_searchAlong searchPath w).2 hnone
    rw [asked_find_of_no_file noFile, List.map_cons, hall]
    exact ⟨List.prefix_refl _, fun _ _ => rfl⟩

end Tool

namespace Run

/-! ### Making and looking -/

/-- **Made**: what is asked when the tool is made, what error that comes to, if any, and the
    files that it leaves. -/
inductive Made (host : Host) (config : Config) (tree : FileTree) :
    List Request → Option BuildError → FileTree → Prop where
  /-- Making is skipped. -/
  | skipped (skip : config.skipBuild = true) : Made host config tree [] none tree
  /-- The maker cannot be started. -/
  | unstarted (wanted : config.skipBuild = false)
      (launch : host.launch Tool.maker [] config.toolRoot tree = none) :
      Made host config tree [.launch Tool.maker [] config.toolRoot]
        (some (.spawnFailed Tool.maker)) tree
  /-- The maker does not succeed. It may have changed files all the same. -/
  | failed {exit : Exit} {left : FileTree} (wanted : config.skipBuild = false)
      (launch : host.launch Tool.maker [] config.toolRoot tree = some (exit, left))
      (status : exit.status ≠ some 0) :
      Made host config tree [.launch Tool.maker [] config.toolRoot]
        (some (.prepareFailed config.toolRoot exit.code (Text.decodeLossy exit.errors))) left
  /-- The maker succeeds. -/
  | made {exit : Exit} {left : FileTree} (wanted : config.skipBuild = false)
      (launch : host.launch Tool.maker [] config.toolRoot tree = some (exit, left))
      (status : exit.status = some 0) :
      Made host config tree [.launch Tool.maker [] config.toolRoot] none left

/-- Making always comes to one of these. -/
theorem exists_made (host : Host) (config : Config) (tree : FileTree) :
    ∃ requests failure left, Made host config tree requests failure left := by
  cases hskip : config.skipBuild with
  | true => exact ⟨_, _, _, .skipped hskip⟩
  | false =>
    cases hlaunch : host.launch Tool.maker [] config.toolRoot tree with
    | none => exact ⟨_, _, _, .unstarted hskip hlaunch⟩
    | some outcome =>
      obtain ⟨exit, left⟩ := outcome
      by_cases hstatus : exit.status = some 0
      · exact ⟨_, _, _, .made hskip hlaunch hstatus⟩
      · exact ⟨_, _, _, .failed hskip hlaunch hstatus⟩

theorem readyTool_of_wanted (h : config.skipBuild = false) :
    readyTool config = Tool.prepare config.toolRoot >>= fun _ =>
      Tool.find config.tool config.toolRoot config.searchPath := by
  unfold readyTool
  rw [if_neg (by rw [h]; exact Bool.false_ne_true)]

/-- Without a tool to look for, nothing but the making happens. -/
theorem readyTool_of_failure (h : Made host config w.tree requests (some e) left) :
    (readyTool config).run.run host w = (.error e, w.withTree left) ∧
      ((readyTool config).run.asked host w).map Prod.snd = requests := by
  cases h with
  | unstarted wanted launch =>
    have hprepare := Tool.run_prepare_of_none launch
    rw [readyTool_of_wanted wanted, asked_bind_of_error hprepare, Tool.asked_prepare]
    exact ⟨run_bind_of_error hprepare, rfl⟩
  | failed wanted launch status =>
    have hprepare := Tool.run_prepare_of_some launch
    rw [if_neg status] at hprepare
    rw [readyTool_of_wanted wanted, asked_bind_of_error hprepare, Tool.asked_prepare]
    exact ⟨run_bind_of_error hprepare, rfl⟩

/-- Otherwise it is looked for among the files that the making has left. -/
theorem readyTool_of_made (h : Made host config w.tree requests none left) :
    (readyTool config).run.run host w =
        (Tool.find config.tool config.toolRoot config.searchPath).run.run host (w.withTree left) ∧
      ((readyTool config).run.asked host w).map Prod.snd = requests ++
        ((Tool.find config.tool config.toolRoot config.searchPath).run.asked host
          (w.withTree left)).map Prod.snd := by
  cases h with
  | skipped skip =>
    have hready : readyTool config =
        Tool.find config.tool config.toolRoot config.searchPath := by
      unfold readyTool
      rw [if_pos skip]
    rw [hready]
    exact ⟨rfl, rfl⟩
  | made wanted launch status =>
    have hprepare := Tool.run_prepare_of_some launch
    rw [if_pos status] at hprepare
    rw [readyTool_of_wanted wanted, asked_bind_of_ok hprepare, Tool.asked_prepare]
    exact ⟨run_bind_of_ok hprepare, rfl⟩

/-! ### Recorded runs -/

/-- **Recorded end** of a run in a world: a possible end, with the requests that have taken
    effect until then, in their order. -/
inductive Recorded (host : Host) (config : Config) (w : World) :
    List Request → Except RunError Summary → World → Prop where
  /-- Without a tool no task is launched. -/
  | unready {e : BuildError} {w' : World}
      (failed : (readyTool config).run.run host w = (.error e, w')) :
      Recorded host config w (((readyTool config).run.asked host w).map Prod.snd)
        (.error (.build e)) w'
  /-- With a tool the tasks run in some order. -/
  | scheduled {tool : Path} {ready : World} {turns : List Turn} {s : Interleaving}
      {result : Except RunError Summary}
      (found : (readyTool config).run.run host w = (.ok tool, ready))
      (played : (Interleaving.start config tool ready).after? host turns = some s)
      (ended : s.result? = some result)
      (settled : s.orphans = []) :
      Recorded host config w
        (((readyTool config).run.asked host w).map Prod.snd ++
          (Interleaving.start config tool ready).record host turns) result s.world

/-- Every possible end has a record. -/
theorem ends_iff_exists_recorded :
    Ends host config w result w' ↔ ∃ requests, Recorded host config w requests result w' := by
  constructor
  · intro h
    cases h with
    | unready failed => exact ⟨_, .unready failed⟩
    | scheduled found played ended settled => exact ⟨_, .scheduled found played ended settled⟩
  · rintro ⟨requests, h⟩
    cases h with
    | unready failed => exact .unready failed
    | scheduled found played ended settled => exact .scheduled found played ended settled

/-- What is in the record of a run is all that has changed the world. -/
theorem Recorded.world_eq_replay (h : Recorded host config w requests result w') :
    w' = w.replay host requests := by
  cases h with
  | @unready e w' failed =>
    have hreplay := (readyTool config).run.run_eq_replay host w
    rw [failed] at hreplay
    exact hreplay
  | scheduled found played ended settled =>
    have hreplay := (readyTool config).run.run_eq_replay host w
    rw [found] at hreplay
    rw [World.replay_append, ← hreplay]
    exact Interleaving.world_eq_replay played

/-- Without a tool there is one end and one record. -/
theorem recorded_iff_of_error (h : (readyTool config).run.run host w = (.error e, w')) :
    ∀ requests result w'', Recorded host config w requests result w'' ↔
      requests = ((readyTool config).run.asked host w).map Prod.snd ∧
        result = .error (.build e) ∧ w'' = w' := by
  intro requests result w''
  constructor
  · intro hrecorded
    cases hrecorded with
    | unready failed =>
      obtain ⟨herror, rfl⟩ := Prod.mk.inj (failed.symm.trans h)
      obtain rfl := Except.error.inj herror
      exact ⟨rfl, rfl, rfl⟩
    | scheduled found played ended settled => exact absurd (found.symm.trans h) (by simp)
  · rintro ⟨rfl, rfl, rfl⟩
    exact .unready h

/-- With a tool, ends and records are those of the schedules. -/
theorem recorded_iff_of_ok {ready : World}
    (h : (readyTool config).run.run host w = (.ok tool, ready)) :
    ∀ requests result w', Recorded host config w requests result w' ↔
      ∃ turns s, (Interleaving.start config tool ready).after? host turns = some s ∧
        s.result? = some result ∧ s.orphans = [] ∧ w' = s.world ∧
        requests = ((readyTool config).run.asked host w).map Prod.snd ++
          (Interleaving.start config tool ready).record host turns := by
  intro requests result w'
  constructor
  · intro hrecorded
    cases hrecorded with
    | unready failed => exact absurd (failed.symm.trans h) (by simp)
    | scheduled found played ended settled =>
      obtain ⟨hok, rfl⟩ := Prod.mk.inj (found.symm.trans h)
      obtain rfl := Except.ok.inj hok
      exact ⟨_, _, played, ended, settled, rfl, rfl⟩
  · rintro ⟨turns, s, played, ended, settled, rfl, rfl⟩
    exact .scheduled h played ended settled

/-! ### Preparation -/

/-- **Preparation** of the runs in a world. -/
structure Prepares (host : Host) (config : Config) (w : World) : Prop where
  /-- Every end has a record, and nothing else has changed the world. -/
  recorded : ∀ result w', Ends host config w result w' ↔
    ∃ requests, Recorded host config w requests result w'
  replayed : ∀ requests result w', Recorded host config w requests result w' →
    w' = w.replay host requests
  /-- The tool is made, or making it fails, or is skipped. -/
  makes : ∃ requests failure left, Made host config w.tree requests failure left
  /-- If it fails, this ends the run, wherever there may be a tool. Nothing else takes effect
      and only the files that were changed by the making are changed. -/
  fails : ∀ requests e left, Made host config w.tree requests (some e) left →
    ∀ all result w', Recorded host config w all result w' ↔
      all = requests ∧ result = .error (.build e) ∧ w' = w.withTree left
  /-- If there is no tool among the files that are left, this ends the run. Nothing else takes
      effect but that the tool is looked for. -/
  missing : ∀ requests left e, Made host config w.tree requests none left →
    Tool.Finds host.base left config.toolRoot config.searchPath config.tool (.error e) →
    e = .toolNotFound (config.tool.getD (config.toolRoot.join Tool.name)) ∧
      ∀ all result w', Recorded host config w all result w' ↔
        all = requests ++ Tool.looks config.tool config.toolRoot config.searchPath ∧
          result = .error (.build e) ∧ w' = w.withTree left
  /-- If there is a tool among them, the tasks are launched with it and with these files. From
      then on no program is launched but this tool, each time on the entry file of a fixture
      and in a scratch directory. -/
  finds : ∀ requests left tool, Made host config w.tree requests none left →
    Tool.Finds host.base left config.toolRoot config.searchPath config.tool (.ok tool) →
    ∃ looked, looked <+: Tool.looks config.tool config.toolRoot config.searchPath ∧
      (∀ all result w', Recorded host config w all result w' ↔
        ∃ turns s, (Interleaving.start config tool (w.withTree left)).after? host turns = some s ∧
          s.result? = some result ∧ s.orphans = [] ∧ w' = s.world ∧
          all = requests ++ looked ++
            (Interleaving.start config tool (w.withTree left)).record host turns) ∧
      ∀ turns s, (Interleaving.start config tool (w.withTree left)).after? host turns = some s →
        ∀ r ∈ (Interleaving.start config tool (w.withTree left)).record host turns, r.IsLaunch →
          ∃ task ∈ Task.ofConfig config, ∃ entry number,
            Fixture.entry? (.ofVariant task.variant) = some entry ∧
            r = .launch tool (task.flags.arguments entry.path)
              (Scratch.pathOf config.scratchRoot number)
  /-- If the making is skipped, it never takes place: nothing with the name of the maker is
      launched without arguments. -/
  skips : config.skipBuild = true → ∀ all result w', Recorded host config w all result w' →
    ∀ directory, .launch Tool.maker [] directory ∉ all

/-- Looking launches nothing. -/
theorem not_isLaunch_of_mem_looks {r : Request} (h : r ∈ Tool.looks given root searchPath) :
    ¬ r.IsLaunch := by
  rintro ⟨program, arguments, directory, rfl⟩
  cases given with
  | some p => exact absurd (List.mem_singleton.1 h) nofun
  | none =>
    rcases List.mem_cons.1 h with heq | h
    · exact absurd heq nofun
    · obtain ⟨_, _, heq⟩ := List.mem_map.1 h
      exact absurd heq nofun

/-- All that the tasks launch is the tool. -/
theorem MayAsk.of_isLaunch {r : Request} (h : MayAsk config tool r) (hr : r.IsLaunch) :
    ∃ task ∈ Task.ofConfig config, ∃ entry number,
      Fixture.entry? (.ofVariant task.variant) = some entry ∧
      r = .launch tool (task.flags.arguments entry.path)
        (Scratch.pathOf config.scratchRoot number) := by
  cases h with
  | quiet hquiet => exact absurd hr hquiet.not_isLaunch
  | report d =>
    obtain ⟨_, _, _, heq⟩ := hr
    exact absurd heq nofun
  | @launch task entry number mem first => exact ⟨task, mem, entry, number, first, rfl⟩

/-- What is not found is named by the error: where the tool is said to be, or else its place in
    its own directory. -/
theorem eq_toolNotFound_of_finds {base : Location}
    (h : Tool.Finds base left root searchPath given (.error e)) :
    e = .toolNotFound (given.getD (root.join Tool.name)) := by
  cases h with
  | missing nothing => rfl
  | nowhere noFile noProgram => rfl

theorem recorded_iff_of_failure (h : Made host config w.tree requests (some e) left) :
    ∀ all result w', Recorded host config w all result w' ↔
      all = requests ∧ result = .error (.build e) ∧ w' = w.withTree left := by
  obtain ⟨hrun, hasked⟩ := readyTool_of_failure h
  have hrecorded := recorded_iff_of_error hrun
  rwa [hasked] at hrecorded

theorem recorded_iff_of_missing (h : Made host config w.tree requests none left)
    (hfinds : Tool.Finds host.base left config.toolRoot config.searchPath config.tool (.error e)) :
    ∀ all result w', Recorded host config w all result w' ↔
      all = requests ++ Tool.looks config.tool config.toolRoot config.searchPath ∧
        result = .error (.build e) ∧ w' = w.withTree left := by
  obtain ⟨hrun, hasked⟩ := readyTool_of_made h
  -- The files among which the tool is looked for are those that the maker has left.
  rw [Tool.run_find_of_finds (w := w.withTree left) hfinds] at hrun
  have hall := (Tool.asked_find (w := w.withTree left) hfinds).2 e rfl
  have hrecorded := recorded_iff_of_error hrun
  rwa [hasked, hall] at hrecorded

theorem exists_recorded_iff_of_found (h : Made host config w.tree requests none left)
    (hfinds : Tool.Finds host.base left config.toolRoot config.searchPath config.tool (.ok tool)) :
    ∃ looked, looked <+: Tool.looks config.tool config.toolRoot config.searchPath ∧
      ∀ all result w', Recorded host config w all result w' ↔
        ∃ turns s, (Interleaving.start config tool (w.withTree left)).after? host turns = some s ∧
          s.result? = some result ∧ s.orphans = [] ∧ w' = s.world ∧
          all = requests ++ looked ++
            (Interleaving.start config tool (w.withTree left)).record host turns := by
  obtain ⟨hrun, hasked⟩ := readyTool_of_made h
  rw [Tool.run_find_of_finds (w := w.withTree left) hfinds] at hrun
  have hprefix := (Tool.asked_find (w := w.withTree left) hfinds).1
  have hrecorded := recorded_iff_of_ok hrun
  rw [hasked] at hrecorded
  exact ⟨_, hprefix, hrecorded⟩

/-- If it is skipped, nothing in the record of a run is the making of the tool. -/
theorem not_mem_of_skipped (h : config.skipBuild = true) {all : List Request}
    (hrecorded : Recorded host config w all result w') (directory : Path) :
    .launch Tool.maker [] directory ∉ all := by
  intro hmem
  have hlaunch : Request.IsLaunch (.launch Tool.maker [] directory) := ⟨_, _, _, rfl⟩
  -- Nothing is asked before the tool is looked for, so that only looks and tasks are left.
  have hmade : Made host config w.tree [] none w.tree := .skipped h
  obtain ⟨found, hfinds⟩ :=
    Tool.exists_finds host.base w.tree config.tool config.toolRoot config.searchPath
  cases found with
  | error e =>
    obtain ⟨rfl, -, -⟩ := (recorded_iff_of_missing hmade hfinds all result w').1 hrecorded
    exact not_isLaunch_of_mem_looks hmem hlaunch
  | ok tool =>
    obtain ⟨looked, hlooks, hiff⟩ := exists_recorded_iff_of_found hmade hfinds
    obtain ⟨turns, s, hplayed, -, -, -, rfl⟩ := (hiff all result w').1 hrecorded
    rcases List.mem_append.1 hmem with hlooked | htask
    · exact not_isLaunch_of_mem_looks (hlooks.subset hlooked) hlaunch
    · -- a task gives the tool arguments, whatever program the tool is
      have hmay := Interleaving.mayAsk_of_mem_record hplayed htask
      obtain ⟨task, -, entry, number, -, heq⟩ := hmay.of_isLaunch hlaunch
      obtain ⟨-, harguments, -⟩ := Request.launch.inj heq
      exact absurd harguments (by simp [BuildFlags.arguments])

/-- **The tool comes first**: every run in every world is prepared like this. -/
theorem preparation_comes_first (host : Host) (config : Config) (w : World) :
    Prepares host config w where
  recorded _ _ := ends_iff_exists_recorded
  replayed _ _ _ h := h.world_eq_replay
  makes := exists_made host config w.tree
  fails _ _ _ h := recorded_iff_of_failure h
  missing _ _ _ h hfinds := ⟨eq_toolNotFound_of_finds hfinds, recorded_iff_of_missing h hfinds⟩
  finds _ _ tool h hfinds := by
    obtain ⟨looked, hprefix, hrecorded⟩ := exists_recorded_iff_of_found h hfinds
    refine ⟨looked, hprefix, hrecorded, fun turns s hplayed r hr hlaunch => ?_⟩
    exact (Interleaving.mayAsk_of_mem_record hplayed hr).of_isLaunch hlaunch
  skips h _ _ _ hrecorded := not_mem_of_skipped h hrecorded

/-- A maker that clears all files away. The tool that was in its directory is not found. -/
example :
    (readyTool ⟨none, ⟨["t"]⟩, [], false, .empty, false, [.ts], [.plain], .human⟩).run.run
        ⟨[], fun _ _ _ _ => some (⟨some 0, .empty⟩, .empty)⟩
        ⟨.directory (.usual 0o755) [("t", .directory (.usual 0o755)
          [("esbuild", .ofBytes .empty true)])], 0, []⟩ =
      (.error (.toolNotFound ⟨["t", "esbuild"]⟩), ⟨.empty, 0, []⟩) := by
  rfl

end Run

end MapAudit
