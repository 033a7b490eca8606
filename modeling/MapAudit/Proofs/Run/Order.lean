import MapAudit.Proofs.Run.Faults
import MapAudit.Proofs.Run.Reports
import MapAudit.Proofs.Run.Turns

/-! # The order of a summary

    Tasks end in any order, and the run takes their reports in any order. Each report goes
    into the slot of its task, so the summary has the reports in the order of launching.

    The reports that a run has taken are accounted for: while there is no error, the tasks
    that are gone are just those whose reports have been taken. A run that is over without
    an error therefore has a report for every slot, and the filled slots are the summary.
-/

namespace MapAudit

/-! ### Slots of a summary -/

namespace Summary

@[simp] theorem length_fill (slots : List (Option Report)) (e : Nat × Report) :
    (fill slots e).length = slots.length := by
  obtain ⟨slot, report⟩ := e
  exact List.length_set

@[simp] theorem length_foldl_fill (slots : List (Option Report)) (ended : List (Nat × Report)) :
    (ended.foldl fill slots).length = slots.length := by
  induction ended generalizing slots with
  | nil => rfl
  | cons e rest ih => rw [List.foldl_cons, ih, length_fill]

/-- A slot that has one report only has it in the end, whenever it came. -/
theorem getElem?_foldl_fill {slots : List (Option Report)} {ended : List (Nat × Report)}
    {slot : Nat} {report : Report} (hslot : slot < slots.length)
    (hunique : ∀ report', (slot, report') ∈ ended → report' = report)
    (h : (slot, report) ∈ ended ∨ slots[slot]? = some (some report)) :
    (ended.foldl fill slots)[slot]? = some (some report) := by
  induction ended generalizing slots with
  | nil =>
    rcases h with hmem | hfilled
    · exact absurd hmem (by simp)
    · exact hfilled
  | cons e rest ih =>
    obtain ⟨slot', report'⟩ := e
    have hrest : ∀ r, (slot, r) ∈ rest → r = report :=
      fun r hr => hunique r (List.mem_cons_of_mem _ hr)
    rw [List.foldl_cons]
    apply ih (by rwa [length_fill]) hrest
    by_cases hsame : slot' = slot
    · -- this is the report of the slot, and no other one will come
      subst hsame
      obtain rfl := hunique report' List.mem_cons_self
      exact Or.inr (List.getElem?_set_self hslot)
    · rcases h with hmem | hfilled
      · rcases List.mem_cons.1 hmem with heq | hmem
        · exact absurd (Prod.mk.inj heq).1.symm hsame
        · exact Or.inl hmem
      · exact Or.inr ((List.getElem?_set_ne hsame).trans hfilled)

/-- **Collected in slots**: reports for all slots are the summary, in the order of the
    slots, whatever the order in which they came. -/
theorem collect_eq {ended : List (Nat × Report)} {reports : List Report}
    (h : ∀ slot report, reports[slot]? = some report → (slot, report) ∈ ended)
    (hunique : ∀ slot report report', (slot, report) ∈ ended → (slot, report') ∈ ended →
      report' = report) :
    collect reports.length ended = ⟨reports⟩ := by
  have hfilled : ended.foldl fill (List.replicate reports.length none) = reports.map some := by
    apply List.ext_getElem?
    intro slot
    cases hreport : reports[slot]? with
    | none =>
      have hle := List.getElem?_eq_none_iff.1 hreport
      rw [List.getElem?_map, hreport, List.getElem?_eq_none_iff.2 (by simpa using hle)]
      rfl
    | some report =>
      obtain ⟨hlt, -⟩ := List.getElem?_eq_some_iff.1 hreport
      have hmem := h slot report hreport
      rw [List.getElem?_map, hreport]
      exact getElem?_foldl_fill (by simpa using hlt)
        (fun report' hmem' => hunique slot report report' hmem hmem') (Or.inl hmem)
  rw [collect, hfilled, List.filterMap_map]
  simp

end Summary

/-! ### Slots of the tasks -/

namespace Task

/-- **Launch order**: the tasks of a mode follow those of the modes before it. -/
theorem getElem?_flatMap {modes : List Mode} {variants : List Variant} {i j : Nat} {mode : Mode}
    {variant : Variant} (hmode : modes[i]? = some mode) (hvariant : variants[j]? = some variant) :
    (modes.flatMap fun mode => variants.map fun variant => ({ variant, mode } : Task))[
      i * variants.length + j]? = some { variant, mode } := by
  obtain ⟨hj, -⟩ := List.getElem?_eq_some_iff.1 hvariant
  induction modes generalizing i with
  | nil => simp at hmode
  | cons first rest ih =>
    rw [List.flatMap_cons]
    cases i with
    | zero =>
      obtain rfl : first = mode := by simpa using hmode
      rw [Nat.zero_mul, Nat.zero_add, List.getElem?_append_left (by simpa using hj),
        List.getElem?_map, hvariant]
      rfl
    | succ i =>
      -- the place is behind the tasks of the first mode
      have hbehind : (variants.map fun variant => ({ variant, mode := first } : Task)).length ≤
          (i + 1) * variants.length + j := by
        rw [List.length_map, Nat.succ_mul]
        omega
      rw [List.getElem?_append_right hbehind, List.length_map, Nat.succ_mul,
        show i * variants.length + variants.length + j - variants.length =
          i * variants.length + j by omega]
      exact ih (by simpa using hmode)

theorem getElem?_ofConfig {config : Config} {i j : Nat} {mode : Mode} {variant : Variant}
    (hmode : config.modes[i]? = some mode) (hvariant : config.variants[j]? = some variant) :
    (ofConfig config)[i * config.variants.length + j]? = some { variant, mode } :=
  getElem?_flatMap hmode hvariant

theorem length_ofConfig (config : Config) :
    (ofConfig config).length = config.modes.length * config.variants.length := by
  unfold ofConfig
  induction config.modes with
  | nil => simp
  | cons mode rest ih =>
    rw [List.flatMap_cons, List.length_append, ih, List.length_map, List.length_cons,
      Nat.succ_mul, Nat.add_comm]

end Task

namespace Interleaving

variable {host : Host} {config : Config} {tool : Path} {ready : World} {turns : List Turn}
  {s : Interleaving}

/-! ### What has been taken -/

/-- The reports of a state are those that have been taken from the slots. -/
theorem mem_reports_iff (h : Reached host (start config tool ready) turns s) {slot : Nat}
    {report : Report} :
    (slot, report) ∈ s.reports ↔ Takes host (start config tool ready) turns slot (.ok report) := by
  induction h with
  | here =>
    have hnone : (slot, report) ∉ (start config tool ready).reports := by simp [start]
    exact iff_of_false hnone not_takes_nil
  | turn before last ih =>
    rw [takes_append_singleton_iff before, ← ih]
    cases last with
    | work _ => simp
    | answer _ => simp
    | report ended =>
      rw [List.mem_append, List.mem_singleton, Prod.mk.injEq]
      apply or_congr Iff.rfl
      constructor
      · rintro ⟨rfl, rfl⟩
        exact ⟨rfl, _, ended⟩
      · rintro ⟨hslot, held, hended⟩
        obtain rfl := Turn.take.inj hslot
        exact ⟨rfl, Except.ok.inj (eq_of_ended hended ended)⟩
    | failure ended =>
      refine (or_iff_left ?_).symm
      -- what was taken is an error, so no report comes to this slot
      rintro ⟨hslot, held, hended⟩
      obtain rfl := Turn.take.inj hslot
      exact absurd (eq_of_ended ended hended) nofun
    | settle _ => simp

/-- The error of a state is the result of some task. -/
theorem exists_takes_error (h : Reached host (start config tool ready) turns s) {e : RunError}
    (he : s.error = some e) :
    ∃ slot, Takes host (start config tool ready) turns slot (.error e) := by
  induction h with
  | here => exact absurd he nofun
  | turn before last ih =>
    have hearlier : ∀ {turn}, (∃ slot, Takes host (start config tool ready) _ slot (.error e)) →
        ∃ slot, Takes host (start config tool ready) (_ ++ [turn]) slot (.error e) :=
      fun ⟨slot, htakes⟩ => ⟨slot, (takes_append_singleton_iff before).2 (Or.inl htakes)⟩
    cases last with
    | work _ => exact hearlier (ih he)
    | answer _ => exact hearlier (ih he)
    | report _ => exact hearlier (ih he)
    | failure ended =>
      obtain rfl := Option.some.inj he
      exact ⟨_, (takes_append_singleton_iff before).2 (Or.inr ⟨rfl, _, ended⟩)⟩
    | settle _ => exact hearlier (ih he)

/-- **Accounted for**: without an error, only tasks whose report has been taken are gone. -/
theorem exists_report_of_gone (h : Reached host (start config tool ready) turns s)
    (he : s.error = none) {slot : Nat} {launched : Launched}
    (hslot : s.tasks[slot]? = some launched) (hgone : launched.progress = .gone) :
    ∃ report, (slot, report) ∈ s.reports := by
  induction h generalizing launched with
  | here =>
    simp only [start, List.getElem?_map, Option.map_eq_some_iff] at hslot
    obtain ⟨task, -, rfl⟩ := hslot
    exact absurd hgone nofun
  | turn before last ih =>
    cases last with
    | work working =>
      rcases getElem?_set_cases hslot with ⟨-, rfl⟩ | ⟨-, hslot⟩
      · -- a task at work comes to wait or to end, and is not gone then
        rcases Launched.work_cases host _ _ _ with ⟨r, next, hwaits⟩ | ⟨result, hends⟩
        · exact absurd (hwaits.symm.trans hgone) nofun
        · exact absurd (hends.symm.trans hgone) nofun
      · exact ih he hslot hgone
    | answer _ =>
      rcases getElem?_set_cases hslot with ⟨-, rfl⟩ | ⟨-, hslot⟩
      · exact absurd hgone nofun
      · exact ih he hslot hgone
    | report ended =>
      rcases getElem?_set_cases hslot with ⟨rfl, -⟩ | ⟨-, hslot⟩
      · exact ⟨_, List.mem_append_right _ (List.mem_singleton.2 rfl)⟩
      · obtain ⟨report, hreport⟩ := ih he hslot hgone
        exact ⟨report, List.mem_append_left _ hreport⟩
    | failure _ => exact absurd he nofun
    | settle _ => exact ih he hslot hgone

/-- What is taken from a slot is what the task of the slot may come to. -/
theorem mayCome_of_reached (h : Reached host (start config tool ready) turns s) {slot : Nat}
    {launched : Launched} (hslot : s.tasks[slot]? = some launched)
    {result : Except RunError Report} (hresult : launched.MayCome result) :
    ∃ task, (Task.ofConfig config)[slot]? = some task ∧
      (task.perform config tool).run.MayEnd result := by
  induction h generalizing launched with
  | here =>
    simp only [start, List.getElem?_map, Option.map_eq_some_iff] at hslot
    obtain ⟨task, htask, rfl⟩ := hslot
    exact ⟨task, htask, hresult⟩
  | turn before last ih =>
    cases last with
    | work working =>
      rcases getElem?_set_cases hslot with ⟨rfl, rfl⟩ | ⟨-, hslot⟩
      · exact ih working (Launched.mayEnd_of_mayCome_work hresult)
      · exact ih hslot hresult
    | answer waiting =>
      rcases getElem?_set_cases hslot with ⟨rfl, rfl⟩ | ⟨-, hslot⟩
      · exact ih waiting ⟨_, hresult⟩
      · exact ih hslot hresult
    | report _ =>
      rcases getElem?_set_cases hslot with ⟨-, rfl⟩ | ⟨-, hslot⟩
      · exact hresult.elim
      · exact ih hslot hresult
    | failure _ =>
      obtain rfl := getElem?_fail hslot
      exact hresult.elim
    | settle _ => exact ih hslot hresult

theorem mayEnd_of_takes {slot : Nat} {result : Except RunError Report}
    (htakes : Takes host (start config tool ready) turns slot result) :
    ∃ task, (Task.ofConfig config)[slot]? = some task ∧
      (task.perform config tool).run.MayEnd result := by
  obtain ⟨before, after, t, held, rfl, ht, hslot⟩ := htakes
  have hended : (⟨.ended result, held⟩ : Launched).MayCome result := rfl
  exact mayCome_of_reached (after?_eq_some_iff.1 ht) hslot hended

/-! ### The summary -/

theorem length_tasks (h : Reached host (start config tool ready) turns s) :
    s.tasks.length = (Task.ofConfig config).length := by
  apply h.invariant (P := fun s => s.tasks.length = (Task.ofConfig config).length)
  · simp [start]
  · intro s turn s' hs hstep
    rw [hstep.length_tasks, hs]

/-- A slot has one report only. -/
theorem report_unique (h : Reached host (start config tool ready) turns s) {slot : Nat}
    {report report' : Report} (hreport : (slot, report) ∈ s.reports)
    (hreport' : (slot, report') ∈ s.reports) : report' = report := by
  have htakes := (mem_reports_iff h).1 hreport
  have htakes' := (mem_reports_iff h).1 hreport'
  exact Except.ok.inj (takes_unique h htakes' htakes)

theorem collect_reports (h : Reached host (start config tool ready) turns s)
    {reports : List Report} (hlength : reports.length = s.tasks.length)
    (hreports : ∀ slot report, reports[slot]? = some report → (slot, report) ∈ s.reports) :
    Summary.collect s.tasks.length s.reports = ⟨reports⟩ := by
  rw [← hlength]
  exact Summary.collect_eq hreports fun _ _ _ hreport hreport' => report_unique h hreport hreport'

theorem isGone_iff {launched : Launched} :
    isGone launched = true ↔ launched.progress = .gone := by
  cases hprogress : launched.progress <;> simp [isGone, hprogress]

theorem result?_eq_ok {summary : Summary} :
    s.result? = some (.ok summary) ↔
      s.error = none ∧ s.tasks.all isGone = true ∧
        Summary.collect s.tasks.length s.reports = summary := by
  unfold result?
  cases s.error with
  | some e => simp
  | none => simp only [Option.ite_none_right_eq_some, Option.some.injEq, Except.ok.injEq, true_and]

/-- When all tasks are gone without an error, there is a list of their reports. -/
theorem exists_reports (h : Reached host (start config tool ready) turns s)
    (he : s.error = none) (hall : s.tasks.all isGone = true) :
    ∃ reports : List Report, reports.length = s.tasks.length ∧
      ∀ slot report, reports[slot]? = some report → (slot, report) ∈ s.reports := by
  have hslots : ∀ slot : Fin s.tasks.length, ∃ report, (slot.1, report) ∈ s.reports := by
    intro slot
    have hgone := isGone_iff.1 (List.all_eq_true.1 hall _ (List.getElem_mem slot.2))
    exact exists_report_of_gone h he (List.getElem?_eq_getElem slot.2) hgone
  choose reportOf hreportOf using hslots
  refine ⟨List.ofFn reportOf, List.length_ofFn, ?_⟩
  intro slot report hreport
  obtain ⟨hlt, rfl⟩ := List.getElem?_eq_some_iff.1 hreport
  rw [List.getElem_ofFn]
  exact hreportOf ⟨slot, List.length_ofFn (f := reportOf) ▸ hlt⟩

/-- A run that has taken a report from every slot is over without an error. -/
theorem over_of_takes (h : Reached host (start config tool ready) turns s)
    (htakes : ∀ slot < s.tasks.length, ∃ report,
      Takes host (start config tool ready) turns slot (.ok report)) :
    s.error = none ∧ s.tasks.all isGone = true := by
  constructor
  · cases herror : s.error with
    | none => rfl
    | some e =>
      -- an error would have been taken from a slot, which gave a report
      obtain ⟨slot, hfailed⟩ := exists_takes_error h herror
      obtain ⟨launched, hlaunched, -⟩ := exists_gone_of_takes h hfailed
      obtain ⟨hlt, -⟩ := List.getElem?_eq_some_iff.1 hlaunched
      obtain ⟨report, hreport⟩ := htakes slot hlt
      exact absurd (takes_unique h hfailed hreport) nofun
  · rw [List.all_eq_true]
    intro launched hmem
    obtain ⟨slot, hlt, rfl⟩ := List.getElem_of_mem hmem
    obtain ⟨report, hreport⟩ := htakes slot hlt
    obtain ⟨launched, hlaunched, hgone⟩ := exists_gone_of_takes h hreport
    rw [List.getElem?_eq_getElem hlt, Option.some.injEq] at hlaunched
    rw [hlaunched]
    exact isGone_iff.2 hgone

/-- **Summaries**: a run is over with a summary exactly when the summary has a report for
    every slot, and the run has taken it there. -/
theorem result?_eq_ok_iff (h : Reached host (start config tool ready) turns s)
    {summary : Summary} :
    s.result? = some (.ok summary) ↔
      summary.tasks.length = (Task.ofConfig config).length ∧
        ∀ slot report, summary.tasks[slot]? = some report →
          Takes host (start config tool ready) turns slot (.ok report) := by
  rw [result?_eq_ok, ← length_tasks h]
  constructor
  · rintro ⟨he, hall, rfl⟩
    obtain ⟨reports, hlength, hreports⟩ := exists_reports h he hall
    rw [collect_reports h hlength hreports]
    exact ⟨hlength, fun slot report hreport => (mem_reports_iff h).1 (hreports slot report hreport)⟩
  · rintro ⟨hlength, htakes⟩
    obtain ⟨he, hall⟩ := over_of_takes h fun slot hlt =>
      ⟨_, htakes slot _ (List.getElem?_eq_getElem (hlength ▸ hlt))⟩
    refine ⟨he, hall, collect_reports h hlength ?_⟩
    intro slot report hreport
    exact (mem_reports_iff h).2 (htakes slot report hreport)

/-- **In launch order**: what a state of a run says about its summary, whatever the order in
    which the tasks ended. -/
structure InLaunchOrder (config : Config) (tool : Path) (host : Host) (ready : World)
    (turns : List Turn) (s : Interleaving) : Prop where
  /-- There is a summary exactly when every task has succeeded. -/
  complete : (∃ summary, s.result? = some (.ok summary)) ↔
    ∀ slot < config.modes.length * config.variants.length,
      ∃ report, Takes host (start config tool ready) turns slot (.ok report)
  /-- It has one report for each task. -/
  length_eq : ∀ summary, s.result? = some (.ok summary) →
    summary.tasks.length = config.modes.length * config.variants.length
  /-- Mode by mode, it has what the task of each variant came to, under its label. -/
  placed : ∀ summary, s.result? = some (.ok summary) →
    ∀ i j mode variant, config.modes[i]? = some mode → config.variants[j]? = some variant →
      ∃ report, summary.tasks[i * config.variants.length + j]? = some report ∧
        Takes host (start config tool ready) turns (i * config.variants.length + j) (.ok report) ∧
        (Task.perform config tool { variant, mode }).run.MayEnd (.ok report) ∧
        report.kind = variant.name ++ if mode.minify then "-min" else ""

/-- A run in which every task has succeeded is over with a summary. -/
theorem exists_summary_iff (h : Reached host (start config tool ready) turns s) :
    (∃ summary, s.result? = some (.ok summary)) ↔
      ∀ slot < (Task.ofConfig config).length,
        ∃ report, Takes host (start config tool ready) turns slot (.ok report) := by
  constructor
  · rintro ⟨summary, hsummary⟩ slot hslot
    obtain ⟨hlength, htakes⟩ := (result?_eq_ok_iff h).1 hsummary
    rw [← hlength] at hslot
    exact ⟨_, htakes slot _ (List.getElem?_eq_getElem hslot)⟩
  · intro hall
    -- the reports of all slots make up the summary
    choose reportOf hreportOf using fun slot : Fin (Task.ofConfig config).length =>
      hall slot.1 slot.2
    have hlength : (List.ofFn reportOf).length = (Task.ofConfig config).length :=
      List.length_ofFn
    refine ⟨⟨List.ofFn reportOf⟩, (result?_eq_ok_iff h).2 ⟨hlength, fun slot report hreport => ?_⟩⟩
    obtain ⟨hlt, rfl⟩ := List.getElem?_eq_some_iff.1 hreport
    rw [List.getElem_ofFn]
    exact hreportOf ⟨slot, hlength ▸ hlt⟩

theorem inLaunchOrder (h : Reached host (start config tool ready) turns s) :
    InLaunchOrder config tool host ready turns s := by
  constructor
  · rw [exists_summary_iff h, Task.length_ofConfig]
  · intro summary hsummary
    rw [((result?_eq_ok_iff h).1 hsummary).1, Task.length_ofConfig]
  · intro summary hsummary i j mode variant hmode hvariant
    obtain ⟨hlength, htakes⟩ := (result?_eq_ok_iff h).1 hsummary
    have htask := Task.getElem?_ofConfig hmode hvariant
    obtain ⟨hlt, -⟩ := List.getElem?_eq_some_iff.1 htask
    rw [← hlength] at hlt
    have hreport := htakes _ _ (List.getElem?_eq_getElem hlt)
    obtain ⟨task, hslot, hend⟩ := mayEnd_of_takes hreport
    rw [htask, Option.some.injEq] at hslot
    subst hslot
    exact ⟨_, List.getElem?_eq_getElem hlt, hreport, hend, Task.kind_of_mayEnd_perform hend⟩

/-- Two runs that take the same reports from the slots come to the same summary. -/
theorem summary_eq_of_takes {host' : Host} {tool' : Path} {ready' : World} {turns' : List Turn}
    {s' : Interleaving} (h : Reached host (start config tool ready) turns s)
    (h' : Reached host' (start config tool' ready') turns' s') {summary summary' : Summary}
    (hsummary : s.result? = some (.ok summary)) (hsummary' : s'.result? = some (.ok summary'))
    (hsame : ∀ slot report report', Takes host (start config tool ready) turns slot (.ok report) →
      Takes host' (start config tool' ready') turns' slot (.ok report') → report = report') :
    summary = summary' := by
  obtain ⟨hlength, htakes⟩ := (result?_eq_ok_iff h).1 hsummary
  obtain ⟨hlength', htakes'⟩ := (result?_eq_ok_iff h').1 hsummary'
  have htasks : summary.tasks = summary'.tasks := by
    apply List.ext_getElem (hlength.trans hlength'.symm)
    intro slot hlt hlt'
    exact hsame slot _ _ (htakes slot _ (List.getElem?_eq_getElem hlt))
      (htakes' slot _ (List.getElem?_eq_getElem hlt'))
  cases summary
  cases summary'
  exact congrArg Summary.mk htasks

/-- **Summaries in launch order**: whatever turns a run takes, it has a summary exactly when
    every task has succeeded, with their reports in the order of launching. Two schedules in
    which every task comes to the same report have the same summary and the same text. -/
theorem summary_in_launch_order {config : Config} {tool : Path} {host : Host} {ready : World}
    {turns : List Turn} {s : Interleaving}
    (played : (start config tool ready).after? host turns = some s) :
    InLaunchOrder config tool host ready turns s ∧
      ∀ host' tool' ready' turns' s', (start config tool' ready').after? host' turns' = some s' →
        ∀ summary summary', s.result? = some (.ok summary) → s'.result? = some (.ok summary') →
          (∀ slot report report', Takes host (start config tool ready) turns slot (.ok report) →
            Takes host' (start config tool' ready') turns' slot (.ok report') →
              report = report') →
          summary = summary' ∧ ∀ format, summary.text format = summary'.text format := by
  have hreached := after?_eq_some_iff.1 played
  refine ⟨inLaunchOrder hreached, ?_⟩
  intro host' tool' ready' turns' s' played' summary summary' hsummary hsummary' hsame
  have hreached' := after?_eq_some_iff.1 played'
  have heq := summary_eq_of_takes hreached hreached' hsummary hsummary' hsame
  exact ⟨heq, fun format => by rw [heq]⟩

/-! ### Two tasks in reverse -/

/-- A configuration with two tasks, one for each mode. -/
def bothModes : Config :=
  { Config.inTop with modes := [.plain, .minified] }

/-- A schedule in which two tasks go on in turns and the second one ends first. -/
def secondFirst : List Turn :=
  [.work 0, .work 1] ++
    (List.replicate 8 [Turn.answer 1, .answer 0, .work 1, .work 0]).flatten ++ [.take 1, .take 0]

/-- The second task ends first, and its report comes second. -/
theorem summary_in_launch_order_secondFirst :
    ∃ s, (start bothModes .empty ⟨.empty, 0, []⟩).after? (.writing "\"a0\"a1\"a2\"" "\x7b\x7d")
        secondFirst = some s ∧
      (∃ summary, s.result? = some (.ok summary) ∧
        summary.tasks.map Report.kind = ["ts", "ts-min"]) ∧
      InLaunchOrder bothModes .empty (.writing "\"a0\"a1\"a2\"" "\x7b\x7d") ⟨.empty, 0, []⟩
        secondFirst s := by
  have hkinds : ((start bothModes .empty ⟨.empty, 0, []⟩).after?
      (.writing "\"a0\"a1\"a2\"" "\x7b\x7d") secondFirst).bind (fun s => s.result?.map fun r =>
        r.toOption.map fun summary => summary.tasks.map Report.kind) =
          some (some ["ts", "ts-min"]) := by
    decide +kernel
  obtain ⟨s, hs, hresult⟩ := Option.bind_eq_some_iff.1 hkinds
  obtain ⟨result, hresult, hsummary⟩ := Option.map_eq_some_iff.1 hresult
  obtain ⟨summary, hok, hlabels⟩ := Option.map_eq_some_iff.1 hsummary
  cases result with
  | error e => exact absurd hok nofun
  | ok summary' =>
    obtain rfl := Option.some.inj hok
    exact ⟨s, hs, ⟨summary', hresult, hlabels⟩, (summary_in_launch_order hs).1⟩

end Interleaving

end MapAudit
