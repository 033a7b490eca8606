import MapAudit.Proofs.Run.Course
import MapAudit.Proofs.Run.Faults
import MapAudit.Proofs.Run.Requests

/-! # Where a task shows diagnostics

    A task shows diagnostics in one turn only. Until it has read the output and the map that
    the tool left behind it shows nothing. It reads the map last and waits for it; when it has
    the answer, the next turn of the task begins with the verification, and all diagnostics
    are shown before the task waits again. After that it shows nothing any more.
-/

namespace MapAudit

/-! ### Silence -/

/-- Whether a request shows a diagnostic. -/
def Request.isReport : Request → Bool
  | .report _ => true
  | _ => false

theorem Request.IsQuiet.isReport_eq_false {r : Request} (h : r.IsQuiet) : r.isReport = false := by
  cases r with
  | report d => exact absurd h id
  | _ => rfl

namespace Activity

variable {α β ε : Type}

/-- An activity is **silent** if it shows no diagnostic. -/
inductive Silent : Activity α → Prop where
  /-- The activity is done. -/
  | done (a : α) : Silent (.done a)
  /-- It asks for something else and goes on silently. -/
  | ask {r : Request} {next : r.Answer → Activity α} (quiet : r.isReport = false)
      (h : ∀ answer, Silent (next answer)) : Silent (.ask r next)

/-- What is confined to other requests is silent. -/
theorem Confined.silent {P : Request → Prop} {Q : α → Prop} {a : Activity α}
    (h : Confined P a Q) (hP : ∀ r, P r → r.isReport = false) : Silent a := by
  induction h with
  | done result => exact .done _
  | ask request _ ih => exact .ask (hP _ request) ih

/-- So is what is quiet. -/
theorem silent_of_quiet {Q : α → Prop} {a : Activity α} (h : Confined Request.IsQuiet a Q) :
    Silent a :=
  h.silent fun _ hr => hr.isReport_eq_false

/-- And so is what does nothing but launch a program. -/
theorem silent_of_launch {Q : α → Prop} {a : Activity α} {program directory : Path}
    {arguments : List String}
    (h : Confined (· = .launch program arguments directory) a Q) : Silent a :=
  h.silent fun r hr => by rw [hr]; rfl

/-- An activity is **silent until** it comes to one of the exits. It gets there only right
    after a request that it waits for (which is what the flag says of the request before), and
    where it ends instead, it ends as said. -/
inductive SilentUntil (exits : Activity α → Prop) (ends : α → Prop) : Bool → Activity α → Prop
    where
  /-- The activity is done. -/
  | done {waited : Bool} {a : α} (ended : ends a) : SilentUntil exits ends waited (.done a)
  /-- It asks for something else and goes on. -/
  | ask {waited : Bool} {r : Request} {next : r.Answer → Activity α} (quiet : r.isReport = false)
      (h : ∀ answer, SilentUntil exits ends r.suspends (next answer)) :
      SilentUntil exits ends waited (.ask r next)
  /-- It has come to an exit. -/
  | exit {a : Activity α} (there : exits a) : SilentUntil exits ends true a

variable {exits : Activity β → Prop} {ends : β → Prop} {waited : Bool}

/-- What is not an exit before a wait is not one behind it. -/
theorem SilentUntil.mono {a : Activity β} (h : SilentUntil exits ends false a) :
    SilentUntil exits ends waited a := by
  cases h with
  | done ended => exact .done ended
  | ask quiet h => exact .ask quiet h

/-- What is silent until an exit and is not there yet goes on silently. -/
theorem SilentUntil.of_not_exits {a : Activity β} (h : SilentUntil exits ends true a)
    (hexits : ¬ exits a) : SilentUntil exits ends false a := by
  cases h with
  | done ended => exact .done ended
  | ask quiet h => exact .ask quiet h
  | exit there => exact absurd there hexits

/-- A silent part comes before the exits. -/
theorem Silent.bind_until {x : Activity α} {f : α → Activity β} (h : Silent x)
    (h' : ∀ a, SilentUntil exits ends false (f a)) :
    SilentUntil exits ends false (x >>= f) := by
  induction h with
  | done a => exact h' a
  | ask quiet _ ih => exact .ask quiet fun answer => (ih answer).mono

end Activity

/-! ### Parts of a task -/

open Activity

variable {tool : Path} {task : Task} {scratch : Scratch} {fixture : Fixture} {flags : BuildFlags}

/-- Making and finding the tool shows nothing. -/
theorem Run.silent_readyTool (config : Config) : Silent (readyTool config).run := by
  have hfind : Asks (·.isReport = false)
      (Tool.find config.tool config.toolRoot config.searchPath) fun _ => True :=
    (Tool.asks_find _ _ _).mono (fun _ hr => hr.isReport_eq_false) fun _ h => h
  have hprepare : Asks (·.isReport = false) (Tool.prepare config.toolRoot) fun _ => True :=
    (Tool.asks_prepare _).mono (fun r hr => by rw [hr]; rfl) fun _ h => h
  have hready : Asks (·.isReport = false) (readyTool config) fun _ => True := by
    unfold readyTool
    by_cases hskip : config.skipBuild = true
    · rw [if_pos hskip]
      exact hfind
    · rw [if_neg hskip]
      exact Asks.bind hprepare fun _ _ => hfind
  exact Confined.silent hready fun _ hr => hr

/-! ### The turn of the verification -/

namespace Task

/-- The verification of artifacts by a task. -/
def verification (task : Task) (artifacts : Artifacts) : Verification :=
  verify task.kind (Fixture.ofVariant task.variant) artifacts.output artifacts.map

/-- Verifies artifacts and shows the diagnostics. -/
def judge (task : Task) (artifacts : Artifacts) : ExceptT RunError Activity Report := do
  (task.verification artifacts).reported.forM fun d =>
    (Activity.report d : ExceptT RunError Activity Unit)
  match (task.verification artifacts).result with
  | .ok report => return report
  | .error fault => throw (.verification fault)

/-- Removes a scratch directory when the result of the verification is there. -/
def close (scratch : Scratch) (result : Except RunError Report) :
    ExceptT RunError Activity Report := do
  let cleanup ← ExceptT.lift scratch.remove.run
  match result, cleanup with
  | .error e, _ => throw e
  | .ok _, .error e => throw (.build e)
  | .ok report, .ok () => return report

/-- **Rest of a task** that has read its artifacts. -/
def judging (task : Task) (scratch : Scratch) (artifacts : Artifacts) :
    Activity (Except RunError Report) :=
  (task.judge artifacts).run >>= fun result => (close scratch result).run

/-- Where a task may end before the verification. -/
def Unverified (result : Except RunError Report) : Prop :=
  ∃ e, result = .error (.build e)

/-- Whether an activity is the rest of a task that has read its artifacts. -/
def IsJudging (task : Task) (a : Activity (Except RunError Report)) : Prop :=
  ∃ scratch artifacts, a = task.judging scratch artifacts

/-- A task that could not build anything removes its directory and ends with the error. -/
theorem until_close (scratch : Scratch) (e : BuildError) :
    SilentUntil task.IsJudging Unverified false (close scratch (.error (.build e))).run := by
  unfold close
  rw [run_lift_bind]
  exact (silent_of_quiet (Scratch.asks_remove scratch)).bind_until fun _ => .done ⟨e, rfl⟩

/-- Reading the map comes last before the verification, and the task waits for it. -/
theorem until_readText {f : Except BuildError String → Activity (Except RunError Report)}
    (q : Path) (hok : ∀ text, task.IsJudging (f (.ok text)))
    (herror : ∀ e, SilentUntil task.IsJudging Unverified false (f (.error e))) :
    SilentUntil task.IsJudging Unverified false ((Artifacts.readText q).run >>= f) := by
  refine .ask rfl ?_
  intro answer
  cases answer with
  | error fault => cases fault <;> exact (herror _).mono
  | ok bytes =>
    dsimp only [Activity.bind, ExceptT.bindCont, Function.comp_apply]
    cases Text.decodeUtf8? bytes with
    | none => exact (herror _).mono
    | some text => exact .exit (hok text)

/-- What comes before in a sequence that may fail is silent. -/
theorem until_bind {α β ε : Type} {x : ExceptT ε Activity α} {g : α → ExceptT ε Activity β}
    {f : Except ε β → Activity (Except RunError Report)} (h : Silent x.run)
    (hok : ∀ a, SilentUntil task.IsJudging Unverified false ((g a).run >>= f))
    (herror : ∀ e, SilentUntil task.IsJudging Unverified false (f (.error e))) :
    SilentUntil task.IsJudging Unverified false ((x >>= g).run >>= f) := by
  rw [run_bind_eq, Activity.bind_assoc]
  apply h.bind_until
  intro r
  cases r with
  | error e => exact herror e
  | ok a => exact hok a

/-- A build is silent until the artifacts are there. -/
theorem until_build {f : Except BuildError Artifacts → Activity (Except RunError Report)}
    (hok : ∀ artifacts, task.IsJudging (f (.ok artifacts)))
    (herror : ∀ e, SilentUntil task.IsJudging Unverified false (f (.error e))) :
    SilentUntil task.IsJudging Unverified false
      ((Artifacts.build tool fixture flags scratch).run >>= f) := by
  unfold Artifacts.build
  refine until_bind (silent_of_quiet (Artifacts.asks_writeFiles _ _)) ?_ herror
  intro _
  cases fixture.entry? with
  | none => exact herror _
  | some entry =>
    refine until_bind (silent_of_launch (Artifacts.asks_runTool _ _ _ _)) ?_ herror
    intro _
    refine until_bind (silent_of_quiet (Artifacts.asks_readText _)) ?_ herror
    intro output
    -- the map is read last
    rw [run_bind_eq, Activity.bind_assoc]
    exact until_readText _ (fun map => hok { output, map }) fun e => herror e

/-- A part with build errors either ends the whole with its error or is gone on with. -/
theorem run_building_bind {α β : Type} (x : ExceptT BuildError Activity α)
    (g : α → ExceptT RunError Activity β) :
    (building x >>= g).run = x.run >>= fun r =>
      match r with
      | .error e => .done (.error (.build e))
      | .ok a => (g a).run := by
  unfold building
  rw [run_bind_eq, run_adapt_eq, Activity.bind_assoc]
  refine congrArg _ (funext ?_)
  intro r
  cases r <;> rfl

/-- **Until the verification**: a task is silent, and ends with an error of the build if it
    does not come to verify. -/
theorem until_perform (config : Config) (tool : Path) (task : Task) :
    SilentUntil task.IsJudging Unverified false (task.perform config tool).run := by
  obtain ⟨hvalid, -⟩ := Fixture.accepted_ofVariant task.variant
  unfold perform
  simp only [hvalid]
  rw [run_building_bind]
  refine (silent_of_quiet (Scratch.asks_create _)).bind_until ?_
  intro r
  cases r with
  | error e => exact .done ⟨e, rfl⟩
  | ok created =>
    dsimp only
    rw [run_lift_bind]
    have hkeep := silent_of_quiet (Scratch.confined_setKeep created config.keepScratch)
    apply hkeep.bind_until
    intro scratch
    rw [run_lift_bind]
    unfold verifyIn
    rw [run_building_bind, Activity.bind_assoc]
    -- the build leads to the verification or ends the task
    exact until_build (fun artifacts => ⟨scratch, artifacts, rfl⟩) fun e => until_close scratch e

/-- What is left when the diagnostics are shown is the removal of the directory. -/
theorem exists_judging_eq (task : Task) (scratch : Scratch) (artifacts : Artifacts) :
    ∃ f, task.judging scratch artifacts =
        ((task.verification artifacts).reported.forM fun d =>
          (Activity.report d : ExceptT RunError Activity Unit)).run >>= f ∧
      f (.ok ()) =
        (close scratch ((task.verification artifacts).result.mapError .verification)).run := by
  refine ⟨_, Activity.bind_assoc _ _ _, ?_⟩
  dsimp only [ExceptT.bindCont]
  cases (task.verification artifacts).result <;> rfl

/-- Where a task may end that has verified: the result of the verification decides, but the
    removal of the directory may fail in the end. -/
def Verified (verification : Verification) (result : Except RunError Report) : Prop :=
  match verification.result with
  | .error fault => result = .error (.verification fault)
  | .ok report => result = .ok report ∨ Unverified result

/-- A task that ends with a report has verified with this report. -/
theorem Verified.of_report {verification : Verification} {report : Report}
    (h : Verified verification (.ok report)) : verification.result = .ok report := by
  unfold Verified at h
  cases hresult : verification.result with
  | error fault =>
    rw [hresult] at h
    exact absurd h nofun
  | ok report' =>
    rw [hresult] at h
    rcases h with heq | ⟨e, he⟩
    · rw [Except.ok.inj heq]
    · exact absurd he nofun

/-- A task that ends with a fault has verified with this fault. -/
theorem Verified.of_fault {verification : Verification} {fault : VerificationFault}
    (h : Verified verification (.error (.verification fault))) :
    verification.result = .error fault := by
  unfold Verified at h
  cases hresult : verification.result with
  | error fault' =>
    rw [hresult] at h
    rw [RunError.verification.inj (Except.error.inj h)]
  | ok report =>
    rw [hresult] at h
    rcases h with heq | ⟨e, he⟩
    · exact absurd heq nofun
    · exact absurd (Except.error.inj he) nofun

/-- After the verification a task only removes its directory. -/
theorem until_close_verified (scratch : Scratch) (verification : Verification) :
    SilentUntil (fun _ => False) (Verified verification) false
      (close scratch (verification.result.mapError .verification)).run := by
  unfold close Verified
  rw [run_lift_bind]
  refine (silent_of_quiet (Scratch.asks_remove scratch)).bind_until ?_
  intro cleanup
  cases hresult : verification.result with
  | error fault => exact .done rfl
  | ok report =>
    cases cleanup with
    | error e => exact .done (.inr ⟨e, rfl⟩)
    | ok u => exact .done (.inl rfl)

end Task

/-! ### Work -/

variable {host : Host} {w : World} {held : List Path}

/-- Only one kind of request changes what has been shown. -/
theorem World.reported_perform {r : Request} (quiet : r.isReport = false) :
    (w.perform host r).2.reported = w.reported := by
  cases r with
  | report d => exact absurd quiet nofun
  | launch program arguments directory =>
    unfold World.perform
    dsimp only
    split <;> rfl
  | _ => rfl

theorem World.reported_replay {requests : List Request}
    (h : ∀ r ∈ requests, r.isReport = false) :
    (w.replay host requests).reported = w.reported := by
  induction requests generalizing w with
  | nil => rfl
  | cons r rest ih =>
    obtain ⟨hquiet, hrest⟩ := List.forall_mem_cons.1 h
    exact (ih hrest).trans (World.reported_perform hquiet)

/-- An activity that has the world for itself shows nothing if it is silent. -/
theorem Activity.Silent.reported_run {α : Type} {a : Activity α} (h : Silent a) (host : Host)
    (w : World) :
    (a.run host w).2.reported = w.reported := by
  induction h generalizing w with
  | done a => rfl
  | ask quiet _ ih => exact (ih _ _).trans (World.reported_perform quiet)

namespace Launched

variable {exits : Activity (Except RunError Report) → Prop} {ends : Except RunError Report → Prop}
  {a : Activity (Except RunError Report)}

/-- A task **goes** silently until it comes to one of the exits, or has ended as said. -/
def Goes (exits : Activity (Except RunError Report) → Prop)
    (ends : Except RunError Report → Prop) (launched : Launched) : Prop :=
  match launched.progress with
  | .ready a => SilentUntil exits ends true a
  | .waiting r next => r.isReport = false ∧ ∀ answer, SilentUntil exits ends true (next answer)
  | .ended result => ends result
  | .gone => True

/-- At work, such a task shows nothing and goes on. -/
theorem work_until (host : Host) (h : SilentUntil exits ends false a) (held : List Path)
    (w : World) :
    (work host a held w).2.reported = w.reported ∧ (work host a held w).1.Goes exits ends := by
  induction a generalizing held w with
  | done result =>
    cases h with
    | done ended => exact ⟨rfl, ended⟩
  | ask r next ih =>
    cases h with
    | ask quiet hnext =>
      unfold work
      -- the turn is over at a request that suspends, and goes on behind any other
      by_cases hr : r.suspends = true
      · rw [if_pos hr]
        refine ⟨rfl, quiet, ?_⟩
        intro answer
        have hanswer := hnext answer
        rwa [hr] at hanswer
      · rw [if_neg hr]
        rw [Bool.not_eq_true] at hr
        obtain ⟨hreported, hgoes⟩ := ih (w.perform host r).1 (hr ▸ hnext _) (r.holding held)
          (w.perform host r).2
        exact ⟨hreported.trans (World.reported_perform quiet), hgoes⟩

/-- Diagnostics are shown at once, one after another. -/
theorem work_reports {f : Except RunError Unit → Activity (Except RunError Report)}
    (reported : List Diagnostic) (held : List Path) (w : World) :
    work host ((reported.forM fun d =>
        (Activity.report d : ExceptT RunError Activity Unit)).run >>= f) held w =
      work host (f (.ok ())) held { w with reported := w.reported ++ reported } := by
  induction reported generalizing w with
  | nil =>
    rw [List.append_nil]
    rfl
  | cons d rest ih =>
    have hrest := ih { w with reported := w.reported ++ [d] }
    rw [List.append_assoc, List.singleton_append] at hrest
    exact hrest

/-- **The turn of the verification** shows the diagnostics, all of them, and after it the task
    only removes its directory. -/
theorem work_judging (host : Host) (task : Task) (scratch : Scratch) (artifacts : Artifacts)
    (held : List Path) (w : World) :
    (work host (task.judging scratch artifacts) held w).2.reported =
        w.reported ++ (task.verification artifacts).reported ∧
      (work host (task.judging scratch artifacts) held w).1.Goes (fun _ => False)
        (Task.Verified (task.verification artifacts)) := by
  obtain ⟨f, hjudging, hf⟩ := task.exists_judging_eq scratch artifacts
  rw [hjudging, work_reports, hf]
  exact work_until host (Task.until_close_verified scratch _) held _

end Launched

end MapAudit
