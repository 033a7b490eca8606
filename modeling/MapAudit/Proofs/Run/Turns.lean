import MapAudit.Proofs.World.Activity
import MapAudit.Run.Interleaving
import Mathlib.Data.List.Induction

/-! # What a turn does

    A turn of a run changes one task, or takes the result of one, or lets a request of a
    dropped task take effect. `Steps` says all of it, one constructor for each thing that
    can happen, so that what turns keep can be shown case by case.

    `Reached` says which states the turns of a schedule lead to. What holds at the start
    and is kept by every turn holds in all of them.

    A task goes on with its own course only. What it may still come to, whatever the
    world answers, is something that it might have come to from the start.
-/

namespace MapAudit

/-! ### Tasks -/

namespace Launched

variable {host : Host} {w : World} {held : List Path}

/-- What a task may still come to. -/
def MayCome (launched : Launched) (result : Except RunError Report) : Prop :=
  match launched.progress with
  | .ready a => a.MayEnd result
  | .waiting _ next => ∃ answer, (next answer).MayEnd result
  | .ended result' => result = result'
  | .gone => False

/-- A task at work comes to what its activity may come to. -/
theorem mayEnd_of_mayCome_work {a : Activity (Except RunError Report)}
    {result : Except RunError Report} (h : (work host a held w).1.MayCome result) :
    a.MayEnd result := by
  induction a generalizing held w with
  | done result' =>
    obtain rfl : result = result' := h
    exact .done _
  | ask r next ih =>
    unfold work at h
    by_cases hr : r.suspends = true
    · rw [if_pos hr] at h
      obtain ⟨answer, hanswer⟩ : ∃ answer, (next answer).MayEnd result := h
      exact .ask answer hanswer
    · rw [if_neg hr] at h
      exact .ask _ (ih _ h)

/-- A task at work is neither left ready nor gone. -/
theorem work_cases (host : Host) (a : Activity (Except RunError Report)) (held : List Path)
    (w : World) :
    (∃ r next, (work host a held w).1.progress = .waiting r next) ∨
      ∃ result, (work host a held w).1.progress = .ended result := by
  induction a generalizing held w with
  | done result => exact Or.inr ⟨result, rfl⟩
  | ask r next ih =>
    unfold work
    by_cases hr : r.suspends = true
    · rw [if_pos hr]
      exact Or.inl ⟨r, next, rfl⟩
    · rw [if_neg hr]
      exact ih _ _ _

/-- What is left of a dropped task is the request that it waits for, if that is no program. -/
theorem of_mem_drop {launched : Launched} {r : Request} (h : r ∈ (launched.drop host w).1) :
    (∃ next, launched.progress = .waiting r next) ∧ r.outlivesTask = true := by
  unfold drop at h
  dsimp only at h
  split at h
  · next r' next hwaiting =>
    split at h
    · next houtlives =>
      obtain rfl := List.mem_singleton.1 h
      exact ⟨⟨next, hwaiting⟩, houtlives⟩
    · exact absurd h List.not_mem_nil
  · exact absurd h List.not_mem_nil

end Launched

namespace Interleaving

variable {host : Host} {s s' start : Interleaving} {turn : Turn} {turns : List Turn}

/-! ### Turns -/

/-- **What a turn does**, by what happens in it. -/
inductive Steps (host : Host) (s : Interleaving) : Turn → Interleaving → Prop where
  /-- A task works up to the next request that it has to wait for. -/
  | work {slot : Nat} {a : Activity (Except RunError Report)} {held : List Path}
      (ready : s.tasks[slot]? = some { progress := .ready a, held }) :
      Steps host s (.work slot)
        { s with
          world := (Launched.work host a held s.world).2
          tasks := s.tasks.set slot (Launched.work host a held s.world).1 }
  /-- What a task waits for takes effect. -/
  | answer {slot : Nat} {r : Request} {next : r.Answer → Activity (Except RunError Report)}
      {held : List Path} (waiting : s.tasks[slot]? = some { progress := .waiting r next, held }) :
      Steps host s (.answer slot)
        { s with
          world := (s.world.perform host r).2
          tasks := s.tasks.set slot { progress := .ready (next (s.world.perform host r).1), held } }
  /-- The run takes a report. -/
  | report {slot : Nat} {report : Report} {held : List Path}
      (ended : s.tasks[slot]? = some { progress := .ended (.ok report), held }) :
      Steps host s (.take slot)
        { s with
          tasks := s.tasks.set slot .taken
          reports := s.reports ++ [(slot, report)] }
  /-- The run takes an error and ends. -/
  | failure {slot : Nat} {e : RunError} {held : List Path}
      (ended : s.tasks[slot]? = some { progress := .ended (.error e), held }) :
      Steps host s (.take slot) ({ s with tasks := s.tasks.set slot .taken }.fail host e)
  /-- What a dropped task waited for takes effect. -/
  | settle {index : Nat} {r : Request} (left : s.orphans[index]? = some r) :
      Steps host s (.settle index)
        { s with
          world := (s.world.perform host r).2
          orphans := s.orphans.eraseIdx index }

/-- **Inversion**: a turn can happen exactly as `Steps` says. -/
theorem step?_eq_some_iff : s.step? host turn = some s' ↔ Steps host s turn s' := by
  constructor
  · intro h
    cases turn with
    | work slot =>
      simp only [step?] at h
      split at h
      · next hslot =>
        obtain rfl := Option.some.inj h
        exact .work hslot
      · exact absurd h (by simp)
    | answer slot =>
      simp only [step?] at h
      split at h
      · next hslot =>
        obtain rfl := Option.some.inj h
        exact .answer hslot
      · exact absurd h (by simp)
    | take slot =>
      simp only [step?] at h
      split at h
      · next result held hslot =>
        cases result with
        | ok report =>
          obtain rfl := Option.some.inj h
          exact .report hslot
        | error e =>
          obtain rfl := Option.some.inj h
          exact .failure hslot
      · exact absurd h (by simp)
    | settle index =>
      simp only [step?] at h
      split at h
      · next hindex =>
        obtain rfl := Option.some.inj h
        exact .settle hindex
      · exact absurd h (by simp)
  · intro h
    cases h with
    | work hslot => simp only [step?, hslot]
    | answer hslot => simp only [step?, hslot]
    | report hslot => simp only [step?, hslot]
    | failure hslot => simp only [step?, hslot]
    | settle hindex => simp only [step?, hindex]

/-! ### Schedules -/

/-- **Reached states**: where the turns of a schedule lead to. -/
inductive Reached (host : Host) (start : Interleaving) : List Turn → Interleaving → Prop where
  /-- No turn has happened. -/
  | here : Reached host start [] start
  /-- One more turn happens. -/
  | turn {turns : List Turn} {turn : Turn} {s s' : Interleaving}
      (before : Reached host start turns s) (last : Steps host s turn s') :
      Reached host start (turns ++ [turn]) s'

/-- A schedule of two parts leads on from where its first part leads. -/
theorem after?_append (s : Interleaving) (before after : List Turn) :
    s.after? host (before ++ after) = (s.after? host before).bind (·.after? host after) := by
  induction before generalizing s with
  | nil => rfl
  | cons turn rest ih =>
    simp only [List.cons_append, after?, Option.bind_assoc]
    congr 1
    funext t
    exact ih t

/-- The states that schedules lead to are the reached ones. -/
theorem after?_eq_some_iff : start.after? host turns = some s ↔ Reached host start turns s := by
  constructor
  · intro h
    induction turns using List.reverseRecOn generalizing s with
    | nil =>
      obtain rfl := Option.some.inj h
      exact .here
    | append_singleton init turn ih =>
      rw [after?_append, Option.bind_eq_some_iff] at h
      obtain ⟨t, ht, hlast⟩ := h
      simp only [after?, Option.bind_fun_some] at hlast
      exact .turn (ih ht) (step?_eq_some_iff.1 hlast)
  · intro h
    induction h with
    | here => rfl
    | turn _ last ih =>
      rw [after?_append, ih]
      simp only [after?, Option.bind_some, Option.bind_fun_some, step?_eq_some_iff.2 last]

/-- **Invariants**: what every turn keeps holds in all reached states. -/
theorem Reached.invariant {P : Interleaving → Prop} (h : Reached host start turns s)
    (hstart : P start) (hkept : ∀ s turn s', P s → Steps host s turn s' → P s') : P s := by
  induction h with
  | here => exact hstart
  | turn _ last ih => exact hkept _ _ _ ih last

/-! ### Results -/

/-- **Result of a task** in a schedule: what the run takes from its slot. -/
def Takes (host : Host) (start : Interleaving) (turns : List Turn) (slot : Nat)
    (result : Except RunError Report) : Prop :=
  ∃ before after s held, turns = before ++ .take slot :: after ∧
    start.after? host before = some s ∧
    s.tasks[slot]? = some { progress := .ended result, held }

theorem not_takes_nil {slot : Nat} {result : Except RunError Report} :
    ¬ Takes host start [] slot result := by
  rintro ⟨before, after, -, -, h, -⟩
  exact absurd h (by simp)

/-- What happens in some turn of a longer schedule happens in an earlier turn or in the last. -/
theorem exists_turn_append_singleton_iff (h : Reached host start turns s)
    {P : Turn → Interleaving → Prop} :
    (∃ before t after s', turns ++ [turn] = before ++ t :: after ∧
        start.after? host before = some s' ∧ P t s') ↔
      (∃ before t after s', turns = before ++ t :: after ∧
        start.after? host before = some s' ∧ P t s') ∨ P turn s := by
  constructor
  · rintro ⟨before, t, after, s', hturns, hs', hP⟩
    rcases List.eq_nil_or_concat after with rfl | ⟨init, last, rfl⟩
    · -- nothing is behind the turn, so it is the last one
      obtain ⟨rfl, hlast⟩ := List.append_inj' hturns rfl
      rw [after?_eq_some_iff.2 h] at hs'
      obtain rfl := Option.some.inj hs'
      obtain rfl := List.singleton_inj.1 hlast
      exact Or.inr hP
    · rw [List.concat_eq_append, ← List.cons_append, ← List.append_assoc] at hturns
      obtain ⟨rfl, -⟩ := List.append_inj' hturns rfl
      exact Or.inl ⟨before, t, init, s', rfl, hs', hP⟩
  · rintro (⟨before, t, after, s', rfl, hs', hP⟩ | hP)
    · exact ⟨before, t, after ++ [turn], s', by simp, hs', hP⟩
    · exact ⟨turns, turn, [], s, rfl, after?_eq_some_iff.2 h, hP⟩

/-- One more turn takes a result exactly if it takes that of a task that has ended. -/
theorem takes_append_singleton_iff (h : Reached host start turns s) {slot : Nat}
    {result : Except RunError Report} :
    Takes host start (turns ++ [turn]) slot result ↔
      Takes host start turns slot result ∨
        turn = .take slot ∧ ∃ held, s.tasks[slot]? = some { progress := .ended result, held } := by
  have hturn : ∀ turns, Takes host start turns slot result ↔
      ∃ before t after s, turns = before ++ t :: after ∧ start.after? host before = some s ∧
        t = .take slot ∧ ∃ held, s.tasks[slot]? = some { progress := .ended result, held } := by
    intro turns
    constructor
    · rintro ⟨before, after, s, held, rfl, hs, hslot⟩
      exact ⟨before, _, after, s, rfl, hs, rfl, held, hslot⟩
    · rintro ⟨before, t, after, s, rfl, hs, rfl, held, hslot⟩
      exact ⟨before, after, s, held, rfl, hs, hslot⟩
  rw [hturn, hturn]
  exact exists_turn_append_singleton_iff h

/-! ### Slots -/

/-- The tasks are all gone after a failure. -/
theorem getElem?_fail {slot : Nat} {e : RunError} {launched : Launched}
    (h : (s.fail host e).tasks[slot]? = some launched) : launched = .taken := by
  simp only [fail, List.getElem?_map, Option.map_eq_some_iff] at h
  obtain ⟨-, -, rfl⟩ := h
  rfl

/-- A task of a changed list of tasks is the new one in its slot, or an old one. -/
theorem getElem?_set_cases {tasks : List Launched} {slot slot' : Nat} {launched new : Launched}
    (h : (tasks.set slot new)[slot']? = some launched) :
    slot' = slot ∧ launched = new ∨ slot' ≠ slot ∧ tasks[slot']? = some launched := by
  by_cases heq : slot' = slot
  · subst heq
    rw [List.getElem?_set_self'] at h
    obtain ⟨-, -, rfl⟩ := Option.map_eq_some_iff.1 h
    exact Or.inl ⟨rfl, rfl⟩
  · rw [List.getElem?_set_ne (Ne.symm heq)] at h
    exact Or.inr ⟨heq, h⟩

/-- No turn changes the number of tasks. -/
theorem Steps.length_tasks (h : Steps host s turn s') : s'.tasks.length = s.tasks.length := by
  cases h with
  | work _ => exact List.length_set
  | answer _ => exact List.length_set
  | report _ => exact List.length_set
  | failure _ => simp [fail]
  | settle _ => rfl

/-- **Gone for good**: a task that is gone stays so. -/
theorem Steps.gone {slot : Nat} {launched : Launched} (h : Steps host s turn s')
    (hslot : s.tasks[slot]? = some launched) (hgone : launched.progress = .gone) :
    ∃ launched', s'.tasks[slot]? = some launched' ∧ launched'.progress = .gone := by
  -- a slot that changes is that of a task that is not gone
  have hother : ∀ {slot' : Nat} {old new : Launched}, s.tasks[slot']? = some old →
      old.progress ≠ .gone → (s.tasks.set slot' new)[slot]? = some launched := by
    intro slot' old new hold hne
    rw [List.getElem?_set_ne, hslot]
    rintro rfl
    rw [hold, Option.some.injEq] at hslot
    exact hne (hslot ▸ hgone)
  cases h with
  | work ready => exact ⟨launched, hother ready nofun, hgone⟩
  | answer waiting => exact ⟨launched, hother waiting nofun, hgone⟩
  | report ended => exact ⟨launched, hother ended nofun, hgone⟩
  | failure ended =>
    refine ⟨.taken, ?_, rfl⟩
    simp only [fail, List.getElem?_map, hother ended nofun, Option.map_some]
  | settle _ => exact ⟨launched, hslot, hgone⟩

/-- The task whose result has been taken is gone. -/
theorem exists_gone_of_takes (h : Reached host start turns s) {slot : Nat}
    {result : Except RunError Report} (htakes : Takes host start turns slot result) :
    ∃ launched, s.tasks[slot]? = some launched ∧ launched.progress = .gone := by
  induction h with
  | here => exact absurd htakes not_takes_nil
  | turn before last ih =>
    rcases (takes_append_singleton_iff before).1 htakes with hearlier | ⟨rfl, held, hslot⟩
    · obtain ⟨launched, hlaunched, hgone⟩ := ih hearlier
      exact last.gone hlaunched hgone
    · obtain ⟨hlt, -⟩ := List.getElem?_eq_some_iff.1 hslot
      cases last with
      | report _ => exact ⟨.taken, by simp [hlt], rfl⟩
      | failure _ => exact ⟨.taken, by simp [fail, hlt], rfl⟩

/-- A slot holds one result at most. -/
theorem eq_of_ended {slot : Nat} {held held' : List Path} {result result' : Except RunError Report}
    (hslot : s.tasks[slot]? = some { progress := .ended result, held })
    (hslot' : s.tasks[slot]? = some { progress := .ended result', held := held' }) :
    result = result' := by
  rw [hslot, Option.some.injEq, Launched.mk.injEq, Progress.ended.injEq] at hslot'
  exact hslot'.1

/-- A task that has ended has had no result taken. -/
theorem not_takes_of_ended (h : Reached host start turns s) {slot : Nat} {held : List Path}
    {result result' : Except RunError Report}
    (hslot : s.tasks[slot]? = some { progress := .ended result', held }) :
    ¬ Takes host start turns slot result := by
  intro htakes
  obtain ⟨launched, hlaunched, hgone⟩ := exists_gone_of_takes h htakes
  rw [hslot, Option.some.injEq] at hlaunched
  subst hlaunched
  exact absurd hgone nofun

/-- **One result**: a task has one result at most. -/
theorem takes_unique (h : Reached host start turns s) {slot : Nat}
    {result result' : Except RunError Report} (htakes : Takes host start turns slot result)
    (htakes' : Takes host start turns slot result') : result = result' := by
  induction h with
  | here => exact absurd htakes not_takes_nil
  | turn before last ih =>
    rcases (takes_append_singleton_iff before).1 htakes with hearlier | ⟨-, held, hslot⟩
    · rcases (takes_append_singleton_iff before).1 htakes' with hearlier' | ⟨-, held', hslot'⟩
      · exact ih hearlier hearlier'
      · exact absurd hearlier (not_takes_of_ended before hslot')
    · rcases (takes_append_singleton_iff before).1 htakes' with hearlier' | ⟨-, held', hslot'⟩
      · exact absurd hearlier' (not_takes_of_ended before hslot)
      · exact eq_of_ended hslot hslot'

end Interleaving

end MapAudit
