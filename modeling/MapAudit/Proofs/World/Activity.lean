import MapAudit.World.Basic

/-! # What an activity may come to

    The results of an activity depend on the answers to its requests. `MayEnd` says
    which results are possible at all, whatever the answers are; so what holds of all
    of them holds in every world and under every schedule.

    The result of a sequence is taken apart into the results of its parts, and so is what it
    asks: `asked` tells the requests of an activity that has the world for itself, in their
    order.

    An activity is *confined* to some requests and results if it asks no others and comes to
    no others, whatever the answers are. A sequence is, if its parts are.
-/

namespace MapAudit

namespace Activity

variable {α β ε ε' : Type}

/-! ### Sequences -/

theorem bind_assoc {γ : Type} (x : Activity α) (f : α → Activity β) (g : β → Activity γ) :
    (x >>= f) >>= g = x >>= fun a => f a >>= g := by
  induction x with
  | done a => rfl
  | ask r next ih => exact congrArg (Activity.ask r) (funext ih)

/-- A sequence that may fail goes on from the result of its first part: it passes an error on. -/
theorem run_bind_eq (x : ExceptT ε Activity α) (f : α → ExceptT ε Activity β) :
    (x >>= f).run = x.run >>= fun result => (ExceptT.bindCont f result : Activity _) :=
  rfl

/-- An activity that cannot fail succeeds with what it comes to. -/
theorem run_lift_eq (x : Activity α) :
    (ExceptT.lift x : ExceptT ε Activity α).run = x >>= fun a => .done (.ok a) :=
  rfl

/-- Other errors in the place of the old ones. -/
theorem run_adapt_eq (x : ExceptT ε Activity α) (f : ε → ε') :
    (x.adapt f).run = x.run >>= fun result => .done (result.mapError f) :=
  rfl

/-- What follows an activity that cannot fail goes on from what that comes to. -/
theorem run_lift_bind (x : Activity α) (f : α → ExceptT ε Activity β) :
    ((ExceptT.lift x : ExceptT ε Activity α) >>= f).run = x >>= fun a => (f a).run := by
  rw [run_bind_eq, run_lift_eq, bind_assoc]
  rfl

/-! ### Possible results -/

/-- **Possible result** of an activity, for some answers to its requests. -/
inductive MayEnd : Activity α → α → Prop where
  /-- The activity is done. -/
  | done (a : α) : MayEnd (.done a) a
  /-- The activity goes on with some answer. -/
  | ask {r : Request} {next : r.Answer → Activity α} {a : α} (answer : r.Answer)
      (h : MayEnd (next answer) a) : MayEnd (.ask r next) a

theorem mayEnd_done_iff {a b : α} : MayEnd (.done a) b ↔ b = a := by
  constructor
  · intro h
    cases h
    rfl
  · rintro rfl
    exact .done _

/-- **Sequence**: some result of the first part is gone on with. -/
theorem mayEnd_bind_iff {x : Activity α} {f : α → Activity β} {b : β} :
    MayEnd (x >>= f) b ↔ ∃ a, MayEnd x a ∧ MayEnd (f a) b := by
  constructor
  · intro h
    induction x with
    | done a => exact ⟨a, .done a, h⟩
    | ask r next ih =>
      cases h with
      | ask answer h =>
        obtain ⟨a, ha, hb⟩ := ih answer h
        exact ⟨a, .ask answer ha, hb⟩
  · rintro ⟨a, ha, hb⟩
    induction ha with
    | done a => exact hb
    | ask answer _ ih => exact .ask answer (ih hb)

theorem run_hasNode (host : Host) (p : Path) (w : World) :
    (hasNode p).run host w = (w.tree.hasNode host.base p, w) :=
  rfl

theorem run_hasFile (host : Host) (p : Path) (w : World) :
    (hasFile p).run host w = (w.tree.hasFile host.base p, w) :=
  rfl

theorem run_hasProgram (host : Host) (p : Path) (w : World) :
    (hasProgram p).run host w = (w.tree.hasProgram host.base p, w) :=
  rfl

theorem run_createAll (host : Host) (p : Path) (w : World) : (createAll p).run host w =
    ((w.tree.createAll host.base p).1, w.withTree (w.tree.createAll host.base p).2) :=
  rfl

theorem run_removeAll (host : Host) (p : Path) (w : World) : (removeAll p).run host w =
    ((w.tree.removeAll host.base p).1, w.withTree (w.tree.removeAll host.base p).2) :=
  rfl

theorem run_write (host : Host) (p : Path) (content : ByteArray) (w : World) :
    (write p content).run host w = ((w.tree.write host.base p content).1,
      w.withTree (w.tree.write host.base p content).2) :=
  rfl

section Launch

variable {host : Host} {program directory : Path} {arguments : List String} {w : World}

theorem run_launch : (launch program arguments directory).run host w =
    match host.launch program arguments directory w.tree with
    | none => (none, w)
    | some (exit, tree) => (some exit, w.withTree tree) :=
  rfl

/-- A program that cannot be started changes nothing. -/
theorem run_launch_of_none (h : host.launch program arguments directory w.tree = none) :
    (launch program arguments directory).run host w = (none, w) := by
  rw [run_launch, h]

/-- Otherwise it ends, and leaves files behind. -/
theorem run_launch_of_some {exit : Exit} {tree : FileTree}
    (h : host.launch program arguments directory w.tree = some (exit, tree)) :
    (launch program arguments directory).run host w = (some exit, w.withTree tree) := by
  rw [run_launch, h]

end Launch

/-! ### Running a sequence -/

variable {host : Host}

/-- A sequence runs its second part in the world that its first part leaves. -/
theorem run_bind (x : Activity α) (f : α → Activity β) (w : World) :
    (x >>= f).run host w = (f (x.run host w).1).run host (x.run host w).2 := by
  induction x generalizing w with
  | done a => rfl
  | ask r next ih => exact ih _ _

/-- A sequence whose first part fails ends there. -/
theorem run_bind_of_error {x : ExceptT ε Activity α} {f : α → ExceptT ε Activity β} {w w' : World}
    {e : ε} (h : x.run.run host w = (.error e, w')) :
    (x >>= f).run.run host w = (.error e, w') := by
  rw [run_bind_eq, run_bind, h]
  rfl

/-- Otherwise it goes on with the result. -/
theorem run_bind_of_ok {x : ExceptT ε Activity α} {f : α → ExceptT ε Activity β} {w w' : World}
    {a : α} (h : x.run.run host w = (.ok a, w')) :
    (x >>= f).run.run host w = (f a).run.run host w' := by
  rw [run_bind_eq, run_bind, h]
  rfl

/-- An activity that cannot fail runs as it does by itself. -/
theorem run_lift (x : Activity α) (w : World) :
    (ExceptT.lift x : ExceptT ε Activity α).run.run host w =
      (.ok (x.run host w).1, (x.run host w).2) := by
  rw [run_lift_eq, run_bind]
  rfl

/-- With other errors, an activity does the same. -/
theorem run_adapt {x : ExceptT ε Activity α} {w w' : World} {result : Except ε α}
    (h : x.run.run host w = (result, w')) (f : ε → ε') :
    (x.adapt f).run.run host w = (result.mapError f, w') := by
  rw [run_adapt_eq, run_bind, h]
  rfl

/-- An access that fails does so with the given error. -/
theorem run_orFail (e : ε) (access : Activity (Except FileFault α)) (w : World) :
    (orFail e access).run.run host w =
      ((access.run host w).1.mapError fun _ => e, (access.run host w).2) := by
  refine (run_bind_of_ok (run_lift access w)).trans ?_
  cases (access.run host w).1 with
  | ok a => rfl
  | error fault => rfl

/-- What comes after such an access is done if it succeeds. -/
theorem run_orFail_bind (e : ε) (access : Activity (Except FileFault α))
    (f : α → ExceptT ε Activity β) (w : World) :
    (orFail e access >>= f).run.run host w =
      match (access.run host w).1 with
      | .ok a => (f a).run.run host (access.run host w).2
      | .error _ => (.error e, (access.run host w).2) := by
  have haccess := @run_orFail _ _ host e access w
  cases hanswer : (access.run host w).1 with
  | ok a =>
    rw [hanswer] at haccess
    exact run_bind_of_ok haccess
  | error fault =>
    rw [hanswer] at haccess
    exact run_bind_of_error haccess

/-! ### What is asked -/

/-- **What is asked** by an activity that has the world for itself: its requests in their order,
    each with the world in which it is asked. -/
def asked (host : Host) : Activity α → World → List (World × Request)
  | .done _, _ => []
  | .ask r next, w => (w, r) :: asked host (next (w.perform host r).1) (w.perform host r).2

/-- A sequence asks what its first part does, and then what its second part does in the world
    that the first one leaves. -/
theorem asked_bind (x : Activity α) (f : α → Activity β) (w : World) :
    (x >>= f).asked host w =
      x.asked host w ++ (f (x.run host w).1).asked host (x.run host w).2 := by
  induction x generalizing w with
  | done a => rfl
  | ask r next ih =>
    have hrest := ih (w.perform host r).1 (w.perform host r).2
    exact congrArg ((w, r) :: ·) hrest

section Asked

variable {x : ExceptT ε Activity α} {f : α → ExceptT ε Activity β} {w w' : World}

/-- A sequence whose first part fails asks nothing more. -/
theorem asked_bind_of_error {e : ε} (h : x.run.run host w = (.error e, w')) :
    (x >>= f).run.asked host w = x.run.asked host w := by
  rw [run_bind_eq, asked_bind, h]
  exact List.append_nil _

/-- Otherwise it goes on to ask what its second part does. -/
theorem asked_bind_of_ok {a : α} (h : x.run.run host w = (.ok a, w')) :
    (x >>= f).run.asked host w = x.run.asked host w ++ (f a).run.asked host w' := by
  rw [run_bind_eq, asked_bind, h]
  rfl

/-- A sequence asks what its first part does. -/
theorem mem_asked_bind {q : World × Request} (h : q ∈ x.run.asked host w) :
    q ∈ (x >>= f).run.asked host w := by
  rw [run_bind_eq, asked_bind]
  exact List.mem_append_left _ h

/-- What a sequence asks is asked by its first part, or by its second part after the first one
    has succeeded. -/
theorem of_mem_asked_bind {q : World × Request} (h : q ∈ (x >>= f).run.asked host w) :
    q ∈ x.run.asked host w ∨
      ∃ a w', x.run.run host w = (.ok a, w') ∧ q ∈ (f a).run.asked host w' := by
  cases hrun : x.run.run host w with
  | mk result w' =>
    cases result with
    | error e =>
      rw [asked_bind_of_error hrun] at h
      exact Or.inl h
    | ok a =>
      rw [asked_bind_of_ok hrun] at h
      rcases List.mem_append.1 h with h | h
      · exact Or.inl h
      · exact Or.inr ⟨a, w', rfl, h⟩

end Asked

/-- An activity that cannot fail asks what it does by itself. -/
theorem asked_lift (x : Activity α) (w : World) :
    (ExceptT.lift x : ExceptT ε Activity α).run.asked host w = x.asked host w := by
  rw [run_lift_eq, asked_bind]
  exact List.append_nil _

/-! ### Programs that have to succeed -/

/-- Launches a program, which has to be **started and to succeed**. -/
def launchOrFail (program : Path) (arguments : List String) (directory : Path) (unstarted : ε)
    (failed : Exit → ε) : ExceptT ε Activity Unit := do
  match ← launch program arguments directory with
  | none => throw unstarted
  | some exit =>
    unless exit.isSuccess do
      throw (failed exit)

section LaunchOrFail

variable {program directory : Path} {arguments : List String} {unstarted : ε} {failed : Exit → ε}
  {w : World}

/-- It is launched, and that is all that is asked. -/
theorem asked_launchOrFail (w : World) :
    (launchOrFail program arguments directory unstarted failed).run.asked host w =
      [(w, .launch program arguments directory)] := by
  refine (asked_bind_of_ok (run_lift (launch program arguments directory) w)).trans ?_
  rw [asked_lift]
  refine congrArg ((w, Request.launch program arguments directory) :: ·) ?_
  cases ((launch program arguments directory).run host w).1 with
  | none => rfl
  | some exit =>
    dsimp only
    cases exit.isSuccess <;> rfl

theorem run_launchOrFail_of_none (h : host.launch program arguments directory w.tree = none) :
    (launchOrFail program arguments directory unstarted failed).run.run host w =
      (.error unstarted, w) := by
  refine (run_bind_of_ok (run_lift (launch program arguments directory) w)).trans ?_
  rw [run_launch_of_none h]
  rfl

/-- Its status decides, and its files are there in any case. -/
theorem run_launchOrFail_of_some {exit : Exit} {tree : FileTree}
    (h : host.launch program arguments directory w.tree = some (exit, tree)) :
    (launchOrFail program arguments directory unstarted failed).run.run host w =
      (if exit.status = some 0 then .ok () else .error (failed exit), w.withTree tree) := by
  have hsuccess : exit.isSuccess = true ↔ exit.status = some 0 := beq_iff_eq
  refine (run_bind_of_ok (run_lift (launch program arguments directory) w)).trans ?_
  rw [run_launch_of_some h]
  dsimp only
  by_cases hstatus : exit.status = some 0
  · rw [if_pos (hsuccess.2 hstatus), if_pos hstatus]
    rfl
  · rw [if_neg (mt hsuccess.1 hstatus), if_neg hstatus]
    rfl

end LaunchOrFail

/-! ### Activities that may fail -/

/-- A sequence that may fail ends with the error of its first part, or with what the
    second part comes to. -/
theorem mayEnd_run_bind_iff {x : ExceptT ε Activity α} {f : α → ExceptT ε Activity β}
    {result : Except ε β} :
    MayEnd (x >>= f).run result ↔
      (∃ e, MayEnd x.run (.error e) ∧ result = .error e) ∨
        ∃ a, MayEnd x.run (.ok a) ∧ MayEnd (f a).run result := by
  rw [run_bind_eq, mayEnd_bind_iff]
  constructor
  · rintro ⟨e | a, hx, hresult⟩
    · exact Or.inl ⟨e, hx, mayEnd_done_iff.1 hresult⟩
    · exact Or.inr ⟨a, hx, hresult⟩
  · rintro (⟨e, hx, rfl⟩ | ⟨a, hx, hresult⟩)
    · exact ⟨.error e, hx, .done _⟩
    · exact ⟨.ok a, hx, hresult⟩

theorem mayEnd_run_pure_iff {a : α} {result : Except ε α} :
    MayEnd (pure a : ExceptT ε Activity α).run result ↔ result = .ok a :=
  mayEnd_done_iff

theorem mayEnd_run_throw_iff {e : ε} {result : Except ε α} :
    MayEnd (throw e : ExceptT ε Activity α).run result ↔ result = .error e :=
  mayEnd_done_iff

theorem mayEnd_run_lift_iff {x : Activity α} {result : Except ε α} :
    MayEnd (ExceptT.lift x : ExceptT ε Activity α).run result ↔
      ∃ a, MayEnd x a ∧ result = .ok a := by
  rw [run_lift_eq, mayEnd_bind_iff]
  simp only [mayEnd_done_iff]

/-- What follows an activity that cannot fail goes on from one of its results. -/
theorem mayEnd_run_lift_bind_iff {x : Activity α} {f : α → ExceptT ε Activity β}
    {result : Except ε β} :
    MayEnd ((ExceptT.lift x : ExceptT ε Activity α) >>= f).run result ↔
      ∃ a, MayEnd x a ∧ MayEnd (f a).run result := by
  rw [run_lift_bind, mayEnd_bind_iff]

/-- An activity that cannot fail does not fail where it may. -/
theorem not_mayEnd_run_lift_error {x : Activity α} {e : ε} :
    ¬ MayEnd (ExceptT.lift x : ExceptT ε Activity α).run (.error e) := by
  intro h
  obtain ⟨a, -, ha⟩ := mayEnd_run_lift_iff.1 h
  exact absurd ha (by simp)

theorem mayEnd_run_adapt_iff {x : ExceptT ε Activity α} {f : ε → ε'} {result : Except ε' α} :
    MayEnd (x.adapt f).run result ↔ ∃ r, MayEnd x.run r ∧ result = r.mapError f := by
  rw [run_adapt_eq, mayEnd_bind_iff]
  simp only [mayEnd_done_iff]

/-! ### Confined activities -/

section Confined

variable {P P' : Request → Prop} {Q Q' : α → Prop}

/-- An activity is **confined** to the requests that it may ask and the results that it may
    come to. -/
inductive Confined (P : Request → Prop) : Activity α → (α → Prop) → Prop where
  /-- The activity is done. -/
  | done {a : α} {Q : α → Prop} (result : Q a) : Confined P (.done a) Q
  /-- It asks for something and goes on. -/
  | ask {r : Request} {next : r.Answer → Activity α} {Q : α → Prop} (request : P r)
      (h : ∀ answer, Confined P (next answer) Q) : Confined P (.ask r next) Q

theorem Confined.mono {a : Activity α} (h : Confined P a Q) (hP : ∀ r, P r → P' r)
    (hQ : ∀ a, Q a → Q' a) : Confined P' a Q' := by
  induction h with
  | done result => exact .done (hQ _ result)
  | ask request _ ih => exact .ask (hP _ request) fun answer => ih answer hQ

theorem confined_request {r : Request} (request : P r) :
    Confined P (Activity.request r) fun _ => True :=
  .ask request fun _ => .done trivial

/-- **Sequence**: the second part goes on from a result of the first one. -/
theorem Confined.bind {x : Activity α} {f : α → Activity β} {R : β → Prop}
    (h : Confined P x Q) (h' : ∀ a, Q a → Confined P (f a) R) : Confined P (x >>= f) R := by
  induction h with
  | done result => exact h' _ result
  | ask request _ ih => exact .ask request fun answer => ih answer h'

/-- An activity that has the world for itself asks only what it is confined to. -/
theorem Confined.of_mem_asked {a : Activity α} (h : Confined P a Q) {host : Host} {w : World}
    {q : World × Request} (hmem : q ∈ a.asked host w) : P q.2 := by
  induction h generalizing w with
  | done result => exact absurd hmem List.not_mem_nil
  | ask request _ ih =>
    rcases List.mem_cons.1 hmem with rfl | hmem
    · exact request
    · exact ih _ hmem

end Confined

end Activity

open Activity

/-- An activity that may fail **asks** only for some requests, and what it succeeds with is
    as said. -/
def Asks {α ε : Type} (P : Request → Prop) (x : ExceptT ε Activity α) (Q : α → Prop) : Prop :=
  Confined P x.run fun result => ∀ a, result = .ok a → Q a

namespace Asks

variable {α β ε ε' : Type} {P P' : Request → Prop} {Q Q' : α → Prop} {R : β → Prop}

theorem pure {a : α} (h : Q a) : Asks P (pure a : ExceptT ε Activity α) Q := by
  refine .done ?_
  intro a' ha'
  obtain rfl := Except.ok.inj ha'
  exact h

theorem throw {e : ε} : Asks P (throw e : ExceptT ε Activity α) Q :=
  .done nofun

theorem mono {x : ExceptT ε Activity α} (h : Asks P x Q) (hP : ∀ r, P r → P' r)
    (hQ : ∀ a, Q a → Q' a) : Asks P' x Q' :=
  Confined.mono h hP fun _ hresult a ha => hQ a (hresult a ha)

/-- **Sequence**: the second part goes on from what the first one succeeds with. -/
theorem bind {x : ExceptT ε Activity α} {f : α → ExceptT ε Activity β} (h : Asks P x Q)
    (h' : ∀ a, Q a → Asks P (f a) R) : Asks P (x >>= f) R := by
  unfold Asks
  rw [run_bind_eq]
  apply Confined.bind h
  intro result hresult
  cases result with
  | error e => exact .done nofun
  | ok a => exact h' a (hresult a rfl)

theorem lift {x : Activity α} (h : Confined P x Q) :
    Asks P (ExceptT.lift x : ExceptT ε Activity α) Q := by
  refine Confined.bind h fun a ha => .done ?_
  intro a' ha'
  obtain rfl := Except.ok.inj ha'
  exact ha

theorem request {r : Request} (h : P r) :
    Asks P (ExceptT.lift (Activity.request r) : ExceptT ε Activity r.Answer) fun _ => True :=
  lift (confined_request h)

theorem adapt {x : ExceptT ε Activity α} {f : ε → ε'} (h : Asks P x Q) :
    Asks P (x.adapt f) Q := by
  refine Confined.bind h fun result hresult => .done ?_
  intro a ha
  cases result with
  | error e => exact absurd ha nofun
  | ok a' => exact hresult a (congrArg _ (Except.ok.inj ha))

theorem orFail {e : ε} {access : Activity (Except FileFault α)}
    (h : Confined P access fun _ => True) : Asks P (Activity.orFail e access) fun _ => True := by
  apply bind (lift h)
  intro answer _
  cases answer with
  | ok a => exact pure trivial
  | error fault => exact throw

theorem launchOrFail {program directory : Path} {arguments : List String} {unstarted : ε}
    {failed : Exit → ε} :
    Asks (· = .launch program arguments directory)
      (Activity.launchOrFail program arguments directory unstarted failed) fun _ => True := by
  refine bind (request rfl) ?_
  intro answer _
  cases answer with
  | none => exact throw
  | some exit =>
    dsimp only
    by_cases hexit : exit.isSuccess = true
    · rw [if_pos hexit]
      exact pure trivial
    · rw [if_neg hexit]
      exact throw

end Asks

end MapAudit
