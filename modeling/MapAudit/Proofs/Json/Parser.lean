import MapAudit.Json.Parser
import MapAudit.Proofs.Json.Token

/-! # Parsing inside open arrays and objects

    As long as a value is incomplete, the arrays and objects around it do not matter to
    what is read next. So two parses that differ in one member of the outermost object
    only go on side by side to the end of the object, and come to objects that differ in
    that member only.
-/

namespace MapAudit.Json

variable {state state' next : State} {t : Token} {tokens : List Token}

/-! ### Frames around a state -/

/-- The state with more frames around it. -/
def State.within (outer : List Frame) : State → State
  | .value stack => .value (stack ++ outer)
  | .firstItem stack => .firstItem (stack ++ outer)
  | .firstKey stack => .firstKey (stack ++ outer)
  | .key stack done => .key (stack ++ outer) done
  | .colon stack done k => .colon (stack ++ outer) done k
  | .after stack v => .after (stack ++ outer) v

theorem beginValue_append (stack outer : List Frame) (t : Token) :
    beginValue (stack ++ outer) t = (beginValue stack t).map (State.within outer) := by
  cases t with
  | string s => cases s <;> rfl
  | _ => rfl

/-- **Frames around** a state do not matter before its value is complete. -/
theorem advance_within {outer : List Frame} (h : ∀ v, state ≠ .after [] v) (t : Token) :
    advance (state.within outer) t = (advance state t).map (State.within outer) := by
  cases state with
  | value stack => exact beginValue_append stack outer t
  | firstItem stack =>
    cases t <;> first | rfl | exact beginValue_append (.array [] :: stack) outer _
  | firstKey stack => cases t <;> rfl
  | key stack done => cases t <;> rfl
  | colon stack done k => cases t <;> rfl
  | after stack v =>
    cases stack with
    | nil => exact absurd rfl (h v)
    | cons frame stack => cases frame <;> cases t <;> rfl

/-- A string is a text, or it is unreadable. -/
theorem exists_value_of_string (s : Option String) :
    ∃ v, v ≠ .null ∧ (∀ text, v = .string text → s = some text) ∧
      ∀ stack, advance (.value stack) (.string s) = some (.after stack v) := by
  cases s with
  | none => exact ⟨.unreadable, by simp, fun _ h => absurd h (by simp), fun _ => rfl⟩
  | some text => exact ⟨.string text, by simp, fun _ h => by rw [Json.string.inj h], fun _ => rfl⟩

/-! ### Side by side -/

/-- **Side by side**: parses that have all read the same, but for the value `v` of a member
    of the outermost object, which came after the members `done`. -/
inductive Beside (done : List OpenMember) (k : Option String) : (Json → State) → Prop where
  /-- The value is complete. -/
  | value : Beside done k fun v => .after [.object done k] v
  /-- A key comes next. -/
  | key (later : List OpenMember) : Beside done k fun v => .key [] (later ++ (k, v) :: done)
  /-- A colon comes next. -/
  | colon (later : List OpenMember) (k' : Option String) :
      Beside done k fun v => .colon [] (later ++ (k, v) :: done) k'
  /-- The value of a later member is being read. -/
  | member (later : List OpenMember) (k' : Option String) (inner : State) :
      Beside done k fun v => inner.within [.object (later ++ (k, v) :: done) k']

namespace Beside

variable {done : List OpenMember} {k : Option String} {states : Json → State} {v w : Json}

/-- **One token** for all: they stay side by side, or all objects end. -/
theorem advance (h : Beside done k states) (hstep : Json.advance (states v) t = some next) :
    (∃ states', Beside done k states' ∧ ∀ v', Json.advance (states v') t = some (states' v')) ∨
      ∃ later, ∀ v', Json.advance (states v') t =
        some (.after [] (objectOf (later ++ (k, v') :: done))) := by
  cases h with
  | value =>
    cases t with
    | comma => exact Or.inl ⟨_, .key [], fun _ => rfl⟩
    | closeObject => exact Or.inr ⟨[], fun _ => rfl⟩
    | _ => exact absurd hstep (by simp [Json.advance])
  | key later =>
    cases t with
    | string k' => exact Or.inl ⟨_, .colon later k', fun _ => rfl⟩
    | _ => exact absurd hstep (by simp [Json.advance])
  | colon later k' =>
    cases t with
    | colon => exact Or.inl ⟨_, .member later k' (.value []), fun _ => rfl⟩
    | _ => exact absurd hstep (by simp [Json.advance])
  | member later k' inner =>
    by_cases hdone : ∃ w, inner = .after [] w
    · -- the member is complete, and the outermost object is looked at
      obtain ⟨w, rfl⟩ := hdone
      cases t with
      | comma => exact Or.inl ⟨_, .key ((k', w) :: later), fun _ => rfl⟩
      | closeObject => exact Or.inr ⟨(k', w) :: later, fun _ => rfl⟩
      | _ => exact absurd hstep (by simp [Json.advance, State.within])
    · have hopen : ∀ w, inner ≠ .after [] w := fun w hw => hdone ⟨w, hw⟩
      rw [advance_within hopen] at hstep
      obtain ⟨inner', hinner, -⟩ := Option.map_eq_some_iff.1 hstep
      refine Or.inl ⟨_, .member later k' inner', ?_⟩
      intro v'
      rw [advance_within hopen, hinner, Option.map_some]

/-- While they go on, the outermost object is open. -/
theorem ne_after (h : Beside done k states) : states v ≠ .after [] w := by
  cases h with
  | value => simp
  | key => simp
  | colon => simp
  | member later k' inner => cases inner <;> simp [State.within]

end Beside

theorem foldlM_advance_after {v w : Json}
    (h : tokens.foldlM advance (.after [] w) = some (.after [] v)) : tokens = [] ∧ v = w := by
  cases tokens with
  | nil =>
    have hstate : State.after [] w = .after [] v := Option.some.inj h
    cases hstate
    exact ⟨rfl, rfl⟩
  | cons t rest =>
    have hnone : advance (.after [] w) t = none := by cases t <;> rfl
    rw [List.foldlM_cons, hnone] at h
    exact absurd h (by simp)

/-- **Parses side by side** come to objects that differ in the value only. -/
theorem Beside.run {done : List OpenMember} {k : Option String} {states : Json → State}
    {v w : Json} (h : Beside done k states)
    (hrun : tokens.foldlM Json.advance (states v) = some (.after [] w)) :
    ∃ later, w = objectOf (later ++ (k, v) :: done) ∧
      ∀ v', tokens.foldlM Json.advance (states v') =
        some (.after [] (objectOf (later ++ (k, v') :: done))) := by
  induction tokens generalizing states with
  | nil => exact absurd (Option.some.inj hrun) h.ne_after
  | cons t rest ih =>
    rw [List.foldlM_cons, Option.bind_eq_bind, Option.bind_eq_some_iff] at hrun
    obtain ⟨next, hstep, hrest⟩ := hrun
    rcases h.advance hstep with ⟨states', hstates', hsteps⟩ | ⟨later, hsteps⟩
    · obtain rfl := Option.some.inj ((hsteps v).symm.trans hstep)
      obtain ⟨later, hw, hruns⟩ := ih hstates' hrest
      refine ⟨later, hw, ?_⟩
      intro v'
      rw [List.foldlM_cons, hsteps]
      exact hruns v'
    · obtain rfl := Option.some.inj ((hsteps v).symm.trans hstep)
      -- the outermost object has ended, so no token is left
      obtain ⟨rfl, rfl⟩ := foldlM_advance_after hrest
      refine ⟨later, rfl, ?_⟩
      intro v'
      rw [List.foldlM_cons, hsteps]
      rfl

/-! ### The form of a text -/

theorem scan?_eq_some_iff {cs : List Char} {v : Json} :
    scan? cs = some v ↔
      ∃ tokens, tokens? cs = some tokens ∧
        tokens.foldlM advance (.value []) = some (.after [] v) := by
  simp only [scan?, ofTokens?, Option.bind_eq_bind, Option.bind_eq_some_iff]
  constructor
  · rintro ⟨tokens, htokens, state, hstate, hresult⟩
    split at hresult
    · obtain rfl := Option.some.inj hresult
      exact ⟨tokens, htokens, hstate⟩
    · exact absurd hresult (by simp)
  · rintro ⟨tokens, htokens, hstate⟩
    exact ⟨tokens, htokens, _, hstate, rfl⟩

/-! ### Objects -/

/-- Members make up an object if all of their keys are texts. -/
theorem objectOf_eq_object_iff {members : List OpenMember} {named : List (String × Json)} :
    objectOf members = .object named ↔
      members.reverse.mapM (fun m => m.1.map fun key => (key, m.2)) = some named := by
  have hobject : objectOf members =
      (members.reverse.mapM fun m : OpenMember => m.1.map fun key => (key, m.2)).elim
        .unreadable .object := by
    unfold objectOf
    split
    · next named' hnamed => exact (congrArg (Option.elim · _ _) hnamed).symm
    · next hnone => exact (congrArg (Option.elim · _ _) hnone).symm
  rw [hobject]
  cases members.reverse.mapM fun m : OpenMember => m.1.map fun key => (key, m.2) with
  | none => simp
  | some named' => simp

/-- The object of some members stays one if the value of a member is another. -/
theorem exists_members_of_objectOf {later done : List OpenMember} {key : String} {v : Json}
    {members : List (String × Json)}
    (h : objectOf (later ++ (some key, v) :: done) = .object members) :
    ∃ front back, members = front ++ (key, v) :: back ∧
      ∀ v', objectOf (later ++ (some key, v') :: done) = .object (front ++ (key, v') :: back) := by
  rw [objectOf_eq_object_iff] at h
  simp only [List.reverse_append, List.reverse_cons, List.append_assoc, List.singleton_append,
    List.mapM_append, List.mapM_cons, Option.bind_eq_bind, Option.bind_eq_some_iff] at h
  obtain ⟨front, hfront, _, ⟨_, hkey, back, hback, hlater⟩, hmembers⟩ := h
  obtain rfl := Option.some.inj hkey
  obtain rfl := Option.some.inj hlater
  obtain rfl := Option.some.inj hmembers
  refine ⟨front, back, rfl, fun v' => objectOf_eq_object_iff.2 ?_⟩
  simp only [List.reverse_append, List.reverse_cons, List.append_assoc, List.singleton_append,
    List.mapM_append, List.mapM_cons, hfront, hback, Option.bind_eq_bind, Option.bind_some,
    Option.map_some]
  rfl

/-! ### Putting text in -/

/-- **Plain characters put in** where the text of a member of the outermost object opens:
    they are the beginning of its text, and the other members are the same. -/
theorem scan?_plain {head tail : List Char} {done : List OpenMember} {key : String} {v : Json}
    (hread : readAll .gap head = some (.string (some []), tokens))
    (hopen : tokens.foldlM advance (.value []) = some (.value [.object done (some key)]))
    (h : scan? (head ++ tail) = some v) :
    ∃ later value, v = objectOf (later ++ (some key, value) :: done) ∧ value ≠ .null ∧
      ∀ text plain, value = .string text → (∀ c ∈ plain, IsPlain c) →
        scan? (head ++ (plain ++ tail)) = some (objectOf
          (later ++ (some key, .string (String.ofList plain ++ text)) :: done)) := by
  obtain ⟨_, htokens, hrun⟩ := scan?_eq_some_iff.1 h
  rw [tokens?, tokensFrom_append hread] at htokens
  obtain ⟨_, hrest, rfl⟩ := Option.map_eq_some_iff.1 htokens
  obtain ⟨s, rest, rfl, hplain⟩ := tokensFrom_string_plain hrest
  obtain ⟨value, hvalue, htext, hadvance⟩ := exists_value_of_string s
  rw [List.foldlM_append, hopen, Option.bind_eq_bind, Option.bind_some, List.foldlM_cons,
    hadvance, Option.bind_eq_bind, Option.bind_some] at hrun
  -- from here the parse is the same for all values of the member
  have hbeside : Beside done (some key) fun v => .after [.object done (some key)] v := .value
  obtain ⟨later, hv, hruns⟩ := hbeside.run hrun
  refine ⟨later, value, hv, hvalue, ?_⟩
  intro text plain hstring hchars
  obtain rfl := htext text hstring
  refine scan?_eq_some_iff.2
    ⟨tokens ++ .string (some (String.ofList plain ++ text)) :: rest, ?_, ?_⟩
  · rw [tokens?, tokensFrom_append hread, hplain plain hchars, Option.map_some]
    rfl
  · rw [List.foldlM_append, hopen]
    exact hruns _

end MapAudit.Json
