import MapAudit.Config.Basic
import MapAudit.Proofs.Mentions
import MapAudit.Proofs.Run.Order

/-! # What a run is asked for

    The names of variants may be in any mixture of cases, and names and modes may be
    repeated. A configuration has each variant and each mode once, in the order of first
    mention, or all of them where none is mentioned. A name that no variant has is refused,
    and the first such name is the one that is told.

    The names are read one after another, and the induction is on them. With no variant and
    no mode twice, the tasks of a run have different labels, and there is one for each
    combination.
-/

namespace MapAudit

/-! ### Names in any mixture of cases -/

/-- **Same letter**: the characters are the same, or a small ASCII letter and its capital.
    The small ones count from 97 on and the capitals from 65 on. -/
def SameLetter (c d : Char) : Prop :=
  c = d ∨ ∃ i < 26, c.toNat = 97 + i ∧ d.toNat = 65 + i ∨ c.toNat = 65 + i ∧ d.toNat = 97 + i

theorem toNat_toLower (c : Char) :
    c.toLower.toNat = if 65 ≤ c.toNat ∧ c.toNat ≤ 90 then c.toNat + 32 else c.toNat := by
  have hcapital : (c.val ≥ 'A'.val ∧ c.val ≤ 'Z'.val) ↔ 65 ≤ c.toNat ∧ c.toNat ≤ 90 := by
    rw [ge_iff_le, UInt32.le_iff_toNat_le, UInt32.le_iff_toNat_le]
    exact Iff.rfl
  unfold Char.toLower
  split
  · next h =>
    have hrange := hcapital.1 h
    rw [if_pos hrange]
    show (c.val + 32).toNat = c.val.toNat + 32
    have hle : c.val.toNat ≤ 90 := hrange.2
    rw [UInt32.toNat_add]
    exact Nat.mod_eq_of_lt (by simp; omega)
  · next h => rw [if_neg (mt hcapital.2 h)]

theorem toLower_eq_toLower_iff {c d : Char} : c.toLower = d.toLower ↔ SameLetter c d := by
  rw [← Char.toNat_inj, toNat_toLower, toNat_toLower, SameLetter, ← Char.toNat_inj]
  constructor
  · intro h
    -- different characters with one lower case: one of them was lowered and the other was not
    by_cases hsame : c.toNat = d.toNat
    · exact Or.inl hsame
    · right
      split at h <;> split at h
      · omega
      · exact ⟨c.toNat - 65, by omega, Or.inr (by omega)⟩
      · exact ⟨d.toNat - 65, by omega, Or.inl (by omega)⟩
      · exact absurd h hsame
  · rintro (h | ⟨i, hi, ⟨hc, hd⟩ | ⟨hc, hd⟩⟩)
    · rw [h]
    · rw [if_neg (by omega), if_pos (by omega), hc, hd]
      omega
    · rw [if_pos (by omega), if_neg (by omega), hc, hd]
      omega

namespace Variant

variable {v w : Variant} {name : String} {names : List String} {e : UnknownVariant}

/-- **Named**: the text is the name of the variant, in any mixture of cases. -/
def NamedBy (v : Variant) (name : String) : Prop :=
  v.name.toList.Forall₂ SameLetter name.toList

theorem sameIgnoringCase_iff {a b : String} :
    sameIgnoringCase a b = true ↔ a.toList.Forall₂ SameLetter b.toList := by
  rw [sameIgnoringCase, beq_iff_eq, ← List.forall₂_eq_eq_eq, List.forall₂_map_left_iff,
    List.forall₂_map_right_iff]
  simp only [toLower_eq_toLower_iff]

/-- No text names two variants. -/
theorem NamedBy.unique (hv : v.NamedBy name) (hw : w.NamedBy name) : v = w := by
  have hlower : ∀ v w : Variant, sameIgnoringCase v.name w.name = true → v = w := by
    intro v w
    cases v <;> cases w <;> decide
  have hv' := beq_iff_eq.1 (sameIgnoringCase_iff.2 hv)
  have hw' := beq_iff_eq.1 (sameIgnoringCase_iff.2 hw)
  exact hlower v w (beq_iff_eq.2 (hv'.trans hw'.symm))

theorem mem_all (v : Variant) : v ∈ all := by
  cases v <;> decide

theorem namedBy_of_ofName? (h : ofName? name = some v) : v.NamedBy name :=
  sameIgnoringCase_iff.1 (List.find?_some (p := fun u : Variant => sameIgnoringCase u.name name) h)

theorem ofName?_eq_some_iff : ofName? name = some v ↔ v.NamedBy name := by
  refine ⟨namedBy_of_ofName?, ?_⟩
  intro h
  cases hfound : ofName? name with
  | none =>
    have hnot := List.find?_eq_none.1 hfound v (mem_all v)
    exact absurd (sameIgnoringCase_iff.2 h) hnot
  | some w => rw [(namedBy_of_ofName? hfound).unique h]

/-- **Accepted names** are those that name a variant. -/
theorem parse_eq_ok_iff : parse name = .ok v ↔ v.NamedBy name := by
  rw [← ofName?_eq_some_iff, parse]
  cases ofName? name <;> simp

theorem parse_eq_error_iff :
    parse name = .error e ↔ e.name = name ∧ ∀ v : Variant, ¬ v.NamedBy name := by
  simp only [← ofName?_eq_some_iff, parse]
  obtain ⟨refused⟩ := e
  cases ofName? name <;> simp [eq_comm]

/-! ### Many names -/

/-- **First unknown name**: no variant has the name, and each one before it names a
    variant. -/
def FirstUnknown (names : List String) (name : String) : Prop :=
  ∃ before after, names = before ++ name :: after ∧
    (∀ n ∈ before, ∃ v : Variant, v.NamedBy n) ∧ ∀ v : Variant, ¬ v.NamedBy name

theorem not_firstUnknown_nil : ¬ FirstUnknown [] name := by
  rintro ⟨before, after, hnames, -⟩
  exact absurd hnames.symm (by simp)

theorem firstUnknown_cons_iff {n : String} :
    FirstUnknown (n :: names) name ↔
      (name = n ∧ ∀ v : Variant, ¬ v.NamedBy n) ∨
        (∃ v : Variant, v.NamedBy n) ∧ FirstUnknown names name := by
  constructor
  · rintro ⟨before, after, hnames, hbefore, hunknown⟩
    cases before with
    | nil =>
      obtain ⟨rfl, -⟩ := List.cons.inj hnames
      exact Or.inl ⟨rfl, hunknown⟩
    | cons m before =>
      obtain ⟨rfl, hrest⟩ := List.cons.inj hnames
      obtain ⟨hn, hbefore⟩ := List.forall_mem_cons.1 hbefore
      exact Or.inr ⟨hn, before, after, hrest, hbefore, hunknown⟩
  · rintro (⟨rfl, hunknown⟩ | ⟨hn, before, after, rfl, hbefore, hunknown⟩)
    · exact ⟨[], names, rfl, List.forall_mem_nil _, hunknown⟩
    · exact ⟨n :: before, after, rfl, List.forall_mem_cons.2 ⟨hn, hbefore⟩, hunknown⟩

/-- Names are read one after another, up to the first that is not known. -/
theorem mapM_parse_cons (n : String) (names : List String) :
    (n :: names).mapM parse = match parse n with
      | .error e => .error e
      | .ok v => (names.mapM parse).map (v :: ·) := by
  rw [List.mapM_cons]
  cases parse n with
  | error e => rfl
  | ok v => cases names.mapM parse <;> rfl

theorem mapM_parse_eq_error_iff :
    names.mapM parse = .error e ↔ FirstUnknown names e.name := by
  induction names with
  | nil => exact iff_of_false nofun not_firstUnknown_nil
  | cons n names ih =>
    rw [mapM_parse_cons, firstUnknown_cons_iff, ← ih]
    cases hn : parse n with
    | error e' =>
      -- an unknown name ends the reading here, whatever is behind it
      obtain ⟨rfl, hunknown⟩ := parse_eq_error_iff.1 hn
      obtain ⟨refused⟩ := e
      obtain ⟨refused'⟩ := e'
      simp [hunknown, eq_comm]
    | ok v =>
      -- a known one is passed, and the first unknown one is among the rest
      have hv := parse_eq_ok_iff.1 hn
      have hsome : ∃ v : Variant, v.NamedBy n := ⟨v, hv⟩
      have hnot : ¬ ∀ v : Variant, ¬ v.NamedBy n := fun h => h v hv
      simp only [hsome, hnot, and_false, true_and, false_or]
      cases names.mapM parse <;> simp [Except.map]

theorem mapM_parse_eq_ok_iff {named : List Variant} :
    names.mapM parse = .ok named ↔ names.Forall₂ (fun n v => v.NamedBy n) named := by
  induction names generalizing named with
  | nil =>
    rw [List.forall₂_nil_left_iff]
    exact ⟨fun h => (Except.ok.inj h).symm, fun h => h ▸ rfl⟩
  | cons n names ih =>
    rw [mapM_parse_cons, List.forall₂_cons_left_iff]
    cases hn : parse n with
    | error e' =>
      obtain ⟨-, hunknown⟩ := parse_eq_error_iff.1 hn
      apply iff_of_false nofun
      rintro ⟨v, -, hv, -⟩
      exact hunknown v hv
    | ok v =>
      have hv := parse_eq_ok_iff.1 hn
      constructor
      · intro h
        cases hrest : names.mapM parse with
        | error e' => exact absurd (hrest ▸ h) nofun
        | ok rest =>
          rw [hrest] at h
          exact ⟨v, rest, hv, ih.1 hrest, (Except.ok.inj h).symm⟩
      · rintro ⟨w, rest, hw, hrest, rfl⟩
        rw [ih.2 hrest, hv.unique hw]
        rfl

theorem exists_named_iff :
    (∃ named, names.Forall₂ (fun n (v : Variant) => v.NamedBy n) named) ↔
      ∀ n ∈ names, ∃ v : Variant, v.NamedBy n := by
  induction names with
  | nil => exact iff_of_true ⟨[], .nil⟩ (List.forall_mem_nil _)
  | cons n names ih =>
    rw [List.forall_mem_cons, ← ih]
    constructor
    · rintro ⟨named, hnamed⟩
      obtain ⟨v, rest, hv, hrest, -⟩ := List.forall₂_cons_left_iff.1 hnamed
      exact ⟨⟨v, hv⟩, ⟨rest, hrest⟩⟩
    · rintro ⟨⟨v, hv⟩, ⟨named, hnamed⟩⟩
      exact ⟨v :: named, .cons hv hnamed⟩

end Variant

/-! ### What is chosen -/

/-- **Selection**: everything when nothing is given, and otherwise what is given. -/
structure Selection {α : Type} [DecidableEq α] (all given chosen : List α) : Prop where
  /-- Nothing is chosen twice. -/
  once : chosen.Nodup
  /-- Something is chosen. -/
  nonempty : chosen ≠ []
  /-- Everything is chosen when nothing is given. -/
  unasked : given = [] → chosen = all
  /-- Otherwise the choice is what is given, in the order of first mention. -/
  asked : given ≠ [] → FirstMentions given chosen

theorem selection_ite {α : Type} [DecidableEq α] {all given : List α} (honce : all.Nodup)
    (hnonempty : all ≠ []) :
    Selection all given (if given.isEmpty then all else given.eraseDups) := by
  cases given with
  | nil => exact ⟨honce, hnonempty, fun _ => rfl, fun h => absurd rfl h⟩
  | cons x given =>
    have hfirst := firstMentions_eraseDups (x :: given)
    have hx : x ∈ (x :: given).eraseDups := (hfirst.mem_iff x).2 List.mem_cons_self
    exact ⟨hfirst.once, List.ne_nil_of_mem hx, fun h => absurd h (List.cons_ne_nil _ _),
      fun _ => hfirst⟩

namespace Task

/-! ### The tasks of a configuration -/

theorem kind_eq (task : Task) :
    task.kind = task.variant.name ++ if task.mode.minify then "-min" else "" :=
  rfl

/-- **Labels** tell tasks apart. -/
theorem kind_injective : Function.Injective kind := by
  rintro ⟨v, m⟩ ⟨w, n⟩
  cases v <;> cases m <;> cases w <;> cases n <;> decide

theorem mem_ofConfig_iff {config : Config} {task : Task} :
    task ∈ ofConfig config ↔ task.variant ∈ config.variants ∧ task.mode ∈ config.modes := by
  simp only [ofConfig, List.mem_flatMap, List.mem_map]
  constructor
  · rintro ⟨mode, hmode, variant, hvariant, rfl⟩
    exact ⟨hvariant, hmode⟩
  · rintro ⟨hvariant, hmode⟩
    exact ⟨task.mode, hmode, task.variant, hvariant, rfl⟩

/-- No task stands twice when no variant and no mode does. -/
theorem nodup_ofConfig {config : Config} (hvariants : config.variants.Nodup)
    (hmodes : config.modes.Nodup) : (ofConfig config).Nodup := by
  refine List.nodup_flatMap.2 ⟨?_, ?_⟩
  · intro mode _
    exact hvariants.map fun v w h => (Task.mk.inj h).1
  · -- tasks of two modes differ in their modes
    refine hmodes.imp fun hne => ?_
    rintro task hone hother
    obtain ⟨v, -, rfl⟩ := List.mem_map.1 hone
    obtain ⟨w, -, hsame⟩ := List.mem_map.1 hother
    exact hne (Task.mk.inj hsame).2.symm

end Task

/-- **Launched**: what a run of a configuration is to do. -/
structure Launches (config : Config) (tasks : List Task) : Prop where
  /-- The labels are different. -/
  labels : (tasks.map Task.kind).Nodup
  /-- There are as many tasks as the configuration counts. -/
  count : tasks.length = config.taskCount
  /-- There is a task for each combination, and there are no others. -/
  mem_iff : ∀ task : Task,
    task ∈ tasks ↔ task.variant ∈ config.variants ∧ task.mode ∈ config.modes
  /-- They are launched mode by mode, and for a mode in the order of the variants. -/
  placed : ∀ i j mode variant, config.modes[i]? = some mode → config.variants[j]? = some variant →
    tasks[i * config.variants.length + j]? = some { variant, mode }
  /-- A run starts with the courses of them, each in its slot. -/
  courses : ∀ tool w, (Interleaving.start config tool w).tasks =
    tasks.map fun task => { progress := .ready (task.perform config tool).run, held := [] }
  /-- A report that a run takes from a slot has the label of the task there. -/
  taken : ∀ host tool w turns slot report,
    Interleaving.Takes host (Interleaving.start config tool w) turns slot (.ok report) →
      (tasks.map Task.kind)[slot]? = some report.kind

theorem launches_ofConfig {config : Config} (hvariants : config.variants.Nodup)
    (hmodes : config.modes.Nodup) : Launches config (Task.ofConfig config) where
  labels := (Task.nodup_ofConfig hvariants hmodes).map Task.kind_injective
  count := (Task.length_ofConfig config).trans (Nat.mul_comm _ _)
  mem_iff _ := Task.mem_ofConfig_iff
  placed _ _ _ _ hmode hvariant := Task.getElem?_ofConfig hmode hvariant
  courses _ _ := rfl
  taken host tool w turns slot report htakes := by
    obtain ⟨task, hslot, hend⟩ := Interleaving.mayEnd_of_takes htakes
    rw [List.getElem?_map, hslot, Option.map_some, Task.kind_eq, Task.kind_of_mayEnd_perform hend]

/-! ### Configurations from arguments -/

namespace Config

variable {env : Environment} {a : Arguments} {config : Config}

/-- All variants are meant when no name is given, which is when none is read. -/
theorem variantsOf_eq (names : List String) :
    variantsOf names = (names.mapM Variant.parse).map fun named =>
      if named.isEmpty then Variant.all else named.eraseDups := by
  cases names with
  | nil => rfl
  | cons n names =>
    rw [variantsOf, if_neg (by simp)]
    cases hread : (n :: names).mapM Variant.parse with
    | error e => rfl
    | ok named =>
      obtain ⟨v, rest, -, -, rfl⟩ := List.forall₂_cons_left_iff.1
        (Variant.mapM_parse_eq_ok_iff.1 hread)
      rfl

theorem variantsOf_eq_error_iff {names : List String} {e : UnknownVariant} :
    variantsOf names = .error e ↔ Variant.FirstUnknown names e.name := by
  rw [variantsOf_eq, ← Variant.mapM_parse_eq_error_iff]
  cases names.mapM Variant.parse <;> simp [Except.map]

theorem selection_of_variantsOf {names : List String} {chosen : List Variant}
    (h : variantsOf names = .ok chosen) :
    ∃ named, names.Forall₂ (fun n v => Variant.NamedBy v n) named ∧
      Selection Variant.all named chosen := by
  rw [variantsOf_eq] at h
  cases hread : names.mapM Variant.parse with
  | error e => exact absurd (hread ▸ h) nofun
  | ok named =>
    rw [hread] at h
    obtain rfl := Except.ok.inj h
    exact ⟨named, Variant.mapM_parse_eq_ok_iff.1 hread, selection_ite (by decide) (by decide)⟩

theorem ofArguments_eq_error_iff {e : UnknownVariant} :
    ofArguments env a = .error e ↔ variantsOf a.variants = .error e := by
  rw [ofArguments]
  cases variantsOf a.variants with
  | error e' =>
    constructor <;> exact fun h => congrArg Except.error (Except.error.inj h)
  | ok chosen => exact iff_of_false nofun nofun

/-- The variants and modes of a configuration depend on nothing but those that are named. -/
theorem chosen_of_ofArguments (h : ofArguments env a = .ok config) :
    variantsOf a.variants = .ok config.variants ∧ config.modes = modesOf a.modes := by
  rw [ofArguments] at h
  cases hvariants : variantsOf a.variants with
  | error e => exact absurd (hvariants ▸ h) nofun
  | ok chosen =>
    rw [hvariants] at h
    obtain rfl := Except.ok.inj h
    exact ⟨rfl, rfl⟩

/-- **Configured**: arguments come to a configuration exactly when every name is one of a
    variant. -/
theorem exists_ofArguments_iff :
    (∃ config, ofArguments env a = .ok config) ↔
      ∀ name ∈ a.variants, ∃ v : Variant, v.NamedBy name := by
  rw [← Variant.exists_named_iff]
  constructor
  · rintro ⟨config, h⟩
    obtain ⟨named, hnamed, -⟩ := selection_of_variantsOf (chosen_of_ofArguments h).1
    exact ⟨named, hnamed⟩
  · rintro ⟨named, hnamed⟩
    have hread := Variant.mapM_parse_eq_ok_iff.2 hnamed
    cases h : ofArguments env a with
    | ok config => exact ⟨config, rfl⟩
    | error e =>
      have herror := ofArguments_eq_error_iff.1 h
      rw [variantsOf_eq, hread] at herror
      exact absurd herror nofun

/-- **Selected**: what a configuration from arguments has a run do. -/
structure Selects (config : Config) (a : Arguments) : Prop where
  /-- The variants are those that are named. -/
  variants : ∃ named, a.variants.Forall₂ (fun name v => Variant.NamedBy v name) named ∧
    Selection Variant.all named config.variants
  /-- The modes are those that are given. -/
  modes : Selection Mode.all a.modes config.modes
  /-- The tasks are all combinations of them. -/
  tasks : Launches config (Task.ofConfig config)

theorem selects_of_ofArguments (h : ofArguments env a = .ok config) : config.Selects a := by
  obtain ⟨hvariants, hmodes⟩ := chosen_of_ofArguments h
  obtain ⟨named, hnamed, hchosen⟩ := selection_of_variantsOf hvariants
  have hmodes' : Selection Mode.all a.modes config.modes :=
    hmodes ▸ selection_ite (by decide) (by decide)
  exact ⟨⟨named, hnamed, hchosen⟩, hmodes', launches_ofConfig hchosen.once hmodes'.once⟩

/-- **What arguments select**: arguments are refused exactly when they name a variant that
    there is not, and then for the first such name. Otherwise each variant and each mode that
    is named is chosen once, in the order of first mention, or all of them where none is; and
    the tasks of the run are all combinations, mode by mode and with different labels. -/
theorem selected_by_arguments (env : Environment) (a : Arguments) :
    (∀ e, ofArguments env a = .error e ↔ Variant.FirstUnknown a.variants e.name) ∧
      ((∃ config, ofArguments env a = .ok config) ↔
        ∀ name ∈ a.variants, ∃ v : Variant, v.NamedBy name) ∧
      ∀ config, ofArguments env a = .ok config → config.Selects a :=
  ⟨fun _ => ofArguments_eq_error_iff.trans variantsOf_eq_error_iff, exists_ofArguments_iff,
    fun _ h => selects_of_ofArguments h⟩

/-- Arguments that name variants in mixed cases, one of them again. -/
def mixedCases : Arguments :=
  { Arguments.none with variants := ["TS", "es6", "tS"], modes := [.minified, .minified] }

/-- Arguments with a name that only looks like one of a variant, in front of another unknown
    one. -/
def lookalike : Arguments :=
  { Arguments.none with variants := ["Es6", "t\u017f", "amd"] }

/-- A repetition in other letters is dropped, and a letter that only looks like one of a name
    is not accepted. -/
theorem selected_by_arguments_mixedCases :
    (∃ config, ofArguments ⟨.empty, [], []⟩ mixedCases = .ok config ∧
      config.Selects mixedCases ∧
      (Task.ofConfig config).map Task.kind = ["ts-min", "es6-min"]) ∧
    Variant.FirstUnknown lookalike.variants "t\u017f" := by
  obtain ⟨-, -, hselects⟩ := selected_by_arguments ⟨.empty, [], []⟩ mixedCases
  obtain ⟨hrefused, -⟩ := selected_by_arguments ⟨.empty, [], []⟩ lookalike
  exact ⟨⟨_, rfl, hselects _ rfl, by decide⟩, (hrefused ⟨"t\u017f"⟩).1 rfl⟩

end Config

end MapAudit
