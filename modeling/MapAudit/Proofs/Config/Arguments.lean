import MapAudit.CommandLine.Basic
import Mathlib.Data.List.Induction

/-! # The order of arguments

    A command line is written in groups: a flag, or an option with its value. The value of
    an option is the next argument or stands behind an equals sign. When nothing is given
    twice that may stand once only, neither the order of the groups nor the way in which
    they are written matters, except for the order of the variants and that of the modes.

    Reading takes up what the groups give, one after another, and what waits to be taken up
    is taken up in time. So the induction over the groups leaves no reading state behind,
    and what is taken up in the end can be told for each field on its own.
-/

namespace MapAudit.Arguments

/-! ### Groups -/

/-- What a group of arguments **gives**. -/
inductive Given where
  /-- A flag. -/
  | flag (f : Flag)
  /-- An option with its value. -/
  | value (s : Setting) (value : String)
  deriving DecidableEq, Repr

/-- **Group** of arguments. -/
inductive Group where
  /-- A flag. -/
  | flag (f : Flag)
  /-- An option, followed by its value. -/
  | apart (s : Setting) (value : String)
  /-- An option with its value behind an equals sign. -/
  | joined (s : Setting) (value : String)
  deriving DecidableEq, Repr

namespace Group

/-- What a group gives, however it is written. -/
def given : Group → Given
  | .flag f => .flag f
  | .apart s value | .joined s value => .value s value

/-- The arguments of a group. -/
def texts : Group → List String
  | .flag f => ["--" ++ f.name]
  | .apart s value => ["--" ++ s.name, value]
  | .joined s value => ["--" ++ s.name ++ "=" ++ value]

end Group

/-- A command line written in groups. -/
def write (gs : List Group) : List String :=
  gs.flatMap Group.texts

theorem write_cons (g : Group) (gs : List Group) : write (g :: gs) = g.texts ++ write gs :=
  List.flatMap_cons

/-- Takes up what a group gives. -/
def take (a : Arguments) : Given → Except UsageError Arguments
  | .flag f => a.raise f
  | .value s value => a.assign s value

variable {a : Arguments} {p : Pending} {argument value : String} {rest : List String}
  {body : List Char} {gs : List Group} {l l' : List Given}

/-! ### Names -/

theorem ofName?_flag (f : Flag) : Flag.ofName? f.name.toList = some f := by
  cases f <;> decide

theorem ofName?_setting (s : Setting) : Setting.ofName? s.name.toList = some s := by
  cases s <;> decide

theorem ofName?_mode (mode : Mode) : Mode.ofName? mode.name = some mode := by
  cases mode <;> decide

theorem ofName?_output (output : OutputFormat) :
    OutputFormat.ofName? output.name = some output := by
  cases output <;> decide

/-- No option is named like a flag. -/
theorem flag_ofName?_setting (s : Setting) : Flag.ofName? s.name.toList = .none := by
  cases s <;> decide

theorem equals_notMem_flag (f : Flag) : '=' ∉ f.name.toList := by
  cases f <;> decide

theorem equals_notMem_setting (s : Setting) : '=' ∉ s.name.toList := by
  cases s <;> decide

theorem toList_flag_ne_nil (f : Flag) : f.name.toList ≠ [] := by
  cases f <;> decide

theorem toList_setting_ne_nil (s : Setting) : s.name.toList ≠ [] := by
  cases s <;> decide

/-! ### Reading groups -/

theorem splitValue_of_notMem {name : List Char} (h : '=' ∉ name) :
    splitValue name = (name, .none) := by
  induction name with
  | nil => rfl
  | cons c name ih =>
    rw [List.mem_cons, not_or] at h
    rw [splitValue, if_neg (Ne.symm h.1), ih h.2]

theorem splitValue_append {name value : List Char} (h : '=' ∉ name) :
    splitValue (name ++ '=' :: value) = (name, some value) := by
  induction name with
  | nil => rfl
  | cons c name ih =>
    rw [List.mem_cons, not_or] at h
    rw [List.cons_append, splitValue, if_neg (Ne.symm h.1), ih h.2]

theorem readLong_flag (f : Flag) :
    a.readLong p f.name.toList = do return (← (← a.settle p).raise f, .nothing) := by
  rw [readLong, splitValue_of_notMem (equals_notMem_flag f)]
  simp only [ofName?_flag]

theorem readLong_apart (s : Setting) :
    a.readLong p s.name.toList = do return (← a.settle p, .option s) := by
  rw [readLong, splitValue_of_notMem (equals_notMem_setting s)]
  simp only [ofName?_setting, flag_ofName?_setting]

theorem readLong_joined (s : Setting) (value : String) :
    a.readLong p (s.name.toList ++ '=' :: value.toList) =
      do return (← (← a.settle p).assign s value, .nothing) := by
  rw [readLong, splitValue_append (equals_notMem_setting s)]
  simp only [ofName?_setting, flag_ofName?_setting, String.ofList_toList]

theorem readAll_long (h : argument.toList = '-' :: '-' :: body) (hbody : body ≠ []) :
    readAll a p (argument :: rest) =
      a.readLong p body >>= fun next => readAll next.1 next.2 rest := by
  obtain ⟨c, body, rfl⟩ := List.exists_cons_of_ne_nil hbody
  rw [readAll, h]
  rfl

theorem readAll_plain (h : argument.toList.head? ≠ some '-') :
    readAll a p (argument :: rest) =
      a.readPlain p argument >>= fun next => readAll next.1 next.2 rest := by
  rw [readAll]
  cases hargument : argument.toList with
  | nil => rfl
  | cons c body =>
    have hc : c ≠ '-' := by simpa [hargument] using h
    split <;> simp_all

/-! ### Taking up groups -/

theorem toList_dashes (name : String) : ("--" ++ name).toList = '-' :: '-' :: name.toList := by
  simp

theorem toList_joined (name value : String) :
    ("--" ++ name ++ "=" ++ value).toList = '-' :: '-' :: (name.toList ++ '=' :: value.toList) := by
  simp

/-- **Group read**: what waits is taken up first, and what the group gives is taken up in
    time. -/
theorem readAll_group {k : Arguments → Except UsageError Arguments} {g : Group}
    (hapart : ∀ s value, g = .apart s value → value.toList.head? ≠ some '-')
    (hrest : ∀ a p, readAll a p rest = a.settle p >>= k) :
    readAll a p (g.texts ++ rest) = a.settle p >>= fun a => a.take g.given >>= k := by
  cases g with
  | flag f =>
    rw [Group.texts, List.singleton_append, readAll_long (toList_dashes _)
      (toList_flag_ne_nil f), readLong_flag]
    simp only [bind_assoc, pure_bind, hrest, settle]
    rfl
  | apart s value =>
    -- the text behind it is its value: it does not start as an option does
    have hvalue : ∀ a, readAll a (.option s) (value :: rest) = a.assign s value >>= k := by
      intro a
      rw [readAll_plain (hapart s value rfl), readPlain]
      exact hrest a (.value s value)
    rw [Group.texts, List.cons_append, List.singleton_append, readAll_long (toList_dashes _)
      (toList_setting_ne_nil s), readLong_apart]
    simp only [bind_assoc, pure_bind, hvalue]
    rfl
  | joined s value =>
    rw [Group.texts, List.singleton_append, readAll_long (toList_joined _ _) (by simp),
      readLong_joined]
    simp only [bind_assoc, pure_bind, hrest, settle]
    rfl

/-- **Groups read**: what groups give is taken up, one after another. -/
theorem readAll_write
    (hapart : ∀ s value, .apart s value ∈ gs → value.toList.head? ≠ some '-') :
    readAll a p (write gs) = a.settle p >>= fun a => (gs.map Group.given).foldlM take a := by
  induction gs generalizing a p with
  | nil => exact (bind_pure _).symm
  | cons g gs ih =>
    have hrest : ∀ a p, readAll a p (write gs) =
        a.settle p >>= fun a => (gs.map Group.given).foldlM take a :=
      fun a p => ih fun s value hmem => hapart s value (List.mem_cons_of_mem _ hmem)
    have hfirst : ∀ s value, g = .apart s value → value.toList.head? ≠ some '-' :=
      fun s value h => hapart s value (h ▸ List.mem_cons_self)
    rw [write_cons, readAll_group hfirst hrest]
    rfl

/-! ### What is given -/

/-- The value that is given to an option, if one is. -/
def Given.valueFor? (s : Setting) : Given → Option String
  | .flag _ => .none
  | .value t value => if t = s then some value else .none

/-- The values that an option is given, in order. -/
def valuesOf (s : Setting) (l : List Given) : List String :=
  l.filterMap (Given.valueFor? s)

/-- **What is said**: a flag is raised if it is given, an option has the value that it is
    given, and the variants and the modes are those that are given. -/
def said (l : List Given) : Arguments where
  tool := (valuesOf .tool l).head?
  toolRoot := (valuesOf .toolRoot l).head?
  skipBuild := decide (.flag .skipBuild ∈ l)
  scratchRoot := (valuesOf .scratchRoot l).head?
  keepScratch := decide (.flag .keepScratch ∈ l)
  variants := valuesOf .variant l
  modes := (valuesOf .mode l).filterMap Mode.ofName?
  output := (valuesOf .output l).head?.bind OutputFormat.ofName?
  verbose := decide (.flag .verbose ∈ l)

/-- **Repetition**: a flag is given again, or an option that has one value. -/
def Given.Repeats : Given → Given → Prop
  | .flag f, .flag g => f = g
  | .value s _, .value t _ => s = t ∧ s ≠ .variant ∧ s ≠ .mode
  | _, _ => False

/-- **Allowed**: the flag sets something, and the value is one of those possible. -/
def Given.Allowed : Given → Prop
  | .flag f => f ≠ .help ∧ f ≠ .version
  | .value s value => value ≠ "" ∧ (s = .mode → value ∈ Mode.all.map Mode.name) ∧
    (s = .output → value ∈ OutputFormat.all.map OutputFormat.name)

instance (x y : Given) : Decidable (x.Repeats y) :=
  match x, y with
  | .flag f, .flag g => inferInstanceAs (Decidable (f = g))
  | .flag _, .value _ _ | .value _ _, .flag _ => inferInstanceAs (Decidable False)
  | .value s _, .value t _ =>
    inferInstanceAs (Decidable (s = t ∧ s ≠ .variant ∧ s ≠ .mode))

instance (x : Given) : Decidable x.Allowed :=
  match x with
  | .flag f => inferInstanceAs (Decidable (f ≠ .help ∧ f ≠ .version))
  | .value s value => inferInstanceAs (Decidable (value ≠ "" ∧
    (s = .mode → value ∈ Mode.all.map Mode.name) ∧
    (s = .output → value ∈ OutputFormat.all.map OutputFormat.name)))

@[simp] theorem valuesOf_append (s : Setting) (l l' : List Given) :
    valuesOf s (l ++ l') = valuesOf s l ++ valuesOf s l' :=
  List.filterMap_append

@[simp] theorem valuesOf_flag (s : Setting) (f : Flag) : valuesOf s [.flag f] = [] := rfl

@[simp] theorem valuesOf_value (s t : Setting) (value : String) :
    valuesOf s [.value t value] = if t = s then [value] else [] := by
  by_cases h : t = s <;> simp [valuesOf, Given.valueFor?, h]

theorem Given.valueFor?_eq_some_iff {s : Setting} {x : Given} :
    x.valueFor? s = some value ↔ x = .value s value := by
  cases x with
  | flag f => exact iff_of_false nofun nofun
  | value t v => simp [valueFor?]

theorem mem_valuesOf_iff {s : Setting} : value ∈ valuesOf s l ↔ .value s value ∈ l := by
  simp [valuesOf, Given.valueFor?_eq_some_iff]

/-- An option that has one value has none if the value is no repetition. -/
theorem valuesOf_eq_nil {s : Setting} (hvariant : s ≠ .variant) (hmode : s ≠ .mode)
    (h : ∀ x ∈ l, ¬ x.Repeats (.value s value)) : valuesOf s l = [] := by
  apply List.eq_nil_iff_forall_not_mem.2
  intro v hv
  exact h _ (mem_valuesOf_iff.1 hv) ⟨rfl, hvariant, hmode⟩

/-- **One more**: what is allowed and no repetition is taken up. -/
theorem take_said {x : Given} (hx : x.Allowed) (hnew : ∀ y ∈ l, ¬ y.Repeats x) :
    (said l).take x = .ok (said (l ++ [x])) := by
  cases x with
  | flag f =>
    have hnot : .flag f ∉ l := fun hmem => hnew _ hmem rfl
    cases f with
    | skipBuild => simp [take, raise, said, hnot]
    | keepScratch => simp [take, raise, said, hnot]
    | verbose => simp [take, raise, said, hnot]
    | help => exact absurd rfl hx.1
    | version => exact absurd rfl hx.2
  | value s value =>
    obtain ⟨-, hmode, houtput⟩ := hx
    cases s with
    | tool =>
      -- nothing has been said for it, since this would be a repetition
      have hnone := valuesOf_eq_nil (by decide) (by decide) hnew
      simp [take, assign, said, hnone]
    | toolRoot =>
      have hnone := valuesOf_eq_nil (by decide) (by decide) hnew
      simp [take, assign, said, hnone]
    | scratchRoot =>
      have hnone := valuesOf_eq_nil (by decide) (by decide) hnew
      simp [take, assign, said, hnone]
    | variant => simp [take, assign, said]
    | mode =>
      obtain ⟨mode, -, rfl⟩ := List.mem_map.1 (hmode rfl)
      simp [take, assign, said, ofName?_mode]
    | output =>
      have hnone := valuesOf_eq_nil (by decide) (by decide) hnew
      obtain ⟨output, -, rfl⟩ := List.mem_map.1 (houtput rfl)
      simp [take, assign, said, hnone, ofName?_output]

/-- **All of it**: what is allowed and has no repetitions is taken up as it is said. -/
theorem foldlM_take (hallowed : ∀ x ∈ l, x.Allowed)
    (honce : l.Pairwise fun x y => ¬ x.Repeats y) : l.foldlM take none = .ok (said l) := by
  -- the last group is the last one taken up
  induction l using List.reverseRecOn with
  | nil => rfl
  | append_singleton l x ih =>
    obtain ⟨hbefore, hlast⟩ := List.forall_mem_append.1 hallowed
    obtain ⟨hold, -, hnew⟩ := List.pairwise_append.1 honce
    have hx : x ∈ [x] := List.mem_singleton_self x
    rw [List.foldlM_append, ih hbefore hold]
    show (said l).take x >>= pure = _
    rw [bind_pure, take_said (hlast x hx) fun y hy => hnew y hy x hx]

/-! ### Rearrangements -/

theorem Given.Repeats.symm {x y : Given} (h : x.Repeats y) : y.Repeats x := by
  cases x with
  | flag f =>
    cases y with
    | flag g => exact Eq.symm h
    | value t w => exact h.elim
  | value s v =>
    cases y with
    | flag g => exact h.elim
    | value t w =>
      obtain ⟨rfl, hs⟩ := h
      exact ⟨rfl, hs⟩

/-- What stands once only is the same in any order. -/
theorem valuesOf_eq_of_perm {s : Setting} (hvariant : s ≠ .variant) (hmode : s ≠ .mode)
    (honce : l.Pairwise fun x y => ¬ x.Repeats y) (hperm : l.Perm l') :
    valuesOf s l' = valuesOf s l := by
  have hvalues : (valuesOf s l).Perm (valuesOf s l') := hperm.filterMap _
  -- two values of one setting would repeat each other, so there is one at most
  have hpairs : (valuesOf s l).Pairwise fun _ _ => False := by
    refine List.pairwise_filterMap.2 (honce.imp ?_)
    intro x y hnot v hv w hw
    obtain rfl := Given.valueFor?_eq_some_iff.1 hv
    obtain rfl := Given.valueFor?_eq_some_iff.1 hw
    exact hnot ⟨rfl, hvariant, hmode⟩
  cases hgiven : valuesOf s l with
  | nil =>
    rw [hgiven] at hvalues
    exact hvalues.nil_eq.symm
  | cons v vs =>
    rw [hgiven] at hvalues hpairs
    cases vs with
    | nil => exact (List.singleton_perm.1 hvalues).symm
    | cons w vs => exact (List.rel_of_pairwise_cons hpairs List.mem_cons_self).elim

/-- **In any order** the same is said, if only the variants and the modes keep theirs. -/
theorem said_eq_of_perm (honce : l.Pairwise fun x y => ¬ x.Repeats y) (hperm : l.Perm l')
    (hvariants : valuesOf .variant l' = valuesOf .variant l)
    (hmodes : valuesOf .mode l' = valuesOf .mode l) : said l' = said l := by
  have hvalues : ∀ s, valuesOf s l' = valuesOf s l := by
    intro s
    by_cases hvariant : s = .variant
    · exact hvariant ▸ hvariants
    by_cases hmode : s = .mode
    · exact hmode ▸ hmodes
    exact valuesOf_eq_of_perm hvariant hmode honce hperm
  simp only [said, hvalues, hperm.mem_iff]

/-- **Allowed group**: what it gives is allowed, and a value on its own does not look like an
    option. -/
def Group.Allowed (g : Group) : Prop :=
  g.given.Allowed ∧ match g with
    | .apart _ value => value.toList.head? ≠ some '-'
    | .flag _ | .joined _ _ => True

instance (g : Group) : Decidable g.Allowed :=
  match g with
  | .flag _ | .joined _ _ => inferInstanceAs (Decidable (_ ∧ True))
  | .apart _ value => inferInstanceAs (Decidable (_ ∧ value.toList.head? ≠ some '-'))

/-- **Well-formed** groups of arguments. -/
structure WellFormed (gs : List Group) : Prop where
  /-- Each group is allowed. -/
  allowed : ∀ g ∈ gs, g.Allowed
  /-- Only variants and modes are given many times. -/
  once : (gs.map Group.given).Pairwise fun x y => ¬ x.Repeats y

/-- **Rearranged** groups: they stand in another order and may be written in another way. -/
structure Rearranges (gs gs' : List Group) : Prop where
  /-- Each group is written in an allowed way. -/
  allowed : ∀ g ∈ gs', g.Allowed
  /-- The same is given. -/
  perm : (gs.map Group.given).Perm (gs'.map Group.given)
  /-- The variants keep their order. -/
  variants : valuesOf .variant (gs'.map Group.given) = valuesOf .variant (gs.map Group.given)
  /-- The modes keep their order. -/
  modes : valuesOf .mode (gs'.map Group.given) = valuesOf .mode (gs.map Group.given)

theorem Rearranges.wellFormed {gs' : List Group} (h : Rearranges gs gs') (hgs : WellFormed gs) :
    WellFormed gs' where
  allowed := h.allowed
  once := (h.perm.pairwise_iff fun hnot hrepeats => hnot hrepeats.symm).1 hgs.once

/-- **Accepted**: well-formed arguments say what their groups give. -/
theorem parse_write (h : WellFormed gs) : parse (write gs) = .ok (said (gs.map Group.given)) := by
  have hallowed : ∀ x ∈ gs.map Group.given, x.Allowed :=
    List.forall_mem_map.2 fun g hg => (h.allowed g hg).1
  rw [parse, readAll_write fun s value hmem => (h.allowed _ hmem).2]
  exact foldlM_take hallowed h.once

/-- **Order and spelling** do not matter: well-formed arguments are accepted and say what
    their groups give. Rearranged and written in another way, with the variants and the modes
    in their order, they say the same, so the program is configured alike and does the same. -/
theorem rearranged_arguments_agree {gs : List Group} (h : WellFormed gs) :
    parse (write gs) = .ok (said (gs.map Group.given)) ∧
      ∀ gs', Rearranges gs gs' →
        parse (write gs') = parse (write gs) ∧
          (∀ env, (parse (write gs')).map (Config.ofArguments env) =
            .ok (Config.ofArguments env (said (gs.map Group.given)))) ∧
          ∀ host env w, CommandLine.execute host env (write gs') w =
            CommandLine.execute host env (write gs) w := by
  refine ⟨parse_write h, fun gs' hgs' => ?_⟩
  have hsame : parse (write gs') = parse (write gs) := by
    rw [parse_write h, parse_write (hgs'.wellFormed h),
      said_eq_of_perm h.once hgs'.perm hgs'.variants hgs'.modes]
  refine ⟨hsame, fun env => ?_, fun host env w => ?_⟩
  · rw [hsame, parse_write h]
    rfl
  · rw [CommandLine.execute, CommandLine.execute, CommandLine.perform, CommandLine.perform, hsame]

/-- Arguments with values that look like an option or like the value of another one. -/
def lookingAlike : List Group :=
  [.apart .variant "ts", .flag .verbose, .joined .tool "--output=json", .apart .output "human",
    .joined .variant "variant"]

/-- The same arguments in another order and other ways of writing. -/
def lookingAlikeAgain : List Group :=
  [.joined .output "human", .joined .tool "--output=json", .joined .variant "ts",
    .apart .variant "variant", .flag .verbose]

theorem rearranged_arguments_agree_lookingAlike :
    (WellFormed lookingAlike ∧ Rearranges lookingAlike lookingAlikeAgain) ∧
      parse ["--variant", "ts", "--verbose", "--tool=--output=json", "--output", "human",
          "--variant=variant"] =
        parse ["--output=human", "--tool=--output=json", "--variant=ts", "--variant", "variant",
          "--verbose"] := by
  have hallowed : WellFormed lookingAlike := ⟨by decide, by decide⟩
  have hagain : Rearranges lookingAlike lookingAlikeAgain :=
    ⟨by decide, by decide, by decide, by decide⟩
  refine ⟨⟨hallowed, hagain⟩, ?_⟩
  exact ((rearranged_arguments_agree hallowed).2 lookingAlikeAgain hagain).1.symm

end MapAudit.Arguments
