import MapAudit.Build.Artifacts
import MapAudit.Proofs.Build.Below
import MapAudit.Proofs.World.Activity

/-! # Writing a fixture

    The files of a fixture are written one after another into a scratch directory, each with the
    directories above it. A file may turn out to stand where a later one needs a directory, and
    a directory where a later one is to be written. Otherwise all of them are there in the end,
    with the directories above them and nothing else, when the tool is launched.
-/

namespace MapAudit

/-! ### Files of a fixture -/

namespace FixtureFile

variable {f g : FixtureFile}

/-- The names on the way to a file. -/
def names (f : FixtureFile) : List String :=
  (Path.ofString f.path).segments

/-- Whether a file **lies below** the directory of its fixture: there are names on the way to
    it, and nothing else. -/
def LiesBelow (f : FixtureFile) : Prop :=
  ∀ name ∈ f.names, Scratch.IsOrdinary name ∧ name.toList.contains '\x00' = false

/-- Whether a file **fits** into a directory: neither the names on the way to it nor its path
    are too long there. -/
structure Fits (directory : Path) (f : FixtureFile) : Prop where
  /-- No name is too long. -/
  names : ∀ name ∈ f.names, name.utf8ByteSize ≤ FileTree.maxNameSize
  /-- The path is not too long. -/
  path : (directory.join (.ofString f.path)).text.utf8ByteSize ≤ FileTree.maxPathSize

/-- Whether the path of a file is that of a directory above another file. -/
def IsAncestor (f g : FixtureFile) : Prop :=
  f.names <+: g.names ∧ f.names ≠ g.names

theorem names_ne_nil (f : FixtureFile) : f.names ≠ [] := by
  unfold names Path.ofString
  exact List.map_eq_nil_iff.not.2 (List.splitOn_ne_nil _ _)

/-- The way to a file ends with a name. -/
theorem exists_names_eq (f : FixtureFile) : ∃ init last, f.names = init ++ [last] :=
  ⟨_, _, (List.dropLast_append_getLast f.names_ne_nil).symm⟩

/-- Files to which the same names lead have the same path. -/
theorem path_eq_of_names_eq (h : f.names = g.names) : f.path = g.path :=
  Path.ofString_injective (congrArg Path.mk h)

end FixtureFile

variable {base home location there : Location} {tree made : FileTree} {directory : Path}
  {names way init : List String} {last name : String}

/-! ### Paths of files -/

section Below

variable {f : FixtureFile} (h : Reaches base directory home tree) (hbelow : f.LiesBelow)
include h hbelow

theorem Reaches.join_eq : directory.join (.ofString f.path) = directory.down f.names := by
  obtain ⟨stem, name, rfl, hname⟩ := h.named
  apply Path.join_of_head (Path.ne_empty_of_not_isIdle hname.1)
  intro hhead
  have hfirst : "" ∈ f.names := List.mem_of_head? hhead
  exact absurd (hbelow "" hfirst).1.1 (by decide)

/-- The names on the way to a file that fits can be followed. -/
theorem Reaches.passes (hfits : f.Fits directory) : Passes directory f.names where
  ordinary name hname := (hbelow name hname).1
  short := hfits.names
  followable init last hinit := by
    have hpath := hfits.path
    rw [h.join_eq hbelow] at hpath
    refine ⟨?_, ?_⟩
    · obtain ⟨stem, name, rfl, -⟩ := h.named
      have hdirectory := (FileTree.followable_of_locateWith h.leads).1
      rw [List.append_assoc, List.any_append, hdirectory, Bool.false_or, List.any_eq_false]
      intro segment hsegment
      rw [(hbelow segment (hinit.subset hsegment)).2]
      exact Bool.false_ne_true
    · rw [List.append_assoc]
      refine (Path.size_le_of_prefix ?_ (by simp)).trans hpath
      exact (List.prefix_append_right_inj _).2 hinit

end Below

/-! ### Files laid out -/

/-- **Laid out**: in a directory there are files, each with its source, and the directories above
    them, and nothing else. -/
structure LaidOut (home : Location) (files : List FixtureFile) (tree : FileTree) : Prop where
  /-- The directory is there. -/
  top : tree.surface? home = some .empty
  /-- The files are there. -/
  file : ∀ f ∈ files, tree.get? (home ++ f.names) = some (.ofBytes f.source.toUTF8 false)
  /-- So are the directories above them. -/
  above : ∀ f ∈ files, ∀ way, way <+: f.names → way ≠ f.names →
    tree.surface? (home ++ way) = some .empty
  /-- There is nothing else. -/
  nothingElse : ∀ way, way ≠ [] → (∀ f ∈ files, ¬ way <+: f.names) → tree.get? (home ++ way) = none

namespace LaidOut

variable {files : List FixtureFile} {f g : FixtureFile}

/-- Nothing is laid out in an empty directory. -/
theorem nil (h : tree.get? home = some .empty) : LaidOut home [] tree where
  top := FileTree.surface?_of_get? h
  file f hf := absurd hf List.not_mem_nil
  above f hf := absurd hf List.not_mem_nil
  nothingElse way hway _ := by
    obtain ⟨key, rest, rfl⟩ := List.exists_cons_of_ne_nil hway
    rw [FileTree.get?_append, h]
    rfl

variable (h : LaidOut home files tree)
include h

theorem surface?_file (hf : f ∈ files) : tree.surface? (home ++ f.names) =
    some (.ofBytes f.source.toUTF8 false) :=
  FileTree.surface?_of_get? (h.file f hf)

/-- What is on the way to a file is the file or a directory. -/
theorem surface?_of_prefix (hf : f ∈ files) (hway : way <+: f.names) :
    way = f.names ∨ tree.surface? (home ++ way) = some .empty := by
  by_cases heq : way = f.names
  · exact Or.inl heq
  · exact Or.inr (h.above f hf way hway heq)

theorem isOwn : IsOwn home tree where
  top := h.top
  below way node hnode := by
    by_cases hway : way = []
    · rw [hway, List.append_nil, h.top] at hnode
      exact Or.inl (Option.some.inj hnode).symm
    · by_cases hfiles : ∀ f ∈ files, ¬ way <+: f.names
      · rw [FileTree.get?_eq_none_iff_surface?.1 (h.nothingElse way hway hfiles)] at hnode
        exact absurd hnode nofun
      · push Not at hfiles
        obtain ⟨f, hf, hbegins⟩ := hfiles
        rcases h.surface?_of_prefix hf hbegins with rfl | hempty
        · rw [h.surface?_file hf] at hnode
          exact Or.inr ⟨_, (Option.some.inj hnode).symm⟩
        · rw [hempty] at hnode
          exact Or.inl (Option.some.inj hnode).symm

/-- No file is above another one. -/
theorem not_isAncestor (hf : f ∈ files) (hg : g ∈ files) : ¬ f.IsAncestor g := by
  intro hancestor
  have hdirectory := h.above g hg f.names hancestor.1 hancestor.2
  rw [h.surface?_file hf] at hdirectory
  exact absurd hdirectory nofun

/-- A file on a way is one of those laid out. -/
theorem exists_of_file {file : File} (hfile : tree.surface? (home ++ way) = some (.file file)) :
    ∃ g ∈ files, way = g.names := by
  have hway : way ≠ [] := by
    rintro rfl
    rw [List.append_nil, h.top] at hfile
    exact absurd hfile nofun
  by_contra hnone
  push Not at hnone
  have helse : ∀ g ∈ files, ¬ way <+: g.names := by
    intro g hg hbegins
    have hdirectory := h.above g hg way hbegins (hnone g hg)
    rw [hfile] at hdirectory
    exact absurd hdirectory nofun
  rw [FileTree.get?_eq_none_iff_surface?.1 (h.nothingElse way hway helse)] at hfile
  exact absurd hfile nofun

/-- **One more file**: the directories above it are made, and then the file. -/
theorem concat {tree' : FileTree} {init : List String} {last : String}
    (hmade : MadeDown home init tree (.ok (), made)) (hnames : f.names = init ++ [last])
    (hnew : ∀ g ∈ files, ¬ f.names <+: g.names)
    (hfile : tree'.get? (home ++ f.names) = some (.ofBytes f.source.toUTF8 false))
    (hsame : ∀ there, there ≠ home ++ f.names → tree'.surface? there = made.surface? there) :
    LaidOut home (files ++ [f]) tree' := by
  -- what was there stays
  have hkept : ∀ there node, there ≠ home ++ f.names → tree.surface? there = some node →
      tree'.surface? there = some node := fun there node hne hnode => by
    rw [hsame there hne]
    exact hmade.kept h.isOwn hnode
  have hahead : ∀ g ∈ files, ∀ way, way <+: g.names → home ++ way ≠ home ++ f.names :=
    fun g hg way hway heq => hnew g hg (List.append_cancel_left heq ▸ hway)
  cases hmade with
  | made free along elsewhere =>
    refine ⟨?_, ?_, ?_, ?_⟩
    · refine hkept home _ ?_ h.top
      intro heq
      exact f.names_ne_nil (List.self_eq_append_right.1 heq)
    · intro g hg
      rcases List.mem_append.1 hg with hg | hg
      · refine FileTree.get?_of_surface?_file (hkept _ _ ?_ (h.surface?_file hg))
        exact hahead g hg _ (List.prefix_refl _)
      · rwa [List.mem_singleton.1 hg]
    · intro g hg way hway hne
      rcases List.mem_append.1 hg with hg | hg
      · exact hkept _ _ (hahead g hg way hway) (h.above g hg way hway hne)
      · obtain rfl := List.mem_singleton.1 hg
        rw [hsame _ fun heq => hne (List.append_cancel_left heq)]
        rw [hnames] at hway hne
        rcases prefix_concat_cases hway hne with rfl | ⟨hway, -⟩
        · exact along _ (List.prefix_refl _)
        · exact along _ hway
    · intro way hway helse
      have hf : ¬ way <+: f.names := helse f (by simp)
      have hne : home ++ way ≠ home ++ f.names := fun heq =>
        hf (List.append_cancel_left heq ▸ List.prefix_refl _)
      rw [FileTree.get?_eq_none_iff_surface?, hsame _ hne, elsewhere _ fun way' hway' heq => hf ?_]
      · rw [← FileTree.get?_eq_none_iff_surface?]
        exact h.nothingElse way hway fun g hg => helse g (List.mem_append_left _ hg)
      · obtain rfl := List.append_cancel_left heq
        rw [hnames]
        exact hway'.trans (List.prefix_append _ _)

end LaidOut

/-! ### Writing -/

section Writing

open Activity

variable {host : Host} {files done rest : List FixtureFile} {f : FixtureFile} {w : World}

/-- What **writing files** comes to: all of them are laid out, or there are two of which one has
    the path of a directory above the other. -/
inductive Wrote (host : Host) (directory : Path) (home : Location) (files : List FixtureFile)
    (w : World) : Except BuildError Unit × World → Prop where
  /-- All of them are laid out. -/
  | laidOut {tree : FileTree} (reached : Reaches host.base directory home tree)
      (laid : LaidOut home files tree)
      (elsewhere : ∀ there, ¬ home <+: there → tree.surface? there = w.tree.surface? there) :
      Wrote host directory home files w (.ok (), w.withTree tree)
  /-- One is in the way of another one. -/
  | clashed {f g : FixtureFile} {p : Path} {tree : FileTree} (hf : f ∈ files) (hg : g ∈ files)
      (ancestor : f.IsAncestor g) :
      Wrote host directory home files w (.error (.io p), w.withTree tree)

/-- In a directory that is there, a file is written where its names lead to. -/
theorem write_down (h : Reaches base directory home tree) (hnames : Passes directory names)
    (hlast : names = init ++ [last]) (habove : tree.surface? (home ++ init) = some .empty)
    (content : ByteArray) :
    tree.write base (directory.down names) content = tree.writeAt (home ++ names) content := by
  subst hlast
  have hlocate := h.locateName_of_above hnames habove
  rw [h.locateName_down hnames, ← h.locate_down hnames] at hlocate
  unfold FileTree.write
  rw [hlocate]

theorem writeAt_of_none (hnone : tree.get? location = none)
    (hopen : tree.isOpenAbove location = true) (content : ByteArray) :
    tree.writeAt location content = (.ok (), tree.set location (.ofBytes content false)) := by
  unfold FileTree.writeAt
  rw [hnone]
  dsimp only
  rw [if_pos hopen]

theorem writeAt_of_directory (hempty : tree.surface? location = some .empty)
    (content : ByteArray) : tree.writeAt location content = (.error .isDirectory, tree) := by
  obtain ⟨entries, hnode⟩ := FileTree.get?_of_surface?_empty hempty
  unfold FileTree.writeAt
  rw [hnode]

/-- The file itself, when its directories are made: it can be written unless a directory is
    there. -/
theorem wrote_write (hreach : Reaches host.base directory home w.tree)
    (hlaid : LaidOut home done w.tree) (hnames : Passes directory f.names)
    (hlast : f.names = init ++ [last]) (hmade : MadeDown home init w.tree (.ok (), made))
    (hnew : ∀ g ∈ done, f.names ≠ g.names) :
    Wrote host directory home (done ++ [f]) w
      ((orFail (.io (directory.down f.names))
        (write (directory.down f.names) f.source.toUTF8)).run.run host (w.withTree made)) := by
  have hreach' := hreach.of_madeDown hmade
  obtain ⟨habove, hthere, houtside⟩ := hmade.spec hlast
  rw [run_orFail, run_write]
  dsimp only [World.withTree]
  rw [write_down hreach' hnames hlast habove]
  by_cases hclash : ∃ g ∈ done, f.names <+: g.names
  · -- a file that is laid out lies below the name, so there is a directory
    obtain ⟨g, hg, hbegins⟩ := hclash
    have hempty := hlaid.above g hg f.names hbegins (hnew g hg)
    rw [← hthere] at hempty
    rw [writeAt_of_directory hempty]
    exact .clashed (List.mem_append_right _ (List.mem_singleton_self f))
      (List.mem_append_left _ hg) ⟨hbegins, hnew g hg⟩
  · push Not at hclash
    -- otherwise nothing is there: what is laid out lies elsewhere
    have hnone := hlaid.nothingElse f.names f.names_ne_nil hclash
    rw [FileTree.get?_eq_none_iff_surface?, ← hthere,
      ← FileTree.get?_eq_none_iff_surface?] at hnone
    have hopen : made.isOpenAbove (home ++ f.names) = true := by
      rw [hlast, ← List.append_assoc]
      exact isOpenAbove_of_surface? habove last
    rw [writeAt_of_none hnone hopen]
    have hset : ∀ there, (made.set (home ++ f.names)
        (.ofBytes f.source.toUTF8 false)).surface? there =
          if there = home ++ f.names then some (.ofBytes f.source.toUTF8 false)
          else made.surface? there := fun there =>
      FileTree.surface?_set_bare hnone hopen fun _ _ => rfl
    have hlaid' := hlaid.concat hmade hlast hclash (FileTree.get?_set_new hnone hopen _)
      fun there hne => by rw [hset, if_neg hne]
    refine .laidOut (hreach'.extend ?_ hlaid'.isOwn.below) hlaid' ?_
    · -- a new file hides nothing that was there
      intro there node hnode
      rw [hset, if_neg, hnode]
      rintro rfl
      rw [FileTree.get?_eq_none_iff_surface?.1 hnone] at hnode
      exact absurd hnode nofun
    · intro there hout
      have hne : there ≠ home ++ f.names := by
        rintro rfl
        exact hout (List.prefix_append _ _)
      rw [hset, if_neg hne, houtside there hout]

/-- **Writing one more file**: its directories can be made unless a file is in the way, and then
    the file can be written unless a directory is there. -/
theorem wrote_writeFile (hreach : Reaches host.base directory home w.tree)
    (hlaid : LaidOut home done w.tree) (hbelow : f.LiesBelow) (hfits : f.Fits directory)
    (hnew : ∀ g ∈ done, f.names ≠ g.names) :
    Wrote host directory home (done ++ [f]) w
      ((Artifacts.writeFile directory f).run.run host w) := by
  obtain ⟨init, last, hlast⟩ := f.exists_names_eq
  have hnames := hreach.passes hbelow hfits
  have hinit : init <+: f.names := hlast ▸ List.prefix_append _ _
  have hparent : (directory.down f.names).parent? = some (directory.down init) := by
    rw [hlast] at hnames ⊢
    exact hreach.parent?_down hnames
  unfold Artifacts.writeFile
  dsimp only
  rw [hreach.join_eq hbelow, hparent]
  dsimp only
  rw [run_orFail_bind, run_createAll]
  have hmade : MadeDown home init w.tree (w.tree.createAll host.base (directory.down init)) :=
    madeDown_makeAlong hreach (hnames.of_prefix hinit) (by simp [Path.down])
  generalize w.tree.createAll host.base (directory.down init) = result at hmade ⊢
  obtain ⟨answer, made⟩ := result
  cases answer with
  | error fault =>
    cases hmade with
    | blocked ahead file =>
      -- the file in the way is one that was written before
      obtain ⟨g, hg, rfl⟩ := hlaid.exists_of_file file
      exact .clashed (List.mem_append_left _ hg)
        (List.mem_append_right _ (List.mem_singleton_self f)) ⟨ahead.trans hinit, (hnew g hg).symm⟩
  | ok u => exact wrote_write hreach hlaid hnames hlast hmade hnew

/-- **Writing files** after those that are laid out. -/
theorem wrote_writeFiles (hreach : Reaches host.base directory home w.tree)
    (hlaid : LaidOut home done w.tree) (hbelow : ∀ f ∈ rest, f.LiesBelow)
    (hfits : ∀ f ∈ rest, f.Fits directory) (hnodup : ((done ++ rest).map FixtureFile.names).Nodup) :
    Wrote host directory home (done ++ rest) w
      ((Artifacts.writeFiles directory rest).run.run host w) := by
  induction rest generalizing done w with
  | nil =>
    rw [List.append_nil]
    exact .laidOut hreach hlaid fun _ _ => rfl
  | cons f rest ih =>
    have hnew : ∀ g ∈ done, f.names ≠ g.names := by
      intro g hg heq
      rw [List.map_append, List.nodup_append] at hnodup
      exact hnodup.2.2 _ (List.mem_map_of_mem hg) _ (List.mem_map_of_mem List.mem_cons_self)
        heq.symm
    have hone := wrote_writeFile hreach hlaid (hbelow f List.mem_cons_self)
      (hfits f List.mem_cons_self) hnew
    have hconcat : done ++ f :: rest = done ++ [f] ++ rest := by simp
    unfold Artifacts.writeFiles
    generalize hrun : (Artifacts.writeFile directory f).run.run host w = result at hone
    cases hone with
    | @clashed f' g p tree hf' hg ancestor =>
      rw [run_bind_of_error hrun, hconcat]
      exact .clashed (List.mem_append_left _ hf') (List.mem_append_left _ hg) ancestor
    | @laidOut tree reached laid elsewhere =>
      rw [run_bind_of_ok hrun, hconcat]
      have hrest := ih (w := w.withTree tree) reached laid
        (fun g hg => hbelow g (List.mem_cons_of_mem _ hg))
        (fun g hg => hfits g (List.mem_cons_of_mem _ hg)) (hconcat ▸ hnodup)
      generalize (Artifacts.writeFiles directory rest).run.run host (w.withTree tree) =
        final at hrest ⊢
      cases hrest with
      | laidOut reached' laid' elsewhere' =>
        exact .laidOut reached' laid' fun there hthere =>
          (elsewhere' there hthere).trans (elsewhere there hthere)
      | clashed hf hg ancestor => exact .clashed hf hg ancestor

end Writing

/-! ### Before the tool is launched -/

/-- Whether a request is to launch a program. -/
def Request.IsLaunch (r : Request) : Prop :=
  ∃ program arguments directory, r = .launch program arguments directory

/-- **Quiet** requests neither show a diagnostic nor launch a program. -/
def Request.IsQuiet : Request → Prop
  | .report _ | .launch _ _ _ => False
  | _ => True

theorem Request.IsQuiet.not_isLaunch {r : Request} (h : r.IsQuiet) : ¬ r.IsLaunch := by
  rintro ⟨program, arguments, directory, rfl⟩
  exact h

namespace Artifacts

open Activity

variable {host : Host} {files : List FixtureFile} {f : FixtureFile} {w w' w'' : World}
  {r : Request} {tool : Path} {fixture : Fixture} {flags : BuildFlags} {scratch : Scratch}

theorem asks_writeFile (directory : Path) (f : FixtureFile) :
    Asks Request.IsQuiet (writeFile directory f) fun _ => True := by
  unfold writeFile
  have hwrite : Asks Request.IsQuiet
      (orFail (.io (directory.join (.ofString f.path)))
        (write (directory.join (.ofString f.path)) f.source.toUTF8) :
          ExceptT BuildError Activity Unit) fun _ => True := Asks.orFail (confined_request trivial)
  dsimp only
  split
  · exact hwrite
  · exact Asks.bind (Asks.orFail (confined_request trivial)) fun _ _ => hwrite

theorem asks_writeFiles (directory : Path) (files : List FixtureFile) :
    Asks Request.IsQuiet (writeFiles directory files) fun _ => True := by
  induction files with
  | nil => exact Asks.pure trivial
  | cons f rest ih => exact Asks.bind (asks_writeFile directory f) fun _ _ => ih

/-- Nothing is launched while files are written. -/
theorem not_isLaunch_writeFiles (h : (w', r) ∈ (writeFiles directory files).run.asked host w) :
    ¬ r.IsLaunch :=
  (Confined.of_mem_asked (asks_writeFiles directory files) h).not_isLaunch

/-- Reading a file asks for its content. -/
theorem asked_readText (p : Path) (w : World) :
    (readText p).run.asked host w = [(w, .read p)] := by
  refine (asked_bind_of_ok (run_lift (read p) w)).trans ?_
  rw [asked_lift]
  refine congrArg ((w, Request.read p) :: ·) ?_
  cases ((read p).run host w).1 with
  | error fault => cases fault <;> rfl
  | ok bytes =>
    dsimp only
    cases Text.decodeUtf8? bytes <;> rfl

/-- Running the tool asks to launch it. -/
theorem asked_runTool (tool : Path) (flags : BuildFlags) (directory : Path) (entry : FixtureFile)
    (w : World) : (runTool tool flags directory entry).run.asked host w =
      [(w, .launch tool (flags.arguments entry.path) directory)] :=
  asked_launchOrFail w

/-- **All that a build launches** is the tool, when the files are written. -/
theorem launched_build_iff (hwrite : (writeFiles scratch.path fixture.files).run.run host w =
      (.ok (), w')) : (w'', r) ∈ (build tool fixture flags scratch).run.asked host w ∧ r.IsLaunch ↔
    ∃ entry, fixture.entry? = some entry ∧ w'' = w' ∧
      r = .launch tool (flags.arguments entry.path) scratch.path := by
  unfold build
  rw [asked_bind_of_ok hwrite, List.mem_append]
  cases hentry : fixture.entry? with
  | none =>
    refine iff_of_false ?_ nofun
    rintro ⟨h | h, hlaunch⟩
    · exact not_isLaunch_writeFiles h hlaunch
    · exact absurd h List.not_mem_nil
  | some entry =>
    have htool : ∀ v, v ∈ (runTool tool flags scratch.path entry).run.asked host w' ↔
        v = (w', .launch tool (flags.arguments entry.path) scratch.path) := fun v => by
      rw [asked_runTool, List.mem_singleton]
    constructor
    · -- first the tool is launched, and then its files are read
      rintro ⟨h | h, hlaunch⟩
      · exact absurd hlaunch (not_isLaunch_writeFiles h)
      have hread : ∀ p v, (w'', r) ∉ (readText p).run.asked host v := by
        intro p v hmem
        rw [asked_readText] at hmem
        obtain ⟨program, arguments, place, rfl⟩ := hlaunch
        exact absurd (List.mem_singleton.1 hmem) (by simp)
      rcases of_mem_asked_bind h with h | ⟨u, w₁, -, h⟩
      · obtain ⟨hworld, hrequest⟩ := Prod.mk.inj ((htool _).1 h)
        exact ⟨entry, rfl, hworld, hrequest⟩
      · rcases of_mem_asked_bind h with h | ⟨output, w₂, -, h⟩
        · exact absurd h (hread _ _)
        · rcases of_mem_asked_bind h with h | ⟨map, w₃, -, h⟩
          · exact absurd h (hread _ _)
          · exact absurd h List.not_mem_nil
    · rintro ⟨entry', hentry', rfl, rfl⟩
      obtain rfl := Option.some.inj hentry'
      refine ⟨Or.inr ?_, _, _, _, rfl⟩
      exact mem_asked_bind ((htool _).2 rfl)

/-- A build whose files cannot be written fails like that. -/
theorem run_build_of_error {e : BuildError}
    (hwrite : (writeFiles scratch.path fixture.files).run.run host w = (.error e, w')) :
    (build tool fixture flags scratch).run.run host w = (.error e, w') := by
  unfold build
  exact run_bind_of_error hwrite

theorem asked_build_of_error {e : BuildError}
    (hwrite : (writeFiles scratch.path fixture.files).run.run host w = (.error e, w')) :
    (build tool fixture flags scratch).run.asked host w =
      (writeFiles scratch.path fixture.files).run.asked host w := by
  unfold build
  exact asked_bind_of_error hwrite

/-- **Write phase** of a build in a directory. -/
structure WritePhase (host : Host) (tool : Path) (fixture : Fixture) (flags : BuildFlags)
    (scratch : Scratch) (home : Location) (w : World) : Prop where
  /-- It succeeds exactly when no file has the path of a directory above another one. -/
  succeeds_iff : ((writeFiles scratch.path fixture.files).run.run host w).1 = .ok () ↔
    ∀ f ∈ fixture.files, ∀ g ∈ fixture.files, ¬ f.IsAncestor g
  /-- Then the files are laid out in the directory, and elsewhere nothing has changed, when the
      tool is launched. -/
  success : ∀ w', (writeFiles scratch.path fixture.files).run.run host w = (.ok (), w') →
    LaidOut home fixture.files w'.tree ∧
      w' = w.withTree w'.tree ∧
      (∀ there, ¬ home <+: there → w'.tree.surface? there = w.tree.surface? there) ∧
      ∀ w'' r, (w'', r) ∈ (build tool fixture flags scratch).run.asked host w →
        r.IsLaunch → w'' = w'
  /-- Otherwise the build fails when it makes a directory or writes a file, and the tool is not
      launched. -/
  failure : ∀ e w', (writeFiles scratch.path fixture.files).run.run host w = (.error e, w') →
    (∃ p, e = .io p) ∧
      (build tool fixture flags scratch).run.run host w = (.error e, w') ∧
      ∀ w'' r, (w'', r) ∈ (build tool fixture flags scratch).run.asked host w → ¬ r.IsLaunch

/-- Whether a scratch directory is **new**: nothing is in it. -/
structure IsNew (host : Host) (scratch : Scratch) (home : Location) (w : World) : Prop where
  /-- It has the path of a scratch directory. -/
  path : ∃ root number, scratch.path = Scratch.pathOf root number
  /-- It is there. -/
  leads : w.tree.locateName host.base scratch.path = .ok home
  /-- It is empty. -/
  empty : w.tree.get? home = some .empty

/-- The files of a fixture are laid out in a new directory, or are in each other's way. -/
theorem wrote_of_isNew (hnew : IsNew host scratch home w)
    (hbelow : ∀ f ∈ fixture.files, f.LiesBelow)
    (hfits : ∀ f ∈ fixture.files, f.Fits scratch.path) :
    Wrote host scratch.path home fixture.files w
      ((writeFiles scratch.path fixture.files).run.run host w) := by
  obtain ⟨root, number, hpath⟩ := hnew.path
  have hlaid : LaidOut home [] w.tree := .nil hnew.empty
  have hname := Scratch.not_isIdle_nameOf number
  have hreach : Reaches host.base scratch.path home w.tree :=
    ⟨⟨root.stem, _, hpath.trans (Scratch.pathOf_eq root number), hname,
      Scratch.nameOf_ne_up number⟩,
      hnew.leads, hlaid.isOwn⟩
  have hnodup : (fixture.files.map FixtureFile.names).Nodup := by
    have hdistinct := List.pairwise_map.1 fixture.distinct
    exact List.pairwise_map.2 (hdistinct.imp fun hne heq =>
      hne (FixtureFile.path_eq_of_names_eq heq))
  have hwrote : Wrote host scratch.path home ([] ++ fixture.files) w _ :=
    wrote_writeFiles hreach hlaid hbelow hfits hnodup
  rwa [List.nil_append] at hwrote

/-- **Fixtures are written** like this into every new scratch directory, if their files lie below
    it and fit into it. -/
theorem writePhase_of_isNew (hnew : IsNew host scratch home w)
    (hbelow : ∀ f ∈ fixture.files, f.LiesBelow)
    (hfits : ∀ f ∈ fixture.files, f.Fits scratch.path) :
    WritePhase host tool fixture flags scratch home w := by
  have hwrote := wrote_of_isNew hnew hbelow hfits
  generalize hrun : (writeFiles scratch.path fixture.files).run.run host w = result at hwrote
  cases hwrote with
  | @laidOut tree reached laid elsewhere =>
    refine ⟨?_, fun w' hw' => ?_, fun e w' hw' => ?_⟩
    · rw [hrun]
      exact iff_of_true rfl fun f hf g hg => laid.not_isAncestor hf hg
    · rw [hrun] at hw'
      obtain ⟨-, rfl⟩ := Prod.mk.inj hw'
      refine ⟨laid, rfl, elsewhere, fun w'' r h hlaunch => ?_⟩
      obtain ⟨entry, -, rfl, -⟩ := (launched_build_iff hrun).1 ⟨h, hlaunch⟩
      rfl
    · rw [hrun] at hw'
      exact absurd (Prod.mk.inj hw').1 nofun
  | @clashed f g p tree hf hg ancestor =>
    refine ⟨?_, fun w' hw' => ?_, fun e w' hw' => ?_⟩
    · rw [hrun]
      exact iff_of_false nofun fun hfree => hfree f hf g hg ancestor
    · rw [hrun] at hw'
      exact absurd (Prod.mk.inj hw').1 nofun
    · have herror := (Prod.mk.inj (hrun.symm.trans hw')).1
      refine ⟨⟨p, (Except.error.inj herror).symm⟩, run_build_of_error hw', fun w'' r h => ?_⟩
      rw [asked_build_of_error hw'] at h
      exact not_isLaunch_writeFiles h

/-- A host on which every program succeeds and leaves all files as they are. -/
def idleHost : Host where
  base := []
  launch _ _ _ tree := some (⟨some 0, .empty⟩, tree)

/-- A world with a new scratch directory. -/
def withScratch : World where
  tree := .directory (.usual 0o755) [("b", .directory (.usual 0o755)
    [(Scratch.nameOf 0, .empty)])]
  nextNumber := 1
  reported := []

/-- A scratch directory that does not stay. -/
def firstScratch : Scratch where
  path := Scratch.pathOf ⟨["b"]⟩ 0
  keep := false

/-- A fixture with a file in a directory further down. -/
def nestedFixture : Fixture :=
  .ofFiles .es6 [⟨"a.js", "1"⟩, ⟨"lib/b.js", "2"⟩] []

theorem isNew_firstScratch : IsNew idleHost firstScratch ["b", Scratch.nameOf 0] withScratch where
  path := ⟨⟨["b"]⟩, 0, rfl⟩
  leads := rfl
  empty := rfl

theorem writePhase_of_isNew_nested :
    WritePhase idleHost ⟨["tool"]⟩ nestedFixture ⟨true, false⟩ firstScratch
        ["b", Scratch.nameOf 0] withScratch ∧
      ((writeFiles firstScratch.path nestedFixture.files).run.run idleHost
        withScratch).2.tree.list = ["b/", "b/.verify-source-map0/", "b/.verify-source-map0/a.js",
          "b/.verify-source-map0/lib/", "b/.verify-source-map0/lib/b.js"] := by
  refine ⟨writePhase_of_isNew isNew_firstScratch ?_ fun f hf => ?_, by decide +kernel⟩
  · unfold FixtureFile.LiesBelow Scratch.IsOrdinary
    decide +kernel
  · exact ⟨by revert f; decide +kernel, by revert f; decide +kernel⟩

end Artifacts

end MapAudit
