import MapAudit.Proofs.Build.Writing

/-! # What a build comes to

    Once the files of a fixture are written, the tool decides how a build ends. It may do
    anything: not start, fail, or succeed and leave any files behind. `Ends` says what comes of
    that, and `Reads` what comes of reading one file.

    A build does not look at who has made the files that it reads. If the tool succeeds without
    writing one of them, a file of the fixture that has its name passes for it.
-/

namespace MapAudit

/-- Bytes are read as a text if they are its UTF-8 form. -/
theorem Text.decodeUtf8?_eq_some_iff {bytes : ByteArray} {text : String} :
    Text.decodeUtf8? bytes = some text ↔ bytes = text.toUTF8 := by
  unfold Text.decodeUtf8? String.fromUTF8?
  constructor
  · intro h
    split at h
    · obtain rfl := Option.some.inj h
      rfl
    · cases h
  · rintro rfl
    rw [dif_pos (show text.toUTF8.IsValidUTF8 from text.isValidUTF8)]
    rfl

namespace Artifacts

open Activity

variable {host : Host} {base home : Location} {tree : FileTree} {p : Path} {name : String}
  {w w' w₁ : World} {tool : Path} {fixture : Fixture} {flags : BuildFlags} {scratch : Scratch}
  {entry : FixtureFile}

theorem eq_of_fst {α β : Type} {x : α × β} {a : α} (h : x.1 = a) : x = (a, x.2) :=
  Prod.ext h rfl

/-- The path of a file that the tool has to write. -/
def placeOf (scratch : Scratch) (name : String) : Path :=
  scratch.path.join ⟨[name]⟩

/-! ### Reading a file -/

/-- What **reading** a file comes to that the tool had to write. -/
inductive Reads (base : Location) (tree : FileTree) (p : Path) :
    Except BuildError String → Prop where
  /-- Nothing is there. -/
  | absent (nothing : tree.find base p = .error .notFound) :
      Reads base tree p (.error (.missingOutput p))
  /-- Something is in the way. -/
  | blocked {fault : FileFault} (fails : tree.find base p = .error fault)
      (other : fault ≠ .notFound) : Reads base tree p (.error (.io p))
  /-- What is there cannot be read: it is a directory, say, or it may not be read. -/
  | closed {node : FileTree} {fault : FileFault} (there : tree.find base p = .ok node)
      (fails : node.contentOf = .error fault) : Reads base tree p (.error (.io p))
  /-- What is there is no text. -/
  | garbled {node : FileTree} {bytes : ByteArray} (there : tree.find base p = .ok node)
      (content : node.contentOf = .ok bytes) (undecodable : ∀ text : String, bytes ≠ text.toUTF8) :
      Reads base tree p (.error (.io p))
  /-- What is there is a text. -/
  | text {node : FileTree} {text : String} (there : tree.find base p = .ok node)
      (content : node.contentOf = .ok text.toUTF8) : Reads base tree p (.ok text)

/-- Reading a file always comes to something. -/
theorem exists_reads (base : Location) (tree : FileTree) (p : Path) :
    ∃ result, Reads base tree p result := by
  cases hfind : tree.find base p with
  | error fault =>
    by_cases hfault : fault = .notFound
    · exact ⟨_, .absent (hfault ▸ hfind)⟩
    · exact ⟨_, .blocked hfind hfault⟩
  | ok node =>
    cases hcontent : node.contentOf with
    | error fault => exact ⟨_, .closed hfind hcontent⟩
    | ok bytes =>
      by_cases htext : ∃ text : String, bytes = text.toUTF8
      · obtain ⟨text, rfl⟩ := htext
        exact ⟨_, .text hfind hcontent⟩
      · exact ⟨_, .garbled hfind hcontent fun text heq => htext ⟨text, heq⟩⟩

/-- What is made of the content of a file. -/
def decoded (p : Path) : Except FileFault ByteArray → Except BuildError String
  | .error .notFound => .error (.missingOutput p)
  | .error _ => .error (.io p)
  | .ok bytes => (Text.decodeUtf8? bytes).elim (.error (.io p)) .ok

theorem decoded_error {fault : FileFault} (h : fault ≠ .notFound) :
    decoded p (.error fault) = .error (.io p) := by
  cases fault with
  | notFound => exact absurd rfl h
  | _ => rfl

theorem contentOf_ofBytes (content : ByteArray) (isExecutable : Bool) :
    (FileTree.ofBytes content isExecutable).contentOf = .ok content := by
  have hreadable :
      (Attributes.usual (if isExecutable then 0o755 else 0o644)).isReadable = true := by
    cases isExecutable <;> decide
  exact if_pos hreadable

/-- A node that is there is not missing, also if it cannot be read. -/
theorem contentOf_ne_notFound (node : FileTree) : node.contentOf ≠ .error .notFound := by
  intro h
  cases node with
  | file f =>
    dsimp only [FileTree.contentOf] at h
    by_cases hreadable : f.attributes.isReadable = true
    · rw [if_pos hreadable] at h
      cases h
    · rw [if_neg hreadable] at h
      cases h
  | device d => cases d <;> cases h
  | _ => cases h

theorem run_readText (host : Host) (p : Path) (w : World) :
    (readText p).run.run host w = (decoded p (w.tree.read host.base p), w) := by
  refine (run_bind_of_ok (run_lift (read p) w)).trans ?_
  have hread : (read p).run host w = (w.tree.read host.base p, w) := rfl
  rw [hread]
  cases w.tree.read host.base p with
  | error fault => cases fault <;> rfl
  | ok bytes =>
    unfold decoded
    dsimp only
    cases Text.decodeUtf8? bytes <;> rfl

/-- **Reading** a file comes to what it says, and changes nothing. -/
theorem run_readText_of_reads {result : Except BuildError String}
    (h : Reads host.base w.tree p result) : (readText p).run.run host w = (result, w) := by
  rw [run_readText]
  refine congrArg (·, w) ?_
  have hread : w.tree.read host.base p = (w.tree.find host.base p).bind FileTree.contentOf := rfl
  rw [hread]
  cases h with
  | absent nothing =>
    rw [nothing]
    rfl
  | blocked fails other =>
    rw [fails]
    exact decoded_error other
  | closed there fails =>
    rw [there]
    show decoded p (FileTree.contentOf _) = .error (.io p)
    rw [fails]
    apply decoded_error
    rintro rfl
    exact contentOf_ne_notFound _ fails
  | garbled there content undecodable =>
    have hnone : Text.decodeUtf8? _ = none := Option.eq_none_iff_forall_ne_some.2
      fun text hsome => undecodable text (Text.decodeUtf8?_eq_some_iff.1 hsome)
    rw [there]
    show decoded p (FileTree.contentOf _) = .error (.io p)
    rw [content, decoded, hnone]
    rfl
  | @text node text there content =>
    rw [there]
    show decoded p node.contentOf = .ok text
    rw [content, decoded, Text.decodeUtf8?_eq_some_iff.2 rfl]
    rfl

/-! ### Running the tool -/

theorem run_runTool_of_none (hlaunch : host.launch tool (flags.arguments entry.path) scratch.path
      w.tree = none) :
    (runTool tool flags scratch.path entry).run.run host w = (.error (.spawnFailed tool), w) :=
  run_launchOrFail_of_none hlaunch

theorem run_runTool_of_some {exit : Exit} (hlaunch : host.launch tool (flags.arguments entry.path)
      scratch.path w.tree = some (exit, tree)) :
    (runTool tool flags scratch.path entry).run.run host w =
      (if exit.status = some 0 then .ok ()
        else .error (.toolFailed exit.code (Text.decodeLossy exit.errors)), w.withTree tree) :=
  run_launchOrFail_of_some hlaunch

/-! ### What comes of a build -/

/-- **Ends** of a build whose files are written. -/
inductive Ends (host : Host) (tool : Path) (fixture : Fixture) (flags : BuildFlags)
    (scratch : Scratch) (w : World) : Except BuildError Artifacts → World → Prop where
  /-- There is no file to build from. -/
  | noEntry (files : fixture.files = []) :
      Ends host tool fixture flags scratch w (.error (.noEntry fixture.variant)) w
  /-- The tool cannot be started. -/
  | notStarted {entry : FixtureFile} (first : fixture.entry? = some entry)
      (launch : host.launch tool (flags.arguments entry.path) scratch.path w.tree = none) :
      Ends host tool fixture flags scratch w (.error (.spawnFailed tool)) w
  /-- The tool fails with a status, whatever files it leaves behind. -/
  | failed {entry : FixtureFile} {n : Nat} {errors : ByteArray} {tree : FileTree}
      (first : fixture.entry? = some entry)
      (launch : host.launch tool (flags.arguments entry.path) scratch.path w.tree =
        some (⟨some n, errors⟩, tree)) (failure : n ≠ 0) :
      Ends host tool fixture flags scratch w (.error (.toolFailed n (Text.decodeLossy errors)))
        (w.withTree tree)
  /-- The tool is ended by a signal, whatever files it leaves behind. -/
  | killed {entry : FixtureFile} {errors : ByteArray} {tree : FileTree}
      (first : fixture.entry? = some entry)
      (launch : host.launch tool (flags.arguments entry.path) scratch.path w.tree =
        some (⟨none, errors⟩, tree)) :
      Ends host tool fixture flags scratch w (.error (.toolFailed (-1) (Text.decodeLossy errors)))
        (w.withTree tree)
  /-- The tool succeeds, and the output cannot be read. -/
  | withoutOutput {entry : FixtureFile} {errors : ByteArray} {tree : FileTree} {e : BuildError}
      (first : fixture.entry? = some entry)
      (launch : host.launch tool (flags.arguments entry.path) scratch.path w.tree =
        some (⟨some 0, errors⟩, tree))
      (output : Reads host.base tree (placeOf scratch "out.js") (.error e)) :
      Ends host tool fixture flags scratch w (.error e) (w.withTree tree)
  /-- The tool succeeds, and the output can be read, but its map cannot. -/
  | withoutMap {entry : FixtureFile} {errors : ByteArray} {tree : FileTree} {text : String}
      {e : BuildError} (first : fixture.entry? = some entry)
      (launch : host.launch tool (flags.arguments entry.path) scratch.path w.tree =
        some (⟨some 0, errors⟩, tree))
      (output : Reads host.base tree (placeOf scratch "out.js") (.ok text))
      (map : Reads host.base tree (placeOf scratch "out.js.map") (.error e)) :
      Ends host tool fixture flags scratch w (.error e) (w.withTree tree)
  /-- The tool succeeds, and both can be read. -/
  | built {entry : FixtureFile} {errors : ByteArray} {tree : FileTree} {artifacts : Artifacts}
      (first : fixture.entry? = some entry)
      (launch : host.launch tool (flags.arguments entry.path) scratch.path w.tree =
        some (⟨some 0, errors⟩, tree))
      (output : Reads host.base tree (placeOf scratch "out.js") (.ok artifacts.output))
      (map : Reads host.base tree (placeOf scratch "out.js.map") (.ok artifacts.map)) :
      Ends host tool fixture flags scratch w (.ok artifacts) (w.withTree tree)

/-- A build always ends in one of these ways. -/
theorem exists_ends (host : Host) (tool : Path) (fixture : Fixture) (flags : BuildFlags)
    (scratch : Scratch) (w : World) :
    ∃ result w', Ends host tool fixture flags scratch w result w' := by
  cases hfirst : fixture.entry? with
  | none => exact ⟨_, _, .noEntry (List.head?_eq_none_iff.1 hfirst)⟩
  | some entry =>
    -- the status decides first, then the output, and last the map
    cases hlaunch : host.launch tool (flags.arguments entry.path) scratch.path w.tree with
    | none => exact ⟨_, _, .notStarted hfirst hlaunch⟩
    | some answer =>
      obtain ⟨⟨status, errors⟩, tree⟩ := answer
      rcases status with - | n
      · exact ⟨_, _, .killed hfirst hlaunch⟩
      · by_cases hn : n = 0
        · subst hn
          obtain ⟨output | output, houtput⟩ := exists_reads host.base tree
            (placeOf scratch "out.js")
          · exact ⟨_, _, .withoutOutput hfirst hlaunch houtput⟩
          · obtain ⟨map | map, hmap⟩ := exists_reads host.base tree
              (placeOf scratch "out.js.map")
            · exact ⟨_, _, .withoutMap hfirst hlaunch houtput hmap⟩
            · exact ⟨.ok ⟨output, map⟩, _, .built hfirst hlaunch houtput hmap⟩
        · exact ⟨_, _, .failed hfirst hlaunch hn⟩

section Written

variable (hwrite : (writeFiles scratch.path fixture.files).run.run host w = (.ok (), w₁))
include hwrite

/-- When the files are written, the tool is run on the entry file. -/
theorem run_build_of_entry (hfirst : fixture.entry? = some entry) :
    (build tool fixture flags scratch).run.run host w = (do
      runTool tool flags scratch.path entry
      let output ← readText (placeOf scratch "out.js")
      let map ← readText (placeOf scratch "out.js.map")
      return { output, map } : ExceptT BuildError Activity Artifacts).run.run host w₁ := by
  unfold build
  rw [run_bind_of_ok hwrite, hfirst]
  rfl

/-- A build that ends in one of these ways comes to what it says. -/
theorem run_build_of_ends {result : Except BuildError Artifacts}
    (h : Ends host tool fixture flags scratch w₁ result w') :
    (build tool fixture flags scratch).run.run host w = (result, w') := by
  -- the steps come in their order, up to the one that fails
  cases h with
  | noEntry files =>
    unfold build
    rw [run_bind_of_ok hwrite, Fixture.entry?, files]
    rfl
  | notStarted first launch =>
    rw [run_build_of_entry hwrite first]
    exact run_bind_of_error (run_runTool_of_none launch)
  | failed first launch failure =>
    have htool := run_runTool_of_some launch
    rw [if_neg (by simpa using failure)] at htool
    rw [run_build_of_entry hwrite first]
    exact run_bind_of_error htool
  | killed first launch =>
    have htool := run_runTool_of_some launch
    rw [if_neg (by simp)] at htool
    rw [run_build_of_entry hwrite first]
    exact run_bind_of_error htool
  | withoutOutput first launch output =>
    have htool := run_runTool_of_some launch
    rw [if_pos rfl] at htool
    rw [run_build_of_entry hwrite first, run_bind_of_ok htool]
    exact run_bind_of_error (run_readText_of_reads output)
  | withoutMap first launch output map =>
    have htool := run_runTool_of_some launch
    rw [if_pos rfl] at htool
    rw [run_build_of_entry hwrite first, run_bind_of_ok htool,
      run_bind_of_ok (run_readText_of_reads output)]
    exact run_bind_of_error (run_readText_of_reads map)
  | built first launch output map =>
    have htool := run_runTool_of_some launch
    rw [if_pos rfl] at htool
    rw [run_build_of_entry hwrite first, run_bind_of_ok htool,
      run_bind_of_ok (run_readText_of_reads output), run_bind_of_ok (run_readText_of_reads map)]
    rfl

theorem run_build_iff {result : Except BuildError Artifacts} :
    (build tool fixture flags scratch).run.run host w = (result, w') ↔
      Ends host tool fixture flags scratch w₁ result w' := by
  refine ⟨?_, run_build_of_ends hwrite⟩
  intro hrun
  obtain ⟨result', w'', hends⟩ := exists_ends host tool fixture flags scratch w₁
  rw [run_build_of_ends hwrite hends] at hrun
  obtain ⟨rfl, rfl⟩ := Prod.mk.inj hrun
  exact hends

end Written

/-- **Outcome** of a build whose files are written. -/
structure Outcome (host : Host) (tool : Path) (fixture : Fixture) (flags : BuildFlags)
    (scratch : Scratch) (w w₁ : World) : Prop where
  /-- It is one of the ways in which a build ends. -/
  ends_iff : ∀ result w', (build tool fixture flags scratch).run.run host w = (result, w') ↔
    Ends host tool fixture flags scratch w₁ result w'
  /-- The tool is launched once, unless there is no file. -/
  launched_iff : ∀ w'' r,
    (w'', r) ∈ (build tool fixture flags scratch).run.asked host w ∧ r.IsLaunch ↔
      ∃ entry, fixture.entry? = some entry ∧ w'' = w₁ ∧
        r = .launch tool (flags.arguments entry.path) scratch.path

/-- The artifacts with the names of their files. -/
def named (artifacts : Artifacts) : List (String × String) :=
  [("out.js", artifacts.output), ("out.js.map", artifacts.map)]

/-- Such a file would lie in the directory of the fixture itself. -/
theorem plain_of_mem_named {artifacts : Artifacts} {text : String}
    (h : (name, text) ∈ artifacts.named) : Path.ofString name = ⟨[name]⟩ ∧
      FixtureFile.LiesBelow ⟨name, ""⟩ ∧ name.utf8ByteSize ≤ FileTree.maxNameSize := by
  unfold FixtureFile.LiesBelow FixtureFile.names Scratch.IsOrdinary
  unfold named at h
  rcases List.mem_pair.1 h with heq | heq
  · obtain ⟨rfl, -⟩ := Prod.mk.inj heq
    decide
  · obtain ⟨rfl, -⟩ := Prod.mk.inj heq
    decide

/-- What is found at the place of such a file is what is in the directory. -/
theorem find_placeOf (hreach : Reaches base scratch.path home tree) {artifacts : Artifacts}
    {text : String} (hname : (name, text) ∈ artifacts.named)
    (hsize : (placeOf scratch name).text.utf8ByteSize ≤ FileTree.maxPathSize) :
    tree.find base (placeOf scratch name) =
      (tree.get? (home ++ [name])).elim (.error .notFound) .ok := by
  obtain ⟨hpath, hbelow, hshort⟩ := plain_of_mem_named hname
  have hnames : FixtureFile.names ⟨name, ""⟩ = [name] := congrArg Path.segments hpath
  have hjoin := hreach.join_eq hbelow
  -- the name alone leads down from the directory
  have hpasses : Passes scratch.path (FixtureFile.names ⟨name, ""⟩) := by
    refine hreach.passes hbelow ⟨?_, ?_⟩
    · intro segment hsegment
      rw [hnames] at hsegment
      rwa [List.mem_singleton.1 hsegment]
    · rw [hpath]
      exact hsize
  rw [hnames] at hpasses hjoin
  rw [hpath] at hjoin
  unfold placeOf
  rw [hjoin]
  exact hreach.find_child hpasses

/-- The texts of a successful build are read from the files that the tool leaves. -/
theorem reads_of_named (hwrite : (writeFiles scratch.path fixture.files).run.run host w =
      (.ok (), w₁)) {artifacts : Artifacts} {text : String}
    (hbuild : (build tool fixture flags scratch).run.run host w = (.ok artifacts, w'))
    (h : (name, text) ∈ artifacts.named) :
    Reads host.base w'.tree (placeOf scratch name) (.ok text) := by
  unfold named at h
  cases (run_build_iff hwrite).1 hbuild with
  | built first launch output map =>
    rcases List.mem_pair.1 h with heq | heq
    · obtain ⟨rfl, rfl⟩ := Prod.mk.inj heq
      exact output
    · obtain ⟨rfl, rfl⟩ := Prod.mk.inj heq
      exact map

theorem Reads.exists_node {text : String} (h : Reads base tree p (.ok text)) :
    ∃ node, tree.find base p = .ok node ∧ node.contentOf = .ok text.toUTF8 := by
  cases h with
  | text there content => exact ⟨_, there, content⟩

/-- What is laid out under a name: nothing, a directory, or the file of the fixture with this
    name. -/
theorem LaidOut.child_cases {files : List FixtureFile} (h : LaidOut home files tree)
    (name : String) :
    tree.get? (home ++ [name]) = none ∧ (∀ f ∈ files, f.names.head? ≠ some name) ∨
      (∃ f ∈ files, f.names.head? = some name) ∧
        ((∃ a entries, tree.get? (home ++ [name]) = some (.directory a entries)) ∨
          ∃ f ∈ files, f.names = [name] ∧
            tree.get? (home ++ [name]) = some (.ofBytes f.source.toUTF8 false)) := by
  have hhead : ∀ f : FixtureFile, [name] <+: f.names ↔ f.names.head? = some name := by
    intro f
    cases f.names with
    | nil => simp
    | cons first rest => simp [eq_comm]
  -- something is there only for a file whose path begins with the name
  by_cases hfiles : ∀ f ∈ files, ¬ [name] <+: f.names
  · exact Or.inl ⟨h.nothingElse [name] (by simp) hfiles, fun f hf hname =>
      hfiles f hf ((hhead f).2 hname)⟩
  · push Not at hfiles
    obtain ⟨f, hf, hbegins⟩ := hfiles
    refine Or.inr ⟨⟨f, hf, (hhead f).1 hbegins⟩, ?_⟩
    rcases h.surface?_of_prefix hf hbegins with hsame | hempty
    · exact Or.inr ⟨f, hf, hsame.symm, hsame ▸ h.file f hf⟩
    · obtain ⟨entries, hnode⟩ := FileTree.get?_of_surface?_empty hempty
      exact Or.inl ⟨_, entries, hnode⟩

/-- **Origin** of what a build gives whose files are written. -/
structure Origin (host : Host) (tool : Path) (fixture : Fixture) (flags : BuildFlags)
    (scratch : Scratch) (w w₁ : World) : Prop where
  /-- What was not there when the tool was launched is there when it has ended. -/
  made : ∀ artifacts w', (build tool fixture flags scratch).run.run host w = (.ok artifacts, w') →
    ∀ name text, (name, text) ∈ artifacts.named →
      w₁.tree.find host.base (placeOf scratch name) = .error .notFound →
        ∃ node, w'.tree.find host.base (placeOf scratch name) = .ok node
  /-- If there was no output, and a tool that succeeds leaves it so, it is missing. -/
  missingOutput : ∀ entry errors tree, fixture.entry? = some entry →
    host.launch tool (flags.arguments entry.path) scratch.path w₁.tree =
        some (⟨some 0, errors⟩, tree) →
      w₁.tree.find host.base (placeOf scratch "out.js") = .error .notFound →
      tree.find host.base (placeOf scratch "out.js") =
        w₁.tree.find host.base (placeOf scratch "out.js") →
        (build tool fixture flags scratch).run.run host w =
          (.error (.missingOutput (placeOf scratch "out.js")), w₁.withTree tree)
  /-- If there was no map, and a tool that succeeds leaves it so and writes an output, the map is
      missing. -/
  missingMap : ∀ entry errors tree text, fixture.entry? = some entry →
    host.launch tool (flags.arguments entry.path) scratch.path w₁.tree =
        some (⟨some 0, errors⟩, tree) →
      Reads host.base tree (placeOf scratch "out.js") (.ok text) →
      w₁.tree.find host.base (placeOf scratch "out.js.map") = .error .notFound →
      tree.find host.base (placeOf scratch "out.js.map") =
        w₁.tree.find host.base (placeOf scratch "out.js.map") →
        (build tool fixture flags scratch).run.run host w =
          (.error (.missingOutput (placeOf scratch "out.js.map")), w₁.withTree tree)
  /-- In a directory that was new, there is an output or a map before the tool is launched if a
      file of the fixture, or a directory above one, has its name. -/
  absent_iff : ∀ home, IsNew host scratch home w → (∀ f ∈ fixture.files, f.LiesBelow) →
    (∀ f ∈ fixture.files, f.Fits scratch.path) →
    ∀ artifacts name text, (name, text) ∈ named artifacts →
      (placeOf scratch name).text.utf8ByteSize ≤ FileTree.maxPathSize →
        (w₁.tree.find host.base (placeOf scratch name) = .error .notFound ↔
          ∀ f ∈ fixture.files, f.names.head? ≠ some name)
  /-- There, what the tool leaves as it was is a file of the fixture. -/
  left : ∀ home, IsNew host scratch home w → (∀ f ∈ fixture.files, f.LiesBelow) →
    (∀ f ∈ fixture.files, f.Fits scratch.path) →
    ∀ artifacts w', (build tool fixture flags scratch).run.run host w = (.ok artifacts, w') →
      ∀ name text, (name, text) ∈ artifacts.named →
        w'.tree.find host.base (placeOf scratch name) =
          w₁.tree.find host.base (placeOf scratch name) →
          ∃ f ∈ fixture.files, f.path = name ∧ f.source = text

/-- The files are laid out when they are written. -/
theorem laidOut_of_written (hnew : IsNew host scratch home w)
    (hbelow : ∀ f ∈ fixture.files, f.LiesBelow) (hfits : ∀ f ∈ fixture.files, f.Fits scratch.path)
    (hwrite : (writeFiles scratch.path fixture.files).run.run host w = (.ok (), w₁)) :
    Reaches host.base scratch.path home w₁.tree ∧ LaidOut home fixture.files w₁.tree := by
  have hwrote := wrote_of_isNew hnew hbelow hfits
  rw [hwrite] at hwrote
  cases hwrote with
  | laidOut reached laid elsewhere => exact ⟨reached, laid⟩

theorem absent_iff_of_laidOut (hreach : Reaches host.base scratch.path home tree)
    (hlaid : LaidOut home fixture.files tree) {artifacts : Artifacts} {text : String}
    (hname : (name, text) ∈ artifacts.named)
    (hsize : (placeOf scratch name).text.utf8ByteSize ≤ FileTree.maxPathSize) :
    tree.find host.base (placeOf scratch name) = .error .notFound ↔
      ∀ f ∈ fixture.files, f.names.head? ≠ some name := by
  rw [find_placeOf hreach hname hsize]
  rcases LaidOut.child_cases hlaid name with
    ⟨hnone, hfree⟩ | ⟨⟨f, hf, hhead⟩, ⟨a, entries, hnode⟩ | ⟨g, -, -, hnode⟩⟩
  · rw [hnone]
    exact iff_of_true rfl hfree
  · rw [hnode]
    exact iff_of_false nofun fun hfree => hfree f hf hhead
  · rw [hnode]
    exact iff_of_false nofun fun hfree => hfree f hf hhead

/-- A path at which something is found is not too long. -/
theorem size_le_of_find {node : FileTree} (h : tree.find base p = .ok node) :
    p.text.utf8ByteSize ≤ FileTree.maxPathSize := by
  unfold FileTree.find at h
  cases hlocate : tree.locate base p with
  | error fault =>
    rw [hlocate] at h
    cases h
  | ok location =>
    obtain ⟨-, -, hsize, -⟩ := FileTree.locateWith_eq_ok_iff.1 hlocate
    exact hsize

/-- What was laid out and can be read as a text is a file of the fixture. -/
theorem exists_file_of_reads (hreach : Reaches host.base scratch.path home tree)
    (hlaid : LaidOut home fixture.files tree) {artifacts : Artifacts} {text : String}
    (hname : (name, text) ∈ artifacts.named) {node : FileTree}
    (hfind : tree.find host.base (placeOf scratch name) = .ok node)
    (hcontent : node.contentOf = .ok text.toUTF8) :
    ∃ f ∈ fixture.files, f.path = name ∧ f.source = text := by
  have hsize : (placeOf scratch name).text.utf8ByteSize ≤ FileTree.maxPathSize :=
    size_le_of_find hfind
  rw [find_placeOf hreach hname hsize] at hfind
  -- of what may be there only a file can be read
  rcases LaidOut.child_cases hlaid name with
    ⟨hnone, -⟩ | ⟨-, ⟨a, entries, hnode⟩ | ⟨f, hf, hnames, hnode⟩⟩
  · rw [hnone] at hfind
    cases hfind
  · rw [hnode] at hfind
    obtain rfl := Except.ok.inj hfind
    cases hcontent
  · rw [hnode] at hfind
    obtain rfl := Except.ok.inj hfind
    obtain ⟨hpath, -, -⟩ := plain_of_mem_named hname
    have hsame : f.names = FixtureFile.names ⟨name, ""⟩ := by
      rw [hnames]
      exact (congrArg Path.segments hpath).symm
    have hsource : f.source.toUTF8 = text.toUTF8 :=
      Except.ok.inj ((contentOf_ofBytes _ _).symm.trans hcontent)
    exact ⟨f, hf, FixtureFile.path_eq_of_names_eq hsame, String.toByteArray_inj.1 hsource⟩

/-- **What a build gives** comes from the tool or, if the tool leaves it as it was, from the
    fixture. -/
theorem origin_of_written
    (hwrite : (writeFiles scratch.path fixture.files).run.run host w = (.ok (), w₁)) :
    Origin host tool fixture flags scratch w w₁ where
  made artifacts w' hbuild name text hname _ := by
    obtain ⟨node, hnode, -⟩ := (reads_of_named hwrite hbuild hname).exists_node
    exact ⟨node, hnode⟩
  missingOutput entry errors tree hentry hlaunch habsent hsame := by
    exact run_build_of_ends hwrite (.withoutOutput hentry hlaunch (.absent (hsame.trans habsent)))
  missingMap entry errors tree text hentry hlaunch houtput habsent hsame := by
    exact run_build_of_ends hwrite
      (.withoutMap hentry hlaunch houtput (.absent (hsame.trans habsent)))
  absent_iff home hnew hbelow hfits artifacts name text hname hsize := by
    obtain ⟨hreach, hlaid⟩ := laidOut_of_written hnew hbelow hfits hwrite
    exact absent_iff_of_laidOut hreach hlaid hname hsize
  left home hnew hbelow hfits artifacts w' hbuild name text hname hsame := by
    obtain ⟨hreach, hlaid⟩ := laidOut_of_written hnew hbelow hfits hwrite
    obtain ⟨node, hnode, hcontent⟩ := (reads_of_named hwrite hbuild hname).exists_node
    exact exists_file_of_reads hreach hlaid hname (hsame ▸ hnode) hcontent

/-- A tool that does nothing leaves no output. -/
theorem origin_of_written_idle :
    ∃ w₁, Origin idleHost ⟨["tool"]⟩ nestedFixture ⟨true, false⟩ firstScratch withScratch w₁ ∧
      ((build ⟨["tool"]⟩ nestedFixture ⟨true, false⟩ firstScratch).run.run idleHost
        withScratch).1 = .error (.missingOutput (placeOf firstScratch "out.js")) := by
  have hwrite : ((writeFiles firstScratch.path nestedFixture.files).run.run idleHost
      withScratch).1 = .ok () := by
    decide +kernel
  exact ⟨_, origin_of_written (eq_of_fst hwrite), by decide +kernel⟩

/-- A fixture whose files have the names that the tool has to write. -/
def impostors : Fixture :=
  .ofFiles .es6 [⟨"out.js", "1"⟩, ⟨"out.js.map", "2"⟩] []

/-- **Files of a fixture pass for artifacts**: the tool does nothing, and the build succeeds. -/
theorem impostors_pass_for_artifacts :
    ¬ ∀ host tool fixture flags scratch home w w₁ artifacts w', IsNew host scratch home w →
      (writeFiles scratch.path fixture.files).run.run host w = (.ok (), w₁) →
      (build tool fixture flags scratch).run.run host w = (.ok artifacts, w') →
        ∀ name text, (name, text) ∈ artifacts.named →
          w'.tree.find host.base (placeOf scratch name) ≠
            w₁.tree.find host.base (placeOf scratch name) := by
  intro hall
  obtain ⟨w₁, hwrite⟩ : ∃ w₁, (writeFiles firstScratch.path impostors.files).run.run idleHost
      withScratch = (.ok (), w₁) := by
    refine ⟨((writeFiles firstScratch.path impostors.files).run.run idleHost withScratch).2,
      eq_of_fst ?_⟩
    decide +kernel
  obtain ⟨w', hbuild⟩ : ∃ w', (build ⟨["tool"]⟩ impostors ⟨true, false⟩ firstScratch).run.run
      idleHost withScratch = (.ok ⟨"1", "2"⟩, w') := by
    refine ⟨((build ⟨["tool"]⟩ impostors ⟨true, false⟩ firstScratch).run.run idleHost
      withScratch).2, eq_of_fst ?_⟩
    decide +kernel
  -- the tool leaves the files that it finds
  have hsame : w'.tree = w₁.tree := by
    cases (run_build_iff hwrite).1 hbuild with
    | built first launch output map =>
      have hlaunch : some ((⟨some 0, .empty⟩ : Exit), w₁.tree) = some (⟨some 0, _⟩, _) := launch
      exact (Prod.mk.inj (Option.some.inj hlaunch)).2.symm
  have hwritten := hall idleHost ⟨["tool"]⟩ impostors ⟨true, false⟩ firstScratch
    ["b", Scratch.nameOf 0] withScratch w₁ ⟨"1", "2"⟩ w' isNew_firstScratch hwrite hbuild "out.js"
    "1" List.mem_cons_self
  rw [hsame] at hwritten
  exact hwritten rfl

end Artifacts

end MapAudit
