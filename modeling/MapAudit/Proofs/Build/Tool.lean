import MapAudit.Build.Tool
import MapAudit.Proofs.World.Activity

/-! # Where the tool is found

    A tool is looked for in up to three ways, and each has its own notion of what is found: where
    it is said to be, anything will do; in its own directory, any file; and along the search path,
    a file that may be executed. `Finds` says what comes of it. Nothing changes meanwhile, and
    when it is said where the tool is, nothing else is looked at.
-/

namespace MapAudit.Tool

open Activity

variable {host : Host} {base : Location} {tree : FileTree} {p root : Path}
  {given : Option Path} {searchPath : List Path} {w w' : World}

/-! ### What is found -/

theorem hasNode_eq_true_iff :
    tree.hasNode base p = true ↔ ∃ node, tree.find base p = .ok node := by
  unfold FileTree.hasNode
  cases tree.find base p with
  | ok node => exact iff_of_true rfl ⟨node, rfl⟩
  | error fault => exact iff_of_false Bool.false_ne_true (by simp)

theorem hasFile_eq_true_iff :
    tree.hasFile base p = true ↔ ∃ f, tree.find base p = .ok (.file f) := by
  unfold FileTree.hasFile
  cases tree.find base p with
  | ok node => cases node <;> simp
  | error fault => simp

theorem hasNode_eq_false_iff :
    tree.hasNode base p = false ↔ ∀ node, tree.find base p ≠ .ok node := by
  rw [← Bool.not_eq_true, hasNode_eq_true_iff, not_exists]

theorem hasFile_eq_false_iff :
    tree.hasFile base p = false ↔ ∀ f, tree.find base p ≠ .ok (.file f) := by
  rw [← Bool.not_eq_true, hasFile_eq_true_iff, not_exists]

theorem hasProgram_eq_true_iff :
    tree.hasProgram base p = true ↔
      ∃ f, tree.find base p = .ok (.file f) ∧ f.isExecutable = true := by
  unfold FileTree.hasProgram
  cases tree.find base p with
  | ok node => cases node <;> simp
  | error fault => simp

/-! ### Along a search path -/

/-- Searching comes to the first directory in which there is an executable file with the name of
    the tool. -/
theorem run_searchAlong (host : Host) (directories : List Path) (w : World) :
    (searchAlong directories).run host w =
      ((directories.map (·.join name)).find? (w.tree.hasProgram host.base ·), w) := by
  induction directories with
  | nil => rfl
  | cons directory rest ih =>
    unfold searchAlong
    rw [run_bind, run_hasProgram, List.map_cons, List.find?_cons]
    cases w.tree.hasProgram host.base (directory.join name) with
    | true => rfl
    | false => exact ih

/-- Whether there is an executable file with the name of the tool in a directory. -/
def IsIn (base : Location) (tree : FileTree) (directory : Path) : Prop :=
  ∃ f, tree.find base (directory.join name) = .ok (.file f) ∧ f.isExecutable = true

/-- **Found**: what the search for a tool comes to. -/
inductive Finds (base : Location) (tree : FileTree) (root : Path) (searchPath : List Path) :
    Option Path → Except BuildError Path → Prop where
  /-- Something is where it is said to be. -/
  | said {p : Path} {node : FileTree} (there : tree.find base p = .ok node) :
      Finds base tree root searchPath (some p) (.ok p)
  /-- Nothing is there. -/
  | missing {p : Path} (nothing : ∀ node, tree.find base p ≠ .ok node) :
      Finds base tree root searchPath (some p) (.error (.toolNotFound p))
  /-- Nothing is said, and a file is in its own directory. -/
  | atHome {f : File} (file : tree.find base (root.join name) = .ok (.file f)) :
      Finds base tree root searchPath none (.ok (root.join name))
  /-- No file is there, and an executable file is in a directory of the search path, and in none
      before. -/
  | along {before after : List Path} {directory : Path}
      (noFile : ∀ f, tree.find base (root.join name) ≠ .ok (.file f))
      (path : searchPath = before ++ directory :: after) (program : IsIn base tree directory)
      (first : ∀ d ∈ before, ¬ IsIn base tree d) :
      Finds base tree root searchPath none (.ok (directory.join name))
  /-- No file is there, and no executable file is in a directory of the search path. -/
  | nowhere (noFile : ∀ f, tree.find base (root.join name) ≠ .ok (.file f))
      (noProgram : ∀ d ∈ searchPath, ¬ IsIn base tree d) :
      Finds base tree root searchPath none (.error (.toolNotFound (root.join name)))

/-- The search always comes to one of these. -/
theorem exists_finds (base : Location) (tree : FileTree) (given : Option Path) (root : Path)
    (searchPath : List Path) : ∃ result, Finds base tree root searchPath given result := by
  cases given with
  | some p =>
    by_cases hthere : ∃ node, tree.find base p = .ok node
    · obtain ⟨node, hnode⟩ := hthere
      exact ⟨_, .said hnode⟩
    · exact ⟨_, .missing fun node hnode => hthere ⟨node, hnode⟩⟩
  | none =>
    by_cases hfile : ∃ f, tree.find base (root.join name) = .ok (.file f)
    · obtain ⟨f, hf⟩ := hfile
      exact ⟨_, .atHome hf⟩
    · have hnoFile : ∀ f, tree.find base (root.join name) ≠ .ok (.file f) := fun f hf =>
        hfile ⟨f, hf⟩
      -- the first directory of the search path with the tool in it
      classical
      cases hfirst : searchPath.find? (fun d => decide (IsIn base tree d)) with
      | none =>
        refine ⟨_, .nowhere hnoFile ?_⟩
        intro d hd hin
        exact absurd (decide_eq_true hin) (List.find?_eq_none.1 hfirst d hd)
      | some directory =>
        obtain ⟨hin, before, after, hpath, hbefore⟩ := List.find?_eq_some_iff_append.1 hfirst
        refine ⟨_, .along hnoFile hpath (of_decide_eq_true hin) ?_⟩
        intro d hd
        simpa using hbefore d hd

theorem isIn_iff {directory : Path} :
    IsIn base tree directory ↔ tree.hasProgram base (directory.join name) = true :=
  hasProgram_eq_true_iff.symm

/-- Nothing comes of directories in none of which the tool is. -/
theorem find?_eq_none {directories : List Path} (h : ∀ d ∈ directories, ¬ IsIn base tree d) :
    (directories.map (·.join name)).find? (tree.hasProgram base ·) = none := by
  rw [List.find?_eq_none]
  intro p hp
  obtain ⟨d, hd, rfl⟩ := List.mem_map.1 hp
  exact fun hprogram => h d hd (isIn_iff.2 hprogram)

theorem run_find_none (h : ∀ f, w.tree.find host.base (root.join name) ≠ .ok (.file f)) :
    (find none root searchPath).run.run host w =
      (match (searchPath.map (·.join name)).find? (w.tree.hasProgram host.base ·) with
        | some p => .ok p
        | none => .error (.toolNotFound (root.join name)), w) := by
  unfold find
  refine (run_bind_of_ok (run_lift (hasFile (root.join name)) w)).trans ?_
  rw [run_hasFile, hasFile_eq_false_iff.2 h]
  refine (run_bind_of_ok (run_lift (searchAlong searchPath) w)).trans ?_
  rw [run_searchAlong]
  cases (searchPath.map (·.join name)).find? (w.tree.hasProgram host.base ·) <;> rfl

/-- The search comes to what it says. -/
theorem run_find_of_finds {result : Except BuildError Path}
    (h : Finds host.base w.tree root searchPath given result) :
    (find given root searchPath).run.run host w = (result, w) := by
  cases h with
  | @said p node there =>
    refine (run_bind_of_ok (run_lift (hasNode p) w)).trans ?_
    rw [run_hasNode, hasNode_eq_true_iff.2 ⟨node, there⟩]
    rfl
  | @missing p nothing =>
    refine (run_bind_of_ok (run_lift (hasNode p) w)).trans ?_
    rw [run_hasNode, hasNode_eq_false_iff.2 nothing]
    rfl
  | @atHome f file =>
    refine (run_bind_of_ok (run_lift (hasFile (root.join name)) w)).trans ?_
    rw [run_hasFile, hasFile_eq_true_iff.2 ⟨f, file⟩]
    rfl
  | @along before after directory noFile path program first =>
    rw [run_find_none noFile, path, List.map_append, List.find?_append, find?_eq_none first,
      List.map_cons, List.find?_cons_of_pos (isIn_iff.1 program)]
    rfl
  | nowhere noFile noProgram =>
    rw [run_find_none noFile, find?_eq_none noProgram]

/-- When it is said where the tool is, nothing else is looked at. -/
theorem asked_find_some (host : Host) (p root : Path) (searchPath : List Path) (w : World) :
    (find (some p) root searchPath).run.asked host w = [(w, .hasNode p)] := by
  unfold find
  refine (asked_bind_of_ok (run_lift (hasNode p) w)).trans ?_
  rw [asked_lift]
  refine congrArg ((w, Request.hasNode p) :: ·) ?_
  cases ((hasNode p).run host w).1 <;> rfl

/-- **Search** for the tool. -/
structure Search (host : Host) (given : Option Path) (root : Path) (searchPath : List Path)
    (w : World) : Prop where
  /-- It comes to what there is, and changes nothing. -/
  finds_iff : ∀ result w', (find given root searchPath).run.run host w = (result, w') ↔
    Finds host.base w.tree root searchPath given result ∧ w' = w
  /-- If nothing is said, it ends in the directory of the tool exactly when a file is there. -/
  home_iff : given = none →
    (((find given root searchPath).run.run host w).1 = .ok (root.join name) ↔
      ∃ f, w.tree.find host.base (root.join name) = .ok (.file f))
  /-- If it is said where the tool is, nothing else is looked at. -/
  asked_said : ∀ p, given = some p →
    (find given root searchPath).run.asked host w = [(w, .hasNode p)]

end MapAudit.Tool
