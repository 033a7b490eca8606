import MapAudit.Files.Tree

/-! # Nodes at locations

    `set` and `erase` change a tree at one location. What is at the locations that
    neither lie below it nor lead to it stays as it is. The directories that lead to it
    get other entries, and nothing else about them changes: the surface of a node, all of
    it but what is below it, stays everywhere but below the location. So does its shape,
    which is what matters of the surface when a path is followed.
-/

namespace MapAudit.FileTree

variable {tree child node : FileTree} {a : Attributes} {entries : List (String × FileTree)}
  {name key : String} {above here there : Location}

/-! ### Entries -/

@[simp]
theorem lookup_putEntry_self (name : String) (node : FileTree)
    (entries : List (String × FileTree)) :
    (putEntry name node entries).lookup name = some node := by
  induction entries with
  | nil => simp [putEntry]
  | cons entry rest ih =>
    obtain ⟨key, old⟩ := entry
    by_cases hkey : key = name
    · simp [putEntry, hkey]
    · have hne : (name == key) = false := beq_eq_false_iff_ne.2 (Ne.symm hkey)
      simp only [putEntry, if_neg hkey, List.lookup_cons, hne, ih]

theorem lookup_putEntry_of_ne (h : key ≠ name) (node : FileTree)
    (entries : List (String × FileTree)) :
    (putEntry name node entries).lookup key = entries.lookup key := by
  induction entries with
  | nil => simp [putEntry, List.lookup_cons, beq_eq_false_iff_ne.2 h]
  | cons entry rest ih =>
    obtain ⟨other, old⟩ := entry
    by_cases hother : other = name
    · have hne : (key == other) = false := beq_eq_false_iff_ne.2 (hother ▸ h)
      simp only [putEntry, if_pos hother, List.lookup_cons, hne, beq_eq_false_iff_ne.2 h]
    · simp only [putEntry, if_neg hother, List.lookup_cons, ih]

@[simp]
theorem lookup_dropEntry_self (name : String) (entries : List (String × FileTree)) :
    (dropEntry name entries).lookup name = none := by
  simp only [dropEntry, List.lookup_eq_none_iff, List.mem_filter, decide_eq_true_eq]
  rintro entry ⟨-, hne⟩
  exact bne_iff_ne.2 (Ne.symm hne)

theorem lookup_dropEntry_of_ne (h : key ≠ name) (entries : List (String × FileTree)) :
    (dropEntry name entries).lookup key = entries.lookup key := by
  induction entries with
  | nil => rfl
  | cons entry rest ih =>
    obtain ⟨other, old⟩ := entry
    by_cases hother : other = name
    · have hne : (key == other) = false := beq_eq_false_iff_ne.2 (hother ▸ h)
      have hdrop : dropEntry name ((other, old) :: rest) = dropEntry name rest := by
        simp [dropEntry, hother]
      rw [hdrop, ih]
      simp only [List.lookup_cons, hne]
    · have hkeep : dropEntry name ((other, old) :: rest) = (other, old) :: dropEntry name rest := by
        simp [dropEntry, hother]
      rw [hkeep]
      simp only [List.lookup_cons, ih]

/-! ### Locations below a node -/

@[simp]
theorem get?_nil (tree : FileTree) : tree.get? [] = some tree := by
  cases tree <;> rfl

theorem get?_directory_cons (a : Attributes) (entries : List (String × FileTree)) (name : String)
    (rest : Location) :
    (directory a entries).get? (name :: rest) = (entries.lookup name).bind (·.get? rest) := by
  rw [get?]
  cases entries.lookup name <;> rfl

/-- What is below a node is found from there. -/
theorem get?_append (tree : FileTree) (here there : Location) :
    tree.get? (here ++ there) = (tree.get? here).bind (·.get? there) := by
  induction here generalizing tree with
  | nil => simp
  | cons name rest ih =>
    cases tree with
    | directory a entries =>
      simp only [List.cons_append, get?_directory_cons, Option.bind_assoc]
      congr 1
      funext child
      exact ih child
    | file f => rfl
    | link target => rfl
    | pipe n => rfl
    | device d => rfl

/-- There is nothing below nothing. -/
theorem get?_append_of_none (h : tree.get? here = none) (there : Location) :
    tree.get? (here ++ there) = none := by
  rw [get?_append, h]
  rfl

/-- A node below a name is below an entry of a directory. -/
theorem exists_of_get?_cons {rest : Location} (h : tree.get? (name :: rest) = some child) :
    ∃ a entries next, tree = directory a entries ∧ entries.lookup name = some next ∧
      next.get? rest = some child := by
  cases tree with
  | directory a entries =>
    rw [get?_directory_cons, Option.bind_eq_some_iff] at h
    obtain ⟨next, hnext, hchild⟩ := h
    exact ⟨a, entries, next, rfl, hnext, hchild⟩
  | file f => exact absurd h nofun
  | link target => exact absurd h nofun
  | pipe n => exact absurd h nofun
  | device d => exact absurd h nofun

/-- A node below another is put there by putting the changed other one. -/
theorem set_append (h : tree.get? above = some child) (here : Location) (node : FileTree) :
    tree.set (above ++ here) node = tree.set above (child.set here node) := by
  induction above generalizing tree with
  | nil =>
    obtain rfl : tree = child := Option.some.inj ((get?_nil tree).symm.trans h)
    simp [set]
  | cons name rest ih =>
    obtain ⟨a, entries, next, rfl, hnext, hchild⟩ := exists_of_get?_cons h
    simp only [List.cons_append, set, hnext, ih hchild]

/-- A node below another is taken away by putting the changed other one. -/
theorem erase_append (h : tree.get? above = some child) (hne : here ≠ []) :
    tree.erase (above ++ here) = tree.set above (child.erase here) := by
  induction above generalizing tree with
  | nil =>
    obtain rfl : tree = child := Option.some.inj ((get?_nil tree).symm.trans h)
    simp [set]
  | cons name rest ih =>
    obtain ⟨a, entries, next, rfl, hnext, hchild⟩ := exists_of_get?_cons h
    have hrest : (rest ++ here).isEmpty = false := by simp [hne]
    simp only [List.cons_append, erase, set, hnext, hrest, ih hchild]
    rfl

/-- Below a node that is replaced, what the new one has. -/
theorem get?_set_append (h : tree.get? above = some child) (node : FileTree) (there : Location) :
    (tree.set above node).get? (above ++ there) = node.get? there := by
  induction above generalizing tree with
  | nil => simp [set]
  | cons name rest ih =>
    obtain ⟨a, entries, next, rfl, hnext, hchild⟩ := exists_of_get?_cons h
    simp only [List.cons_append, set, hnext, get?_directory_cons, lookup_putEntry_self,
      Option.bind_some, ih hchild]

/-- **One directory on the way**: putting a node changes no entry but the one that the way goes
    by, and this one by putting the node further down. -/
theorem exists_set_directory_cons (a : Attributes) (entries : List (String × FileTree))
    (name : String) (rest : Location) (node : FileTree) :
    ∃ entries', (directory a entries).set (name :: rest) node = directory a entries' ∧
      (∀ key, key ≠ name → entries'.lookup key = entries.lookup key) ∧
      (rest ≠ [] → entries'.lookup name = (entries.lookup name).map (·.set rest node)) := by
  rw [set]
  cases hchild : entries.lookup name with
  | some child =>
    refine ⟨_, rfl, ?_, ?_⟩
    · exact fun key hkey => lookup_putEntry_of_ne hkey _ _
    · exact fun _ => lookup_putEntry_self _ _ _
  | none =>
    cases rest with
    | nil =>
      exact ⟨_, rfl, fun key hkey => lookup_putEntry_of_ne hkey _ _, fun hne => absurd rfl hne⟩
    | cons _ _ => exact ⟨entries, rfl, fun _ _ => rfl, fun _ => hchild⟩

/-- **Elsewhere**: putting a node changes nothing where it neither lies nor leads to. -/
theorem get?_set_elsewhere (h : ¬ here <+: there) (h' : ¬ there <+: here) (node : FileTree) :
    (tree.set here node).get? there = tree.get? there := by
  induction here generalizing tree there with
  | nil => exact absurd List.nil_prefix h
  | cons name rest ih =>
    cases there with
    | nil => exact absurd List.nil_prefix h'
    | cons key others =>
      cases tree with
      | directory a entries =>
        obtain ⟨entries', hset, hothers, hway⟩ := exists_set_directory_cons a entries name rest node
        rw [hset, get?_directory_cons, get?_directory_cons]
        by_cases hkey : key = name
        · subst hkey
          rw [List.cons_prefix_cons] at h h'
          -- the ways part further down: `here` goes on, or it would lead to `there`
          have hrest : rest ≠ [] := by
            rintro rfl
            exact h ⟨rfl, List.nil_prefix⟩
          rw [hway hrest]
          cases entries.lookup key with
          | none => rfl
          | some child => exact ih (fun hp => h ⟨rfl, hp⟩) fun hp => h' ⟨rfl, hp⟩
        · -- the ways part at this name
          rw [hothers key hkey]
      | file f => rfl
      | link target => rfl
      | pipe n => rfl
      | device d => rfl

/-! ### Surfaces -/

/-- **Surface** of a node: all of it but what is below it. -/
def surface : FileTree → FileTree
  | .directory a _ => .directory a []
  | .file f => .file f
  | .link target => .link target
  | .pipe n => .pipe n
  | .device d => .device d

/-- The surface of the node at a location. -/
def surface? (tree : FileTree) (location : Location) : Option FileTree :=
  (tree.get? location).map surface

theorem surface?_directory_cons (a : Attributes) (entries : List (String × FileTree))
    (name : String) (rest : Location) :
    (directory a entries).surface? (name :: rest) =
      (entries.lookup name).bind (·.surface? rest) := by
  rw [surface?, get?_directory_cons, Option.map_bind]
  rfl

/-- **Surfaces stay**: putting a node keeps the surfaces of all nodes that do not lie below it. -/
theorem surface?_set (h : ¬ here <+: there) (node : FileTree) :
    (tree.set here node).surface? there = tree.surface? there := by
  induction here generalizing tree there with
  | nil => exact absurd List.nil_prefix h
  | cons name rest ih =>
    cases tree with
    | directory a entries =>
      obtain ⟨entries', hset, hothers, hway⟩ := exists_set_directory_cons a entries name rest node
      rw [hset]
      cases there with
      | nil => rfl
      | cons key others =>
        rw [surface?_directory_cons, surface?_directory_cons]
        by_cases hkey : key = name
        · subst hkey
          rw [List.cons_prefix_cons] at h
          have hrest : rest ≠ [] := by
            rintro rfl
            exact h ⟨rfl, List.nil_prefix⟩
          rw [hway hrest]
          cases entries.lookup key with
          | none => rfl
          | some child => exact ih fun hp => h ⟨rfl, hp⟩
        · rw [hothers key hkey]
    | file f => rfl
    | link target => rfl
    | pipe n => rfl
    | device d => rfl

/-! ### Shapes -/

/-- **Shape** of a node: what can be said of it without looking below it. -/
inductive Shape where
  /-- A directory. -/
  | directory (a : Attributes)
  /-- A symbolic link. -/
  | link (target : Path)
  /-- Something with nothing below it. -/
  | leaf
  deriving DecidableEq

/-- The shape of a node. -/
def shape : FileTree → Shape
  | .directory a _ => .directory a
  | .link target => .link target
  | .file _ | .pipe _ | .device _ => .leaf

/-- The shape of the node at a location. -/
def shape? (tree : FileTree) (location : Location) : Option Shape :=
  (tree.get? location).map shape

theorem shape?_eq_none_iff : tree.shape? here = none ↔ tree.get? here = none :=
  Option.map_eq_none_iff

theorem shape?_eq_directory_iff :
    tree.shape? here = some (.directory a) ↔
      ∃ entries, tree.get? here = some (directory a entries) := by
  constructor
  · intro h
    obtain ⟨node, hnode, hshape⟩ := Option.map_eq_some_iff.1 h
    cases node with
    | directory a' entries =>
      obtain rfl := Shape.directory.inj hshape
      exact ⟨entries, hnode⟩
    | file f => exact absurd hshape nofun
    | link target => exact absurd hshape nofun
    | pipe n => exact absurd hshape nofun
    | device d => exact absurd hshape nofun
  · rintro ⟨entries, h⟩
    rw [shape?, h]
    rfl

/-- The shape of a node is that of its surface. -/
theorem shape?_eq_map_surface? (tree : FileTree) (location : Location) :
    tree.shape? location = (tree.surface? location).map shape := by
  unfold shape? surface?
  cases tree.get? location with
  | none => rfl
  | some node => cases node <;> rfl

/-- **Shapes stay**: putting a node keeps the shapes of all nodes that do not lie below it. -/
theorem shape?_set (h : ¬ here <+: there) (node : FileTree) :
    (tree.set here node).shape? there = tree.shape? there := by
  rw [shape?_eq_map_surface?, surface?_set h, ← shape?_eq_map_surface?]

/-! ### Entries of a directory -/

/-- Putting a node into a directory that is there. -/
theorem set_entry (h : tree.get? above = some (directory a entries)) (name : String)
    (node : FileTree) :
    tree.set (above ++ [name]) node =
      tree.set above (directory a (putEntry name node entries)) := by
  rw [set_append h]
  congr 1
  cases hold : entries.lookup name <;> simp [set, hold]

/-- Taking a node out of a directory that is there. -/
theorem erase_entry (h : tree.get? above = some (directory a entries)) (name : String) :
    tree.erase (above ++ [name]) = tree.set above (directory a entries) ∨
      tree.erase (above ++ [name]) = tree.set above (directory a (dropEntry name entries)) := by
  rw [erase_append h (by simp)]
  cases hold : entries.lookup name <;> simp [erase, hold]

/-- A node that is put into a directory is there. -/
theorem get?_set_entry (h : tree.get? above = some (directory a entries)) (name : String)
    (node : FileTree) : (tree.set (above ++ [name]) node).get? (above ++ [name]) = some node := by
  rw [set_entry h, get?_set_append h, get?_directory_cons, lookup_putEntry_self]
  simp

/-- A node that is taken out of a directory is not there any more. -/
theorem get?_erase_entry (h : tree.get? above = some (directory a entries)) (name : String) :
    (tree.erase (above ++ [name])).get? (above ++ [name]) = none := by
  rw [erase_append h (by simp), get?_set_append h]
  cases hold : entries.lookup name with
  | none => simp [erase, hold, get?_directory_cons]
  | some old => simp [erase, hold, get?_directory_cons]

section Changed

variable {changed : List (String × FileTree)}
  (h : tree.get? above = some (directory a entries))
  (hchanged : ∀ key ≠ name, changed.lookup key = entries.lookup key)
include h hchanged

/-- A directory in which one entry is changed is the same elsewhere. -/
theorem get?_set_changed_elsewhere (hbelow : ¬ above ++ [name] <+: there)
    (habove : ¬ there <+: above ++ [name]) :
    (tree.set above (directory a changed)).get? there = tree.get? there := by
  by_cases hin : above <+: there
  · obtain ⟨rest, rfl⟩ := hin
    cases rest with
    | nil => exact absurd (by simp) habove
    | cons key rest =>
      have hkey : key ≠ name := by
        rintro rfl
        exact hbelow ((List.prefix_append_right_inj above).2 (by simp))
      rw [get?_set_append h, get?_append, h, Option.bind_some, get?_directory_cons,
        get?_directory_cons, hchanged key hkey]
  · exact get?_set_elsewhere hin (fun hp => habove (hp.trans (List.prefix_append _ _))) _

/-- The surfaces of all nodes that are not in that entry stay. -/
theorem surface?_set_changed (hbelow : ¬ above ++ [name] <+: there) :
    (tree.set above (directory a changed)).surface? there = tree.surface? there := by
  by_cases hin : above <+: there
  · obtain ⟨rest, rfl⟩ := hin
    cases rest with
    | nil =>
      rw [surface?, get?_set_append h, surface?, get?_append, h]
      rfl
    | cons key rest =>
      have hkey : key ≠ name := by
        rintro rfl
        exact hbelow ((List.prefix_append_right_inj above).2 (by simp))
      rw [surface?, get?_set_append h, surface?, get?_append, h, Option.bind_some,
        get?_directory_cons, get?_directory_cons, hchanged key hkey]
  · exact surface?_set hin _

end Changed

/-- **Elsewhere**: taking a node out of a directory changes nothing where it neither lies nor
    leads to. -/
theorem get?_erase_elsewhere (h : tree.get? above = some (directory a entries))
    (hbelow : ¬ above ++ [name] <+: there) (habove : ¬ there <+: above ++ [name]) :
    (tree.erase (above ++ [name])).get? there = tree.get? there := by
  rcases erase_entry h name with herase | herase <;> rw [herase]
  · exact get?_set_changed_elsewhere h (fun _ _ => rfl) hbelow habove
  · exact get?_set_changed_elsewhere h (fun _ hkey => lookup_dropEntry_of_ne hkey entries)
      hbelow habove

/-- Taking a node out of a directory keeps the surfaces of all nodes that do not lie below
    it. -/
theorem surface?_erase (h : tree.get? above = some (directory a entries))
    (hbelow : ¬ above ++ [name] <+: there) :
    (tree.erase (above ++ [name])).surface? there = tree.surface? there := by
  rcases erase_entry h name with herase | herase <;> rw [herase]
  · exact surface?_set_changed h (fun _ _ => rfl) hbelow
  · exact surface?_set_changed h (fun _ hkey => lookup_dropEntry_of_ne hkey entries) hbelow

/-- It keeps their shapes, too. -/
theorem shape?_erase (h : tree.get? above = some (directory a entries))
    (hbelow : ¬ above ++ [name] <+: there) :
    (tree.erase (above ++ [name])).shape? there = tree.shape? there := by
  rw [shape?_eq_map_surface?, surface?_erase h hbelow, ← shape?_eq_map_surface?]

end MapAudit.FileTree
