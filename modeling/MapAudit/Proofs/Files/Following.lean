import MapAudit.Files.Access
import MapAudit.Proofs.Files.Paths

/-! # Following paths

    A path whose last segment is a name, or leads nowhere, leads where the segments before
    it do and one step on. That step only needs a directory to start from.

    Meaning a symbolic link at the end or what it stands for makes a difference for links
    only.
-/

namespace MapAudit.FileTree

variable {tree : FileTree} {here base : Location} {segments stem : List String} {segment : String}
  {followLast : Bool} {links : Nat} {p : Path}

/-! ### The first segment -/

/-- Where a segment **leads** if there may be more behind it. -/
inductive Lead where
  /-- It cannot be followed. -/
  | nowhere (fault : FileFault)
  /-- It leads to a location. -/
  | goes (there : Location)
  /-- It names a symbolic link. -/
  | link (target : Path)

/-- Where a segment leads from a location. -/
def lead (tree : FileTree) (here : Location) (segment : String) : Lead :=
  match tree.get? here with
  | none => .nowhere .notFound
  | some (.directory a _) =>
    if !a.isPassable then .nowhere .denied
    else if Path.isIdle segment then .goes here
    else if segment = ".." then .goes here.dropLast
    else if maxNameSize < segment.utf8ByteSize then .nowhere .nameTooLong
    else
      match tree.get? (here ++ [segment]) with
      | some (.link target) => .link target
      | _ => .goes (here ++ [segment])
  | some _ => .nowhere .notDirectory

section Walk

variable {atLink atLink' : Location → Path → List String → Except FileFault Location}

/-- **First segment**: segments are followed by following the first one and going on from there. -/
theorem walk_cons (tree : FileTree) (followLast : Bool)
    (atLink : Location → Path → List String → Except FileFault Location) (here : Location)
    (segment : String) (rest : List String) :
    tree.walk followLast atLink here (segment :: rest) =
      match tree.lead here segment with
      | .nowhere fault => .error fault
      | .goes there => tree.walk followLast atLink there rest
      | .link target =>
        if rest.isEmpty && !followLast then .ok (here ++ [segment])
        else atLink here target rest := by
  rw [walk]
  unfold lead
  cases tree.get? here with
  | none => rfl
  | some node =>
    cases node with
    | directory a entries =>
      dsimp only
      -- both readings ask the same questions in the same order, so they go through them together
      by_cases hpass : (!a.isPassable) = true
      · rw [if_pos hpass, if_pos hpass]
      rw [if_neg hpass, if_neg hpass]
      by_cases hidle : Path.isIdle segment = true
      · rw [if_pos hidle, if_pos hidle]
      rw [if_neg hidle, if_neg hidle]
      by_cases hdots : segment = ".."
      · rw [if_pos hdots, if_pos hdots]
      rw [if_neg hdots, if_neg hdots]
      by_cases hlong : maxNameSize < segment.utf8ByteSize
      · rw [if_pos hlong, if_pos hlong]
      rw [if_neg hlong, if_neg hlong]
      cases tree.get? (here ++ [segment]) with
      | none => rfl
      | some child => cases child <;> rfl
    | _ => rfl

/-- What names a link is a name. -/
theorem of_lead_eq_link {target : Path} (h : tree.lead here segment = .link target) :
    Path.isIdle segment = false ∧ tree.get? (here ++ [segment]) = some (.link target) := by
  -- all ways through the questions but one end elsewhere
  unfold lead at h
  split at h
  · exact absurd h nofun
  · split at h
    · exact absurd h nofun
    · split at h
      · exact absurd h nofun
      · next hidle =>
        split at h
        · exact absurd h nofun
        · split at h
          · exact absurd h nofun
          · split at h
            · next hlink =>
              obtain rfl := Lead.link.inj h
              exact ⟨Bool.eq_false_iff.2 hidle, hlink⟩
            · exact absurd h nofun
  · exact absurd h nofun

/-! ### One more segment -/

/-- **Entering**: where one more segment leads to from a location. -/
def enter (tree : FileTree) (here : Location) (segment : String) : Except FileFault Location :=
  match tree.get? here with
  | none => .error .notFound
  | some (.directory a _) =>
    if !a.isPassable then .error .denied
    else if Path.isIdle segment then .ok here
    else if maxNameSize < segment.utf8ByteSize then .error .nameTooLong
    else .ok (here ++ [segment])
  | some _ => .error .notDirectory

/-- Entering is going where the segment leads, but for links, which are not followed. -/
theorem enter_eq (hup : segment ≠ "..") :
    tree.enter here segment =
      match tree.lead here segment with
      | .nowhere fault => .error fault
      | .goes there => .ok there
      | .link _ => .ok (here ++ [segment]) := by
  unfold enter lead
  cases tree.get? here with
  | none => rfl
  | some node =>
    cases node with
    | directory a entries =>
      dsimp only
      -- the questions are those of `lead`, but for steps up, which are excluded
      by_cases hpass : (!a.isPassable) = true
      · rw [if_pos hpass, if_pos hpass]
      rw [if_neg hpass, if_neg hpass]
      by_cases hidle : Path.isIdle segment = true
      · rw [if_pos hidle, if_pos hidle]
      rw [if_neg hidle, if_neg hidle, if_neg hup]
      by_cases hlong : maxNameSize < segment.utf8ByteSize
      · rw [if_pos hlong, if_pos hlong]
      rw [if_neg hlong, if_neg hlong]
      cases tree.get? (here ++ [segment]) with
      | none => rfl
      | some child => cases child <;> rfl
    | _ => rfl

/-- A last segment is entered. -/
theorem walk_singleton (hup : segment ≠ "..")
    (hlast : followLast = false ∨ Path.isIdle segment = true) :
    tree.walk followLast atLink here [segment] = tree.enter here segment := by
  rw [walk_cons, enter_eq hup]
  cases hlead : tree.lead here segment with
  | nowhere fault => rfl
  | goes there => rfl
  | link target =>
    obtain ⟨hidle, -⟩ := of_lead_eq_link hlead
    obtain rfl : followLast = false := hlast.resolve_right (by simp [hidle])
    rfl

theorem walk_concat (hup : segment ≠ "..")
    (hlast : followLast = false ∨ Path.isIdle segment = true)
    (hlink : ∀ here target rest, atLink here target (rest ++ [segment]) =
      (atLink' here target rest).bind (tree.enter · segment)) :
    tree.walk followLast atLink here (segments ++ [segment]) =
      (tree.walk true atLink' here segments).bind (tree.enter · segment) := by
  induction segments generalizing here with
  | nil => exact walk_singleton hup hlast
  | cons next rest ih =>
    rw [List.cons_append, walk_cons, walk_cons]
    cases tree.lead here next with
    | nowhere fault => rfl
    | goes there => exact ih
    | link target =>
      have hmore : ((rest ++ [segment]).isEmpty && !followLast) = false := by simp
      have hfollow : (rest.isEmpty && !true) = false := by simp
      dsimp only
      rw [hmore, hfollow, if_neg Bool.false_ne_true, if_neg Bool.false_ne_true]
      exact hlink _ _ _

end Walk

/-- **One more segment**: it leads on from where those before it lead to. -/
theorem follow_concat (hup : segment ≠ "..")
    (hlast : followLast = false ∨ Path.isIdle segment = true) :
    tree.follow followLast links here (segments ++ [segment]) =
      (tree.follow true links here segments).bind (tree.enter · segment) := by
  induction links generalizing here segments with
  | zero => exact walk_concat hup hlast fun _ _ _ => rfl
  | succ links ih =>
    apply walk_concat hup hlast
    intro here target rest
    simp only [← List.append_assoc, ih]
    split <;> rfl

/-! ### Links at the end -/

theorem walk_true {atLink atLink' : Location → Path → List String → Except FileFault Location}
    (hlink : ∀ here target rest,
      (∀ location target', atLink here target rest = .ok location →
        tree.get? location ≠ some (.link target')) →
      atLink' here target rest = atLink here target rest)
    (h : ∀ location target, tree.walk false atLink here segments = .ok location →
      tree.get? location ≠ some (.link target)) :
    tree.walk true atLink' here segments = tree.walk false atLink here segments := by
  induction segments generalizing here with
  | nil => rfl
  | cons next rest ih =>
    rw [walk_cons] at h
    rw [walk_cons, walk_cons]
    cases hlead : tree.lead here next with
    | nowhere fault => rfl
    | goes there =>
      rw [hlead] at h
      exact ih h
    | link target =>
      rw [hlead] at h
      simp only [Bool.not_true, Bool.and_false, Bool.false_eq_true, if_false, Bool.not_false,
        Bool.and_true] at h ⊢
      by_cases hrest : rest.isEmpty = true
      · -- a link at the end would be the result
        rw [if_pos hrest] at h
        obtain ⟨-, hchild⟩ := of_lead_eq_link hlead
        exact absurd hchild (h _ target rfl)
      · rw [if_neg hrest] at h ⊢
        exact hlink _ _ _ h

/-- **No link at the end**: it makes no difference whether one would be followed. -/
theorem follow_true (h : ∀ location target, tree.follow false links here segments = .ok location →
      tree.get? location ≠ some (.link target)) :
    tree.follow true links here segments = tree.follow false links here segments := by
  induction links generalizing here segments with
  | zero => exact walk_true (fun _ _ _ _ => rfl) h
  | succ links ih =>
    refine walk_true ?_ h
    intro here target rest hrest
    by_cases habsolute : target.isAbsolute = true
    · simp only [habsolute, if_true] at hrest ⊢
      exact ih hrest
    · simp only [habsolute, if_false, Bool.false_eq_true] at hrest ⊢
      exact ih hrest

/-- What a path leads to is the node that it names, unless that is a link. -/
theorem locate_eq_locateName (h : ∀ location target, tree.locateName base p = .ok location →
      tree.get? location ≠ some (.link target)) :
    tree.locate base p = tree.locateName base p := by
  unfold locate locateName locateWith at *
  by_cases hname : (p.segments.any (·.toList.contains '\x00')) = true
  · simp only [if_pos hname]
  · by_cases hempty : p = .empty
    · simp only [if_neg hname, if_pos hempty]
    · by_cases hlong : maxPathSize < p.text.utf8ByteSize
      · simp only [if_neg hname, if_neg hempty, if_pos hlong]
      · simp only [if_neg hname, if_neg hempty, if_neg hlong] at h ⊢
        by_cases habsolute : p.isAbsolute = true
        · simp only [if_pos habsolute] at h ⊢
          exact follow_true h
        · simp only [if_neg habsolute] at h ⊢
          exact follow_true h

/-- A path leads to the node that it names if that is no link. -/
theorem locate_of_locateName {location : Location} (h : tree.locateName base p = .ok location)
    (hlink : ∀ target, tree.get? location ≠ some (.link target)) :
    tree.locate base p = .ok location := by
  rw [locate_eq_locateName ?_, h]
  intro location' target h'
  rw [h] at h'
  exact Except.ok.inj h' ▸ hlink target

/-! ### Paths that lead somewhere -/

/-- A path leads somewhere if it can be looked up at all and its segments lead there. -/
theorem locateWith_eq_ok_iff {location : Location} :
    tree.locateWith followLast base p = .ok location ↔
      (p.segments.any (·.toList.contains '\x00')) = false ∧ p ≠ .empty ∧
        p.text.utf8ByteSize ≤ maxPathSize ∧
        (if p.isAbsolute then tree.follow followLast maxLinks [] p.segments.tail
          else tree.follow followLast maxLinks base p.segments) = .ok location := by
  unfold locateWith
  by_cases hname : (p.segments.any (·.toList.contains '\x00')) = true
  · rw [if_pos hname]
    exact iff_of_false nofun fun h => absurd (hname.symm.trans h.1) nofun
  rw [if_neg hname, and_iff_right (Bool.eq_false_iff.2 hname)]
  by_cases hempty : p = .empty
  · rw [if_pos hempty]
    exact iff_of_false nofun fun h => h.1 hempty
  rw [if_neg hempty, and_iff_right hempty]
  by_cases hlong : maxPathSize < p.text.utf8ByteSize
  · rw [if_pos hlong]
    exact iff_of_false nofun fun h => absurd hlong (Nat.not_lt.2 h.1)
  rw [if_neg hlong, and_iff_right (Nat.not_lt.1 hlong)]

/-! ### Paths in a directory -/

/-- Where the segments of a path lead to that is to be followed further. -/
def followStem (tree : FileTree) (base : Location) (stem : List String) :
    Except FileFault Location :=
  if stem.head? = some "" then tree.follow true maxLinks [] stem.tail
  else tree.follow true maxLinks base stem

/-- Whether a path with some more segment can be followed at all. -/
def Followable (stem : List String) (segment : String) : Prop :=
  ((stem ++ [segment]).any (·.toList.contains '\x00')) = false ∧
    (Path.mk (stem ++ [segment])).text.utf8ByteSize ≤ maxPathSize

/-- A path that can be followed, followed. -/
theorem locateWith_eq (hne : segment ≠ "") (h : Followable stem segment) :
    tree.locateWith followLast base ⟨stem ++ [segment]⟩ =
      if (stem ++ [segment]).head? = some "" then
        tree.follow followLast maxLinks [] (stem ++ [segment]).tail
      else tree.follow followLast maxLinks base (stem ++ [segment]) := by
  obtain ⟨hname, hlong⟩ := h
  have hempty : (Path.mk (stem ++ [segment])) ≠ .empty := Path.concat_ne_empty hne
  unfold locateWith
  rw [if_neg (by rw [hname]; exact Bool.false_ne_true), if_neg hempty, if_neg (by omega)]
  simp only [Path.isAbsolute_iff hempty]

theorem locate_eq_followStem (hne : segment ≠ "") (h : Followable stem segment) :
    tree.locate base ⟨stem ++ [segment]⟩ = tree.followStem base (stem ++ [segment]) :=
  locateWith_eq hne h

/-- A path that leads somewhere leads where its segments do. -/
theorem followStem_of_locate {location : Location} (h : tree.locate base p = .ok location) :
    tree.followStem base p.segments = .ok location := by
  obtain ⟨-, hempty, -, hfollow⟩ := locateWith_eq_ok_iff.1 h
  unfold followStem
  simpa only [Path.isAbsolute_iff hempty] using hfollow

/-- **One more segment** of a path. -/
theorem locateWith_concat (hne : segment ≠ "") (hup : segment ≠ "..")
    (hlast : followLast = false ∨ Path.isIdle segment = true) (h : Followable stem segment) :
    tree.locateWith followLast base ⟨stem ++ [segment]⟩ =
      (tree.followStem base stem).bind (tree.enter · segment) := by
  rw [locateWith_eq hne h, followStem]
  cases stem with
  | nil =>
    rw [if_neg (by simpa using hne), if_neg (by simp)]
    exact follow_concat hup hlast
  | cons first rest =>
    rw [List.cons_append, List.head?_cons, List.head?_cons, List.tail_cons, List.tail_cons]
    split
    · exact follow_concat hup hlast
    · rw [← List.cons_append]
      exact follow_concat hup hlast

/-- A path that is followed at all can be. -/
theorem followable_of_locateWith {location : Location}
    (h : tree.locateWith followLast base ⟨stem ++ [segment]⟩ = .ok location) :
    Followable stem segment := by
  obtain ⟨hname, -, hlong, -⟩ := locateWith_eq_ok_iff.1 h
  exact ⟨hname, hlong⟩

/-! ### Segments that lead nowhere -/

theorem eq_of_enter_idle {location : Location} (hidle : Path.isIdle segment = true)
    (h : tree.enter here segment = .ok location) : location = here := by
  unfold enter at h
  rw [hidle, if_pos rfl] at h
  split at h
  · exact absurd h nofun
  · split at h
    · exact absurd h nofun
    · exact (Except.ok.inj h).symm
  · exact absurd h nofun

theorem eq_of_enter {location : Location} (hbusy : Path.isIdle segment = false)
    (h : tree.enter here segment = .ok location) : location = here ++ [segment] := by
  unfold enter at h
  rw [hbusy, if_neg Bool.false_ne_true] at h
  split at h
  · exact absurd h nofun
  · split at h
    · exact absurd h nofun
    · split at h
      · exact absurd h nofun
      · exact (Except.ok.inj h).symm
  · exact absurd h nofun

/-- **Idle segments** at the end do not lead away. -/
theorem followStem_of_append_idle {location : Location} {idles : List String}
    (hne : segments ≠ []) (hidle : ∀ s ∈ idles, Path.isIdle s = true)
    (h : tree.followStem base (segments ++ idles) = .ok location) :
    tree.followStem base segments = .ok location := by
  induction idles using List.reverseRecOn generalizing location with
  | nil => rwa [List.append_nil] at h
  | append_singleton init last ih =>
    have hlast : Path.isIdle last = true := hidle last (by simp)
    have hup : last ≠ ".." := by
      rintro rfl
      exact absurd hlast (by decide)
    have hconcat : tree.followStem base (segments ++ (init ++ [last])) =
        (tree.followStem base (segments ++ init)).bind (tree.enter · last) := by
      obtain ⟨first, rest, rfl⟩ := List.exists_cons_of_ne_nil hne
      unfold followStem
      rw [List.cons_append, List.cons_append, List.head?_cons, List.head?_cons, List.tail_cons,
        List.tail_cons]
      split
      · rw [← List.append_assoc]
        exact follow_concat hup (Or.inr hlast)
      · rw [← List.append_assoc, ← List.cons_append]
        exact follow_concat hup (Or.inr hlast)
    rw [hconcat] at h
    cases hinit : tree.followStem base (segments ++ init) with
    | error fault =>
      rw [hinit] at h
      exact absurd h nofun
    | ok home =>
      rw [hinit] at h
      have henter : tree.enter home last = .ok location := h
      rw [eq_of_enter_idle hlast henter]
      exact ih (fun s hs => hidle s (List.mem_append_left _ hs)) hinit

/-! ### Going down -/

/-- **Going down** names, one after another. -/
def descend (tree : FileTree) (here : Location) (names : List String) :
    Except FileFault Location :=
  names.foldlM tree.enter here

variable {names : List String} {name : String}

theorem descend_concat :
    tree.descend here (names ++ [name]) = (tree.descend here names).bind (tree.enter · name) := by
  unfold descend
  rw [List.foldlM_append]
  show (names.foldlM tree.enter here).bind _ = _
  congr 1
  funext next
  show (tree.enter next name).bind Except.ok = tree.enter next name
  cases tree.enter next name <;> rfl

/-- It ends at the location with these names. -/
theorem eq_of_descend {location : Location} (hnames : ∀ s ∈ names, Path.isIdle s = false)
    (h : tree.descend here names = .ok location) : location = here ++ names := by
  induction names using List.reverseRecOn generalizing location with
  | nil =>
    obtain rfl := Except.ok.inj h
    exact (List.append_nil _).symm
  | append_singleton init last ih =>
    rw [descend_concat] at h
    cases hinit : tree.descend here init with
    | error fault =>
      rw [hinit] at h
      exact absurd h nofun
    | ok next =>
      rw [hinit] at h
      obtain rfl := ih (fun s hs => hnames s (List.mem_append_left _ hs)) hinit
      rw [eq_of_enter (hnames last (by simp)) h, List.append_assoc]

theorem followStem_cons {first : String} {rest : List String} :
    tree.followStem base (first :: rest) =
      if first = "" then tree.follow true maxLinks [] rest
      else tree.follow true maxLinks base (first :: rest) := by
  unfold followStem
  have hhead : (first :: rest).head? = some "" ↔ first = "" := Option.some_inj
  simp only [hhead, List.tail_cons]

/-- **More names** at the end of a path lead down from where it leads to, unless a symbolic link
    is on the way. -/
theorem followStem_append {home : Location} (hne : stem ≠ [])
    (hhome : tree.followStem base stem = .ok home)
    (hnames : ∀ s ∈ names, Path.isIdle s = false ∧ s ≠ "..")
    (hlink : ∀ way, way <+: names → ∀ target, tree.get? (home ++ way) ≠ some (.link target)) :
    tree.followStem base (stem ++ names) = tree.descend home names := by
  induction names using List.reverseRecOn with
  | nil => rw [List.append_nil, hhome]; rfl
  | append_singleton init last ih =>
    have hinit := ih (fun s hs => hnames s (List.mem_append_left _ hs)) fun way hway =>
      hlink way (hway.trans (List.prefix_append _ _))
    have hup : last ≠ ".." := (hnames last (by simp)).2
    -- a link at the end would be followed, but there is none
    have hstep : ∀ start segments, tree.follow true maxLinks start segments =
        tree.descend home init → tree.follow true maxLinks start (segments ++ [last]) =
          tree.descend home (init ++ [last]) := by
      intro start segments hsegments
      have hname : tree.follow false maxLinks start (segments ++ [last]) =
          tree.descend home (init ++ [last]) := by
        rw [follow_concat hup (Or.inl rfl), hsegments, ← descend_concat]
      rw [← hname]
      apply follow_true
      intro location target hlocation
      rw [hname] at hlocation
      rw [eq_of_descend (fun s hs => (hnames s hs).1) hlocation]
      exact hlink _ (List.prefix_refl _) target
    obtain ⟨first, rest, rfl⟩ := List.exists_cons_of_ne_nil hne
    rw [List.cons_append, followStem_cons] at hinit ⊢
    by_cases hfirst : first = ""
    · rw [if_pos hfirst] at hinit ⊢
      rw [← List.append_assoc]
      exact hstep _ _ hinit
    · rw [if_neg hfirst] at hinit ⊢
      rw [← List.append_assoc, ← List.cons_append]
      exact hstep _ _ hinit

theorem enter_of_none (h : tree.get? here = none) : tree.enter here name = .error .notFound := by
  unfold enter
  rw [h]

theorem enter_of_file {f : File} (h : tree.get? here = some (.file f)) :
    tree.enter here name = .error .notDirectory := by
  unfold enter
  rw [h]

/-- From directories, it goes on to the last name. -/
theorem enter_of_directory {a : Attributes} {entries : List (String × FileTree)}
    (hnode : tree.get? here = some (.directory a entries)) (hpass : a.isPassable = true)
    (hbusy : Path.isIdle name = false) (hshort : name.utf8ByteSize ≤ maxNameSize) :
    tree.enter here name = .ok (here ++ [name]) := by
  unfold enter
  simp only [hnode, hpass, hbusy, Bool.not_true, Bool.false_eq_true, if_false,
    if_neg (Nat.not_lt.2 hshort)]

end MapAudit.FileTree
