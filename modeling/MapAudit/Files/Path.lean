/-! # Paths

    A path is kept as the list of its segments, the texts between its slashes.
    Nothing is lost that way: the text of a path is its segments joined by
    slashes. An empty first segment means that the path begins with a slash,
    and an empty last one that it ends with a slash.

    Paths are not simplified. Messages name them as they were put together, and
    what `.` and `..` mean is decided when a path is followed in a file tree.
-/

namespace MapAudit

/-- **Path** of a file. -/
structure Path where
  /-- The texts between the slashes. -/
  segments : List String
  deriving DecidableEq, Repr

namespace Path

/-- The path with a text. -/
def ofString (s : String) : Path where
  segments := (s.toList.splitOn '/').map String.ofList

/-- The text of a path. -/
def text (p : Path) : String :=
  "/".intercalate p.segments

instance : ToString Path where
  toString := text

/-- The path without any text. -/
def empty : Path where
  segments := [""]

/-- Whether a path begins with a slash. -/
def isAbsolute (p : Path) : Bool :=
  match p.segments with
  | "" :: _ :: _ => true
  | _ => false

/-- **Join**: a path followed from another one. An absolute path is the same
    from everywhere. Otherwise one slash stands between the two, unless the
    first is empty or ends with a slash already. -/
def join (p q : Path) : Path :=
  if q.isAbsolute then q
  else if p.segments.getLast? = some "" then ⟨p.segments.dropLast ++ q.segments⟩
  else ⟨p.segments ++ q.segments⟩

instance : Div Path where
  div := join

/-- Whether a segment leads nowhere: it is empty or a single dot. -/
def isIdle (segment : String) : Bool :=
  segment == "" || segment == "."

/-- Segments without the idle ones at their end. -/
def dropIdle (segments : List String) : List String :=
  (segments.reverse.dropWhile isIdle).reverse

/-- A path without the slashes at its end, unless there is nothing else. -/
def withoutLastSlashes (p : Path) : Path :=
  match (p.segments.reverse.dropWhile (· == "")).reverse with
  | [] => p
  | segments => ⟨segments⟩

/-- The directory that a path lies in, by its text alone. Idle segments at the
    end of the path, and then of the answer, are left out. -/
def parent? (p : Path) : Option Path :=
  match p.segments with
  | "" :: rest =>
    match dropIdle rest with
    | [] => none
    | s :: names =>
      match dropIdle (s :: names).dropLast with
      | [] => some ⟨["", ""]⟩
      | above => some ⟨"" :: above⟩
  | first :: rest =>
    match dropIdle rest with
    | [] => some .empty
    | s :: names => some ⟨first :: dropIdle (s :: names).dropLast⟩
  | [] => none

/-- A path and the directories above it, at most `n` of them. -/
def ancestorsUpTo : (n : Nat) → Path → List Path
  | 0, p => [p]
  | n + 1, p =>
    match p.parent? with
    | none => [p]
    | some q => p :: ancestorsUpTo n q

/-- A path and all directories above it. Every step up drops a segment. -/
def ancestors (p : Path) : List Path :=
  ancestorsUpTo p.segments.length p

end Path

end MapAudit
