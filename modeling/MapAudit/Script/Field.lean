import MapAudit.Files.Access
import MapAudit.Script.Command
import MapAudit.Script.Pattern

/-! # Fields

    The words of a command become fields. First the pieces of a word become
    glyphs: characters of which is known whether they were quoted and whether
    the text falls apart at them. Then the glyphs fall apart into fields, and a
    field that is a pattern of files becomes their paths. A pattern without any
    such files stays the text it is.
-/

namespace MapAudit.Script

/-- **Glyph** of a word whose pieces were expanded. -/
inductive Glyph where
  /-- A character, whether it stands for itself in a pattern, and whether the text
      may fall apart at it. -/
  | char (c : Char) (isQuoted splits : Bool)
  /-- A place that belongs to a field, even to an empty one. -/
  | seam
  /-- A place between two fields. -/
  | border
  deriving DecidableEq, Repr

namespace Glyph

/-- The glyphs of a text that is not quoted. -/
def plain (r : Raw) : List Glyph :=
  r.map fun c => .char c false false

/-- The glyphs of a text in quotes. -/
def quoted (r : Raw) : List Glyph :=
  .seam :: r.map fun c => .char c true false

/-- The glyphs of a value. -/
def value (isQuoted : Bool) (r : Raw) : List Glyph :=
  if isQuoted then r.map fun c => .char c true false else r.map fun c => .char c false true

/-- The glyphs of values of which each is a field of its own. -/
def fields (isQuoted : Bool) : List Raw → List Glyph
  | [] => []
  | [r] => if isQuoted then .seam :: value true r else value false r
  | r :: rest =>
    (if isQuoted then .seam :: value true r else value false r)
      ++ .border :: fields isQuoted rest

/-- The text that glyphs say. -/
def text (glyphs : List Glyph) : Raw :=
  glyphs.filterMap fun g => match g with
    | .char c _ _ => some c
    | .seam => none
    | .border => some ' '

/-- The characters of glyphs with their quotes. -/
def marks (glyphs : List Glyph) : List Mark :=
  glyphs.filterMap fun g => match g with
    | .char c isQuoted _ => some (c, isQuoted)
    | .seam => none
    | .border => some (' ', false)

end Glyph

/-- **Field**: characters with their quotes. -/
abbrev Field := List Mark

namespace Field

/-- The text of a field. -/
def text (f : Field) : Raw :=
  f.map (·.1)

end Field

/-! ## Falling apart -/

/-- Fields being put together. -/
structure Splitting where
  /-- The complete fields, last one first. -/
  done : List Field
  /-- The field that is open, last character first. -/
  last : Option Field
  /-- Whether a blank ended the last field, so that a separator after it ends the
      same field. -/
  afterBlank : Bool

namespace Splitting

/-- The open field is complete. -/
def close (s : Splitting) (afterBlank : Bool) : Splitting where
  done := match s.last with
    | some f => f.reverse :: s.done
    | none => s.done
  last := none
  afterBlank := afterBlank

/-- One more glyph. The text falls apart at the separators. -/
def step (separators : Raw) (s : Splitting) : Glyph → Splitting
  | .seam => { s with last := some (s.last.getD []), afterBlank := false }
  | .border => s.close false
  | .char c isQuoted splits =>
    if splits && separators.contains c then
      if c = ' ' || c = '\t' || c = '\n' then
        if s.last.isSome then s.close true else s
      else if s.last.isSome then s.close false
      else if s.afterBlank then { s with afterBlank := false }
      else { s with done := [] :: s.done }
    else { s with last := some ((c, isQuoted) :: s.last.getD []), afterBlank := false }

end Splitting

/-- The fields that glyphs fall apart into. -/
def Glyph.split (separators : Raw) (glyphs : List Glyph) : List Field :=
  let all := glyphs.foldl (Splitting.step separators) { done := [], last := none, afterBlank := false }
  (all.close false).done.reverse

/-! ## Matching files -/

/-- The form of a text in which the characters count of a dialect: only the richer
    one knows characters of several bytes. -/
def Dialect.spread (d : Dialect) (r : Raw) : List Char :=
  match d with
  | .sh => r
  | .bash => Raw.widen r

/-- The text that such a form stands for. -/
def Dialect.gather (d : Dialect) (w : List Char) : Raw :=
  match d with
  | .sh => w
  | .bash => Raw.narrow w

/-- **Globbing**: how names of files are matched with patterns. -/
structure Globbing where
  /-- The dialect of the patterns. -/
  dialect : Dialect
  /-- Whether patterns may hold groups. -/
  groups : Bool
  /-- Whether names that begin with a dot are like others. -/
  showsHidden : Bool
  /-- Whether two stars stand for directories at any depth. -/
  isDeep : Bool
  /-- Whether capitals are not told from small letters. -/
  ignoresCase : Bool
  deriving DecidableEq, Repr

namespace Globbing

/-- The pattern that a field is. -/
def pattern (g : Globbing) (f : Field) : FilePattern :=
  let p := FilePattern.read g.groups (g.dialect == .bash) f
  if g.ignoresCase && p.isOpen then FilePattern.folded p else p

/-- Whether a pattern that begins like `p` may match a name. Names that begin with a
    dot are meant only by patterns that do. -/
def mayMatch (g : Globbing) (p : FilePattern) (name : Raw) : Bool :=
  match g.dialect, FilePattern.beginsWithDot p with
  | .sh, true => name.head? = some '.'
  | .bash, true => true
  | _, false => name.head? ≠ some '.' || (g.showsHidden && name ≠ ['.'] && name ≠ ['.', '.'])

/-- The names in a directory that a pattern matches. -/
def names (g : Globbing) (tree : FileTree) (base : Location) (directory : Raw) (p : FilePattern) :
    List Raw :=
  let names : List Raw := match tree.find base (.ofString (Raw.toText directory)) with
    | .ok (.directory a entries) =>
      if a.isReadable then entries.map fun entry => Raw.ofText entry.1 else []
    | _ => []
  let names := match g.dialect with
    | .sh => ['.'] :: ['.', '.'] :: names
    | .bash => names
  names.filter fun name => g.mayMatch p name && p.accepts (g.dialect.spread name)

/-- The paths of all that is below a directory, and whether each is a directory. What
    is hidden is left out, with all that is below it. -/
def below (g : Globbing) (tree : FileTree) (base : Location) (directory : Raw) :
    List (Raw × Bool) :=
  match tree.find base (.ofString (Raw.toText directory)) with
  | .ok node =>
    ((node.nodes []).drop 1).filterMap fun (location, node) =>
      if g.showsHidden || location.all fun name => !name.startsWith "." then
        some (['/'].intercalate (location.map Raw.ofText), node matches .directory _ _)
      else none
  | .error _ => []

/-- Whether a pattern stands for directories at any depth. -/
def isAnyDepth (g : Globbing) (p : FilePattern) : Bool :=
  g.isDeep && p matches [.star, .star]

/-- The paths that patterns for their segments match. `shown` is the text of the
    path so far. -/
def paths (g : Globbing) (tree : FileTree) (base : Location) :
    (shown : Raw) → List FilePattern → List Raw
  | shown, [] => [shown]
  | shown, p :: rest =>
    let slash : Raw := if rest.isEmpty then [] else ['/']
    let directory : Raw := if shown.isEmpty then ['.'] else shown
    if g.isAnyDepth p then
      let all := g.below tree base directory
      if rest.isEmpty then
        (if shown.isEmpty then [] else [shown]) ++ all.map fun (path, _) => shown ++ path
      else
        g.paths tree base shown rest
          ++ (all.filter (·.2)).flatMap fun (path, _) => g.paths tree base (shown ++ path ++ ['/']) rest
    else if p.isOpen then
      (g.names tree base directory p).flatMap fun name =>
        g.paths tree base (shown ++ name ++ slash) rest
    else
      let next := shown ++ g.dialect.gather p.literalText ++ slash
      if rest.isEmpty then
        match tree.findName base (Path.ofString (Raw.toText next)) with
        | .ok _ => [next]
        | .error _ => []
      else g.paths tree base next rest

/-- The paths that a field matches, if it is a pattern. -/
def matches? (g : Globbing) (tree : FileTree) (base : Location) (f : Field) : Option (List Raw) :=
  let p := g.pattern f
  if p.isOpen then some (Raw.sort (g.paths tree base [] (FilePattern.segments p))) else none

end Globbing

end MapAudit.Script
