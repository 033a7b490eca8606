import MapAudit.Script.Difference
import MapAudit.Script.Raw
import MapAudit.Script.Regex.Search
import MapAudit.Text.Columns

/-! # Changes in print

    A script of changes from one text to another is shown in one of several styles.
    Changes that are near to each other are shown together as a group, with lines
    around them where the style asks for that. A group of changes that do not matter
    is left out.
-/

namespace MapAudit.Script

/-- **Style** in which changes are shown. -/
inductive ChangeStyle where
  /-- The numbers of the lines, and then the lines. -/
  | plain
  /-- The lines of both texts one after the other, with those around them. -/
  | context
  /-- The lines of both texts in one, with those around them. -/
  | unified
  /-- Commands for a line editor, from the end to the start. -/
  | backward
  /-- The same commands, from the start to the end. -/
  | forward
  /-- Commands with numbers of lines. -/
  | counted
  /-- Both texts beside each other. -/
  | beside
  deriving DecidableEq, Repr

/-- **Manner** in which changes are shown. -/
structure ChangeManner where
  /-- The style. -/
  style : ChangeStyle
  /-- How many lines are shown around changes. -/
  context : Nat
  /-- The distance of tabulator stops. -/
  tab : Nat
  /-- Whether tabulators are shown as blanks. -/
  expandsTabs : Bool
  /-- Whether a tabulator comes before a line, and not a blank. -/
  startsWithTab : Bool
  /-- Whether there is no blank before a line with nothing in it. -/
  hidesBlanks : Bool
  /-- The width of both texts beside each other. -/
  width : Nat
  /-- Whether only the first text is shown where both are the same. -/
  showsLeftOnly : Bool
  /-- Whether lines that are the same are left out beside each other. -/
  hidesCommon : Bool
  /-- What a line matches that is a heading for those after it. -/
  heading : Option Regex
  /-- What lines do not matter, if there are any such. -/
  trivial : Option (Raw → Bool)

/-- Two texts, line by line. Only the last line of a text may have no end. -/
structure TextPair where
  /-- The lines of the first text. -/
  first : Array Raw
  /-- The lines of the second text. -/
  second : Array Raw

namespace TextPair

/-- Lines of the first text from a place up to another. -/
def firstLines (p : TextPair) (start stop : Nat) : List Raw :=
  (p.first.extract start stop).toList

/-- Lines of the second text from a place up to another. -/
def secondLines (p : TextPair) (start stop : Nat) : List Raw :=
  (p.second.extract start stop).toList

end TextPair

namespace Change

/-- The lines that a change deletes. -/
def deletedLines (c : Change) (p : TextPair) : List Raw :=
  p.firstLines c.first (c.first + c.deleted)

/-- The lines that a change inserts. -/
def insertedLines (c : Change) (p : TextPair) : List Raw :=
  p.secondLines c.second (c.second + c.inserted)

end Change

/-- A **group** of changes that are shown together. -/
structure ChangeGroup where
  /-- The changes. -/
  changes : List Change
  /-- The first line of the first text. -/
  first : Nat
  /-- The line after the last one of the first text. -/
  firstStop : Nat
  /-- The first line of the second text. -/
  second : Nat
  /-- The line after the last one of the second text. -/
  secondStop : Nat

namespace ChangeGroup

/-- The group of some changes. -/
def ofChanges (changes : List Change) : ChangeGroup where
  changes
  first := (changes.head?.map (·.first)).getD 0
  firstStop := (changes.getLast?.map fun c => c.first + c.deleted).getD 0
  second := (changes.head?.map (·.second)).getD 0
  secondStop := (changes.getLast?.map fun c => c.second + c.inserted).getD 0

/-- Whether any lines are deleted. -/
def deletes (g : ChangeGroup) : Bool :=
  g.changes.any (0 < ·.deleted)

/-- Whether any lines are inserted. -/
def inserts (g : ChangeGroup) : Bool :=
  g.changes.any (0 < ·.inserted)

/-- A group with the lines around it. -/
def widened (g : ChangeGroup) (n : Nat) (p : TextPair) : ChangeGroup :=
  { g with
    first := g.first - n
    firstStop := min (g.firstStop + n) p.first.size
    second := g.second - n
    secondStop := min (g.secondStop + n) p.second.size }

/-- The letter for what a group does. -/
def letter (g : ChangeGroup) : Char :=
  if g.deletes then if g.inserts then 'c' else 'd' else 'a'

end ChangeGroup

namespace ChangeManner

variable (m : ChangeManner)

/-! ## Groups -/

/-- Whether changes do not matter. -/
def isTrivial (p : TextPair) (changes : List Change) : Bool :=
  m.trivial.any fun trivial =>
    changes.all fun c => (c.deletedLines p).all trivial && (c.insertedLines p).all trivial

/-- Whether the next change is shown in the same group as the one before it. Changes have a
    mark that says whether they do not matter: one that does not has to be nearer. -/
def joins (a b : Change × Bool) : Bool :=
  let between := b.1.first - (a.1.first + a.1.deleted)
  between < if b.2 then m.context else 2 * m.context + 1

/-- The groups of a script that are shown. -/
def groups (p : TextPair) (script : List Change) : List ChangeGroup :=
  let parts := if m.style = .context || m.style = .unified then
      ((script.map fun c => (c, m.isTrivial p [c])).splitBy m.joins).map fun part => part.map (·.1)
    else script.map fun c => [c]
  (parts.filter (!m.isTrivial p ·)).map .ofChanges

/-! ## Lines -/

/-- A text from a column on with blanks in place of tabulators. Behind a return the mark of
    the line comes again. -/
def expanded (mark : Raw) : (column : Nat) → Raw → Raw
  | _, [] => []
  | column, '\t' :: rest =>
    let blanks := m.tab - column % m.tab
    List.replicate blanks ' ' ++ expanded mark (column + blanks) rest
  | _, '\x0d' :: rest =>
    let again := if rest.isEmpty || rest.head? = some '\n' then [] else mark
    '\x0d' :: again ++ expanded mark 0 rest
  | column, '\x08' :: rest =>
    if column = 0 then expanded mark column rest else '\x08' :: expanded mark (column - 1) rest
  | column, c :: rest =>
    c :: expanded mark (if ' ' ≤ c && c ≤ '~' then column + 1 else column) rest

/-- A line as it is written. -/
def text (mark l : Raw) : Raw :=
  if m.expandsTabs then m.expanded mark 0 l else l

/-- What comes after a line: that its end is missing. -/
def ending (l : Raw) : Raw :=
  if l.getLast? = some '\n' then [] else "\n\\ No newline at end of file\n".toList

/-- What stands between a mark and a line. -/
def gap (l : Raw) : Raw :=
  if m.hidesBlanks && l.head? = some '\n' then [] else [if m.startsWithTab then '\t' else ' ']

/-- A line behind a mark. -/
def marked (mark : Char) (l : Raw) : Raw :=
  let gap := m.gap l
  let mark := if gap.isEmpty && mark = ' ' then [] else mark :: gap
  mark ++ m.text mark l ++ ending l

/-- A line that was deleted or inserted, or one around it, in both texts in one. -/
def joined (mark : Option Char) (l : Raw) : Raw :=
  let start := match mark with
    | none => m.gap l
    | some c => if m.startsWithTab then c :: m.gap l else [c]
  start ++ m.text [] l ++ ending l

/-- Numbers of lines, of which the first one is counted from zero. -/
def rangeText (between : Char) (start stop : Nat) : Raw :=
  if start + 1 < stop then Raw.ofNat (start + 1) ++ between :: Raw.ofNat stop else Raw.ofNat stop

/-- The number of the first line, and how many there are. -/
def countedRange (start stop : Nat) : Raw :=
  match stop - start with
  | 0 => Raw.ofNat stop ++ ",0".toList
  | 1 => Raw.ofNat stop
  | n => Raw.ofNat (start + 1) ++ ',' :: Raw.ofNat n

/-- The heading for the lines from a place on, as it is shown. -/
def headingText (p : TextPair) (start : Nat) : Raw :=
  match m.heading with
  | none => []
  | some e =>
    let isSpace (c : Char) : Bool := c = ' ' || ('\t' ≤ c && c ≤ '\r')
    let content (l : Raw) : Raw := l.filter (· ≠ '\n')
    match (p.firstLines 0 start).reverse.find? fun l => e.isIn false (content l) with
    | none => []
    | some l =>
      let shown := ((content l).dropWhile isSpace).take 40
      ' ' :: (shown.reverse.dropWhile isSpace).reverse

/-! ## Styles -/

/-- A group in the plain style. -/
def plainGroup (p : TextPair) (g : ChangeGroup) : Raw :=
  rangeText ',' g.first g.firstStop ++ g.letter :: rangeText ',' g.second g.secondStop ++ '\n' ::
    (if g.deletes then (p.firstLines g.first g.firstStop).flatMap (m.marked '<') else [])
    ++ (if g.deletes && g.inserts then "---\n".toList else [])
    ++ (if g.inserts then (p.secondLines g.second g.secondStop).flatMap (m.marked '>') else [])

/-- Lines from a place on, of which those that changes cover have a mark. A change has the
    place of its first line, the number of lines and the mark. -/
def withMarks (lines : List Raw) (start : Nat) (changes : List (Nat × Nat × Char)) : Raw :=
  (lines.zipIdx start).flatMap fun (l, i) =>
    let mark := match changes.find? fun (first, n, _) => first ≤ i && i < first + n with
      | some (_, _, mark) => mark
      | none => ' '
    m.marked mark l

/-- A group in the style that shows the texts one after the other. -/
def contextGroup (p : TextPair) (g : ChangeGroup) : Raw :=
  let w := g.widened m.context p
  let deleted := g.changes.map fun c => (c.first, c.deleted, if 0 < c.inserted then '!' else '-')
  let inserted := g.changes.map fun c => (c.second, c.inserted, if 0 < c.deleted then '!' else '+')
  "***************".toList ++ m.headingText p w.first ++ "\n*** ".toList
    ++ rangeText ',' w.first w.firstStop ++ " ****\n".toList
    ++ (if g.deletes then m.withMarks (p.firstLines w.first w.firstStop) w.first deleted else [])
    ++ "--- ".toList ++ rangeText ',' w.second w.secondStop ++ " ----\n".toList
    ++ (if g.inserts then m.withMarks (p.secondLines w.second w.secondStop) w.second inserted
      else [])

/-- Changes and the lines around them, from a place in both texts up to another in the
    first one. -/
def joinedLines (p : TextPair) (stop : Nat) : (place : Nat) → List Change → Raw
  | place, [] => (p.firstLines place stop).flatMap (m.joined none)
  | place, c :: rest =>
    (p.firstLines place c.first).flatMap (m.joined none)
      ++ (c.deletedLines p).flatMap (m.joined (some '-'))
      ++ (c.insertedLines p).flatMap (m.joined (some '+'))
      ++ joinedLines p stop (c.first + c.deleted) rest

/-- A group in the style that shows both texts in one. -/
def unifiedGroup (p : TextPair) (g : ChangeGroup) : Raw :=
  let w := g.widened m.context p
  "@@ -".toList ++ countedRange w.first w.firstStop ++ " +".toList
    ++ countedRange w.second w.secondStop ++ " @@".toList ++ m.headingText p w.first ++ '\n' ::
      m.joinedLines p w.firstStop w.first g.changes

/-- Lines that an editor is given. A line with a single point would be the last one: it gets
    a second point, which is taken away later. -/
def dictated : (isOpen : Bool) → List Raw → Raw
  | isOpen, [] => if isOpen then ".\n".toList else []
  | isOpen, l :: rest =>
    (if isOpen then [] else "a\n".toList)
      ++ if l = ".\n".toList then "..\n.\ns/.//\n".toList ++ dictated false rest
        else m.text [] l ++ dictated true rest

/-- A group as a command for a line editor. -/
def backwardGroup (p : TextPair) (g : ChangeGroup) : Raw :=
  rangeText ',' g.first g.firstStop ++ g.letter :: '\n' ::
    if g.inserts then m.dictated true (p.secondLines g.second g.secondStop) else []

/-- A group as such a command with the letter in front. -/
def forwardGroup (p : TextPair) (g : ChangeGroup) : Raw :=
  g.letter :: rangeText ' ' g.first g.firstStop ++ '\n' ::
    if g.inserts then
      (p.secondLines g.second g.secondStop).flatMap (m.text []) ++ ".\n".toList
    else []

/-- A group as commands with numbers of lines. -/
def countedGroup (p : TextPair) (g : ChangeGroup) : Raw :=
  let command (c : Char) (place n : Nat) : Raw :=
    c :: Raw.ofNat place ++ ' ' :: Raw.ofNat n ++ ['\n']
  (if g.deletes then command 'd' (g.first + 1) (g.firstStop - g.first) else [])
    ++ if g.inserts then command 'a' g.firstStop (g.secondStop - g.second)
        ++ (p.secondLines g.second g.secondStop).flatMap (m.text [])
      else []

/-! ## Beside each other -/

/-- The distance that tabulators stand for in the layout. -/
def step : Nat :=
  if m.expandsTabs then 1 else m.tab

/-- The column at which the second text begins, where there is room for both. -/
def divide : Nat :=
  let sum := m.step + 3
  let middle := m.width / 2 + sum / 2 + m.width % 2 * (sum % 2)
  middle - middle % m.step

/-- The width of one text. -/
def half : Nat :=
  min (m.divide - 3) (m.width - m.divide)

/-- The column of the second text. -/
def column : Nat :=
  if m.half = 0 then m.width else m.divide

/-- What leads from a column to another. -/
def passage (start stop : Nat) : Raw :=
  let (tabs, start) := if m.expandsTabs || stop < start - start % m.tab + m.tab then (0, start)
    else (stop / m.tab - start / m.tab, stop / m.tab * m.tab)
  List.replicate tabs '\t' ++ List.replicate (stop - start) ' '

/-- A line while it is written into a column. -/
structure HalfLine where
  /-- What was written, the last part first. -/
  written : List Raw
  /-- The column that the whole line has reached. -/
  inside : Nat
  /-- The column that was reached in writing. -/
  outside : Nat

/-- Writes one character of a line into a column that begins at `indent`. -/
def halfStep (indent : Nat) (h : HalfLine) (c : Char) : HalfLine :=
  let bound := m.half
  let put (r : Raw) (inside outside : Nat) : HalfLine := { written := r :: h.written, inside, outside }
  match c with
  | '\t' =>
    let blanks := m.tab - h.inside % m.tab
    let stop := h.outside + blanks
    if h.inside ≠ h.outside then { h with inside := h.inside + blanks }
    else if m.expandsTabs then
      let stop := min bound stop
      put (List.replicate (stop - h.outside) ' ') (h.inside + blanks) (max h.outside stop)
    else if stop < bound then put ['\t'] (h.inside + blanks) stop
    else { h with inside := h.inside + blanks }
  | '\x0d' => put ('\x0d' :: m.passage 0 indent) 0 0
  | '\x08' =>
    if h.inside = 0 then h
    else if bound ≤ h.inside - 1 then { h with inside := h.inside - 1 }
    else if h.outside ≤ h.inside - 1 then
      put (List.replicate (h.inside - 1 - h.outside) ' ') (h.inside - 1) (h.inside - 1)
    else put ['\x08'] (h.inside - 1) (h.inside - 1)
  | '\x0b' | '\x0c' => if h.inside < bound then put [c] h.inside h.outside else h
  | c =>
    if Raw.isMark c || c = '\x00' || (' ' ≤ c && c ≤ '~') then
      if h.inside < bound then put (Raw.narrowOne c) (h.inside + 1) (h.inside + 1)
      else { h with inside := h.inside + 1 }
    else
      let inside := h.inside + (if Text.isPrinted c then Text.columns c else 0)
      if inside ≤ bound then put (Raw.narrowOne c) inside inside else { h with inside }

/-- A line in a column that begins at `indent`, and the column that is reached then. -/
def halfLine (indent : Nat) (l : Raw) : Raw × Nat :=
  let h := ((Raw.widen l).takeWhile (· ≠ '\n')).foldl (m.halfStep indent)
    { written := [], inside := 0, outside := 0 }
  (h.written.reverse.flatten, h.outside)

/-- Two lines beside each other, one of which may be missing, with a mark between them. -/
def besideLine (left : Option Raw) (mark : Char) (right : Option Raw) : Raw :=
  let isEnded (l : Option Raw) : Bool := l.any fun l => l.getLast? = some '\n'
  let (start, reached) := match left with
    | none => ([], 0)
    | some l => m.halfLine 0 l
  let (middle, reached) :=
    if mark = ' ' then ([], reached)
    else
      let place := (m.half + m.column - 1) / 2
      let mark := if mark = '|' && isEnded left ≠ isEnded right then
        if isEnded left then '/' else '\\' else mark
      (m.passage reached place ++ [mark], place + 1)
  let finish := match right with
    | none => []
    | some l =>
      if l.head? = some '\n' then []
      else m.passage reached m.column ++ (m.halfLine m.column l).1
  start ++ middle ++ finish ++ if isEnded left || isEnded right then ['\n'] else []

/-- Lines that are the same in both texts. -/
def commonLines (p : TextPair) (first second firstStop secondStop : Nat) : Raw :=
  if m.hidesCommon then []
  else
    let lefts := p.firstLines first firstStop
    let rights := p.secondLines second secondStop
    if m.showsLeftOnly then lefts.flatMap fun l => m.besideLine (some l) '(' none
    else
      ((lefts.zip rights).flatMap fun (l, r) => m.besideLine (some l) ' ' (some r))
        ++ ((rights.drop lefts.length).flatMap fun r => m.besideLine none ')' (some r))
        ++ ((lefts.drop rights.length).flatMap fun l => m.besideLine (some l) '(' none)

/-- Two texts beside each other, from places on. -/
def besideFrom (p : TextPair) : (first second : Nat) → List ChangeGroup → Raw
  | first, second, [] => m.commonLines p first second p.first.size p.second.size
  | first, second, g :: rest =>
    let lefts := p.firstLines g.first g.firstStop
    let rights := p.secondLines g.second g.secondStop
    m.commonLines p first second g.first g.second
      ++ ((lefts.zip rights).flatMap fun (l, r) => m.besideLine (some l) '|' (some r))
      ++ ((rights.drop lefts.length).flatMap fun r => m.besideLine none '>' (some r))
      ++ ((lefts.drop rights.length).flatMap fun l => m.besideLine (some l) '<' none)
      ++ besideFrom p g.firstStop g.secondStop rest

/-! ## All of it -/

/-- **Text** that shows a script of changes, without any header. -/
def shown (p : TextPair) (script : List Change) : Raw :=
  let groups := m.groups p script
  match m.style with
  | .plain => groups.flatMap (m.plainGroup p)
  | .context => groups.flatMap (m.contextGroup p)
  | .unified => groups.flatMap (m.unifiedGroup p)
  | .backward => groups.reverse.flatMap (m.backwardGroup p)
  | .forward => groups.flatMap (m.forwardGroup p)
  | .counted => groups.flatMap (m.countedGroup p)
  | .beside => m.besideFrom p 0 0 groups

/-- Whether a script has a change that matters. -/
def matters (p : TextPair) (script : List Change) : Bool :=
  script.any fun c => !m.isTrivial p [c]

end ChangeManner

end MapAudit.Script
