import MapAudit.Text.Units
import MapAudit.Bisect

/-! # Lines and columns

    A `Coordinate` names a place in a text the way source maps do: lines count
    from one, columns count UTF-16 units from zero. A `LineIndex` remembers
    where the lines of a text start, so that the line of an offset is found by
    binary search.
-/

namespace MapAudit.Text

/-- **Coordinate** of a place in a text. -/
structure Coordinate where
  /-- Line number, from one. -/
  line : Nat
  /-- UTF-16 units since the start of the line. -/
  column : Nat
  deriving DecidableEq, Repr

namespace Coordinate

/-- The order of the places: by line, then by column. -/
instance : Ord Coordinate where
  compare a b := (compare a.line b.line).then (compare a.column b.column)

instance : LT Coordinate where
  lt a b := a.line < b.line ∨ a.line = b.line ∧ a.column < b.column

instance (a b : Coordinate) : Decidable (a < b) :=
  inferInstanceAs (Decidable (a.line < b.line ∨ a.line = b.line ∧ a.column < b.column))

instance : ToString Coordinate where
  toString c := toString c.line ++ ":" ++ toString c.column

end Coordinate

/-- The greatest byte offset that has a coordinate. -/
def maxOffset : Nat := 4294967295

/-- **Line index** of a text. -/
structure LineIndex where
  /-- The indexed text. -/
  text : List Char
  /-- Byte offset at which each line starts. -/
  starts : Array Nat
  deriving Repr

namespace LineIndex

/-- Offsets of the lines that start in a text after its beginning, when the
    text itself begins at `offset`. -/
def startsAfterBreaks (offset : Nat) : List Char → List Nat
  | [] => []
  | c :: cs =>
    let next := offset + c.utf8Size
    if c = '\n' then next :: startsAfterBreaks next cs
    else startsAfterBreaks next cs

/-- Indexes a text. -/
def ofText (text : List Char) : LineIndex where
  text := text
  starts := (0 :: startsAfterBreaks 0 text).toArray

/-- Number of lines. A text without line break has one. -/
def lineCount (index : LineIndex) : Nat :=
  index.starts.size

/-- The coordinate of a byte offset; there is none past the end of the text or
    inside a character. -/
def coordinate? (index : LineIndex) (offset : Nat) : Option Coordinate := do
  let (before, _) ← splitAtByte? offset index.text
  -- the first line starts at zero, so at least one start is not past `offset`
  let line := bisect (fun i => index.starts.getD i 0 ≤ offset) index.starts.size
  let (_, sinceStart) ← splitAtByte? (index.starts.getD (line - 1) 0) before
  return { line, column := utf16Length sinceStart }

/-- The text of a line, without its line break. Lines count from one. -/
def lineText? (index : LineIndex) (line : Nat) : Option (List Char) :=
  if line = 0 then none
  else do
    let start ← index.starts[line - 1]?
    let (_, fromStart) ← splitAtByte? start index.text
    match index.starts[line]? with
    | none => return fromStart
    | some next =>
      let (lineChars, _) ← splitAtByte? (next - 1 - start) fromStart
      return lineChars

end LineIndex

end MapAudit.Text
