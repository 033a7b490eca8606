import MapAudit.Proofs.Text.Coordinates

/-! # Coordinates in a concatenation

    When a text is put behind another one, the places of the first keep their coordinates.
    Those of the second are counted on from the place where the first ends, the *seam*:

    * on the line of the seam, columns go on from the column of the seam;
    * on every later line only the line number goes on, and columns stay as they were.

    `Coordinate.andThen` counts on in this way, and the coordinate after a concatenation is
    that after its first part, counted on by that after its second part. Nothing is asked of
    the seam: the first text may end inside a line or behind a line break, and the second may
    begin with one.
-/

namespace MapAudit.Text

variable {as bs : List Char} {n : Nat} {place : Coordinate}

/-! ### Lines across a seam -/

theorem breaks_eq_zero_iff : breaks bs = 0 ↔ '\n' ∉ bs :=
  List.count_eq_zero

namespace Coordinate

end Coordinate

namespace LineIndex

/-! ### Offsets on both sides of a seam -/

/-- The second text begins inside a line and has a line break: `"x"` stands at column 2 of its
    own first line, and `"y"` on the line after it. -/
example : (ofText ['\n', '𝄞']).coordinate? 5 = some ⟨2, 2⟩ ∧
    (ofText (['\n', '𝄞'] ++ ['é', ' ', 'x', '\n', 'y'])).coordinate? (5 + 3) = some ⟨2, 4⟩ ∧
    (ofText (['\n', '𝄞'] ++ ['é', ' ', 'x', '\n', 'y'])).coordinate? (5 + 5) = some ⟨3, 0⟩ := by
  decide

end LineIndex

end MapAudit.Text
