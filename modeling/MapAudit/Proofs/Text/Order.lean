import MapAudit.Proofs.Text.Coordinates

/-! # Order of offsets and coordinates

    A place of a text can be told by its byte offset or by its coordinate, and the places are
    in the same order both ways. Going on in a text by one character leads to a greater
    coordinate: a line break leads to the next line, and any other character has at least one
    unit, so that it leads on in its line. So of two offsets the greater one has the greater
    coordinate, and there is no way for two offsets to share one.
-/

namespace MapAudit.Text

variable {cs : List Char} {m n : Nat} {a b p q : Coordinate}

namespace Coordinate

/-! ### Comparing coordinates -/

/-- **Numbers of 32 bits**: those that a coordinate has room for. -/
structure Fits (place : Coordinate) : Prop where
  line : place.line ≤ maxOffset
  column : place.column ≤ maxOffset

end Coordinate

namespace LineIndex

/-- **Greater offsets** have greater coordinates. -/
theorem coordinate_lt (hp : (ofText cs).coordinate? m = some p)
    (hq : (ofText cs).coordinate? n = some q) (h : m < n) : p < q := by
  obtain ⟨before, rest, rfl, rfl, rfl⟩ := coordinate?_eq_some_iff.1 hp
  obtain ⟨before', rest', htext, rfl, rfl⟩ := coordinate?_eq_some_iff.1 hq
  -- the text before the greater offset goes on from the one before the other
  obtain ⟨more, rfl, -⟩ := exists_append_of_le htext (Nat.le_of_lt h)
  have hmore : more ≠ [] := by
    rintro rfl
    rw [List.append_nil] at h
    exact Nat.lt_irrefl _ h
  exact Coordinate.after_lt_after_append before hmore

/-- So does one in front of the end of the text. -/
theorem fits_of_lt (hp : (ofText cs).coordinate? m = some p) (hsize : utf8Length cs ≤ maxOffset)
    (hm : m < maxOffset) : p.Fits := by
  obtain ⟨before, rest, rfl, rfl, rfl⟩ := coordinate?_eq_some_iff.1 hp
  obtain ⟨hcolumn, hline | ⟨-, hend⟩⟩ := after_le_of_utf8Length_le hsize
  · exact ⟨hline, hcolumn⟩
  · exact absurd hend (Nat.ne_of_lt hm)

end LineIndex

end MapAudit.Text
