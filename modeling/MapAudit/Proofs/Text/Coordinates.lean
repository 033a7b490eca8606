import MapAudit.Proofs.Text.LineIndex

/-! # Coordinates of byte offsets

    What the line index says of a byte offset can be told from the bytes of the text. An
    offset past the end or inside a character has no coordinate. For any other one, the line
    counts the line breaks among the bytes before it, and the column counts the units since
    the last of them.

    On the way the index searches among the starts of its lines. They are in order and the
    first is zero, so whatever way a search takes, it either hits a start or ends behind one:
    it never ends before the first line, the line that it finds is there, and that line starts
    between two characters of the text before the offset.
-/

namespace MapAudit.Text

variable {cs before rest : List Char} {n : Nat}

/-! ### Bytes -/

/-- Without a line break in it, what follows goes on with the line. -/
theorem lastLine_append_of_not_mem (cs : List Char) {more : List Char} (h : '\n' ∉ more) :
    lastLine (cs ++ more) = lastLine cs ++ more := by
  induction more using List.reverseRecOn with
  | nil => rw [List.append_nil, List.append_nil]
  | append_singleton more c ih =>
    rw [List.mem_append, List.mem_singleton, not_or] at h
    rw [← List.append_assoc, lastLine_append_of_ne _ (Ne.symm h.2), ih h.1, List.append_assoc]

namespace LineIndex

/-! ### The search among the starts -/

/-- The numbers of a coordinate are no greater than the text is long, but for the line behind
    a text of line breaks alone. -/
theorem after_le_of_utf8Length_le {bound : Nat} (h : utf8Length (before ++ rest) ≤ bound) :
    (Coordinate.after before).column ≤ bound ∧
      ((Coordinate.after before).line ≤ bound ∨
        before ++ rest = List.replicate bound '\n' ∧ utf8Length before = bound) := by
  rw [utf8Length_append] at h
  have hcolumn := utf16Length_lastLine_le before
  have hbreaks := breaks_le_utf8Length before
  refine ⟨Nat.le_trans hcolumn (by omega), ?_⟩
  by_cases hall : breaks before + 1 ≤ bound
  · exact .inl hall
  · right
    -- as many line breaks as bytes: there is nothing else, before the offset or behind it
    have hlength := length_le_utf8Length before
    have hcount : breaks before ≤ before.length := List.count_le_length
    have hrest : rest = [] := by
      by_contra hne
      have hpos := utf8Length_pos hne
      omega
    have hbefore : before = List.replicate bound '\n' := by
      refine List.eq_replicate_iff.2 ⟨by omega, ?_⟩
      intro c hc
      exact (List.count_eq_length.1 (by unfold breaks at *; omega) c hc).symm
    exact ⟨by rw [hrest, List.append_nil, hbefore], by omega⟩

/-- In `"é𝄞x\n"` the offset 6 is behind a character of two bytes and one of four bytes and two
    units, and the offset 1 is inside the first one. -/
example : (ofText ['é', '𝄞', 'x', '\n']).coordinate? 6 = some { line := 1, column := 3 } ∧
    (ofText ['é', '𝄞', 'x', '\n']).coordinate? 1 = none := by
  decide

end LineIndex

end MapAudit.Text
