import MapAudit.Proofs.Text.Units
import MapAudit.Text.LineIndex
import Mathlib.Data.List.GetD

/-! # Coordinates by counting

    The coordinate of an offset can be read off the text before it: one line more
    than it has line breaks, and as many units as its last line has. A line index
    gives the same coordinates, by a binary search among the starts of its lines,
    and gives one for every offset that does not fall inside a character.
-/

namespace MapAudit.Text

/-- **Coordinate by counting**: the place that is reached after the text `before`. -/
def Coordinate.after (before : List Char) : Coordinate where
  line := breaks before + 1
  column := utf16Length (lastLine before)

/-- The coordinate some lines further down. -/
def Coordinate.down (k : Nat) (place : Coordinate) : Coordinate :=
  { place with line := k + place.line }

/-- Behind a text that ends in a line break, lines count on and columns start anew. -/
theorem Coordinate.after_append {front : List Char} (h : lastLine front = [])
    (before : List Char) :
    Coordinate.after (front ++ before) = (Coordinate.after before).down (breaks front) := by
  simp only [Coordinate.after, Coordinate.down, breaks_append,
    lastLine_append_of_lastLine_eq_nil h, Nat.add_assoc]

/-! ### Order of coordinates -/

theorem Coordinate.lt_iff {a b : Coordinate} :
    a < b ↔ a.line < b.line ∨ a.line = b.line ∧ a.column < b.column :=
  Iff.rfl

/-- One more character leads further on. -/
theorem Coordinate.after_lt_after_singleton (before : List Char) (c : Char) :
    Coordinate.after before < Coordinate.after (before ++ [c]) := by
  rw [lt_iff]
  simp only [Coordinate.after, breaks_append]
  by_cases hc : c = '\n'
  · -- a line break leads to the next line
    have hone : breaks [c] = 1 := by simp [breaks, hc]
    omega
  · -- any other character leads further on the same line
    have hzero : breaks [c] = 0 := by simp [breaks, hc]
    have hunits : 0 < utf16Length [c] := by
      simp only [utf16Length, utf16Size]
      split <;> omega
    rw [lastLine_append_of_ne _ hc, utf16Length_append]
    omega

/-- **Further on** in a text, coordinates are greater. -/
theorem Coordinate.after_lt_after_append (before : List Char) {more : List Char}
    (h : more ≠ []) : Coordinate.after before < Coordinate.after (before ++ more) := by
  induction more using List.reverseRecOn with
  | nil => exact absurd rfl h
  | append_singleton init c ih =>
    have hlast := Coordinate.after_lt_after_singleton (before ++ init) c
    rw [List.append_assoc] at hlast
    by_cases hinit : init = []
    · simpa [hinit] using hlast
    · have hfirst := ih hinit
      rw [lt_iff] at hfirst hlast ⊢
      omega

/-- **Different offsets** of a text have different coordinates. -/
theorem Coordinate.after_injective {before before' rest rest' : List Char}
    (htext : before ++ rest = before' ++ rest')
    (h : Coordinate.after before = Coordinate.after before') : before = before' := by
  have hnil : ∀ {as more : List Char}, Coordinate.after as = Coordinate.after (as ++ more) →
      more = [] := by
    intro as more heq
    by_contra hne
    have hlt := Coordinate.after_lt_after_append as hne
    rw [← heq, Coordinate.lt_iff] at hlt
    omega
  rcases List.append_eq_append_iff.1 htext with ⟨more, rfl, -⟩ | ⟨more, rfl, -⟩
  · rw [hnil h, List.append_nil]
  · rw [hnil h.symm, List.append_nil]

namespace LineIndex

/-! ### Starts of lines -/

theorem startsAfterBreaks_append (offset : Nat) (as bs : List Char) :
    startsAfterBreaks offset (as ++ bs) =
      startsAfterBreaks offset as ++ startsAfterBreaks (offset + utf8Length as) bs := by
  induction as generalizing offset with
  | nil => simp [startsAfterBreaks]
  | cons a as ih =>
    simp only [List.cons_append, startsAfterBreaks, ih, utf8Length_cons, Nat.add_assoc]
    split <;> rfl

/-- Every line break starts one line. -/
theorem length_startsAfterBreaks (offset : Nat) (cs : List Char) :
    (startsAfterBreaks offset cs).length = breaks cs := by
  induction cs generalizing offset with
  | nil => rfl
  | cons c cs ih =>
    simp only [startsAfterBreaks, breaks, List.count_cons]
    by_cases hc : c = '\n'
    · simp [hc, ih, breaks]
    · simp [hc, ih, breaks]

/-- There are as many starts as line breaks, and one for the beginning. -/
theorem length_starts (offset : Nat) (cs : List Char) :
    (offset :: startsAfterBreaks offset cs).length = breaks cs + 1 := by
  rw [List.length_cons, length_startsAfterBreaks]

/-- The starts in a text of two parts are those in the first and, behind them, those in the
    second. -/
theorem toList_starts_append (as bs : List Char) :
    (ofText (as ++ bs)).starts.toList =
      (0 :: startsAfterBreaks 0 as) ++ startsAfterBreaks (utf8Length as) bs := by
  simp [ofText, startsAfterBreaks_append]

/-- The starts before a place do not depend on what is behind it. -/
theorem getElem?_starts_of_le {i : Nat} {before : List Char} (h : i ≤ breaks before)
    (rest : List Char) :
    (ofText (before ++ rest)).starts[i]? = (0 :: startsAfterBreaks 0 before)[i]? := by
  have hlen := length_starts 0 before
  rw [← Array.getElem?_toList, toList_starts_append, List.getElem?_append_left (by omega)]

/-- A line starts behind the line break before it. -/
theorem lt_of_mem_startsAfterBreaks {offset start : Nat} {cs : List Char}
    (h : start ∈ startsAfterBreaks offset cs) :
    offset < start ∧ start ≤ offset + utf8Length cs := by
  induction cs generalizing offset with
  | nil => simp [startsAfterBreaks] at h
  | cons c cs ih =>
    have hc := c.utf8Size_pos
    have hrest : start ∈ startsAfterBreaks (offset + c.utf8Size) cs →
        offset < start ∧ start ≤ offset + utf8Length (c :: cs) := by
      intro hmem
      obtain ⟨hlt, hle⟩ := ih hmem
      simp only [utf8Length_cons]
      omega
    simp only [startsAfterBreaks] at h
    split at h
    · rcases List.mem_cons.1 h with rfl | hmem
      · simp only [utf8Length_cons]
        omega
      · exact hrest hmem
    · exact hrest h

/-- The last line of a text begins where the last of the starts in it says. -/
theorem exists_lastLine_start (cs : List Char) :
    ∃ front, cs = front ++ lastLine cs ∧
      (0 :: startsAfterBreaks 0 cs)[breaks cs]? = some (utf8Length front) := by
  induction cs using List.reverseRecOn with
  | nil => exact ⟨[], rfl, rfl⟩
  | append_singleton cs c ih =>
    obtain ⟨front, hcs, hstart⟩ := ih
    have hlen := length_startsAfterBreaks 0 cs
    rw [startsAfterBreaks_append, breaks_append]
    by_cases hc : c = '\n'
    · -- the line begins right behind this character
      subst hc
      refine ⟨cs ++ ['\n'], by simp, ?_⟩
      have hone : breaks ['\n'] = 1 := rfl
      rw [hone, List.getElem?_cons_succ, List.getElem?_append_right (by omega), hlen]
      simp [startsAfterBreaks]
    · refine ⟨front, ?_, ?_⟩
      · rw [lastLine_append_of_ne _ hc, ← List.append_assoc, ← hcs]
      · have hnone : startsAfterBreaks (0 + utf8Length cs) [c] = [] := by
          simp [startsAfterBreaks, hc]
        have hzero : breaks [c] = 0 := by simp [breaks, hc]
        rw [hnone, List.append_nil, hzero, Nat.add_zero, hstart]

/-! ### Coordinates -/

/-- Among the starts of a text, those up to an offset are those in the text before it. -/
theorem bisect_starts (before rest : List Char) :
    bisect (fun i => ((ofText (before ++ rest)).starts.getD i 0 ≤ utf8Length before))
      (ofText (before ++ rest)).starts.size = breaks before + 1 := by
  have hstarts := toList_starts_append before rest
  have hlen := length_starts 0 before
  have hget : ∀ i, (ofText (before ++ rest)).starts.getD i 0 =
      ((0 :: startsAfterBreaks 0 before) ++
        startsAfterBreaks (utf8Length before) rest).getD i 0 := by
    intro i
    rw [← hstarts, Array.getD_eq_getD_getElem?, List.getD_eq_getElem?_getD, Array.getElem?_toList]
  have hsize : (ofText (before ++ rest)).starts.size =
      breaks before + 1 + (startsAfterBreaks (utf8Length before) rest).length := by
    rw [← Array.length_toList, hstarts, List.length_append, hlen]
  -- the starts in the text before it are within the offset, and those behind it are not
  apply bisect_eq (by omega)
  · intro i hi
    rw [hget, List.getD_append _ _ _ _ (by omega), List.getD_eq_getElem _ _ (by omega)]
    have hmem : (0 :: startsAfterBreaks 0 before)[i] ∈ 0 :: startsAfterBreaks 0 before :=
      List.getElem_mem _
    rcases List.mem_cons.1 hmem with hzero | hmem
    · simp [hzero]
    · have := (lt_of_mem_startsAfterBreaks hmem).2
      simpa using this
  · intro i hi hn
    rw [hget, List.getD_append_right _ _ _ _ (by omega), List.getD_eq_getElem _ _ (by omega)]
    have hmem := List.getElem_mem (l := startsAfterBreaks (utf8Length before) rest)
      (n := i - (0 :: startsAfterBreaks 0 before).length) (by omega)
    have := (lt_of_mem_startsAfterBreaks hmem).1
    simpa using this

/-- **Coordinate found**: the index gives the coordinate that counting gives. -/
theorem coordinate?_append (before rest : List Char) :
    (ofText (before ++ rest)).coordinate? (utf8Length before) = some (.after before) := by
  obtain ⟨front, hbefore, hstart⟩ := exists_lastLine_start before
  have hget : (ofText (before ++ rest)).starts.getD (breaks before) 0 = utf8Length front := by
    rw [Array.getD_eq_getD_getElem?, getElem?_starts_of_le (Nat.le_refl _), hstart,
      Option.getD_some]
  have hcut : splitAtByte? (utf8Length before) (ofText (before ++ rest)).text
      = some (before, rest) := splitAtByte?_append before rest
  have hline : splitAtByte? (utf8Length front) before = some (front, lastLine before) :=
    splitAtByte?_eq_some_iff.2 ⟨hbefore, rfl⟩
  simp only [coordinate?, hcut, bisect_starts, Option.bind_eq_bind, Option.bind_some,
    Nat.add_sub_cancel, hget, hline]
  rfl

/-- **Coordinates**: an offset has one exactly when it cuts the text between two
    characters, and then it is counted in the text before the cut. -/
theorem coordinate?_eq_some_iff {cs : List Char} {n : Nat} {place : Coordinate} :
    (ofText cs).coordinate? n = some place ↔
      ∃ before rest, cs = before ++ rest ∧ utf8Length before = n ∧ place = .after before := by
  constructor
  · intro h
    obtain ⟨⟨before, rest⟩, hcut, -⟩ := Option.bind_eq_some_iff.1 h
    obtain ⟨rfl, rfl⟩ := splitAtByte?_eq_some_iff.1 hcut
    rw [coordinate?_append, Option.some.injEq] at h
    exact ⟨before, rest, rfl, rfl, h.symm⟩
  · rintro ⟨before, rest, rfl, rfl, rfl⟩
    exact coordinate?_append before rest

end LineIndex

end MapAudit.Text
