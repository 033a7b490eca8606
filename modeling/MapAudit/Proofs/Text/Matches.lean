import MapAudit.Proofs.Text.Search

/-! # Matches and occurrences

    Matches are counted from left to right, and each one is looked for behind the end
    of the one before. So the first occurrence of a needle is matched, and an occurrence
    that shares characters with a match is not.

    A needle that is matched once may therefore occur several times, as long as no
    occurrence begins behind the end of the first one.

    The number of matches can be told without counting: there is none where the needle
    does not occur, and behind the first occurrence there is one less.
-/

namespace MapAudit.Text

variable {needle cs front back : List Char} {n : Nat}

/-! ### Counting from a match on -/

/-- What the last match covers is skipped. -/
theorem countMatchesFrom_eq_drop (covered : Nat) :
    countMatchesFrom needle covered cs = countMatches needle (cs.drop covered) := by
  unfold countMatches
  induction cs generalizing covered with
  | nil => simp [countMatchesFrom]
  | cons c cs ih =>
    cases covered with
    | zero => rw [List.drop_zero]
    | succ covered => rw [countMatchesFrom, List.drop_succ_cons, ih]

/-- A needle at the beginning is matched, and counting goes on behind it. -/
theorem countMatches_append (hneedle : needle ≠ []) (back : List Char) :
    countMatches needle (needle ++ back) = 1 + countMatches needle back := by
  obtain ⟨c, rest, rfl⟩ := List.exists_cons_of_ne_nil hneedle
  have hprefix : (c :: rest).isPrefixOf (c :: (rest ++ back)) = true := by
    rw [List.isPrefixOf_iff_prefix]
    exact ⟨back, rfl⟩
  have hcovered : (c :: rest).length - 1 = rest.length := rfl
  unfold countMatches
  rw [List.cons_append, countMatchesFrom, if_pos hprefix, hcovered, countMatchesFrom_eq_drop,
    List.drop_left]
  rfl

/-- **First match**: the first occurrence is matched, and counting goes on behind it. -/
theorem StandsAfter.countMatches_eq (hneedle : needle ≠ [])
    (h : StandsAfter needle (front ++ needle ++ back) front) :
    countMatches needle (front ++ needle ++ back) = 1 + countMatches needle back := by
  induction front with
  | nil =>
    rw [List.nil_append]
    exact countMatches_append hneedle back
  | cons c front ih =>
    have hc := c.utf8Size_pos
    -- the needle does not stand at the beginning, since it does not stand before `front`
    have hnot : ¬ needle.isPrefixOf (c :: (front ++ needle ++ back)) = true := by
      intro hprefix
      have hzero := h.first 0 (occursAt_zero_iff.2 hprefix)
      rw [utf8Length_cons] at hzero
      omega
    have hrest : StandsAfter needle (front ++ needle ++ back) front := by
      refine ⟨⟨back, rfl⟩, ?_⟩
      intro m hm
      have hbehind := h.first _ ((occursAt_cons_iff (by omega)).2 ⟨m, hm, rfl⟩)
      rw [utf8Length_cons] at hbehind
      omega
    have hskip : countMatches needle (c :: (front ++ needle ++ back)) =
        countMatches needle (front ++ needle ++ back) := by
      unfold countMatches
      rw [countMatchesFrom, if_neg hnot]
    rw [List.cons_append, List.cons_append, hskip, ih hrest]

/-! ### How many matches there are -/

/-- Nothing is matched exactly where the needle occurs nowhere. -/
theorem countMatches_eq_zero_iff (hneedle : needle ≠ []) :
    countMatches needle cs = 0 ↔ ∀ n, ¬ OccursAt needle cs n := by
  constructor
  · intro hzero n hn
    obtain ⟨front, hfront⟩ := exists_standsAfter hn
    obtain ⟨back, rfl⟩ := hfront.occurs
    rw [hfront.countMatches_eq hneedle] at hzero
    omega
  · intro hnone
    exact countMatchesFrom_eq_zero hnone 0

/-- **Matched a number of times**: each match is the first occurrence behind the match
    before it, and behind the last one the needle does not occur. -/
inductive MatchedTimes (needle : List Char) : List Char → Nat → Prop
  /-- Nowhere. -/
  | none {cs : List Char} (hnone : ∀ n, ¬ OccursAt needle cs n) : MatchedTimes needle cs 0
  /-- At the first occurrence, and in the text behind it. -/
  | next {front back : List Char} {count : Nat}
      (hfirst : StandsAfter needle (front ++ needle ++ back) front)
      (hback : MatchedTimes needle back count) :
      MatchedTimes needle (front ++ needle ++ back) (count + 1)

/-- **Matches** are counted. -/
theorem matchedTimes_iff {count : Nat} (hneedle : needle ≠ []) :
    MatchedTimes needle cs count ↔ countMatches needle cs = count := by
  constructor
  · intro h
    induction h with
    | none hnone => exact (countMatches_eq_zero_iff hneedle).2 hnone
    | next hfirst _ ih => rw [hfirst.countMatches_eq hneedle, ih, Nat.add_comm]
  · intro hcount
    induction count generalizing cs with
    | zero => exact .none ((countMatches_eq_zero_iff hneedle).1 hcount)
    | succ count ih =>
      obtain ⟨n, hn⟩ := exists_occursAt_of_countMatches (by omega : countMatches needle cs ≠ 0)
      obtain ⟨front, hfront⟩ := exists_standsAfter hn
      obtain ⟨back, rfl⟩ := hfront.occurs
      rw [hfront.countMatches_eq hneedle] at hcount
      exact .next hfront (ih (by omega))

/-- An occurrence behind the first one begins in the text behind it, or before its end. -/
theorem forall_not_occursAt_back_iff :
    (∀ n, ¬ OccursAt needle back n) ↔
      ∀ n, OccursAt needle (front ++ needle ++ back) n →
        n < utf8Length front + utf8Length needle := by
  rw [← utf8Length_append]
  constructor
  · intro hnone n hn
    by_contra hle
    exact hnone _ (hn.of_behind (by omega))
  · intro hall n hn
    have hlt := hall _ (hn.behind (front ++ needle))
    omega

/-- **One match**: a needle is matched once exactly when it occurs and no occurrence begins
    behind the end of the first one. -/
theorem countMatches_eq_one_iff (hneedle : needle ≠ []) :
    countMatches needle cs = 1 ↔
      ∃ front, StandsAfter needle cs front ∧
        ∀ n, OccursAt needle cs n → n < utf8Length front + utf8Length needle := by
  constructor
  · intro hone
    have hmatched : countMatches needle cs ≠ 0 := by omega
    obtain ⟨n, hn⟩ := exists_occursAt_of_countMatches hmatched
    obtain ⟨front, hfront⟩ := exists_standsAfter hn
    obtain ⟨back, rfl⟩ := hfront.occurs
    rw [hfront.countMatches_eq hneedle] at hone
    refine ⟨front, hfront, forall_not_occursAt_back_iff.1 ?_⟩
    exact (countMatches_eq_zero_iff hneedle).1 (by omega)
  · rintro ⟨front, hfront, hall⟩
    obtain ⟨back, rfl⟩ := hfront.occurs
    have hnone := (countMatches_eq_zero_iff hneedle).2 (forall_not_occursAt_back_iff.2 hall)
    rw [hfront.countMatches_eq hneedle, hnone]

/-! ### Words between marks -/

/-- The text of a word between two marks. -/
def marked (mark : Char) (word : List Char) : List Char :=
  mark :: (word ++ [mark])

variable {mark : Char} {word : List Char}

/-- Two marks of a word that share a text overlap in a mark at most: the second occurrence
    is the first one, or it begins at the closing mark. -/
theorem eq_nil_or_closing {start later : List Char} (hword : mark ∉ word)
    (h : marked mark word ++ back = start ++ marked mark word ++ later)
    (hstart : utf8Length start < utf8Length (marked mark word)) :
    start = [] ∨ start = mark :: word ∧ back = word ++ [mark] ++ later := by
  cases start with
  | nil => exact Or.inl rfl
  | cons c start =>
    right
    simp only [marked, List.cons_append, List.append_assoc, List.nil_append,
      List.cons.injEq] at h
    obtain ⟨rfl, h⟩ := h
    have hmark := mark.utf8Size_pos
    simp only [marked, utf8Length_cons, utf8Length_append, utf8Length_nil] at hstart
    have hsame : start = word := by
      rcases List.append_eq_append_iff.1 h with ⟨more, rfl, hmore⟩ | ⟨more, rfl, hmore⟩
      · -- the second occurrence would begin behind the closing mark
        cases more with
        | nil => exact List.append_nil word
        | cons d more =>
          obtain ⟨rfl, -⟩ := List.cons.inj hmore
          simp only [utf8Length_append, utf8Length_cons] at hstart
          omega
      · -- a mark would stand inside the word
        cases more with
        | nil => exact (List.append_nil start).symm
        | cons d more =>
          obtain ⟨rfl, -⟩ := List.cons.inj hmore
          exact absurd (by simp) hword
    subst hsame
    have hback := (List.cons.inj (List.append_cancel_left h)).2
    exact ⟨rfl, by simpa using hback⟩

/-- **Shared mark**: a word without the mark that is matched once between marks occurs once,
    unless its closing mark opens it again. -/
theorem existsUnique_occursAt_marked_iff (hword : mark ∉ word)
    (h : countMatches (marked mark word) cs = 1) :
    (∃! n, OccursAt (marked mark word) cs n) ↔
      ∀ n, ¬ OccursAt (marked mark word ++ (word ++ [mark])) cs n := by
  have hmark := mark.utf8Size_pos
  have hmarked : marked mark word ≠ [] := List.cons_ne_nil _ _
  obtain ⟨front, hfront, hall⟩ := (countMatches_eq_one_iff hmarked).1 h
  constructor
  · rintro ⟨first, -, hunique⟩ n ⟨before, later, hcs, rfl⟩
    -- the word stands at the beginning of the longer text, and at its closing mark
    have hopening : OccursAt (marked mark word) cs (utf8Length before) :=
      ⟨before, word ++ [mark] ++ later, by simp [hcs], rfl⟩
    have hclosing : OccursAt (marked mark word) cs (utf8Length (before ++ mark :: word)) :=
      ⟨before ++ mark :: word, later, by simp [hcs, marked], rfl⟩
    have hsame := (hunique _ hopening).trans (hunique _ hclosing).symm
    simp only [utf8Length_append, utf8Length_cons] at hsame
    omega
  · intro hnone
    refine ⟨_, hfront.occursAt, ?_⟩
    rintro _ ⟨start, later, hcs, rfl⟩
    have hlow := hfront.first _ ⟨start, later, hcs, rfl⟩
    have hhigh := hall _ ⟨start, later, hcs, rfl⟩
    obtain ⟨back, hback⟩ := hfront.occurs
    -- the other occurrence begins inside the first one
    rw [hback, List.append_assoc, List.append_assoc] at hcs
    obtain ⟨inner, rfl, hinner⟩ := exists_append_of_le hcs hlow
    rw [← List.append_assoc] at hinner
    rw [utf8Length_append] at hhigh
    rcases eq_nil_or_closing hword hinner (by omega) with rfl | ⟨rfl, rfl⟩
    · simp
    · exact absurd ⟨front, later, by simp [hback], rfl⟩ (hnone (utf8Length front))

end MapAudit.Text
