import MapAudit.Proofs.Text.Units
import MapAudit.Text.Search

/-! # What a search finds

    `find?` finds the least offset at which a needle occurs, and finds one exactly
    when the needle occurs at all. A needle that is matched at least once, without
    overlap, occurs.

    `StandsAfter` names the text before the first occurrence, from which its place
    can be counted.

    A search in the bytes would find the same. No byte inside of a character can be
    the first one of another, so the bytes of a needle stand only where the needle
    does.
-/

namespace MapAudit.Text

variable {needle cs front : List Char} {n : Nat}

/-- **First occurrence**: `needle` stands in `cs` right after `front`, and at no
    earlier offset. -/
structure StandsAfter (needle cs front : List Char) : Prop where
  /-- The needle stands after `front`. -/
  occurs : ∃ back, cs = front ++ needle ++ back
  /-- It stands nowhere before. -/
  first : ∀ n, OccursAt needle cs n → utf8Length front ≤ n

theorem StandsAfter.occursAt (h : StandsAfter needle cs front) :
    OccursAt needle cs (utf8Length front) := by
  obtain ⟨back, hcs⟩ := h.occurs
  exact ⟨front, back, hcs, rfl⟩

/-! ### Occurrences -/

theorem occursAt_zero_iff : OccursAt needle cs 0 ↔ needle.isPrefixOf cs = true := by
  rw [List.isPrefixOf_iff_prefix]
  constructor
  · rintro ⟨front, back, rfl, hlen⟩
    have hfront : front = [] := by
      by_contra hne
      exact absurd hlen (Nat.ne_of_gt (utf8Length_pos hne))
    exact ⟨back, by simp [hfront]⟩
  · rintro ⟨back, rfl⟩
    exact ⟨[], back, by simp, rfl⟩

/-- An occurrence behind the first character is one in the rest of the text. -/
theorem occursAt_cons_iff {c : Char} (hn : n ≠ 0) :
    OccursAt needle (c :: cs) n ↔ ∃ m, OccursAt needle cs m ∧ n = m + c.utf8Size := by
  constructor
  · rintro ⟨front, back, hcs, hlen⟩
    cases front with
    | nil => exact absurd hlen.symm hn
    | cons d front =>
      simp only [List.cons_append, List.cons.injEq] at hcs
      obtain ⟨rfl, hcs⟩ := hcs
      exact ⟨utf8Length front, ⟨front, back, by simpa using hcs, rfl⟩,
        by rw [← hlen, utf8Length_cons, Nat.add_comm]⟩
  · rintro ⟨m, ⟨front, back, rfl, rfl⟩, rfl⟩
    exact ⟨c :: front, back, by simp, by rw [utf8Length_cons, Nat.add_comm]⟩

/-- What occurs in a text occurs behind any other text put in front of it. -/
theorem OccursAt.behind (h : OccursAt needle cs n) (front : List Char) :
    OccursAt needle (front ++ cs) (utf8Length front + n) := by
  obtain ⟨before, back, rfl, rfl⟩ := h
  exact ⟨front ++ before, back, by simp, by simp⟩

/-- An occurrence that does not begin in the text put in front is one in the text
    behind. -/
theorem OccursAt.of_behind (h : OccursAt needle (front ++ cs) n) (hn : utf8Length front ≤ n) :
    OccursAt needle cs (n - utf8Length front) := by
  induction front generalizing n with
  | nil => simpa using h
  | cons c front ih =>
    have hc := c.utf8Size_pos
    simp only [utf8Length_cons] at hn ⊢
    obtain ⟨m, hm, rfl⟩ := (occursAt_cons_iff (by omega)).1 h
    have hrest := ih hm (by omega)
    rwa [show m + c.utf8Size - (c.utf8Size + utf8Length front) = m - utf8Length front by omega]

/-! ### Occurrences in bytes -/

/-- **Occurrence in bytes**: the bytes of `needle` stand among those of `cs` at offset `n`. -/
def OccursInBytes (needle cs : List Char) (n : Nat) : Prop :=
  ∃ front back, utf8Bytes cs = front ++ utf8Bytes needle ++ back ∧ front.length = n

theorem OccursAt.occursInBytes (h : OccursAt needle cs n) : OccursInBytes needle cs n := by
  obtain ⟨front, back, rfl, rfl⟩ := h
  exact ⟨utf8Bytes front, utf8Bytes back, by rw [utf8Bytes_append, utf8Bytes_append],
    length_utf8Bytes front⟩

/-- Only the first byte of a character is one that a character can begin with. -/
theorem not_isUTF8FirstByte_of_split {c : Char} {b : UInt8} {front rest : List UInt8}
    (h : String.utf8EncodeChar c = front ++ b :: rest) (hfront : front ≠ []) :
    ¬ b.IsUTF8FirstByte := by
  intro hfirst
  have hlen : front.length < (String.utf8EncodeChar c).length := by
    rw [h, List.length_append, List.length_cons]
    omega
  have hb : (String.utf8EncodeChar c)[front.length] = b := by
    simp only [h, List.getElem_append_right (Nat.le_refl _), Nat.sub_self, List.getElem_cons_zero]
  have hzero := UInt8.isUTF8FirstByte_getElem_utf8EncodeChar.1 (hb.symm ▸ hfirst)
  exact hfront (List.length_eq_zero_iff.1 hzero)

/-- The bytes of a text begin with one that a character can begin with. -/
theorem exists_first_byte (hne : needle ≠ []) :
    ∃ b more, utf8Bytes needle = b :: more ∧ b.IsUTF8FirstByte := by
  cases needle with
  | nil => exact absurd rfl hne
  | cons d needle =>
    have hfirst := UInt8.isUTF8FirstByte_getElem_zero_utf8EncodeChar (c := d)
    cases hbytes : String.utf8EncodeChar d with
    | nil => exact absurd hbytes String.utf8EncodeChar_ne_nil
    | cons b more =>
      simp only [hbytes, List.getElem_cons_zero] at hfirst
      exact ⟨b, more ++ utf8Bytes needle, by rw [utf8Bytes_cons, hbytes, List.cons_append], hfirst⟩

/-- **Character boundaries**: in bytes, a needle occurs where it does in characters, unless it
    is empty. -/
theorem OccursInBytes.occursAt (h : OccursInBytes needle cs n) (hne : needle ≠ []) :
    OccursAt needle cs n := by
  obtain ⟨b, more, hneedle, hfirst⟩ := exists_first_byte hne
  induction cs generalizing n with
  | nil =>
    obtain ⟨front, back, hbytes, -⟩ := h
    rw [hneedle] at hbytes
    simp [utf8Bytes] at hbytes
  | cons c cs ih =>
    obtain ⟨front, back, hbytes, rfl⟩ := h
    by_cases hfront : front = []
    · -- at the beginning the bytes of the needle are read as characters
      rw [hfront, List.nil_append] at hbytes
      have hprefix : needle <+: c :: cs := prefix_of_utf8Bytes_prefix ⟨back, hbytes.symm⟩
      rw [hfront, List.length_nil]
      exact occursAt_zero_iff.2 (List.isPrefixOf_iff_prefix.2 hprefix)
    · rw [utf8Bytes_cons, List.append_assoc] at hbytes
      rcases List.append_eq_append_iff.1 hbytes with ⟨rest, rfl, hrest⟩ | ⟨rest, hchar, hrest⟩
      · -- behind the first character it is an occurrence in the rest of the text
        have hbehind := ih ⟨rest, back, by rw [hrest, List.append_assoc], rfl⟩
        have hpos := c.utf8Size_pos
        rw [List.length_append, String.length_utf8EncodeChar]
        exact (occursAt_cons_iff (by omega)).2 ⟨rest.length, hbehind, Nat.add_comm _ _⟩
      · cases rest with
        | nil =>
          have hbehind := ih ⟨[], back, by simpa using hrest.symm, rfl⟩
          rw [List.append_nil] at hchar
          have hpos := c.utf8Size_pos
          rw [← hchar, String.length_utf8EncodeChar]
          exact (occursAt_cons_iff (by omega)).2 ⟨0, hbehind, (Nat.zero_add _).symm⟩
        | cons b' rest =>
          -- inside of the first character there is no byte for the needle to begin with
          rw [hneedle, List.cons_append, List.cons_append, List.cons.injEq] at hrest
          obtain ⟨rfl, -⟩ := hrest
          exact absurd hfirst (not_isUTF8FirstByte_of_split hchar hfront)

theorem occursInBytes_iff (hne : needle ≠ []) :
    OccursInBytes needle cs n ↔ OccursAt needle cs n :=
  ⟨fun h => h.occursAt hne, OccursAt.occursInBytes⟩

/-! ### The first occurrence -/

/-- Nothing is found exactly where the needle occurs nowhere. -/
theorem find?_eq_none_iff : find? needle cs = none ↔ ∀ n, ¬ OccursAt needle cs n := by
  induction cs with
  | nil =>
    simp only [find?]
    split
    · next hempty =>
      have h0 : OccursAt needle [] 0 := ⟨[], [], by simp_all, rfl⟩
      exact ⟨fun h => by simp at h, fun h => absurd h0 (h 0)⟩
    · next hne =>
      refine ⟨?_, fun _ => rfl⟩
      intro _ n hn
      obtain ⟨front, back, hcs, -⟩ := hn
      exact hne (by simp_all)
  | cons c cs ih =>
    simp only [find?]
    split
    · next hprefix =>
      exact ⟨fun h => by simp at h, fun h => absurd (occursAt_zero_iff.2 hprefix) (h 0)⟩
    · next hprefix =>
      rw [Option.map_eq_none_iff, ih]
      constructor
      · intro hnone n hn
        -- an occurrence is right here, or one in the rest
        by_cases h0 : n = 0
        · exact hprefix (occursAt_zero_iff.1 (h0 ▸ hn))
        · obtain ⟨m, hm, -⟩ := (occursAt_cons_iff h0).1 hn
          exact hnone m hm
      · intro hnone m hm
        have hc := c.utf8Size_pos
        exact hnone _ ((occursAt_cons_iff (by omega)).2 ⟨m, hm, rfl⟩)

/-- What is found is the offset of an occurrence, and there is none before it. -/
theorem find?_first (h : find? needle cs = some n) :
    OccursAt needle cs n ∧ ∀ m, OccursAt needle cs m → n ≤ m := by
  induction cs generalizing n with
  | nil =>
    simp only [find?] at h
    split at h
    · next hempty =>
      cases h
      exact ⟨⟨[], [], by simp_all, rfl⟩, fun _ _ => Nat.zero_le _⟩
    · exact absurd h (by simp)
  | cons c cs ih =>
    simp only [find?] at h
    split at h
    · next hprefix =>
      cases h
      exact ⟨occursAt_zero_iff.2 hprefix, fun _ _ => Nat.zero_le _⟩
    · next hprefix =>
      obtain ⟨m, hm, rfl⟩ := Option.map_eq_some_iff.1 h
      obtain ⟨hocc, hfirst⟩ := ih hm
      have hc := c.utf8Size_pos
      refine ⟨(occursAt_cons_iff (by omega)).2 ⟨m, hocc, rfl⟩, ?_⟩
      -- an earlier occurrence would be right here, or one in the rest
      intro k hk
      by_cases h0 : k = 0
      · exact absurd (occursAt_zero_iff.1 (h0 ▸ hk)) hprefix
      · obtain ⟨j, hj, rfl⟩ := (occursAt_cons_iff h0).1 hk
        have := hfirst j hj
        omega

/-- **First occurrence found**: a search gives the least offset of an occurrence. -/
theorem find?_eq_some_iff :
    find? needle cs = some n ↔
      OccursAt needle cs n ∧ ∀ m, OccursAt needle cs m → n ≤ m := by
  refine ⟨find?_first, fun ⟨hocc, hfirst⟩ => ?_⟩
  cases hfind : find? needle cs with
  | none => exact absurd hocc (find?_eq_none_iff.1 hfind n)
  | some m =>
    obtain ⟨hm, hleast⟩ := find?_first hfind
    have : m = n := Nat.le_antisymm (hleast n hocc) (hfirst m hm)
    rw [this]

/-- A search finds the first occurrence and the text before it. -/
theorem find?_eq_some_iff_standsAfter :
    find? needle cs = some n ↔ ∃ front, StandsAfter needle cs front ∧ utf8Length front = n := by
  rw [find?_eq_some_iff]
  constructor
  · rintro ⟨⟨front, back, hcs, rfl⟩, hfirst⟩
    exact ⟨front, ⟨⟨back, hcs⟩, hfirst⟩, rfl⟩
  · rintro ⟨front, h, rfl⟩
    exact ⟨h.occursAt, h.first⟩

/-- The text before the first occurrence is the only one of its kind. -/
theorem StandsAfter.unique {front' : List Char} (h : StandsAfter needle cs front)
    (h' : StandsAfter needle cs front') : front = front' := by
  obtain ⟨back, hcs⟩ := h.occurs
  obtain ⟨back', hcs'⟩ := h'.occurs
  have hlen : utf8Length front = utf8Length front' :=
    Nat.le_antisymm (h.first _ h'.occursAt) (h'.first _ h.occursAt)
  have heq : front ++ (needle ++ back) = front' ++ (needle ++ back') := by
    rw [← List.append_assoc, ← hcs, hcs', List.append_assoc]
  exact eq_of_append_eq_append heq hlen

/-- What occurs somewhere has a first occurrence. -/
theorem exists_standsAfter (h : OccursAt needle cs n) : ∃ front, StandsAfter needle cs front := by
  cases hfind : find? needle cs with
  | none => exact absurd h (find?_eq_none_iff.1 hfind n)
  | some m =>
    obtain ⟨front, hfront, -⟩ := find?_eq_some_iff_standsAfter.1 hfind
    exact ⟨front, hfront⟩

/-- **Containment** is occurrence at some offset. -/
theorem contains_iff : contains needle cs = true ↔ ∃ n, OccursAt needle cs n := by
  rw [contains, Option.isSome_iff_ne_none, Ne, find?_eq_none_iff]
  simp only [not_forall, not_not]

/-! ### Matches without overlap -/

/-- Where the needle occurs nowhere, nothing is matched. -/
theorem countMatchesFrom_eq_zero (h : ∀ n, ¬ OccursAt needle cs n) (covered : Nat) :
    countMatchesFrom needle covered cs = 0 := by
  induction cs generalizing covered with
  | nil => cases covered <;> rfl
  | cons c cs ih =>
    have hc := c.utf8Size_pos
    have hrest : ∀ m, ¬ OccursAt needle cs m := fun m hm =>
      h _ ((occursAt_cons_iff (by omega)).2 ⟨m, hm, rfl⟩)
    cases covered with
    | zero =>
      have hprefix : ¬ needle.isPrefixOf (c :: cs) = true := fun hp => h 0 (occursAt_zero_iff.2 hp)
      simp only [countMatchesFrom, if_neg hprefix, ih hrest]
    | succ covered => simp only [countMatchesFrom, ih hrest]

/-- What is matched occurs. -/
theorem exists_occursAt_of_countMatches (h : countMatches needle cs ≠ 0) :
    ∃ n, OccursAt needle cs n := by
  by_contra hnone
  exact h (countMatchesFrom_eq_zero (fun n hn => hnone ⟨n, hn⟩) 0)

end MapAudit.Text
