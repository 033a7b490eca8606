import MapAudit.Text.Units
import Mathlib.Data.List.Induction

/-! # Measures of text

    Bytes and units of two texts in a row add up, and so do line breaks. The last
    line of a text starts anew at every line break and grows with every other
    character. No text has more units or line breaks than bytes. The bytes of a
    character say where it ends, so texts can be compared by their bytes.

    A cut after some bytes gives two texts whose concatenation is the whole, the
    first of which has just those bytes; there is at most one such cut.
-/

namespace MapAudit.Text

/-! ### Lengths -/

@[simp] theorem utf8Length_nil : utf8Length [] = 0 := rfl

@[simp] theorem utf8Length_cons (c : Char) (cs : List Char) :
    utf8Length (c :: cs) = c.utf8Size + utf8Length cs := rfl

@[simp] theorem utf8Length_append (as bs : List Char) :
    utf8Length (as ++ bs) = utf8Length as + utf8Length bs := by
  induction as with
  | nil => simp
  | cons a as ih => simp [ih, Nat.add_assoc]

@[simp] theorem utf16Length_append (as bs : List Char) :
    utf16Length (as ++ bs) = utf16Length as + utf16Length bs := by
  induction as with
  | nil => simp [utf16Length]
  | cons a as ih => simp [utf16Length, ih, Nat.add_assoc]

/-- Only the empty text has no bytes. -/
theorem utf8Length_pos {cs : List Char} (h : cs ≠ []) : 0 < utf8Length cs := by
  cases cs with
  | nil => exact absurd rfl h
  | cons c cs =>
    have := c.utf8Size_pos
    simp only [utf8Length_cons]
    omega

/-- Of two beginnings of one text, the one with no fewer bytes goes on from the other. -/
theorem exists_append_of_le {as bs cs ds : List Char} (h : as ++ bs = cs ++ ds)
    (hle : utf8Length as ≤ utf8Length cs) : ∃ more, cs = as ++ more ∧ bs = more ++ ds := by
  rcases List.append_eq_append_iff.1 h with ⟨more, hcs, hbs⟩ | ⟨more, has, hds⟩
  · exact ⟨more, hcs, hbs⟩
  · -- the other way round it would have more bytes, unless it is the same
    have hnone : more = [] := by
      by_contra hne
      have hpos := utf8Length_pos hne
      rw [has, utf8Length_append] at hle
      omega
    refine ⟨[], ?_, ?_⟩
    · rw [has, hnone, List.append_nil, List.append_nil]
    · rw [hds, hnone, List.nil_append, List.nil_append]

/-- Two beginnings of one text with the same bytes are the same. -/
theorem eq_of_append_eq_append {as bs cs ds : List Char} (h : as ++ bs = cs ++ ds)
    (hlen : utf8Length as = utf8Length cs) : as = cs := by
  obtain ⟨more, rfl, -⟩ := exists_append_of_le h (Nat.le_of_eq hlen)
  have hnone : more = [] := by
    by_contra hne
    have hpos := utf8Length_pos hne
    rw [utf8Length_append] at hlen
    omega
  rw [hnone, List.append_nil]

/-! ### Bytes -/

@[simp] theorem utf8Bytes_cons (c : Char) (cs : List Char) :
    utf8Bytes (c :: cs) = String.utf8EncodeChar c ++ utf8Bytes cs :=
  List.flatMap_cons

theorem utf8Bytes_append (as bs : List Char) :
    utf8Bytes (as ++ bs) = utf8Bytes as ++ utf8Bytes bs :=
  List.flatMap_append

theorem length_utf8Bytes (cs : List Char) : (utf8Bytes cs).length = utf8Length cs := by
  induction cs with
  | nil => rfl
  | cons c cs ih =>
    rw [utf8Bytes_cons, List.length_append, String.length_utf8EncodeChar, ih, utf8Length_cons]

/-- Of two characters with any bytes behind them, the bytes tell which one is in front. -/
theorem eq_of_utf8EncodeChar_append_eq {c d : Char} {more rest : List UInt8}
    (h : String.utf8EncodeChar c ++ more = String.utf8EncodeChar d ++ rest) : c = d := by
  have hdecode : ∀ (c : Char) (more : List UInt8),
      (String.utf8EncodeChar c ++ more).toByteArray.utf8DecodeChar? 0 = some c := by
    intro c more
    rw [List.toByteArray_append]
    exact ByteArray.utf8DecodeChar?_utf8EncodeChar_append
  have hc := hdecode c more
  rw [h, hdecode d rest] at hc
  exact (Option.some.inj hc).symm

/-- **Prefixes in bytes** are prefixes in characters. -/
theorem prefix_of_utf8Bytes_prefix {as bs : List Char} (h : utf8Bytes as <+: utf8Bytes bs) :
    as <+: bs := by
  induction as generalizing bs with
  | nil => exact List.nil_prefix
  | cons a as ih =>
    obtain ⟨more, hmore⟩ := h
    cases bs with
    | nil =>
      have hnone : String.utf8EncodeChar a = [] := by
        simp only [utf8Bytes_cons, List.append_assoc] at hmore
        exact (List.append_eq_nil_iff.1 hmore).1
      exact absurd hnone String.utf8EncodeChar_ne_nil
    | cons b bs =>
      rw [utf8Bytes_cons, utf8Bytes_cons, List.append_assoc] at hmore
      -- the bytes of a character tell where they end
      obtain rfl := eq_of_utf8EncodeChar_append_eq hmore
      exact List.cons_prefix_cons.2 ⟨rfl, ih ⟨more, List.append_cancel_left hmore⟩⟩

/-! ### Lines -/

@[simp] theorem breaks_append (as bs : List Char) :
    breaks (as ++ bs) = breaks as + breaks bs :=
  List.count_append

@[simp] theorem lastLine_nil : lastLine [] = [] := rfl

/-- A line break starts a new line. -/
@[simp] theorem lastLine_append_break (cs : List Char) : lastLine (cs ++ ['\n']) = [] := by
  simp [lastLine]

/-- Any other character goes on with the line. -/
theorem lastLine_append_of_ne (cs : List Char) {c : Char} (h : c ≠ '\n') :
    lastLine (cs ++ [c]) = lastLine cs ++ [c] := by
  simp [lastLine, h]

theorem lastLine_append_singleton_eq_nil_iff {cs : List Char} {c : Char} :
    lastLine (cs ++ [c]) = [] ↔ c = '\n' := by
  by_cases hc : c = '\n'
  · simp [hc]
  · simp [lastLine_append_of_ne _ hc, hc]

/-- **Whole lines**: the last line is empty in the empty text and behind a line break. -/
theorem lastLine_eq_nil_iff {cs : List Char} :
    lastLine cs = [] ↔ cs = [] ∨ cs.getLast? = some '\n' := by
  rcases List.eq_nil_or_concat cs with rfl | ⟨init, c, rfl⟩
  · simp
  · rw [List.concat_eq_append, lastLine_append_singleton_eq_nil_iff]
    simp

/-- What comes before a line that has begun does not matter to it. -/
theorem lastLine_append_of_lastLine_eq_nil {as : List Char} (h : lastLine as = [])
    (bs : List Char) : lastLine (as ++ bs) = lastLine bs := by
  induction bs using List.reverseRecOn with
  | nil => simp [h]
  | append_singleton bs b ih =>
    rw [← List.append_assoc]
    by_cases hb : b = '\n'
    · rw [hb, lastLine_append_break, lastLine_append_break]
    · rw [lastLine_append_of_ne _ hb, lastLine_append_of_ne _ hb, ih]

/-! ### Bounds -/

/-- No character has more units than bytes. -/
theorem utf16Size_le_utf8Size (c : Char) : utf16Size c ≤ c.utf8Size := by
  have hpos := c.utf8Size_pos
  unfold utf16Size
  split
  · exact hpos
  · next hlarge =>
    -- two units are for characters above the first plane, and these have four bytes
    have hval : 0x10000 ≤ c.val.toNat := Nat.not_lt.1 hlarge
    have habove : ∀ bound : UInt32, bound.toNat < 0x10000 → ¬ c.val ≤ bound := by
      intro bound hbound hle
      have hle' := UInt32.le_iff_toNat_le.1 hle
      omega
    have hfour : c.utf8Size = 4 := by
      rw [Char.utf8Size, if_neg (habove _ (by decide)), if_neg (habove _ (by decide)),
        if_neg (habove _ (by decide))]
    omega

theorem utf16Length_le_utf8Length (cs : List Char) : utf16Length cs ≤ utf8Length cs := by
  induction cs with
  | nil => exact Nat.le_refl 0
  | cons c cs ih => exact Nat.add_le_add (utf16Size_le_utf8Size c) ih

theorem length_le_utf8Length (cs : List Char) : cs.length ≤ utf8Length cs := by
  induction cs with
  | nil => exact Nat.le_refl 0
  | cons c cs ih =>
    have hpos := c.utf8Size_pos
    simp only [List.length_cons, utf8Length_cons]
    omega

/-- There are no more line breaks than bytes. -/
theorem breaks_le_utf8Length (cs : List Char) : breaks cs ≤ utf8Length cs :=
  Nat.le_trans List.count_le_length (length_le_utf8Length cs)

/-- The last line has no more units than the text has bytes. -/
theorem utf16Length_lastLine_le (cs : List Char) :
    utf16Length (lastLine cs) ≤ utf8Length cs := by
  have hsuffix : lastLine cs <:+ cs := by
    have hprefix := List.takeWhile_prefix (l := cs.reverse) (· != '\n')
    simpa [lastLine] using List.reverse_suffix.2 hprefix
  obtain ⟨front, hfront⟩ := hsuffix
  have hlength : utf8Length cs = utf8Length front + utf8Length (lastLine cs) := by
    rw [← utf8Length_append, hfront]
  have hle := utf16Length_le_utf8Length (lastLine cs)
  omega

/-! ### Cuts -/

/-- The cut after the bytes of a beginning is the one at its end. -/
theorem splitAtByte?_append (front back : List Char) :
    splitAtByte? (utf8Length front) (front ++ back) = some (front, back) := by
  induction front with
  | nil => simp [splitAtByte?]
  | cons c front ih =>
    obtain ⟨k, hk⟩ : ∃ k, c.utf8Size + utf8Length front = k + 1 :=
      ⟨c.utf8Size + utf8Length front - 1, by have := c.utf8Size_pos; omega⟩
    have hfits : c.utf8Size ≤ k + 1 := by omega
    have hrest : k + 1 - c.utf8Size = utf8Length front := by omega
    simp only [utf8Length_cons, List.cons_append, hk, splitAtByte?, if_pos hfits, hrest, ih,
      Option.map_some]

/-- **Cut**: there is one after `n` bytes exactly when a beginning has `n` bytes. -/
theorem splitAtByte?_eq_some_iff {n : Nat} {cs front back : List Char} :
    splitAtByte? n cs = some (front, back) ↔ cs = front ++ back ∧ utf8Length front = n := by
  constructor
  · intro h
    induction cs generalizing n front with
    | nil =>
      cases n with
      | zero =>
        simp only [splitAtByte?, Option.some.injEq, Prod.mk.injEq] at h
        obtain ⟨rfl, rfl⟩ := h
        exact ⟨rfl, rfl⟩
      | succ n => simp [splitAtByte?] at h
    | cons c cs ih =>
      cases n with
      | zero =>
        simp only [splitAtByte?, Option.some.injEq, Prod.mk.injEq] at h
        obtain ⟨rfl, rfl⟩ := h
        exact ⟨rfl, rfl⟩
      | succ n =>
        simp only [splitAtByte?] at h
        split at h
        · next hfits =>
          obtain ⟨⟨front', back'⟩, hcut, heq⟩ := Option.map_eq_some_iff.1 h
          obtain ⟨rfl, rfl⟩ := Prod.mk.inj heq
          obtain ⟨rfl, hlen⟩ := ih hcut
          refine ⟨rfl, ?_⟩
          simp only [utf8Length_cons, hlen]
          omega
        · exact absurd h (by simp)
  · rintro ⟨rfl, rfl⟩
    exact splitAtByte?_append front back

end MapAudit.Text
