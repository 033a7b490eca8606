/-! # Numbers and words in a text

    A number is written in its decimal digits, and other characters stand around it. So a
    number that is followed by something else can be read back, and numbers that are written
    alike are the same. A word ends at a blank: the last word of a text can be told from the
    rest, whatever words the rest has in it.
-/

namespace MapAudit.Text

variable {a b s t cs : List Char} {m n : Nat} {c : Char}

/-! ### Digits -/

theorem toList_toString (n : Nat) : (toString n).toList = Nat.toDigits 10 n := by
  rw [Nat.toString_eq_repr, Nat.toList_repr]

theorem isDigit_of_mem_digits (h : c ∈ Nat.toDigits 10 n) : c.isDigit = true :=
  Nat.isDigit_of_mem_toDigits (by decide) (by decide) h

theorem not_mem_digits (hc : c.isDigit = false) (n : Nat) : c ∉ Nat.toDigits 10 n := by
  intro h
  rw [isDigit_of_mem_digits h] at hc
  exact absurd hc nofun

theorem digits_inj : Nat.toDigits 10 m = Nat.toDigits 10 n ↔ m = n := by
  constructor
  · intro h
    rw [← Nat.ofDigitChars_ten_toDigits (n := m), h, Nat.ofDigitChars_ten_toDigits]
  · rintro rfl
    rfl

/-! ### Numbers -/

/-- The numbers in the rest of a text, of which one may have begun. -/
def numbersFrom (begun : Option Nat) : List Char → List Nat
  | [] => begun.toList
  | c :: cs =>
    if c.isDigit then numbersFrom (some (10 * begun.getD 0 + (c.toNat - '0'.toNat))) cs
    else begun.toList ++ numbersFrom none cs

/-- **Numbers in a text**, in decimal digits. A number goes on as long as digits come. -/
def numbers (cs : List Char) : List Nat :=
  numbersFrom none cs

theorem numbersFrom_digits (h : ∀ c ∈ cs, c.isDigit = true) (rest : List Char) :
    numbersFrom (some n) (cs ++ rest) = numbersFrom (some (Nat.ofDigitChars 10 cs n)) rest := by
  induction cs generalizing n with
  | nil => rfl
  | cons c cs ih =>
    have hc : c.isDigit = true := h c List.mem_cons_self
    have hcs := ih (n := 10 * n + (c.toNat - '0'.toNat)) fun d hd => h d (List.mem_cons_of_mem c hd)
    rw [List.cons_append, numbersFrom, if_pos hc]
    exact hcs

/-- A number ends where something else comes. -/
theorem numbersFrom_decimal (n : Nat) (hc : c.isDigit = false) (rest : List Char) :
    numbersFrom none (Nat.toDigits 10 n ++ c :: rest) = n :: numbersFrom none rest := by
  have hdigits : numbersFrom none (Nat.toDigits 10 n ++ c :: rest) =
      numbersFrom (some n) (c :: rest) := by
    have hvalue : Nat.ofDigitChars 10 (Nat.toDigits 10 n) 0 = n := Nat.ofDigitChars_ten_toDigits
    -- a number begins with its first digit
    obtain ⟨d, later, hd⟩ := List.exists_cons_of_ne_nil (Nat.toDigits_ne_nil (n := n) (b := 10))
    have hfirst := numbersFrom_digits (n := 0) (fun c hc => isDigit_of_mem_digits (n := n) hc)
      (c :: rest)
    have hdigit : d.isDigit = true := isDigit_of_mem_digits (hd ▸ List.mem_cons_self)
    rw [hvalue] at hfirst
    rw [← hfirst, hd]
    simp only [List.cons_append, numbersFrom, if_pos hdigit]
    rfl
  rw [hdigits, numbersFrom, if_neg (by rw [hc]; exact Bool.false_ne_true)]
  rfl

theorem numbersFrom_without (h : cs.any Char.isDigit = false) (rest : List Char) :
    numbersFrom none (cs ++ rest) = numbersFrom none rest := by
  induction cs with
  | nil => rfl
  | cons c cs ih =>
    rw [List.any_cons, Bool.or_eq_false_iff] at h
    rw [List.cons_append, numbersFrom, if_neg (Bool.not_eq_true _ ▸ h.1)]
    exact ih h.2

/-! ### Words behind a blank -/

/-- A text with one more word behind it. -/
def spaced (front word : List Char) : List Char :=
  front ++ ' ' :: word

/-- **The last word** of a text and what is in front of it are told by the text. -/
theorem spaced_inj (hs : ' ' ∉ s) (ht : ' ' ∉ t) : spaced a s = spaced b t ↔ a = b ∧ s = t := by
  constructor
  · intro h
    rcases List.append_eq_append_iff.1 h with ⟨more, rfl, hmore⟩ | ⟨more, rfl, hmore⟩
    · cases more with
      | nil => exact ⟨(List.append_nil a).symm, (List.cons.inj hmore).2⟩
      | cons c more =>
        -- the last blank of one text would stand in the last word of the other
        exact absurd (by simp [(List.cons.inj hmore).2]) hs
    · cases more with
      | nil => exact ⟨List.append_nil b, (List.cons.inj hmore).2.symm⟩
      | cons c more => exact absurd (by simp [(List.cons.inj hmore).2]) ht
  · rintro ⟨rfl, rfl⟩
    rfl

end MapAudit.Text
