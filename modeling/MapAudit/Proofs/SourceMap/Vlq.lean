import MapAudit.SourceMap.Vlq
import Mathlib.Tactic.Ring

/-! # Written numbers

    A signed number that fits into a word with its sign is written in digits that give the
    number back. While they are read, the digits that are still to come stand for a number
    that is shifted to its place and added to what has been gathered. A number ends with
    its last digit, so numbers can be written one right after the other.

    Digits are neither commas nor semicolons, so the numbers do not get in the way of what
    separates them.
-/

namespace MapAudit.Vlq

variable {rounds word base shift : Nat} {rest : List UInt8} {n : Int}

/-! ### Digits -/

theorem digit?_digitOf : ∀ d < 64, digit? (digitOf d) = some d := by
  decide

/-- A byte that ends a number. -/
theorem readByte_last {d : Nat} (h : d < 32) : readByte (digitOf d) = (d, false) := by
  have hsame : d % 32 = d := Nat.mod_eq_of_lt h
  have hend : ¬ 32 ≤ d := by omega
  simp only [readByte, digit?_digitOf d (by omega), hsame, hend, decide_false]

/-- A byte after which a number goes on. -/
theorem readByte_more {d : Nat} (h : d < 32) : readByte (digitOf (d + 32)) = (d, true) := by
  have hsame : (d + 32) % 32 = d := by omega
  have hmore : 32 ≤ d + 32 := by omega
  simp only [readByte, digit?_digitOf (d + 32) (by omega), hsame, hmore, decide_true]

/-- **Digit bytes** stand for themselves in a text and separate nothing. -/
def IsDigit (b : UInt8) : Prop :=
  b.toNat < 128 ∧ b ≠ 44 ∧ b ≠ 59

theorem isDigit_digitOf : ∀ d < 64, IsDigit (digitOf d) := by
  unfold IsDigit
  decide

theorem isDigit_of_mem_digitsOf {b : UInt8} (h : b ∈ digitsOf rounds word) : IsDigit b := by
  induction rounds generalizing word with
  | zero =>
    obtain rfl := List.mem_singleton.1 h
    exact isDigit_digitOf _ (by omega)
  | succ rounds ih =>
    rw [digitsOf] at h
    split at h
    · obtain rfl := List.mem_singleton.1 h
      exact isDigit_digitOf _ (by omega)
    · rcases List.mem_cons.1 h with rfl | h
      · exact isDigit_digitOf _ (by omega)
      · exact ih h

theorem isDigit_of_mem_encode {b : UInt8} (h : b ∈ encode n) : IsDigit b :=
  isDigit_of_mem_digitsOf h

theorem encode_ne_nil (n : Int) : encode n ≠ [] := by
  unfold encode
  cases wordOf n with
  | zero => simp [digitsOf]
  | succ word =>
    rw [digitsOf]
    split <;> simp

/-! ### Gathering a word -/

/-- Half of the values of a word. Below it, the highest bit of a word is clear. -/
def halfSize : Nat := 0x8000000000000000

/-- What is not zero is shifted out of a word when it is shifted too far. -/
theorem shift_lt_of_shiftLeft_lt (hword : 0 < word) (h : word <<< shift < halfSize) :
    shift < 64 := by
  rw [Nat.shiftLeft_eq] at h
  apply Nat.lt_of_not_le
  intro hge
  have hpow : 2 ^ 64 ≤ 2 ^ shift := Nat.pow_le_pow_right (by decide) hge
  have hle : 2 ^ shift ≤ word * 2 ^ shift := Nat.le_mul_of_pos_left _ hword
  have hhalf : halfSize < 2 ^ 64 := by decide
  omega

/-- The five lowest bits and the others, each at their place. -/
theorem add_shiftLeft_div (base word shift : Nat) :
    base + (word % 32) <<< shift + (word / 32) <<< (shift + 5) = base + word <<< shift := by
  have hsplit : word % 32 * 2 ^ shift + word / 32 * 2 ^ (shift + 5) = word * 2 ^ shift := by
    calc word % 32 * 2 ^ shift + word / 32 * 2 ^ (shift + 5)
        = (word % 32 + 32 * (word / 32)) * 2 ^ shift := by rw [Nat.pow_add]; ring
      _ = word * 2 ^ shift := by rw [Nat.mod_add_div]
  rw [Nat.shiftLeft_eq, Nat.shiftLeft_eq, Nat.shiftLeft_eq, Nat.add_assoc, hsplit]

theorem numbersFrom_last (hword : word < 32) (hshift : shift < 64)
    (hsmall : base + word <<< shift < halfSize) :
    numbersFrom base shift (digitOf word :: rest) =
      (numbersFrom 0 0 rest).map (signed (base + word <<< shift) :: ·) := by
  have hfits : (base + word <<< shift) % wordSize = base + word <<< shift :=
    Nat.mod_eq_of_lt (Nat.lt_trans hsmall (by decide))
  have hopen : ¬ 64 ≤ shift := by omega
  simp only [numbersFrom, if_neg hopen, readByte_last hword, hfits, Bool.false_eq_true, if_false]
  cases numbersFrom 0 0 rest <;> rfl

/-- **Digits of a word**: they add the word, shifted to its place. -/
theorem numbersFrom_digitsOf (hrounds : word ≤ rounds) (hfirst : word = 0 → shift = 0)
    (hsmall : base + word <<< shift < halfSize) :
    numbersFrom base shift (digitsOf rounds word ++ rest) =
      (numbersFrom 0 0 rest).map (signed (base + word <<< shift) :: ·) := by
  have hshift : shift < 64 := by
    rcases Nat.eq_zero_or_pos word with hzero | hpos
    · have hzero' := hfirst hzero
      omega
    · exact shift_lt_of_shiftLeft_lt hpos (by omega)
  -- what has been gathered and what is still to come always make up the same sum
  induction rounds generalizing word base shift with
  | zero =>
    obtain rfl := Nat.le_zero.1 hrounds
    exact numbersFrom_last (by decide) hshift hsmall
  | succ rounds ih =>
    rw [digitsOf]
    split
    · next hlast => exact numbersFrom_last hlast hshift hsmall
    · next hmore =>
      -- the five lowest bits are gathered, and the others follow five bits further up
      have hopen : ¬ 64 ≤ shift := by omega
      have hsplit := add_shiftLeft_div base word shift
      have hsmall' : base + (word % 32) <<< shift + (word / 32) <<< (shift + 5) < halfSize := by
        rw [hsplit]
        exact hsmall
      have hbase : base + (word % 32) <<< shift < halfSize :=
        Nat.lt_of_le_of_lt (Nat.le_add_right _ _) hsmall'
      have hfits : (base + (word % 32) <<< shift) % wordSize = base + (word % 32) <<< shift :=
        Nat.mod_eq_of_lt (Nat.lt_trans hbase (by decide))
      have hleft : word / 32 ≤ rounds := by omega
      have hpos : 0 < word / 32 := by omega
      have hshift' : shift + 5 < 64 :=
        shift_lt_of_shiftLeft_lt hpos (Nat.lt_of_le_of_lt (Nat.le_add_left _ _) hsmall')
      rw [List.cons_append, numbersFrom, if_neg hopen, readByte_more (Nat.mod_lt word (by decide))]
      simp only [hfits, if_true]
      rw [ih hleft (fun hzero => absurd hzero (by omega)) hsmall' hshift', hsplit]

/-! ### Signed numbers -/

/-- **Small numbers** fit into a word with their sign. -/
def IsSmall (n : Int) : Prop :=
  wordOf n < halfSize

theorem signed_wordOf (h : IsSmall n) : signed (wordOf n) = n := by
  unfold IsSmall halfSize at h
  cases n with
  | ofNat k =>
    simp only [wordOf, signed, wordSize, Int.bmod, Int.ofNat_eq_natCast] at h ⊢
    omega
  | negSucc k =>
    simp only [wordOf, signed, wordSize, Int.bmod] at h ⊢
    omega

/-- The difference of two 32-bit numbers is small. -/
theorem isSmall_sub {a b : Nat} (ha : a < 0x100000000) (hb : b < 0x100000000) :
    IsSmall ((a : Int) - b) := by
  unfold IsSmall halfSize
  rcases Nat.lt_or_ge a b with hlt | hge
  · have hneg : (a : Int) - b = .negSucc (b - a - 1) := by omega
    rw [hneg, wordOf]
    omega
  · have hpos : (a : Int) - b = .ofNat (a - b) := by
      simp only [Int.ofNat_eq_natCast]
      omega
    rw [hpos, wordOf]
    omega

theorem numbersFrom_encode (h : IsSmall n) (rest : List UInt8) :
    numbersFrom 0 0 (encode n ++ rest) = (numbersFrom 0 0 rest).map (n :: ·) := by
  have hword : 0 + wordOf n <<< 0 = wordOf n := by simp
  have hdigits : numbersFrom 0 0 (encode n ++ rest) =
      (numbersFrom 0 0 rest).map (signed (0 + wordOf n <<< 0) :: ·) :=
    numbersFrom_digitsOf (Nat.le_refl _) (fun _ => rfl) (by rw [hword]; exact h)
  rw [hdigits, hword, signed_wordOf h]

/-- **Round trip**: the numbers of a written segment are read back. -/
theorem numbers_flatMap_encode {fields : List Int} (h : ∀ n ∈ fields, IsSmall n) :
    numbers (fields.flatMap encode) = .ok fields := by
  unfold numbers
  induction fields with
  | nil => rfl
  | cons n fields ih =>
    obtain ⟨hn, hfields⟩ := List.forall_mem_cons.1 h
    rw [List.flatMap_cons, numbersFrom_encode hn, ih hfields]
    rfl

end MapAudit.Vlq
