import MapAudit.Proofs.Json.Written
import Mathlib.Algebra.Order.Group.Nat

/-! # Reading what was written over several lines

    Line breaks and indentation stand between tokens only. So a value that is written with
    one item per line is read as the same tokens as one that is written on one line, and comes
    back as it was.

    A reader that also asks that the value is sound takes it if arrays and objects are not
    nested too deep and all numbers are finite, as the natural numbers of a 64-bit word are.
-/

namespace MapAudit.Json

variable {v : Json} {rest : List Char} {level : Nat}

/-! ### Indentation -/

theorem readAll_blanks {cs : List Char} (h : ∀ c ∈ cs, c = ' ' ∨ c = '\n') :
    readAll .gap cs = some (.gap, []) := by
  induction cs with
  | nil => rfl
  | cons c cs ih =>
    have hcs : readAll .gap cs = some (.gap, []) := ih fun d hd => h d (List.mem_cons_of_mem c hd)
    have hc : readAll .gap [c] = some (.gap, []) := by
      rcases h c List.mem_cons_self with rfl | rfl <;> rfl
    exact readAll_append hc hcs

/-- **Indentation** is no token. -/
theorem lexes_newLine (level : Nat) (rest : List Char) : Lexes (newLine level) [] rest := by
  refine .of_readAll (readAll_blanks ?_)
  intro c hc
  rcases List.mem_cons.1 hc with rfl | hspace
  · exact .inr rfl
  · exact .inl (List.eq_of_mem_replicate hspace)

/-! ### Items and members -/

theorem prettyItems_eq (level : Nat) (items : List Json) :
    prettyItems level items =
      [','].intercalate (items.map fun v => newLine level ++ prettyText level v) :=
  eq_intercalate (by rw [prettyItems]) (fun _ => by rw [prettyItems])
    (fun _ _ _ => by rw [prettyItems]) items

theorem prettyMembers_eq (level : Nat) (members : List (String × Json)) :
    prettyMembers level members =
      [','].intercalate (members.map fun m => newLine level ++ prettyMember level m) :=
  eq_intercalate (by rw [prettyMembers]) (fun _ => by rw [prettyMembers])
    (fun _ _ _ => by rw [prettyMembers]) members

namespace Lexes

theorem prettyItems {items : List Json}
    (h : ∀ v ∈ items, ∀ rest, EndsNumber rest → Lexes (prettyText level v) (tokensOf v) rest)
    (hrest : EndsNumber rest) : Lexes (prettyItems level items) (itemTokens items) rest := by
  rw [prettyItems_eq, itemTokens_eq]
  refine separated ?_ hrest
  intro v hv rest hrest
  exact append (lexes_newLine level _) (h v hv rest hrest)

theorem prettyMembers {members : List (String × Json)}
    (h : ∀ m ∈ members, ∀ rest, EndsNumber rest →
      Lexes (prettyText level m.2) (tokensOf m.2) rest)
    (hrest : EndsNumber rest) :
    Lexes (prettyMembers level members) (memberTokens members) rest := by
  have hspace : ∀ rest, Lexes [' '] [] rest := fun _ => of_readAll rfl
  rw [prettyMembers_eq, memberTokens_eq]
  refine separated ?_ hrest
  intro m hm rest hrest
  have hmember : Lexes (stringText m.1 ++ ':' :: ([' '] ++ prettyText level m.2))
      (oneMemberTokens m) rest := member hspace (h m hm rest hrest)
  rw [prettyMember]
  exact append (lexes_newLine level _) hmember

/-- What stands between brackets, with the closing one on a line of its own. -/
theorem bracketed {first last : Char} {opening closing : Token} {text : List Char}
    {tokens : List Token} (hfirst : readAll .gap [first] = some (.gap, [opening]))
    (hlast : readAll .gap [last] = some (.gap, [closing]))
    (h : ∀ rest, EndsNumber rest → Lexes text tokens rest) :
    Lexes (first :: text ++ newLine level ++ [last]) (opening :: tokens ++ [closing]) rest := by
  have hclosed : Lexes (newLine level ++ [last]) [closing] rest :=
    append (lexes_newLine level _) (mark hlast)
  have hinside : Lexes (text ++ (newLine level ++ [last])) (tokens ++ [closing]) rest :=
    append (h _ (.cons _ (by decide))) hclosed
  rw [List.append_assoc, List.cons_append, List.cons_append]
  exact append (mark hfirst) hinside

/-- **Tokens over several lines**: the layout does not matter to the tokens of a value. -/
theorem pretty (h : ReadsBack v) (level : Nat) (rest : List Char) (hrest : EndsNumber rest) :
    Lexes (prettyText level v) (tokensOf v) rest := by
  induction h generalizing level rest with
  | null => simpa only [prettyText, tokensOf] using of_readAll rfl
  | bool b => cases b <;> simpa only [prettyText, tokensOf] using of_readAll rfl
  | nat n =>
    simp only [Json.ofNat, prettyText, tokensOf, atomText]
    exact nat n hrest
  | string s =>
    simp only [prettyText, tokensOf, atomText]
    exact of_readAll (readAll_stringText s)
  | array items _ ih =>
    cases items with
    | nil => simpa only [prettyText, tokensOf, itemTokens] using of_readAll rfl
    | cons v items =>
      simp only [prettyText, tokensOf]
      exact bracketed rfl rfl fun rest hrest =>
        prettyItems (fun w hw rest hrest => ih w hw (level + 1) rest hrest) hrest
  | object members _ ih =>
    cases members with
    | nil => simpa only [prettyText, tokensOf, memberTokens] using of_readAll rfl
    | cons m members =>
      simp only [prettyText, tokensOf]
      exact bracketed rfl rfl fun rest hrest =>
        prettyMembers (fun n hn rest hrest => ih n hn (level + 1) rest hrest) hrest

end Lexes

/-! ### Round trip -/

/-- **Round trip**: what is written over several lines is read back. -/
theorem scan?_pretty (h : ReadsBack v) : scan? v.pretty.toList = some v := by
  have htokens := Lexes.pretty h 0 [] .nil
  have hvalue := Parses.value h [] []
  rw [Lexes, List.append_nil] at htokens
  rw [List.append_nil] at hvalue
  refine scan?_eq_some_iff.2 ⟨tokensOf v, ?_, hvalue⟩
  rw [pretty, String.toList_ofList, tokens?, htokens]
  simp [tokensFrom, readEnd]

/-! ### Finite numbers -/

theorem le_foldl_digits (n : Nat) (digits : List Nat) :
    n ≤ digits.foldl (fun value d => 10 * value + d) n := by
  induction digits generalizing n with
  | nil => exact Nat.le_refl n
  | cons d digits ih =>
    have hmore : n ≤ 10 * n + d := by omega
    exact Nat.le_trans hmore (ih (10 * n + d))

/-- Digits whose number fits into a 64-bit word are all taken. -/
theorem takeDigits_of_lt {digits : List Nat} {n : Nat}
    (h : digits.foldl (fun value d => 10 * value + d) n < 2 ^ 64) :
    takeDigits n digits = (digits.foldl (fun value d => 10 * value + d) n, 0) := by
  induction digits generalizing n with
  | nil => rfl
  | cons d digits ih =>
    have hmore : 10 * n + d < 0x10000000000000000 :=
      Nat.lt_of_le_of_lt (le_foldl_digits _ digits) h
    rw [takeDigits, if_pos hmore]
    exact ih h

/-- Rounding off does not double a number. -/
theorem roundBits_le {n : Nat} (hn : n ≠ 0) : roundBits n ≤ 2 * n := by
  have hunit : 1 <<< (n.log2 - 52) ≤ n := by
    rw [Nat.one_shiftLeft]
    exact Nat.le_trans (Nat.pow_le_pow_right (by decide) (Nat.sub_le _ _)) (Nat.log2_self_le hn)
  have hkept : n / 1 <<< (n.log2 - 52) * 1 <<< (n.log2 - 52) ≤ n := Nat.div_mul_le_self _ _
  unfold roundBits
  dsimp only
  split
  · omega
  · rw [Nat.add_mul]
    omega

/-- **Numbers of a 64-bit word** are finite. -/
theorem isFinite_ofNat {n : Nat} (h : n < 2 ^ 64) : (Number.ofNat n).isFinite = true := by
  have hwhole : takeDigits 0 (digitsOf n) = (n, 0) := by
    have hlt : (digitsOf n).foldl (fun value d => 10 * value + d) 0 < 2 ^ 64 := by
      rwa [foldl_digitsOf]
    rw [takeDigits_of_lt hlt, foldl_digitsOf]
  have hone : roundBits (Nat.pow 10 0) = 1 := by decide
  -- the limit of the numbers is far above any 64-bit word, rounded up
  have hlimit : 2 ^ 65 ≤ 1 <<< 1024 - 1 <<< 970 := by decide
  unfold Number.isFinite
  simp only [Number.ofNat, hwhole, takeDigits]
  split
  · rfl
  · next hzero =>
    have hn : n ≠ 0 := fun hn => hzero (.inl hn)
    have hround := roundBits_le hn
    have hproduct : roundBits n * roundBits (Nat.pow 10 0) < 1 <<< 1024 - 1 <<< 970 := by
      rw [hone]
      omega
    simpa using hproduct

end MapAudit.Json
