import MapAudit.Json.Token

/-! # Reading tokens piece by piece

    The tokens of a text are those that its beginning completes, followed by those of the
    rest, read on from where the beginning left off.

    A string that is being read may have more characters in front without anything being
    read differently after it: the same tokens follow, and only the text of the string has
    the characters in front of it.
-/

namespace MapAudit.Json

variable {reading reading' : Reading} {cs : List Char} {tokens : List Token}

/-! ### Beginnings -/

/-- Reads all characters of the beginning of a text: what is being read then, and the
    tokens completed so far. -/
def readAll : Reading → List Char → Option (Reading × List Token)
  | reading, [] => some (reading, [])
  | reading, c :: cs => do
    let (reading, tokens) ← read reading c
    let (reading, later) ← readAll reading cs
    return (reading, tokens ++ later)

/-- **Tokens piece by piece**. -/
theorem tokensFrom_append {front back : List Char}
    (h : readAll reading front = some (reading', tokens)) :
    tokensFrom reading (front ++ back) = (tokensFrom reading' back).map (tokens ++ ·) := by
  induction front generalizing reading tokens with
  | nil =>
    obtain ⟨rfl, rfl⟩ := Prod.mk.inj (Option.some.inj h)
    simp
  | cons c front ih =>
    simp only [readAll, Option.bind_eq_bind, Option.bind_eq_some_iff] at h
    obtain ⟨⟨next, first⟩, hread, ⟨last, later⟩, hlater, hresult⟩ := h
    obtain ⟨rfl, rfl⟩ := Prod.mk.inj (Option.some.inj hresult)
    have hrest : tokensFrom next (front ++ back) = (tokensFrom last back).map (later ++ ·) :=
      ih hlater
    simp only [List.cons_append, tokensFrom, hread, Option.bind_eq_bind, Option.bind_some, hrest]
    cases tokensFrom last back with
    | none => rfl
    | some rest => simp

/-! ### Inside a string -/

/-- What is read is part of a string. -/
def Reading.InString : Reading → Prop
  | .string _ | .escape _ | .unit _ _ _ _ | .pairBackslash _ _ | .pairLetter _ _ => True
  | .gap | .word _ _ _ | .number _ => False

/-- The string that is being read, with more characters in front, last one first. -/
def Reading.behind (base : List Char) : Reading → Reading
  | .string done => .string (done.map (· ++ base))
  | .escape done => .escape (done.map (· ++ base))
  | .unit done high missing value => .unit (done.map (· ++ base)) high missing value
  | .pairBackslash done high => .pairBackslash (done ++ base) high
  | .pairLetter done high => .pairLetter (done ++ base) high
  | .gap => .gap
  | .word next rest token => .word next rest token
  | .number n => .number n

/-- The text of a string with more characters in front, last one first. -/
def textBehind (base : List Char) (s : Option String) : Option String :=
  s.map (String.ofList base.reverse ++ ·)

/-- How reading goes on inside a string, whatever is in front of it: the string ends, or
    nothing is completed and it goes on. -/
inductive GoesOn (reading : Reading) (c : Char) : Reading → List Token → Prop where
  /-- The string ends. -/
  | ends (s : Option String)
      (h : ∀ base, read (reading.behind base) c = some (.gap, [.string (textBehind base s)])) :
      GoesOn reading c .gap [.string s]
  /-- The string goes on. -/
  | inside (next : Reading) (hnext : next.InString)
      (h : ∀ base, read (reading.behind base) c = some (next.behind base, [])) :
      GoesOn reading c next []

theorem goesOn_readInString {done : Option (List Char)} {c : Char}
    (h : readInString done c = some (reading', tokens))
    (hbehind : ∀ base, read (reading.behind base) c = readInString (done.map (· ++ base)) c) :
    GoesOn reading c reading' tokens := by
  unfold readInString at h
  split at h
  · -- the closing quote
    next hc =>
    obtain ⟨rfl, rfl⟩ := Prod.mk.inj (Option.some.inj h)
    refine .ends _ ?_
    intro base
    rw [hbehind, readInString, if_pos hc]
    cases done with
    | none => rfl
    | some cs => simp [textBehind, String.ofList_append]
  · next hc =>
    split at h
    · -- a backslash, and then any other character
      next hc' =>
      obtain ⟨rfl, rfl⟩ := Prod.mk.inj (Option.some.inj h)
      refine .inside _ trivial ?_
      intro base
      rw [hbehind, readInString, if_neg hc, if_pos hc']
      rfl
    · next hc' =>
      split at h
      · exact absurd h (by simp)
      · next hlow =>
        obtain ⟨rfl, rfl⟩ := Prod.mk.inj (Option.some.inj h)
        refine .inside _ trivial ?_
        intro base
        rw [hbehind, readInString, if_neg hc, if_neg hc', if_neg hlow]
        cases done <;> rfl

theorem goesOn_readEscape {done : Option (List Char)} {c : Char}
    (h : readEscape done c = some (reading', tokens))
    (hbehind : ∀ base, read (reading.behind base) c = readEscape (done.map (· ++ base)) c) :
    GoesOn reading c reading' tokens := by
  unfold readEscape at h
  split at h
  · next hc =>
    obtain ⟨rfl, rfl⟩ := Prod.mk.inj (Option.some.inj h)
    refine .inside _ trivial ?_
    intro base
    rw [hbehind, readEscape, if_pos hc]
    rfl
  · next hc =>
    obtain ⟨e, he, hresult⟩ := Option.map_eq_some_iff.1 h
    obtain ⟨rfl, rfl⟩ := Prod.mk.inj hresult
    refine .inside _ trivial ?_
    intro base
    rw [hbehind, readEscape, if_neg hc, he]
    cases done <;> rfl

/-- A finished code unit leaves the string open. -/
theorem readUnit_behind (done : Option (List Char)) (high : Option Nat) (value : Nat) :
    (readUnit done high value).InString ∧
      ∀ base, readUnit (done.map (· ++ base)) high value = (readUnit done high value).behind base := by
  cases done with
  | none => exact ⟨trivial, fun _ => rfl⟩
  | some cs =>
    cases high with
    | none =>
      simp only [readUnit, Option.map_some]
      split
      · exact ⟨trivial, fun _ => rfl⟩
      · split <;> exact ⟨trivial, fun _ => rfl⟩
    | some high =>
      simp only [readUnit, Option.map_some]
      split <;> exact ⟨trivial, fun _ => rfl⟩

/-- **One character of a string**. -/
theorem Reading.InString.goesOn {c : Char} (hstring : reading.InString)
    (h : read reading c = some (reading', tokens)) : GoesOn reading c reading' tokens := by
  cases reading with
  | gap => exact hstring.elim
  | word next rest token => exact hstring.elim
  | number n => exact hstring.elim
  | string done => exact goesOn_readInString h fun _ => rfl
  | escape done => exact goesOn_readEscape h fun _ => rfl
  | unit done high missing value =>
    simp only [read, Option.bind_eq_bind, Option.bind_eq_some_iff] at h
    obtain ⟨d, hd, h⟩ := h
    split at h
    · next hlast =>
      obtain ⟨rfl, rfl⟩ := Prod.mk.inj (Option.some.inj h)
      -- the last digit of a unit: what has been read so far stays in front of it
      obtain ⟨hnext, hbehind⟩ := readUnit_behind done high (16 * value + d)
      refine .inside _ hnext ?_
      intro base
      rw [← hbehind]
      simp only [read, behind, hd, Option.bind_eq_bind, Option.bind_some, if_pos hlast]
      rfl
    · next hmore =>
      obtain ⟨rfl, rfl⟩ := Prod.mk.inj (Option.some.inj h)
      refine .inside _ trivial ?_
      intro base
      simp only [read, behind, hd, Option.bind_eq_bind, Option.bind_some, if_neg hmore]
      rfl
  | pairBackslash done high =>
    by_cases hc : c = '\\'
    · subst hc
      obtain ⟨rfl, rfl⟩ := Prod.mk.inj (Option.some.inj h)
      exact .inside _ trivial fun _ => rfl
    · simp only [read, if_neg hc] at h
      exact goesOn_readInString h fun base => by
        simp only [read, behind, if_neg hc, Option.map_none]
  | pairLetter done high =>
    by_cases hc : c = 'u'
    · subst hc
      obtain ⟨rfl, rfl⟩ := Prod.mk.inj (Option.some.inj h)
      exact .inside _ trivial fun _ => rfl
    · simp only [read, if_neg hc] at h
      exact goesOn_readEscape h fun base => by simp only [read, behind, if_neg hc, Option.map_none]

/-- **Characters in front of a string** are in front of its text, and the tokens after it
    are the same. -/
theorem Reading.InString.tokensFrom_behind (hstring : reading.InString)
    (h : tokensFrom reading cs = some tokens) :
    ∃ s rest, tokens = .string s :: rest ∧
      ∀ base, tokensFrom (reading.behind base) cs = some (.string (textBehind base s) :: rest) := by
  induction cs generalizing reading tokens with
  | nil =>
    -- the text may not end inside the string
    cases reading <;> first | exact hstring.elim | exact absurd h (by simp [tokensFrom, readEnd])
  | cons c cs ih =>
    simp only [tokensFrom, Option.bind_eq_bind, Option.bind_eq_some_iff] at h
    obtain ⟨⟨next, first⟩, hread, later, hlater, hresult⟩ := h
    obtain rfl := Option.some.inj hresult
    cases hstring.goesOn hread with
    | ends s hends =>
      refine ⟨s, later, rfl, ?_⟩
      intro base
      simp only [tokensFrom, hends, hlater, Option.bind_eq_bind, Option.bind_some]
      rfl
    | inside _ hnext hinside =>
      obtain ⟨s, rest, rfl, hbehind⟩ := ih hnext hlater
      refine ⟨s, rest, rfl, ?_⟩
      intro base
      simp only [tokensFrom, hinside, hbehind, Option.bind_eq_bind, Option.bind_some]
      rfl

/-! ### Plain characters -/

/-- **Plain** characters stand for themselves in a string. -/
def IsPlain (c : Char) : Prop :=
  c ≠ '"' ∧ c ≠ '\\' ∧ ¬ c.toNat < 0x20

instance (c : Char) : Decidable (IsPlain c) :=
  inferInstanceAs (Decidable (c ≠ '"' ∧ c ≠ '\\' ∧ ¬ c.toNat < 0x20))

/-- Plain characters become part of the text of a string. -/
theorem tokensFrom_plain {plain : List Char} (h : ∀ c ∈ plain, IsPlain c) (done : List Char) :
    tokensFrom (.string (some done)) (plain ++ cs) =
      tokensFrom (.string (some (plain.reverse ++ done))) cs := by
  induction plain generalizing done with
  | nil => rfl
  | cons c plain ih =>
    obtain ⟨hquote, hbackslash, hlow⟩ := h c List.mem_cons_self
    have hplain : ∀ d ∈ plain, IsPlain d := fun d hd => h d (List.mem_cons_of_mem _ hd)
    have hread : read (.string (some done)) c = some (.string (some (c :: done)), []) := by
      rw [read, readInString, if_neg hquote, if_neg hbackslash, if_neg hlow]
      rfl
    rw [List.cons_append, tokensFrom, hread]
    simp only [Option.bind_eq_bind, Option.bind_some, ih hplain, List.reverse_cons,
      List.append_assoc, List.singleton_append, List.nil_append]
    cases tokensFrom (.string (some (plain.reverse ++ c :: done))) cs <;> rfl

/-- **Plain characters put in** where a string begins are the beginning of its text. -/
theorem tokensFrom_string_plain (h : tokensFrom (.string (some [])) cs = some tokens) :
    ∃ s rest, tokens = .string s :: rest ∧
      ∀ plain, (∀ c ∈ plain, IsPlain c) →
        tokensFrom (.string (some [])) (plain ++ cs) =
          some (.string (s.map (String.ofList plain ++ ·)) :: rest) := by
  have hstring : (Reading.string (some [])).InString := trivial
  obtain ⟨s, rest, rfl, hbehind⟩ := hstring.tokensFrom_behind h
  refine ⟨s, rest, rfl, ?_⟩
  intro plain hplain
  have hreverse := hbehind plain.reverse
  rw [textBehind, List.reverse_reverse] at hreverse
  rw [tokensFrom_plain hplain, List.append_nil]
  exact hreverse

end MapAudit.Json
