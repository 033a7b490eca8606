import MapAudit.Json.Printer
import MapAudit.Proofs.Json.Parser

/-! # Reading what was written

    A value that is written on one line is read back as it was, if its numbers are natural
    numbers and everything in it stands for a value.

    The text of a value is read as the tokens of the value, as long as no character comes
    behind it that could belong to a number. The parser then takes these tokens for the
    value, whatever arrays and objects are open around it.

    So a text that begins with the text of a value tells both the value and the rest, and
    what characters a string has in it does not matter. No text of a value has a control
    character.
-/

namespace MapAudit.Json

/-! ### Strings -/

/-- Two beginnings of a text one after the other. -/
theorem readAll_append {r₁ r₂ r₃ : Reading} {a b : List Char} {s t : List Token}
    (ha : readAll r₁ a = some (r₂, s)) (hb : readAll r₂ b = some (r₃, t)) :
    readAll r₁ (a ++ b) = some (r₃, s ++ t) := by
  induction a generalizing r₁ s with
  | nil =>
    obtain ⟨rfl, rfl⟩ := Prod.mk.inj (Option.some.inj ha)
    exact hb
  | cons c a ih =>
    simp only [readAll, Option.bind_eq_bind, Option.bind_eq_some_iff] at ha
    obtain ⟨⟨r, first⟩, hread, ⟨r', later⟩, hlater, hresult⟩ := ha
    obtain ⟨rfl, rfl⟩ := Prod.mk.inj (Option.some.inj hresult)
    simp only [List.cons_append, readAll, hread, ih hlater, Option.bind_eq_bind, Option.bind_some,
      List.append_assoc]
    rfl

/-- The control characters, which are written with their number. -/
theorem readAll_control (done : List Char) {n : Nat} (h : n < 0x20) :
    readAll (.string (some done)) ['\\', 'u', '0', '0', hexDigit (n / 16), hexDigit (n % 16)] =
      some (.string (some (Char.ofNat n :: done)), []) := by
  have hall : ∀ n < 0x20,
      hexValue? (hexDigit (n / 16)) = some (n / 16) ∧
        hexValue? (hexDigit (n % 16)) = some (n % 16) := by
    decide
  obtain ⟨hhigh, hlow⟩ := hall n h
  have hzero : hexValue? '0' = some 0 := by decide
  have hvalue : 16 * (n / 16) + n % 16 = n := Nat.div_add_mod n 16
  have hunit : readUnit (some done) none n = .string (some (Char.ofNat n :: done)) := by
    have hbelow : ¬ (0xD800 ≤ n ∧ n < 0xDC00) := by omega
    have hbelow' : ¬ (0xDC00 ≤ n ∧ n < 0xE000) := by omega
    simp only [readUnit, if_neg hbelow, if_neg hbelow']
  simp [readAll, read, readInString, readEscape, hzero, hhigh, hlow, hvalue, hunit]

/-- **Escaped characters** are read as themselves. -/
theorem readAll_escapedChar (done : List Char) (c : Char) :
    readAll (.string (some done)) (escapedChar c) = some (.string (some (c :: done)), []) := by
  unfold escapedChar
  -- seven characters have a short escape
  iterate 7
    split
    · next hc =>
      subst hc
      rfl
  split
  · next hlow =>
    rw [readAll_control done hlow, Char.ofNat_toNat]
  · next hquote hbackslash _ _ _ _ _ hlow =>
    simp [readAll, read, readInString, hquote, hbackslash, hlow]

theorem readAll_escaped (done cs : List Char) :
    readAll (.string (some done)) (cs.flatMap escapedChar) =
      some (.string (some (cs.reverse ++ done)), []) := by
  induction cs generalizing done with
  | nil => rfl
  | cons c cs ih =>
    rw [List.flatMap_cons, List.reverse_cons, List.append_assoc]
    exact readAll_append (readAll_escapedChar done c) (ih (c :: done))

/-- **Strings** are read back. -/
theorem readAll_stringText (s : String) :
    readAll .gap (stringText s) = some (.gap, [.string (some s)]) := by
  have hopen : readAll .gap ['"'] = some (.string (some []), []) := rfl
  have hclose : readAll (.string (some s.toList.reverse)) ['"'] =
      some (.gap, [.string (some s)]) := by
    simp [readAll, read, readInString]
  have hinside : readAll (.string (some [])) (s.toList.flatMap escapedChar) =
      some (.string (some s.toList.reverse), []) := by
    rw [readAll_escaped, List.append_nil]
  exact readAll_append hopen (readAll_append hinside hclose)

/-! ### Numbers -/

theorem digitsOf_of_lt {n : Nat} (h : n < 10) : digitsOf n = [n] := by
  rw [digitsOf, Nat.toDigits_of_lt_base h, List.map_singleton]
  exact congrArg (· :: []) (Nat.toNat_digitChar_sub_48_of_lt_ten h)

theorem digitsOf_of_le {n : Nat} (h : 10 ≤ n) : digitsOf n = digitsOf (n / 10) ++ [n % 10] := by
  rw [digitsOf, Nat.toDigits_of_base_le (by decide) h, List.map_append, List.map_singleton]
  exact congrArg (digitsOf (n / 10) ++ [·])
    (Nat.toNat_digitChar_sub_48_of_lt_ten (Nat.mod_lt n (by decide)))

theorem text_ofNat (n : Nat) : (Number.ofNat n).text = (digitsOf n).map hexDigit := by
  simp [Number.text, Number.ofNat]

/-- What has been read after all digits of a natural number. -/
def digitsRead (n : Nat) : PartialNumber :=
  { PartialNumber.start false with
    phase := if n = 0 then .zero else .whole
    whole := (digitsOf n).reverse }

theorem digit?_hexDigit : ∀ d < 10, digit? (hexDigit d) = some d := by
  decide

theorem readAll_digits (n : Nat) :
    readAll .gap ((digitsOf n).map hexDigit) = some (.number (digitsRead n), []) := by
  induction n using Nat.strongRecOn with
  | ind n ih =>
    rcases Nat.lt_or_ge n 10 with hlt | hge
    · -- one digit, after which no other may come if it is zero
      have hall : ∀ n < 10, readInGap (hexDigit n) =
          some (.number { PartialNumber.start false with
            phase := if n = 0 then .zero else .whole, whole := [n] }, []) := by
        decide
      simp [digitsOf_of_lt hlt, digitsRead, readAll, read, hall n hlt]
    · -- the digits of a smaller number, which is not zero, and one more
      have hfirst : n / 10 ≠ 0 := by omega
      have hn : n ≠ 0 := by omega
      have hdigit : digit? (hexDigit (n % 10)) = some (n % 10) :=
        digit?_hexDigit _ (Nat.mod_lt n (by decide))
      have hlast : readAll (.number (digitsRead (n / 10))) [hexDigit (n % 10)] =
          some (.number (digitsRead n), []) := by
        simp [readAll, read, PartialNumber.extend?, hdigit, PartialNumber.addDigit?, digitsRead,
          hfirst, hn, digitsOf_of_le hge]
      rw [digitsOf_of_le hge, List.map_append]
      exact readAll_append (ih (n / 10) (by omega)) hlast

theorem finish?_digitsRead (n : Nat) : (digitsRead n).finish? = some (.ofNat n) := by
  by_cases hn : n = 0 <;>
    simp [digitsRead, hn, PartialNumber.finish?, PartialNumber.start, Number.ofNat]

/-- **End of a number**: no character comes that could belong to a number. -/
def EndsNumber (rest : List Char) : Prop :=
  ∀ c ∈ rest.head?, digit? c = none ∧ c ≠ '.' ∧ c ≠ 'e' ∧ c ≠ 'E'

theorem EndsNumber.nil : EndsNumber [] :=
  fun _ h => absurd h (by simp)

theorem EndsNumber.cons {c : Char} (rest : List Char)
    (h : digit? c = none ∧ c ≠ '.' ∧ c ≠ 'e' ∧ c ≠ 'E') : EndsNumber (c :: rest) := by
  intro d hd
  obtain rfl := Option.some.inj hd
  exact h

theorem extend?_digitsRead {n : Nat} {c : Char}
    (h : digit? c = none ∧ c ≠ '.' ∧ c ≠ 'e' ∧ c ≠ 'E') : (digitsRead n).extend? c = none := by
  obtain ⟨hdigit, hpoint, hlower, hupper⟩ := h
  by_cases hn : n = 0 <;>
    simp [PartialNumber.extend?, hdigit, PartialNumber.addMark?, digitsRead, hn, hpoint, hlower,
      hupper]

/-! ### Tokens of a value -/

mutual

/-- The tokens that a value is written with. -/
def tokensOf : Json → List Token
  | .unreadable => [.null]
  | .null => [.null]
  | .bool b => [.bool b]
  | .number n => [.number n]
  | .string s => [.string (some s)]
  | .array items => .openArray :: itemTokens items ++ [.closeArray]
  | .object members => .openObject :: memberTokens members ++ [.closeObject]

/-- The tokens of the items of an array. -/
def itemTokens : List Json → List Token
  | [] => []
  | [v] => tokensOf v
  | v :: w :: rest => tokensOf v ++ .comma :: itemTokens (w :: rest)

/-- The tokens of the members of an object. -/
def memberTokens : List (String × Json) → List Token
  | [] => []
  | [m] => oneMemberTokens m
  | m :: n :: rest => oneMemberTokens m ++ .comma :: memberTokens (n :: rest)

/-- The tokens of a key with its value. -/
def oneMemberTokens : String × Json → List Token
  | (k, v) => .string (some k) :: .colon :: tokensOf v

end

/-- **Values that are read back**: natural numbers and everything made of them. -/
inductive ReadsBack : Json → Prop where
  /-- The value `null`. -/
  | null : ReadsBack .null
  /-- A truth value. -/
  | bool (b : Bool) : ReadsBack (.bool b)
  /-- A natural number. -/
  | nat (n : Nat) : ReadsBack (.ofNat n)
  /-- A text. -/
  | string (s : String) : ReadsBack (.string s)
  /-- A list of such values. -/
  | array (items : List Json) (h : ∀ v ∈ items, ReadsBack v) : ReadsBack (.array items)
  /-- Keys with such values. -/
  | object (members : List (String × Json)) (h : ∀ m ∈ members, ReadsBack m.2) :
      ReadsBack (.object members)

theorem readsBack_ofNat? (n : Option Nat) : ReadsBack (ofNat? n) := by
  cases n with
  | none => exact .null
  | some n => exact .nat n

theorem readsBack_ofString? (s : Option String) : ReadsBack (ofString? s) := by
  cases s with
  | none => exact .null
  | some s => exact .string s

/-! ### Commas between items -/

/-- Lists that are written one after another with a mark between them. -/
theorem eq_intercalate {α β : Type} {f : List α → List β} {g : α → List β} {mark : β}
    (hnil : f [] = []) (hone : ∀ x, f [x] = g x)
    (hmore : ∀ x y rest, f (x :: y :: rest) = g x ++ mark :: f (y :: rest)) (xs : List α) :
    f xs = [mark].intercalate (xs.map g) := by
  induction xs with
  | nil => exact hnil
  | cons x xs ih =>
    cases xs with
    | nil => rw [hone, List.map_singleton, List.intercalate_singleton]
    | cons y rest =>
      rw [hmore, ih]
      simp only [List.map_cons, List.intercalate_cons_cons, List.append_assoc,
        List.singleton_append]

theorem compactItems_eq (items : List Json) :
    compactItems items = [','].intercalate (items.map compactText) :=
  eq_intercalate (by rw [compactItems]) (fun _ => by rw [compactItems])
    (fun _ _ _ => by rw [compactItems]) items

theorem compactMembers_eq (members : List (String × Json)) :
    compactMembers members = [','].intercalate (members.map compactMember) :=
  eq_intercalate (by rw [compactMembers]) (fun _ => by rw [compactMembers])
    (fun _ _ _ => by rw [compactMembers]) members

theorem itemTokens_eq (items : List Json) :
    itemTokens items = [.comma].intercalate (items.map tokensOf) :=
  eq_intercalate (by rw [itemTokens]) (fun _ => by rw [itemTokens])
    (fun _ _ _ => by rw [itemTokens]) items

theorem memberTokens_eq (members : List (String × Json)) :
    memberTokens members = [.comma].intercalate (members.map oneMemberTokens) :=
  eq_intercalate (by rw [memberTokens]) (fun _ => by rw [memberTokens])
    (fun _ _ _ => by rw [memberTokens]) members

/-! ### From characters to tokens -/

/-- A piece of text in front of the rest is read as some tokens. -/
def Lexes (text : List Char) (tokens : List Token) (rest : List Char) : Prop :=
  tokensFrom .gap (text ++ rest) = (tokensFrom .gap rest).map (tokens ++ ·)

namespace Lexes

variable {a b text rest : List Char} {s t tokens : List Token} {v : Json}

theorem nil : Lexes [] [] rest := by
  simp [Lexes]

theorem append (ha : Lexes a s (b ++ rest)) (hb : Lexes b t rest) :
    Lexes (a ++ b) (s ++ t) rest := by
  unfold Lexes at *
  rw [List.append_assoc, ha, hb, Option.map_map]
  simp only [Function.comp_def, List.append_assoc]

/-- Text that comes to its end by itself. -/
theorem of_readAll (h : readAll .gap text = some (.gap, tokens)) : Lexes text tokens rest :=
  tokensFrom_append h

/-- A mark of one character. -/
theorem mark {c : Char} {t : Token} (h : readAll .gap [c] = some (.gap, [t])) :
    Lexes [c] [t] rest :=
  of_readAll h

/-- A natural number, which the rest brings to its end. -/
theorem nat (n : Nat) (hrest : EndsNumber rest) :
    Lexes (Number.ofNat n).text [.number (.ofNat n)] rest := by
  have hend : tokensFrom (.number (digitsRead n)) rest =
      (tokensFrom .gap rest).map (.number (.ofNat n) :: ·) := by
    cases rest with
    | nil => simp [tokensFrom, readEnd, finish?_digitsRead]
    | cons c rest =>
      have hstop : (digitsRead n).extend? c = none := extend?_digitsRead (hrest c rfl)
      simp only [tokensFrom, read, hstop, finish?_digitsRead, Option.bind_eq_bind,
        Option.bind_some]
      -- the character that ends the number is read again between tokens
      cases readInGap c with
      | none => rfl
      | some step =>
        simp only [Option.bind_some, pure]
        cases tokensFrom step.1 rest <;> rfl
  rw [Lexes, text_ofNat, tokensFrom_append (readAll_digits n), hend, Option.map_map]
  rfl

/-- Pieces with commas between them. A comma ends a number in front of it. -/
theorem separated {α : Type} {text : α → List Char} {tokens : α → List Token} {xs : List α}
    (h : ∀ x ∈ xs, ∀ rest, EndsNumber rest → Lexes (text x) (tokens x) rest)
    (hrest : EndsNumber rest) :
    Lexes ([','].intercalate (xs.map text)) ([.comma].intercalate (xs.map tokens)) rest := by
  induction xs with
  | nil => exact nil
  | cons x xs ih =>
    have hx := h x List.mem_cons_self
    have hxs := ih fun y hy => h y (List.mem_cons_of_mem x hy)
    cases xs with
    | nil => simpa using hx rest hrest
    | cons y xs =>
      have hcomma : Lexes (',' :: [','].intercalate ((y :: xs).map text))
          (.comma :: [.comma].intercalate ((y :: xs).map tokens)) rest :=
        append (mark rfl) hxs
      simp only [List.map_cons, List.intercalate_cons_cons, List.append_assoc,
        List.singleton_append] at hcomma ⊢
      exact append (hx _ (.cons _ (by decide))) hcomma

theorem items {items : List Json}
    (h : ∀ v ∈ items, ∀ rest, EndsNumber rest → Lexes (compactText v) (tokensOf v) rest)
    (hrest : EndsNumber rest) : Lexes (compactItems items) (itemTokens items) rest := by
  rw [compactItems_eq, itemTokens_eq]
  exact separated h hrest

/-- A key with its value, whatever blanks stand behind the colon. -/
theorem member {m : String × Json} {blanks : List Char} (hblanks : ∀ rest, Lexes blanks [] rest)
    (h : Lexes text (tokensOf m.2) rest) :
    Lexes (stringText m.1 ++ ':' :: (blanks ++ text)) (oneMemberTokens m) rest := by
  obtain ⟨k, v⟩ := m
  have hvalue : Lexes (blanks ++ text) (tokensOf v) rest := append (hblanks _) h
  have hcolon : Lexes (':' :: (blanks ++ text)) (.colon :: tokensOf v) rest :=
    append (mark rfl) hvalue
  rw [oneMemberTokens]
  exact append (of_readAll (readAll_stringText k)) hcolon

theorem members {members : List (String × Json)}
    (h : ∀ m ∈ members, ∀ rest, EndsNumber rest → Lexes (compactText m.2) (tokensOf m.2) rest)
    (hrest : EndsNumber rest) : Lexes (compactMembers members) (memberTokens members) rest := by
  rw [compactMembers_eq, memberTokens_eq]
  refine separated ?_ hrest
  intro m hm rest hrest
  have hmember : Lexes (stringText m.1 ++ ':' :: ([] ++ compactText m.2)) (oneMemberTokens m) rest :=
    member (fun _ => nil) (h m hm rest hrest)
  rw [compactMember]
  exact hmember

/-- **Tokens of a value** that is read back. -/
theorem value (h : ReadsBack v) (hrest : EndsNumber rest) :
    Lexes (compactText v) (tokensOf v) rest := by
  induction h generalizing rest with
  | null => simpa only [compactText, tokensOf] using of_readAll rfl
  | bool b => cases b <;> simpa only [compactText, tokensOf] using of_readAll rfl
  | nat n =>
    simp only [Json.ofNat, compactText, tokensOf, atomText]
    exact nat n hrest
  | string s =>
    simp only [compactText, tokensOf, atomText]
    exact of_readAll (readAll_stringText s)
  | array elements _ ih =>
    simp only [compactText, tokensOf]
    have hclosed : Lexes (compactItems elements ++ [']']) (itemTokens elements ++ [.closeArray])
        rest :=
      append (items (fun v hv _ => ih v hv) (.cons _ (by decide))) (mark rfl)
    rw [List.cons_append, List.cons_append]
    exact append (mark rfl) hclosed
  | object pairs _ ih =>
    simp only [compactText, tokensOf]
    have hclosed : Lexes (compactMembers pairs ++ ['\x7d'])
        (memberTokens pairs ++ [.closeObject]) rest :=
      append (members (fun m hm _ => ih m hm) (.cons _ (by decide))) (mark rfl)
    rw [List.cons_append, List.cons_append]
    exact append (mark rfl) hclosed

end Lexes

/-! ### From tokens to the value -/

/-- The parser takes some tokens for a value, whatever is open around it. -/
def Parses (tokens : List Token) (v : Json) : Prop :=
  ∀ stack more, (tokens ++ more).foldlM advance (.value stack) =
    more.foldlM advance (.after stack v)

/-- Where an array begins, a value is read as anywhere else. -/
theorem foldlM_firstItem (v : Json) (stack : List Frame) (more : List Token) :
    (tokensOf v ++ more).foldlM advance (.firstItem stack) =
      (tokensOf v ++ more).foldlM advance (.value (.array [] :: stack)) := by
  cases v <;> simp only [tokensOf] <;> rfl

/-- The object of members whose keys are texts. -/
theorem objectOf_named (named : List (String × Json)) :
    objectOf (named.map fun m => (some m.1, m.2)).reverse = .object named := by
  rw [objectOf_eq_object_iff, List.reverse_reverse, List.mapM_map]
  exact List.mapM_pure.trans (congrArg some (List.map_id named))

namespace Parses

variable {v : Json} {items : List Json} {members : List (String × Json)}

theorem items_after (h : ∀ w ∈ v :: items, Parses (tokensOf w) w) (done : List Json)
    (stack : List Frame) (more : List Token) :
    (itemTokens (v :: items) ++ .closeArray :: more).foldlM advance
        (.value (.array done :: stack)) =
      more.foldlM advance (.after stack (.array (done.reverse ++ v :: items))) := by
  induction items generalizing v done with
  | nil =>
    rw [itemTokens, h v List.mem_cons_self, List.foldlM_cons]
    simp [advance]
  | cons w items ih =>
    have hitems : ∀ u ∈ w :: items, Parses (tokensOf u) u :=
      fun u hu => h u (List.mem_cons_of_mem v hu)
    rw [itemTokens, List.append_assoc, h v List.mem_cons_self, List.cons_append,
      List.foldlM_cons]
    have hcomma : advance (.after (.array done :: stack) v) .comma =
        some (.value (.array (v :: done) :: stack)) := rfl
    rw [hcomma, Option.bind_eq_bind, Option.bind_some, ih hitems, List.reverse_cons,
      List.append_assoc, List.singleton_append]

theorem array (h : ∀ w ∈ items, Parses (tokensOf w) w) :
    Parses (tokensOf (.array items)) (.array items) := by
  intro stack more
  have hopen : advance (.value stack) .openArray = some (.firstItem stack) := rfl
  rw [tokensOf, List.cons_append, List.cons_append, List.foldlM_cons, hopen, Option.bind_eq_bind,
    Option.bind_some, List.append_assoc, List.singleton_append]
  cases items with
  | nil => simp only [itemTokens]; rfl
  | cons v items =>
    -- a first item is read as one behind a comma, since it does not close the array
    have hfirst : (itemTokens (v :: items) ++ .closeArray :: more).foldlM advance
        (.firstItem stack) =
        (itemTokens (v :: items) ++ .closeArray :: more).foldlM advance
          (.value (.array [] :: stack)) := by
      cases items with
      | nil => rw [itemTokens, foldlM_firstItem]
      | cons w items => rw [itemTokens, List.append_assoc, foldlM_firstItem]
    rw [hfirst, items_after h]
    rfl

variable {k : String}

theorem members_after (h : ∀ m ∈ (k, v) :: members, Parses (tokensOf m.2) m.2)
    (done : List (String × Json)) (stack : List Frame) (more : List Token) :
    (memberTokens ((k, v) :: members) ++ .closeObject :: more).foldlM advance
        (.key stack (done.map fun m => (some m.1, m.2)).reverse) =
      more.foldlM advance (.after stack (.object (done ++ (k, v) :: members))) := by
  induction members generalizing k v done with
  | nil =>
    have hobject := objectOf_named (done ++ [(k, v)])
    rw [List.map_append, List.map_singleton, List.reverse_append] at hobject
    have hv := h (k, v) List.mem_cons_self
    simp only [memberTokens, oneMemberTokens, List.cons_append, List.foldlM_cons, advance,
      Option.bind_eq_bind, Option.bind_some, hv _ _]
    rw [← hobject]
    rfl
  | cons m members ih =>
    have hmembers : ∀ n ∈ m :: members, Parses (tokensOf n.2) n.2 :=
      fun n hn => h n (List.mem_cons_of_mem _ hn)
    have hv := h (k, v) List.mem_cons_self
    -- the first member joins those that are done
    have hdone := ih hmembers (done ++ [(k, v)])
    rw [List.map_append, List.map_singleton, List.reverse_append, List.append_assoc] at hdone
    rw [List.singleton_append] at hdone
    rw [← hdone]
    simp only [memberTokens, oneMemberTokens, List.cons_append, List.append_assoc,
      List.foldlM_cons, advance, Option.bind_eq_bind, Option.bind_some, hv _ _]
    rfl

theorem object (h : ∀ m ∈ members, Parses (tokensOf m.2) m.2) :
    Parses (tokensOf (.object members)) (.object members) := by
  intro stack more
  have hopen : advance (.value stack) .openObject = some (.firstKey stack) := rfl
  rw [tokensOf, List.cons_append, List.cons_append, List.foldlM_cons, hopen, Option.bind_eq_bind,
    Option.bind_some, List.append_assoc, List.singleton_append]
  cases members with
  | nil => simp only [memberTokens]; rfl
  | cons m members =>
    -- a first key is read as one behind a comma
    have hfirst : (memberTokens (m :: members) ++ .closeObject :: more).foldlM advance
        (.firstKey stack) =
        (memberTokens (m :: members) ++ .closeObject :: more).foldlM advance (.key stack []) := by
      obtain ⟨k, v⟩ := m
      cases members <;> simp only [memberTokens, oneMemberTokens] <;> rfl
    rw [hfirst]
    exact members_after h [] stack more

/-- **Value of its tokens**. -/
theorem value (h : ReadsBack v) : Parses (tokensOf v) v := by
  induction h with
  | null => intro stack more; simp only [tokensOf]; rfl
  | bool b => intro stack more; simp only [tokensOf]; rfl
  | nat n => intro stack more; simp only [Json.ofNat, tokensOf]; rfl
  | string s => intro stack more; simp only [tokensOf]; rfl
  | array items _ ih => exact array ih
  | object members _ ih => exact object ih

end Parses

/-! ### Round trip -/

/-- **Round trip**: what is written on one line is read back. -/
theorem scan?_compactText {v : Json} (h : ReadsBack v) : scan? (compactText v) = some v := by
  have htokens := Lexes.value h .nil
  have hvalue := Parses.value h [] []
  rw [Lexes, List.append_nil] at htokens
  rw [List.append_nil] at hvalue
  refine scan?_eq_some_iff.2 ⟨tokensOf v, ?_, hvalue⟩
  rw [tokens?, htokens]
  simp [tokensFrom, readEnd]

/-! ### Values in front of a text -/

theorem foldl_digitsOf (n : Nat) :
    (digitsOf n).foldl (fun value d => 10 * value + d) 0 = n := by
  induction n using Nat.strongRecOn with
  | ind n ih =>
    rcases Nat.lt_or_ge n 10 with hlt | hge
    · simp [digitsOf_of_lt hlt]
    · rw [digitsOf_of_le hge, List.foldl_append, ih (n / 10) (by omega)]
      exact Nat.div_add_mod n 10

/-- **Natural numbers** are told by their digits. -/
theorem toNat?_ofNat (n : Nat) : (Number.ofNat n).toNat? = some n := by
  simp [Number.toNat?, Number.ofNat, foldl_digitsOf]

theorem ofNat_injective : Function.Injective Json.ofNat := by
  intro n m h
  have hnumber : (Number.ofNat n).toNat? = (Number.ofNat m).toNat? :=
    congrArg Number.toNat? (Json.number.inj h)
  rw [toNat?_ofNat, toNat?_ofNat] at hnumber
  exact Option.some.inj hnumber

theorem ofNat?_injective : Function.Injective ofNat? := by
  intro n m h
  match n, m, h with
  | none, none, _ => rfl
  | some n, some m, h => rw [ofNat_injective h]

theorem ofString?_injective : Function.Injective ofString? := by
  intro s t h
  match s, t, h with
  | none, none, _ => rfl
  | some s, some t, h => rw [Json.string.inj h]

theorem EndsNumber.of_append {more rest : List Char} (h : EndsNumber (more ++ rest)) :
    EndsNumber more := by
  cases more with
  | nil => exact .nil
  | cons c more => exact .cons more (h c rfl)

/-- The text of a value does not begin the text of another one. -/
theorem eq_of_compactText_append {v w : Json} {more : List Char} (hv : ReadsBack v)
    (hw : ReadsBack w) (hmore : EndsNumber more) (h : compactText w = compactText v ++ more) :
    v = w ∧ more = [] := by
  obtain ⟨tokens, htokens, hrun⟩ := scan?_eq_some_iff.1 (scan?_compactText hw)
  rw [tokens?, h, Lexes.value hv hmore] at htokens
  obtain ⟨later, -, rfl⟩ := Option.map_eq_some_iff.1 htokens
  -- with the first value the parse is complete
  rw [Parses.value hv] at hrun
  obtain ⟨-, rfl⟩ := foldlM_advance_after hrun
  exact ⟨rfl, List.self_eq_append_right.1 h⟩

/-- **Values in front of a text** are told by it, and so is the rest. -/
theorem compactText_append_inj {v w : Json} {rest rest' : List Char} (hv : ReadsBack v)
    (hw : ReadsBack w) (hrest : EndsNumber rest) (hrest' : EndsNumber rest')
    (h : compactText v ++ rest = compactText w ++ rest') : v = w ∧ rest = rest' := by
  rcases List.append_eq_append_iff.1 h with ⟨more, hmore, rfl⟩ | ⟨more, hmore, rfl⟩
  · obtain ⟨rfl, rfl⟩ := eq_of_compactText_append hv hw hrest.of_append hmore
    exact ⟨rfl, rfl⟩
  · obtain ⟨rfl, rfl⟩ := eq_of_compactText_append hw hv hrest'.of_append hmore
    exact ⟨rfl, rfl⟩

/-! ### Control characters -/

/-- **Without controls**: no character is a control character below the space. -/
def WithoutControls (cs : List Char) : Prop :=
  ∀ c ∈ cs, 0x20 ≤ c.toNat

instance (cs : List Char) : Decidable (WithoutControls cs) :=
  List.decidableBAll (fun c : Char => 0x20 ≤ c.toNat) cs

theorem withoutControls_append {a b : List Char} :
    WithoutControls (a ++ b) ↔ WithoutControls a ∧ WithoutControls b :=
  List.forall_mem_append

theorem withoutControls_cons {c : Char} {cs : List Char} :
    WithoutControls (c :: cs) ↔ 0x20 ≤ c.toNat ∧ WithoutControls cs :=
  List.forall_mem_cons

theorem withoutControls_between {c d : Char} {cs : List Char} (hc : 0x20 ≤ c.toNat)
    (hcs : WithoutControls cs) (hd : 0x20 ≤ d.toNat) : WithoutControls (c :: cs ++ [d]) :=
  withoutControls_append.2 ⟨withoutControls_cons.2 ⟨hc, hcs⟩, by simpa [WithoutControls] using hd⟩

theorem le_toNat_hexDigit (n : Nat) : 0x20 ≤ (hexDigit n).toNat := by
  rcases Nat.lt_or_ge n 16 with hlt | hge
  · have hall : ∀ n < 16, 0x20 ≤ (hexDigit n).toNat := by decide
    exact hall n hlt
  · have hstar : hexDigit n = '*' := by
      unfold hexDigit Nat.digitChar
      simp (disch := omega) only [if_neg]
    rw [hstar]
    decide

theorem withoutControls_escapedChar (c : Char) : WithoutControls (escapedChar c) := by
  unfold escapedChar
  iterate 7
    split
    · decide
  split
  · have hescape : WithoutControls ['\\', 'u', '0', '0'] := by decide
    refine withoutControls_append.2 ⟨hescape, ?_⟩
    simp [WithoutControls, le_toNat_hexDigit]
  · next hlow => simpa [WithoutControls] using hlow

theorem withoutControls_stringText (s : String) : WithoutControls (stringText s) := by
  refine withoutControls_between (by decide) ?_ (by decide)
  intro c hc
  obtain ⟨d, -, hd⟩ := List.mem_flatMap.1 hc
  exact withoutControls_escapedChar d c hd

theorem withoutControls_separated {texts : List (List Char)}
    (h : ∀ text ∈ texts, WithoutControls text) : WithoutControls ([','].intercalate texts) := by
  have hcomma : 0x20 ≤ ','.toNat := by decide
  induction texts with
  | nil => simp [WithoutControls]
  | cons text texts ih =>
    have htext := h text List.mem_cons_self
    have htexts := ih fun t ht => h t (List.mem_cons_of_mem text ht)
    cases texts with
    | nil => simpa using htext
    | cons t texts =>
      rw [List.intercalate_cons_cons, List.append_assoc]
      exact withoutControls_append.2 ⟨htext, withoutControls_cons.2 ⟨hcomma, htexts⟩⟩

theorem withoutControls_items {items : List Json}
    (h : ∀ v ∈ items, WithoutControls (compactText v)) : WithoutControls (compactItems items) := by
  rw [compactItems_eq]
  exact withoutControls_separated (List.forall_mem_map.2 h)

theorem withoutControls_members {members : List (String × Json)}
    (h : ∀ m ∈ members, WithoutControls (compactText m.2)) :
    WithoutControls (compactMembers members) := by
  have hcolon : 0x20 ≤ ':'.toNat := by decide
  rw [compactMembers_eq]
  refine withoutControls_separated (List.forall_mem_map.2 ?_)
  intro m hm
  rw [compactMember]
  exact withoutControls_append.2 ⟨withoutControls_stringText m.1,
    withoutControls_cons.2 ⟨hcolon, h m hm⟩⟩

/-- **No control characters** are written on one line. -/
theorem withoutControls_compactText {v : Json} (h : ReadsBack v) :
    WithoutControls (compactText v) := by
  induction h with
  | null => decide
  | bool b => cases b <;> decide
  | nat n =>
    simp only [Json.ofNat, compactText, atomText, text_ofNat]
    intro c hc
    obtain ⟨d, -, rfl⟩ := List.mem_map.1 hc
    exact le_toNat_hexDigit d
  | string s =>
    simp only [compactText, atomText]
    exact withoutControls_stringText s
  | array items _ ih =>
    simp only [compactText]
    exact withoutControls_between (by decide) (withoutControls_items ih) (by decide)
  | object members _ ih =>
    simp only [compactText]
    exact withoutControls_between (by decide) (withoutControls_members ih) (by decide)

end MapAudit.Json
