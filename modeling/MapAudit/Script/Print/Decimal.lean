import MapAudit.Script.Raw

/-! # Decimal numerals

    Numbers with a fraction are read from decimal numerals, rounded to so many
    binary digits, and written as decimal numerals again. All of this is exact:
    a number is a fraction of whole numbers, and where something is rounded, it
    goes to the nearest candidate and from the middle to the even one.
-/

namespace MapAudit.Script

/-- **Fraction** of whole numbers. The lower one is not zero. -/
structure Fraction where
  /-- The upper number. -/
  top : Nat
  /-- The lower number. -/
  bottom : Nat
  deriving DecidableEq, Repr

/-- **Real numeral**: what a numeral says. -/
inductive Numeral where
  /-- A number, perhaps below zero. -/
  | finite (isNegative : Bool) (value : Fraction)
  /-- More than every number, or less. -/
  | infinite (isNegative : Bool)
  /-- No number. -/
  | undefined
  deriving DecidableEq, Repr

/-- **Precision** of binary numbers. -/
structure Precision where
  /-- How many digits are kept. -/
  digits : Nat
  /-- The exponent of the last digit of the smallest numbers. -/
  lowest : Int
  /-- The exponent that all numbers stay below. -/
  limit : Int

namespace Precision

/-- The precision of numbers of eight bytes. -/
def double : Precision where
  digits := 53
  lowest := -1074
  limit := 1024

/-- The precision of numbers of ten bytes. -/
def extended : Precision where
  digits := 64
  lowest := -16445
  limit := 16384

end Precision

namespace Fraction

/-- The quotient rounded to a whole number. -/
def round (f : Fraction) : Nat :=
  let q := f.top / f.bottom
  let r := f.top % f.bottom
  if f.bottom < 2 * r || (2 * r = f.bottom && q % 2 = 1) then q + 1 else q

/-- A fraction times a power of two. -/
def shift (f : Fraction) (e : Int) : Fraction :=
  if 0 ≤ e then { f with top := f.top <<< e.toNat }
  else { f with bottom := f.bottom <<< (-e).toNat }

/-- A fraction times a power of ten. -/
def scale (f : Fraction) (e : Int) : Fraction :=
  if 0 ≤ e then { f with top := f.top * Nat.pow 10 e.toNat }
  else { f with bottom := f.bottom * Nat.pow 10 (-e).toNat }

/-- The exponent of the last binary digit that is kept. -/
def lastExponent (p : Precision) (f : Fraction) : Int :=
  let guess : Int := (f.top.log2 : Int) - f.bottom.log2 - p.digits
  let shifted := f.shift (-guess)
  let e := if (1 <<< p.digits) ≤ shifted.top / shifted.bottom then guess + 1 else guess
  max e p.lowest

/-- **Rounding** to a precision. There is no answer where the number is too
    large. -/
def rounded? (p : Precision) (f : Fraction) : Option Fraction :=
  if f.top = 0 then some f
  else
    let e := lastExponent p f
    let m := (f.shift (-e)).round
    if p.limit ≤ e + m.log2 then none else some (Fraction.shift ⟨m, 1⟩ e)

/-- The number of decimal digits of a number. -/
def size (n : Nat) : Nat :=
  (Nat.toDigits 10 n).length

/-- The power of ten that the first digit of a number stands for. -/
def order (f : Fraction) : Int :=
  let guess : Int := (size f.top : Int) - size f.bottom
  let scaled := f.scale (-guess)
  if scaled.bottom ≤ scaled.top then guess else guess - 1

/-- The numeral with so many places after the point. The point may stand without
    any. -/
def fixed (places : Nat) (keepsPoint : Bool) (f : Fraction) : Raw :=
  let digits := Raw.ofNat (f.scale places).round
  let digits := List.replicate (places + 1 - digits.length) '0' ++ digits
  let whole := digits.take (digits.length - places)
  if places = 0 then (if keepsPoint then whole ++ ['.'] else whole)
  else whole ++ '.' :: digits.drop whole.length

/-- The first digits of a number, so many after the first one, and the power of
    ten that the first one stands for. -/
def leading (places : Nat) (f : Fraction) : Raw × Int :=
  if f.top = 0 then (List.replicate (places + 1) '0', 0)
  else
    let e := f.order
    let digits := Raw.ofNat (f.scale (places - e)).round
    if digits.length = places + 1 then (digits, e) else (digits.dropLast, e + 1)

/-- Digits with an exponent after them. -/
def withExponent (letter : Char) (keepsPoint : Bool) (digits : Raw) (e : Int) : Raw :=
  let shown := Raw.ofNat e.natAbs
  let mantissa := match digits with
    | [] => []
    | [d] => if keepsPoint then [d, '.'] else [d]
    | d :: rest => d :: '.' :: rest
  mantissa ++ letter :: (if e < 0 then '-' else '+')
    :: (List.replicate (2 - shown.length) '0' ++ shown)

/-- The numeral with one digit before the point and an exponent. -/
def exponential (letter : Char) (places : Nat) (keepsPoint : Bool) (f : Fraction) : Raw :=
  let (digits, e) := f.leading places
  withExponent letter keepsPoint digits e

/-- A numeral without the zeros at its end, where they stand after the point. -/
def dropZeros (r : Raw) : Raw :=
  if r.contains '.' then
    let short := (r.reverse.dropWhile (· == '0')).reverse
    if short.getLast? = some '.' then short.dropLast else short
  else r

/-- The numeral with so many digits in all, with an exponent only where the number
    is very large or very small. -/
def general (letter : Char) (digits : Nat) (keepsZeros : Bool) (f : Fraction) : Raw :=
  let digits := max 1 digits
  let (all, e) := f.leading (digits - 1)
  if e < -4 || (digits : Int) ≤ e then
    let all := if keepsZeros then all
      else match all with
        | [] => []
        | d :: rest => d :: (rest.reverse.dropWhile (· == '0')).reverse
    withExponent letter keepsZeros all e
  else
    let numeral := f.fixed ((digits : Int) - 1 - e).toNat keepsZeros
    if keepsZeros then numeral else dropZeros numeral

end Fraction

namespace Numeral

/-- The rest of a text after a word, in small or capital letters. -/
def afterWord? (word : String) (r : Raw) : Option Raw :=
  let size := word.toList.length
  if (r.take size).map Char.toLower = word.toList then some (r.drop size) else none

/-- The digits before and after a point, and the rest. -/
def digitParts (isDigit : Char → Bool) (r : Raw) : Raw × Raw × Raw :=
  let whole := r.takeWhile isDigit
  match r.drop whole.length with
  | '.' :: rest =>
    let part := rest.takeWhile isDigit
    if whole.isEmpty && part.isEmpty then (whole, [], '.' :: rest)
    else (whole, part, rest.drop part.length)
  | rest => (whole, [], rest)

/-- The exponent after one of two letters, and the rest. -/
def exponentPart (letter : Char) (r : Raw) : Int × Raw :=
  match r with
  | c :: rest =>
    if c.toLower = letter then
      let (sign, digits) : Int × Raw := match rest with
        | '-' :: digits => (-1, digits)
        | '+' :: digits => (1, digits)
        | digits => (1, digits)
      let run := digits.takeWhile Char.isDigit
      match Raw.toNat? run with
      | some n => (sign * (min n 100000 : Nat), digits.drop run.length)
      | none => (0, r)
    else (0, r)
  | [] => (0, [])

/-- The value of digits, those after the point included, times a power of ten. It
    counts as too large or too small outside of what can be told apart. -/
def ofDigits (isNegative : Bool) (whole part : Raw) (e : Int) : Numeral :=
  let digits := (whole ++ part).dropWhile (· == '0')
  let e := e - part.length
  if digits.isEmpty then .finite isNegative ⟨0, 1⟩
  else if 6000 < e + digits.length then .infinite isNegative
  else if e + digits.length < -6000 then .finite isNegative ⟨0, 1⟩
  else .finite isNegative (Fraction.scale ⟨(Raw.toNat? digits).getD 0, 1⟩ e)

/-- Reads a numeral without its sign, and gives the rest. There is no answer where
    nothing can be read. -/
def readUnsigned? (isNegative : Bool) (r : Raw) : Option (Numeral × Raw) :=
  match afterWord? "infinity" r, afterWord? "inf" r, afterWord? "nan" r, afterWord? "0x" r with
  | some rest, _, _, _ | none, some rest, _, _ => some (.infinite isNegative, rest)
  | none, none, some rest, _ => some (.undefined, rest)
  | none, none, none, some rest =>
    match digitParts Raw.isHex rest with
    | ([], [], _) => some (.finite isNegative ⟨0, 1⟩, r.drop 1)
    | (whole, part, rest) =>
      let (e, rest) := exponentPart 'p' rest
      some (.finite isNegative
        (Fraction.shift ⟨Raw.hexValue (whole ++ part), 1⟩ (e - 4 * part.length)), rest)
  | none, none, none, none =>
    match digitParts Char.isDigit r with
    | ([], [], _) => none
    | (whole, part, rest) =>
      let (e, rest) := exponentPart 'e' rest
      some (ofDigits isNegative whole part e, rest)

/-- Reads a numeral after blanks, and gives the rest. There is no answer where
    nothing can be read. -/
def read? (r : Raw) : Option (Numeral × Raw) :=
  match r.dropWhile fun c => c == ' ' || ('\t' ≤ c && c ≤ '\x0d') with
  | '-' :: rest => readUnsigned? true rest
  | '+' :: rest => readUnsigned? false rest
  | rest => readUnsigned? false rest

/-- A numeral rounded to a precision. -/
def rounded (p : Precision) : Numeral → Numeral
  | .finite isNegative f =>
    match f.rounded? p with
    | some f => .finite isNegative f
    | none => .infinite isNegative
  | n => n

/-- Whether a numeral is marked as below zero. -/
def isNegative : Numeral → Bool
  | .finite b _ | .infinite b => b
  | .undefined => false

end Numeral

end MapAudit.Script
