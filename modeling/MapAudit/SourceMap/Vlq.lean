import MapAudit.SourceMap.Error

/-! # Variable-length numbers

    The fields of a segment are signed numbers written in digits of five bits,
    lowest first. A digit also says whether the number goes on. The lowest bit
    of the whole number is its sign and the rest its magnitude.

    A number is gathered in a 64-bit word: bits past the word are lost, and a
    digit that would begin past it is an error.
-/

namespace MapAudit.Vlq

/-- The value of a digit, below sixty-four. -/
def digit? (b : UInt8) : Option Nat :=
  let n := b.toNat
  if 65 ≤ n ∧ n ≤ 90 then some (n - 65)
  else if 97 ≤ n ∧ n ≤ 122 then some (n - 97 + 26)
  else if 48 ≤ n ∧ n ≤ 57 then some (n - 48 + 52)
  else if n = 43 then some 62
  else if n = 47 then some 63
  else none

/-- The digit of a value below sixty-four. -/
def digitOf (n : Nat) : UInt8 :=
  if n < 26 then UInt8.ofNat (n + 65)
  else if n < 52 then UInt8.ofNat (n - 26 + 97)
  else if n < 62 then UInt8.ofNat (n - 52 + 48)
  else if n = 62 then 43
  else 47

/-- What a byte adds to a number: five bits, and whether the number goes on.
    A byte that is no digit counts as five set bits in a number that goes on;
    the delete character has its lowest bit clear. -/
def readByte (b : UInt8) : Nat × Bool :=
  match digit? b with
  | some d => (d % 32, 32 ≤ d)
  | none => (if b = 0x7F then 30 else 31, true)

/-- The number of values of the word that a number is gathered in. -/
def wordSize : Nat := 0x10000000000000000

/-- The signed number that a gathered word stands for. -/
def signed (word : Nat) : Int :=
  let magnitude := Int.bmod word wordSize / 2
  if word % 2 = 1 then -magnitude else magnitude

/-- Reads the numbers of a segment. `word` and `shift` belong to the number
    being gathered. -/
def numbersFrom : (word shift : Nat) → List UInt8 → Except MapError (List Int)
  | word, shift, [] => if word = 0 ∧ shift = 0 then .ok [] else .error .unfinishedNumber
  | word, shift, b :: bytes =>
    if 64 ≤ shift then .error .numberOverflow
    else
      let (bits, more) := readByte b
      let word := (word + bits <<< shift) % wordSize
      if more then numbersFrom word (shift + 5) bytes
      else do return signed word :: (← numbersFrom 0 0 bytes)

/-- **Numbers of a segment**. -/
def numbers (bytes : List UInt8) : Except MapError (List Int) :=
  numbersFrom 0 0 bytes

/-- The digits of a word, lowest first. Every round drops five bits, so as many
    rounds as the word's value are enough. -/
def digitsOf : (rounds word : Nat) → List UInt8
  | 0, word => [digitOf (word % 32)]
  | rounds + 1, word =>
    if word < 32 then [digitOf word]
    else digitOf (word % 32 + 32) :: digitsOf rounds (word / 32)

/-- The word that stands for a signed number. -/
def wordOf : Int → Nat
  | .ofNat n => 2 * n
  | .negSucc n => 2 * (n + 1) + 1

/-- **Written form** of a signed number. -/
def encode (n : Int) : List UInt8 :=
  digitsOf (wordOf n) (wordOf n)

end MapAudit.Vlq
