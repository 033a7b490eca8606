import MapAudit.Json.Basic

/-! # JSON tokens

    The characters of a JSON text are grouped into tokens by an automaton that
    reads them one at a time. A number ends only when a character arrives that
    cannot continue it; that character is then read again between tokens.
-/

namespace MapAudit.Json

/-- **Token** of a JSON text. -/
inductive Token where
  /-- `[` -/
  | openArray
  /-- `]` -/
  | closeArray
  /-- The brace that opens an object. -/
  | openObject
  /-- The brace that closes an object. -/
  | closeObject
  /-- `,` -/
  | comma
  /-- `:` -/
  | colon
  /-- The word `null`. -/
  | null
  /-- The word `true` or `false`. -/
  | bool (b : Bool)
  /-- A number. -/
  | number (n : Number)
  /-- A string, with its escapes resolved. A string with half a character
      stands for no text. -/
  | string (s : Option String)
  deriving DecidableEq, Repr

/-- How far a number literal has been read. -/
inductive NumberPhase where
  /-- After the sign; a digit must follow. -/
  | sign
  /-- After a leading zero; no digit may follow. -/
  | zero
  /-- Among the digits of the whole part. -/
  | whole
  /-- After the point; a digit must follow. -/
  | point
  /-- Among the digits of the fraction. -/
  | fraction
  /-- After the letter of the exponent; a sign or a digit must follow. -/
  | letter
  /-- After the sign of the exponent; a digit must follow. -/
  | exponentSign
  /-- Among the digits of the exponent. -/
  | exponent
  deriving DecidableEq, Repr

/-- A number being read. -/
structure PartialNumber where
  /-- How far it has been read. -/
  phase : NumberPhase
  /-- Whether it is negative. -/
  negative : Bool
  /-- The digits of the whole part so far, last one first. -/
  whole : List Nat
  /-- The digits of the fraction so far, last one first. -/
  fraction : List Nat
  /-- Whether the exponent is negative. -/
  exponentNegative : Bool
  /-- The magnitude of the exponent so far. -/
  exponent : Nat
  deriving DecidableEq, Repr

/-- What the automaton is reading. The characters of a string are kept last
    one first, as long as there is no half character among them. -/
inductive Reading where
  /-- Between two tokens. -/
  | gap
  /-- Inside a word, with the letters that must still come. -/
  | word (next : Char) (rest : List Char) (token : Token)
  /-- Inside a number. -/
  | number (n : PartialNumber)
  /-- Inside a string. -/
  | string (done : Option (List Char))
  /-- In a string, after a backslash. -/
  | escape (done : Option (List Char))
  /-- In a string, among the four digits of a code unit. `high` is the first
      half of a surrogate pair, when one has been read. -/
  | unit (done : Option (List Char)) (high : Option Nat) (missing : Nat) (value : Nat)
  /-- In a string, after the first half of a surrogate pair. -/
  | pairBackslash (done : List Char) (high : Nat)
  /-- In a string, after the backslash that follows the first half of a pair. -/
  | pairLetter (done : List Char) (high : Nat)
  deriving DecidableEq, Repr

/-- The value of a decimal digit. -/
def digit? (c : Char) : Option Nat :=
  if '0' ≤ c ∧ c ≤ '9' then some (c.toNat - '0'.toNat) else none

/-- The value of a hexadecimal digit. -/
def hexValue? (c : Char) : Option Nat :=
  if '0' ≤ c ∧ c ≤ '9' then some (c.toNat - '0'.toNat)
  else if 'a' ≤ c ∧ c ≤ 'f' then some (c.toNat - 'a'.toNat + 10)
  else if 'A' ≤ c ∧ c ≤ 'F' then some (c.toNat - 'A'.toNat + 10)
  else none

namespace PartialNumber

/-- A number of which only the sign is known. -/
def start (negative : Bool) : PartialNumber where
  phase := .sign
  negative := negative
  whole := []
  fraction := []
  exponentNegative := false
  exponent := 0

/-- The greatest exponent that is told from others. No number that is not zero is a
    double with such a one, as no text has so many digits. -/
def greatestExponent : Nat :=
  1000000000000000000

/-- The number with one more digit, where a digit may stand. -/
def addDigit? (n : PartialNumber) (d : Nat) : Option PartialNumber :=
  match n.phase with
  | .sign => some { n with phase := if d = 0 then .zero else .whole, whole := [d] }
  | .zero => none
  | .whole => some { n with whole := d :: n.whole }
  | .point | .fraction => some { n with phase := .fraction, fraction := d :: n.fraction }
  | .letter | .exponentSign | .exponent =>
    some { n with phase := .exponent, exponent := min (10 * n.exponent + d) greatestExponent }

/-- The number with one more character that is no digit, where one may stand. -/
def addMark? (n : PartialNumber) (c : Char) : Option PartialNumber :=
  match n.phase with
  | .zero | .whole =>
    if c = '.' then some { n with phase := .point }
    else if c = 'e' ∨ c = 'E' then some { n with phase := .letter }
    else none
  | .fraction => if c = 'e' ∨ c = 'E' then some { n with phase := .letter } else none
  | .letter =>
    if c = '+' then some { n with phase := .exponentSign }
    else if c = '-' then some { n with phase := .exponentSign, exponentNegative := true }
    else none
  | .sign | .point | .exponentSign | .exponent => none

/-- The number with one more character, if the character continues it. -/
def extend? (n : PartialNumber) (c : Char) : Option PartialNumber :=
  match digit? c with
  | some d => n.addDigit? d
  | none => n.addMark? c

/-- The finished number, when it may end here. -/
def finish? (n : PartialNumber) : Option Number :=
  let number : Number := {
    negative := n.negative
    whole := n.whole.reverse
    fraction := n.fraction.reverse
    exponent :=
      if n.phase = .exponent then
        some (if n.exponentNegative then -(n.exponent : Int) else n.exponent)
      else none }
  match n.phase with
  | .zero | .whole | .fraction | .exponent => some number
  | .sign | .point | .letter | .exponentSign => none

end PartialNumber

/-- Reads one character between tokens: the tokens it completes by itself, and
    what is being read after it. -/
def readInGap (c : Char) : Option (Reading × List Token) :=
  if c = ' ' ∨ c = '\n' ∨ c = '\t' ∨ c = '\r' then some (.gap, [])
  else if c = '[' then some (.gap, [.openArray])
  else if c = ']' then some (.gap, [.closeArray])
  else if c = '\x7b' then some (.gap, [.openObject])
  else if c = '\x7d' then some (.gap, [.closeObject])
  else if c = ',' then some (.gap, [.comma])
  else if c = ':' then some (.gap, [.colon])
  else if c = '"' then some (.string (some []), [])
  else if c = 'n' then some (.word 'u' ['l', 'l'] .null, [])
  else if c = 't' then some (.word 'r' ['u', 'e'] (.bool true), [])
  else if c = 'f' then some (.word 'a' ['l', 's', 'e'] (.bool false), [])
  else if c = '-' then some (.number (.start true), [])
  else ((PartialNumber.start false).extend? c).map fun n => (.number n, [])

/-- The character that a backslash and a letter stand for. -/
def escapeValue? (c : Char) : Option Char :=
  if c = '"' ∨ c = '\\' ∨ c = '/' then some c
  else if c = 'b' then some '\x08'
  else if c = 'f' then some '\x0c'
  else if c = 'n' then some '\n'
  else if c = 'r' then some '\r'
  else if c = 't' then some '\t'
  else none

/-- Takes up a finished code unit: a character, the first half of a pair, or
    the second half that completes one. After a lone half there is no text. -/
def readUnit (done : Option (List Char)) (high : Option Nat) (value : Nat) : Reading :=
  match done, high with
  | none, _ => .string none
  | some cs, none =>
    if 0xD800 ≤ value ∧ value < 0xDC00 then .pairBackslash cs value
    else if 0xDC00 ≤ value ∧ value < 0xE000 then .string none
    else .string (some (Char.ofNat value :: cs))
  | some cs, some high =>
    if 0xDC00 ≤ value ∧ value < 0xE000 then
      .string (some (Char.ofNat (0x10000 + (high - 0xD800) * 0x400 + (value - 0xDC00)) :: cs))
    else .string none

/-- Reads one character of a string. -/
def readInString (done : Option (List Char)) (c : Char) : Option (Reading × List Token) :=
  if c = '"' then some (.gap, [.string (done.map fun cs => String.ofList cs.reverse)])
  else if c = '\\' then some (.escape done, [])
  else if c.toNat < 0x20 then none
  else some (.string (done.map (c :: ·)), [])

/-- Reads the character after a backslash in a string. -/
def readEscape (done : Option (List Char)) (c : Char) : Option (Reading × List Token) :=
  if c = 'u' then some (.unit done none 4 0, [])
  else (escapeValue? c).map fun e => (.string (done.map (e :: ·)), [])

/-- **Automaton step**: reads one character. -/
def read (reading : Reading) (c : Char) : Option (Reading × List Token) :=
  match reading with
  | .gap => readInGap c
  | .word next rest token =>
    if c ≠ next then none
    else match rest with
      | [] => some (.gap, [token])
      | next :: rest => some (.word next rest token, [])
  | .number n =>
    match n.extend? c with
    | some n => some (.number n, [])
    | none => do
      let number ← n.finish?
      let (r, tokens) ← readInGap c
      return (r, .number number :: tokens)
  | .string done => readInString done c
  | .escape done => readEscape done c
  | .unit done high missing value => do
    let value := 16 * value + (← hexValue? c)
    if missing ≤ 1 then return (readUnit done high value, [])
    else return (.unit done high (missing - 1) value, [])
  | .pairBackslash done high =>
    if c = '\\' then some (.pairLetter done high, []) else readInString none c
  | .pairLetter done high =>
    if c = 'u' then some (.unit (some done) (some high) 4 0, []) else readEscape none c

/-- The tokens that the end of the text completes. -/
def readEnd : Reading → Option (List Token)
  | .gap => some []
  | .number n => n.finish?.map fun number => [.number number]
  | _ => none

/-- The tokens of the rest of a text, from what is being read. -/
def tokensFrom : Reading → List Char → Option (List Token)
  | reading, [] => readEnd reading
  | reading, c :: cs => do
    let (reading, tokens) ← read reading c
    return tokens ++ (← tokensFrom reading cs)

/-- The tokens of a text. -/
def tokens? (cs : List Char) : Option (List Token) :=
  tokensFrom .gap cs

end MapAudit.Json
