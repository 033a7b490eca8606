import MapAudit.Script.Raw

/-! # Escapes

    What follows a backslash says another character: a letter stands for a
    control character, and digits stand for the number of a byte. Which escapes
    there are differs from place to place, so a rule says which ones are meant.
-/

namespace MapAudit.Script

/-- **Escape rule**: which escapes there are. -/
structure EscapeRule where
  /-- The letters and marks that may follow a backslash. -/
  letters : List Char
  /-- Whether up to three octal digits are a number. -/
  hasOctal : Bool
  /-- Whether a zero may stand before the three octal digits. -/
  hasLongOctal : Bool
  /-- Whether hexadecimal digits after an `x` are a number. -/
  hasHex : Bool
  /-- Whether hexadecimal digits after a `u` are the number of a character. -/
  hasUnicode : Bool
  /-- Whether nothing is written after a `c`. -/
  hasEnd : Bool

/-- What an escape says. -/
inductive Escape where
  /-- A text. -/
  | text (r : Raw)
  /-- Nothing more is written. -/
  | ends
  deriving DecidableEq, Repr

namespace Escape

/-- The character that a letter after a backslash stands for. -/
def ofLetter? (c : Char) : Option Char :=
  match c with
  | 'n' => some '\n'
  | 't' => some '\t'
  | 'r' => some '\r'
  | 'a' => some '\x07'
  | 'b' => some '\x08'
  | 'f' => some '\x0c'
  | 'v' => some '\x0b'
  | 'e' | 'E' => some '\x1b'
  | '\\' | '"' | '\x27' | '?' => some c
  | _ => none

/-- The digits at the start of a text, at most `n` of them. -/
def digitRun (isDigit : Char → Bool) (n : Nat) (r : Raw) : Raw :=
  (r.take n).takeWhile isDigit

/-- The bytes of the character with a number: more than one of them where the number is not
    under 128, of which the first says how many they are. -/
def unicodeText (n : Nat) : Raw :=
  let following (place : Nat) : Char := Raw.byteOf (0x80 + n / place % 64)
  if n < 0x80 then [Raw.byteOf n]
  else if n < 0x800 then [Raw.byteOf (0xC0 + n / 64), following 1]
  else if n < 0x10000 then [Raw.byteOf (0xE0 + n / 4096), following 64, following 1]
  else [Raw.byteOf (0xF0 + n / 262144 % 8), following 4096, following 64, following 1]

/-- Reads what follows a backslash. There is no answer where that is no
    escape. -/
def read? (rule : EscapeRule) : Raw → Option (Escape × Raw)
  | [] => none
  | c :: rest =>
    if rule.letters.contains c then
      (ofLetter? c).map fun said => (.text [said], rest)
    else if c = 'c' && rule.hasEnd then some (.ends, rest)
    else if c = '0' && rule.hasLongOctal then
      let digits := digitRun Raw.isOctal 3 rest
      some (.text [Raw.byteOf (Raw.octalValue digits)], rest.drop digits.length)
    else if Raw.isOctal c && rule.hasOctal then
      let digits := digitRun Raw.isOctal 3 (c :: rest)
      some (.text [Raw.byteOf (Raw.octalValue digits)], (c :: rest).drop digits.length)
    else if c = 'x' && rule.hasHex then
      let digits := digitRun Raw.isHex 2 rest
      if digits.isEmpty then none
      else some (.text [Raw.byteOf (Raw.hexValue digits)], rest.drop digits.length)
    else if (c = 'u' || c = 'U') && rule.hasUnicode then
      let digits := digitRun Raw.isHex (if c = 'u' then 4 else 8) rest
      if digits.isEmpty then none
      else some (.text (unicodeText (Raw.hexValue digits)), rest.drop digits.length)
    else none

end Escape

namespace EscapeRule

/-- The letters that every rule has. -/
def commonLetters : List Char :=
  ['n', 't', 'r', 'a', 'b', 'f', 'v', '\\']

/-- Resolves the escapes of a text in at most `n` steps. The answer also says
    whether nothing more is to be written. -/
def resolveUpTo (rule : EscapeRule) : (n : Nat) → (done : Raw) → Raw → Raw × Bool
  | 0, done, _ => (done.reverse, false)
  | _ + 1, done, [] => (done.reverse, false)
  | n + 1, done, '\\' :: rest =>
    match Escape.read? rule rest with
    | none => resolveUpTo rule n ('\\' :: done) rest
    | some (.ends, _) => (done.reverse, true)
    | some (.text r, rest) => resolveUpTo rule n (r.reverse ++ done) rest
  | n + 1, done, c :: rest => resolveUpTo rule n (c :: done) rest

/-- Resolves the escapes of a text, and says whether nothing more is to be
    written. -/
def resolve (rule : EscapeRule) (r : Raw) : Raw × Bool :=
  resolveUpTo rule (r.length + 1) [] r

end EscapeRule

end MapAudit.Script
