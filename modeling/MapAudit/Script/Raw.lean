import MapAudit.Text.Lossy

/-! # Raw text

    Scripts work on bytes, not on characters. A raw text holds each byte as the
    character with its number, so that what scripts do can be said in terms of
    characters and still treats every byte alike.
-/

namespace MapAudit

/-- **Raw text**: bytes, each as the character with its number. -/
abbrev Raw := List Char

namespace Raw

/-- The bytes of a text. -/
def ofText (s : String) : Raw :=
  (Text.utf8Bytes s.toList).map fun b => Char.ofNat b.toNat

/-- The raw text of some bytes. -/
def ofBytes (bytes : ByteArray) : Raw :=
  bytes.data.toList.map fun b => Char.ofNat b.toNat

/-- The bytes of a raw text. -/
def toBytes (r : Raw) : ByteArray :=
  ⟨(r.map fun c => UInt8.ofNat c.toNat).toArray⟩

/-- The text that the bytes are read as. -/
def toText (r : Raw) : String :=
  Text.decodeLossy r.toBytes

/-- The lines of a raw text, without their ends. A last line need not be ended. -/
def lines (r : Raw) : List Raw :=
  match r.splitOn '\n' with
  | [] => []
  | l :: rest => if (l :: rest).getLast? = some [] then (l :: rest).dropLast else l :: rest

/-- Lines with their ends. -/
def unlines (ls : List Raw) : Raw :=
  ls.flatMap (· ++ ['\n'])

/-- The number that decimal digits stand for. -/
def toNat? (r : Raw) : Option Nat :=
  if r.isEmpty then none
  else r.foldlM (fun n c => if c.isDigit then some (10 * n + (c.toNat - '0'.toNat)) else none) 0

/-- Whether a raw text does not come after another one in the order of bytes. -/
def isAtMost : Raw → Raw → Bool
  | [], _ => true
  | _ :: _, [] => false
  | a :: as, b :: bs => a.toNat < b.toNat || (a == b && isAtMost as bs)

/-- Raw texts in the order of their bytes. -/
def sort (texts : List Raw) : List Raw :=
  texts.mergeSort isAtMost

/-- The decimal digits of a number. -/
def ofNat (n : Nat) : Raw :=
  Nat.toDigits 10 n

/-- The decimal digits of a whole number. -/
def ofInt (n : Int) : Raw :=
  if n < 0 then '-' :: ofNat n.natAbs else ofNat n.natAbs

/-- Whether a character is an octal digit. -/
def isOctal (c : Char) : Bool :=
  '0' ≤ c && c ≤ '7'

/-- The value of octal digits. -/
def octalValue (r : Raw) : Nat :=
  r.foldl (fun n c => 8 * n + (c.toNat - '0'.toNat)) 0

/-- Whether a character is a hexadecimal digit. -/
def isHex (c : Char) : Bool :=
  c.isDigit || ('a' ≤ c && c ≤ 'f') || ('A' ≤ c && c ≤ 'F')

/-- The value of hexadecimal digits. -/
def hexValue (r : Raw) : Nat :=
  r.foldl (fun n c => 16 * n +
    (if c.isDigit then c.toNat - '0'.toNat else c.toLower.toNat - 'a'.toNat + 10)) 0

/-- The byte with a number. -/
def byteOf (n : Nat) : Char :=
  Char.ofNat (n % 256)

/-- A text as it is written in a program. -/
instance : Coe String Raw where
  coe s := s.toList

/-! ## Wide text

    Where characters count and not bytes, a raw text is taken as a wide one: bytes
    that are the form of a character become that character, and a byte that is no
    part of one becomes a mark, which no text has otherwise. A wide text leads back
    to the raw one.
-/

/-- The number that the mark for a byte is above it. -/
def markOffset : Nat := 0x10FF00

/-- The mark for a byte that is no part of a character. -/
def markOf (byte : Char) : Char :=
  Char.ofNat (markOffset + byte.toNat)

/-- Whether a character stands for a byte that is no part of a character. -/
def isMark (c : Char) : Bool :=
  markOffset + 0x80 ≤ c.toNat

/-- Reads a character whose first byte announced it. -/
def readRest : Text.Lead → Raw → Option (Char × Raw)
  | _, [] => none
  | lead, b :: rest =>
    if lead.low ≤ b.toNat && b.toNat ≤ lead.high then
      let bits := lead.bits * 64 + (b.toNat - 0x80)
      if lead.following ≤ 1 then some (Char.ofNat bits, rest)
      else readRest ⟨lead.following - 1, 0x80, 0xBF, bits⟩ rest
    else none

/-- The first character of a text with more than one byte, and what is after it. -/
def readWide? : Raw → Option (Char × Raw)
  | [] => none
  | b :: rest => (Text.lead? b.toNat).bind fun lead => readRest lead rest

/-- The wide form of a text, at most `n` characters of it. -/
def widenUpTo : (n : Nat) → Raw → List Char
  | 0, _ => []
  | _ + 1, [] => []
  | n + 1, b :: rest =>
    if b.toNat < 0x80 then b :: widenUpTo n rest
    else match readWide? (b :: rest) with
      | some (c, rest) => c :: widenUpTo n rest
      | none => markOf b :: widenUpTo n rest

/-- Whether all bytes of a text are characters by themselves. -/
def isNarrow (r : Raw) : Bool :=
  r.all fun c => c.toNat < 0x80

/-- **Wide form** of a raw text. -/
def widen (r : Raw) : List Char :=
  if isNarrow r then r else widenUpTo r.length r

/-- The bytes of a character of a wide text. -/
def narrowOne (c : Char) : Raw :=
  if c.toNat < 0x80 then [c]
  else if isMark c then [Char.ofNat (c.toNat - markOffset)]
  else (Text.utf8Bytes [c]).map fun b => Char.ofNat b.toNat

/-- The raw text that a wide one stands for. -/
def narrow (w : List Char) : Raw :=
  if isNarrow w then w else w.flatMap narrowOne

/-- A wide text in which bytes that have come together are read as characters. -/
def rejoin (w : List Char) : List Char :=
  if w.any isMark then widen (narrow w) else w

/-- The byte with a number, as part of a wide text. -/
def wideByte (n : Nat) : Char :=
  let c := Char.ofNat (n % 256)
  if c.toNat < 0x80 then c else markOf c

/-- Whether a text is well formed throughout. -/
def isWellFormed (r : Raw) : Bool :=
  isNarrow r || !(widen r).any isMark

/-- The number of characters in a text, with bytes that are no part of one. -/
def wideLength (r : Raw) : Nat :=
  (widen r).length

end Raw

end MapAudit
