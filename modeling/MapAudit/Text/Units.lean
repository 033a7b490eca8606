/-! # Measuring text

    A text is a list of characters. Its length is counted in three ways:

    * **bytes** of its UTF-8 form, in which offsets are given;
    * **units** of its UTF-16 form, in which columns are given;
    * **line breaks**, in which lines are given.

    An offset is *valid* in a text when it falls between two characters (or at
    an end). `splitAtByte?` is defined exactly at the valid offsets.
-/

namespace MapAudit.Text

/-- Number of bytes of a text in UTF-8. -/
def utf8Length : List Char → Nat
  | [] => 0
  | c :: cs => c.utf8Size + utf8Length cs

/-- Number of UTF-16 units of a character: two outside the basic plane. -/
def utf16Size (c : Char) : Nat :=
  if c.toNat < 0x10000 then 1 else 2

/-- Number of UTF-16 units of a text. -/
def utf16Length : List Char → Nat
  | [] => 0
  | c :: cs => utf16Size c + utf16Length cs

/-- Number of line breaks in a text. -/
def breaks (cs : List Char) : Nat :=
  cs.count '\n'

/-- The part of a text after its last line break. -/
def lastLine (cs : List Char) : List Char :=
  (cs.reverse.takeWhile (· != '\n')).reverse

/-- Cuts a text after its first `n` bytes. There is no cut past the end of
    the text or inside a character. -/
def splitAtByte? : Nat → List Char → Option (List Char × List Char)
  | 0, cs => some ([], cs)
  | _ + 1, [] => none
  | n + 1, c :: cs =>
    if c.utf8Size ≤ n + 1 then
      (splitAtByte? (n + 1 - c.utf8Size) cs).map fun (front, back) => (c :: front, back)
    else
      none

/-- The bytes of a text in UTF-8. -/
def utf8Bytes (cs : List Char) : List UInt8 :=
  cs.flatMap String.utf8EncodeChar

end MapAudit.Text
