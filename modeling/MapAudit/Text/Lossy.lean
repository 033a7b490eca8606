import MapAudit.Text.Units

/-! # Reading bytes as text

    `decodeUtf8?` reads bytes that are well-formed UTF-8. `decodeLossy` reads any
    bytes: each longest piece that could begin a character but does not
    complete one becomes a single replacement character.
-/

namespace MapAudit.Text

/-- The text whose UTF-8 form is `bytes`, if there is one. -/
def decodeUtf8? (bytes : ByteArray) : Option String :=
  String.fromUTF8? bytes

/-- The character that stands for bytes that are no text. -/
def replacement : Char := '\uFFFD'

/-- What a lead byte announces: the number of bytes that follow it, the range
    allowed for the first of these, and the bits the lead byte contributes. -/
structure Lead where
  /-- Number of continuation bytes. -/
  following : Nat
  /-- Least value of the next byte. -/
  low : Nat
  /-- Greatest value of the next byte. -/
  high : Nat
  /-- Code point bits read so far. -/
  bits : Nat

/-- The lead bytes of the characters of two to four bytes. The narrower ranges
    exclude overlong forms, surrogates and values past the last code point. -/
def lead? (b : Nat) : Option Lead :=
  if 0xC2 ≤ b ∧ b ≤ 0xDF then some ⟨1, 0x80, 0xBF, b - 0xC0⟩
  else if b = 0xE0 then some ⟨2, 0xA0, 0xBF, b - 0xE0⟩
  else if b = 0xED then some ⟨2, 0x80, 0x9F, b - 0xE0⟩
  else if 0xE1 ≤ b ∧ b ≤ 0xEF then some ⟨2, 0x80, 0xBF, b - 0xE0⟩
  else if b = 0xF0 then some ⟨3, 0x90, 0xBF, b - 0xF0⟩
  else if b = 0xF4 then some ⟨3, 0x80, 0x8F, b - 0xF0⟩
  else if 0xF1 ≤ b ∧ b ≤ 0xF3 then some ⟨3, 0x80, 0xBF, b - 0xF0⟩
  else none

/-- Reads one byte between characters: the characters it completes, and the
    character it begins. -/
def startChar (b : Nat) : List Char × Option Lead :=
  if b < 0x80 then ([Char.ofNat b], none)
  else match lead? b with
    | some lead => ([], some lead)
    | none => ([replacement], none)

/-- Reads bytes from left to right. `pending` is the character being read. -/
def decodeLossyFrom : (pending : Option Lead) → List UInt8 → List Char
  | none, [] => []
  | some _, [] => [replacement]
  | none, b :: bytes =>
    let (chars, pending) := startChar b.toNat
    chars ++ decodeLossyFrom pending bytes
  | some lead, b :: bytes =>
    if lead.low ≤ b.toNat ∧ b.toNat ≤ lead.high then
      let bits := lead.bits * 64 + (b.toNat - 0x80)
      if lead.following = 1 then
        Char.ofNat bits :: decodeLossyFrom none bytes
      else
        decodeLossyFrom (some ⟨lead.following - 1, 0x80, 0xBF, bits⟩) bytes
    else
      -- the piece ends here, and this byte is read afresh
      let (chars, pending) := startChar b.toNat
      replacement :: chars ++ decodeLossyFrom pending bytes

/-- Reads any bytes as text, with replacement characters for what is no text. -/
def decodeLossy (bytes : ByteArray) : String :=
  String.ofList (decodeLossyFrom none bytes.data.toList)

end MapAudit.Text
