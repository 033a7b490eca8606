import MapAudit.Text.Units

/-! # Why a text is no source map -/

namespace MapAudit

/-- **Map error**: the first thing wrong with the text of a source map. -/
inductive MapError where
  /-- The text is not JSON of the right shape. -/
  | badJson
  /-- A carriage return in the header line is not followed by a line feed. -/
  | expectedNewline
  /-- A segment ends in the middle of a number. -/
  | unfinishedNumber
  /-- A number of a segment is too long. -/
  | numberOverflow
  /-- A segment has a number of fields that no segment has. -/
  | badSegmentSize (fields : Nat)
  /-- A segment refers to a source that is not listed. -/
  | badSourceReference (source : Nat)
  /-- A segment refers to a name that is not listed. -/
  | badNameReference (name : Nat)
  /-- The map is of a kind that holds no plain list of mappings. -/
  | incompatible
  /-- A byte of the range mappings is no digit. -/
  | invalidDigit (byte : UInt8)
  deriving DecidableEq, Repr

namespace MapError

/-- What is wrong, in words. -/
def reason : MapError → String
  | .badJson => "bad json"
  | .expectedNewline => "expected newline"
  | .unfinishedNumber => "leftover cur/shift in vlq decode"
  | .numberOverflow => "vlq decode caused an overflow"
  | .badSegmentSize fields => "got " ++ toString fields ++ " segments, expected 4 or 5"
  | .badSourceReference source => "bad reference to source #" ++ toString source
  | .badNameReference name => "bad reference to name #" ++ toString name
  | .incompatible => "encountered incompatible sourcemap format"
  | .invalidDigit byte =>
    "invalid base64 character: " ++ String.singleton (Char.ofNat byte.toNat)

/-- The message of the error. -/
def message (e : MapError) : String :=
  "invalid source map: " ++ e.reason

end MapError

end MapAudit
