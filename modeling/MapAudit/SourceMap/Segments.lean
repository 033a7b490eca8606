import MapAudit.SourceMap.Basic
import MapAudit.SourceMap.Vlq

/-! # Reading the mappings of a document

    The mappings of a document are written as lines between semicolons, each a
    row of segments between commas. The fields of a segment are differences:
    the generated column is relative to the segment before it on the line, the
    other fields to the segment before it that had them, on whatever line. All
    of these running values are 32-bit words.

    A second text says which segments are ranges, with one bit per segment.

    Errors come in the order of the text.
-/

namespace MapAudit.Segments

/-- How many sources and names a document lists. -/
structure Limits where
  /-- Number of sources. -/
  sources : Nat
  /-- Number of names. -/
  names : Nat
  deriving DecidableEq, Repr

/-- The running values that the fields of a segment are relative to. -/
structure Running where
  /-- Generated column. -/
  column : Nat
  /-- Number of the source. -/
  source : Nat
  /-- Line in the source. -/
  originLine : Nat
  /-- Column in the source. -/
  originColumn : Nat
  /-- Number of the name. -/
  name : Nat
  deriving DecidableEq, Repr

/-- The running values at the start of a document. -/
def Running.start : Running where
  column := 0
  source := 0
  originLine := 0
  originColumn := 0
  name := 0

/-- A running value after a difference is added to it. -/
def add (value : Nat) (difference : Int) : Nat :=
  ((value + difference) % 0x100000000).toNat

/-- Takes up the fields of a segment: the running values after it, and where
    the segment leads to. -/
def takeUp (limits : Limits) (r : Running) :
    List Int → Except MapError (Running × Option Origin)
  | [column] => .ok ({ r with column := add r.column column }, none)
  | column :: source :: line :: originColumn :: names => do
    let r := { r with column := add r.column column, source := add r.source source }
    unless names.length ≤ 1 do throw (.badSegmentSize (4 + names.length))
    unless r.source < limits.sources do throw (.badSourceReference r.source)
    let r := { r with
      originLine := add r.originLine line
      originColumn := add r.originColumn originColumn }
    let origin : Origin :=
      { source := r.source, line := r.originLine, column := r.originColumn }
    match names with
    | [] => return (r, some origin)
    | name :: _ =>
      let r := { r with name := add r.name name }
      unless r.name < limits.names do throw (.badNameReference r.name)
      return (r, some origin)
  | fields => .error (.badSegmentSize fields.length)

/-- Reads the segments of a line. Empty segments stand for nothing, but each
    still has its range bit. -/
def readSegments (limits : Limits) (line : Nat) :
    (ranges : List Bool) → Running → List (List UInt8) →
      Except MapError (Running × List Mapping)
  | _, r, [] => .ok (r, [])
  | ranges, r, segment :: segments =>
    if segment.isEmpty then
      readSegments limits line ranges.tail r segments
    else do
      let (r, origin) ← takeUp limits r (← Vlq.numbers segment)
      let mapping : Mapping :=
        { line, column := r.column, origin, isRange := ranges.headD false }
      let (r, mappings) ← readSegments limits line ranges.tail r segments
      return (r, mapping :: mappings)

/-- The six bits of a digit, lowest first. -/
def bitsOf (d : Nat) : List Bool :=
  (List.range 6).map d.testBit

/-- Reads the range bits of a line. -/
def readRanges : List UInt8 → Except MapError (List Bool)
  | [] => .ok []
  | b :: bytes =>
    match Vlq.digit? b with
    | none => .error (.invalidDigit b)
    | some d => do return bitsOf d ++ (← readRanges bytes)

/-- Reads the lines of a document, starting at generated line `line`. The range
    bits of a line without segments are not looked at. -/
def readLines (limits : Limits) :
    (line : Nat) → Running → (ranges : List (List UInt8)) → List (List UInt8) →
      Except MapError (List Mapping)
  | _, _, _, [] => .ok []
  | line, r, ranges, text :: texts =>
    if text.isEmpty then
      readLines limits (line + 1) r ranges.tail texts
    else do
      let bits ← readRanges (ranges.headD [])
      let (r, here) ← readSegments limits line bits { r with column := 0 } (text.splitOn 44)
      let later ← readLines limits (line + 1) r ranges.tail texts
      return here ++ later

/-- **Mappings** of a document, in the order of its text. -/
def read (limits : Limits) (mappings ranges : String) : Except MapError (List Mapping) :=
  readLines limits 0 .start
    ((Text.utf8Bytes ranges.toList).splitOn 59)
    ((Text.utf8Bytes mappings.toList).splitOn 59)

end MapAudit.Segments
