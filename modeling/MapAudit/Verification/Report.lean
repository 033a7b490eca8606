import MapAudit.Fixture.Validity
import MapAudit.SourceMap.Document
import MapAudit.Verification.Check

/-! # Verification

    The output of a build is verified against the fixture it was built from.
    First the output must link to its map. Then, for each probe, the map must
    lead from the place of the probe's literal in the output to its place in
    the file it originates from, exactly.

    A check that does not hold does not stop the checks after it. A fault does,
    and what was reported before it stays reported. A fault says that a
    verification could not be carried out, because the fixture, the map or the
    output lacks what is needed. It says nothing about whether mappings are right.
-/

namespace MapAudit

open Text (Coordinate LineIndex)

/-! ## Faults -/

/-- Where the literal of a probe is looked for. -/
inductive SearchLocation where
  /-- In the file the probe originates from. -/
  | input
  /-- In the output of the build. -/
  | output
  deriving DecidableEq, Repr

/-- The name of the place. -/
def SearchLocation.name : SearchLocation → String
  | .input => "input"
  | .output => "output"

/-- **Verification fault**. -/
inductive VerificationFault where
  /-- The fixture cannot be used. -/
  | fixture (e : FixtureError)
  /-- The text of the map is no source map. -/
  | map (e : MapError)
  /-- The file that a probe originates from is not in the fixture. -/
  | missingOrigin (id origin : String)
  /-- The literal of a probe does not occur. -/
  | probeNotFound (id : String) (location : SearchLocation)
  deriving DecidableEq, Repr

/-- The message of the fault. -/
def VerificationFault.message : VerificationFault → String
  | .fixture e => e.message
  | .map e => e.message
  | .missingOrigin id origin =>
    "probe " ++ Text.quoted id ++ " originates from " ++ origin
      ++ ", which is not in the fixture"
  | .probeNotFound id location => "failed to find \"" ++ id ++ "\" in " ++ location.name

/-! ## Reports -/

/-- **Report** of a verification. -/
structure Report where
  /-- The label of the run. -/
  kind : String
  /-- How many checks held. -/
  passed : Nat
  /-- How many checks did not hold. -/
  failed : Nat
  /-- The checks in their order. -/
  checks : List Check
  deriving DecidableEq, Repr

/-- The report on all checks recorded. -/
def Recorder.toReport (r : Recorder) : Report where
  kind := r.kind
  passed := r.passed
  failed := r.failed
  checks := r.checks

/-- What a verification comes to. -/
structure Verification where
  /-- The report, or the fault that stopped it. -/
  result : Except VerificationFault Report
  /-- What was reported on the way. -/
  reported : List Diagnostic

namespace Verification

/-- The line by which an output links to its map. -/
def mapLink : String :=
  "//# sourceMappingURL=out.js.map\n"

/-- The message of the check that an output links to its map. -/
def linkMessage : String :=
  ".js file links to .js.map"

/-- The message of the check of a probe. -/
def probeMessage (expected observed : OriginalPosition) : String :=
  "expected: " ++ expected.toJson ++ " observed: " ++ observed.toJson

/-- The coordinate of the first occurrence of a text in an indexed text. An
    occurrence too far from the start has none. -/
def locate? (index : LineIndex) (needle : List Char) : Option Coordinate := do
  let offset ← Text.find? needle index.text
  if offset ≤ Text.maxOffset then index.coordinate? offset else none

/-- The place a probe comes from and the place it has in the output. -/
def probePlaces (fixture : Fixture) (output : LineIndex) (p : Probe) :
    Except VerificationFault (OriginalPosition × Coordinate) :=
  match fixture.file? p.origin with
  | none => .error (.missingOrigin p.id p.origin)
  | some file =>
    match locate? (.ofText file.source.toList) p.literal.toList with
    | none => .error (.probeNotFound p.id .input)
    | some written =>
      match locate? output p.literal.toList with
      | none => .error (.probeNotFound p.id .output)
      | some generated => .ok (.inSource file.path written, generated)

/-- Checks that an output links to its map. -/
def checkLink (output : List Char) : Check where
  success := Text.contains mapLink.toList output
  message := linkMessage

/-- Checks that a map leads to where a probe comes from. -/
def checkPlace (map : SourceMap) (expected : OriginalPosition) (generated : Coordinate) :
    Check where
  success := expected = map.originalPosition generated
  message := probeMessage expected (map.originalPosition generated)

/-- Checks probes in their order up to the first fault. -/
def checkProbes (fixture : Fixture) (map : SourceMap) (output : LineIndex) :
    Recorder → List Probe → Recorder × Option VerificationFault
  | r, [] => (r, none)
  | r, p :: rest =>
    match probePlaces fixture output p with
    | .error fault => (r, some fault)
    | .ok (expected, generated) =>
      checkProbes fixture map output (r.record (checkPlace map expected generated)) rest

/-- Verifies an output against a map that has been read. -/
def ofMap (kind : String) (fixture : Fixture) (output : List Char) (map : SourceMap) :
    Verification :=
  let recorder := (Recorder.start kind).record (checkLink output)
  match checkProbes fixture map (.ofText output) recorder fixture.probes with
  | (r, none) => { result := .ok r.toReport, reported := r.reported }
  | (r, some fault) => { result := .error fault, reported := r.reported }

end Verification

/-- **Verification** of the output of a build and the text of its map. -/
def verify (kind : String) (fixture : Fixture) (output map : String) : Verification :=
  match SourceMap.parse map with
  | .error e => { result := .error (.map e), reported := [] }
  | .ok map => Verification.ofMap kind fixture output.toList map

end MapAudit
