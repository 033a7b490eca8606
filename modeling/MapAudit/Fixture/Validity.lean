import MapAudit.Fixture.Basic

/-! # Well-formed fixtures

    A fixture can be used when it has a file and every probe can be told from
    the others and found: its identifier is its own, it originates from a file
    of the fixture, and its literal is matched there exactly once.

    A fixture that breaks several of these rules is refused for the first one,
    in the order of its probes.
-/

namespace MapAudit

/-- Why a fixture, or the origin of a probe, is refused. -/
inductive FixtureError where
  /-- There are no files. -/
  | empty (variant : Variant)
  /-- An earlier probe has the same identifier. -/
  | duplicateProbe (id : String)
  /-- A probe names a file that is not there. -/
  | missingOrigin (id origin : String)
  /-- No file can be guessed for a probe. -/
  | noOriginMatch (id : String)
  /-- Several files could be guessed for a probe. -/
  | ambiguousOrigin (id : String) (candidates : List String)
  /-- A probe's literal is not matched exactly once. -/
  | literalCount (id file : String) (count : Nat)
  deriving DecidableEq, Repr

/-- The message of the error. -/
def FixtureError.message : FixtureError → String
  | .empty variant => "fixture " ++ variant.name ++ " has no files"
  | .duplicateProbe id => "probe " ++ Text.quoted id ++ " is listed twice"
  | .missingOrigin id origin =>
    "probe " ++ Text.quoted id ++ " originates from " ++ origin
      ++ ", which is not a fixture file"
  | .noOriginMatch id =>
    "no fixture file starts with the first character of probe " ++ Text.quoted id
  | .ambiguousOrigin id candidates =>
    "probe " ++ Text.quoted id ++ " could originate from any of "
      ++ Text.quotedList candidates
  | .literalCount id file count =>
    "expected exactly one \"" ++ id ++ "\" in " ++ file ++ ", found " ++ toString count

namespace Probe

/-- The paths that begin with a character. -/
def candidates (first : Char) (paths : List String) : List String :=
  paths.filter fun path => path.toList.head? == some first

/-- **Inferred probe**: its origin is the one path that begins with the first
    character of its identifier. -/
def inferred (id : String) (paths : List String) : Except FixtureError Probe :=
  match id.toList with
  | [] => .error (.noOriginMatch id)
  | first :: _ =>
    match candidates first paths with
    | [] => .error (.noOriginMatch id)
    | [origin] => .ok { id, origin }
    | several => .error (.ambiguousOrigin id several)

end Probe

namespace Fixture

/-- Number of matches of a probe's literal in a text. -/
def literalCount (p : Probe) (source : String) : Nat :=
  Text.countMatches p.literal.toList source.toList

/-- Checks one probe after probes with the identifiers `seen`. -/
def validateProbe (fixture : Fixture) (seen : List String) (p : Probe) :
    Except FixtureError Unit :=
  if p.id ∈ seen then .error (.duplicateProbe p.id)
  else
    match fixture.file? p.origin with
    | none => .error (.missingOrigin p.id p.origin)
    | some file =>
      let count := literalCount p file.source
      if count = 1 then .ok () else .error (.literalCount p.id file.path count)

/-- Checks probes in their order. -/
def validateProbes (fixture : Fixture) : (seen : List String) → List Probe →
    Except FixtureError Unit
  | _, [] => .ok ()
  | seen, p :: rest => do
    fixture.validateProbe seen p
    fixture.validateProbes (p.id :: seen) rest

/-- **Validation**: accepts the fixtures that can be used. -/
def validate (fixture : Fixture) : Except FixtureError Unit :=
  if fixture.files.isEmpty then .error (.empty fixture.variant)
  else fixture.validateProbes [] fixture.probes

end Fixture

end MapAudit
