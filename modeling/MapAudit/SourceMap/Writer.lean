import MapAudit.SourceMap.Document

/-! # Writing source maps

    The counterpart of reading: entries are written as the text of a plain
    document, with their sources in order of first use, one line of segments
    per generated line, and differences for all fields. An entry without source
    is written with one field and any other with four.
-/

namespace MapAudit.SourceMap

open Segments (Running)

/-- The fields of a mapping, relative to the running values before it, and the
    running values after it. -/
def fieldsOf (r : Running) (m : Mapping) : List Int × Running :=
  let column : Int := (m.column : Int) - r.column
  match m.origin with
  | none => ([column], { r with column := m.column })
  | some o =>
    ([column, (o.source : Int) - r.source, (o.line : Int) - r.originLine,
        (o.column : Int) - r.originColumn],
      { r with
        column := m.column
        source := o.source
        originLine := o.line
        originColumn := o.column })

/-- The text of mappings in order of their places, when the text so far ends on
    generated line `line`. A semicolon ends a line, and a comma stands between
    two segments of one line; `fresh` says that the line is still empty. -/
def segmentsText (line : Nat) (fresh : Bool) (r : Running) : List Mapping → List UInt8
  | [] => []
  | m :: rest =>
    let breaks := m.line - line
    let r := if breaks = 0 then r else { r with column := 0 }
    let separator := if breaks = 0 then (if fresh then [] else [44]) else List.replicate breaks 59
    let (fields, r) := fieldsOf r m
    separator ++ fields.flatMap Vlq.encode ++ segmentsText m.line false r rest

/-- The text of mappings in any order. -/
def mappingsText (mappings : List Mapping) : String :=
  String.ofList ((segmentsText 0 true .start (Mapping.sort mappings)).map
    fun b => Char.ofNat b.toNat)

/-- **Document text** of entries. -/
def write (entries : List Entry) : String :=
  let sources := sourcesOf entries
  Json.compact (.object [
    ("version", .ofNat 3),
    ("sources", .array (sources.map .string)),
    ("names", .array []),
    ("mappings", .string (mappingsText (entries.map (Entry.toMapping sources))))])

end MapAudit.SourceMap
