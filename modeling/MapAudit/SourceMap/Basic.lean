import MapAudit.Text.LineIndex
import MapAudit.Json.Printer

/-! # Source maps

    A source map is a list of mappings from places in a generated text to
    places in source files. Inside a map lines count from zero; the positions
    it answers with count lines from one, like `Text.Coordinate`.

    The mappings of a map are kept in the order of their generated places, and
    mappings at the same place keep the order in which they were given.
-/

namespace MapAudit

open Text (Coordinate)

/-- **Original position**: where a piece of generated text came from. All three
    parts are absent when the map does not say. -/
structure OriginalPosition where
  /-- The source file. -/
  source : Option String
  /-- Line in the source file, from one. -/
  line : Option Nat
  /-- UTF-16 units since the start of the line. -/
  column : Option Nat
  deriving DecidableEq, Repr

namespace OriginalPosition

/-- The position that no mapping knows. -/
def unknown : OriginalPosition where
  source := none
  line := none
  column := none

/-- A place in a source file. -/
def inSource (source : String) (place : Coordinate) : OriginalPosition where
  source := some source
  line := some place.line
  column := some place.column

/-- The position as a JSON object on one line. -/
def toJson (p : OriginalPosition) : String :=
  Json.compact (.object [
    ("source", .ofString? p.source),
    ("line", .ofNat? p.line),
    ("column", .ofNat? p.column)])

end OriginalPosition

/-- Where a mapping leads to. -/
structure Origin where
  /-- Number of the source file in the map's list of sources. -/
  source : Nat
  /-- Line in the source file, from zero. -/
  line : Nat
  /-- Column in the source file. -/
  column : Nat
  deriving DecidableEq, Repr

/-- **Mapping** of one place in the generated text. -/
structure Mapping where
  /-- Generated line, from zero. -/
  line : Nat
  /-- Generated column. -/
  column : Nat
  /-- Where the place came from. A mapping without origin says that the text
      from here on came from nowhere. -/
  origin : Option Origin
  /-- Whether the mapping covers the columns after it one by one. -/
  isRange : Bool
  deriving DecidableEq, Repr

namespace Mapping

/-- Whether a mapping lies strictly before a generated place. -/
def isBefore (m : Mapping) (line column : Nat) : Bool :=
  m.line < line || m.line == line && m.column < column

/-- The order of the generated places, in which equal places are in order
    both ways. -/
instance : LE Mapping where
  le a b := a.line < b.line ∨ a.line = b.line ∧ a.column ≤ b.column

instance (a b : Mapping) : Decidable (a ≤ b) :=
  inferInstanceAs (Decidable (a.line < b.line ∨ a.line = b.line ∧ a.column ≤ b.column))

theorem le_iff {a b : Mapping} :
    a ≤ b ↔ a.line < b.line ∨ a.line = b.line ∧ a.column ≤ b.column :=
  Iff.rfl

theorem le_trans {a b c : Mapping} (hab : a ≤ b) (hbc : b ≤ c) : a ≤ c := by
  rw [le_iff] at *
  omega

theorem le_of_not_le {a b : Mapping} (h : ¬ a ≤ b) : b ≤ a := by
  rw [le_iff] at *
  omega

/-- Puts a mapping in front of the first one that is not before it. -/
def insert (m : Mapping) : List Mapping → List Mapping
  | [] => [m]
  | n :: rest => if m ≤ n then m :: n :: rest else n :: insert m rest

/-- The mappings in the order of their places. Ties keep their order. -/
def sort (l : List Mapping) : List Mapping :=
  l.foldr insert []

theorem mem_insert {x m : Mapping} {l : List Mapping} : x ∈ insert m l ↔ x = m ∨ x ∈ l := by
  induction l with
  | nil => simp [insert]
  | cons n rest ih =>
    simp only [insert]
    split
    · simp
    · simp [ih, or_left_comm]

theorem pairwise_insert {m : Mapping} {l : List Mapping} (h : l.Pairwise (· ≤ ·)) :
    (insert m l).Pairwise (· ≤ ·) := by
  induction l with
  | nil => simp [insert]
  | cons n rest ih =>
    obtain ⟨hn, hrest⟩ := List.pairwise_cons.1 h
    simp only [insert]
    split
    · rename_i hmn
      refine List.pairwise_cons.2 ⟨fun x hx => ?_, h⟩
      rcases List.mem_cons.1 hx with rfl | hx
      · exact hmn
      · exact le_trans hmn (hn x hx)
    · rename_i hmn
      refine List.pairwise_cons.2 ⟨fun x hx => ?_, ih hrest⟩
      rcases mem_insert.1 hx with rfl | hx
      · exact le_of_not_le hmn
      · exact hn x hx

theorem pairwise_sort (l : List Mapping) : (sort l).Pairwise (· ≤ ·) := by
  induction l with
  | nil => exact List.Pairwise.nil
  | cons m rest ih => exact pairwise_insert ih

end Mapping

/-- **Source map**. -/
structure SourceMap where
  /-- The source files, by number. -/
  sources : Array String
  /-- The mappings, in the order of their generated places. -/
  mappings : Array Mapping
  /-- The mappings are in order. -/
  sorted : mappings.toList.Pairwise (· ≤ ·)

namespace SourceMap

/-- The map with the given sources and mappings. -/
def ofMappings (sources : List String) (mappings : List Mapping) : SourceMap where
  sources := sources.toArray
  mappings := (Mapping.sort mappings).toArray
  sorted := Mapping.pairwise_sort mappings

/-- A mapping that names its source file. -/
structure Entry where
  /-- Generated line, from zero. -/
  line : Nat
  /-- Generated column. -/
  column : Nat
  /-- Line in the source file, from zero. -/
  originLine : Nat
  /-- Column in the source file. -/
  originColumn : Nat
  /-- The source file, if the place came from one. -/
  source : Option String
  /-- Whether the mapping covers the columns after it one by one. -/
  isRange : Bool
  deriving DecidableEq, Repr

/-- The source files of some entries, in order of first use. -/
def sourcesOf (entries : List Entry) : List String :=
  (entries.filterMap Entry.source).eraseDups

/-- The mapping of an entry when the source files are numbered as in `sources`. -/
def Entry.toMapping (sources : List String) (e : Entry) : Mapping where
  line := e.line
  column := e.column
  origin := e.source.map fun s =>
    { source := sources.idxOf s, line := e.originLine, column := e.originColumn }
  isRange := e.isRange

/-- The map with the given entries. -/
def ofEntries (entries : List Entry) : SourceMap :=
  ofMappings (sourcesOf entries) (entries.map (Entry.toMapping (sourcesOf entries)))

/-- The greatest column that a position can hold. -/
def maxColumn : Nat := 4294967295

/-- **Lookup**: the mapping that answers for a generated place. A mapping right
    at the place answers, the first one if there are several. Otherwise the
    last mapping before the place does, on whatever line it is. -/
def lookup? (map : SourceMap) (line column : Nat) : Option Mapping :=
  let n := bisect (fun i => match map.mappings[i]? with
    | some m => m.isBefore line column
    | none => false) map.mappings.size
  let previous := if n = 0 then none else map.mappings[n - 1]?
  match map.mappings[n]? with
  | some m => if m.line = line ∧ m.column = column then some m else previous
  | none => previous

/-- What a mapping says about a column at or after its own. -/
def answer (map : SourceMap) (m : Mapping) (column : Nat) : OriginalPosition :=
  match m.origin with
  | none => .unknown
  | some origin =>
    match map.sources[origin.source]? with
    | none => .unknown
    | some source =>
      let shift := if m.isRange then column - m.column else 0
      .inSource source {
        line := origin.line + 1
        column := if m.isRange then min (origin.column + shift) maxColumn else origin.column }

/-- **Original position** of a place in the generated text. Only mappings on
    the line of the place count. -/
def originalPosition (map : SourceMap) (generated : Coordinate) : OriginalPosition :=
  if generated.line = 0 then .unknown
  else
    match map.lookup? (generated.line - 1) generated.column with
    | none => .unknown
    | some m =>
      if m.line = generated.line - 1 then map.answer m generated.column else .unknown

end SourceMap

end MapAudit
