import MapAudit.Proofs.SourceMap.Lookup
import MapAudit.Proofs.Text.LineIndex
import MapAudit.SourceMap.Document

/-! # Moving a map down

    When lines are put in front of a generated text, a map still fits if all its
    mappings move down by as many lines. Such a map answers for a place that moved
    down with it as the old map did for the old place.

    In a document, the mappings move down when a semicolon for each of the lines is put
    in front of them.
-/

namespace MapAudit

open Text (Coordinate)

namespace Mapping

/-- The mapping some lines further down. -/
def down (k : Nat) (m : Mapping) : Mapping :=
  { m with line := k + m.line }

variable {k line column : Nat}

theorem down_le_down_iff {m n : Mapping} : m.down k ≤ n.down k ↔ m ≤ n := by
  simp [le_iff, down]

theorem isBefore_down (m : Mapping) :
    (m.down k).isBefore (k + line) column = m.isBefore line column := by
  rw [Bool.eq_iff_iff, isBefore_iff, isBefore_iff]
  simp [down]

theorem insert_down (m : Mapping) (l : List Mapping) :
    insert (m.down k) (l.map (down k)) = (insert m l).map (down k) := by
  induction l with
  | nil => rfl
  | cons n rest ih =>
    simp only [List.map_cons, insert, down_le_down_iff]
    split
    · simp only [List.map_cons]
    · simp only [List.map_cons, ih]

theorem sort_down (l : List Mapping) : sort (l.map (down k)) = (sort l).map (down k) := by
  induction l with
  | nil => rfl
  | cons m rest ih =>
    have hcons : ∀ (a : Mapping) (as : List Mapping), sort (a :: as) = insert a (sort as) :=
      fun _ _ => rfl
    rw [List.map_cons, hcons, hcons, ih, insert_down]

end Mapping

namespace SourceMap

variable {map : SourceMap} {k line column : Nat}

/-- **Map moved down** by some lines. -/
def down (k : Nat) (map : SourceMap) : SourceMap where
  sources := map.sources
  mappings := map.mappings.map (Mapping.down k)
  sorted := by
    rw [Array.toList_map, List.pairwise_map]
    exact map.sorted.imp Mapping.down_le_down_iff.2

theorem ofMappings_down (sources : List String) (l : List Mapping) :
    ofMappings sources (l.map (Mapping.down k)) = (ofMappings sources l).down k := by
  simp only [ofMappings, down, Mapping.sort_down, List.map_toArray]

theorem before_down :
    (map.down k).before (k + line) column = (map.before line column).map (Mapping.down k) := by
  simp only [before, down, Array.toList_map, List.takeWhile_map, Function.comp_def,
    Mapping.isBefore_down]

theorem notBefore_down :
    (map.down k).notBefore (k + line) column =
      (map.notBefore line column).map (Mapping.down k) := by
  simp only [notBefore, down, Array.toList_map, List.dropWhile_map, Function.comp_def,
    Mapping.isBefore_down]

/-- The mapping that answers moves down with the map. -/
theorem lookup?_down :
    (map.down k).lookup? (k + line) column = (map.lookup? line column).map (Mapping.down k) := by
  rw [lookup?_eq, lookup?_eq, before_down, notBefore_down, List.head?_map, List.getLast?_map]
  cases (map.notBefore line column).head? with
  | none => rfl
  | some m =>
    have hline : (m.down k).line = k + line ↔ m.line = line := Nat.add_left_cancel_iff
    have hcolumn : (m.down k).column = m.column := rfl
    simp only [Option.map_some, hline, hcolumn]
    split <;> rfl

/-- **Positions under a map moved down**: what was moved down with the map comes from
    where it came from. -/
theorem originalPosition_down {place : Coordinate} (h : place.line ≠ 0) :
    (map.down k).originalPosition (place.down k) = map.originalPosition place := by
  have hdown : (place.down k).line ≠ 0 := by
    simp only [Coordinate.down]
    omega
  have hline : (place.down k).line - 1 = k + (place.line - 1) := by
    simp only [Coordinate.down]
    omega
  have hcolumn : (place.down k).column = place.column := rfl
  rw [originalPosition, originalPosition, if_neg hdown, if_neg h, hline, hcolumn, lookup?_down]
  cases map.lookup? (place.line - 1) place.column with
  | none => rfl
  | some m =>
    have hmapping : (m.down k).line = k + (place.line - 1) ↔ m.line = place.line - 1 :=
      Nat.add_left_cancel_iff
    simp only [Option.map_some, hmapping]
    rfl

end SourceMap

namespace Segments

variable {limits : Limits} {k line : Nat}

/-! ### Reading mappings further down -/

/-- The line of segments decides the line of their mappings and nothing else. -/
theorem readSegments_down (ranges : List Bool) (r : Running) (segments : List (List UInt8)) :
    readSegments limits (k + line) ranges r segments =
      (readSegments limits line ranges r segments).map fun (r, mappings) =>
        (r, mappings.map (Mapping.down k)) := by
  induction segments generalizing ranges r with
  | nil => rfl
  | cons segment segments ih =>
    simp only [readSegments]
    split
    · exact ih _ _
    · cases Vlq.numbers segment with
      | error e => rfl
      | ok fields =>
        cases htake : takeUp limits r fields with
        | error e => simp only [htake, bind, Except.bind, Except.map]
        | ok taken =>
          simp only [htake, bind, Except.bind, ih]
          cases readSegments limits line ranges.tail taken.1 segments with
          | error e => rfl
          | ok rest => rfl

/-- Lines of segments can be read as if they stood further down. -/
theorem readLines_down (r : Running) (ranges texts : List (List UInt8)) :
    readLines limits (k + line) r ranges texts =
      (readLines limits line r ranges texts).map (List.map (Mapping.down k)) := by
  induction texts generalizing line r ranges with
  | nil => rfl
  | cons text texts ih =>
    simp only [readLines, Nat.add_assoc]
    split
    · exact ih _ _
    · cases readRanges (ranges.headD []) with
      | error e => rfl
      | ok bits =>
        simp only [bind, Except.bind, readSegments_down]
        cases readSegments limits line bits { r with column := 0 } (text.splitOn 44) with
        | error e => rfl
        | ok here =>
          simp only [Except.map, ih]
          cases readLines limits (line + 1) here.1 ranges.tail texts with
          | error e => rfl
          | ok later => simp [pure, Except.pure]

/-! ### Splitting at separators -/

/-- What is put in front of a text without separators is put in front of its first part. -/
theorem splitOn_append_of_not_mem {x : UInt8} {piece text first : List UInt8}
    {others : List (List UInt8)} (h : x ∉ piece) (htext : text.splitOn x = first :: others) :
    (piece ++ text).splitOn x = (piece ++ first) :: others := by
  induction piece with
  | nil => exact htext
  | cons b piece ih =>
    obtain ⟨hb, hpiece⟩ := List.ne_and_not_mem_of_not_mem_cons h
    have hne : (b == x) = false := by simpa using Ne.symm hb
    rw [List.cons_append, List.splitOn_cons_eq_if_modifyHead, ih hpiece, hne]
    rfl

theorem splitOn_cons_self (x : UInt8) (text : List UInt8) :
    (x :: text).splitOn x = [] :: text.splitOn x :=
  List.splitOn_append_cons_self [] text

/-- Separators in front of a text split off empty parts. -/
theorem splitOn_replicate_append (k : Nat) (x : UInt8) (text : List UInt8) :
    (List.replicate k x ++ text).splitOn x = List.replicate k [] ++ text.splitOn x := by
  induction k with
  | zero => rfl
  | succ k ih => rw [List.replicate_succ, List.cons_append, splitOn_cons_self, ih]; rfl

/-! ### Semicolons in front -/

/-- Lines without segments are only counted. -/
theorem readLines_replicate_append (r : Running) (texts : List (List UInt8)) :
    readLines limits line r [] (List.replicate k [] ++ texts) =
      readLines limits (k + line) r [] texts := by
  induction k generalizing line with
  | zero => simp
  | succ k ih =>
    have hline : k + (line + 1) = k + 1 + line := by omega
    simp only [List.replicate_succ, List.cons_append, readLines, List.isEmpty_nil, if_true,
      List.tail_nil, ih, hline]

/-- One line without range bits is as good as none. -/
theorem readLines_singleton_nil (r : Running) (texts : List (List UInt8)) :
    readLines limits line r [[]] texts = readLines limits line r [] texts := by
  cases texts <;> rfl

/-- The written form of lines without segments. -/
def emptyLines (k : Nat) : String :=
  String.ofList (List.replicate k ';')

theorem splitOn_utf8Bytes_emptyLines_append (k : Nat) (mappings : String) :
    (Text.utf8Bytes (emptyLines k ++ mappings).toList).splitOn 59 =
      List.replicate k [] ++ (Text.utf8Bytes mappings.toList).splitOn 59 := by
  have hbyte : String.utf8EncodeChar ';' = [59] := by decide
  have hbytes : Text.utf8Bytes (emptyLines k ++ mappings).toList =
      List.replicate k 59 ++ Text.utf8Bytes mappings.toList := by
    simp only [Text.utf8Bytes, emptyLines, String.toList_append, String.toList_ofList,
      List.flatMap_append, List.flatMap_replicate, hbyte, List.flatten_replicate_singleton]
  rw [hbytes, splitOn_replicate_append]

/-- **Semicolons in front** of mappings move all of them down. -/
theorem read_emptyLines_append (k : Nat) (mappings : String) :
    read limits (emptyLines k ++ mappings) "" =
      (read limits mappings "").map (List.map (Mapping.down k)) := by
  have hranges : (Text.utf8Bytes "".toList).splitOn 59 = [[]] := rfl
  simp only [read, hranges, readLines_singleton_nil, splitOn_utf8Bytes_emptyLines_append,
    readLines_replicate_append, readLines_down]

end Segments

namespace Document

/-- The body with lines without segments in front of its mappings. -/
def Body.below (k : Nat) (body : Body) : Body :=
  { body with mappings := Segments.emptyLines k ++ body.mappings }

/-- **Body moved down**: it has the same map further down, or the same error. -/
theorem Body.toSourceMap_below {body : Body} (k : Nat) (h : body.rangeMappings = "") :
    (body.below k).toSourceMap = body.toSourceMap.map (SourceMap.down k) := by
  simp only [toSourceMap, below, h, Segments.read_emptyLines_append]
  cases Segments.read { sources := body.sources.length, names := body.names } body.mappings "" with
  | error e => rfl
  | ok mappings => exact congrArg Except.ok (SourceMap.ofMappings_down _ mappings)

end Document

end MapAudit
