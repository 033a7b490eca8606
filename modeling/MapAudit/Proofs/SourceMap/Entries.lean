import MapAudit.Proofs.SourceMap.Deciding
import Mathlib.Data.List.Nodup

/-! # What a map says, by its entries

    What a map answers can be told from its entries alone: from what its mappings say with
    the names of their sources, in the order of their generated places. How the sources are
    numbered does not matter, and of all lines only the one of the place does.

    A map that is made from entries sorts them, so it does not remember in which order they
    were given, as long as no two of them have the same generated place. The order in which
    sources are first named shows in their numbers and nowhere else.
-/

namespace MapAudit

open Text (Coordinate)

namespace SourceMap

/-! ### Entries of a line -/

/-- What the mappings on a line say, in order. -/
def lineEntries (map : SourceMap) (line : Nat) : List Entry :=
  map.entries.filter (·.line = line)

/-- **Position of an entry**: where an entry leads from a column that it reaches. -/
def Entry.position (e : Entry) (column : Nat) : OriginalPosition :=
  match e.source with
  | none => .unknown
  | some s =>
    .inSource s {
      line := e.originLine + 1
      column := if e.isRange then min (e.originColumn + e.moved column) maxColumn
        else e.originColumn }

/-- **Scan of entries** for the one that answers for a column: one right at the column,
    the first if there are several, and otherwise the last one before it. -/
def scanEntries? (entries : List Entry) (column : Nat) : Option Entry :=
  ((entries.filter (·.column ≤ column)).find? (·.column = column)).or
    (entries.filter (·.column ≤ column)).getLast?

variable {map map' : SourceMap} {line column : Nat}

/-- The answer of a mapping can be told from its entry. -/
theorem answer_eq_position (m : Mapping) (column : Nat) :
    map.answer m column = (map.entryOf m).position column := by
  cases horigin : m.origin with
  | none => simp only [answer, Entry.position, entryOf, horigin, Option.bind_none]
  | some o =>
    cases hsource : map.sources[o.source]? with
    | none => simp only [answer, Entry.position, entryOf, horigin, hsource, Option.bind_some]
    | some s =>
      simp only [answer, Entry.position, Entry.moved, entryOf, horigin, hsource,
        Option.bind_some, Option.map_some, Option.getD_some]

/-- The entries of a line up to a column are those of the mappings there. -/
theorem map_upTo :
    (map.upTo line column).map map.entryOf =
      (map.lineEntries line).filter (·.column ≤ column) := by
  have hreached : (fun m : Mapping => decide (m.line = line ∧ m.column ≤ column)) =
      fun m => decide (m.column ≤ column) && decide (m.line = line) := by
    funext m
    rw [← Bool.decide_and, decide_eq_decide, and_comm]
  rw [upTo, lineEntries, entries, List.filter_filter, hreached, List.filter_map]
  rfl

/-- **Scan of the line**: the mapping that answers for a place is found among the entries
    of the line. -/
theorem map_scan? :
    (map.scan? line column).map map.entryOf = scanEntries? (map.lineEntries line) column := by
  have hfind : ((map.upTo line column).find? (·.column = column)).map map.entryOf =
      ((map.upTo line column).map map.entryOf).find? (·.column = column) := by
    rw [List.find?_map]
    rfl
  rw [scan?, scanEntries?, Option.map_or, hfind, ← List.getLast?_map, map_upTo]

/-- **One line decides** about an original position. -/
theorem originalPosition_eq_scanEntries? (generated : Coordinate) :
    map.originalPosition generated =
      if generated.line = 0 then .unknown
      else ((scanEntries? (map.lineEntries (generated.line - 1)) generated.column).map
        fun e => e.position generated.column).getD .unknown := by
  rw [originalPosition_eq_scannedPosition, scannedPosition]
  by_cases hline : generated.line = 0
  · rw [if_pos hline, if_pos hline]
  · rw [if_neg hline, if_neg hline, ← map_scan?]
    cases map.scan? (generated.line - 1) generated.column with
    | none => rfl
    | some m => exact answer_eq_position m generated.column

/-- Maps with the same entries on a line answer the same about its places. -/
theorem originalPosition_congr {generated : Coordinate}
    (h : map.lineEntries (generated.line - 1) = map'.lineEntries (generated.line - 1)) :
    map.originalPosition generated = map'.originalPosition generated := by
  rw [originalPosition_eq_scanEntries?, originalPosition_eq_scanEntries?, h]

/-! ### Entries in order -/

/-- The generated place of an entry. -/
def Entry.place (e : Entry) : Nat × Nat :=
  (e.line, e.column)

@[simp] theorem Entry.told_place (e : Entry) : e.told.place = e.place := by
  simp only [Entry.place, Entry.told_line, Entry.told_column]

/-- The entries of a map are in the order of their generated places. -/
theorem pairwise_entries (map : SourceMap) :
    map.entries.Pairwise fun a b => a.line < b.line ∨ a.line = b.line ∧ a.column ≤ b.column :=
  List.pairwise_map.2 map.sorted

/-- **Entries of a map** that is made from some: they are those, in another order. -/
theorem perm_entries_ofEntries (entries : List Entry) :
    (ofEntries entries).entries.Perm (entries.map Entry.told) := by
  have hsorted : (ofEntries entries).entries =
      (Mapping.sort (entries.map (Entry.toMapping (sourcesOf entries)))).map
        (ofEntries entries).entryOf := rfl
  have htold : (entries.map (Entry.toMapping (sourcesOf entries))).map
      (ofEntries entries).entryOf = entries.map Entry.told := by
    rw [List.map_map]
    exact List.map_congr_left fun e he => entryOf_toMapping he
  rw [hsorted, ← htold]
  exact (Mapping.perm_sort _).map _

/-- A map made from entries has their generated places. -/
theorem perm_places_ofEntries (entries : List Entry) :
    ((ofEntries entries).entries.map Entry.place).Perm (entries.map Entry.place) := by
  have hplaces : (entries.map Entry.told).map Entry.place = entries.map Entry.place := by
    rw [List.map_map]
    exact List.map_congr_left fun e _ => e.told_place
  rw [← hplaces]
  exact (perm_entries_ofEntries entries).map _

theorem size_mappings_ofEntries (entries : List Entry) :
    (ofEntries entries).mappings.size = entries.length := by
  have hlength := (perm_entries_ofEntries entries).length_eq
  rwa [SourceMap.entries, List.length_map, List.length_map, Array.length_toList] at hlength

/-! ### Entries in another order -/

variable {entries entries' : List Entry}

/-- The sources of rearranged entries are the same, in another order. -/
theorem perm_sourcesOf (hperm : entries.Perm entries') :
    (sourcesOf entries).Perm (sourcesOf entries') := by
  refine (List.perm_ext_iff_of_nodup (nodup_sourcesOf _) (nodup_sourcesOf _)).2 ?_
  intro s
  rw [sourcesOf, sourcesOf, List.mem_eraseDups, List.mem_eraseDups]
  exact (hperm.filterMap Entry.source).mem_iff

/-- **Rearranged entries** make maps with the same entries in the same order, if no two of
    them have the same generated place. -/
theorem entries_ofEntries_of_perm (hperm : entries.Perm entries')
    (hplaces : (entries.map Entry.place).Nodup) :
    (ofEntries entries).entries = (ofEntries entries').entries := by
  have hboth : (ofEntries entries).entries.Perm (ofEntries entries').entries :=
    (perm_entries_ofEntries entries).trans
      ((hperm.map Entry.told).trans (perm_entries_ofEntries entries').symm)
  have hdistinct : ((ofEntries entries).entries.map Entry.place).Nodup :=
    (perm_places_ofEntries entries).nodup_iff.2 hplaces
  refine hboth.eq_of_pairwise ?_ (pairwise_entries _)
    (pairwise_entries _)
  intro a b ha hb hab hba
  -- entries that are in order both ways have the same place, so there is only one
  have hplace : a.place = b.place := by
    simp only [Entry.place, Prod.mk.injEq]
    omega
  exact List.inj_on_of_nodup_map hdistinct ha (hboth.mem_iff.2 hb) hplace

/-- **Order does not matter**: maps made from the same entries in two orders have the same
    number of mappings and the same sources, each listed once, and answer the same about all
    places, if no two entries have the same generated place. Mapping by mapping they say the
    same, so that the numbers of the sources are all in which they can differ. -/
theorem reordered_entries_agree (hperm : entries.Perm entries')
    (hplaces : (entries.map Entry.place).Nodup) :
    (ofEntries entries).mappings.size = (ofEntries entries').mappings.size ∧
      (ofEntries entries).sources.toList.Nodup ∧ (ofEntries entries').sources.toList.Nodup ∧
      (∀ s, s ∈ (ofEntries entries).sources.toList ↔ s ∈ (ofEntries entries').sources.toList) ∧
      (ofEntries entries).entries = (ofEntries entries').entries ∧
      ∀ generated, (ofEntries entries).originalPosition generated =
        (ofEntries entries').originalPosition generated := by
  have hentries := entries_ofEntries_of_perm hperm hplaces
  refine ⟨?_, nodup_sourcesOf entries, nodup_sourcesOf entries',
    fun s => (perm_sourcesOf hperm).mem_iff, hentries, fun generated => ?_⟩
  · rw [size_mappings_ofEntries, size_mappings_ofEntries, hperm.length_eq]
  · exact originalPosition_congr (by rw [lineEntries, lineEntries, hentries])

/-- Entries on two lines, from two sources and from none. -/
def twoSources : List Entry :=
  [{ line := 2, column := 3, originLine := 0, originColumn := 0,
      source := some "b.js", isRange := false },
    { line := 0, column := 10, originLine := 0, originColumn := 0,
      source := none, isRange := false },
    { line := 0, column := 0, originLine := 1, originColumn := 4,
      source := some "a.js", isRange := false }]

/-- The entries the other way round: their sources have other numbers. -/
theorem reordered_entries_agree_twoSources :
    (twoSources.Perm twoSources.reverse ∧ (twoSources.map Entry.place).Nodup) ∧
      ((ofEntries twoSources).sources.toList = ["b.js", "a.js"] ∧
        (ofEntries twoSources.reverse).sources.toList = ["a.js", "b.js"]) ∧
      (ofEntries twoSources).mappings.toList ≠ (ofEntries twoSources.reverse).mappings.toList ∧
      ∀ generated, (ofEntries twoSources).originalPosition generated =
        (ofEntries twoSources.reverse).originalPosition generated := by
  have hperm : twoSources.Perm twoSources.reverse := twoSources.reverse_perm.symm
  have hplaces : (twoSources.map Entry.place).Nodup := by decide
  obtain ⟨-, -, -, -, -, hpositions⟩ := reordered_entries_agree hperm hplaces
  exact ⟨⟨hperm, hplaces⟩, ⟨by decide, by decide⟩, by decide, hpositions⟩

end SourceMap

end MapAudit
