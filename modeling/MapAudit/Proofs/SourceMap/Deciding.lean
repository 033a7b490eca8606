import MapAudit.Proofs.Mentions
import MapAudit.Proofs.SourceMap.Lookup

/-! # The mapping that decides

    The position that a map answers with can be told from a plain list of its mappings,
    in any order. A mapping *reaches* a place when it lies on the line of the place and
    not behind it. If none reaches the place, the answer is unknown, whatever there is on
    other lines. Otherwise one that reaches furthest decides: without a source the answer
    is unknown again, even if another mapping of the line has one; and with a source it
    is the place the mapping leads to, moved on by the columns in between if the mapping
    is a range.

    The list may be that of the mappings of a map, or that of the entries from which a map
    is made.
-/

namespace MapAudit

open Text (Coordinate)

namespace SourceMap

variable {map : SourceMap} {generated : Coordinate} {line column : Nat}

/-! ### Entries that reach a place -/

namespace Entry

/-- **Reaching**: an entry reaches a place on its line that is not before it. -/
def Reaches (generated : Coordinate) (e : Entry) : Prop :=
  e.line + 1 = generated.line ∧ e.column ≤ generated.column

instance (e : Entry) : Decidable (e.Reaches generated) :=
  inferInstanceAs (Decidable (_ ∧ _))

/-- How far a place is moved on in the source. Only ranges move it. -/
def moved (column : Nat) (e : Entry) : Nat :=
  if e.isRange then column - e.column else 0

end Entry

/-- **Answer by scanning** some entries for the one that decides about a place. -/
structure ScanAnswer (entries : List Entry) (generated : Coordinate)
    (answer : OriginalPosition) : Prop where
  /-- There is no line before the first one. -/
  line_zero : generated.line = 0 → answer = .unknown
  /-- Where no entry reaches, nothing is known. -/
  unreached : (∀ e ∈ entries, ¬ e.Reaches generated) → answer = .unknown
  /-- Otherwise an entry with the greatest column decides. -/
  decided : (∃ e ∈ entries, e.Reaches generated) →
    ∃ t ∈ entries, t.Reaches generated ∧
      (∀ e ∈ entries, e.Reaches generated → e.column ≤ t.column) ∧
      (t.source = none → answer = .unknown) ∧
      ∀ s, t.source = some s → t.originColumn + t.moved generated.column ≤ maxColumn →
        answer =
          { source := some s
            line := some (t.originLine + 1)
            column := some (t.originColumn + t.moved generated.column) }

/-! ### What a mapping says -/

/-- A mapping with the name of its source. What is not listed is no source. -/
def entryOf (map : SourceMap) (m : Mapping) : Entry where
  line := m.line
  column := m.column
  originLine := (m.origin.map Origin.line).getD 0
  originColumn := (m.origin.map Origin.column).getD 0
  source := m.origin.bind fun o => map.sources[o.source]?
  isRange := m.isRange

/-- The mappings of a map with the names of their sources. -/
def entries (map : SourceMap) : List Entry :=
  map.mappings.toList.map map.entryOf

theorem mem_entries {e : Entry} : e ∈ map.entries ↔ ∃ m ∈ map.mappings.toList, map.entryOf m = e :=
  List.mem_map

theorem answer_of_source_eq_none {m : Mapping} (h : (map.entryOf m).source = none)
    (column : Nat) : map.answer m column = .unknown := by
  cases horigin : m.origin with
  | none => simp only [answer, horigin]
  | some o =>
    have hunlisted : map.sources[o.source]? = none := by
      simpa only [entryOf, horigin, Option.bind_some] using h
    simp only [answer, horigin, hunlisted]

/-- A mapping with a source says where it leads, if the column is small enough to be said. -/
theorem answer_of_source_eq_some {m : Mapping} {s : String}
    (h : (map.entryOf m).source = some s)
    (hsmall : (map.entryOf m).originColumn + (map.entryOf m).moved column ≤ maxColumn) :
    map.answer m column =
      { source := some s
        line := some ((map.entryOf m).originLine + 1)
        column := some ((map.entryOf m).originColumn + (map.entryOf m).moved column) } := by
  cases horigin : m.origin with
  | none => exact absurd h (by simp [entryOf, horigin])
  | some o =>
    have hlisted : map.sources[o.source]? = some s := by
      simpa only [entryOf, horigin, Option.bind_some] using h
    simp only [entryOf, Entry.moved, horigin, Option.map_some, Option.getD_some] at hsmall ⊢
    simp only [answer, horigin, hlisted, OriginalPosition.inSource]
    by_cases hrange : m.isRange = true
    · rw [if_pos hrange] at hsmall
      simp only [hrange, if_true, Nat.min_eq_left hsmall]
    · simp only [hrange, if_false, Nat.add_zero, Bool.false_eq_true]

/-! ### The scan -/

theorem mem_upTo {m : Mapping} :
    m ∈ map.upTo line column ↔ m ∈ map.mappings.toList ∧ m.line = line ∧ m.column ≤ column := by
  simp only [upTo, List.mem_filter, decide_eq_true_eq]

/-- A scan finds nothing exactly when there is nothing on the line up to the column. -/
theorem scan?_eq_none_iff : map.scan? line column = none ↔ map.upTo line column = [] := by
  rw [scan?, Option.or_eq_none_iff, List.getLast?_eq_none_iff]
  constructor
  · exact And.right
  · intro hnil
    exact ⟨by rw [hnil, List.find?_nil], hnil⟩

/-- **Furthest mapping**: a scan finds one with the greatest column. -/
theorem scan?_greatest {t : Mapping} (h : map.scan? line column = some t) :
    t ∈ map.upTo line column ∧ ∀ m ∈ map.upTo line column, m.column ≤ t.column := by
  rcases Option.or_eq_some_iff.1 h with hexact | ⟨-, hlast⟩
  · -- a mapping right at the place has the greatest column there can be
    have hcolumn : t.column = column := by simpa using List.find?_some hexact
    refine ⟨List.mem_of_find?_eq_some hexact, fun m hm => ?_⟩
    rw [hcolumn]
    exact (mem_upTo.1 hm).2.2
  · -- the last mapping of the line has it, since the mappings are in order
    obtain ⟨init, hinit⟩ := List.getLast?_eq_some_iff.1 hlast
    have hsorted : (map.upTo line column).Pairwise (· ≤ ·) :=
      map.sorted.sublist List.filter_sublist
    have hmem : t ∈ map.upTo line column := by simp [hinit]
    refine ⟨hmem, ?_⟩
    intro m hm
    have hle : m ≤ t ∨ m = t := by
      rw [hinit] at hm hsorted
      rcases List.mem_append.1 hm with hm | hm
      · exact Or.inl ((List.pairwise_append.1 hsorted).2.2 m hm t (by simp))
      · exact Or.inr (List.mem_singleton.1 hm)
    rcases hle with hle | rfl
    · have hline := (mem_upTo.1 hm).2.1
      have hline' := (mem_upTo.1 hmem).2.1
      have horder := Mapping.le_iff.1 hle
      omega
    · exact Nat.le_refl _

/-! ### The position -/

theorem mem_upTo_iff_reaches {m : Mapping} (hline : generated.line ≠ 0) :
    m ∈ map.upTo (generated.line - 1) generated.column ↔
      m ∈ map.mappings.toList ∧ (map.entryOf m).Reaches generated := by
  have hsame : m.line = generated.line - 1 ↔ m.line + 1 = generated.line := by omega
  rw [mem_upTo, hsame]
  rfl

/-- **Exact place**: where a mapping begins, one that begins there answers. -/
theorem originalPosition_eq_answer {m : Mapping} (hm : m ∈ map.mappings.toList)
    (hline : m.line + 1 = generated.line) (hcolumn : m.column = generated.column) :
    ∃ t ∈ map.mappings.toList, t.line + 1 = generated.line ∧ t.column = generated.column ∧
      map.originalPosition generated = map.answer t generated.column := by
  have hne : generated.line ≠ 0 := by omega
  have hreach : m ∈ map.upTo (generated.line - 1) generated.column :=
    (mem_upTo_iff_reaches hne).2 ⟨hm, hline, by simp only [entryOf]; omega⟩
  rw [originalPosition_eq_scannedPosition, scannedPosition, if_neg hne]
  cases hscan : map.scan? (generated.line - 1) generated.column with
  | none =>
    rw [scan?_eq_none_iff.1 hscan] at hreach
    exact absurd hreach (by simp)
  | some t =>
    obtain ⟨hmem, hgreatest⟩ := scan?_greatest hscan
    obtain ⟨ht, hlast, hle⟩ := mem_upTo.1 hmem
    have hge := hgreatest m hreach
    exact ⟨t, ht, by omega, by omega, rfl⟩

/-- **Position by the deciding mapping** of a map. -/
theorem scanAnswer_entries (map : SourceMap) (generated : Coordinate) :
    ScanAnswer map.entries generated (map.originalPosition generated) := by
  rw [originalPosition_eq_scannedPosition]
  by_cases hline : generated.line = 0
  · have hunknown : map.scannedPosition generated = .unknown := if_pos hline
    refine ⟨fun _ => hunknown, fun _ => hunknown, ?_⟩
    rintro ⟨e, -, hreaches, -⟩
    omega
  · rw [scannedPosition, if_neg hline]
    cases hscan : map.scan? (generated.line - 1) generated.column with
    | none =>
      have hnil := scan?_eq_none_iff.1 hscan
      refine ⟨fun _ => rfl, fun _ => rfl, ?_⟩
      rintro ⟨e, he, hreaches⟩
      obtain ⟨m, hm, rfl⟩ := mem_entries.1 he
      have hmem := (mem_upTo_iff_reaches hline).2 ⟨hm, hreaches⟩
      rw [hnil] at hmem
      exact absurd hmem (by simp)
    | some t =>
      obtain ⟨hmem, hgreatest⟩ := scan?_greatest hscan
      obtain ⟨ht, hreaches⟩ := (mem_upTo_iff_reaches hline).1 hmem
      have hentry : map.entryOf t ∈ map.entries := mem_entries.2 ⟨t, ht, rfl⟩
      refine ⟨fun h => absurd h hline, fun h => absurd hreaches (h _ hentry), ?_⟩
      intro _
      refine ⟨map.entryOf t, hentry, hreaches, ?_,
        fun hnone => answer_of_source_eq_none hnone _, fun s hs => answer_of_source_eq_some hs⟩
      intro e he hreach
      obtain ⟨m, hm, rfl⟩ := mem_entries.1 he
      exact hgreatest m ((mem_upTo_iff_reaches hline).2 ⟨hm, hreach⟩)

/-! ### Maps made from entries -/

namespace Entry

/-- The entry as a map tells it: without source, there is no place in a source. -/
def told (e : Entry) : Entry :=
  match e.source with
  | none => { e with originLine := 0, originColumn := 0 }
  | some _ => e

theorem told_of_source_eq_some {e : Entry} {s : String} (h : e.source = some s) : e.told = e := by
  simp only [told, h]

theorem told_of_source_eq_none {e : Entry} (h : e.source = none) :
    e.told = { e with originLine := 0, originColumn := 0 } := by
  simp only [told, h]

@[simp] theorem told_line (e : Entry) : e.told.line = e.line := by
  unfold told
  split <;> rfl

@[simp] theorem told_column (e : Entry) : e.told.column = e.column := by
  unfold told
  split <;> rfl

@[simp] theorem told_source (e : Entry) : e.told.source = e.source := by
  unfold told
  split <;> rfl

theorem told_reaches_iff {e : Entry} : e.told.Reaches generated ↔ e.Reaches generated := by
  simp only [Reaches, told_line, told_column]

end Entry

/-- Every source that an entry names is listed. -/
theorem mem_sourcesOf {entries : List Entry} {e : Entry} {s : String} (he : e ∈ entries)
    (hs : e.source = some s) : s ∈ sourcesOf entries :=
  List.mem_eraseDups.2 (List.mem_filterMap.2 ⟨e, he, hs⟩)

/-- No source is listed twice. -/
theorem nodup_sourcesOf (entries : List Entry) : (sourcesOf entries).Nodup :=
  (firstMentions_eraseDups (entries.filterMap Entry.source)).once

/-- The mapping of an entry says what the entry says. -/
theorem entryOf_toMapping {entries : List Entry} {e : Entry} (he : e ∈ entries) :
    (ofEntries entries).entryOf (e.toMapping (sourcesOf entries)) = e.told := by
  cases hsource : e.source with
  | none =>
    rw [Entry.told_of_source_eq_none hsource]
    simp only [entryOf, Entry.toMapping, hsource, Option.map_none, Option.getD_none,
      Option.bind_none]
  | some s =>
    have hlisted : (sourcesOf entries)[(sourcesOf entries).idxOf s]? = some s :=
      List.getElem?_idxOf (mem_sourcesOf he hsource)
    have hnumber : (ofEntries entries).sources[(sourcesOf entries).idxOf s]? = some s := by
      rw [← hlisted]
      exact List.getElem?_toArray
    rw [Entry.told_of_source_eq_some hsource]
    simp only [entryOf, Entry.toMapping, hsource, Option.map_some, Option.getD_some,
      Option.bind_some, hnumber]
    rw [← hsource]

theorem mem_entries_ofEntries {entries : List Entry} {e : Entry} :
    e ∈ (ofEntries entries).entries ↔ ∃ given ∈ entries, given.told = e := by
  have hmappings : (ofEntries entries).mappings.toList =
      Mapping.sort (entries.map (Entry.toMapping (sourcesOf entries))) := rfl
  simp only [mem_entries, hmappings, Mapping.mem_sort, List.mem_map]
  constructor
  · rintro ⟨_, ⟨given, hgiven, rfl⟩, rfl⟩
    exact ⟨given, hgiven, (entryOf_toMapping hgiven).symm⟩
  · rintro ⟨given, hgiven, rfl⟩
    exact ⟨_, ⟨given, hgiven, rfl⟩, entryOf_toMapping hgiven⟩

/-- **Position by the deciding entry** of a map made from entries. -/
theorem scanAnswer_ofEntries (entries : List Entry) (generated : Coordinate) :
    ScanAnswer entries generated ((ofEntries entries).originalPosition generated) := by
  have hanswer := scanAnswer_entries (ofEntries entries) generated
  refine ⟨hanswer.line_zero, fun hnone => hanswer.unreached ?_, ?_⟩
  · intro e he
    obtain ⟨given, hgiven, rfl⟩ := mem_entries_ofEntries.1 he
    exact mt Entry.told_reaches_iff.1 (hnone given hgiven)
  · rintro ⟨e, he, hreaches⟩
    have htold : e.told ∈ (ofEntries entries).entries := mem_entries_ofEntries.2 ⟨e, he, rfl⟩
    -- the entry that decides is told from a given one, at the same place
    obtain ⟨_, ht, hreach, hgreatest, hnone, hsome⟩ :=
      hanswer.decided ⟨_, htold, Entry.told_reaches_iff.2 hreaches⟩
    obtain ⟨given, hgiven, rfl⟩ := mem_entries_ofEntries.1 ht
    refine ⟨given, hgiven, Entry.told_reaches_iff.1 hreach, ?_, ?_, ?_⟩
    · intro e' he' hreach'
      have htold' := mem_entries_ofEntries.2 ⟨e', he', rfl⟩
      have hle := hgreatest _ htold' (Entry.told_reaches_iff.2 hreach')
      simpa only [Entry.told_column] using hle
    · intro hsource
      exact hnone (by rw [Entry.told_source, hsource])
    · intro s hsource
      rw [Entry.told_of_source_eq_some hsource] at hsome
      exact hsome s hsource

/-! ### Positions as a whole -/

/-- **Whole positions** have all three parts or none, and only listed sources. -/
structure WholePosition (map : SourceMap) (p : OriginalPosition) : Prop where
  /-- The line is absent with the source. -/
  line_iff : p.line = none ↔ p.source = none
  /-- The column is absent with the source. -/
  column_iff : p.column = none ↔ p.source = none
  /-- The source is one of the map's. -/
  listed : ∀ s, p.source = some s → s ∈ map.sources.toList

theorem wholePosition_unknown (map : SourceMap) : map.WholePosition .unknown :=
  ⟨⟨fun _ => rfl, fun _ => rfl⟩, ⟨fun _ => rfl, fun _ => rfl⟩,
    fun _ h => absurd h (by simp [OriginalPosition.unknown])⟩

theorem wholePosition_answer (map : SourceMap) (m : Mapping) (column : Nat) :
    map.WholePosition (map.answer m column) := by
  unfold answer
  split
  · exact wholePosition_unknown map
  · next o _ =>
    split
    · exact wholePosition_unknown map
    · next s hs =>
      refine ⟨by simp [OriginalPosition.inSource], by simp [OriginalPosition.inSource], ?_⟩
      intro s' hs'
      obtain rfl := Option.some.inj hs'
      rw [← Array.getElem?_toList] at hs
      exact List.mem_of_getElem? hs

theorem wholePosition_originalPosition (map : SourceMap) (generated : Coordinate) :
    map.WholePosition (map.originalPosition generated) := by
  unfold originalPosition
  split
  · exact wholePosition_unknown map
  · split
    · exact wholePosition_unknown map
    · split
      · exact wholePosition_answer map _ _
      · exact wholePosition_unknown map

/-- **Original positions** of a map are decided by its furthest mapping that reaches the
    place, and those of a map made from entries by the furthest such entry. They are whole. -/
theorem originalPosition_decided :
    (∀ (map : SourceMap) (generated : Coordinate),
      ScanAnswer map.entries generated (map.originalPosition generated) ∧
        map.WholePosition (map.originalPosition generated)) ∧
    ∀ (entries : List Entry) (generated : Coordinate),
      ScanAnswer entries generated ((ofEntries entries).originalPosition generated) := by
  constructor
  · intro map generated
    exact ⟨scanAnswer_entries map generated, wholePosition_originalPosition map generated⟩
  · intro entries generated
    exact scanAnswer_ofEntries entries generated

/-- A source-less entry hides the one before it, and a range moves on with the column. -/
example :
    let map := ofEntries [⟨2, 0, 0, 0, none, false⟩, ⟨0, 9, 1, 4, some "a.js", true⟩,
      ⟨0, 14, 0, 0, none, false⟩]
    map.originalPosition ⟨1, 12⟩ = ⟨some "a.js", some 2, some 7⟩ ∧
      map.originalPosition ⟨1, 20⟩ = .unknown ∧ map.originalPosition ⟨2, 20⟩ = .unknown := by
  decide +kernel

end SourceMap

end MapAudit
