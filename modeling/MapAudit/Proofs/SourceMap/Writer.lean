import MapAudit.Proofs.Json.Written
import MapAudit.Proofs.SourceMap.Document
import MapAudit.Proofs.SourceMap.Entries
import MapAudit.Proofs.SourceMap.Segments

/-! # Written documents

    A map can be made from entries directly, or by way of a text: the entries are written
    as a document, and the document is parsed. Both ways lead to the same map, as long as no
    entry is a range and all numbers fit into 32 bits.

    The layout of the document does not matter. Every text that holds a plain document with
    the sources of the entries, no source root and the written mappings is accepted. Nor does
    the order of the entries: mappings are sorted on both ways, and those of the same place
    keep their order.
-/

namespace MapAudit

open Text (Coordinate)

namespace Document

variable {room : Nat} {key : String} {members : List (String × Json)}

/-! ### Members of a written document -/

theorem optional?_of_absent {α : Type} (shape : Shape α) (h : key ∉ members.map (·.1)) :
    optional? shape key room members = some none := by
  have hnone : valuesOf key members = [] := by
    rw [valuesOf, List.map_eq_nil_iff, List.filter_eq_nil_iff]
    intro m hm hkey
    exact h (List.mem_map.2 ⟨m, hm, of_decide_eq_true hkey⟩)
  rw [optional?, hnone]

theorem listOf?_map_string (room : Nat) (sources : List String) :
    listOf? (nullOr? text?) (room + 1) (.array (sources.map .string)) =
      some (sources.map some) := by
  rw [listOf?, List.mapM_map]
  exact List.mapM_pure

/-- The members that a document is written with. -/
def writtenMembers (sources : List String) (mappings : String) : List (String × Json) :=
  [("version", .ofNat 3),
    ("sources", .array (sources.map .string)),
    ("names", .array []),
    ("mappings", .string mappings)]

theorem readsBack_writtenMembers (sources : List String) (mappings : String) :
    Json.ReadsBack (.object (writtenMembers sources mappings)) := by
  refine .object _ ?_
  intro m hm
  simp only [writtenMembers, List.mem_cons, List.not_mem_nil, or_false] at hm
  rcases hm with rfl | rfl | rfl | rfl
  · exact .nat 3
  · refine .array _ ?_
    intro v hv
    obtain ⟨s, -, rfl⟩ := List.mem_map.1 hv
    exact .string s
  · exact .array [] fun v hv => absurd hv List.not_mem_nil
  · exact .string mappings

/-- **Written members** are those of a plain document. -/
theorem ofJson?_writtenMembers (sources : List String) (mappings : String) :
    ofJson? Json.maxNesting (.object (writtenMembers sources mappings)) =
      some (.plain { sources, sourceRoot := "", names := 0, mappings, rangeMappings := "" }) := by
  -- four keys are written, and all others are absent
  have habsent : ∀ {α : Type} (shape : Shape α) (key : String),
      key ∉ ["version", "sources", "names", "mappings"] →
        optional? shape key 126 (writtenMembers sources mappings) = some none :=
    fun shape _ h => optional?_of_absent shape h
  have hversion : optional? word? "version" 126 (writtenMembers sources mappings) =
      some (some 3) := rfl
  have hsources : optional? (listOf? (nullOr? text?)) "sources" 126
      (writtenMembers sources mappings) = some (some (sources.map some)) :=
    congrArg (Option.map some) (listOf?_map_string 125 sources)
  have hnames : optional? (listOf? anything?) "names" 126 (writtenMembers sources mappings) =
      some (some []) := rfl
  have hmappings : optional? text? "mappings" 126 (writtenMembers sources mappings) =
      some (some mappings) := rfl
  have hsame : (sources.map some).map (·.getD "") = sources := by simp
  rw [Json.maxNesting, ofJson?.eq_def]
  refine Option.bind_eq_some_iff.2 ⟨(), rfl, ?_⟩
  simp (disch := decide) only [hversion, hsources, hnames, hmappings, habsent,
    Option.bind_eq_bind, Option.bind_some, Option.getD_some, Option.getD_none, hsame]
  rfl

/-! ### Bodies that hold entries -/

/-- **Body with entries**: it lists their sources in order of first use, not relative to
    anything, and has their mappings in written form, without ranges. -/
structure Body.Holds (body : Body) (entries : List SourceMap.Entry) : Prop where
  /-- The sources are those of the entries. -/
  sources : body.sources = SourceMap.sourcesOf entries
  /-- There is no source root. -/
  sourceRoot : body.sourceRoot = ""
  /-- The mappings are those of the entries. -/
  mappings : body.mappings = SourceMap.mappingsText
    (entries.map (SourceMap.Entry.toMapping (SourceMap.sourcesOf entries)))
  /-- There are no range bits. -/
  rangeMappings : body.rangeMappings = ""

/-- **Written text** holds a plain document with the entries. -/
theorem parse_write (entries : List SourceMap.Entry) :
    ∃ body, parse (SourceMap.write entries) = .ok (.plain body) ∧ body.Holds entries := by
  refine ⟨_, parse_eq_ok_iff.2 ⟨_, _, ?_, Json.scan?_compactText (readsBack_writtenMembers
    (SourceMap.sourcesOf entries) (SourceMap.mappingsText
      (entries.map (SourceMap.Entry.toMapping (SourceMap.sourcesOf entries))))),
    ofJson?_writtenMembers _ _⟩, ⟨rfl, rfl, rfl, rfl⟩⟩
  -- the text begins with a brace, so there is no header line
  rw [SourceMap.write, Json.compact, String.toList_ofList, Json.compactText]
  rfl

end Document

namespace SourceMap

variable {entries : List Entry} {body : Document.Body}

/-! ### Entries that can be written -/

/-- **Writable entries** are no ranges, and their numbers fit into 32 bits. -/
structure Entry.Writable (e : Entry) : Prop where
  /-- The entry is no range. -/
  point : e.isRange = false
  /-- The generated column fits. -/
  column : e.column < 0x100000000
  /-- The place in the source fits, if there is one. -/
  origin : e.source ≠ none → e.originLine < 0x100000000 ∧ e.originColumn < 0x100000000

instance (e : Entry) : Decidable e.Writable :=
  decidable_of_iff
    (e.isRange = false ∧ e.column < 0x100000000 ∧
      (e.source ≠ none → e.originLine < 0x100000000 ∧ e.originColumn < 0x100000000))
    ⟨fun ⟨point, column, origin⟩ => ⟨point, column, origin⟩,
      fun h => ⟨h.point, h.column, h.origin⟩⟩

theorem toMapping_writable {e : Entry} (he : e ∈ entries) (hwritable : e.Writable)
    (hcount : (sourcesOf entries).length ≤ 0x100000000) :
    (e.toMapping (sourcesOf entries)).Writable (sourcesOf entries).length := by
  refine ⟨hwritable.point, hwritable.column, ?_⟩
  intro o ho
  obtain ⟨s, hs, rfl⟩ := Option.map_eq_some_iff.1 ho
  have hlisted : (sourcesOf entries).idxOf s < (sourcesOf entries).length :=
    List.idxOf_lt_length_iff.2 (mem_sourcesOf he hs)
  obtain ⟨hline, hcolumn⟩ := hwritable.origin (by rw [hs]; exact Option.some_ne_none s)
  exact ⟨hlisted, Nat.lt_of_lt_of_le hlisted hcount, hline, hcolumn⟩

/-- **Same map** as the one made from the entries. -/
theorem toSourceMap_of_holds (h : body.Holds entries) (hwritable : ∀ e ∈ entries, e.Writable)
    (hcount : (sourcesOf entries).length ≤ 0x100000000) :
    body.toSourceMap = .ok (ofEntries entries) := by
  obtain ⟨hsources, hroot, hmappings, hranges⟩ := h
  have hroots : ∀ l : List String, l.map (Document.underRoot "") = l := by
    intro l
    have hsame : ∀ s, Document.underRoot "" s = s := fun s => if_pos (Or.inl rfl)
    rw [List.map_congr_left fun s _ => hsame s, List.map_id']
  have hread : Segments.read { sources := (sourcesOf entries).length, names := body.names }
      (mappingsText (entries.map (Entry.toMapping (sourcesOf entries)))) "" =
      .ok (Mapping.sort (entries.map (Entry.toMapping (sourcesOf entries)))) := by
    apply read_mappingsText
    intro m hm
    obtain ⟨e, he, rfl⟩ := List.mem_map.1 hm
    exact toMapping_writable he (hwritable e he) hcount
  have hsorted : Mapping.sort (Mapping.sort (entries.map (Entry.toMapping (sourcesOf entries)))) =
      Mapping.sort (entries.map (Entry.toMapping (sourcesOf entries))) :=
    Mapping.sort_of_pairwise (Mapping.pairwise_sort _)
  simp only [Document.Body.toSourceMap, hsources, hroot, hmappings, hranges, hread, hroots, bind,
    Except.bind]
  simp only [ofEntries, ofMappings, hsorted]
  rfl

theorem parse_of_holds {text : String} (hparse : Document.parse text = .ok (.plain body))
    (h : body.Holds entries) (hwritable : ∀ e ∈ entries, e.Writable)
    (hcount : (sourcesOf entries).length ≤ 0x100000000) :
    SourceMap.parse text = .ok (ofEntries entries) := by
  rw [SourceMap.parse_of_plain hparse, toSourceMap_of_holds h hwritable hcount]

/-! ### Both ways to a map -/

/-- **Agreement** of a map with the one made from some entries. -/
structure Agrees (map : SourceMap) (entries : List Entry) : Prop where
  /-- There is a mapping for every entry. -/
  count : map.mappings.size = entries.length
  /-- The sources are those of the entries, in order of first use. -/
  sources : map.sources.toList = sourcesOf entries
  /-- Every place comes from where the map made from the entries says. -/
  positions : ∀ place, map.originalPosition place = (ofEntries entries).originalPosition place

theorem agrees_ofEntries (entries : List Entry) : (ofEntries entries).Agrees entries :=
  ⟨size_mappings_ofEntries entries, rfl, fun _ => rfl⟩

/-- **By way of a text**: entries that are no ranges and fit into 32 bits can be written as a
    document that is accepted, and the map it holds agrees with the one made from the
    entries. The same is so for every other text that holds the entries. -/
theorem written_agrees (hwritable : ∀ e ∈ entries, e.Writable)
    (hcount : (sourcesOf entries).length ≤ 0x100000000) :
    (∃ m, SourceMap.parse (write entries) = .ok m ∧ m.Agrees entries) ∧
      ∀ text body, Document.parse text = .ok (.plain body) → body.Holds entries →
        ∃ m, SourceMap.parse text = .ok m ∧ m.Agrees entries := by
  have hheld : ∀ text body, Document.parse text = .ok (.plain body) → body.Holds entries →
      ∃ m, SourceMap.parse text = .ok m ∧ m.Agrees entries := fun text body hparse hholds =>
    ⟨ofEntries entries, parse_of_holds hparse hholds hwritable hcount, agrees_ofEntries entries⟩
  obtain ⟨body, hparse, hholds⟩ := Document.parse_write entries
  exact ⟨hheld _ body hparse hholds, hheld⟩

/-- Entries out of order: on several lines, from two sources and from none, with places that
    go back in a source. -/
def outOfOrder : List Entry :=
  [{ line := 3, column := 4, originLine := 0, originColumn := 7,
      source := some "b.js", isRange := false },
    { line := 0, column := 9, originLine := 0, originColumn := 0,
      source := none, isRange := false },
    { line := 0, column := 20, originLine := 2, originColumn := 0,
      source := some "a.js", isRange := false },
    { line := 0, column := 0, originLine := 5, originColumn := 3,
      source := some "b.js", isRange := false }]

theorem written_agrees_outOfOrder :
    (∀ e ∈ outOfOrder, e.Writable) ∧ (sourcesOf outOfOrder).length ≤ 0x100000000 ∧
      mappingsText (outOfOrder.map (Entry.toMapping (sourcesOf outOfOrder))) =
        "AAKG,S,WCHH;;;IDFO" ∧
      ∃ m, SourceMap.parse (write outOfOrder) = .ok m ∧ m.Agrees outOfOrder :=
  ⟨by decide, by decide, by decide, (written_agrees (by decide) (by decide)).1⟩

end SourceMap

end MapAudit
