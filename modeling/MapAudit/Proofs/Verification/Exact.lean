import MapAudit.Proofs.SourceMap.Deciding
import MapAudit.Proofs.SourceMap.Writer
import MapAudit.Proofs.Verification.Bundle
import MapAudit.Proofs.Verification.Probes
import Mathlib.Data.List.Perm.Subperm

/-! # Exact maps raise no alarm

    If every probe is found in the copy of its own file, and the map leads from there to
    where the probe stands in the file and has no other mappings, then every check of a
    bundle holds and nothing is reported.

    For every fixture and every output that shows its probes there is such a map: that of
    the entries from where the probes stand in the output to where they stand in their
    files. It can be written as a text.
-/

namespace MapAudit

open Text (Coordinate LineIndex StandsAfter utf8Length utf16Length lastLine breaks)

namespace Verification

variable {fixture : Fixture} {prelude : String} {p q : Probe} {f : FixtureFile}
  {before : List FixtureFile} {front : List Char}

/-! ### Exact mappings -/

/-- **Exact mapping** of a probe: it leads from where its literal stands first in the output
    to where it stands first in its source, and covers no other columns. -/
structure MapsExactly (map : SourceMap) (fixture : Fixture) (output : List Char) (p : Probe)
    (m : Mapping) : Prop where
  /-- The mapping begins where the literal stands in the output. -/
  shown : ∃ front, StandsAfter p.literal.toList output front ∧
    m.line = breaks front ∧ m.column = utf16Length (lastLine front)
  /-- It leads to where the literal stands in the file the probe originates from. -/
  written : ∃ file ∈ fixture.files, file.path = p.origin ∧
    ∃ front, StandsAfter p.literal.toList file.source.toList front ∧
      ∃ o, m.origin = some o ∧ map.sources[o.source]? = some p.origin ∧
        o.line = breaks front ∧ o.column = utf16Length (lastLine front)
  /-- It is no range. -/
  single : m.isRange = false

/-- **Exact map** of a fixture: every probe has an exact mapping, and there are no other
    mappings. -/
structure MapsProbes (map : SourceMap) (fixture : Fixture) (output : List Char) : Prop where
  /-- Every probe is mapped. -/
  mapped : ∀ p ∈ fixture.probes, ∃ m ∈ map.mappings.toList, MapsExactly map fixture output p m
  /-- Nothing else is mapped. -/
  others : ∀ m ∈ map.mappings.toList, ∃ p ∈ fixture.probes, MapsExactly map fixture output p m

variable {map : SourceMap} {output : List Char} {m : Mapping}

/-- What an exact mapping of a probe answers, where the literal stands behind `front` in the
    file `f`. -/
theorem MapsExactly.answer_eq (h : MapsExactly map fixture output p m)
    (hf : f ∈ fixture.files) (hpath : f.path = p.origin)
    (hfront : StandsAfter p.literal.toList f.source.toList front) (column : Nat) :
    map.answer m column = .inSource f.path (.after front) := by
  obtain ⟨g, hg, hgpath, written, hwritten, o, ho, hsource, hline, hcolumn⟩ := h.written
  have hfile : g = f :=
    List.inj_on_of_nodup_map fixture.distinct hg hf (hgpath.trans hpath.symm)
  subst hfile
  obtain rfl := hwritten.unique hfront
  simp only [SourceMap.answer, ho, hsource, h.single, hpath, Coordinate.after, hline, hcolumn,
    Bool.false_eq_true, if_false]

/-- **Exact answer**: an exact map leads every probe that is found in its own copy to where
    it stands in its file. -/
theorem MapsProbes.originalPosition_eq (h : MapsProbes map fixture (bundle prelude fixture).toList)
    (hown : ∀ p ∈ fixture.probes, InOwnCopy prelude fixture p) (hp : p ∈ fixture.probes)
    (hfound : FoundIn prelude fixture p before f front) :
    map.originalPosition (.after (prelude.toList ++ copies before ++ front)) =
      .inSource f.path (.after front) := by
  obtain ⟨m, hm, hexact⟩ := h.mapped p hp
  obtain ⟨shown, hshown, hline, hcolumn⟩ := hexact.shown
  obtain rfl := hshown.unique hfound.stands
  have hplace : m.line + 1 = (Coordinate.after (prelude.toList ++ copies before ++ front)).line ∧
      m.column = (Coordinate.after (prelude.toList ++ copies before ++ front)).column :=
    ⟨congrArg (· + 1) hline, hcolumn⟩
  obtain ⟨t, ht, htline, htcolumn, hanswer⟩ :=
    SourceMap.originalPosition_eq_answer hm hplace.1 hplace.2
  rw [hanswer]
  -- the mapping that answers is that of a probe found in the same place
  obtain ⟨q, hq, hexact'⟩ := h.others t ht
  obtain ⟨before', f', front', hfound', hpath'⟩ := hown q hq
  obtain ⟨shown', hshown', hline', hcolumn'⟩ := hexact'.shown
  obtain rfl := hshown'.unique hfound'.stands
  obtain ⟨rest, hrest⟩ := hfound.stands.occurs
  obtain ⟨rest', hrest'⟩ := hfound'.stands.occurs
  rw [List.append_assoc] at hrest hrest'
  have hsame : prelude.toList ++ copies before ++ front =
      prelude.toList ++ copies before' ++ front' := by
    apply Coordinate.after_injective (hrest.symm.trans hrest')
    simp only [Coordinate.after, Coordinate.mk.injEq] at htline htcolumn ⊢
    omega
  obtain ⟨rfl, rfl⟩ := hfound.eq_of_append_eq hfound' hsame
  obtain ⟨after, hfiles⟩ := hfound'.file
  exact hexact'.answer_eq (by simp [hfiles]) hpath' hfound'.standsAfter _

/-! ### The verification -/

/-- If every probe has a check that holds, there is a list of such checks. -/
theorem exists_checks_of_forall_hold {probes : List Probe} {index : LineIndex}
    (h : ∀ p ∈ probes, ∃ c, CheckOf fixture map index p c ∧ c.success = true) :
    ∃ checks, List.Forall₂ (CheckOf fixture map index) probes checks ∧
      ∀ c ∈ checks, c.success = true := by
  induction probes with
  | nil => exact ⟨[], .nil, by simp⟩
  | cons p rest ih =>
    obtain ⟨c, hc, hsuccess⟩ := h p List.mem_cons_self
    obtain ⟨checks, hchecks, hall⟩ := ih fun q hq => h q (List.mem_cons_of_mem _ hq)
    exact ⟨c :: checks, .cons hc hchecks, List.forall_mem_cons.2 ⟨hsuccess, hall⟩⟩

/-- A consistent recorder whose checks all hold has counted and reported no failure. -/
theorem consistent_forall_hold {r : Recorder} (h : r.Consistent)
    (hall : ∀ c ∈ r.checks, c.success = true) :
    r.failed = 0 ∧ r.passed = r.checks.length ∧ r.reported = [] := by
  refine ⟨?_, ?_, ?_⟩
  · rw [h.failed_eq, List.countP_eq_zero]
    intro c hc
    simp [hall c hc]
  · rw [h.passed_eq, List.countP_eq_length]
    exact hall
  · rw [h.reported_eq, Check.diagnostics, List.map_eq_nil_iff, List.filter_eq_nil_iff]
    intro c hc
    simp [hall c hc]

/-- **Everything holds**: if the output links to its map and every probe comes from where
    the map says, no check fails and nothing is reported. -/
theorem ofMap_of_forall_hold {kind : String} (hlink : (checkLink output).success = true)
    (h : ∀ p ∈ fixture.probes, ∃ c, CheckOf fixture map (.ofText output) p c ∧ c.success = true) :
    ∃ report, ofMap kind fixture output map = { result := .ok report, reported := [] } ∧
      report.failed = 0 ∧ report.passed = fixture.probes.length + 1 := by
  obtain ⟨checks, hchecks, hall⟩ := exists_checks_of_forall_hold h
  -- the check of the link is recorded first, and then one check for each probe
  have hrecorded : ((linked kind output).recordAll checks).checks = checkLink output :: checks := by
    simp [linked, Recorder.start]
  have hconsistent := (linked_consistent kind output).recordAll checks
  have hhold : ∀ c ∈ ((linked kind output).recordAll checks).checks, c.success = true := by
    rw [hrecorded]
    exact List.forall_mem_cons.2 ⟨hlink, hall⟩
  obtain ⟨hfailed, hpassed, hreported⟩ := consistent_forall_hold hconsistent hhold
  have hloop : checkProbes fixture map (.ofText output) (linked kind output) fixture.probes =
      ((linked kind output).recordAll checks, none) :=
    checkProbes_eq_none_iff.2 ⟨checks, hchecks, rfl⟩
  refine ⟨((linked kind output).recordAll checks).toReport, ?_, hfailed, ?_⟩
  · rw [ofMap_of_none hloop, hreported]
  · rw [hrecorded, List.length_cons, ← hchecks.length_eq] at hpassed
    exact hpassed

/-- The check of a probe that is found in its own copy holds. -/
theorem MapsProbes.exists_check (h : MapsProbes map fixture (bundle prelude fixture).toList)
    (hown : ∀ p ∈ fixture.probes, InOwnCopy prelude fixture p)
    (hshort : Text.Addressable (bundle prelude fixture).toList) (hp : p ∈ fixture.probes) :
    ∃ c, CheckOf fixture map (.ofText (bundle prelude fixture).toList) p c ∧
      c.success = true := by
  obtain ⟨before, f, front, hfound, hpath⟩ := hown p hp
  have hplaces : probePlaces fixture (.ofText (bundle prelude fixture).toList) p =
      .ok (.inSource f.path (.after front),
        .after (prelude.toList ++ copies before ++ front)) := by
    simp only [probePlaces, hfound.file?_eq hpath, hfound.locate?_source hshort,
      hfound.locate?_bundle hshort]
  refine ⟨_, ⟨_, _, hplaces, rfl⟩, ?_⟩
  simp only [checkPlace, decide_eq_true_eq]
  exact (h.originalPosition_eq hown hp hfound).symm

/-! ### Entries of an exact map -/

/-- The entry from where a probe stands in the output to where it stands in its file. -/
def exactEntryOf? (fixture : Fixture) (output : List Char) (p : Probe) :
    Option SourceMap.Entry := do
  let file ← fixture.file? p.origin
  let written ← locate? (.ofText file.source.toList) p.literal.toList
  let shown ← locate? (.ofText output) p.literal.toList
  return {
    line := shown.line - 1
    column := shown.column
    originLine := written.line - 1
    originColumn := written.column
    source := some p.origin
    isRange := false }

/-- **Exact entries** of a fixture whose probes are shown by an output. -/
def exactEntries (fixture : Fixture) (output : List Char) : List SourceMap.Entry :=
  fixture.probes.filterMap (exactEntryOf? fixture output)

variable {e : SourceMap.Entry} {entries : List SourceMap.Entry}

theorem exactEntryOf?_eq_some (h : exactEntryOf? fixture output p = some e) :
    ∃ file ∈ fixture.files, file.path = p.origin ∧
      ∃ written, StandsAfter p.literal.toList file.source.toList written ∧
        utf8Length written ≤ Text.maxOffset ∧
      ∃ shown, StandsAfter p.literal.toList output shown ∧ utf8Length shown ≤ Text.maxOffset ∧
        e = {
          line := breaks shown
          column := utf16Length (lastLine shown)
          originLine := breaks written
          originColumn := utf16Length (lastLine written)
          source := some p.origin
          isRange := false } := by
  simp only [exactEntryOf?, Option.bind_eq_bind, Option.bind_eq_some_iff] at h
  obtain ⟨file, hfile, place, hplace, place', hplace', hentry⟩ := h
  obtain ⟨hmem, hpath⟩ := Fixture.mem_of_file? hfile
  obtain ⟨written, hwritten, hreach, rfl⟩ := locate?_eq_some_iff.1 hplace
  obtain ⟨shown, hshown, hreach', rfl⟩ := locate?_eq_some_iff.1 hplace'
  exact ⟨file, hmem, hpath, written, hwritten, hreach, shown, hshown, hreach',
    (Option.some.inj hentry).symm⟩

/-- The mapping of an exact entry is exact. -/
theorem mapsExactly_toMapping (he : e ∈ entries) (h : exactEntryOf? fixture output p = some e) :
    MapsExactly (.ofEntries entries) fixture output p
      (e.toMapping (SourceMap.sourcesOf entries)) := by
  obtain ⟨file, hmem, hpath, written, hwritten, -, shown, hshown, -, rfl⟩ :=
    exactEntryOf?_eq_some h
  have hlisted : (SourceMap.ofEntries entries).sources[
      (SourceMap.sourcesOf entries).idxOf p.origin]? = some p.origin := by
    rw [← Array.getElem?_toList]
    exact List.getElem?_idxOf (SourceMap.mem_sourcesOf he rfl)
  exact ⟨⟨shown, hshown, rfl, rfl⟩,
    ⟨file, hmem, hpath, written, hwritten, _, rfl, hlisted, rfl, rfl⟩, rfl⟩

/-- **Exact map** of an output that shows all probes. -/
theorem mapsProbes_exactEntries
    (h : ∀ p ∈ fixture.probes, ∃ e, exactEntryOf? fixture output p = some e) :
    MapsProbes (.ofEntries (exactEntries fixture output)) fixture output := by
  have hmappings : (SourceMap.ofEntries (exactEntries fixture output)).mappings.toList =
      Mapping.sort ((exactEntries fixture output).map
        (SourceMap.Entry.toMapping (SourceMap.sourcesOf (exactEntries fixture output)))) := rfl
  constructor
  · intro p hp
    obtain ⟨e, he⟩ := h p hp
    have hmem : e ∈ exactEntries fixture output := List.mem_filterMap.2 ⟨p, hp, he⟩
    refine ⟨_, ?_, mapsExactly_toMapping hmem he⟩
    rw [hmappings, Mapping.mem_sort]
    exact List.mem_map_of_mem hmem
  · -- a mapping is that of an entry, and an entry is that of a probe
    intro m hm
    rw [hmappings, Mapping.mem_sort] at hm
    obtain ⟨e, hmem, rfl⟩ := List.mem_map.1 hm
    obtain ⟨p, hp, he⟩ := List.mem_filterMap.1 hmem
    exact ⟨p, hp, mapsExactly_toMapping hmem he⟩

/-- Exact entries can be written. -/
theorem exactEntries_writable : ∀ e ∈ exactEntries fixture output, e.Writable := by
  intro e he
  obtain ⟨p, -, hentry⟩ := List.mem_filterMap.1 he
  obtain ⟨_, _, _, written, _, hreach, shown, _, hreach', rfl⟩ := exactEntryOf?_eq_some hentry
  have hfits : ∀ cs : List Char, utf8Length cs ≤ Text.maxOffset →
      breaks cs < 0x100000000 ∧ utf16Length (lastLine cs) < 0x100000000 := by
    intro cs hcs
    have hbreaks := Text.breaks_le_utf8Length cs
    have hcolumn := Text.utf16Length_lastLine_le cs
    unfold Text.maxOffset at hcs
    omega
  exact ⟨rfl, (hfits shown hreach').2, fun _ => hfits written hreach⟩

/-- There are no more sources than files. -/
theorem length_sourcesOf_exactEntries_le (fixture : Fixture) (output : List Char) :
    (SourceMap.sourcesOf (exactEntries fixture output)).length ≤ fixture.files.length := by
  have hsubset : SourceMap.sourcesOf (exactEntries fixture output) ⊆ fixture.paths := by
    intro s hs
    obtain ⟨e, he, hsource⟩ := List.mem_filterMap.1 (List.mem_eraseDups.1 hs)
    obtain ⟨p, -, hentry⟩ := List.mem_filterMap.1 he
    obtain ⟨file, hfile, hpath, _, _, _, _, _, _, rfl⟩ := exactEntryOf?_eq_some hentry
    obtain rfl := Option.some.inj hsource
    exact List.mem_map.2 ⟨file, hfile, hpath⟩
  -- every source is the path of a file and is listed once
  have hle := (SourceMap.nodup_sourcesOf (exactEntries fixture output)).subperm hsubset
  simpa [Fixture.paths] using hle.length_le

/-- The text of the exact entries of a bundle is read as their map. -/
theorem parse_write_exactEntries
    (hshort : Text.Addressable (bundle prelude fixture).toList) :
    SourceMap.parse (SourceMap.write (exactEntries fixture (bundle prelude fixture).toList)) =
      .ok (.ofEntries (exactEntries fixture (bundle prelude fixture).toList)) := by
  have hcount : (SourceMap.sourcesOf
      (exactEntries fixture (bundle prelude fixture).toList)).length ≤ 0x100000000 := by
    have hsources :=
      length_sourcesOf_exactEntries_le fixture (bundle prelude fixture).toList
    have hfiles := length_files_le prelude fixture
    unfold Text.Addressable Text.maxOffset at hshort
    omega
  obtain ⟨body, hparse, hholds⟩ :=
    Document.parse_write (exactEntries fixture (bundle prelude fixture).toList)
  exact SourceMap.parse_of_holds hparse hholds exactEntries_writable hcount

/-- A probe in its own copy has an exact entry. -/
theorem exists_exactEntry (h : InOwnCopy prelude fixture p)
    (hshort : Text.Addressable (bundle prelude fixture).toList) :
    ∃ e, exactEntryOf? fixture (bundle prelude fixture).toList p = some e := by
  obtain ⟨before, f, front, hfound, hpath⟩ := h
  simp only [exactEntryOf?, hfound.file?_eq hpath, hfound.locate?_source hshort,
    hfound.locate?_bundle hshort, Option.bind_eq_bind, Option.bind_some]
  exact ⟨_, rfl⟩

/-- **Line base** of an exact entry: behind whole lines of helper code, a probe stands in the
    output in the column of its file, as many lines down as stand before the copy. -/
theorem FoundIn.exactEntryOf?_eq (h : FoundIn prelude fixture p before f front)
    (hpath : f.path = p.origin) (hprelude : lastLine prelude.toList = [])
    (hshort : Text.Addressable (bundle prelude fixture).toList) :
    exactEntryOf? fixture (bundle prelude fixture).toList p = some {
      line := breaks (prelude.toList ++ copies before) + breaks front
      column := utf16Length (lastLine front)
      originLine := breaks front
      originColumn := utf16Length (lastLine front)
      source := some f.path
      isRange := false } := by
  simp only [exactEntryOf?, h.file?_eq hpath, h.locate?_source hshort, h.locate?_bundle hshort,
    after_copies_append hprelude, Option.bind_eq_bind, Option.bind_some, hpath]
  rfl

end Verification

open Verification

/-- **Exact map as a text**: a bundle passes with what is written for its exact entries. -/
theorem verify_exactEntries {kind prelude : String} {fixture : Fixture}
    (hown : ∀ p ∈ fixture.probes, InOwnCopy prelude fixture p)
    (hshort : Text.Addressable (bundle prelude fixture).toList) :
    ∃ report, verify kind fixture (bundle prelude fixture)
        (SourceMap.write (exactEntries fixture (bundle prelude fixture).toList)) =
          { result := .ok report, reported := [] } ∧
      report.failed = 0 ∧ report.passed = fixture.probes.length + 1 := by
  have hexact := mapsProbes_exactEntries fun p hp => exists_exactEntry (hown p hp) hshort
  rw [verify_of_parse_ok (parse_write_exactEntries hshort)]
  exact ofMap_of_forall_hold (checkLink_bundle prelude fixture) fun p hp =>
    hexact.exists_check hown hshort hp

/-- **No false alarms**: a bundle of a fixture in which every probe is found in its own copy
    passes with any map that has exact mappings for the probes and no others. Every check
    holds, one for the link and one for each probe, and nothing is reported. The helper code
    may be any text, and the map may have several mappings for one probe. -/
theorem verify_bundle_passes {kind prelude map : String} {fixture : Fixture} {m : SourceMap}
    (hown : ∀ p ∈ fixture.probes, InOwnCopy prelude fixture p)
    (hshort : Text.Addressable (bundle prelude fixture).toList)
    (hparse : SourceMap.parse map = .ok m)
    (hexact : MapsProbes m fixture (bundle prelude fixture).toList) :
    ∃ report, verify kind fixture (bundle prelude fixture) map =
        { result := .ok report, reported := [] } ∧
      report.failed = 0 ∧ report.passed = fixture.probes.length + 1 := by
  rw [verify_of_parse_ok hparse]
  exact ofMap_of_forall_hold (checkLink_bundle prelude fixture) fun p hp =>
    hexact.exists_check hown hshort hp

/-- Two files with probes behind characters of more than one byte or unit. -/
def twoFiles : Fixture :=
  .ofFiles .es6 [⟨"a.js", "[\n\"𝒳\", \"a0\"]"⟩, ⟨"b.js", "é(\"b0\")"⟩]
    [⟨"b0", "b.js"⟩, ⟨"a0", "a.js"⟩]

theorem inOwnCopy_twoFiles : ∀ p ∈ twoFiles.probes, InOwnCopy "h;\n" twoFiles p := by
  refine List.forall_mem_cons.2 ⟨?_, List.forall_mem_singleton.2 ?_⟩
  · exact inOwnCopy_iff.2 ⟨[_], _, [], 3, rfl, rfl, by decide +kernel, by decide +kernel⟩
  · exact inOwnCopy_iff.2 ⟨[], _, [_], 10, rfl, rfl, by decide +kernel, by decide +kernel⟩

theorem verify_bundle_passes_twoFiles :
    twoFiles.validate = .ok () ∧
      (∀ p ∈ twoFiles.probes, InOwnCopy "h;\n" twoFiles p) ∧
      Text.Addressable (bundle "h;\n" twoFiles).toList ∧
      ∃ report, verify "es6" twoFiles (bundle "h;\n" twoFiles)
          (SourceMap.write (exactEntries twoFiles (bundle "h;\n" twoFiles).toList)) =
            { result := .ok report, reported := [] } ∧
        report.failed = 0 ∧ report.passed = 3 := by
  have hshort : Text.Addressable (bundle "h;\n" twoFiles).toList := by decide +kernel
  have hshown : ∀ p ∈ twoFiles.probes,
      ∃ e, exactEntryOf? twoFiles (bundle "h;\n" twoFiles).toList p = some e :=
    fun p hp => exists_exactEntry (inOwnCopy_twoFiles p hp) hshort
  exact ⟨by decide +kernel, inOwnCopy_twoFiles, hshort, verify_bundle_passes inOwnCopy_twoFiles
    hshort (parse_write_exactEntries hshort) (mapsProbes_exactEntries hshown)⟩

end MapAudit
