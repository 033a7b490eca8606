import MapAudit.Proofs.Fixture.Occurrences
import MapAudit.Proofs.Verification.Reports

/-! # Probes kept apart

    A map that confuses two probes goes unnoticed if both are expected at the same place.
    In an accepted fixture this does not happen, as long as no identifier has a quote in it.

    Two literals that begin at the same offset of a text are the same: an identifier ends
    at the first quote behind the one that opens it. Validation refuses a second probe
    with the identifier of an earlier one. So the literals of different probes begin at
    different offsets, in every text, and different offsets have different coordinates.

    A verification in which every check holds therefore says that the map tells the
    probes from one another, and so does the output.
-/

namespace MapAudit

open Text (Coordinate StandsAfter)

/-! ### Literals at one offset -/

namespace Text

/-- A word without the mark can be read off a text that begins with it between marks. -/
theorem eq_of_marked_append {mark : Char} {word word' back back' : List Char}
    (hword : mark ∉ word) (hword' : mark ∉ word')
    (h : marked mark word ++ back = marked mark word' ++ back') : word = word' := by
  simp only [marked, List.cons_append, List.append_assoc, List.nil_append,
    List.cons.injEq, true_and] at h
  rcases List.append_eq_append_iff.1 h with ⟨more, hmore, hrest⟩ | ⟨more, hmore, hrest⟩
  · cases more with
    | nil => rw [hmore, List.append_nil]
    | cons c more =>
      -- the closing mark of the first word would stand inside the second
      obtain ⟨rfl, -⟩ := List.cons.inj hrest
      exact absurd (by simp [hmore]) hword'
  · cases more with
    | nil => rw [hmore, List.append_nil]
    | cons c more =>
      obtain ⟨rfl, -⟩ := List.cons.inj hrest
      exact absurd (by simp [hmore]) hword

end Text

namespace Verification

variable {fixture : Fixture} {p q : Probe} {cs front front' : List Char}

/-- **One offset, one identifier**: probes whose literals begin at the same place of a
    text have the same identifier. -/
theorem id_eq_of_standsAfter (hp : '"' ∉ p.id.toList) (hq : '"' ∉ q.id.toList)
    (hfront : StandsAfter p.literal.toList cs front)
    (hfront' : StandsAfter q.literal.toList cs front')
    (hplace : Coordinate.after front = Coordinate.after front') : p.id = q.id := by
  obtain ⟨back, hback⟩ := hfront.occurs
  obtain ⟨back', hback'⟩ := hfront'.occurs
  rw [List.append_assoc] at hback hback'
  have hsame : front = front' :=
    Coordinate.after_injective (hback.symm.trans hback') hplace
  have htext : p.literal.toList ++ back = q.literal.toList ++ back' := by
    rw [hback, hsame] at hback'
    exact List.append_cancel_left hback'
  rw [Fixture.toList_literal, Fixture.toList_literal] at htext
  exact String.toList_inj.1 (Text.eq_of_marked_append hp hq htext)

/-! ### Where probes are expected -/

/-- **Expected position** of a probe: where its literal first stands in the file it
    originates from, by counting. No verification compares with anything else. -/
structure ExpectedAt (fixture : Fixture) (p : Probe) (expected : OriginalPosition) : Prop where
  /-- The position is counted in the text before the literal. -/
  counted : ∃ file ∈ fixture.files, file.path = p.origin ∧
    ∃ front, StandsAfter p.literal.toList file.source.toList front ∧
      expected = .inSource p.origin (.after front)
  /-- A verification that finds the places of the probe expects it there. -/
  compared : ∀ output found generated,
    probePlaces fixture output p = .ok (found, generated) → found = expected

/-- What is counted is what is compared. -/
theorem expectedAt_of_standsAfter {file : FixtureFile} (hfile : fixture.file? p.origin = some file)
    (hfront : StandsAfter p.literal.toList file.source.toList front) :
    ExpectedAt fixture p (.inSource p.origin (.after front)) := by
  obtain ⟨hmem, hpath⟩ := Fixture.mem_of_file? hfile
  refine ⟨⟨file, hmem, hpath, front, hfront, rfl⟩, ?_⟩
  intro output found generated h
  simp only [probePlaces, hfile] at h
  cases hlocate : locate? (.ofText file.source.toList) p.literal.toList with
  | none =>
    rw [hlocate] at h
    exact absurd h (by simp)
  | some written =>
    -- what the verification has found is the first occurrence as well
    obtain ⟨front', hfront', -, rfl⟩ := locate?_eq_some_iff.1 hlocate
    rw [hlocate, hfront'.unique hfront, hpath] at h
    cases hshown : locate? output p.literal.toList with
    | none =>
      rw [hshown] at h
      exact absurd h (by simp)
    | some place =>
      rw [hshown] at h
      exact (Prod.mk.inj (Except.ok.inj h)).1.symm

/-- Every probe of an accepted fixture is expected somewhere. -/
theorem exists_expectedAt (hvalid : fixture.validate = .ok ()) (hp : p ∈ fixture.probes) :
    ∃ expected, ExpectedAt fixture p expected := by
  obtain ⟨file, hfile, n, hn⟩ := Fixture.exists_occursAt_of_validate hvalid hp
  obtain ⟨front, hfront⟩ := Text.exists_standsAfter hn
  exact ⟨_, expectedAt_of_standsAfter hfile hfront⟩

/-- A position in a source is told from another one by its source, its line or its column. -/
theorem inSource_injective {source source' : String} {place place' : Coordinate}
    (h : OriginalPosition.inSource source place = .inSource source' place') :
    source = source' ∧ place = place' := by
  simp only [OriginalPosition.inSource, OriginalPosition.mk.injEq, Option.some.injEq] at h
  obtain ⟨hsource, hline, hcolumn⟩ := h
  refine ⟨hsource, ?_⟩
  cases place
  cases place'
  simp_all

/-- Probes that are expected at one position have the same identifier. -/
theorem id_eq_of_expectedAt {expected : OriginalPosition} (hp : '"' ∉ p.id.toList)
    (hq : '"' ∉ q.id.toList) (h : ExpectedAt fixture p expected)
    (h' : ExpectedAt fixture q expected) : p.id = q.id := by
  obtain ⟨file, hmem, hpath, front, hfront, rfl⟩ := h.counted
  obtain ⟨file', hmem', hpath', front', hfront', hsame⟩ := h'.counted
  obtain ⟨horigin, hplace⟩ := inSource_injective hsame
  have hfile : fixture.file? p.origin = some file := Fixture.file?_eq_some_iff.2 ⟨hmem, hpath⟩
  have hfile' : fixture.file? q.origin = some file' :=
    Fixture.file?_eq_some_iff.2 ⟨hmem', hpath'⟩
  rw [horigin, hfile'] at hfile
  obtain rfl := Option.some.inj hfile
  exact id_eq_of_standsAfter hp hq hfront hfront' hplace

/-- In one file, different positions differ in their line or their column. -/
theorem line_or_column_ne {expected expected' : OriginalPosition}
    (h : ExpectedAt fixture p expected) (h' : ExpectedAt fixture q expected')
    (horigin : p.origin = q.origin) (hne : expected ≠ expected') :
    expected.line ≠ expected'.line ∨ expected.column ≠ expected'.column := by
  obtain ⟨-, -, -, front, -, rfl⟩ := h.counted
  obtain ⟨-, -, -, front', -, rfl⟩ := h'.counted
  by_contra hboth
  rw [not_or, not_not, not_not] at hboth
  apply hne
  simp only [OriginalPosition.inSource, OriginalPosition.mk.injEq, horigin, true_and]
  exact hboth

/-! ### Where probes are found -/

/-- The places that a probe has are those it is expected at and found at. -/
theorem expectedAt_of_stands {output : List Char} {expected : OriginalPosition}
    {generated : Coordinate} (h : Stands fixture output p expected generated) :
    ExpectedAt fixture p expected := by
  obtain ⟨file, hmem, hpath, front, hfront, rfl⟩ := h.written
  exact expectedAt_of_standsAfter (Fixture.file?_eq_some_iff.2 ⟨hmem, hpath⟩) hfront

/-- In an output, probes that are found at one coordinate have the same identifier. -/
theorem id_eq_of_stands {output : List Char} {expected expected' : OriginalPosition}
    {generated : Coordinate} (hp : '"' ∉ p.id.toList) (hq : '"' ∉ q.id.toList)
    (h : Stands fixture output p expected generated)
    (h' : Stands fixture output q expected' generated) : p.id = q.id := by
  obtain ⟨front, hfront, rfl⟩ := h.shown
  obtain ⟨front', hfront', hplace⟩ := h'.shown
  exact id_eq_of_standsAfter hp hq hfront hfront' hplace

/-- **Maps that pass**: where no check fails, every probe has its places, and the map leads
    from the one to the other. -/
theorem exists_stands_of_failed_eq_zero {kind output : String} {map : SourceMap}
    {report : Report} (h : (ofMap kind fixture output.toList map).result = .ok report)
    (hfailed : report.failed = 0) (hp : p ∈ fixture.probes) :
    ∃ expected generated, Stands fixture output.toList p expected generated ∧
      map.originalPosition generated = expected := by
  obtain ⟨checks, hchecks, hverify⟩ := exists_checks_of_ofMap_ok h
  rw [hverify] at h
  obtain rfl := Except.ok.inj h
  have hcounted : ReportedByCounting kind fixture output.toList map _ :=
    reportedByCounting_of_checks hchecks
  rw [hcounted.failed_eq, List.countP_eq_zero] at hfailed
  -- the check of the probe is one of those that hold
  obtain ⟨n, hn, rfl⟩ := List.getElem_of_mem hp
  have hn' := hcounted.probes.length_eq ▸ hn
  obtain ⟨expected, generated, hstands, hsuccess, -⟩ := hcounted.probes.get hn hn'
  refine ⟨expected, generated, hstands, hsuccess.1 ?_⟩
  have hholds := hfailed _ (List.mem_of_mem_tail (List.getElem_mem hn'))
  simpa using hholds

end Verification

open Verification

/-! ### Different probes -/

/-- **Probes kept apart**: different probes of an accepted fixture are expected at different
    positions. If every check of a verification holds, the map leads to these positions,
    from different coordinates. -/
theorem probes_kept_apart {fixture : Fixture} (hvalid : fixture.validate = .ok ())
    (hids : ∀ p ∈ fixture.probes, '"' ∉ p.id.toList) :
    (fixture.probes.Pairwise fun p q =>
      ∃ expected expected', ExpectedAt fixture p expected ∧ ExpectedAt fixture q expected' ∧
        expected ≠ expected' ∧
        (p.origin = q.origin →
          expected.line ≠ expected'.line ∨ expected.column ≠ expected'.column)) ∧
    ∀ kind output map report, (verify kind fixture output map).result = .ok report →
      report.failed = 0 →
      ∃ m, SourceMap.parse map = .ok m ∧
        fixture.probes.Pairwise fun p q =>
          ∃ expected expected' generated generated',
            Stands fixture output.toList p expected generated ∧
            Stands fixture output.toList q expected' generated' ∧
            generated ≠ generated' ∧
            m.originalPosition generated = expected ∧
            m.originalPosition generated' = expected' ∧
            expected ≠ expected' := by
  have hdifferent : fixture.probes.Pairwise fun p q => p.id ≠ q.id :=
    List.pairwise_map.1 (Fixture.validate_eq_ok_iff.1 hvalid).2.1
  constructor
  · refine hdifferent.imp_of_mem fun {p q} hp hq hid => ?_
    obtain ⟨expected, h⟩ := exists_expectedAt hvalid hp
    obtain ⟨expected', h'⟩ := exists_expectedAt hvalid hq
    have hne : expected ≠ expected' := by
      rintro rfl
      exact hid (id_eq_of_expectedAt (hids p hp) (hids q hq) h h')
    exact ⟨expected, expected', h, h', hne, fun horigin => line_or_column_ne h h' horigin hne⟩
  · intro kind output map report hreport hfailed
    cases hparse : SourceMap.parse map with
    | error e =>
      rw [verify_of_parse_error hparse] at hreport
      exact absurd hreport (by simp)
    | ok m =>
      rw [verify_of_parse_ok hparse] at hreport
      refine ⟨m, rfl, hdifferent.imp_of_mem fun {p q} hp hq hid => ?_⟩
      obtain ⟨expected, generated, h, hmap⟩ := exists_stands_of_failed_eq_zero hreport hfailed hp
      obtain ⟨expected', generated', h', hmap'⟩ :=
        exists_stands_of_failed_eq_zero hreport hfailed hq
      refine ⟨expected, expected', generated, generated', h, h', ?_, hmap, hmap', ?_⟩
      · rintro rfl
        exact hid (id_eq_of_stands (hids p hp) (hids q hq) h h')
      · rintro rfl
        exact hid (id_eq_of_expectedAt (hids p hp) (hids q hq) (expectedAt_of_stands h)
          (expectedAt_of_stands h'))

/-- A map that is right about both of two probes. -/
def twoProbesExactMap : String :=
  "\x7b\"sources\":[\"a.js\"],\"mappings\":\"GACA;AAAI\"\x7d"

/-- Two probes of one line, with an output and a map for which every check holds. -/
theorem probes_kept_apart_twoProbes :
    (Fixture.twoProbes.validate = .ok () ∧
        ∀ p ∈ Fixture.twoProbes.probes, '"' ∉ p.id.toList) ∧
      ∃ report, (verify "es6" .twoProbes twoProbesOutput twoProbesExactMap).result = .ok report ∧
        report.failed = 0 ∧
        ∃ m, SourceMap.parse twoProbesExactMap = .ok m ∧
          Fixture.twoProbes.probes.Pairwise fun p q =>
            ∃ expected expected' generated generated',
              Stands .twoProbes twoProbesOutput.toList p expected generated ∧
              Stands .twoProbes twoProbesOutput.toList q expected' generated' ∧
              generated ≠ generated' ∧
              m.originalPosition generated = expected ∧
              m.originalPosition generated' = expected' ∧
              expected ≠ expected' := by
  have hvalid : Fixture.twoProbes.validate = .ok () := by decide +kernel
  have hids : ∀ p ∈ Fixture.twoProbes.probes, '"' ∉ p.id.toList := by decide +kernel
  have hfailed : (verify "es6" .twoProbes twoProbesOutput twoProbesExactMap).result.map
      Report.failed = .ok 0 := by
    decide +kernel
  cases h : (verify "es6" .twoProbes twoProbesOutput twoProbesExactMap).result with
  | error fault =>
    rw [h] at hfailed
    exact absurd hfailed (by simp [Except.map])
  | ok report =>
    rw [h] at hfailed
    have hzero : report.failed = 0 := Except.ok.inj hfailed
    exact ⟨⟨hvalid, hids⟩, report, rfl, hzero,
      (probes_kept_apart hvalid hids).2 _ _ _ _ h hzero⟩

end MapAudit
