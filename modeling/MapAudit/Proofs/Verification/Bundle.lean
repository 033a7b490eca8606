import MapAudit.Proofs.Verification.Places

/-! # Bundles

    The plainest build of a fixture puts the sources of its files one after another, each
    followed by a line break, behind some helper code and in front of the link to the map.

    A probe is expected to be found in the copy of its own file. Two probes can be found in
    the same place of the bundle, when the literal of one is the beginning of that of the
    other; but then they are in the same copy.
-/

namespace MapAudit

open Text (Coordinate OccursAt StandsAfter utf8Length lastLine breaks)

namespace Text

variable {needle cs front back : List Char} {n : Nat}

theorem OccursAt.append (h : OccursAt needle cs n) (back : List Char) :
    OccursAt needle (cs ++ back) n := by
  obtain ⟨before, after, rfl, rfl⟩ := h
  exact ⟨before, after ++ back, by simp, rfl⟩

/-- What stands first in the middle of a text as it does in the whole text, stands first in
    the middle taken alone. -/
theorem StandsAfter.of_middle {outer before : List Char}
    (h : StandsAfter needle (outer ++ cs ++ back) (outer ++ before))
    (hoccurs : ∃ later, cs = before ++ needle ++ later) : StandsAfter needle cs before := by
  refine ⟨hoccurs, ?_⟩
  intro n hn
  have hfirst := h.first _ ((hn.behind outer).append back)
  rw [utf8Length_append] at hfirst
  omega

end Text

namespace Verification

variable {fixture : Fixture} {prelude : String} {p q : Probe}

/-! ### The bundle -/

/-- Copies of files, each followed by a line break. -/
def copies (files : List FixtureFile) : List Char :=
  files.flatMap fun f => f.source.toList ++ ['\n']

/-- **Bundle** of a fixture behind some helper code. -/
def bundle (prelude : String) (fixture : Fixture) : String :=
  prelude ++ String.ofList (copies fixture.files) ++ mapLink

theorem toList_bundle (prelude : String) (fixture : Fixture) :
    (bundle prelude fixture).toList =
      prelude.toList ++ copies fixture.files ++ mapLink.toList := by
  simp only [bundle, String.toList_append, String.toList_ofList]

theorem copies_append_cons (before after : List FixtureFile) (f : FixtureFile) :
    copies (before ++ f :: after) =
      copies before ++ (f.source.toList ++ ('\n' :: copies after)) := by
  simp [copies]

/-- A bundle links to its map. -/
theorem checkLink_bundle (prelude : String) (fixture : Fixture) :
    (checkLink (bundle prelude fixture).toList).success = true := by
  refine Text.contains_iff.2 ⟨_, prelude.toList ++ copies fixture.files, [], ?_, rfl⟩
  rw [toList_bundle, List.append_nil]

/-! ### Probes in their own copies -/

/-- A probe is found in the copy of a file: behind the files `before` it, and behind `front`
    inside of it. -/
structure FoundIn (prelude : String) (fixture : Fixture) (p : Probe)
    (before : List FixtureFile) (f : FixtureFile) (front : List Char) : Prop where
  /-- The file comes after those before it. -/
  file : ∃ after, fixture.files = before ++ f :: after
  /-- The literal stands behind `front` in the file. -/
  inside : ∃ back, f.source.toList = front ++ p.literal.toList ++ back
  /-- That is its first occurrence in the bundle. -/
  stands : StandsAfter p.literal.toList (bundle prelude fixture).toList
    (prelude.toList ++ copies before ++ front)

/-- **Own copy**: the first occurrence of the literal of a probe in the bundle is inside the
    copy of the file it originates from. -/
def InOwnCopy (prelude : String) (fixture : Fixture) (p : Probe) : Prop :=
  ∃ before f front, FoundIn prelude fixture p before f front ∧ f.path = p.origin

variable {before before' : List FixtureFile} {f f' : FixtureFile} {front front' : List Char}

theorem FoundIn.file?_eq (h : FoundIn prelude fixture p before f front)
    (hpath : f.path = p.origin) : fixture.file? p.origin = some f := by
  obtain ⟨after, hfiles⟩ := h.file
  exact Fixture.file?_eq_some_iff.2 ⟨by simp [hfiles], hpath⟩

/-- What is first in the bundle is first in the file. -/
theorem FoundIn.standsAfter (h : FoundIn prelude fixture p before f front) :
    StandsAfter p.literal.toList f.source.toList front := by
  obtain ⟨after, hfiles⟩ := h.file
  have hbundle : (bundle prelude fixture).toList =
      prelude.toList ++ copies before ++ f.source.toList ++
        ('\n' :: copies after ++ mapLink.toList) := by
    rw [toList_bundle, hfiles, copies_append_cons]
    simp only [List.append_assoc, List.cons_append]
  have hstands := h.stands
  rw [hbundle] at hstands
  exact hstands.of_middle h.inside

/-- **Own copy by offsets**: the first occurrence in the bundle has the offset of the first
    one in the file, moved by what comes before the copy. -/
theorem inOwnCopy_iff :
    InOwnCopy prelude fixture p ↔
      ∃ before f after n, fixture.files = before ++ f :: after ∧ f.path = p.origin ∧
        Text.find? p.literal.toList f.source.toList = some n ∧
        Text.find? p.literal.toList (bundle prelude fixture).toList =
          some (utf8Length (prelude.toList ++ copies before) + n) := by
  constructor
  · rintro ⟨before, f, front, hfound, hpath⟩
    obtain ⟨after, hfiles⟩ := hfound.file
    refine ⟨before, f, after, utf8Length front, hfiles, hpath,
      Text.find?_eq_some_iff_standsAfter.2 ⟨front, hfound.standsAfter, rfl⟩,
      Text.find?_eq_some_iff_standsAfter.2 ⟨_, hfound.stands, ?_⟩⟩
    rw [Text.utf8Length_append]
  · rintro ⟨before, f, after, n, hfiles, hpath, hsource, hbundle⟩
    -- the copy of the file stands in the bundle as it is, so the literal does too
    obtain ⟨front, hfront, rfl⟩ := Text.find?_eq_some_iff_standsAfter.1 hsource
    obtain ⟨back, hback⟩ := hfront.occurs
    refine ⟨before, f, front, ⟨⟨after, hfiles⟩, hfront.occurs, ⟨?_, ?_⟩⟩, hpath⟩
    · refine ⟨back ++ '\n' :: copies after ++ mapLink.toList, ?_⟩
      rw [toList_bundle, hfiles, copies_append_cons, hback]
      simp only [List.append_assoc, List.cons_append]
    · rw [Text.utf8Length_append]
      exact (Text.find?_eq_some_iff.1 hbundle).2

/-- A place inside a copy is not behind the copy. -/
theorem FoundIn.not_behind (h : FoundIn prelude fixture p before f front)
    {more : List Char} : front ≠ f.source.toList ++ '\n' :: more := by
  rintro rfl
  obtain ⟨back, hsource⟩ := h.inside
  have hlength := congrArg List.length hsource
  simp only [List.length_append, List.length_cons] at hlength
  omega

/-- Copies that both reach as far as the same place inside of them are the same, when one of
    them does not come later. -/
theorem FoundIn.eq_of_between {after after' between : List FixtureFile}
    (h : FoundIn prelude fixture p before f front)
    (hbetween : f :: after = between ++ f' :: after')
    (hplace : copies before ++ front = copies (before ++ between) ++ front') :
    f = f' ∧ front = front' := by
  cases between with
  | nil =>
    obtain ⟨rfl, -⟩ := List.cons.inj hbetween
    rw [List.append_nil, List.append_cancel_left_eq] at hplace
    exact ⟨rfl, hplace⟩
  | cons g between =>
    -- the second copy would begin behind the first one
    obtain ⟨rfl, -⟩ := List.cons.inj hbetween
    rw [copies_append_cons, List.append_assoc, List.append_cancel_left_eq,
      List.append_assoc] at hplace
    exact absurd hplace h.not_behind

/-- Copies that both reach as far as the same place inside of them are the same. -/
theorem FoundIn.eq_of_append_eq (h : FoundIn prelude fixture p before f front)
    (h' : FoundIn prelude fixture q before' f' front')
    (hplace : prelude.toList ++ copies before ++ front =
      prelude.toList ++ copies before' ++ front') : f = f' ∧ front = front' := by
  obtain ⟨after, hfiles⟩ := h.file
  obtain ⟨after', hfiles'⟩ := h'.file
  rw [List.append_assoc, List.append_assoc, List.append_cancel_left_eq] at hplace
  rcases List.append_eq_append_iff.1 (hfiles.symm.trans hfiles') with
    ⟨between, rfl, hbetween⟩ | ⟨between, rfl, hbetween⟩
  · exact h.eq_of_between hbetween hplace
  · exact (h'.eq_of_between hbetween hplace.symm).imp Eq.symm Eq.symm

/-! ### Places -/

/-- Behind copies a new line begins, if one begins behind the helper code. -/
theorem lastLine_append_copies (hprelude : lastLine prelude.toList = [])
    (files : List FixtureFile) : lastLine (prelude.toList ++ copies files) = [] := by
  induction files using List.reverseRecOn with
  | nil => simpa [copies] using hprelude
  | append_singleton files f _ =>
    have hlast : prelude.toList ++ copies (files ++ [f]) =
        prelude.toList ++ copies files ++ f.source.toList ++ ['\n'] := by
      simp [copies]
    rw [hlast, Text.lastLine_append_break]

/-- **Line base**: behind whole lines of helper code, a place in a bundle is that in the
    file, moved down by the lines before the copy. -/
theorem after_copies_append (hprelude : lastLine prelude.toList = [])
    (before : List FixtureFile) (front : List Char) :
    Coordinate.after (prelude.toList ++ copies before ++ front) =
      (Coordinate.after front).down (breaks (prelude.toList ++ copies before)) :=
  Coordinate.after_append (lastLine_append_copies hprelude before) front

/-! ### Within reach -/

theorem FoundIn.locate?_bundle (h : FoundIn prelude fixture p before f front)
    (hshort : Text.Addressable (bundle prelude fixture).toList) :
    locate? (.ofText (bundle prelude fixture).toList) p.literal.toList =
      some (.after (prelude.toList ++ copies before ++ front)) :=
  locate?_eq_some_iff.2
    ⟨_, h.stands, Nat.le_trans h.stands.occursAt.le_utf8Length hshort, rfl⟩

theorem FoundIn.locate?_source (h : FoundIn prelude fixture p before f front)
    (hshort : Text.Addressable (bundle prelude fixture).toList) :
    locate? (.ofText f.source.toList) p.literal.toList = some (.after front) := by
  have hreach := Nat.le_trans h.stands.occursAt.le_utf8Length hshort
  rw [Text.utf8Length_append] at hreach
  exact locate?_eq_some_iff.2 ⟨front, h.standsAfter, by omega, rfl⟩

/-- No more files are copied than there are bytes. -/
theorem length_files_le (prelude : String) (fixture : Fixture) :
    fixture.files.length ≤ utf8Length (bundle prelude fixture).toList := by
  have hcopies : ∀ files : List FixtureFile, files.length ≤ utf8Length (copies files) := by
    intro files
    induction files with
    | nil => exact Nat.le_refl 0
    | cons f files ih =>
      have hbreak : utf8Length ['\n'] = 1 := by decide
      have hcons : copies (f :: files) = f.source.toList ++ ['\n'] ++ copies files := rfl
      rw [hcons, Text.utf8Length_append, Text.utf8Length_append, hbreak, List.length_cons]
      omega
  have hfiles := hcopies fixture.files
  rw [toList_bundle, Text.utf8Length_append, Text.utf8Length_append]
  omega

end Verification

end MapAudit
