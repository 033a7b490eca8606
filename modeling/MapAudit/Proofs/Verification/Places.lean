import MapAudit.Proofs.Fixture.Files
import MapAudit.Proofs.Text.Order
import MapAudit.Proofs.Text.Search
import MapAudit.Verification.Report

/-! # The places of a probe

    The literal of a probe is located in its source and in the output. Locating
    finds the coordinate of the first occurrence by counting, and fails only when
    the literal does not occur within reach. In a text that is short enough, every
    occurrence is within reach: it begins between two characters, at an offset that
    has a coordinate, and the first one has the least coordinate of all.
-/

namespace MapAudit

open Text (Coordinate LineIndex OccursAt OccursInBytes StandsAfter utf8Length maxOffset)

namespace Text

/-- **Addressable** texts have no offset that is too great for a coordinate. -/
def Addressable (cs : List Char) : Prop :=
  utf8Length cs ≤ maxOffset

instance (cs : List Char) : Decidable (Addressable cs) :=
  inferInstanceAs (Decidable (utf8Length cs ≤ maxOffset))

/-- **Out of reach**: all occurrences have offsets that are too great for a coordinate. -/
def OutOfReach (needle cs : List Char) : Prop :=
  ∀ n, OccursAt needle cs n → maxOffset < n

theorem OccursAt.add_le_utf8Length {needle cs : List Char} {n : Nat} (h : OccursAt needle cs n) :
    n + utf8Length needle ≤ utf8Length cs := by
  obtain ⟨front, back, rfl, rfl⟩ := h
  simp only [utf8Length_append]
  omega

theorem OccursAt.le_utf8Length {needle cs : List Char} {n : Nat} (h : OccursAt needle cs n) :
    n ≤ utf8Length cs :=
  Nat.le_of_add_right_le h.add_le_utf8Length

/-- An occurrence begins between two characters, so that its offset has a coordinate. -/
theorem OccursAt.exists_coordinate {needle cs : List Char} {n : Nat} (h : OccursAt needle cs n) :
    ∃ place, (LineIndex.ofText cs).coordinate? n = some place := by
  obtain ⟨front, back, rfl, rfl⟩ := h
  rw [List.append_assoc]
  exact ⟨_, LineIndex.coordinate?_append front (needle ++ back)⟩

/-- What is behind the offset keeps it from the end of the text. -/
theorem OccursAt.lt_maxOffset {needle cs : List Char} {n : Nat} (h : OccursAt needle cs n)
    (hne : needle ≠ []) (hsize : Addressable cs) : n < maxOffset := by
  have hend := h.add_le_utf8Length
  have hpos := utf8Length_pos hne
  unfold Addressable at hsize
  omega

/-- In an addressable text, only what does not occur is out of reach. -/
theorem Addressable.outOfReach_iff {needle cs : List Char} (h : Addressable cs) :
    OutOfReach needle cs ↔ ∀ n, ¬ OccursAt needle cs n := by
  constructor
  · intro hout n hn
    have hlt := hout n hn
    have hle := hn.le_utf8Length
    unfold Addressable at h
    omega
  · intro hnone n hn
    exact absurd hn (hnone n)

end Text

/-- **Addressable** fixtures have addressable sources. -/
def Fixture.Addressable (fixture : Fixture) : Prop :=
  ∀ f ∈ fixture.files, Text.Addressable f.source.toList

instance (fixture : Fixture) : Decidable fixture.Addressable :=
  inferInstanceAs (Decidable (∀ f ∈ fixture.files, Text.Addressable f.source.toList))

namespace Verification

variable {fixture : Fixture} {output : List Char} {p : Probe}

/-! ### Locating -/

/-- **Located**: the coordinate of the first occurrence, by counting. -/
theorem locate?_eq_some_iff {needle cs : List Char} {place : Coordinate} :
    locate? (.ofText cs) needle = some place ↔
      ∃ front, StandsAfter needle cs front ∧ utf8Length front ≤ maxOffset ∧
        place = .after front := by
  have htext : (LineIndex.ofText cs).text = cs := rfl
  simp only [locate?, htext, Option.bind_eq_bind, Option.bind_eq_some_iff]
  constructor
  · rintro ⟨n, hfind, hplace⟩
    obtain ⟨front, hfront, rfl⟩ := Text.find?_eq_some_iff_standsAfter.1 hfind
    split at hplace
    · next hle =>
      obtain ⟨back, hcs⟩ := hfront.occurs
      rw [hcs, List.append_assoc, LineIndex.coordinate?_append, Option.some.injEq] at hplace
      exact ⟨front, hfront, hle, hplace.symm⟩
    · exact absurd hplace (by simp)
  · rintro ⟨front, hfront, hle, rfl⟩
    refine ⟨utf8Length front, Text.find?_eq_some_iff_standsAfter.2 ⟨front, hfront, rfl⟩, ?_⟩
    obtain ⟨back, hcs⟩ := hfront.occurs
    rw [if_pos hle, hcs, List.append_assoc, LineIndex.coordinate?_append]

/-- **Not located**: no occurrence is within reach. -/
theorem locate?_eq_none_iff {needle cs : List Char} :
    locate? (.ofText cs) needle = none ↔ Text.OutOfReach needle cs := by
  constructor
  · intro hnone n hn
    obtain ⟨front, hfront⟩ := Text.exists_standsAfter hn
    by_contra hle
    have hreach : utf8Length front ≤ maxOffset := by
      have := hfront.first n hn
      omega
    have hsome := locate?_eq_some_iff.2 ⟨front, hfront, hreach, rfl⟩
    rw [hnone] at hsome
    exact absurd hsome (by simp)
  · intro hout
    cases hlocate : locate? (.ofText cs) needle with
    | none => rfl
    | some place =>
      obtain ⟨front, hfront, hle, -⟩ := locate?_eq_some_iff.1 hlocate
      exact absurd (hout _ hfront.occursAt) (by omega)

/-! ### Occurrences of a text that is short enough -/

/-- **First place**: the coordinate of the least offset at which a needle occurs. -/
structure FirstPlace (needle cs : List Char) (n : Nat) (place : Coordinate) : Prop where
  occurs : OccursAt needle cs n
  coordinate : (LineIndex.ofText cs).coordinate? n = some place
  /-- It is the least one also of the offsets at which the bytes of the needle stand. -/
  least : ∀ m, OccursInBytes needle cs m → n ≤ m
  /-- Its numbers have room in a coordinate. -/
  fits : place.Fits
  /-- Any other occurrence has a place behind this one. -/
  before : ∀ m, OccursAt needle cs m → m ≠ n →
    ∃ other, (LineIndex.ofText cs).coordinate? m = some other ∧ place < other ∧
      (needle ≠ [] → other.Fits)

/-- The empty needle stands at the beginning. -/
theorem occursAt_nil (cs : List Char) : OccursAt [] cs 0 :=
  ⟨[], cs, rfl, rfl⟩

theorem firstPlace_of_standsAfter {needle cs front : List Char} (h : StandsAfter needle cs front)
    (hsize : Text.Addressable cs) : FirstPlace needle cs (utf8Length front) (.after front) := by
  have hplace : (LineIndex.ofText cs).coordinate? (utf8Length front) = some (.after front) := by
    obtain ⟨back, rfl⟩ := h.occurs
    rw [List.append_assoc]
    exact LineIndex.coordinate?_append front (needle ++ back)
  -- only an empty needle has occurrences in bytes that are none in characters
  have hleast : ∀ m, OccursInBytes needle cs m → utf8Length front ≤ m := by
    intro m hm
    by_cases hne : needle = []
    · subst hne
      exact Nat.le_trans (h.first 0 (occursAt_nil cs)) (Nat.zero_le m)
    · exact h.first m (hm.occursAt hne)
  have hlt : utf8Length front < maxOffset := by
    by_cases hne : needle = []
    · subst hne
      exact Nat.lt_of_le_of_lt (h.first 0 (occursAt_nil cs)) (by decide)
    · exact h.occursAt.lt_maxOffset hne hsize
  refine ⟨h.occursAt, hplace, hleast, LineIndex.fits_of_lt hplace hsize hlt, ?_⟩
  intro m hm hother
  obtain ⟨other, hcoordinate⟩ := hm.exists_coordinate
  have hbehind : utf8Length front < m := Nat.lt_of_le_of_ne (h.first m hm) (Ne.symm hother)
  exact ⟨other, hcoordinate, LineIndex.coordinate_lt hplace hcoordinate hbehind,
    fun hne => LineIndex.fits_of_lt hcoordinate hsize (hm.lt_maxOffset hne hsize)⟩

/-- **First occurrence located**: in a text whose offsets have 32 bits, a needle that occurs is
    located, at the place of the least offset at which it does. No occurrence is lost on the
    way to a coordinate, neither for the size of its offset nor inside of a character. -/
theorem locate_first_occurrence {cs : List Char} (needle : List Char)
    (hsize : Text.Addressable cs) :
    ((locate? (.ofText cs) needle).isSome ↔ ∃ n, OccursAt needle cs n) ∧
    (∀ place, locate? (.ofText cs) needle = some place ↔ ∃ n, FirstPlace needle cs n place) ∧
    (∀ n, OccursAt needle cs n →
      n ≤ maxOffset ∧ ∃ place, (LineIndex.ofText cs).coordinate? n = some place) ∧
    (needle ≠ [] → ∀ n, OccursInBytes needle cs n ↔ OccursAt needle cs n) := by
  refine ⟨?_, fun place => ⟨?_, ?_⟩, fun n hn => ⟨?_, hn.exists_coordinate⟩,
    fun hne n => Text.occursInBytes_iff hne⟩
  · rw [Option.isSome_iff_ne_none, Ne, locate?_eq_none_iff, hsize.outOfReach_iff]
    simp only [not_forall, not_not]
  · intro hlocated
    obtain ⟨front, hfront, -, rfl⟩ := locate?_eq_some_iff.1 hlocated
    exact ⟨_, firstPlace_of_standsAfter hfront hsize⟩
  · rintro ⟨n, hfirst⟩
    obtain ⟨front, hfront, rfl⟩ := Text.find?_eq_some_iff_standsAfter.1
      (Text.find?_eq_some_iff.2 ⟨hfirst.occurs, fun m hm => hfirst.least m hm.occursInBytes⟩)
    have hreach : utf8Length front ≤ maxOffset := Nat.le_trans hfirst.occurs.le_utf8Length hsize
    have hplace := (firstPlace_of_standsAfter hfront hsize).coordinate
    rw [hfirst.coordinate] at hplace
    exact locate?_eq_some_iff.2 ⟨front, hfront, hreach, Option.some.inj hplace⟩
  · exact Nat.le_trans hn.le_utf8Length hsize

/-- A quoted literal behind a character of four bytes, one of two and a line break. It occurs
    once more further on. -/
theorem locate_first_occurrence_behind_break :
    Text.Addressable "𝄞Ã\n\"ß\" \"ß\"".toList ∧
      locate? (.ofText "𝄞Ã\n\"ß\" \"ß\"".toList) "\"ß\"".toList = some ⟨2, 0⟩ ∧
      ∃ n, FirstPlace "\"ß\"".toList "𝄞Ã\n\"ß\" \"ß\"".toList n ⟨2, 0⟩ := by
  have hsize : Text.Addressable "𝄞Ã\n\"ß\" \"ß\"".toList := by decide
  have hlocated :
      locate? (.ofText "𝄞Ã\n\"ß\" \"ß\"".toList) "\"ß\"".toList = some ⟨2, 0⟩ := by
    decide
  obtain ⟨-, hplaces, -, -⟩ := locate_first_occurrence "\"ß\"".toList hsize
  exact ⟨hsize, hlocated, (hplaces ⟨2, 0⟩).1 hlocated⟩

/-! ### Places -/

/-- **Places of a probe**: where its literal stands first in its source, and where it
    does in the output, by counting. -/
structure Stands (fixture : Fixture) (output : List Char) (p : Probe)
    (expected : OriginalPosition) (generated : Coordinate) : Prop where
  /-- The probe originates from a file of the fixture. -/
  written : ∃ file ∈ fixture.files, file.path = p.origin ∧
    ∃ front, StandsAfter p.literal.toList file.source.toList front ∧
      expected = .inSource p.origin (.after front)
  /-- Its literal is in the output. -/
  shown : ∃ front, StandsAfter p.literal.toList output front ∧ generated = .after front

theorem stands_of_probePlaces {expected : OriginalPosition} {generated : Coordinate}
    (h : probePlaces fixture (.ofText output) p = .ok (expected, generated)) :
    Stands fixture output p expected generated := by
  unfold probePlaces at h
  split at h
  · exact absurd h (by simp)
  · next file hfile =>
    obtain ⟨hmem, hpath⟩ := Fixture.mem_of_file? hfile
    split at h
    · exact absurd h (by simp)
    · next place hplace =>
      split at h
      · exact absurd h (by simp)
      · next generated' hgenerated =>
        obtain ⟨front, hfront, -, rfl⟩ := locate?_eq_some_iff.1 hplace
        obtain ⟨front', hfront', -, rfl⟩ := locate?_eq_some_iff.1 hgenerated
        simp only [Except.ok.injEq, Prod.mk.injEq] at h
        obtain ⟨rfl, rfl⟩ := h
        exact ⟨⟨file, hmem, hpath, front, hfront, by rw [hpath]⟩, front', hfront', rfl⟩

/-- **Fault of a probe**: its file is missing; or its literal is out of reach in the
    file; or it is so in the output alone. -/
theorem probePlaces_eq_error_iff {fault : VerificationFault} :
    probePlaces fixture (.ofText output) p = .error fault ↔
      (fixture.file? p.origin = none ∧ fault = .missingOrigin p.id p.origin) ∨
      ∃ file, fixture.file? p.origin = some file ∧
        (Text.OutOfReach p.literal.toList file.source.toList ∧
            fault = .probeNotFound p.id .input ∨
          ¬ Text.OutOfReach p.literal.toList file.source.toList ∧
            Text.OutOfReach p.literal.toList output ∧ fault = .probeNotFound p.id .output) := by
  simp only [← locate?_eq_none_iff]
  unfold probePlaces
  cases hfile : fixture.file? p.origin with
  | none => simp [eq_comm]
  | some file =>
    cases hinput : locate? (.ofText file.source.toList) p.literal.toList with
    | none => simp [hinput, eq_comm]
    | some written =>
      cases houtput : locate? (.ofText output) p.literal.toList with
      | none => simp [hinput, eq_comm]
      | some generated => simp [hinput]

end Verification

end MapAudit
