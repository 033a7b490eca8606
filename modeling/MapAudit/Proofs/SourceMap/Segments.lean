import MapAudit.SourceMap.Writer
import MapAudit.Proofs.SourceMap.Shift
import MapAudit.Proofs.SourceMap.Vlq

/-! # Reading the mappings that were written

    Mappings that are no ranges and whose numbers fit into 32 bits are read back as they
    were written, in the order of their places.

    The text of the mappings is written one mapping at a time, and read line by line. What
    is written after a mapping begins with a separator, so it goes on with the line that the
    mapping ends on: some segments that stand behind the mapping on its line, and then the
    lines after it. The mapping before is told by the running values, which are the same for
    the reader after the segment as for the writer.
-/

namespace MapAudit

namespace Mapping

/-- Mappings in order stay in their order. -/
theorem sort_of_pairwise {l : List Mapping} (h : l.Pairwise (· ≤ ·)) : sort l = l := by
  induction l with
  | nil => rfl
  | cons m rest ih =>
    obtain ⟨hm, hrest⟩ := List.pairwise_cons.1 h
    have hcons : sort (m :: rest) = insert m (sort rest) := rfl
    rw [hcons, ih hrest]
    cases rest with
    | nil => rfl
    | cons n rest => rw [insert, if_pos (hm n List.mem_cons_self)]

/-- **Writable mappings** are no ranges, their numbers fit into 32 bits, and their sources
    are among the first `sources` ones. -/
structure Writable (sources : Nat) (m : Mapping) : Prop where
  /-- The mapping is no range. -/
  point : m.isRange = false
  /-- The generated column fits. -/
  column : m.column < 0x100000000
  /-- The place it leads to fits. -/
  origin : ∀ o, m.origin = some o → o.source < sources ∧ o.source < 0x100000000 ∧
    o.line < 0x100000000 ∧ o.column < 0x100000000

end Mapping

open Segments (Running Limits)

/-- Running values that fit into 32 bits. -/
structure Segments.Running.Fits (r : Running) : Prop where
  /-- The generated column fits. -/
  column : r.column < 0x100000000
  /-- The number of the source fits. -/
  source : r.source < 0x100000000
  /-- The line in the source fits. -/
  originLine : r.originLine < 0x100000000
  /-- The column in the source fits. -/
  originColumn : r.originColumn < 0x100000000

namespace SourceMap

open Segments (readSegments readLines)

variable {limits : Limits} {r : Running} {m : Mapping} {line : Nat} {text : List UInt8}
  {mappings : List Mapping}

/-! ### Fields of a mapping -/

/-- Running values stay in bounds when a mapping is written. -/
theorem fieldsOf_fits (hm : m.Writable limits.sources) (hr : r.Fits) :
    (fieldsOf r m).2.Fits := by
  cases horigin : m.origin with
  | none =>
    simp only [fieldsOf, horigin]
    exact ⟨hm.column, hr.source, hr.originLine, hr.originColumn⟩
  | some o =>
    obtain ⟨-, hsource, hline, hcolumn⟩ := hm.origin o horigin
    simp only [fieldsOf, horigin]
    exact ⟨hm.column, hsource, hline, hcolumn⟩

theorem fieldsOf_column : (fieldsOf r m).2.column = m.column := by
  cases horigin : m.origin <;> simp only [fieldsOf, horigin]

theorem isSmall_of_mem_fieldsOf (hm : m.Writable limits.sources) (hr : r.Fits) :
    ∀ n ∈ (fieldsOf r m).1, Vlq.IsSmall n := by
  have hcolumn := Vlq.isSmall_sub hm.column hr.column
  cases horigin : m.origin with
  | none => simpa [fieldsOf, horigin] using hcolumn
  | some o =>
    obtain ⟨-, hsource, hline, horiginColumn⟩ := hm.origin o horigin
    simpa [fieldsOf, horigin] using ⟨hcolumn, Vlq.isSmall_sub hsource hr.source,
      Vlq.isSmall_sub hline hr.originLine, Vlq.isSmall_sub horiginColumn hr.originColumn⟩

/-- The difference to a running value leads back from it. -/
theorem add_sub {a b : Nat} (ha : a < 0x100000000) : Segments.add b ((a : Int) - b) = a := by
  unfold Segments.add
  omega

/-- **Fields taken up**: the running values and the origin are those of the mapping. -/
theorem takeUp_fieldsOf (hm : m.Writable limits.sources) :
    Segments.takeUp limits r (fieldsOf r m).1 = .ok ((fieldsOf r m).2, m.origin) := by
  have hcolumn := add_sub (b := r.column) hm.column
  cases horigin : m.origin with
  | none => simp only [fieldsOf, horigin, Segments.takeUp, hcolumn]
  | some o =>
    obtain ⟨hlisted, hsource, hline, horiginColumn⟩ := hm.origin o horigin
    simp only [fieldsOf, horigin, Segments.takeUp, hcolumn, add_sub hsource, add_sub hline,
      add_sub horiginColumn, hlisted, List.length_nil, Nat.zero_le, if_true]
    rfl

/-! ### Segment of a mapping -/

/-- The segment that a mapping is written as, relative to the running values before it. -/
def segmentOf (r : Running) (m : Mapping) : List UInt8 :=
  (fieldsOf r m).1.flatMap Vlq.encode

theorem isDigit_of_mem_segmentOf {b : UInt8} (h : b ∈ segmentOf r m) : Vlq.IsDigit b := by
  obtain ⟨n, -, hb⟩ := List.mem_flatMap.1 h
  exact Vlq.isDigit_of_mem_encode hb

theorem comma_not_mem_segmentOf : 44 ∉ segmentOf r m :=
  fun h => (isDigit_of_mem_segmentOf h).2.1 rfl

theorem semicolon_not_mem_segmentOf : 59 ∉ segmentOf r m :=
  fun h => (isDigit_of_mem_segmentOf h).2.2 rfl

theorem segmentOf_ne_nil : segmentOf r m ≠ [] := by
  unfold segmentOf fieldsOf
  cases m.origin <;> simp [Vlq.encode_ne_nil]

/-- **One segment** is read as its mapping. -/
theorem readSegments_segmentOf (hm : m.Writable limits.sources) (hr : r.Fits)
    (segments : List (List UInt8)) :
    readSegments limits m.line [] r (segmentOf r m :: segments) =
      (readSegments limits m.line [] (fieldsOf r m).2 segments).map
        fun (last, here) => (last, m :: here) := by
  have hnonempty : (segmentOf r m).isEmpty = false :=
    List.isEmpty_eq_false_iff.2 segmentOf_ne_nil
  have hnumbers : Vlq.numbers (segmentOf r m) = .ok (fieldsOf r m).1 :=
    Vlq.numbers_flatMap_encode (isSmall_of_mem_fieldsOf hm hr)
  have hmapping : Mapping.mk m.line m.column m.origin false = m := by
    rw [← hm.point]
  simp only [readSegments, hnonempty, hnumbers, takeUp_fieldsOf hm, fieldsOf_column,
    List.headD_nil, List.tail_nil, hmapping, Bool.false_eq_true, if_false, bind, Except.bind]
  cases readSegments limits m.line [] (fieldsOf r m).2 segments <;> rfl

/-! ### Text after a mapping -/

/-- **Reading on** behind a segment, with the running values after it: the text goes on with
    segments of the same line and with later lines, and they are read as some mappings. -/
def ReadsOn (limits : Limits) (line : Nat) (r : Running) (text : List UInt8)
    (mappings : List Mapping) : Prop :=
  ∃ first lines segments last here later,
    text.splitOn 59 = first :: lines ∧ first.splitOn 44 = [] :: segments ∧
      readSegments limits line [] r segments = .ok (last, here) ∧
      readLines limits (line + 1) last [] lines = .ok later ∧ here ++ later = mappings

/-- There may be no more mappings. -/
theorem ReadsOn.nil : ReadsOn limits line r [] [] :=
  ⟨[], [], [], r, [], [], rfl, rfl, rfl, rfl, rfl⟩

/-- The next mapping can stand on the same line, behind a comma. -/
theorem ReadsOn.comma (hm : m.Writable limits.sources) (hr : r.Fits)
    (h : ReadsOn limits m.line (fieldsOf r m).2 text mappings) :
    ReadsOn limits m.line r (44 :: segmentOf r m ++ text) (m :: mappings) := by
  obtain ⟨first, lines, segments, last, here, later, hlines, hsegments, hhere, hlater, rfl⟩ := h
  have hsemicolon : 59 ∉ 44 :: segmentOf r m :=
    List.not_mem_cons_of_ne_of_not_mem (by decide) semicolon_not_mem_segmentOf
  refine ⟨_, lines, segmentOf r m :: segments, last, m :: here, later,
    Segments.splitOn_append_of_not_mem hsemicolon hlines, ?_, ?_, hlater, rfl⟩
  · rw [List.cons_append, Segments.splitOn_cons_self,
      Segments.splitOn_append_of_not_mem comma_not_mem_segmentOf hsegments, List.append_nil]
  · rw [readSegments_segmentOf hm hr, hhere]
    rfl

/-- The next mapping can stand on a later line, behind semicolons. -/
theorem ReadsOn.semicolons {k : Nat}
    (h : readLines limits (k + (line + 1)) r [] (text.splitOn 59) = .ok mappings) :
    ReadsOn limits line r (List.replicate (k + 1) 59 ++ text) mappings := by
  refine ⟨[], List.replicate k [] ++ text.splitOn 59, [], r, [], mappings, ?_, rfl, rfl, ?_, rfl⟩
  · rw [Segments.splitOn_replicate_append]
    rfl
  · rw [Segments.readLines_replicate_append, h]

/-- **Start of a line**: a mapping and what is read on behind it. -/
theorem readLines_segmentOf (hm : m.Writable limits.sources)
    (hr : ({ r with column := 0 } : Running).Fits)
    (h : ReadsOn limits m.line (fieldsOf { r with column := 0 } m).2 text mappings) :
    readLines limits m.line r [] ((segmentOf { r with column := 0 } m ++ text).splitOn 59) =
      .ok (m :: mappings) := by
  obtain ⟨first, lines, segments, last, here, later, hlines, hsegments, hhere, hlater, rfl⟩ := h
  have hnonempty : (segmentOf { r with column := 0 } m ++ first).isEmpty = false := by
    rw [List.isEmpty_eq_false_iff]
    exact List.append_ne_nil_of_left_ne_nil segmentOf_ne_nil _
  rw [Segments.splitOn_append_of_not_mem semicolon_not_mem_segmentOf hlines, readLines, hnonempty,
    Segments.splitOn_append_of_not_mem comma_not_mem_segmentOf hsegments, List.append_nil]
  simp only [List.headD_nil, List.tail_nil, Segments.readRanges, readSegments_segmentOf hm hr,
    hhere, hlater, Bool.false_eq_true, if_false, bind, Except.bind, Except.map]
  rfl

/-! ### Text of mappings -/

/-- A mapping on the line that the text is on. -/
theorem segmentsText_cons_of_eq (h : m.line = line) (fresh : Bool) (r : Running)
    (rest : List Mapping) :
    segmentsText line fresh r (m :: rest) =
      (if fresh then [] else [44]) ++ segmentOf r m ++
        segmentsText m.line false (fieldsOf r m).2 rest := by
  have hbreaks : m.line - line = 0 := by omega
  simp only [segmentsText, hbreaks, if_true]
  rfl

/-- A mapping on a later line. -/
theorem segmentsText_cons_of_lt (h : line < m.line) (fresh : Bool) (r : Running)
    (rest : List Mapping) :
    segmentsText line fresh r (m :: rest) =
      List.replicate (m.line - line) 59 ++ segmentOf { r with column := 0 } m ++
        segmentsText m.line false (fieldsOf { r with column := 0 } m).2 rest := by
  have hbreaks : ¬ m.line - line = 0 := by omega
  simp only [segmentsText, if_neg hbreaks]
  rfl

/-- **Mappings behind a mapping** are read back. -/
theorem readsOn_segmentsText (hsorted : mappings.Pairwise (· ≤ ·))
    (hfits : ∀ m ∈ mappings, m.Writable limits.sources)
    (hline : ∀ m ∈ mappings, line ≤ m.line) (hr : r.Fits) :
    ReadsOn limits line r (segmentsText line false r mappings) mappings := by
  induction mappings generalizing line r with
  | nil => exact ReadsOn.nil
  | cons m rest ih =>
    obtain ⟨hm, hrest⟩ := List.pairwise_cons.1 hsorted
    have hfit := hfits m List.mem_cons_self
    have hfits' : ∀ n ∈ rest, n.Writable limits.sources :=
      fun n hn => hfits n (List.mem_cons_of_mem m hn)
    have hlines : ∀ n ∈ rest, m.line ≤ n.line := by
      intro n hn
      have hle := Mapping.le_iff.1 (hm n hn)
      omega
    -- the rest is read on with the running values of this mapping, wherever it stands
    rcases Nat.eq_or_lt_of_le (hline m List.mem_cons_self) with hsame | hlater
    · subst hsame
      rw [segmentsText_cons_of_eq rfl]
      exact ReadsOn.comma hfit hr (ih hrest hfits' hlines (fieldsOf_fits hfit hr))
    · -- the column starts again on the new line
      have hr' : ({ r with column := 0 } : Running).Fits :=
        ⟨Nat.zero_lt_succ _, hr.source, hr.originLine, hr.originColumn⟩
      have hon := ih hrest hfits' hlines (fieldsOf_fits hfit hr')
      have hcount : m.line - line = m.line - line - 1 + 1 := by omega
      have hreach : m.line - line - 1 + (line + 1) = m.line := by omega
      rw [segmentsText_cons_of_lt hlater, List.append_assoc, hcount]
      apply ReadsOn.semicolons
      rw [hreach]
      exact readLines_segmentOf hfit hr' hon

/-- **All mappings** are read back. -/
theorem readLines_segmentsText (hsorted : mappings.Pairwise (· ≤ ·))
    (hfits : ∀ m ∈ mappings, m.Writable limits.sources) :
    readLines limits 0 .start [] ((segmentsText 0 true .start mappings).splitOn 59) =
      .ok mappings := by
  cases mappings with
  | nil => rfl
  | cons m rest =>
    obtain ⟨hm, hrest⟩ := List.pairwise_cons.1 hsorted
    have hfit := hfits m List.mem_cons_self
    have hstart : Running.start.Fits := ⟨by decide, by decide, by decide, by decide⟩
    have hon : ReadsOn limits m.line (fieldsOf .start m).2
        (segmentsText m.line false (fieldsOf .start m).2 rest) rest := by
      refine readsOn_segmentsText hrest (fun n hn => hfits n (List.mem_cons_of_mem m hn))
        ?_ (fieldsOf_fits hfit hstart)
      intro n hn
      have hle := Mapping.le_iff.1 (hm n hn)
      omega
    have htext : segmentsText 0 true .start (m :: rest) =
        List.replicate m.line 59 ++
          (segmentOf .start m ++ segmentsText m.line false (fieldsOf .start m).2 rest) := by
      -- at the start the column is zero already, so the first line is like any other
      rcases Nat.eq_zero_or_pos m.line with hzero | hpos
      · rw [segmentsText_cons_of_eq hzero, hzero]
        rfl
      · rw [segmentsText_cons_of_lt hpos, List.append_assoc]
        rfl
    rw [htext, Segments.splitOn_replicate_append, Segments.readLines_replicate_append]
    exact readLines_segmentOf hfit hstart hon

/-! ### Bytes of the text -/

/-- A text of mappings is plain. -/
theorem toNat_lt_of_mem_segmentsText {b : UInt8} {fresh : Bool}
    (h : b ∈ segmentsText line fresh r mappings) : b.toNat < 128 := by
  induction mappings generalizing line fresh r with
  | nil => exact absurd h (by simp [segmentsText])
  | cons m rest ih =>
    simp only [segmentsText, List.mem_append] at h
    rcases h with (hseparator | hsegment) | hrest
    · -- a separator is a comma or some semicolons
      split at hseparator
      · split at hseparator
        · exact absurd hseparator (by simp)
        · obtain rfl := List.mem_singleton.1 hseparator
          decide
      · obtain rfl := List.eq_of_mem_replicate hseparator
        decide
    · exact (isDigit_of_mem_segmentOf hsegment).1
    · exact ih hrest

/-- Bytes below 128 are the bytes of the characters with their numbers. -/
theorem utf8Bytes_map_ofNat {bytes : List UInt8} (h : ∀ b ∈ bytes, b.toNat < 128) :
    Text.utf8Bytes (bytes.map fun b => Char.ofNat b.toNat) = bytes := by
  have hall : ∀ n < 128, String.utf8EncodeChar (Char.ofNat n) = [UInt8.ofNat n] := by
    decide
  induction bytes with
  | nil => rfl
  | cons b bytes ih =>
    obtain ⟨hb, hbytes⟩ := List.forall_mem_cons.1 h
    have hrest := ih hbytes
    simp only [Text.utf8Bytes] at hrest ⊢
    rw [List.map_cons, List.flatMap_cons, hall _ hb, hrest, UInt8.ofNat_toNat]
    rfl

/-- **Written mappings** are read back, in the order of their places. -/
theorem read_mappingsText (h : ∀ m ∈ mappings, m.Writable limits.sources) :
    Segments.read limits (mappingsText mappings) "" = .ok (Mapping.sort mappings) := by
  have hranges : (Text.utf8Bytes "".toList).splitOn 59 = [[]] := rfl
  have hsorted := Mapping.pairwise_sort mappings
  have hfits : ∀ m ∈ Mapping.sort mappings, m.Writable limits.sources :=
    fun m hm => h m (Mapping.mem_sort.1 hm)
  rw [Segments.read, hranges, Segments.readLines_singleton_nil, mappingsText,
    String.toList_ofList, utf8Bytes_map_ofNat fun b hb => toNat_lt_of_mem_segmentsText hb,
    readLines_segmentsText hsorted hfits]

end SourceMap

end MapAudit
