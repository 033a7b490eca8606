import MapAudit.Proofs.SourceMap.Document
import MapAudit.Proofs.Verification.Places
import MapAudit.Proofs.Verification.Probes

/-! # Helper code in front of an output

    A build tool may put helper code in front of what it made of the sources. Whole
    lines in front of an output do not change what a verification comes to, as long as
    the map moves down with the output and the helper code does not bring in the link
    or a literal of its own.

    Everything that is searched is found behind the helper code then, in the place it
    had before, moved down by as many lines.
-/

namespace MapAudit

open Text (Coordinate LineIndex OccursAt StandsAfter utf8Length lastLine breaks)

namespace Text

variable {needle front cs before : List Char}

/-- **Not in front**: no occurrence of the needle begins in the text put in front. -/
def NotInFront (needle front cs : List Char) : Prop :=
  ∀ n, OccursAt needle (front ++ cs) n → utf8Length front ≤ n

/-! ### Searching behind a text -/

/-- It is the first occurrence that matters. -/
theorem notInFront_iff :
    NotInFront needle front cs ↔ ∀ n ∈ find? needle (front ++ cs), utf8Length front ≤ n := by
  constructor
  · intro h n hn
    exact h n (find?_eq_some_iff.1 hn).1
  · intro h n hn
    cases hfind : find? needle (front ++ cs) with
    | none => exact absurd hn (find?_eq_none_iff.1 hfind n)
    | some m => exact Nat.le_trans (h m hfind) ((find?_eq_some_iff.1 hfind).2 n hn)

instance : Decidable (NotInFront needle front cs) :=
  decidable_of_iff _ notInFront_iff.symm

theorem NotInFront.exists_occursAt_iff (h : NotInFront needle front cs) :
    (∃ n, OccursAt needle (front ++ cs) n) ↔ ∃ n, OccursAt needle cs n := by
  constructor
  · rintro ⟨n, hn⟩
    exact ⟨_, hn.of_behind (h n hn)⟩
  · rintro ⟨n, hn⟩
    exact ⟨_, hn.behind front⟩

theorem NotInFront.contains_append (h : NotInFront needle front cs) :
    contains needle (front ++ cs) = contains needle cs := by
  rw [Bool.eq_iff_iff, contains_iff, contains_iff, h.exists_occursAt_iff]

/-- The first occurrence stays the first. -/
theorem NotInFront.standsAfter (h : NotInFront needle front cs)
    (hcs : StandsAfter needle cs before) : StandsAfter needle (front ++ cs) (front ++ before) := by
  obtain ⟨back, hback⟩ := hcs.occurs
  refine ⟨⟨back, by simp [hback]⟩, ?_⟩
  intro n hn
  have hfront := h n hn
  have hfirst := hcs.first _ (hn.of_behind hfront)
  rw [utf8Length_append]
  omega

/-- A whole line that does not occur in whole lines put in front does not begin there. -/
theorem notInFront_of_line {line : List Char} (hline : '\n' ∉ line) (hfront : lastLine front = [])
    (h : ∀ n, ¬ OccursAt (line ++ ['\n']) front n) :
    NotInFront (line ++ ['\n']) front cs := by
  rintro n ⟨start, back, hcs, rfl⟩
  by_contra hlt
  rw [List.append_assoc] at hcs
  rcases List.append_eq_append_iff.1 hcs with ⟨rest, rfl, -⟩ | ⟨rest, rfl, hrest⟩
  · simp at hlt
  · -- the line begins in the last part of the text in front, which ends in a line break
    rcases List.eq_nil_or_concat rest with rfl | ⟨init, c, rfl⟩
    · simp at hlt
    · rw [List.concat_eq_append] at hfront hrest h
      rw [← List.append_assoc, lastLine_append_singleton_eq_nil_iff] at hfront
      subst hfront
      rcases List.append_eq_append_iff.1 hrest with ⟨tail, htail, -⟩ | ⟨tail, htail, -⟩
      · exact h _ ⟨start, tail, by rw [htail]; simp, rfl⟩
      · rcases List.eq_nil_or_concat tail with rfl | ⟨tail, d, rfl⟩
        · exact h _ ⟨start, [], by rw [htail]; simp, rfl⟩
        · rw [List.concat_eq_append, ← List.append_assoc] at htail
          have hinner := (List.append_inj' htail rfl).1
          exact hline (by simp [hinner])

end Text

namespace Verification

variable {fixture : Fixture} {map : SourceMap} {front output : List Char}

/-! ### Locating behind a text -/

theorem locate?_append {needle : List Char} (hneedle : Text.NotInFront needle front output)
    (hfront : lastLine front = []) (hshort : Text.Addressable (front ++ output)) :
    locate? (.ofText (front ++ output)) needle =
      (locate? (.ofText output) needle).map (Coordinate.down (breaks front)) := by
  cases hlocate : locate? (.ofText output) needle with
  | none =>
    have hshort' : Text.Addressable output := by
      simp only [Text.Addressable, Text.utf8Length_append] at hshort ⊢
      omega
    have hnone := hshort'.outOfReach_iff.1 (locate?_eq_none_iff.1 hlocate)
    refine locate?_eq_none_iff.2 (hshort.outOfReach_iff.2 fun n hn => ?_)
    exact hnone _ (hn.of_behind (hneedle n hn))
  | some place =>
    obtain ⟨before, hbefore, -, rfl⟩ := locate?_eq_some_iff.1 hlocate
    have hstands := hneedle.standsAfter hbefore
    refine locate?_eq_some_iff.2 ⟨front ++ before, hstands, ?_, ?_⟩
    · exact Nat.le_trans hstands.occursAt.le_utf8Length hshort
    · rw [Coordinate.after_append hfront]

/-! ### Checking behind a text -/

variable {p : Probe} {expected : OriginalPosition} {generated : Coordinate}

/-- A probe comes from where it came from, and its place moves down. -/
theorem probePlaces_append (hp : Text.NotInFront p.literal.toList front output)
    (hfront : lastLine front = []) (hshort : Text.Addressable (front ++ output)) :
    probePlaces fixture (.ofText (front ++ output)) p =
      (probePlaces fixture (.ofText output) p).map fun (expected, generated) =>
        (expected, generated.down (breaks front)) := by
  unfold probePlaces
  cases fixture.file? p.origin with
  | none => rfl
  | some file =>
    cases hwritten : locate? (.ofText file.source.toList) p.literal.toList with
    | none => simp only [hwritten, Except.map]
    | some written =>
      simp only [hwritten, locate?_append hp hfront hshort]
      cases locate? (.ofText output) p.literal.toList with
      | none => rfl
      | some generated => rfl

/-- A place in an output is on some line. -/
theorem line_ne_zero_of_probePlaces
    (h : probePlaces fixture (.ofText output) p = .ok (expected, generated)) :
    generated.line ≠ 0 := by
  obtain ⟨before, -, rfl⟩ := (stands_of_probePlaces h).shown
  exact Nat.succ_ne_zero _

theorem checkPlace_down {k : Nat} (h : generated.line ≠ 0) :
    checkPlace (map.down k) expected (generated.down k) = checkPlace map expected generated := by
  rw [checkPlace, checkPlace, SourceMap.originalPosition_down h]

/-- Probes are checked behind a text as they were without it. -/
theorem checkProbes_append {r : Recorder} {probes : List Probe}
    (hprobes : ∀ p ∈ probes, Text.NotInFront p.literal.toList front output)
    (hfront : lastLine front = []) (hshort : Text.Addressable (front ++ output)) :
    checkProbes fixture (map.down (breaks front)) (.ofText (front ++ output)) r probes =
      checkProbes fixture map (.ofText output) r probes := by
  induction probes generalizing r with
  | nil => rfl
  | cons p rest ih =>
    have hp := hprobes p List.mem_cons_self
    have hrest : ∀ q ∈ rest, Text.NotInFront q.literal.toList front output :=
      fun q hq => hprobes q (List.mem_cons_of_mem _ hq)
    have hplaces : probePlaces fixture (.ofText (front ++ output)) p = _ :=
      probePlaces_append hp hfront hshort
    cases hprobe : probePlaces fixture (.ofText output) p with
    | error fault =>
      rw [hprobe] at hplaces
      rw [checkProbes_cons_error hprobe, checkProbes_cons_error hplaces]
    | ok places =>
      rw [hprobe] at hplaces
      -- map and place have been moved by the same number of lines
      have hcheck : checkPlace (map.down (breaks front)) places.1 (places.2.down (breaks front)) =
          checkPlace map places.1 places.2 :=
        checkPlace_down (line_ne_zero_of_probePlaces hprobe)
      rw [checkProbes_cons_ok ⟨_, _, hprobe, rfl⟩, checkProbes_cons_ok ⟨_, _, hplaces, rfl⟩,
        hcheck, ih hrest]

/-- **Prelude** of an output: whole lines that contain neither the link nor the beginning
    of a literal. -/
structure IsPrelude (fixture : Fixture) (front output : List Char) : Prop where
  /-- It is empty or ends in a line break. -/
  whole : front = [] ∨ front.getLast? = some '\n'
  /-- The link does not occur in it. -/
  linkless : ∀ n, ¬ OccursAt mapLink.toList front n
  /-- No literal of a probe begins in it, as it stands in front of the output. -/
  probeless : ∀ p ∈ fixture.probes, Text.NotInFront p.literal.toList front output

theorem isPrelude_iff :
    IsPrelude fixture front output ↔
      (front = [] ∨ front.getLast? = some '\n') ∧
        Text.contains mapLink.toList front = false ∧
        ∀ p ∈ fixture.probes, Text.NotInFront p.literal.toList front output := by
  rw [Bool.eq_false_iff, Ne, Text.contains_iff, not_exists]
  exact ⟨fun h => ⟨h.whole, h.linkless, h.probeless⟩, fun ⟨h₁, h₂, h₃⟩ => ⟨h₁, h₂, h₃⟩⟩

instance : Decidable (IsPrelude fixture front output) :=
  decidable_of_iff _ isPrelude_iff.symm

theorem IsPrelude.lastLine_eq_nil (h : IsPrelude fixture front output) : lastLine front = [] :=
  Text.lastLine_eq_nil_iff.2 h.whole

theorem checkLink_append (h : IsPrelude fixture front output) :
    checkLink (front ++ output) = checkLink output := by
  have hline : '\n' ∉ "//# sourceMappingURL=out.js.map".toList := by decide
  have hlink : mapLink.toList = "//# sourceMappingURL=out.js.map".toList ++ ['\n'] := by decide
  have hnone := h.linkless
  rw [hlink] at hnone
  rw [checkLink, checkLink, hlink,
    (Text.notInFront_of_line hline h.lastLine_eq_nil hnone).contains_append]

/-- **Verification behind a prelude** against the map moved down. -/
theorem ofMap_append {kind : String} (h : IsPrelude fixture front output)
    (hshort : Text.Addressable (front ++ output)) :
    ofMap kind fixture (front ++ output) (map.down (breaks front)) =
      ofMap kind fixture output map := by
  simp only [ofMap, checkLink_append h,
    checkProbes_append h.probeless h.lastLine_eq_nil hshort]

end Verification

/-- An output behind a prelude comes to the same with every text of the body moved down. -/
theorem verify_append {kind : String} {fixture : Fixture} {prelude output map map' : String}
    {body : Document.Body}
    (hprelude : Verification.IsPrelude fixture prelude.toList output.toList)
    (hshort : Text.Addressable (prelude ++ output).toList)
    (hmap : Document.parse map = .ok (.plain body)) (hranges : body.rangeMappings = "")
    (hmap' : Document.parse map' = .ok (.plain (body.below (breaks prelude.toList)))) :
    verify kind fixture (prelude ++ output) map' = verify kind fixture output map := by
  have hparse := SourceMap.parse_of_plain hmap
  have hparse' := SourceMap.parse_of_plain hmap'
  rw [Document.Body.toSourceMap_below _ hranges] at hparse'
  rw [String.toList_append] at hshort
  cases hbody : body.toSourceMap with
  | error e =>
    rw [hbody] at hparse hparse'
    rw [verify_of_parse_error hparse, verify_of_parse_error hparse']
  | ok m =>
    rw [hbody] at hparse hparse'
    rw [verify_of_parse_ok hparse, verify_of_parse_ok hparse', String.toList_append,
      Verification.ofMap_append hprelude hshort]

/-- **Helper code** in front of an output changes nothing: the result and the diagnostics
    are those of the output alone, if as many semicolons as the helper code has lines are
    put in front of the mappings. They may be in any text of the document moved down, or
    just be put into the text of the map where its mappings open. -/
theorem verify_behind_prelude {kind : String} {fixture : Fixture} {prelude output map : String}
    {body : Document.Body}
    (hprelude : Verification.IsPrelude fixture prelude.toList output.toList)
    (hshort : Text.Addressable (prelude ++ output).toList)
    (hmap : Document.parse map = .ok (.plain body)) (hranges : body.rangeMappings = "") :
    (∀ map', Document.parse map' = .ok (.plain (body.below (breaks prelude.toList))) →
      verify kind fixture (prelude ++ output) map' = verify kind fixture output map) ∧
    (∀ head tail, map = head ++ tail → Document.OpensMappings head.toList →
      verify kind fixture (prelude ++ output)
          (head ++ Segments.emptyLines (breaks prelude.toList) ++ tail) =
        verify kind fixture output map) := by
  constructor
  · intro map' hmap'
    exact verify_append hprelude hshort hmap hranges hmap'
  · rintro head tail rfl hopens
    exact verify_append hprelude hshort hmap hranges (Document.parse_emptyLines hopens hmap _)

/-! ### A prelude of two lines -/

/-- Two lines of helper code, the second of which has the beginning of a link. -/
def twoLines : String :=
  "let 𝄞 = b\n//# sourceMappingURL=out\n"

/-- The beginning of the map of two probes, up to its mappings. -/
def twoProbesMapHead : String :=
  "\x7b\"sources\":[\"a.js\"],\"mappings\":\""

/-- Another text of the map of two probes, with its mappings two lines further down. -/
def twoProbesMapBelow : String :=
  "\x7b\"mappings\":\";;GACA;AAAK\",\"sources\":[\"a.js\"]\x7d"

theorem opensMappings_twoProbesMapHead : Document.OpensMappings twoProbesMapHead.toList := by
  have hheader : Document.dropHeader twoProbesMapHead.toList = .ok twoProbesMapHead.toList := by
    decide +kernel
  exact ⟨_, [.openObject, .string (some "sources"), .colon, .openArray, .string (some "a.js"),
      .closeArray, .comma, .string (some "mappings"), .colon],
    [(some "sources", .array [.string "a.js"])], hheader, by decide +kernel, rfl⟩

/-- The output of two probes behind two lines, with both texts of its map. -/
theorem verify_behind_prelude_two_lines :
    (Verification.IsPrelude .twoProbes twoLines.toList twoProbesOutput.toList ∧
      Text.Addressable (twoLines ++ twoProbesOutput).toList ∧
      Document.parse twoProbesMap = .ok (.plain ⟨["a.js"], "", 0, "GACA;AAAK", ""⟩)) ∧
      verify "es6" .twoProbes (twoLines ++ twoProbesOutput) twoProbesMapBelow =
        verify "es6" .twoProbes twoProbesOutput twoProbesMap ∧
      verify "es6" .twoProbes (twoLines ++ twoProbesOutput)
          (twoProbesMapHead ++ Segments.emptyLines 2 ++ "GACA;AAAK\"\x7d") =
        verify "es6" .twoProbes twoProbesOutput twoProbesMap := by
  have hprelude : Verification.IsPrelude .twoProbes twoLines.toList twoProbesOutput.toList := by
    decide +kernel
  have hshort : Text.Addressable (twoLines ++ twoProbesOutput).toList := by
    decide +kernel
  have hmap : Document.parse twoProbesMap =
      .ok (.plain ⟨["a.js"], "", 0, "GACA;AAAK", ""⟩) := by
    decide +kernel
  have hbelow : Document.parse twoProbesMapBelow =
      .ok (.plain (.below 2 ⟨["a.js"], "", 0, "GACA;AAAK", ""⟩)) := by
    decide +kernel
  have hsplit : twoProbesMap = twoProbesMapHead ++ "GACA;AAAK\"\x7d" := by
    decide +kernel
  have hbreaks : breaks twoLines.toList = 2 := by
    decide +kernel
  have hboth := @verify_behind_prelude "es6" _ _ _ _ _ hprelude hshort hmap rfl
  rw [hbreaks] at hboth
  exact ⟨⟨hprelude, hshort, hmap⟩, hboth.1 _ hbelow,
    hboth.2 _ _ hsplit opensMappings_twoProbesMapHead⟩

end MapAudit
