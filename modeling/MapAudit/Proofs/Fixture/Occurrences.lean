import MapAudit.Proofs.Fixture.Validity
import MapAudit.Proofs.Text.Matches

/-! # How often a literal occurs

    Validation asks that the literal of a probe is matched once in the file the probe
    originates from. That is less than asking that it occurs once: a literal begins and
    ends with a quote, and the quote that closes one occurrence may open another one. The
    second occurrence is not matched, since it begins inside the first.

    This is all that can happen to a probe without quotes in its identifier.
-/

namespace MapAudit.Fixture

open Text (OccursAt utf8Length)

variable {fixture : Fixture} {p : Probe}

/-- **Overlapping literals**: two literals of a probe that share the quote in the middle. -/
def overlapping (p : Probe) : String :=
  p.literal ++ (p.id ++ "\"")

theorem toList_overlapping (p : Probe) :
    (overlapping p).toList = Text.marked '"' p.id.toList ++ (p.id.toList ++ ['"']) := by
  have hquote : "\"".toList = ['"'] := rfl
  rw [overlapping, String.toList_append, String.toList_append, toList_literal, hquote]

/-- **Occurrences in accepted fixtures**: the literal of a probe occurs in the file it
    originates from, and no occurrence begins behind the end of the first one. A probe
    without quotes in its identifier has one occurrence exactly when its literals do not
    overlap there. -/
theorem occurrences_of_validate (h : fixture.validate = .ok ()) (hmem : p ∈ fixture.probes) :
    ∃ file, fixture.file? p.origin = some file ∧
      (∃ first, OccursAt p.literal.toList file.source.toList first ∧
        ∀ n, OccursAt p.literal.toList file.source.toList n →
          first ≤ n ∧ n < first + utf8Length p.literal.toList) ∧
      ('"' ∉ p.id.toList →
        ((∃! n, OccursAt p.literal.toList file.source.toList n) ↔
          ∀ n, ¬ OccursAt (overlapping p).toList file.source.toList n)) := by
  obtain ⟨file, hfile, hcount⟩ :=
    literalCount_of_validateProbes (validateProbes_of_validate h) hmem
  refine ⟨file, hfile, ?_, fun hid => ?_⟩
  · have hliteral : p.literal.toList ≠ [] := by
      rw [toList_literal]
      exact List.cons_ne_nil _ _
    obtain ⟨front, hfront, hall⟩ := (Text.countMatches_eq_one_iff hliteral).1 hcount
    exact ⟨utf8Length front, hfront.occursAt, fun n hn => ⟨hfront.first n hn, hall n hn⟩⟩
  · rw [literalCount, toList_literal] at hcount
    rw [toList_literal, toList_overlapping]
    exact Text.existsUnique_occursAt_marked_iff hid hcount

/-! ### A shared quote -/

/-- A fixture whose only file consists of two literals that share a quote. -/
def sharedQuote : Fixture :=
  .ofFiles .es6 [⟨"a.js", "\"a0\"a0\""⟩] [⟨"a0", "a.js"⟩]

theorem validate_sharedQuote : sharedQuote.validate = .ok () := by
  decide +kernel

theorem file?_sharedQuote : sharedQuote.file? "a.js" = some ⟨"a.js", "\"a0\"a0\""⟩ := by
  decide +kernel

theorem occursAt_sharedQuote :
    OccursAt (Probe.literal ⟨"a0", "a.js"⟩).toList "\"a0\"a0\"".toList 0 ∧
      OccursAt (Probe.literal ⟨"a0", "a.js"⟩).toList "\"a0\"a0\"".toList 3 :=
  ⟨⟨[], "a0\"".toList, by decide +kernel, rfl⟩, ⟨"\"a0".toList, [], by decide +kernel, rfl⟩⟩

/-- The fixture is accepted, its two literals begin at the offsets 0 and 3, and the second
    begins before the end of the first. -/
theorem occurrences_of_validate_sharedQuote :
    (sharedQuote.validate = .ok () ∧ ⟨"a0", "a.js"⟩ ∈ sharedQuote.probes) ∧
      ∃ file, sharedQuote.file? "a.js" = some file ∧
        (∃ first, OccursAt (Probe.literal ⟨"a0", "a.js"⟩).toList file.source.toList first ∧
          ∀ n, OccursAt (Probe.literal ⟨"a0", "a.js"⟩).toList file.source.toList n →
            first ≤ n ∧ n < first + 4) ∧
        ((∃! n, OccursAt (Probe.literal ⟨"a0", "a.js"⟩).toList file.source.toList n) ↔
          ∀ n, ¬ OccursAt "\"a0\"a0\"".toList file.source.toList n) := by
  have hmem : ⟨"a0", "a.js"⟩ ∈ sharedQuote.probes := List.mem_singleton.2 rfl
  obtain ⟨file, hfile, hfirst, honce⟩ := occurrences_of_validate validate_sharedQuote hmem
  exact ⟨⟨validate_sharedQuote, hmem⟩, file, hfile, hfirst, honce (by decide +kernel)⟩

/-- **Not once**: a fixture can be accepted although a literal occurs twice in the file its
    probe originates from. -/
theorem accepted_without_unique_occurrence :
    ¬ ∀ (fixture : Fixture) (p : Probe), fixture.validate = .ok () → p ∈ fixture.probes →
      ∃ file, fixture.file? p.origin = some file ∧
        ∃! n, OccursAt p.literal.toList file.source.toList n := by
  intro hall
  obtain ⟨file, hfile, n, -, hunique⟩ :=
    hall sharedQuote ⟨"a0", "a.js"⟩ validate_sharedQuote (List.mem_singleton.2 rfl)
  obtain rfl := Option.some.inj (file?_sharedQuote.symm.trans hfile)
  have hboth := (hunique 0 occursAt_sharedQuote.1).trans (hunique 3 occursAt_sharedQuote.2).symm
  exact absurd hboth (by decide)

end MapAudit.Fixture
