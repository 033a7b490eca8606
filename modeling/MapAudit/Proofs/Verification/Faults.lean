import MapAudit.Proofs.Verification.Places
import MapAudit.Proofs.Verification.Probes

/-! # Which fault stops a verification

    A verification stops when its map cannot be read, or else at the first of its
    probes that cannot be placed: because the file it originates from is missing,
    because its literal is not in that file, or because it is not in the output, in
    this order. What was reported until then is what the probes before that one give.
-/

namespace MapAudit

open Text (OccursAt)

namespace Verification

/-- **Fault of a probe** that cannot be placed. A later reason counts only when the
    earlier ones do not hold. -/
inductive FaultOf (fixture : Fixture) (output : List Char) (p : Probe) :
    VerificationFault → Prop where
  /-- The file that the probe originates from is not in the fixture. -/
  | origin (missing : ∀ f ∈ fixture.files, f.path ≠ p.origin) :
      FaultOf fixture output p (.missingOrigin p.id p.origin)
  /-- The literal does not occur in the file. -/
  | input {f : FixtureFile} (mem : f ∈ fixture.files) (path : f.path = p.origin)
      (absent : ∀ n, ¬ OccursAt p.literal.toList f.source.toList n) :
      FaultOf fixture output p (.probeNotFound p.id .input)
  /-- The literal occurs in the file, but not in the output. -/
  | output {f : FixtureFile} (mem : f ∈ fixture.files) (path : f.path = p.origin)
      (present : ∃ n, OccursAt p.literal.toList f.source.toList n)
      (absent : ∀ n, ¬ OccursAt p.literal.toList output n) :
      FaultOf fixture output p (.probeNotFound p.id .output)

variable {fixture : Fixture} {output : List Char} {p : Probe} {fault : VerificationFault}

/-- In texts that are short enough, the fault of a probe is the one there is a reason for. -/
theorem probePlaces_eq_error_iff_faultOf (hfixture : fixture.Addressable)
    (houtput : Text.Addressable output) :
    probePlaces fixture (.ofText output) p = .error fault ↔ FaultOf fixture output p fault := by
  rw [probePlaces_eq_error_iff, houtput.outOfReach_iff]
  constructor
  · rintro (⟨hnone, rfl⟩ | ⟨f, hf, hcases⟩)
    · exact .origin (Fixture.file?_eq_none_iff.1 hnone)
    · obtain ⟨hmem, hpath⟩ := Fixture.mem_of_file? hf
      have hsource : Text.Addressable f.source.toList := hfixture f hmem
      rw [hsource.outOfReach_iff] at hcases
      rcases hcases with ⟨habsent, rfl⟩ | ⟨hpresent, habsent, rfl⟩
      · exact .input hmem hpath habsent
      · exact .output hmem hpath (by simpa using hpresent) habsent
  · rintro (hmissing | ⟨hmem, hpath, habsent⟩ | ⟨hmem, hpath, hpresent, habsent⟩)
    · exact Or.inl ⟨Fixture.file?_eq_none_iff.2 hmissing, rfl⟩
    · refine Or.inr ⟨_, Fixture.file?_eq_some_iff.2 ⟨hmem, hpath⟩, Or.inl ⟨?_, rfl⟩⟩
      exact (hfixture _ hmem).outOfReach_iff.2 habsent
    · refine Or.inr ⟨_, Fixture.file?_eq_some_iff.2 ⟨hmem, hpath⟩, Or.inr ⟨?_, habsent, rfl⟩⟩
      rw [(hfixture _ hmem).outOfReach_iff]
      simpa using hpresent

/-- A probe has a fault exactly when one of the three things is missing. -/
theorem exists_faultOf_iff :
    (∃ fault, FaultOf fixture output p fault) ↔
      (∀ f ∈ fixture.files, f.path ≠ p.origin) ∨
      (∃ f ∈ fixture.files, f.path = p.origin ∧
        ∀ n, ¬ OccursAt p.literal.toList f.source.toList n) ∨
      ∀ n, ¬ OccursAt p.literal.toList output n := by
  constructor
  · rintro ⟨fault, hmissing | ⟨hmem, hpath, habsent⟩ | ⟨-, -, -, habsent⟩⟩
    · exact Or.inl hmissing
    · exact Or.inr (Or.inl ⟨_, hmem, hpath, habsent⟩)
    · exact Or.inr (Or.inr habsent)
  · rintro (hmissing | ⟨f, hmem, hpath, habsent⟩ | habsent)
    · exact ⟨_, .origin hmissing⟩
    · exact ⟨_, .input hmem hpath habsent⟩
    · -- the reasons that come first may hold as well
      by_cases hmissing : ∀ f ∈ fixture.files, f.path ≠ p.origin
      · exact ⟨_, .origin hmissing⟩
      · obtain ⟨f, hmem, hpath⟩ : ∃ f ∈ fixture.files, f.path = p.origin := by
          simpa using hmissing
        by_cases hpresent : ∃ n, OccursAt p.literal.toList f.source.toList n
        · exact ⟨_, .output hmem hpath hpresent habsent⟩
        · exact ⟨_, .input hmem hpath (by simpa using hpresent)⟩

/-- **Faults in order**: when a verification stops, why, and what it reports before. -/
structure FaultsInOrder (kind : String) (fixture : Fixture) (output map : String) : Prop where
  /-- It stops exactly when the map cannot be read or a probe cannot be placed. -/
  error_iff : (∃ fault, (verify kind fixture output map).result = .error fault) ↔
    (∃ e, SourceMap.parse map = .error e) ∨
      ∃ p ∈ fixture.probes,
        (∀ f ∈ fixture.files, f.path ≠ p.origin) ∨
        (∃ f ∈ fixture.files, f.path = p.origin ∧
          ∀ n, ¬ OccursAt p.literal.toList f.source.toList n) ∨
        ∀ n, ¬ OccursAt p.literal.toList output.toList n
  /-- A map that cannot be read comes first, and nothing is reported. -/
  map_first : ∀ e, SourceMap.parse map = .error e →
    verify kind fixture output map = { result := .error (.map e), reported := [] }
  /-- Otherwise the first probe with a fault decides, and the probes before it are
      reported on as if there were no others. -/
  probe_first : ∀ m fault, SourceMap.parse map = .ok m →
    (verify kind fixture output map).result = .error fault →
    ∃ before p after, fixture.probes = before ++ p :: after ∧
      (∀ q ∈ before, ∀ fault', ¬ FaultOf fixture output.toList q fault') ∧
      FaultOf fixture output.toList p fault ∧
      (∃ report, (verify kind (fixture.withProbes before) output map).result = .ok report) ∧
      (verify kind fixture output map).reported =
        (verify kind (fixture.withProbes before) output map).reported

end Verification

open Verification

/-! ### The verification -/

variable {kind : String} {fixture : Fixture} {output map : String}

/-- With a map that can be read, a verification stops at a probe with a fault and only
    there. -/
theorem exists_error_iff_of_parse_ok {m : SourceMap} (hfixture : fixture.Addressable)
    (houtput : Text.Addressable output.toList) (hparse : SourceMap.parse map = .ok m) :
    (∃ fault, (verify kind fixture output map).result = .error fault) ↔
      ∃ p ∈ fixture.probes, ∃ fault, FaultOf fixture output.toList p fault := by
  rw [verify_of_parse_ok hparse]
  constructor
  · rintro ⟨fault, hfault⟩
    obtain ⟨before, p, after, hsplit, hp, -⟩ := exists_probe_of_ofMap_error hfault
    refine ⟨p, by simp [hsplit], fault, ?_⟩
    exact (probePlaces_eq_error_iff_faultOf hfixture houtput).1 hp
  · rintro ⟨p, hmem, fault, hfault⟩
    exact exists_fault_of_mem hmem
      ((probePlaces_eq_error_iff_faultOf hfixture houtput).2 hfault)

/-- **Faults** of verifications come in order, in texts that are short enough. -/
theorem verify_faults_in_order (kind : String) (map : String) (hfixture : fixture.Addressable)
    (houtput : Text.Addressable output.toList) : FaultsInOrder kind fixture output map := by
  constructor
  · cases hparse : SourceMap.parse map with
    | error e =>
      rw [verify_of_parse_error hparse]
      exact ⟨fun _ => Or.inl ⟨e, rfl⟩, fun _ => ⟨.map e, rfl⟩⟩
    | ok m =>
      rw [exists_error_iff_of_parse_ok hfixture houtput hparse]
      simp only [exists_faultOf_iff, reduceCtorEq, exists_false, false_or]
  · intro e hparse
    exact verify_of_parse_error hparse
  · intro m fault hparse hfault
    rw [verify_of_parse_ok hparse] at hfault
    obtain ⟨before, p, after, hsplit, hp, hcut, hreported⟩ := exists_probe_of_ofMap_error hfault
    refine ⟨before, p, after, hsplit, fun q hq fault' hfault' => ?_,
      (probePlaces_eq_error_iff_faultOf hfixture houtput).1 hp, ?_, ?_⟩
    · -- a fault before `p` would have stopped the shorter verification
      obtain ⟨report, hreport⟩ := hcut
      have hplaces := (probePlaces_eq_error_iff_faultOf hfixture houtput).2 hfault'
      have hmem : q ∈ (fixture.withProbes before).probes := hq
      have hstops : ∃ stop, (ofMap kind (fixture.withProbes before) output.toList m).result =
          .error stop := exists_fault_of_mem hmem hplaces
      obtain ⟨stop, hstop⟩ := hstops
      rw [hreport] at hstop
      exact absurd hstop (by simp)
    · rwa [verify_of_parse_ok hparse]
    · rwa [verify_of_parse_ok hparse, verify_of_parse_ok hparse]

/-- An output without link that lacks the second literal: the missing link is reported,
    and the first probe is checked in vain. -/
theorem verify_faults_in_order_cut_output :
    (Fixture.twoProbes.Addressable ∧ Text.Addressable "𝄞 \"é\"\n".toList) ∧
      (verify "es6" .twoProbes "𝄞 \"é\"\n" twoProbesMap).result =
        .error (.probeNotFound "b" .output) ∧
      (verify "es6" .twoProbes "𝄞 \"é\"\n" twoProbesMap).reported =
        [⟨"es6", linkMessage⟩] ∧
      FaultsInOrder "es6" .twoProbes "𝄞 \"é\"\n" twoProbesMap :=
  ⟨⟨by decide +kernel, by decide +kernel⟩, by decide +kernel, by decide +kernel,
    verify_faults_in_order "es6" twoProbesMap (by decide +kernel) (by decide +kernel)⟩

end MapAudit
