import MapAudit.CommandLine.Basic
import MapAudit.Proofs.Json.Written
import MapAudit.Proofs.Text.Lines
import MapAudit.Proofs.Verification.Probes

/-! # Messages of checks

    The message of the check of a probe shows the expected and the observed position, each
    as a JSON object on one line. It tells both positions, whatever their source files are
    called: a quote in a name is escaped, so a name that looks like the rest of a message is
    not taken for it.

    A line break in a name is escaped as well. So a check that did not hold is shown on one
    line, unless the label of the run has a line break.
-/

namespace MapAudit

open Json (EndsNumber ReadsBack WithoutControls withoutControls_append)

namespace OriginalPosition

/-! ### Positions -/

/-- The position as a JSON value. -/
def json (p : OriginalPosition) : Json :=
  .object [("source", .ofString? p.source), ("line", .ofNat? p.line), ("column", .ofNat? p.column)]

theorem toList_toJson (p : OriginalPosition) : p.toJson.toList = Json.compactText p.json :=
  String.toList_ofList

theorem readsBack_json (p : OriginalPosition) : ReadsBack p.json := by
  refine .object _ ?_
  intro m hm
  simp only [List.mem_cons, List.not_mem_nil, or_false] at hm
  rcases hm with rfl | rfl | rfl
  · exact Json.readsBack_ofString? p.source
  · exact Json.readsBack_ofNat? p.line
  · exact Json.readsBack_ofNat? p.column

theorem json_injective : Function.Injective json := by
  rintro ⟨source, line, column⟩ ⟨source', line', column'⟩ h
  have hmembers := Json.object.inj h
  simp only [List.cons.injEq, Prod.mk.injEq, true_and, and_true] at hmembers
  obtain ⟨hsource, hline, hcolumn⟩ := hmembers
  rw [Json.ofString?_injective hsource, Json.ofNat?_injective hline,
    Json.ofNat?_injective hcolumn]

/-- **Positions in front of a text** are told by it, and so is the rest. -/
theorem toJson_append_inj {p q : OriginalPosition} {rest rest' : List Char}
    (hrest : EndsNumber rest) (hrest' : EndsNumber rest')
    (h : p.toJson.toList ++ rest = q.toJson.toList ++ rest') : p = q ∧ rest = rest' := by
  rw [toList_toJson, toList_toJson] at h
  obtain ⟨hjson, hsame⟩ :=
    Json.compactText_append_inj p.readsBack_json q.readsBack_json hrest hrest' h
  exact ⟨json_injective hjson, hsame⟩

theorem toJson_injective : Function.Injective toJson := by
  intro p q h
  have hlist : p.toJson.toList ++ [] = q.toJson.toList ++ [] := by rw [h]
  exact (toJson_append_inj .nil .nil hlist).1

theorem withoutControls_toJson (p : OriginalPosition) : WithoutControls p.toJson.toList := by
  rw [toList_toJson]
  exact Json.withoutControls_compactText p.readsBack_json

end OriginalPosition

namespace Verification

/-! ### Messages -/

variable {e o e' o' : OriginalPosition}

theorem toList_probeMessage (e o : OriginalPosition) :
    (probeMessage e o).toList =
      "expected: ".toList ++ (e.toJson.toList ++ (" observed: ".toList ++ o.toJson.toList)) := by
  simp only [probeMessage, String.toList_append, List.append_assoc]

/-- **Messages tell positions**: equal messages show equal positions. -/
theorem probeMessage_inj : probeMessage e o = probeMessage e' o' ↔ e = e' ∧ o = o' := by
  constructor
  · intro h
    have hlist := congrArg String.toList h
    rw [toList_probeMessage, toList_probeMessage] at hlist
    -- the first position ends at the space, whatever its source file is called
    have hspace (rest : List Char) : EndsNumber (" observed: ".toList ++ rest) :=
      .cons _ (by decide)
    obtain ⟨hexpected, hobserved⟩ :=
      OriginalPosition.toJson_append_inj (hspace _) (hspace _) (List.append_cancel_left hlist)
    have hlast := List.append_cancel_left hobserved
    exact ⟨hexpected, OriginalPosition.toJson_injective (String.toList_inj.1 hlast)⟩
  · rintro ⟨rfl, rfl⟩
    rfl

theorem withoutControls_probeMessage (e o : OriginalPosition) :
    WithoutControls (probeMessage e o).toList := by
  have hfirst : WithoutControls "expected: ".toList := by decide
  have hsecond : WithoutControls " observed: ".toList := by decide
  rw [toList_probeMessage]
  simp only [withoutControls_append]
  exact ⟨hfirst, e.withoutControls_toJson, hsecond, o.withoutControls_toJson⟩

theorem withoutControls_linkMessage : WithoutControls linkMessage.toList := by
  decide

end Verification

open Verification

/-- **Faithful checks** show two positions in their message and hold exactly when the JSON
    texts of these positions are the same. -/
structure Check.Faithful (c : Check) : Prop where
  /-- The message shows two positions. -/
  shows : ∃ e o, c.message = probeMessage e o
  /-- Whatever positions it shows, they decide whether the check holds. -/
  holds : ∀ e o, c.message = probeMessage e o → (c.success = true ↔ e.toJson = o.toJson)

namespace Verification

/-! ### Checks -/

variable {fixture : Fixture} {kind output map : String}
  {result : Except VerificationFault Report} {c : Check} {checks : List Check} {d : Diagnostic}

theorem faithful_checkPlace (map : SourceMap) (e : OriginalPosition) (place : Text.Coordinate) :
    (checkPlace map e place).Faithful := by
  refine ⟨⟨_, _, rfl⟩, ?_⟩
  intro e' o' h
  -- the message shows no other positions than those that have been compared
  obtain ⟨rfl, rfl⟩ := probeMessage_inj.1 h
  simp only [checkPlace, decide_eq_true_eq, OriginalPosition.toJson_injective.eq_iff]

theorem faithful_of_forall₂ {m : SourceMap} {index : Text.LineIndex} {probes : List Probe}
    (h : List.Forall₂ (CheckOf fixture m index) probes checks) : ∀ c ∈ checks, c.Faithful := by
  induction h with
  | nil => simp
  | cons hc _ ih =>
    obtain ⟨e, place, -, rfl⟩ := hc
    exact List.forall_mem_cons.2 ⟨faithful_checkPlace m e place, ih⟩

/-- The checks that a verification makes after that of the link are faithful. -/
theorem ChecksMade.faithful (h : ChecksMade fixture output map result checks) :
    ∀ c ∈ checks.tail, c.Faithful := by
  cases h with
  | unread => simp
  | stopped _ _ _ made => exact faithful_of_forall₂ made
  | finished _ made reported =>
    rw [reported]
    exact faithful_of_forall₂ made

theorem ChecksMade.withoutControls (h : ChecksMade fixture output map result checks)
    (hc : c ∈ checks) : WithoutControls c.message.toList := by
  -- unless nothing has been checked, the check of the link comes first
  have hlink : c = checkLink output.toList ∨ c ∈ checks.tail := by
    cases h with
    | unread => exact absurd hc List.not_mem_nil
    | stopped => exact List.mem_cons.1 hc
    | finished _ _ reported =>
      rw [reported] at hc ⊢
      exact List.mem_cons.1 hc
  rcases hlink with rfl | htail
  · exact withoutControls_linkMessage
  · obtain ⟨e, o, hmessage⟩ := (h.faithful c htail).shows
    rw [hmessage]
    exact withoutControls_probeMessage e o

/-! ### Lines -/

/-- A diagnostic has no line break of its own. -/
theorem not_mem_line (hkind : '\n' ∉ kind.toList)
    (hd : d ∈ (verify kind fixture output map).reported) : '\n' ∉ d.line.toList := by
  obtain ⟨checks, hmade, hreported⟩ := exists_checksMade kind fixture output map
  rw [hreported, Check.diagnostics, List.mem_map] at hd
  obtain ⟨c, hc, rfl⟩ := hd
  -- a line break is a control character
  have hmessage : '\n' ∉ c.message.toList := by
    intro hbreak
    exact absurd (hmade.withoutControls (List.mem_of_mem_filter hc) _ hbreak) (by decide)
  simp only [Diagnostic.line, String.toList_append, List.mem_append, hkind, hmessage, or_false]
  decide

end Verification

/-- **From a run**: a diagnostic is reported by a verification whose label has no line
    break. -/
def Diagnostic.FromRun (d : Diagnostic) : Prop :=
  ∃ kind fixture output map, '\n' ∉ kind.toList ∧ d ∈ (verify kind fixture output map).reported

namespace CommandLine

/-- What has been reported is written first, each diagnostic with a line break behind it. -/
theorem errors_outcome (result : Except Failure (Config × Summary)) (reported : List Diagnostic) :
    (outcome result reported).errors.toList =
      Text.ended (reported.map (·.line.toList)) ++ (outcome result []).errors.toList := by
  have hbreak : "\n".toList = ['\n'] := rfl
  have hshown : (String.join (reported.map fun d => d.line ++ "\n")).toList =
      Text.ended (reported.map (·.line.toList)) := by
    simp only [String.toList_join, Text.ended, List.flatMap_map, String.toList_append, hbreak]
  have hnone : String.join (([] : List Diagnostic).map fun d => d.line ++ "\n") = "" := rfl
  unfold outcome
  rw [hnone]
  cases result with
  | ok course => simp [hshown]
  | error failure =>
    cases failure with
    | usage e => cases e <;> simp [hshown]
    | variant e => simp [hshown]
    | run e => simp [hshown]

/-- **Messages are faithful**: the message of the check of a probe tells both positions and has
    no control character; every check of a probe that a verification records holds exactly when
    the JSON texts in its message are the same; and every diagnostic is written on one line, in
    front of what is written without diagnostics. -/
theorem messages_faithful :
    (∀ e o e' o', probeMessage e o = probeMessage e' o' ↔ e = e' ∧ o = o') ∧
    (∀ e o, WithoutControls (probeMessage e o).toList) ∧
    (∀ kind fixture output map, ∃ checks,
      ChecksMade fixture output map (verify kind fixture output map).result checks ∧
      (verify kind fixture output map).reported = Check.diagnostics kind checks ∧
      ∀ c ∈ checks.tail, c.Faithful) ∧
    ∀ result reported, (∀ d ∈ reported, Diagnostic.FromRun d) →
      (outcome result reported).errors.toList.splitOn '\n' =
        reported.map (·.line.toList) ++ (outcome result []).errors.toList.splitOn '\n' := by
  refine ⟨fun _ _ _ _ => probeMessage_inj, withoutControls_probeMessage, ?_, ?_⟩
  · intro kind fixture output map
    obtain ⟨checks, hmade, hreported⟩ := exists_checksMade kind fixture output map
    exact ⟨checks, hmade, hreported, hmade.faithful⟩
  · intro result reported hfrom
    have hlines : ∀ line ∈ reported.map (·.line.toList), '\n' ∉ line := by
      intro line hline
      obtain ⟨d, hd, rfl⟩ := List.mem_map.1 hline
      obtain ⟨kind, fixture, output, map, hkind, hmem⟩ := hfrom d hd
      exact not_mem_line hkind hmem
    rw [errors_outcome, Text.splitOn_ended_append hlines]

/-- A fixture whose only file has a quote, what stands between two positions and a line break
    in its name. -/
def strangeName : Fixture :=
  .ofFiles .es6 [⟨"a\"\x7d observed: \x7b\n", "\"b\""⟩] [⟨"b", "a\"\x7d observed: \x7b\n"⟩]

/-- The message of its only check, when the map has no mappings. -/
def strangeMessage : String :=
  "expected: \x7b\"source\":\"a\\\"\x7d observed: \x7b\\n\",\"line\":1,\"column\":0\x7d" ++
    " observed: \x7b\"source\":null,\"line\":null,\"column\":null\x7d"

/-- The check of the link and that of the probe do not hold. They are shown on a line each, in
    front of the line of an error by which another task ends the run. -/
theorem messages_faithful_strange_name :
    (verify "es6" strangeName "\"b\"" "\x7b\x7d").reported =
        [⟨"es6", linkMessage⟩, ⟨"es6", strangeMessage⟩] ∧
      (∀ d ∈ [(⟨"es6", linkMessage⟩ : Diagnostic), ⟨"es6", strangeMessage⟩], d.FromRun) ∧
      (outcome (.error (.run (.verification (.probeNotFound "a1" .output))))
          [⟨"es6", linkMessage⟩, ⟨"es6", strangeMessage⟩]).errors.toList.splitOn '\n' =
        ["❌ [es6] .js file links to .js.map".toList, ("❌ [es6] " ++ strangeMessage).toList,
          "Error: failed to find \"a1\" in output".toList, []] := by
  have hreported : (verify "es6" strangeName "\"b\"" "\x7b\x7d").reported =
      [⟨"es6", linkMessage⟩, ⟨"es6", strangeMessage⟩] := by
    decide +kernel
  have hfrom : ∀ d ∈ [(⟨"es6", linkMessage⟩ : Diagnostic), ⟨"es6", strangeMessage⟩],
      d.FromRun := by
    rw [← hreported]
    exact fun d hd => ⟨"es6", strangeName, "\"b\"", "\x7b\x7d", by decide, hd⟩
  have herror : (outcome (.error (.run (.verification (.probeNotFound "a1" .output))))
      []).errors.toList.splitOn '\n' = ["Error: failed to find \"a1\" in output".toList, []] := by
    decide +kernel
  refine ⟨hreported, hfrom, (messages_faithful.2.2.2 _ _ hfrom).trans ?_⟩
  rw [herror]
  rfl

end CommandLine

end MapAudit
