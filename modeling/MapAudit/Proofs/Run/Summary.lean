import MapAudit.CommandLine.Setting
import MapAudit.Proofs.Json.Pretty
import MapAudit.Proofs.Text.Lines
import MapAudit.Proofs.Text.Words
import MapAudit.Run.Summary
import Mathlib.Algebra.Order.BigOperators.Group.List
import Mathlib.Algebra.Order.Group.Nat

/-! # Texts of a summary

    A summary is written for people, or as a JSON document. Both texts tell what came out.

    * For people there is one line for each task, a rule and the line of totals. A label may
      have any words in it, those of a line as well, since a line is read from its end: behind
      the last word there is nothing, and each word but the label ends at a blank. So
      `human_text_tells_outcomes` says that the lines tell the label and the numbers of every
      task, if no label has a line break.
    * The document is written over several lines. A reader that looks its members up by their
      keys finds the totals and all reports with their checks, whatever characters the labels
      and messages have in them. `document_tells_summary` says so, and that different summaries
      have different documents. The form of the document is right for all counts. As long as
      the totals fit into a 64-bit word it is also sound: its numbers are finite, and five
      arrays and objects inside each other are few enough.
-/

namespace MapAudit

open Json (ReadsBack)

/-! ### Totals -/

namespace Summary

theorem passed_eq_sum (s : Summary) : s.passed = (s.tasks.map Report.passed).sum := by
  rw [passed, List.sum_eq_foldr, List.foldr_map]

theorem failed_eq_sum (s : Summary) : s.failed = (s.tasks.map Report.failed).sum := by
  rw [failed, List.sum_eq_foldr, List.foldr_map]

/-- No task has more checks than all of them together. -/
theorem le_totals {s : Summary} {r : Report} (h : r ∈ s.tasks) :
    r.passed ≤ s.passed ∧ r.failed ≤ s.failed := by
  rw [passed_eq_sum, failed_eq_sum]
  exact ⟨List.le_sum_of_mem (List.mem_map_of_mem h), List.le_sum_of_mem (List.mem_map_of_mem h)⟩

end Summary

open Text (digits_inj not_mem_digits spaced spaced_inj)

/-! ### Outcomes of tasks -/

/-- What the text of a summary tells of a task: its label and its numbers. -/
def Report.outcome (r : Report) : String × Nat × Nat :=
  (r.kind, r.passed, r.failed)

namespace Summary

/-! ### The line of a task -/

/-- A label behind its mark. -/
def labelText (mark : Char) (kind : String) : List Char :=
  mark :: ' ' :: '[' :: (kind.toList ++ [']'])

/-- The noun for a number of checks. -/
def checksText (n : Nat) : List Char :=
  (plural n "check" "checks").toList

/-- The line of a task, without the line break behind it. -/
def outcomeText : String × Nat × Nat → List Char
  | (kind, passed, failed) =>
    let total := passed + failed
    if failed = 0 then
      spaced (spaced (spaced (labelText '✅' kind) (Nat.toDigits 10 total)) (checksText total))
        "passed".toList
    else
      spaced (spaced (spaced (spaced (spaced (labelText '❌' kind) (Nat.toDigits 10 failed))
        "of".toList) (Nat.toDigits 10 total)) (checksText total)) "failed".toList

theorem toList_taskLine (r : Report) : (taskLine r).toList = outcomeText r.outcome ++ ['\n'] := by
  unfold taskLine outcomeText Report.outcome checksText
  dsimp only
  split
  · simp [spaced, labelText]
  · simp [spaced, labelText]

theorem head?_outcomeText (r : Report) :
    (outcomeText r.outcome).head? = some (if r.failed = 0 then '✅' else '❌') := by
  unfold outcomeText Report.outcome
  dsimp only
  split <;> rfl

theorem not_mem_checksText (n : Nat) : ' ' ∉ checksText n ∧ '\n' ∉ checksText n := by
  unfold checksText plural
  split <;> decide

theorem labelText_inj {mark : Char} {kind kind' : String} :
    labelText mark kind = labelText mark kind' ↔ kind = kind' := by
  simp [labelText, String.toList_inj]

/-- **Lines tell outcomes**: read from its end, a line has one label and one pair of numbers,
    whatever words the label has in it. -/
theorem outcomeText_injective : Function.Injective outcomeText := by
  rintro ⟨kind, passed, failed⟩ ⟨kind', passed', failed'⟩ h
  have hdigits (n : Nat) : ' ' ∉ Nat.toDigits 10 n := not_mem_digits (by decide) n
  have hchecks (n : Nat) : ' ' ∉ checksText n := (not_mem_checksText n).1
  have hpassed : ' ' ∉ "passed".toList := by decide
  have hfailed : ' ' ∉ "failed".toList := by decide
  have hof : ' ' ∉ "of".toList := by decide
  unfold outcomeText at h
  dsimp only at h
  -- the mark at the beginning tells whether checks have failed
  by_cases hzero : failed = 0
  · by_cases hzero' : failed' = 0
    · rw [if_pos hzero, if_pos hzero', spaced_inj hpassed hpassed,
        spaced_inj (hchecks _) (hchecks _), spaced_inj (hdigits _) (hdigits _), labelText_inj,
        digits_inj] at h
      obtain ⟨⟨⟨rfl, htotal⟩, -⟩, -⟩ := h
      have hsame : passed = passed' := by omega
      rw [hsame, hzero, hzero']
    · rw [if_pos hzero, if_neg hzero'] at h
      have hmark : some '✅' = some '❌' := congrArg List.head? h
      exact absurd hmark (by decide)
  · by_cases hzero' : failed' = 0
    · rw [if_neg hzero, if_pos hzero'] at h
      have hmark : some '❌' = some '✅' := congrArg List.head? h
      exact absurd hmark (by decide)
    · rw [if_neg hzero, if_neg hzero', spaced_inj hfailed hfailed,
        spaced_inj (hchecks _) (hchecks _), spaced_inj (hdigits _) (hdigits _),
        spaced_inj hof hof, spaced_inj (hdigits _) (hdigits _), labelText_inj, digits_inj,
        digits_inj] at h
      obtain ⟨⟨⟨⟨⟨rfl, rfl⟩, -⟩, htotal⟩, -⟩, -⟩ := h
      have hsame : passed = passed' := by omega
      rw [hsame]

/-! ### The lines of a text -/

/-- **Labels on one line**: no label of a task has a line break. -/
def OnOneLine (s : Summary) : Prop :=
  ∀ r ∈ s.tasks, '\n' ∉ r.kind.toList

/-- The rule between the tasks and the totals, without the line break behind it. -/
def separator : List Char :=
  "====================================".toList

theorem not_mem_outcomeText {r : Report} (h : '\n' ∉ r.kind.toList) :
    '\n' ∉ outcomeText r.outcome := by
  have hdigits (n : Nat) : '\n' ∉ Nat.toDigits 10 n := not_mem_digits (by decide) n
  have hchecks (n : Nat) : '\n' ∉ checksText n := (not_mem_checksText n).2
  unfold outcomeText Report.outcome
  dsimp only
  split <;> simp [spaced, labelText, h, hdigits, hchecks]

theorem toList_humanText (s : Summary) :
    s.humanText.toList =
      Text.ended (s.tasks.map (outcomeText ∘ Report.outcome) ++ [separator]) ++
        s.totalsLine.toList := by
  have htasks : (String.join (s.tasks.map taskLine)).toList =
      Text.ended (s.tasks.map (outcomeText ∘ Report.outcome)) := by
    simp only [String.toList_join, Text.ended, List.flatMap_map, toList_taskLine,
      Function.comp_apply]
  have hrule : rule.toList = Text.ended [separator] := rfl
  have happend (a b : List (List Char)) : Text.ended (a ++ b) = Text.ended a ++ Text.ended b :=
    List.flatMap_append
  rw [humanText, String.toList_append, String.toList_append, htasks, hrule, happend]

/-- The noun for a number of failures. -/
def failuresText (n : Nat) : List Char :=
  (plural n "failure" "failures").toList

/-- The noun for a number of tasks. -/
def tasksText (n : Nat) : List Char :=
  (plural n "task" "tasks").toList

theorem toList_totalsLine (s : Summary) :
    s.totalsLine.toList =
      "verify-source-map found ".toList ++ (Nat.toDigits 10 s.failed ++
        ' ' :: (failuresText s.failed ++ (" in ".toList ++
          (Nat.toDigits 10 s.tasks.length ++ ' ' :: tasksText s.tasks.length)))) := by
  have hwords (front failures between tasks : String) (m n : Nat) :
      (front ++ toString m ++ " " ++ failures ++ between ++ toString n ++ " " ++ tasks).toList =
        front.toList ++ (Nat.toDigits 10 m ++ ' ' :: (failures.toList ++ (between.toList ++
          (Nat.toDigits 10 n ++ ' ' :: tasks.toList)))) := by
    simp
  exact hwords _ _ _ _ _ _

theorem without_digits_nouns (n : Nat) :
    (failuresText n).any Char.isDigit = false ∧ (tasksText n).any Char.isDigit = false := by
  unfold failuresText tasksText plural
  split <;> decide

/-- **Numbers of the totals**: the failures, and the tasks. -/
theorem numbers_totalsLine (s : Summary) :
    Text.numbers s.totalsLine.toList = [s.failed, s.tasks.length] := by
  have hfront : "verify-source-map found ".toList.any Char.isDigit = false := by decide
  have hbetween : " in ".toList.any Char.isDigit = false := by decide
  have hblank : ' '.isDigit = false := by decide
  have htasks := Text.numbersFrom_without (without_digits_nouns s.tasks.length).2 []
  rw [List.append_nil] at htasks
  rw [toList_totalsLine, Text.numbers, Text.numbersFrom_without hfront,
    Text.numbersFrom_decimal _ hblank,
    Text.numbersFrom_without (without_digits_nouns s.failed).1,
    Text.numbersFrom_without hbetween, Text.numbersFrom_decimal _ hblank, htasks]
  rfl

theorem not_mem_nouns (n : Nat) : '\n' ∉ failuresText n ∧ '\n' ∉ tasksText n := by
  unfold failuresText tasksText plural
  split <;> decide

theorem not_mem_totalsLine (s : Summary) : '\n' ∉ s.totalsLine.toList := by
  have hdigits (n : Nat) : '\n' ∉ Nat.toDigits 10 n := not_mem_digits (by decide) n
  have hfront : '\n' ∉ "verify-source-map found ".toList := by decide
  have hbetween : '\n' ∉ " in ".toList := by decide
  have hblank : ¬ '\n' = ' ' := by decide
  rw [toList_totalsLine]
  simp only [List.mem_append, List.mem_cons, not_or]
  exact ⟨hfront, hdigits _, hblank, (not_mem_nouns _).1, hbetween, hdigits _, hblank,
    (not_mem_nouns _).2⟩

/-- **Lines of a text**: one for each task, the rule, and the totals. -/
theorem splitOn_humanText {s : Summary} (h : s.OnOneLine) :
    s.humanText.toList.splitOn '\n' =
      s.tasks.map (outcomeText ∘ Report.outcome) ++ [separator, s.totalsLine.toList] := by
  have hseparator : '\n' ∉ separator := by decide
  have hlines : ∀ line ∈ s.tasks.map (outcomeText ∘ Report.outcome) ++ [separator],
      '\n' ∉ line := by
    intro line hline
    rcases List.mem_append.1 hline with htask | hlast
    · obtain ⟨r, hr, rfl⟩ := List.mem_map.1 htask
      exact not_mem_outcomeText (h r hr)
    · rw [List.mem_singleton.1 hlast]
      exact hseparator
  rw [toList_humanText, Text.splitOn_ended_append hlines,
    List.splitOn_eq_singleton (not_mem_totalsLine s), List.append_assoc]
  rfl

/-- Texts with the same lines have the same outcomes of tasks. -/
theorem outcomes_eq_of_humanText {s s' : Summary} (h : s.OnOneLine) (h' : s'.OnOneLine)
    (htext : s.humanText = s'.humanText) :
    s.tasks.map Report.outcome = s'.tasks.map Report.outcome := by
  have hlines : s.tasks.map (outcomeText ∘ Report.outcome) ++ [separator, s.totalsLine.toList] =
      s'.tasks.map (outcomeText ∘ Report.outcome) ++ [separator, s'.totalsLine.toList] := by
    rw [← splitOn_humanText h, ← splitOn_humanText h', htext]
  obtain ⟨htasks, -⟩ := List.append_inj' hlines (by simp only [List.length_cons])
  rw [← List.map_map, ← List.map_map] at htasks
  exact List.map_injective_iff.2 outcomeText_injective htasks

/-- The totals count what the outcomes say, so the text is made of outcomes alone. -/
theorem humanText_congr {s s' : Summary}
    (h : s.tasks.map Report.outcome = s'.tasks.map Report.outcome) :
    s.humanText = s'.humanText := by
  have hlength : s.tasks.length = s'.tasks.length := by
    simpa using congrArg List.length h
  have hfailed : s.failed = s'.failed := by
    have hcounts := congrArg (List.map fun o : String × Nat × Nat => o.2.2) h
    rw [List.map_map, List.map_map] at hcounts
    rw [failed_eq_sum, failed_eq_sum]
    exact congrArg List.sum hcounts
  have hlines : s.tasks.map (outcomeText ∘ Report.outcome) =
      s'.tasks.map (outcomeText ∘ Report.outcome) := by
    rw [← List.map_map, ← List.map_map, h]
  apply String.toList_inj.1
  rw [toList_humanText, toList_humanText, toList_totalsLine, toList_totalsLine, hlines, hlength,
    hfailed]

/-- **Layout** of the text of a summary for people, cut at its line breaks: a line for each task,
    the rule, and the line of totals. -/
structure LaidOut (s : Summary) (lines : List (List Char)) (totals : List Char) : Prop where
  /-- Between the lines of the tasks and that of the totals stands the rule. -/
  text : (s.text .human).toList.splitOn '\n' =
    lines ++ ["====================================".toList, totals]
  /-- There is one line for each task, in the order of the tasks, and it begins with the mark
      of failure exactly when a check of the task did not hold. -/
  marks : List.Forall₂ (fun r line => line.head? = some '❌' ↔ r.failed ≠ 0) s.tasks lines
  /-- The totals show two numbers, that of all failures and that of the tasks. -/
  numbers : Text.numbers totals = [(s.tasks.map Report.failed).sum, s.tasks.length]

/-- **Texts for people tell outcomes**: the text of a summary whose labels have no line break has
    one line for each task, the rule and the line of totals; and another such summary has the
    same text exactly when its tasks have the same labels and numbers, one by one. -/
theorem human_text_tells_outcomes {s : Summary} (h : s.OnOneLine) :
    (∃ lines totals, s.LaidOut lines totals) ∧
      ∀ s' : Summary, s'.OnOneLine →
        (s.text .human = s'.text .human ↔
          s.tasks.map Report.outcome = s'.tasks.map Report.outcome) := by
  refine ⟨⟨_, _, splitOn_humanText h, ?_, ?_⟩, fun s' h' => ?_⟩
  · rw [List.forall₂_map_right_iff]
    refine List.forall₂_same.2 fun r _ => ?_
    rw [Function.comp_apply, head?_outcomeText]
    by_cases hzero : r.failed = 0 <;> simp [hzero]
  · rw [numbers_totalsLine, failed_eq_sum]
  · exact ⟨outcomes_eq_of_humanText h h', humanText_congr⟩

/-- Two tasks, whose lines say the same but for their labels. -/
def twoLabels : Summary where
  tasks := [⟨"es6", 3, 1, []⟩, ⟨"ts", 3, 1, []⟩]

/-- One task, with a label that has the line of another task in it. -/
def oneLabel : Summary where
  tasks := [⟨"es6] 1 of 4 checks failed ❌ [ts", 3, 1, []⟩]

/-- The line of one task is not taken for those of two. -/
theorem human_text_tells_outcomes_oneLabel :
    (oneLabel.OnOneLine ∧ twoLabels.OnOneLine) ∧
      (∃ lines totals, oneLabel.LaidOut lines totals) ∧
      oneLabel.text .human ≠ twoLabels.text .human := by
  have hone : oneLabel.OnOneLine := by
    unfold OnOneLine
    decide
  have htwo : twoLabels.OnOneLine := by
    unfold OnOneLine
    decide
  obtain ⟨hlaid, hsame⟩ := human_text_tells_outcomes hone
  refine ⟨⟨hone, htwo⟩, hlaid, fun h => ?_⟩
  exact absurd ((hsame twoLabels htwo).1 h) (by decide)

end Summary

open CommandLine.Setting (member? text?)

/-! ### Reading a document -/

/-- The truth value that a value is. -/
def Json.truth? : Json → Option Bool
  | .bool b => some b
  | _ => none

/-- The natural number that a value is. -/
def Json.nat? : Json → Option Nat
  | .number n => n.toNat?
  | _ => none

/-- The things that a value is a list of. -/
def Json.list? {α : Type} (read? : Json → Option α) : Json → Option (List α)
  | .array items => items.mapM read?
  | _ => none

/-- The check that a value shows. -/
def Check.ofJson? (v : Json) : Option Check := do
  let success ← member? "success" v >>= Json.truth?
  let message ← member? "message" v >>= text?
  return { success, message }

/-- The report that a value shows. -/
def Report.ofJson? (v : Json) : Option Report := do
  let kind ← member? "kind" v >>= text?
  let passed ← member? "passed" v >>= Json.nat?
  let failed ← member? "failed" v >>= Json.nat?
  let checks ← member? "checks" v >>= Json.list? Check.ofJson?
  return { kind, passed, failed, checks }

/-- The summary that a value shows. -/
def Summary.ofJson? (v : Json) : Option Summary := do
  let tasks ← member? "tasks" v >>= Json.list? Report.ofJson?
  return { tasks }

/-- **Document** of a summary: an object that shows the totals and all reports. -/
structure Summary.IsShownBy (s : Summary) (v : Json) : Prop where
  /-- The document is an object with three members, in the order of their keys. -/
  keys : ∃ members, v = .object members ∧ members.map Prod.fst = ["failed", "passed", "tasks"]
  /-- One member is the number of all checks that held. -/
  passed : member? "passed" v >>= Json.nat? = some (s.tasks.map Report.passed).sum
  /-- One is the number of those that did not. -/
  failed : member? "failed" v >>= Json.nat? = some (s.tasks.map Report.failed).sum
  /-- The last one has all reports in their order, with their checks in theirs. -/
  tasks : Summary.ofJson? v = some s

/-! ### What is read -/

theorem Json.nat?_ofNat (n : Nat) : (Json.ofNat n).nat? = some n :=
  Json.toNat?_ofNat n

/-- Things that are read one by one as they were written are read as a list. -/
theorem Json.list?_map {α : Type} {read? : Json → Option α} {write : α → Json}
    (h : ∀ a, read? (write a) = some a) (l : List α) :
    Json.list? read? (.array (l.map write)) = some l := by
  have hread : read? ∘ write = pure := funext h
  rw [Json.list?, List.mapM_map, hread]
  exact List.mapM_pure.trans (congrArg some (List.map_id l))

namespace Summary

theorem ofJson?_checkJson (c : Check) : Check.ofJson? (checkJson c) = some c := by
  simp [Check.ofJson?, checkJson, member?, List.lookup_cons, Json.truth?, text?]

theorem ofJson?_reportJson (r : Report) : Report.ofJson? (reportJson r) = some r := by
  have hchecks := Json.list?_map ofJson?_checkJson r.checks
  simp [Report.ofJson?, reportJson, member?, List.lookup_cons, Json.nat?_ofNat, text?, hchecks]

theorem ofJson?_toJson (s : Summary) : ofJson? s.toJson = some s := by
  have htasks := Json.list?_map ofJson?_reportJson s.tasks
  simp [ofJson?, toJson, member?, List.lookup_cons, htasks]

theorem isShownBy_toJson (s : Summary) : s.IsShownBy s.toJson := by
  refine ⟨⟨_, rfl, rfl⟩, ?_, ?_, ofJson?_toJson s⟩
  · have hmember : member? "passed" s.toJson = some (.ofNat s.passed) := by
      simp [toJson, member?, List.lookup_cons]
    rw [hmember, ← passed_eq_sum]
    exact Json.nat?_ofNat _
  · have hmember : member? "failed" s.toJson = some (.ofNat s.failed) := by
      simp [toJson, member?]
    rw [hmember, ← failed_eq_sum]
    exact Json.nat?_ofNat _

theorem toJson_injective : Function.Injective toJson := by
  intro s s' h
  have hread : ofJson? s.toJson = ofJson? s'.toJson := by rw [h]
  rw [ofJson?_toJson, ofJson?_toJson] at hread
  exact Option.some.inj hread

/-! ### The form of a document -/

theorem readsBack_checkJson (c : Check) : ReadsBack (checkJson c) := by
  refine .object _ ?_
  intro m hm
  simp only [List.mem_cons, List.not_mem_nil, or_false] at hm
  rcases hm with rfl | rfl
  · exact .string c.message
  · exact .bool c.success

theorem readsBack_reportJson (r : Report) : ReadsBack (reportJson r) := by
  have hchecks : ReadsBack (.array (r.checks.map checkJson)) :=
    .array _ (List.forall_mem_map.2 fun c _ => readsBack_checkJson c)
  refine .object _ ?_
  intro m hm
  simp only [List.mem_cons, List.not_mem_nil, or_false] at hm
  rcases hm with rfl | rfl | rfl | rfl
  · exact hchecks
  · exact .nat r.failed
  · exact .string r.kind
  · exact .nat r.passed

theorem readsBack_toJson (s : Summary) : ReadsBack s.toJson := by
  have htasks : ReadsBack (.array (s.tasks.map reportJson)) :=
    .array _ (List.forall_mem_map.2 fun r _ => readsBack_reportJson r)
  refine .object _ ?_
  intro m hm
  simp only [List.mem_cons, List.not_mem_nil, or_false] at hm
  rcases hm with rfl | rfl | rfl
  · exact .nat s.failed
  · exact .nat s.passed
  · exact htasks

/-! ### Sound documents -/

theorem areSound_map {α : Type} {write : α → Json} {room : Nat} {l : List α}
    (h : ∀ a ∈ l, Json.isSound room (write a) = true) :
    Json.areSound room (l.map write) = true := by
  induction l with
  | nil => rfl
  | cons a l ih =>
    have ha := h a List.mem_cons_self
    have hl := ih fun b hb => h b (List.mem_cons_of_mem a hb)
    rw [List.map_cons, Json.areSound, ha, hl]
    rfl

theorem isSound_ofNat {n : Nat} (room : Nat) (h : n < 2 ^ 64) :
    Json.isSound room (.ofNat n) = true :=
  Json.isFinite_ofNat h

theorem isSound_checkJson (room : Nat) (c : Check) :
    Json.isSound (room + 1) (checkJson c) = true := by
  simp [checkJson, Json.isSound, Json.membersAreSound, Json.memberIsSound]

theorem isSound_reportJson (room : Nat) {r : Report} (hpassed : r.passed < 2 ^ 64)
    (hfailed : r.failed < 2 ^ 64) : Json.isSound (room + 3) (reportJson r) = true := by
  have hchecks : Json.areSound (room + 1) (r.checks.map checkJson) = true :=
    areSound_map fun c _ => isSound_checkJson room c
  have hp := isSound_ofNat (room + 2) hpassed
  have hf := isSound_ofNat (room + 2) hfailed
  simp [reportJson, Json.isSound, Json.membersAreSound, Json.memberIsSound, hchecks, hp, hf]

/-- **Sound documents**: totals of a 64-bit word are few enough. -/
theorem isSound_toJson {s : Summary} (hpassed : s.passed < 2 ^ 64) (hfailed : s.failed < 2 ^ 64) :
    Json.isSound Json.maxNesting s.toJson = true := by
  have htasks : Json.areSound 125 (s.tasks.map reportJson) = true := by
    apply areSound_map
    intro r hr
    obtain ⟨hp, hf⟩ := le_totals hr
    exact isSound_reportJson 122 (Nat.lt_of_le_of_lt hp hpassed) (Nat.lt_of_le_of_lt hf hfailed)
  have hp := isSound_ofNat 126 hpassed
  have hf := isSound_ofNat 126 hfailed
  simp [toJson, Json.maxNesting, Json.isSound, Json.membersAreSound, Json.memberIsSound, htasks,
    hp, hf]

/-! ### Round trip -/

/-- **Documents tell summaries**: the text of a summary as a document is read back as an object
    that shows it, strictly if the totals fit into a 64-bit word; and no other summary has this
    text. -/
theorem document_tells_summary (s : Summary) :
    (∃ v, Json.scan? (s.text .json).toList = some v ∧ s.IsShownBy v ∧
      (s.passed < 2 ^ 64 → s.failed < 2 ^ 64 →
        Json.parse? (s.text .json).toList = some v)) ∧
    ∀ s', s.text .json = s'.text .json ↔ s = s' := by
  have hscan : ∀ s : Summary, Json.scan? (s.text .json).toList = some s.toJson :=
    fun s => Json.scan?_pretty (readsBack_toJson s)
  refine ⟨⟨s.toJson, hscan s, isShownBy_toJson s, fun hpassed hfailed => ?_⟩, fun s' => ?_⟩
  · rw [Json.parse?, hscan s, Option.filter_some, if_pos (isSound_toJson hpassed hfailed)]
  · constructor
    · intro h
      -- the same text is read as the same value
      have hvalue : some s.toJson = some s'.toJson := by rw [← hscan s, ← hscan s', h]
      exact toJson_injective (Option.some.inj hvalue)
    · rintro rfl
      rfl

/-- A summary with a label that looks like the rest of a document, and a task without checks. -/
def strangeLabels : Summary where
  tasks := [⟨"es6\"\n]", 1, 1, [⟨true, "\x01 \\"⟩, ⟨false, "é\t😀"⟩]⟩, ⟨"", 0, 0, []⟩]

/-- The document of `strangeLabels` is read strictly, and the same reports without their checks
    have another one. -/
theorem document_tells_summary_strangeLabels :
    (strangeLabels.passed < 2 ^ 64 ∧ strangeLabels.failed < 2 ^ 64) ∧
      (∃ v, Json.parse? (strangeLabels.text .json).toList = some v ∧
        strangeLabels.IsShownBy v) ∧
      strangeLabels.text .json ≠
        Summary.text ⟨strangeLabels.tasks.map fun r => ⟨r.kind, r.passed, r.failed, []⟩⟩ .json := by
  have htotals : strangeLabels.passed < 2 ^ 64 ∧ strangeLabels.failed < 2 ^ 64 := by decide
  obtain ⟨⟨v, -, hshown, hparse⟩, hsame⟩ := document_tells_summary strangeLabels
  refine ⟨htotals, ⟨v, hparse htotals.1 htotals.2, hshown⟩, fun h => ?_⟩
  exact absurd ((hsame _).1 h) (by decide)

end Summary

end MapAudit
