import MapAudit.Script.Execution.Simple
import MapAudit.Script.Regex.Reader
import MapAudit.Script.Regex.Search

/-! # Conditions between double brackets

    In the richer dialect a condition between double brackets asks about words
    that do not fall apart. A text may be compared with a pattern or searched for
    a regular expression.
-/

namespace MapAudit.Script

namespace Procedure

/-- The text of a regular expression that a word says. What is quoted stands for
    itself. -/
def regexText (e : Engine) (w : Word) : Procedure Raw := do
  let marks := Glyph.marks (← tildeWordGlyphs e (joiningArguments (← get).dialect w))
  return marks.flatMap fun (c, isQuoted) =>
    if isQuoted && ".[]()*+?\x7b\x7d|^$\\".toList.contains c then ['\\', c] else [c]

/-- Whether a text has a match of a regular expression. What was found is kept in
    a variable. -/
def isMatching (e : Engine) (r : Raw) (w : Word) : Procedure Bool := do
  let ignoresCase := (← get).isOn "nocasematch"
  match Regex.read { isExtended := true, isLenient := false } (Raw.widen (← regexText e w)) with
  | .error _ => throw (.discard 2)
  | .ok regex =>
    match regex.search? ignoresCase (Raw.widen r) with
    | none => do
      setValue "BASH_REMATCH" (.list [])
      return false
    | some found => do
      let groups := found.text :: (List.range' 1 regex.groups).map fun n =>
        (found.groups.lookup n).getD []
      setValue "BASH_REMATCH" (.list (groups.zipIdx.map fun (g, i) => (i, Raw.narrow g)))
      return true

/-- Shows a condition if the shell is to trace commands. -/
def traceCondition (e : Engine) (isNegated : Bool) (r : Raw) : Procedure Unit := do
  trace e ("[[ ".toList ++ (if isNegated then "! ".toList else []) ++ r ++ " ]]".toList)

/-- A text as it is shown in a condition. -/
def conditionPart (r : Raw) : Raw :=
  if r.isEmpty then ['\x27', '\x27'] else r

/-- The text of a pattern as it is shown in a condition. -/
def shownPattern (e : Engine) (w : Word) : Procedure Raw := do
  let marks := Glyph.marks (← tildeWordGlyphs e (joiningArguments (← get).dialect w))
  return marks.flatMap fun (c, isQuoted) => if isQuoted then ['\\', c] else [c]

/-- Whether what a word asks about the words at its sides holds. -/
def holdsBetween (e : Engine) (isNegated : Bool) (left : Word) (question : Raw) (right : Word) :
    Procedure Bool := do
  let r ← expandText e left
  if ← hasOption 'x' then
    let shownRight ← match String.ofList question with
      | "=~" => regexText e right
      | "=" | "==" | "!=" => shownPattern e right
      | _ => expandText e right
    traceCondition e isNegated
      (conditionPart r ++ ' ' :: question ++ ' ' :: conditionPart shownRight)
  match String.ofList question with
  | "=" | "==" => isMatchedBy e true r right
  | "!=" => do return !(← isMatchedBy e true r right)
  | "=~" => isMatching e r right
  | "<" | ">" | "-nt" | "-ot" | "-ef" =>
    Question.aboutTwo .bash r question (← expandText e right)
  | _ => do
    let a ← computingAs "[[" (computeText r)
    let right ← expandText e right
    let b ← computingAs "[[" (computeText right)
    match String.ofList question with
    | "-eq" => return a == b
    | "-ne" => return a != b
    | "-lt" => return a < b
    | "-le" => return a ≤ b
    | "-gt" => return b < a
    | _ => return b ≤ a

/-- Whether a condition holds, or its opposite is asked for and does not. -/
def holds (e : Engine) (isNegated : Bool) : Condition → Procedure Bool
  | .about question w => do
    let r ← expandText e w
    traceCondition e isNegated (question ++ ' ' :: conditionPart r)
    match Question.unary? .bash question with
    | some letter => Question.aboutOne .bash letter r
    | none => return !r.isEmpty
  | .between left question right => holdsBetween e isNegated left question right
  | .negation c => do return !(← holds e true c)
  | .both first second => do
    if ← holds e false first then holds e false second else return false
  | .either first second => do
    if ← holds e false first then return true else holds e false second

end Procedure

end MapAudit.Script
