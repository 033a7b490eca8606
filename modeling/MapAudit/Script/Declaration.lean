import MapAudit.Script.Print.Quote
import MapAudit.Script.Shell

/-! # Declarations of variables

    In the richer dialect a variable is shown as the command that declares it: with
    letters for what is special about it, and with its value in quotes.
-/

namespace MapAudit.Script

namespace Variable

/-- The letters of what is special about a variable. -/
def letters (v : Variable) : Raw :=
  (match v.value with
    | .list _ => ['a']
    | .table _ => ['A']
    | .unset | .text _ => [])
  ++ (if v.isNumber then ['i'] else []) ++ (if v.isReference then ['n'] else [])
  ++ (if v.isReadOnly then ['r'] else []) ++ (if v.isExported then ['x'] else [])
  ++ (match v.recasing with
    | some .lower => ['l']
    | some .upper => ['u']
    | _ => [])

/-- The name of an element in a declaration. -/
def elementName (r : Raw) : Raw :=
  if !Quote.allVisible r then Quote.escaped r
  else if r = ['@'] || r = ['*'] || Quote.isActiveText r then Quote.double r
  else r

/-- The value of a variable in its declaration. -/
def declaredValue (v : Variable) : Raw :=
  let element (key r : Raw) : Raw := ['['] ++ key ++ "]=".toList ++ Quote.declared r
  match v.value with
  | .unset => []
  | .text r => Quote.declared r
  | .list elements =>
    '(' :: [' '].intercalate (elements.map fun (i, r) => element (Raw.ofNat i) r) ++ [')']
  | .table elements =>
    '(' :: elements.flatMap (fun (key, r) => element (elementName key) r ++ [' ']) ++ [')']

/-- **Declaration** of a variable. -/
def declaration (v : Variable) (name : Raw) : Raw :=
  let letters := if v.letters.isEmpty then ['-'] else v.letters
  let value := v.declaredValue
  "declare -" ++ letters ++ ' ' :: name ++ (if value.isEmpty then [] else '=' :: value)

/-- What assigns its value to a variable. -/
def assignment (v : Variable) (name : Raw) : Raw :=
  match v.value with
  | .list _ | .table _ => v.declaration name
  | .unset | .text _ =>
    let start := if v.letters.isEmpty then [] else "declare -".toList ++ v.letters ++ [' ']
    match v.text? with
    | some r => start ++ name ++ '=' :: Quote.reusable r
    | none => if start.isEmpty then [] else start ++ name

/-- The elements of a variable with their names, each in quotes that it can be read
    again in. -/
def elementPairs (v : Variable) : List (Raw × Raw) :=
  match v.value with
  | .unset => []
  | .text r => [(['0'], r)]
  | .list elements => elements.map fun (i, r) => (Raw.ofNat i, r)
  | .table elements => elements

end Variable

end MapAudit.Script
