import MapAudit.Script.Utility.Arguments

/-! # Parameters in order

    `getopt` reads the parameters of a script as its options say that are given, and
    writes them in order: options with their values, two dashes, and what is left.
-/

namespace MapAudit.Script

namespace Utility

open Procedure

/-- The options of `getopt`. -/
def getoptOptions : OptionTable where
  letters := "ao:l:n:qQs:TuhV"
  names := [("options=", 'o'), ("longoptions=", 'l'), ("quiet", 'q'), ("quiet-output", 'Q'),
    ("shell=", 's'), ("test", 'T'), ("unquoted", 'u'), ("alternative", 'a'), ("name=", 'n')]
  endsEarly := true
  failure := 2

/-- Where options can stand among other parameters. -/
inductive OptionOrder where
  /-- Anywhere; other parameters come after them. -/
  | anywhere
  /-- Before all other parameters. -/
  | first
  /-- Anywhere; other parameters keep their places. -/
  | inPlace
  deriving DecidableEq, Repr

/-- **Parameter rule**: how parameters are read and written. -/
structure ParameterRule where
  /-- The options that there are. -/
  table : OptionTable
  /-- Where they can stand. -/
  order : OptionOrder
  /-- Whether a name can follow a single dash. -/
  isLoose : Bool
  /-- Whether values are written with quotes, and for a shell of another kind. -/
  quotes : Option Bool

namespace ParameterRule

variable (p : ParameterRule)

/-- A parameter as it is written. -/
def shown (r : Raw) : Raw :=
  match p.quotes with
  | none => ' ' :: r
  | some isOther =>
    let one (c : Char) : Raw :=
      if c = '\x27' then "'\\''".toList
      else if isOther && c = '\\' then "\\\\".toList
      else if isOther && c = '!' then "'\\!'".toList
      else if isOther && c = '\n' then "\\n".toList
      else [c]
    ' ' :: '\x27' :: r.flatMap one ++ ['\x27']

/-- An option as it is written, with its value if it takes one. -/
def option (name : Raw) (rule : ValueRule) (value : Raw) : Raw :=
  ' ' :: name ++ if rule = .never then [] else p.shown value

/-- What is written of parameters. There are complaints about those that make no sense. -/
structure Sorted where
  /-- The options, in pieces. -/
  options : List Raw := []
  /-- The other parameters. -/
  others : List Raw := []
  /-- The complaints. -/
  faults : List ArgumentFault := []

/-- Reads letters behind a dash. The answer has the parameters that are left. -/
def letters (s : Sorted) : Raw → List Raw → Sorted × List Raw
  | [], rest => (s, rest)
  | c :: more, rest =>
    match p.table.letterRule? c with
    | none => letters { s with faults := s.faults ++ [.badLetter c] } more rest
    | some .never => letters { s with options := s.options ++ [p.option ['-', c] .never []] } more rest
    | some .perhaps => ({ s with options := s.options ++ [p.option ['-', c] .perhaps more] }, rest)
    | some .always =>
      match more, rest with
      | [], value :: rest =>
        ({ s with options := s.options ++ [p.option ['-', c] .always value] }, rest)
      | [], [] => ({ s with faults := s.faults ++ [.letterWithout c] }, [])
      | value, rest => ({ s with options := s.options ++ [p.option ['-', c] .always value] }, rest)

/-- Reads a name behind two dashes. -/
def name (s : Sorted) (r : Raw) (rest : List Raw) : Sorted × List Raw :=
  let written := r.takeWhile (· ≠ '=')
  match p.table.named written r, p.table.readName r rest with
  | .ok (name, rule, _), .ok ((_, value), rest) =>
    ({ s with options := s.options ++ [p.option ('-' :: '-' :: name) rule value] }, rest)
  | .error fault, _ | _, .error fault => ({ s with faults := s.faults ++ [fault] }, rest)

/-- Reads at most `n` parameters. -/
def sort : (n : Nat) → Sorted → List Raw → Sorted
  | 0, s, rest => { s with others := s.others ++ rest }
  | _ + 1, s, [] => s
  | n + 1, s, r :: rest =>
    match r with
    | ['-', '-'] => { s with others := s.others ++ rest }
    | '-' :: '-' :: name =>
      let (s, rest) := p.name s name rest
      sort n s rest
    | '-' :: c :: more =>
      let isName := p.isLoose && p.table.entries.any fun entry => (c :: more).isPrefixOf entry.1
      let (s, rest) := if isName then p.name s (c :: more) rest else p.letters s (c :: more) rest
      sort n s rest
    | r =>
      match p.order with
      | .anywhere => sort n { s with others := s.others ++ [r] } rest
      | .first => { s with others := s.others ++ r :: rest }
      | .inPlace => sort n { s with options := s.options ++ [p.shown r] } rest

end ParameterRule

/-- The names of options in a list that has commas between them. A colon behind a name says
    that the option takes a value, and two that it perhaps takes one. -/
def parameterNames (lists : List Raw) : List (String × Char) :=
  let isMark (c : Char) : Bool := c = ',' || c = ' ' || c = '\t' || c = '\n'
  let parts := lists.flatMap fun r => (r.splitBy fun c d => isMark c = isMark d)
  (parts.filter fun r => !r.any isMark).zipIdx.map fun (r, i) =>
    let name := r.takeWhile (· ≠ ':')
    let mark : Raw := match r.length - name.length with
      | 0 => []
      | 1 => ['=']
      | _ => ['?']
    (String.ofList (name ++ mark), Char.ofNat (0x100 + i))

/-- Writes parameters in order. -/
def getopt (arguments : List Raw) : Procedure Nat := do
  let isPlain : Bool := arguments.head?.any fun r => r.head? ≠ some '-'
  let a ← if isPlain then pure { given := [], operands := arguments }
    else readArguments getoptOptions arguments
  if a.has 'T' then return 4
  let (letters, parameters) ← match a.value? 'o', a.operands with
    | some r, parameters => pure (r, parameters)
    | none, r :: parameters => pure (r, parameters)
    | none, [] => do
      if a.has 'l' then pure ([], [])
      else do
        tell "missing optstring argument".toList
        complain (helpHint (← get).name)
        quit 2
  let isOther : Bool ← match (a.value? 's').map String.ofList with
    | none => pure false
    | some "sh" | some "bash" => pure false
    | some "csh" | some "tcsh" => pure true
    | some _ => do
      tell "unknown shell after -s or --shell argument".toList
      complain (helpHint (← get).name)
      quit 2
  let isFirst := letters.head? = some '+' || (← valueOf? "POSIXLY_CORRECT".toList).isSome
  let order : OptionOrder := if letters.head? = some '-' then .inPlace
    else if isFirst then .first else .anywhere
  let p : ParameterRule := {
    table := {
      letters := String.ofList (letters.dropWhile fun c => c = '+' || c = '-')
      names := parameterNames (a.values 'l') }
    order
    isLoose := a.has 'a'
    quotes := if isPlain || a.has 'u' then none else some isOther }
  let s := p.sort (parameters.length + 1) {} parameters
  let name := (a.value? 'n').getD (← get).name
  if !a.has 'q' then
    s.faults.forM fun fault => complain (name ++ ": ".toList ++ fault.message ++ ['\n'])
  if !a.has 'Q' then
    write (s.options.flatten ++ " --".toList ++ s.others.flatMap p.shown ++ ['\n'])
  return if s.faults.isEmpty then 0 else 1

end Utility

end MapAudit.Script
