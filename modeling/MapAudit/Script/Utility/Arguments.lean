import MapAudit.Script.Print.Quote
import MapAudit.Script.Shell

/-! # Arguments of utilities

    A utility is a program that comes with the machine. Its arguments are options
    and operands in any order, unless it runs another program: then the options end
    at the first operand. Two dashes end them everywhere.

    An option has a letter, a name or both. Letters can be put together behind one
    dash, and a name can be cut short as long as it is clear which one is meant. A
    value stands behind a letter or in the next argument, and behind a name and an
    equals sign or in the next argument.
-/

namespace MapAudit.Script

namespace Utility

/-- Whether an option takes a value. -/
inductive ValueRule where
  /-- It takes none. -/
  | never
  /-- It takes one. -/
  | always
  /-- It takes one if that is put right behind it. -/
  | perhaps
  deriving DecidableEq, Repr

/-- What points to the help of a utility. -/
def helpHint (name : Raw) : Raw :=
  "Try '" ++ name ++ " --help' for more information.\n".toList

/-- **Option table**: the options that a utility has. -/
structure OptionTable where
  /-- The letters of options, each with a colon behind it if the option takes a
      value, and two if it perhaps takes one. -/
  letters : String
  /-- The names of options, each with the letter that it stands for. An equals sign
      behind a name says that the option takes a value, and a question mark that it
      perhaps takes one. -/
  names : List (String × Char)
  /-- Whether the options end at the first operand. -/
  endsEarly : Bool := false
  /-- The exit status when the arguments make no sense. -/
  failure : Nat := 1
  /-- What is said then, after the complaint, by a utility with a name. -/
  hint : Raw → Raw := helpHint

/-- The letter that asks for help. -/
def helpLetter : Char := '\x01'

/-- The letter that asks for the version. -/
def versionLetter : Char := '\x02'

namespace OptionTable

/-- The rule that marks stand for. -/
def ruleOf (marks : Raw) : ValueRule :=
  match marks with
  | ':' :: ':' :: _ | '?' :: _ => .perhaps
  | ':' :: _ | '=' :: _ => .always
  | _ => .never

/-- The rule for the value of a letter. -/
def letterRule? (t : OptionTable) (c : Char) : Option ValueRule :=
  if c = ':' then none
  else match t.letters.toList.dropWhile (· ≠ c) with
    | [] => none
    | _ :: marks => some (ruleOf marks)

/-- The names with their rules and letters. -/
def entries (t : OptionTable) : List (Raw × ValueRule × Char) :=
  (t.names ++ [("help", helpLetter), ("version", versionLetter)]).map fun (name, letter) =>
    let isMark (c : Char) : Bool := c = '=' || c = '?'
    (name.toList.filter (!isMark ·), ruleOf (name.toList.filter isMark), letter)

end OptionTable

/-- **Arguments** that were read. -/
structure Arguments where
  /-- The options that were given, by their letters, each with its value. -/
  given : List (Char × Raw)
  /-- The operands. -/
  operands : List Raw

namespace Arguments

/-- Whether an option was given. -/
def has (a : Arguments) (letter : Char) : Bool :=
  (a.given.lookup letter).isSome

/-- The value of an option, which is the last one given. -/
def value? (a : Arguments) (letter : Char) : Option Raw :=
  a.given.reverse.lookup letter

/-- All values of an option. -/
def values (a : Arguments) (letter : Char) : List Raw :=
  (a.given.filter (·.1 = letter)).map (·.2)

/-- The one of some options that was given last. -/
def lastOf? (a : Arguments) (letters : String) : Option Char :=
  (a.given.reverse.find? fun (c, _) => letters.toList.contains c).map (·.1)

end Arguments

/-- Why arguments make no sense, or that something else was asked for. -/
inductive ArgumentFault where
  /-- There is no such letter. -/
  | badLetter (c : Char)
  /-- The value of a letter is missing. -/
  | letterWithout (c : Char)
  /-- There is no such name. -/
  | badName (name : Raw)
  /-- A name could be cut short from several ones. -/
  | unclear (name : Raw) (candidates : List Raw)
  /-- The value of a name is missing. -/
  | nameWithout (name : Raw)
  /-- A name takes no value. -/
  | nameWith (name : Raw)
  deriving DecidableEq, Repr

/-- What is said about a fault. -/
def ArgumentFault.message : ArgumentFault → Raw
  | .badLetter c => "invalid option -- '" ++ [c] ++ "'".toList
  | .letterWithout c => "option requires an argument -- '" ++ [c] ++ "'".toList
  | .badName name => "unrecognized option '--" ++ name ++ "'".toList
  | .unclear name candidates =>
    "option '--" ++ name ++ "' is ambiguous; possibilities:".toList
      ++ candidates.flatMap fun r => " '--".toList ++ r ++ "'".toList
  | .nameWithout name => "option '--" ++ name ++ "' requires an argument".toList
  | .nameWith name => "option '--" ++ name ++ "' doesn't allow an argument".toList

namespace OptionTable

/-- The option that a name or the start of one stands for. -/
def named (t : OptionTable) (written : Raw) (shown : Raw) :
    Except ArgumentFault (Raw × ValueRule × Char) :=
  match t.entries.find? (·.1 = written) with
  | some entry => .ok entry
  | none =>
    match t.entries.filter fun entry => written.isPrefixOf entry.1 with
    | [] => .error (.badName shown)
    | first :: others =>
      if others.all (·.2 = first.2) then .ok first
      else .error (.unclear shown ((first :: others).map (·.1)))

/-- Reads an option with a name. The answer has the arguments that are left. -/
def readName (t : OptionTable) (r : Raw) (rest : List Raw) :
    Except ArgumentFault ((Char × Raw) × List Raw) := do
  let written := r.takeWhile (· ≠ '=')
  let (name, rule, letter) ← t.named written r
  match rule, r.drop written.length with
  | .never, [] | .perhaps, [] => return ((letter, []), rest)
  | .never, _ => throw (.nameWith name)
  | _, '=' :: value => return ((letter, value), rest)
  | .always, _ =>
    match rest with
    | value :: rest => return ((letter, value), rest)
    | [] => throw (.nameWithout name)
  | .perhaps, value => return ((letter, value), rest)

/-- Reads options with letters. The answer has the arguments that are left. -/
def readLetters (t : OptionTable) : Raw → List Raw →
    Except ArgumentFault (List (Char × Raw) × List Raw)
  | [], rest => .ok ([], rest)
  | c :: more, rest =>
    match t.letterRule? c with
    | none => .error (.badLetter c)
    | some .never => do
      let (given, rest) ← readLetters t more rest
      return ((c, []) :: given, rest)
    | some .perhaps => .ok ([(c, more)], rest)
    | some .always =>
      match more, rest with
      | [], value :: rest => .ok ([(c, value)], rest)
      | [], [] => .error (.letterWithout c)
      | value, rest => .ok ([(c, value)], rest)

/-- Reads at most `n` arguments. -/
def readUpTo (t : OptionTable) : (n : Nat) → List Raw → Except ArgumentFault Arguments
  | 0, operands => .ok { given := [], operands }
  | _ + 1, [] => .ok { given := [], operands := [] }
  | _ + 1, ['-', '-'] :: operands => .ok { given := [], operands }
  | n + 1, ('-' :: '-' :: name) :: rest => do
    let (option, rest) ← t.readName name rest
    if option.1 = helpLetter || option.1 = versionLetter then
      return { given := [option], operands := [] }
    let others ← readUpTo t n rest
    return { others with given := option :: others.given }
  | n + 1, ('-' :: c :: more) :: rest => do
    let (given, rest) ← t.readLetters (c :: more) rest
    let others ← readUpTo t n rest
    return { others with given := given ++ others.given }
  | n + 1, r :: rest =>
    if t.endsEarly then .ok { given := [], operands := r :: rest }
    else do
      let others ← readUpTo t n rest
      return { others with operands := r :: others.operands }

/-- **Reading** arguments. -/
def read (t : OptionTable) (arguments : List Raw) : Except ArgumentFault Arguments :=
  t.readUpTo (arguments.length + 1) arguments

end OptionTable

open Procedure

/-! ## Complaints of utilities -/

/-- Complains in the name of the utility. -/
def tell (r : Raw) : Procedure Unit := do
  complain ((← get).name ++ ": " ++ r ++ ['\n'])

/-- Ends a utility with a status. -/
def quit {α : Type} (status : Nat) : Procedure α :=
  throw (.exit status)

/-- Complains, points to the help, and ends the utility. -/
def refuseUse {α : Type} (status : Nat) (r : Raw) : Procedure α := do
  tell r
  complain (helpHint (← get).name)
  quit status

/-- Complains and ends the utility. -/
def refuse {α : Type} (status : Nat) (r : Raw) : Procedure α := do
  tell r
  quit status

/-- Complains about what could not be done with a file. -/
def refuseFile (what : String) (file : Raw) (fault : FileFault) : Procedure Nat := do
  tell (what ++ " ".toList ++ Quote.always file ++ ": " ++ faultText fault)
  return 1

/-- Complains about a file. -/
def tellFile (file : Raw) (fault : FileFault) : Procedure Unit :=
  tell (Quote.asNeeded file ++ ": " ++ faultText fault)

/-- Reads the arguments of a utility. -/
def readArguments (t : OptionTable) (arguments : List Raw) : Procedure Arguments := do
  match t.read arguments with
  | .error fault => do
    tell fault.message
    complain (t.hint (← get).name)
    quit t.failure
  | .ok a =>
    if a.has helpLetter || a.has versionLetter then quit 0
    return a

/-- The options of a utility that has none. -/
def bareOptions : OptionTable where
  letters := ""
  names := []

/-- Refuses operands after the first `n`. -/
def refuseExtra (status n : Nat) (a : Arguments) : Procedure Unit := do
  match a.operands.drop n with
  | [] => return ()
  | r :: _ => refuseUse status ("extra operand " ++ Quote.curly r)

/-- A number in decimal digits, with blanks before it so that it is at least so
    wide. -/
def padded (width n : Nat) : Raw :=
  let digits := Raw.ofNat n
  List.replicate (width - digits.length) ' ' ++ digits

end Utility

end MapAudit.Script
