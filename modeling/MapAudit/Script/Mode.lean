import MapAudit.Files.Tree
import MapAudit.Script.Raw

/-! # Modes

    The permissions of a file are nine bits, and three more for how it is executed.
    A mode says how they change: it is a number in octal digits, or it is written
    in clauses, which say for whom something is allowed, forbidden or fixed.
-/

namespace MapAudit.Script

/-- What a step of a mode asks for. -/
inductive ModeRequest where
  /-- Some permissions. -/
  | bits (value : Nat)
  /-- Some permissions, and execution where anybody may execute already. -/
  | bitsAndPassage (value : Nat)
  /-- What some have already. -/
  | copied (fromWhom : Nat)
  deriving DecidableEq, Repr

/-- **Step** of a mode. -/
structure ModeStep where
  /-- For whom it is: the bits of their permissions, or none for everybody as far as
      it goes for new files. -/
  affected : Nat
  /-- The operator: plus, minus or an equals sign. -/
  operator : Char
  /-- What it asks for. -/
  request : ModeRequest
  /-- Whether it changes directories in all bits that it is for. -/
  isWhole : Bool
  deriving DecidableEq, Repr

/-- **Mode**: steps that are taken one after another. -/
abbrev Mode := List ModeStep

namespace Mode

/-- All bits of permissions. -/
def allBits : Nat := 0o7777

/-- The bits that a letter for somebody stands for. -/
def whom? : Char → Option Nat
  | 'u' => some 0o4700
  | 'g' => some 0o2070
  | 'o' => some 0o1007
  | 'a' => some allBits
  | _ => none

/-- The bits that a letter for a permission stands for. -/
def what? : Char → Option Nat
  | 'r' => some 0o444
  | 'w' => some 0o222
  | 'x' => some 0o111
  | 's' => some 0o6000
  | 't' => some 0o1000
  | 'X' => some 0
  | _ => none

/-- The bits that letters stand for. -/
def bitsOf (f : Char → Option Nat) (r : Raw) : Nat :=
  r.foldl (fun bits c => bits ||| (f c).getD 0) 0

/-- The number that octal digits stand for, if it has only bits of permissions. -/
def octal? (r : Raw) : Option Nat :=
  if !r.isEmpty && r.all Raw.isOctal && Raw.octalValue r ≤ allBits then some (Raw.octalValue r)
  else none

/-- Reads a step after its operator. The answer has what is left. -/
def readStep (affected : Nat) (operator : Char) (r : Raw) : Option (ModeStep × Raw) :=
  let digits := r.takeWhile Raw.isOctal
  if !digits.isEmpty then do
    let value ← octal? digits
    let rest := r.drop digits.length
    if affected ≠ 0 || !(rest.isEmpty || rest.head? = some ',') then failure
    return ({ affected := allBits, operator, request := .bits value, isWhole := true }, rest)
  else match r with
    | 'u' :: rest => some ({ affected, operator, request := .copied 0o700, isWhole := false }, rest)
    | 'g' :: rest => some ({ affected, operator, request := .copied 0o070, isWhole := false }, rest)
    | 'o' :: rest => some ({ affected, operator, request := .copied 0o007, isWhole := false }, rest)
    | r =>
      let letters := r.takeWhile fun c => (what? c).isSome
      let value := bitsOf what? letters
      let request := if letters.contains 'X' then ModeRequest.bitsAndPassage value
        else .bits value
      some ({ affected, operator, request, isWhole := false }, r.drop letters.length)

/-- Reads the steps of a clause, at most `n` of them. -/
def readSteps (affected : Nat) : (n : Nat) → Raw → Option Mode
  | 0, _ => none
  | n + 1, c :: r => do
    if !(['+', '-', '='].contains c) then failure
    let (step, rest) ← readStep affected c r
    if rest.isEmpty then return [step]
    return step :: (← readSteps affected n rest)
  | _ + 1, [] => none

/-- Reads a clause. -/
def readClause (r : Raw) : Option Mode :=
  let letters := r.takeWhile fun c => (whom? c).isSome
  readSteps (bitsOf whom? letters) (r.length + 1) (r.drop letters.length)

/-- The mode that fixes all permissions. -/
def fixed (permissions : Nat) : Mode :=
  [{ affected := allBits, operator := '=', request := .bits permissions, isWhole := false }]

/-- The mode that a text says. -/
def ofRaw? (r : Raw) : Option Mode :=
  match r with
  | [] => none
  | c :: _ =>
    if Raw.isOctal c then do
      let value ← octal? r
      return (fixed value).map fun step => { step with isWhole := 5 ≤ r.length }
    else (r.splitOn ',').foldlM (fun mode clause => do return mode ++ (← readClause clause)) []

/-- The permissions of a directory that a step leaves alone, as it does not mention
    them. -/
def spared (isDirectory : Bool) (step : ModeStep) (value : Nat) : Nat :=
  if !isDirectory || step.isWhole then 0
  else
    let mentioned := if step.affected = 0 then value else step.affected &&& value
    0o6000 &&& (allBits ^^^ mentioned)

/-- The permissions after a step. -/
def afterStep (isDirectory : Bool) (mask : Nat) (permissions : Nat) (step : ModeStep) : Nat :=
  let asked := match step.request with
    | .bits value => value
    | .bitsAndPassage value =>
      if isDirectory || permissions &&& 0o111 ≠ 0 then value ||| 0o111 else value
    | .copied fromWhom =>
      let theirs := permissions &&& fromWhom
      (if theirs &&& 0o444 ≠ 0 then 0o444 else 0) ||| (if theirs &&& 0o222 ≠ 0 then 0o222 else 0)
        ||| (if theirs &&& 0o111 ≠ 0 then 0o111 else 0)
  let kept := spared isDirectory step asked
  let reach := if step.affected = 0 then allBits ^^^ (mask &&& allBits) else step.affected
  let value := asked &&& reach &&& (allBits ^^^ kept)
  match step.operator with
  | '+' => permissions ||| value
  | '-' => permissions &&& (allBits ^^^ value)
  | _ =>
    let preserved := (if step.affected = 0 then 0 else allBits ^^^ step.affected) ||| kept
    (permissions &&& preserved) ||| value

/-- **Applying** a mode to permissions. -/
def apply (mode : Mode) (isDirectory : Bool) (mask permissions : Nat) : Nat :=
  mode.foldl (afterStep isDirectory mask) permissions

/-! ## Writing -/

/-- The letters of permissions. -/
def letters (permissions : Nat) : Raw :=
  let bit (n : Nat) (c : Char) : Char := if permissions.testBit n then c else '-'
  let passage (n special : Nat) (both alone : Char) : Char :=
    match permissions.testBit special, permissions.testBit n with
    | true, true => both
    | true, false => alone
    | false, true => 'x'
    | false, false => '-'
  [bit 8 'r', bit 7 'w', passage 6 11 's' 'S', bit 5 'r', bit 4 'w', passage 3 10 's' 'S',
    bit 2 'r', bit 1 'w', passage 0 9 't' 'T']

/-- The octal digits of permissions. -/
def digits (permissions : Nat) : Raw :=
  let r := Nat.toDigits 8 permissions
  List.replicate (4 - r.length) '0' ++ r

/-- Permissions in digits and letters. -/
def text (permissions : Nat) : Raw :=
  digits permissions ++ " (".toList ++ letters permissions ++ [')']

end Mode

end MapAudit.Script
