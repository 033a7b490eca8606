import MapAudit.Script.Editing.Reader
import MapAudit.Script.Editing.Run
import MapAudit.Script.Utility.Running

/-! # The editor

    `sed` runs an edit script on files. The script comes from arguments and from
    files.
-/

namespace MapAudit.Script

namespace Utility

open Procedure

/-- The options of `sed`. -/
def sedOptions : OptionTable where
  letters := "bsnrzuEe:f:l:i::V:s"
  names := [("binary", 'b'), ("regexp-extended", 'r'), ("debug", '\x03'), ("in-place?", 'i'),
    ("expression=", 'e'), ("file=", 'f'), ("line-length=", 'l'), ("null-data", 'z'),
    ("zero-terminated", 'z'), ("quiet", 'n'), ("posix", 'p'), ("silent", 'n'), ("sandbox", '\x04'),
    ("separate", 's'), ("unbuffered", 'u'), ("follow-symlinks", 'F')]
  hint _ := "Usage: sed [OPTION]... \x7bscript-only-if-no-other-script\x7d [input-file]...\n\n"

/-- The parts of the script in the arguments, and the operands that are left. -/
def scriptParts (a : Arguments) : Procedure (List (Editing.Origin × Raw) × List Raw) := do
  let given := a.given.filter fun (c, _) => c = 'e' || c = 'f'
  if given.isEmpty then
    match a.operands with
    | [] => do
      complain (sedOptions.hint [])
      quit 1
    | r :: rest => return ([(.argument 1, r)], rest)
  let (parts, _) ← given.foldlM (fun (parts, n) (c, r) => do
    if c = 'e' then return (parts ++ [(Editing.Origin.argument n, r)], n + 1)
    match ← readOperand r with
    | .ok content => do
      let content := if content.getLast? = some '\n' then content.dropLast else content
      return (parts ++ [(.file r, content)], n)
    | .error fault => refuse 4 ("couldn't open file ".toList ++ r ++ ": ".toList ++ faultText fault))
    (([], 1) : List (Editing.Origin × Raw) × Nat)
  return (parts, a.operands)

/-- Edits the lines of files. -/
def sed (e : Engine) (arguments : List Raw) : Procedure Nat := do
  let a ← readArguments sedOptions arguments
  let (parts, files) ← scriptParts a
  let wide := parts.map fun (origin, r) => (origin, Raw.widen r)
  match Editing.Program.read (a.has 'r' || a.has 'E') (a.has '\x04') wide with
  | .error fault => do
    tell (Raw.narrow fault.text)
    return fault.status
  | .ok program => do
    if a.has 'i' && files.isEmpty then refuse 4 "no input files"
    let manner : Editing.Manner := {
      isQuiet := a.has 'n'
      isSeparate := a.has 's' || a.has 'i'
      inPlace := a.value? 'i'
      lineEnd := if a.has 'z' then '\x00' else '\n'
      width := ((a.value? 'l').map fun r => (Raw.toNat? r).getD 0).getD 70
      perform := fun command => do
        let words : List Raw := ["sh", "-c", command]
        return (← capturing e (becomeCalled e Quote.curly words)).1 }
    program.run manner (if files.isEmpty then [['-']] else files)

end Utility

end MapAudit.Script
