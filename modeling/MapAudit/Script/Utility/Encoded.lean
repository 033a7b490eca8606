import MapAudit.Script.Encoding
import MapAudit.Script.Utility.Lines

/-! # Encoded files

    These write files in an encoding, in lines of one width, or read what is written in
    one.
-/

namespace MapAudit.Script

namespace Utility

open Procedure

/-- The options of utilities that encode. -/
def encodingOptions : OptionTable where
  letters := "diw:"
  names := [("decode", 'd'), ("wrap=", 'w'), ("ignore-garbage", 'i')]

/-- A text in lines of a width, of which at most `n` are written. -/
def wrapped (width : Nat) : (n : Nat) → Raw → Raw
  | 0, _ => []
  | n + 1, r =>
    if r.isEmpty then [] else r.take width ++ '\n' :: wrapped width n (r.drop width)

/-- Writes a file in an encoding, or what is written in it. -/
def recode (e : Encoding) (a : Arguments) : Procedure Nat := do
  refuseExtra 1 1 a
  let width ← match a.value? 'w' with
    | none => pure 76
    | some r =>
      match amount? r with
      | some n => pure n
      | none => refuse 1 ("invalid wrap size: ".toList ++ Quote.curly r)
  let file := a.operands.headD ['-']
  match ← withOperand file drain with
  | .error .isDirectory => refuse 1 "read error: Is a directory"
  | .error fault | .ok (.error fault) => refuse 1 (Quote.asNeeded file ++ ": " ++ faultText fault)
  | .ok (.ok r) =>
    if a.has 'd' then
      let (bytes, isRight) := e.decode (a.has 'i') r
      write bytes
      if !isRight then
        flush
        refuse 1 "invalid input"
    else
      let encoded := e.encode r
      write (if width = 0 then encoded else wrapped width encoded.length encoded)
    return 0

/-- Writes a file in an encoding that is known, or what is written in it. -/
def recodeAs (e : Encoding) (arguments : List Raw) : Procedure Nat := do
  recode e (← readArguments encodingOptions arguments)

/-- The encodings that can be asked for. -/
def encodings : List (Char × String × Encoding) :=
  [('A', "base64", .base64), ('B', "base64url", .base64Names), ('C', "base32", .base32),
    ('D', "base32hex", .base32Ordered), ('E', "base16", .base16), ('F', "base2msbf", .base2),
    ('G', "base2lsbf", .base2Reversed)]

/-- Writes a file in an encoding that is asked for, or what is written in it. -/
def basenc (arguments : List Raw) : Procedure Nat := do
  let names := encodings.map fun (letter, name, _) => (name, letter)
  let a ← readArguments { encodingOptions with names := encodingOptions.names ++ names } arguments
  match (a.lastOf? "ABCDEFG").bind fun letter => encodings.lookup letter with
  | some (_, e) => recode e a
  | none => refuseUse 1 "missing encoding type"

end Utility

end MapAudit.Script
