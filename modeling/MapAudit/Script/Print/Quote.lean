import MapAudit.Script.Raw
import MapAudit.Text.Columns

/-! # Quoted words

    A text is shown as a word of a script: between quotes, so that it can be told
    apart from what is around it and be read again as the same text.
-/

namespace MapAudit.Script

namespace Quote

/-- Whether a character can be shown as it is. -/
def isPrintable (c : Char) : Bool :=
  ' ' ≤ c && c ≤ '~'

/-- The escape of a character that cannot be shown. -/
def escapeOf (c : Char) : Raw :=
  match c with
  | '\n' => "\\n"
  | '\t' => "\\t"
  | '\r' => "\\r"
  | '\x07' => "\\a"
  | '\x08' => "\\b"
  | '\x0c' => "\\f"
  | '\x0b' => "\\v"
  | c =>
    let digits := Nat.toDigits 8 c.toNat
    '\\' :: List.replicate (3 - digits.length) '0' ++ digits

/-- Whether a character of a wide text can be shown as it is. -/
def isVisible (c : Char) : Bool :=
  if c.toNat < 0x80 then isPrintable c else !Raw.isMark c && Text.isPrinted c

/-- Whether all of a text can be shown as it is. -/
def allVisible (r : Raw) : Bool :=
  (Raw.widen r).all isVisible

/-- The parts of a text that can be shown, and those that cannot, in turn. -/
def runs (r : Raw) : List (Bool × Raw) :=
  (Raw.widen r).foldr (fun c found =>
    let here := Raw.narrowOne c
    match found with
    | (shown, run) :: rest =>
      if shown == isVisible c then (shown, here ++ run) :: rest
      else (isVisible c, here) :: (shown, run) :: rest
    | [] => [(isVisible c, here)]) []

/-- A text in single quotes. -/
def single (r : Raw) : Raw :=
  '\x27' :: r.flatMap (fun c => if c = '\x27' then ['\x27', '\\', '\x27', '\x27'] else [c])
    ++ ['\x27']

/-- A text in single quotes, with double quotes around the single ones in it. -/
def alternating (r : Raw) : Raw :=
  let parts := r.splitOn '\x27'
  let shown (i : Nat) (part : Raw) : Raw :=
    if part.isEmpty && i ≠ 0 then [] else ['\x27'] ++ part ++ ['\x27']
  let rec join : Nat → List Raw → Raw
    | _, [] => []
    | i, [part] => shown i part
    | i, part :: rest => shown i part ++ "\"'\"" ++ join (i + 1) rest
  join 0 parts

/-- A text with escapes for what cannot be shown, in quotes for such texts. -/
def escaped (r : Raw) : Raw :=
  let shown := (Raw.widen r).flatMap fun c =>
    if c = '\x27' || c = '\\' then ['\\', c]
    else if c = '\x1b' then "\\E".toList
    else if isVisible c then Raw.narrowOne c
    else (Raw.narrowOne c).flatMap escapeOf
  "$'" ++ shown ++ ['\x27']

/-- A text in quotes that it can be read again in, with escapes where it has what cannot be
    shown. -/
def reusable (r : Raw) : Raw :=
  if !allVisible r then escaped r
  else if r = ['\x27'] then ['\\', '\x27']
  else single r

/-- A text in double quotes. -/
def double (r : Raw) : Raw :=
  '"' :: r.flatMap (fun c => if ['"', '$', '\x60', '\\'].contains c then ['\\', c] else [c])
    ++ ['"']

/-- A text in double quotes, or with escapes where it has what cannot be shown. -/
def declared (r : Raw) : Raw :=
  if allVisible r then double r else escaped r

/-- A text in quotes. What cannot be shown stands in quotes of its own, as escapes;
    single quotes in a text that needs no others get double ones around it. -/
def always (r : Raw) : Raw :=
  if allVisible r then
    if r.contains '\x27' && !r.any (fun c => ['"', '$', '\x60', '\\'].contains c) then
      '"' :: r ++ ['"']
    else single r
  else
    let pieces := (runs r).map fun (shown, run) =>
      if shown then single run else "$'" ++ run.flatMap escapeOf ++ "'".toList
    let pieces := match runs r with
      | (false, _) :: _ => "''".toList :: pieces
      | _ => pieces
    pieces.flatten

/-- A text in the quotes of a printed text. -/
def curly (r : Raw) : Raw :=
  let shown := (Raw.widen r).flatMap fun c =>
    if c = '\\' then ['\\', '\\']
    else if c = '’' then '\\' :: Raw.narrowOne c
    else if isVisible c then Raw.narrowOne c
    else (Raw.narrowOne c).flatMap escapeOf
  Raw.ofText "‘" ++ shown ++ Raw.ofText "’"

/-- Whether a character means something in a script. -/
def isActive (c : Char) : Bool :=
  " \t\n!\"$&'()*;<=>?[\\^\x60|".toList.contains c

/-- A text in quotes where it needs them. -/
def asNeeded (r : Raw) : Raw :=
  if r.isEmpty || r.any isActive || !allVisible r || r = ['\x7b'] || r = ['\x7d']
      || r.head? = some '#' || r.head? = some '~' then always r
  else r

/-- A text with a backslash before what means something, or with escapes where it
    has what cannot be shown. -/
def backslashed (r : Raw) : Raw :=
  if r.isEmpty then "''"
  else if !allVisible r then escaped r
  else
    let marked := r.flatMap fun c =>
      if " \t!\"$&'()*,;<>?[\\]^\x60\x7b|\x7d".toList.contains c then ['\\', c] else [c]
    if r.head? = some '#' || r.head? = some '~' then '\\' :: marked else marked

/-- A text in single quotes where it needs them; what is assigned is shown so. -/
def assigned (r : Raw) : Raw :=
  let isBare (c : Char) : Bool :=
    c.isAlphanum || "%+,-./:=@_".toList.contains c
  if !allVisible r then escaped r else if r.all isBare then r else single r

/-- Whether a text has a character that means something in a script. -/
def isActiveText (r : Raw) : Bool :=
  let isActive (c : Char) : Bool :=
    " \t\n'\"\\|&;()<>!\x7b\x7d*[]?^$\x60".toList.contains c
  r.any isActive || r.head? = some '~' || r.head? = some '#'

/-- A text as it is shown when commands are traced. -/
def traced (r : Raw) : Raw :=
  if r.isEmpty then "''"
  else if r = ['\x27'] then ['\\', '\x27']
  else if isActiveText r then single r
  else if !allVisible r then escaped r
  else r

end Quote

end MapAudit.Script
