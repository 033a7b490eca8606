import MapAudit.Script.Print.Escape
import MapAudit.Script.Utility.Listing
import MapAudit.Script.Utility.Moving

/-! # What is known of files

    `stat` tells what is known of files: their kind, their permissions, their size and when
    they were changed. A format says what is told and how: its directives have flags, a
    width and a precision.
-/

namespace MapAudit.Script

namespace Utility

open Procedure

/-- A directive of a format, without its letter. -/
structure StatusField where
  /-- The flags. -/
  flags : Raw
  /-- The least width. -/
  width : Nat
  /-- The precision, if one is given. Without digits behind the point there is no number. -/
  precision : Option (Option Nat)

namespace StatusField

/-- Reads the part of a directive before its letter. The answer also has the rest. -/
def read (r : Raw) : StatusField × Raw :=
  let flags := r.takeWhile fun c => "'-+ #0I".toList.contains c
  let r := r.drop flags.length
  let width := r.takeWhile Char.isDigit
  match r.drop width.length with
  | '.' :: rest =>
    let digits := rest.takeWhile Char.isDigit
    ({ flags, width := (Raw.toNat? width).getD 0, precision := some (Raw.toNat? digits) },
      rest.drop digits.length)
  | rest => ({ flags, width := (Raw.toNat? width).getD 0, precision := none }, rest)

/-- Whether there is nothing but a letter. -/
def isPlain (f : StatusField) : Bool :=
  f.flags.isEmpty && f.width = 0 && f.precision.isNone

/-- A text in its field. -/
def padded (f : StatusField) (r : Raw) : Raw :=
  let blanks := List.replicate (f.width - r.length) ' '
  if f.flags.contains '-' then r ++ blanks else blanks ++ r

/-- A text, as much of it as the precision allows. -/
def text (f : StatusField) (r : Raw) : Raw :=
  f.padded (match f.precision with
    | none => r
    | some n => r.take (n.getD 0))

/-- The digits of a number. -/
def number (f : StatusField) (digits : Raw) : Raw :=
  match f.precision with
  | some n => f.padded (List.replicate (n.getD 0 - digits.length) '0' ++ digits)
  | none =>
    if f.flags.contains '0' && !f.flags.contains '-' then
      List.replicate (f.width - digits.length) '0' ++ digits
    else f.padded digits

/-- The digits of a number with a sign. -/
def signed (f : StatusField) (n : Int) : Raw :=
  let sign : Raw := if n < 0 then ['-'] else if f.flags.contains '+' then ['+']
    else if f.flags.contains ' ' then [' '] else []
  let digits := Raw.ofNat n.natAbs
  let isFilled := f.flags.contains '0' && !f.flags.contains '-' && f.precision.isNone
  let zeros := match f.precision with
    | some n => n.getD 0 - digits.length
    | none => if isFilled then f.width - digits.length - sign.length else 0
  f.padded (sign ++ List.replicate zeros '0' ++ digits)

/-- A time in seconds, with as many digits of a fraction as the precision says. -/
def seconds (f : StatusField) (m : Moment) : Raw :=
  let places := match f.precision with
    | none => 0
    | some n => n.getD 9
  let digits := (Padding.mk (some '0') 9).number m.nanoseconds
  let fraction := if places = 0 then []
    else '.' :: (digits ++ List.replicate (places - 9) '0').take places
  let whole := { f with precision := none, width := 0 }.signed m.seconds
  let zeros := if f.flags.contains '0' && !f.flags.contains '-' then
      List.replicate (f.width - whole.length - fraction.length) '0'
    else []
  f.padded (zeros ++ whole ++ fraction)

end StatusField

/-- A file that something is told of. -/
structure StatusSubject where
  /-- The name that it was called by. -/
  name : Raw
  /-- The node. -/
  node : FileTree
  /-- A number that no other file has. -/
  identity : Nat

namespace StatusSubject

/-- The kind and the permissions of a node as a number. -/
def modeNumber : FileTree → Nat
  | .file f => 0o100000 + f.attributes.permissions
  | .directory a _ => 0o40000 + a.permissions
  | .link _ => 0o120777
  | .pipe _ => 0o10644
  | .device _ => 0o20666

/-- The numbers of a device. -/
def deviceNumbers : FileTree → Nat × Nat
  | .device .null => (1, 3)
  | .device .zero => (1, 5)
  | .device .full => (1, 7)
  | .device .noise => (1, 8)
  | .device .terminal => (5, 0)
  | _ => (0, 0)

/-- What a directive says, or nothing if it is not known. -/
def described (s : StatusSubject) (tree : FileTree) (f : StatusField) (c : Char) : Option Raw :=
  let moment := Moment.ofNanoseconds (timeOf s.node)
  let hex (n : Nat) : Raw := f.number (Nat.toDigits 16 n)
  match c with
  | 'n' => some (f.text s.name)
  | 'N' =>
    let target : Raw := match s.node with
      | .link target => " -> ".toList ++ Quote.always (Raw.ofText target.text)
      | _ => []
    some (f.text (Quote.always s.name ++ target))
  | 'a' =>
    let digits := Nat.toDigits 8 (modeNumber s.node % 4096)
    let isMarked := f.flags.contains '#' && digits ≠ ['0']
    some (f.number (if isMarked then '0' :: digits else digits))
  | 'A' => some (f.text (modeLetters s.node))
  | 'f' => some (hex (modeNumber s.node))
  | 'F' => some (f.text (kindText s.node))
  | 's' => some (f.number (Raw.ofNat (sizeOf s.node)))
  | 'b' => some (f.number (Raw.ofNat (2 * blocksOf s.node)))
  | 'B' => some (f.number (Raw.ofNat 512))
  | 'o' => some (f.number (Raw.ofNat 4096))
  | 'h' => some (f.number (Raw.ofNat (linkCount tree s.node)))
  | 'i' => some (f.number (Raw.ofNat s.identity))
  | 'd' => some (f.number (Raw.ofNat 52))
  | 'D' => some (hex 52)
  | 't' => some (hex (deviceNumbers s.node).1)
  | 'T' => some (hex (deviceNumbers s.node).2)
  | 'r' | 'R' =>
    let (high, low) := deviceNumbers s.node
    some (if c = 'r' then f.number (Raw.ofNat (256 * high + low)) else hex (256 * high + low))
  | 'u' | 'g' => some (f.number ['0'])
  | 'U' | 'G' => some (f.text "root".toList)
  | 'm' => some (f.text ['/'])
  | 'X' | 'Y' | 'Z' | 'W' => some (f.seconds moment)
  | 'x' | 'y' | 'z' | 'w' =>
    some (f.text (moment.format "UTC".toList "%Y-%m-%d %H:%M:%S.%N %z".toList))
  | _ => none

end StatusSubject

/-- Tells something of a file as at most `n` characters of a format say. -/
def tellStatus (s : StatusSubject) (tree : FileTree) (hasEscapes : Bool) : (n : Nat) → Raw →
    Procedure Unit
  | 0, _ | _, [] => return ()
  | n + 1, '%' :: rest => do
    let (f, left) := StatusField.read rest
    let directive := '%' :: rest.take (rest.length - left.length)
    match left with
    | [] | '%' :: _ => do
      if !f.isPlain then
        refuse 1 (Quote.curly (directive ++ left.take 1) ++ ": invalid directive".toList)
      write ['%']
      tellStatus s tree hasEscapes n (left.drop 1)
    | c :: left => do
      let isPart := (c = 'H' || c = 'L') && (left.head? = some 'd' || left.head? = some 'r')
      if isPart then
        let (high, low) := if left.head? = some 'd' then (0, 52)
          else StatusSubject.deviceNumbers s.node
        write (f.number (Raw.ofNat (if c = 'H' then high else low)))
        tellStatus s tree hasEscapes n (left.drop 1)
      else
        write ((s.described tree f c).getD ['?'])
        tellStatus s tree hasEscapes n left
  | n + 1, '\\' :: rest => do
    if !hasEscapes then
      write ['\\']
      tellStatus s tree hasEscapes n rest
    else match rest with
      | [] => do
        tell "warning: backslash at end of format".toList
        write ['\\']
      | c :: left => do
        let rule : EscapeRule := {
          letters := "abefnrtv\"\\".toList, hasOctal := true, hasLongOctal := false
          hasHex := true, hasUnicode := false, hasEnd := false }
        match Escape.read? rule rest with
        | some (.text r, left) => do
          write r
          tellStatus s tree hasEscapes n left
        | _ => do
          tell ("warning: unrecognized escape '\\".toList ++ [c, '\x27'])
          write [c]
          tellStatus s tree hasEscapes n left
  | n + 1, c :: rest => do
    write [c]
    tellStatus s tree hasEscapes n rest

/-- The format that is used where none is given, after the name. -/
def usualStatus (node : FileTree) : String :=
  let device := match node with
    | .device _ => "Device: %Hd,%Ld\tInode: %-10i  Links: %-5h Device type: %Hr,%Lr\n"
    | _ => "Device: %Hd,%Ld\tInode: %-10i  Links: %h\n"
  "\n  Size: %-10s\tBlocks: %-10b IO Block: %-6o %F\n" ++ device
    ++ "Access: (%04a/%10.10A)  Uid: (%5u/%8U)   Gid: (%5g/%8G)\n"
    ++ "Access: %x\nModify: %y\nChange: %z\n Birth: %w\n"

/-- The format of one line with all that is known. -/
def terseStatus : String :=
  "%n %s %b %f %u %g %D %i %h %t %T %X %Y %Z %W %o\n"

/-- The options of `stat`. -/
def statOptions : OptionTable where
  letters := "c:fLt"
  names := [("cached=", 'C'), ("dereference", 'L'), ("file-system", 'f'), ("format=", 'c'),
    ("printf=", 'P'), ("terse", 't')]

/-- A number for what a path leads to. All names of a file have the same one. -/
def identityOf (isFollowed : Bool) (name : Raw) (node : FileTree) : Procedure Nat := do
  match node with
  | .file { kinship := some n, .. } => return 10000000 + n
  | _ => do
    let located ← if isFollowed then locate name else locateName name
    let place := match located with
      | .ok location => locationText location
      | .error _ => name
    return 1000000 + Value.mixed place % 8000000

/-- Tells what is known of files. -/
def stat (arguments : List Raw) : Procedure Nat := do
  let a ← readArguments statOptions arguments
  if a.operands.isEmpty then refuseUse 1 "missing operand"
  let isFollowed := a.has 'L'
  forEach a.operands fun name => do
    let found ← if name = ['-'] then do
        match ← streamNode? 0 with
        | some node => pure (.ok node)
        | none => pure (.error FileFault.noStream)
      else if isFollowed then find name
      else findName name
    match found with
    | .error fault => refuseFile "cannot statx" name fault
    | .ok node => do
      let tree := (← get).machine.tree
      let s : StatusSubject := { name, node, identity := ← identityOf isFollowed name node }
      let put (hasEscapes : Bool) (r : Raw) : Procedure Unit :=
        tellStatus s tree hasEscapes (r.length + 1) r
      match a.lastOf? "cP" with
      | some 'P' => put true ((a.value? 'P').getD [])
      | some _ => do
        put false ((a.value? 'c').getD [])
        write ['\n']
      | none =>
        if a.has 't' then put false terseStatus.toList
        else
          let target : Raw := match node with
            | .link target => " -> ".toList ++ Raw.ofText target.text
            | _ => []
          write ("  File: ".toList ++ name ++ target)
          put false (usualStatus node).toList
      return 0

end Utility

end MapAudit.Script
